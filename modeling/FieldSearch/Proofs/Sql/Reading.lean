import FieldSearch.Proofs.Sql.Truth

namespace FieldSearch.Sql

/-!
# Reading conditions

How a database reads the symbols of a condition: *and* binds tighter than *or*, and parentheses
come first.

* `Reads` is the grammar with the value of what is read, under an assignment to the atoms;
* `Reads.unique` says that symbols have no second reading with another value;
* `Expr.reads_symbols` says that the symbols of an expression are read with its value, so that the
  parentheses that are left out do not matter;
* `Condition.reads_symbols_iff` concludes that a condition is read with its value and no other.
-/

/-- What symbols can stand for, from what binds tightest. -/
inductive Level where
  | operand
  | conjunction
  | disjunction

/-- Symbols that stand for an operand, a conjunction or a disjunction, and their value. -/
inductive Reads (v : Atom → Truth) : Level → List Symbol → Truth → Prop
  | atom (a : Atom) : Reads v .operand [.atom a] (v a)
  | constant (b : Bool) : Reads v .operand [.constant b] (.ofBool b)
  | parentheses {s : List Symbol} {x : Truth} (inner : Reads v .disjunction s x) :
      Reads v .operand (.openParen :: s ++ [.closeParen]) x
  | operand {s : List Symbol} {x : Truth} (only : Reads v .operand s x) :
      Reads v .conjunction s x
  | and {s s' : List Symbol} {x y : Truth} (left : Reads v .conjunction s x)
      (right : Reads v .operand s' y) :
      Reads v .conjunction (s ++ .connective .and :: s') (x.and y)
  | conjunction {s : List Symbol} {x : Truth} (only : Reads v .conjunction s x) :
      Reads v .disjunction s x
  | or {s s' : List Symbol} {x y : Truth} (left : Reads v .disjunction s x)
      (right : Reads v .conjunction s' y) :
      Reads v .disjunction (s ++ .connective .or :: s') (x.or y)

/-! ### Symbols have one reading -/

/-- What has been read of the text between two parentheses: the conjunctions that are complete,
    joined, and the operands of the one that is not, joined. -/
structure Frame where
  complete : Truth := .no
  current : Truth := .yes

/-- The value of all that has been read between two parentheses. -/
def Frame.value (f : Frame) : Truth := f.complete.or f.current

/-- The frame after one more operand. -/
def Frame.add (f : Frame) (x : Truth) : Frame := { f with current := f.current.and x }

/-- Reads a symbol in the innermost frame, with the outer ones around it. -/
def Frame.step (v : Atom → Truth) : Frame × List Frame → Symbol → Frame × List Frame
  | (f, outer), .atom a => (f.add (v a), outer)
  | (f, outer), .constant b => (f.add (.ofBool b), outer)
  | (f, outer), .connective .and => (f, outer)
  | (f, outer), .connective .or => ({ complete := f.value }, outer)
  | (f, outer), .openParen => ({}, f :: outer)
  | (f, g :: outer), .closeParen => (g.add f.value, outer)
  | (f, []), .closeParen => (f, [])

/-- Two operands in a row count as their conjunction. -/
theorem Frame.add_add (f : Frame) (x y : Truth) : (f.add x).add y = f.add (x.and y) := by
  simp [add, Truth.and_assoc]

/-- What reading symbols from left to right does to the frames: an operand or a conjunction is added
    to the innermost one, a disjunction fills one that has no open conjunction. -/
def Level.Scans (v : Atom → Truth) (s : List Symbol) (x : Truth) : Level → Prop
  | .operand => ∀ f outer, s.foldl (Frame.step v) (f, outer) = (f.add x, outer)
  | .conjunction => ∀ f outer, s.foldl (Frame.step v) (f, outer) = (f.add x, outer)
  | .disjunction => ∀ a outer, ∃ g : Frame,
      s.foldl (Frame.step v) ({ complete := a }, outer) = (g, outer) ∧ g.value = a.or x

/-- What symbols stand for is what reading them from left to right gives. -/
theorem Reads.scans {v : Atom → Truth} {l : Level} {s : List Symbol} {x : Truth}
    (h : Reads v l s x) : l.Scans v s x := by
  induction h with
  | atom a => exact fun f outer => rfl
  | constant b => exact fun f outer => rfl
  | parentheses _ ih =>
    -- while the inner symbols are read, the frame around them waits
    intro f outer
    obtain ⟨g, hg, hvalue⟩ := ih .no (f :: outer)
    rw [Truth.no_or] at hvalue
    rw [List.cons_append, List.foldl_cons, List.foldl_append]
    have hopen : Frame.step v (f, outer) .openParen = ({ complete := .no }, f :: outer) := rfl
    rw [hopen, hg, ← hvalue]
    rfl
  | operand _ ih => exact ih
  | and _ _ ihl ihr =>
    intro f outer
    rw [List.foldl_append, List.foldl_cons, ihl f outer]
    -- behind the connective the next operand is added to the same conjunction
    have hand (g : Frame) : Frame.step v (g, outer) (.connective .and) = (g, outer) := rfl
    rw [hand, ihr, Frame.add_add]
  | conjunction _ ih =>
    intro a outer
    refine ⟨_, ih _ outer, ?_⟩
    simp [Frame.add, Frame.value]
  | @or s s' x y _ _ ihl ihr =>
    -- the connective completes the frame, and the right side is read in a new one
    intro a outer
    obtain ⟨g, hg, hvalue⟩ := ihl a outer
    refine ⟨Frame.add { complete := g.value } y, ?_, ?_⟩
    · rw [List.foldl_append, List.foldl_cons, hg]
      exact ihr _ outer
    · rw [Frame.value, hvalue, ← Truth.or_assoc]
      simp [Frame.add]

/-- Symbols that are read as a disjunction have one value. -/
theorem Reads.unique {v : Atom → Truth} {s : List Symbol} {x y : Truth}
    (hx : Reads v .disjunction s x) (hy : Reads v .disjunction s y) : x = y := by
  -- both values are that of the outermost frame after the last symbol
  obtain ⟨f, hf, hfx⟩ := hx.scans .no []
  obtain ⟨g, hg, hgy⟩ := hy.scans .no []
  rw [hf, Prod.mk.injEq] at hg
  rw [Truth.no_or] at hfx hgy
  rw [← hfx, ← hgy, hg.1]

/-! ### Expressions are read with their value -/

/-- What a connective joins. -/
def Connective.level : Connective → Level
  | .and => .conjunction
  | .or => .disjunction

/-- What an expression stands for without parentheses. -/
def Expr.level : Expr → Level
  | binary c _ _ => c.level
  | _ => .operand

/-- An operand can stand alone where a connective joins several. -/
theorem Reads.lift {v : Atom → Truth} {s : List Symbol} {x : Truth} (h : Reads v .operand s x)
    (c : Connective) : Reads v c.level s x := by
  cases c with
  | and => exact .operand h
  | or => exact .conjunction (.operand h)

/-- Whatever stands for a value can stand where a disjunction is read. -/
theorem Reads.disjunction {v : Atom → Truth} {l : Level} {s : List Symbol} {x : Truth}
    (h : Reads v l s x) : Reads v .disjunction s x := by
  cases l with
  | operand => exact .conjunction (.operand h)
  | conjunction => exact .conjunction h
  | disjunction => exact h

/-- A connective joins what it has joined already with one more operand. -/
theorem Reads.connective {v : Atom → Truth} {c : Connective} {s s' : List Symbol} {x y : Truth}
    (left : Reads v c.level s x) (right : Reads v .operand s' y) :
    Reads v c.level (s ++ .connective c :: s') (c.apply x y) := by
  cases c with
  | and => exact .and left right
  | or => exact .or left (.operand right)

namespace Expr

/-- An expression that is simple is an operand. -/
theorem level_of_isSimple {e : Expr} (h : e.isSimple = true) : e.level = .operand := by
  cases e with
  | constant b => rfl
  | atom a => rfl
  | binary c l r => exact absurd h (by simp [isSimple])

/-- On the right of a connective stands an operand. -/
theorem reads_right {v : Atom → Truth} {e : Expr} {x : Truth} (h : Reads v e.level e.symbols x) :
    Reads v .operand (enclose e.isSimple e.symbols) x := by
  by_cases hsimple : e.isSimple = true
  · rw [hsimple, enclose, if_pos rfl, ← level_of_isSimple hsimple]
    exact h
  · -- in parentheses everything is an operand
    rw [enclose, if_neg hsimple]
    exact .parentheses h.disjunction

/-- On the left of a connective stands an operand or a chain of the same connective. -/
theorem reads_left {v : Atom → Truth} {e : Expr} {x : Truth} (h : Reads v e.level e.symbols x)
    (c : Connective) : Reads v c.level (enclose (e.isLeftOperand c) e.symbols) x := by
  by_cases hleft : e.isLeftOperand c = true
  · rw [hleft, enclose, if_pos rfl]
    cases e with
    | constant b => exact h.lift c
    | atom a => exact h.lift c
    | binary c' l r =>
      -- without parentheses only the same connective can stand there
      obtain rfl : c' = c := by simpa [isLeftOperand] using hleft
      exact h
  · rw [enclose, if_neg hleft]
    exact (Reads.parentheses h.disjunction).lift c

/-- The symbols of an expression are read with its value. -/
theorem reads_symbols (v : Atom → Truth) (e : Expr) :
    Reads v e.level e.symbols (e.truth v) := by
  induction e with
  | constant b => exact .constant b
  | atom a => exact .atom a
  | binary c l r ihl ihr => exact (reads_left ihl c).connective (reads_right ihr)

end Expr

/-- The symbols of a condition are read with its value, and with no other. -/
theorem Condition.reads_symbols_iff (v : Atom → Truth) (c : Condition) (x : Truth) :
    Reads v .disjunction c.symbols x ↔ x = c.truth v := by
  -- the value is read, and no other can be
  have h : Reads v .disjunction c.symbols (c.truth v) := by
    rw [← truth_expr]
    exact (c.expr.reads_symbols v).disjunction
  constructor
  · intro hx
    exact hx.unique h
  · rintro rfl
    exact h

end FieldSearch.Sql
