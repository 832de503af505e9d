import FieldSearch.Sql.Condition
import Mathlib.Data.List.Basic

namespace FieldSearch.Sql

/-!
# The structure of conditions

* `Condition.induction` is induction on conditions, from the items of a group to the group;
* `Condition.expr_join` says that a condition that joins items stands for the chain of their
  expressions, whether an item is taken out of its group or not;
* `Condition.atoms` lists the atoms of a condition from left to right, and `Condition.atoms_symbols`
  says that its symbols have them in this order;
* `Condition.map` changes the atoms of a condition, and `Condition.symbols_map` says that its
  symbols are changed likewise, as long as comparisons stay comparisons.
-/

namespace Condition

/-- Induction on conditions: a group has what all of its items have. -/
@[induction_eliminator] theorem induction {P : Condition → Prop} (atom : ∀ a, P (atom a))
    (group : ∀ c items, (∀ item ∈ items, P item) → P (group c items)) (c : Condition) : P c :=
  @Condition.rec P (fun items => ∀ item ∈ items, P item) atom group
    (fun _ h => absurd h List.not_mem_nil)
    (fun _ _ head tail _ h => (List.mem_cons.1 h).elim (fun e => e ▸ head) (tail _)) c

/-- Taking the item out of a group that has just one keeps the expression. -/
theorem expr_splice (c : Condition) : c.splice.expr = c.expr := by
  unfold splice
  split <;> rfl

/-- A condition that joins items stands for the chain of their expressions. -/
theorem expr_join (c : Connective) (items : List Condition) :
    (join c items).expr = .chain c (items.map expr) := by
  rw [join, expr, exprs_eq_map, List.map_map]
  congr 1
  exact List.map_congr_left fun item _ => expr_splice item

end Condition

/-! ### Atoms -/

/-- The atom that a symbol stands for. -/
def Symbol.atom? : Symbol → Option Atom
  | atom a => some a
  | _ => none

namespace Expr

/-- The atoms of an expression, from left to right. -/
def atoms : Expr → List Atom
  | constant _ => []
  | atom a => [a]
  | binary _ l r => l.atoms ++ r.atoms

/-- Expressions joined from the left have the atoms of all of them. -/
theorem atoms_foldl (c : Connective) (e : Expr) (es : List Expr) :
    (es.foldl (.binary c) e).atoms = e.atoms ++ es.flatMap atoms := by
  -- what is joined so far is the first expression of the rest
  induction es generalizing e with
  | nil => simp
  | cons e' es ih => rw [List.foldl_cons, ih, atoms, List.flatMap_cons, List.append_assoc]

/-- A chain has the atoms of all of its parts. -/
theorem atoms_chain (c : Connective) (es : List Expr) : (chain c es).atoms = es.flatMap atoms := by
  cases es with
  | nil => rfl
  | cons e es => rw [chain, atoms_foldl, List.flatMap_cons]

/-- Parentheses are no atoms. -/
theorem filterMap_atom_enclose (bare : Bool) (s : List Symbol) :
    (enclose bare s).filterMap Symbol.atom? = s.filterMap Symbol.atom? := by
  cases bare with
  | true => rfl
  | false =>
    rw [enclose, if_neg (by decide), List.cons_append, List.filterMap_cons, List.filterMap_append]
    simp [Symbol.atom?]

/-- The symbols of an expression have its atoms in their order. -/
theorem atoms_symbols (e : Expr) : e.symbols.filterMap Symbol.atom? = e.atoms := by
  induction e with
  | constant b => rfl
  | atom a => rfl
  | binary c l r ihl ihr =>
    rw [symbols, List.filterMap_append, List.filterMap_cons, filterMap_atom_enclose,
      filterMap_atom_enclose, ihl, ihr]
    rfl

end Expr

namespace Condition

mutual

/-- The atoms of a condition, from left to right. -/
def atoms : Condition → List Atom
  | atom a => [a]
  | group _ items => allAtoms items

/-- The atoms of several conditions, from left to right. -/
def allAtoms : List Condition → List Atom
  | [] => []
  | c :: cs => atoms c ++ allAtoms cs

end

/-- The atoms of several conditions are those of each of them, in order. -/
theorem allAtoms_eq (cs : List Condition) : allAtoms cs = cs.flatMap atoms := by
  induction cs with
  | nil => rfl
  | cons c cs ih => simp [allAtoms, ih]

/-- An atom has no other atoms. -/
@[simp] theorem atoms_atom (a : Atom) : (atom a).atoms = [a] := rfl

/-- The atoms of a group are those of its items, in order. -/
@[simp] theorem atoms_group (c : Connective) (items : List Condition) :
    (group c items).atoms = items.flatMap atoms := allAtoms_eq items

/-- Taking the item out of a group that has just one keeps the atoms. -/
theorem atoms_splice (c : Condition) : c.splice.atoms = c.atoms := by
  unfold splice
  split <;> simp

/-- A condition that joins items has their atoms. -/
@[simp] theorem atoms_join (c : Connective) (items : List Condition) :
    (join c items).atoms = items.flatMap atoms := by
  rw [join, atoms_group, List.flatMap_map]
  exact List.flatMap_congr fun item _ => atoms_splice item

/-- The expression of a condition has its atoms. -/
theorem atoms_expr (c : Condition) : c.expr.atoms = c.atoms := by
  induction c with
  | atom a => rfl
  | group c items ih =>
    rw [expr, Expr.atoms_chain, exprs_eq_map, List.flatMap_map, atoms_group]
    exact List.flatMap_congr ih

/-- The symbols of a condition have its atoms in their order. -/
theorem atoms_symbols (c : Condition) : c.symbols.filterMap Symbol.atom? = c.atoms := by
  rw [symbols, Expr.atoms_symbols, atoms_expr]

end Condition

/-! ### Changing the atoms -/

/-- The symbol with its atom changed. -/
def Symbol.map (f : Atom → Atom) : Symbol → Symbol
  | atom a => atom (f a)
  | s => s

namespace Expr

/-- The expression with its atoms changed. -/
def map (f : Atom → Atom) : Expr → Expr
  | constant b => constant b
  | atom a => atom (f a)
  | binary c l r => binary c (l.map f) (r.map f)

/-- A chain is changed part by part. -/
theorem map_chain (f : Atom → Atom) (c : Connective) (es : List Expr) :
    (chain c es).map f = chain c (es.map (map f)) := by
  cases es with
  | nil => rfl
  | cons e es =>
    rw [chain, List.map_cons, chain]
    -- the expression on the left grows with each step
    induction es generalizing e with
    | nil => rfl
    | cons e' es ih => rw [List.foldl_cons, ih, List.map_cons, List.foldl_cons, map]

/-- What is put in parentheses is changed inside them. -/
theorem map_enclose (f : Atom → Atom) (bare : Bool) (s : List Symbol) :
    (enclose bare s).map (Symbol.map f) = enclose bare (s.map (Symbol.map f)) := by
  cases bare with
  | true => rfl
  | false => simp [enclose, Symbol.map]

variable {f : Atom → Atom} (hf : ∀ a, (atom (f a)).isSimple = (atom a).isSimple)

include hf

/-- An expression with its atoms changed is simple exactly if the expression is. -/
theorem isSimple_map (e : Expr) : (e.map f).isSimple = e.isSimple := by
  cases e with
  | constant b => rfl
  | atom a => exact hf a
  | binary c l r => rfl

/-- An expression with its atoms changed can stand on the left of an operator exactly if the
    expression can. -/
theorem isLeftOperand_map (e : Expr) (c : Connective) :
    (e.map f).isLeftOperand c = e.isLeftOperand c := by
  cases e with
  | constant b => rfl
  | atom a => exact hf a
  | binary c' l r => rfl

/-- The symbols of an expression are changed with it. -/
theorem symbols_map (e : Expr) : (e.map f).symbols = e.symbols.map (Symbol.map f) := by
  induction e with
  | constant b => rfl
  | atom a => rfl
  | binary c l r ihl ihr =>
    -- where parentheses stand depends on which atoms are comparisons, and that is kept
    rw [map, symbols, isLeftOperand_map hf, isSimple_map hf, ihl, ihr, symbols, List.map_append,
      List.map_cons, map_enclose, map_enclose]
    rfl

end Expr

namespace Condition

mutual

/-- The condition with its atoms changed. -/
def map (f : Atom → Atom) : Condition → Condition
  | atom a => atom (f a)
  | group c items => group c (mapAll f items)

/-- Several conditions with their atoms changed. -/
def mapAll (f : Atom → Atom) : List Condition → List Condition
  | [] => []
  | c :: cs => map f c :: mapAll f cs

end

/-- Changing the atoms of several conditions changes those of each of them. -/
theorem mapAll_eq_map (f : Atom → Atom) (cs : List Condition) : mapAll f cs = cs.map (map f) := by
  induction cs with
  | nil => rfl
  | cons c cs ih => simp [mapAll, ih]

/-- A condition that is an atom is changed as the atom is. -/
@[simp] theorem map_atom (f : Atom → Atom) (a : Atom) : (atom a).map f = atom (f a) := rfl

/-- A group is changed item by item. -/
@[simp] theorem map_group (f : Atom → Atom) (c : Connective) (items : List Condition) :
    (group c items).map f = group c (items.map (map f)) := by
  rw [map, mapAll_eq_map]

/-- The item of a group that has just one can be changed before or after it is taken out. -/
theorem splice_map (f : Atom → Atom) (c : Condition) : (c.map f).splice = c.splice.map f := by
  cases c with
  | atom a => rfl
  | group c items =>
    -- only a group of exactly one item is taken apart, and the number of items stays
    rw [map_group]
    obtain _ | ⟨item, _ | ⟨item', items⟩⟩ := items
    · rfl
    · rfl
    · exact (map_group f c (item :: item' :: items)).symm

/-- A condition that joins items is changed item by item. -/
@[simp] theorem map_join (f : Atom → Atom) (c : Connective) (items : List Condition) :
    (join c items).map f = join c (items.map (map f)) := by
  rw [join, join, map_group, List.map_map, List.map_map]
  congr 1
  exact List.map_congr_left fun item _ => (splice_map f item).symm

/-- The expression of a condition is changed with it. -/
theorem expr_map (f : Atom → Atom) (c : Condition) : (c.map f).expr = c.expr.map f := by
  induction c with
  | atom a => rfl
  | group c items ih =>
    rw [map_group, expr, expr, exprs_eq_map, exprs_eq_map, Expr.map_chain, List.map_map,
      List.map_map]
    congr 1
    exact List.map_congr_left ih

/-- The symbols of a condition are changed with it, if comparisons stay comparisons. -/
theorem symbols_map {f : Atom → Atom} (hf : ∀ a, (Expr.atom (f a)).isSimple = (Expr.atom a).isSimple)
    (c : Condition) : (c.map f).symbols = c.symbols.map (Symbol.map f) := by
  rw [symbols, expr_map, Expr.symbols_map hf, symbols]

end Condition

end FieldSearch.Sql
