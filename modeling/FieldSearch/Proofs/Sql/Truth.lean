import FieldSearch.Proofs.Sql.Structure

namespace FieldSearch.Sql

/-!
# Truth values of SQL

A condition is true, false or null.  A row passes if its condition is true.

* `Truth` has the three values, `Truth.and` and `Truth.or` the operators on them;
* `Connective.apply` is the operator of a connective, and `Connective.applyAll` joins any number of
  values with it; joining nothing gives true for *and* and false for *or*;
* `Expr.truth` and `Condition.truth` are the values of expressions and conditions under an
  assignment to their atoms, and `Condition.truth_expr` says that a condition has the value of the
  expression that it stands for.
-/

/-- A truth value of SQL.  Null is `unknown`. -/
inductive Truth where
  | no
  | unknown
  | yes
deriving DecidableEq

namespace Truth

/-- The value of a constant. -/
def ofBool : Bool → Truth
  | true => yes
  | false => no

/-- False if one side is, true if both sides are, and null otherwise. -/
def and : Truth → Truth → Truth
  | no, _ => no
  | _, no => no
  | yes, yes => yes
  | _, _ => unknown

/-- True if one side is, false if both sides are, and null otherwise. -/
def or : Truth → Truth → Truth
  | yes, _ => yes
  | _, yes => yes
  | no, no => no
  | _, _ => unknown

/-- All of the values hold. -/
def all (xs : List Truth) : Truth := xs.foldr and yes

/-- One of the values holds. -/
def any (xs : List Truth) : Truth := xs.foldr or no

@[simp] theorem yes_and (x : Truth) : yes.and x = x := by cases x <;> rfl

@[simp] theorem and_yes (x : Truth) : x.and yes = x := by cases x <;> rfl

@[simp] theorem no_or (x : Truth) : no.or x = x := by cases x <;> rfl

@[simp] theorem or_no (x : Truth) : x.or no = x := by cases x <;> rfl

theorem and_assoc (x y z : Truth) : (x.and y).and z = x.and (y.and z) := by
  cases x <;> cases y <;> cases z <;> rfl

theorem or_assoc (x y z : Truth) : (x.or y).or z = x.or (y.or z) := by
  cases x <;> cases y <;> cases z <;> rfl

/-- Without null, one of the values holds if one of them is true. -/
theorem any_ofBool {α : Type} (xs : List α) (p : α → Bool) :
    any (xs.map fun x => ofBool (p x)) = ofBool (xs.any p) := by
  induction xs with
  | nil => rfl
  | cons x xs ih =>
    rw [List.map_cons, List.any_cons]
    -- both sides go through the values from the left
    show (ofBool (p x)).or (any (xs.map fun x => ofBool (p x))) = _
    rw [ih]
    cases p x <;> cases xs.any p <;> rfl

/-- Without null, all of the values hold if each of them is true. -/
theorem all_ofBool {α : Type} (xs : List α) (p : α → Bool) :
    all (xs.map fun x => ofBool (p x)) = ofBool (xs.all p) := by
  induction xs with
  | nil => rfl
  | cons x xs ih =>
    rw [List.map_cons, List.all_cons]
    show (ofBool (p x)).and (all (xs.map fun x => ofBool (p x))) = _
    rw [ih]
    cases p x <;> cases xs.all p <;> rfl

/-- Only the constant true is true. -/
theorem ofBool_eq_yes_iff {b : Bool} : ofBool b = yes ↔ b = true := by
  cases b <;> decide

/-- A conjunction is true if both of its sides are. -/
theorem and_eq_yes_iff {x y : Truth} : x.and y = yes ↔ x = yes ∧ y = yes := by
  cases x <;> cases y <;> decide

/-- A disjunction is true if one of its sides is. -/
theorem or_eq_yes_iff {x y : Truth} : x.or y = yes ↔ x = yes ∨ y = yes := by
  cases x <;> cases y <;> decide

/-- One of the values holds if it is true, whatever the others are. -/
theorem any_eq_yes_iff {xs : List Truth} : any xs = yes ↔ yes ∈ xs := by
  induction xs with
  | nil => decide
  | cons x xs ih =>
    show x.or (any xs) = yes ↔ _
    rw [or_eq_yes_iff, ih, List.mem_cons, eq_comm]

/-- A conjunction is true only if its left side is. -/
theorem eq_yes_of_and {x y : Truth} (h : x.and y = yes) : x = yes := (and_eq_yes_iff.1 h).1

end Truth

/-! ### Connectives -/

namespace Connective

/-- The operator of a connective. -/
def apply : Connective → Truth → Truth → Truth
  | .and => Truth.and
  | .or => Truth.or

/-- Any number of values, joined by a connective. -/
def applyAll : Connective → List Truth → Truth
  | .and => Truth.all
  | .or => Truth.any

/-- The value that joins nothing is neutral on the right. -/
theorem apply_unit (c : Connective) (x : Truth) : c.apply x (Truth.ofBool c.unit) = x := by
  cases c <;> cases x <;> rfl

/-- A connective is associative. -/
theorem apply_assoc (c : Connective) (x y z : Truth) :
    c.apply (c.apply x y) z = c.apply x (c.apply y z) := by
  cases c
  · exact Truth.and_assoc x y z
  · exact Truth.or_assoc x y z

/-- Joining nothing gives the neutral value. -/
theorem applyAll_nil (c : Connective) : c.applyAll [] = Truth.ofBool c.unit := by
  cases c <;> rfl

/-- The first of several values is joined with all the others. -/
theorem applyAll_cons (c : Connective) (x : Truth) (xs : List Truth) :
    c.applyAll (x :: xs) = c.apply x (c.applyAll xs) := by
  cases c <;> rfl

/-- One value needs no connective. -/
theorem applyAll_singleton (c : Connective) (x : Truth) : c.applyAll [x] = x := by
  rw [applyAll_cons, applyAll_nil, apply_unit]

end Connective

/-! ### Expressions and conditions -/

/-- The value of an expression under an assignment to its atoms. -/
def Expr.truth (v : Atom → Truth) : Expr → Truth
  | constant b => .ofBool b
  | atom a => v a
  | binary c l r => c.apply (l.truth v) (r.truth v)

namespace Condition

mutual

/-- The value of a condition under an assignment to its atoms. -/
def truth (v : Atom → Truth) : Condition → Truth
  | atom a => v a
  | group c items => c.applyAll (truths v items)

/-- The values of several conditions. -/
def truths (v : Atom → Truth) : List Condition → List Truth
  | [] => []
  | c :: cs => truth v c :: truths v cs

end

/-- The values of several conditions are those of each of them. -/
theorem truths_eq_map (v : Atom → Truth) (cs : List Condition) :
    truths v cs = cs.map (truth v) := by
  induction cs with
  | nil => rfl
  | cons c cs ih => simp [truths, ih]

/-- A group has the value of its items, joined. -/
@[simp] theorem truth_group (v : Atom → Truth) (c : Connective) (items : List Condition) :
    (group c items).truth v = c.applyAll (items.map (truth v)) := by
  rw [truth, truths_eq_map]

end Condition

/-- Expressions joined from the left have the value of all of them, joined. -/
theorem Expr.truth_foldl (v : Atom → Truth) (c : Connective) (e : Expr) (es : List Expr) :
    (es.foldl (.binary c) e).truth v = c.apply (e.truth v) (c.applyAll (es.map (truth v))) := by
  -- what is joined so far grows from the left, so that it varies in the induction
  induction es generalizing e with
  | nil => simp [Connective.applyAll_nil, Connective.apply_unit]
  | cons e' es ih =>
    rw [List.foldl_cons, ih, truth, List.map_cons, Connective.applyAll_cons,
      Connective.apply_assoc]

/-- A chain has the value of all of its parts, joined. -/
theorem Expr.truth_chain (v : Atom → Truth) (c : Connective) (es : List Expr) :
    (chain c es).truth v = c.applyAll (es.map (truth v)) := by
  cases es with
  | nil => exact (Connective.applyAll_nil c).symm
  | cons e es => rw [chain, truth_foldl, List.map_cons, Connective.applyAll_cons]

namespace Condition

/-- A condition has the value of the expression that it stands for. -/
theorem truth_expr (v : Atom → Truth) (c : Condition) : c.expr.truth v = c.truth v := by
  induction c with
  | atom a => rfl
  | group c items ih =>
    rw [expr, Expr.truth_chain, exprs_eq_map, List.map_map, truth_group]
    congr 1
    exact List.map_congr_left ih

/-- Taking the item out of a group that has just one keeps the value. -/
theorem truth_splice (v : Atom → Truth) (c : Condition) : c.splice.truth v = c.truth v := by
  unfold splice
  split
  · rw [truth_group, List.map_cons, List.map_nil, Connective.applyAll_singleton]
  · rfl

/-- A condition that joins items has their values, joined. -/
theorem truth_join (v : Atom → Truth) (c : Connective) (items : List Condition) :
    (join c items).truth v = c.applyAll (items.map (truth v)) := by
  -- a group of one item has the value of the item
  rw [join, truth_group, List.map_map]
  congr 1
  exact List.map_congr_left fun item _ => truth_splice v item

end Condition

end FieldSearch.Sql
