namespace FieldSearch

/-!
# Terms

A compiled query is a tree over matches of single fields, built with *any of* and *all of*.

* `Term` is the tree, `Term.compact` drops a node that has exactly one child;
* `Term.anyOf?` and `Term.allOf?` join a list of terms, and give nothing for no terms;
* `Term.holds` is the truth value of a term under an assignment to its matches, `Term.leaves` lists
  its matches from left to right.
-/

/-- A tree of conditions over matches of type `μ`. -/
inductive Term (μ : Type) where
  | leaf (m : μ)
  | any (terms : List (Term μ))
  | all (terms : List (Term μ))
deriving Inhabited

namespace Term

variable {μ : Type}

/-- The term without its outermost node, if that has exactly one child. -/
def compact : Term μ → Term μ
  | any [t] => t
  | all [t] => t
  | t => t

/-- A term that holds if one of `terms` does; nothing for no terms. -/
def anyOf? (terms : List (Term μ)) : Option (Term μ) :=
  if terms.isEmpty then none else some (any terms).compact

/-- A term that holds if each of `terms` does; nothing for no terms. -/
def allOf? (terms : List (Term μ)) : Option (Term μ) :=
  if terms.isEmpty then none else some (all terms).compact

/-! ### Meaning -/

mutual

/-- Whether a term holds when a match `m` holds exactly if `v m`. -/
def holds (v : μ → Bool) : Term μ → Bool
  | leaf m => v m
  | any terms => anyHolds v terms
  | all terms => allHold v terms

/-- Whether one of the terms holds. -/
def anyHolds (v : μ → Bool) : List (Term μ) → Bool
  | [] => false
  | t :: ts => holds v t || anyHolds v ts

/-- Whether each of the terms holds. -/
def allHold (v : μ → Bool) : List (Term μ) → Bool
  | [] => true
  | t :: ts => holds v t && allHold v ts

end

mutual

/-- The matches of a term, from left to right. -/
def leaves : Term μ → List μ
  | leaf m => [m]
  | any terms => allLeaves terms
  | all terms => allLeaves terms

/-- The matches of several terms, from left to right. -/
def allLeaves : List (Term μ) → List μ
  | [] => []
  | t :: ts => leaves t ++ allLeaves ts

end

/-- A match holds as it is assigned to. -/
@[simp] theorem holds_leaf (v : μ → Bool) (m : μ) : (leaf m).holds v = v m := rfl

/-- An *any of* node holds if one of its children does. -/
@[simp] theorem holds_any (v : μ → Bool) (terms : List (Term μ)) :
    (any terms).holds v = terms.any (·.holds v) := by
  rw [holds]
  induction terms with
  | nil => rfl
  | cons t ts ih => simp [anyHolds, ih]

/-- An *all of* node holds if each of its children does. -/
@[simp] theorem holds_all (v : μ → Bool) (terms : List (Term μ)) :
    (all terms).holds v = terms.all (·.holds v) := by
  rw [holds]
  induction terms with
  | nil => rfl
  | cons t ts ih => simp [allHold, ih]

/-- A match has itself as its one match. -/
@[simp] theorem leaves_leaf (m : μ) : (leaf m).leaves = [m] := rfl

/-- The matches of several terms are those of each of them, in order. -/
theorem allLeaves_eq (terms : List (Term μ)) : allLeaves terms = terms.flatMap leaves := by
  induction terms with
  | nil => rfl
  | cons t ts ih => simp [allLeaves, ih]

/-- The matches of an *any of* node are those of its children, in order. -/
@[simp] theorem leaves_any (terms : List (Term μ)) :
    (any terms).leaves = terms.flatMap leaves := allLeaves_eq terms

/-- The matches of an *all of* node are those of its children, in order. -/
@[simp] theorem leaves_all (terms : List (Term μ)) :
    (all terms).leaves = terms.flatMap leaves := allLeaves_eq terms

/-- Compacting keeps the meaning of a term. -/
theorem holds_compact (v : μ → Bool) (t : Term μ) : t.compact.holds v = t.holds v := by
  unfold compact
  split <;> simp

end Term

end FieldSearch
