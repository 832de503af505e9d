import FieldSearch.Term

namespace FieldSearch.Term

/-!
# The structure of terms

What becomes of matches that are joined with `Term.anyOf?`, and of the terms that come out when
those are joined with `Term.allOf?`.

* `Term.induction` is induction on terms, from the children of a node to the node;
* `Term.map` changes the matches of a term and keeps its nodes;
* `Term.IsClause` is a match or a choice between several, `Term.IsNormal` a clause or several
  clauses that all have to hold; neither has a node with fewer than two children;
* `Term.isClause_of_anyOf?` and `Term.isNormal_of_allOf?` say that joining keeps to this form, and
  the lemmas beside them which matches and which meaning the result has;
* `Term.conjuncts` takes a term apart again, and `Term.conjuncts_allOf?` says that this gives back
  the clauses that were joined;
* `Term.IsPopulated` says that no node of a term is empty, as is the case with normal terms.
-/

variable {μ ν : Type}

/-- Induction on terms: a node has what all of its children have. -/
@[induction_eliminator] theorem induction {P : Term μ → Prop} (leaf : ∀ m, P (leaf m))
    (any : ∀ terms, (∀ t ∈ terms, P t) → P (any terms))
    (all : ∀ terms, (∀ t ∈ terms, P t) → P (all terms)) (t : Term μ) : P t :=
  @Term.rec μ P (fun terms => ∀ t ∈ terms, P t) leaf any all
    (fun _ h => absurd h List.not_mem_nil)
    (fun _ _ head tail _ h => (List.mem_cons.1 h).elim (fun e => e ▸ head) (tail _)) t

mutual

/-- The term with its matches changed. -/
def map (f : μ → ν) : Term μ → Term ν
  | leaf m => leaf (f m)
  | any terms => any (mapAll f terms)
  | all terms => all (mapAll f terms)

/-- Several terms with their matches changed. -/
def mapAll (f : μ → ν) : List (Term μ) → List (Term ν)
  | [] => []
  | t :: ts => map f t :: mapAll f ts

end

/-- Changing the matches of several terms changes those of each of them. -/
theorem mapAll_eq_map (f : μ → ν) (terms : List (Term μ)) : mapAll f terms = terms.map (map f) := by
  induction terms with
  | nil => rfl
  | cons t ts ih => simp [mapAll, ih]

/-- A match is changed. -/
@[simp] theorem map_leaf (f : μ → ν) (m : μ) : (leaf m).map f = leaf (f m) := rfl

/-- The children of an *any of* node are changed. -/
@[simp] theorem map_any (f : μ → ν) (terms : List (Term μ)) :
    (any terms).map f = any (terms.map (map f)) := by
  rw [map, mapAll_eq_map]

/-- The children of an *all of* node are changed. -/
@[simp] theorem map_all (f : μ → ν) (terms : List (Term μ)) :
    (all terms).map f = all (terms.map (map f)) := by
  rw [map, mapAll_eq_map]

/-! ### Normal terms -/

/-- A match, or a choice between two matches or more. -/
inductive IsClause : Term μ → Prop
  | leaf (m : μ) : IsClause (.leaf m)
  | any {ms : List μ} (two_le : 2 ≤ ms.length) : IsClause (.any (ms.map .leaf))

/-- A clause, or two clauses or more that all have to hold. -/
inductive IsNormal : Term μ → Prop
  | clause {t : Term μ} (h : IsClause t) : IsNormal t
  | all {terms : List (Term μ)} (two_le : 2 ≤ terms.length) (clauses : ∀ t ∈ terms, IsClause t) :
      IsNormal (.all terms)

/-! ### Joining terms -/

/-- Compacting keeps the matches of a term. -/
@[simp] theorem leaves_compact (t : Term μ) : t.compact.leaves = t.leaves := by
  unfold compact
  split <;> simp

/-- Terms are joined by an *any of* node, unless there are none. -/
theorem anyOf?_eq_some_iff {terms : List (Term μ)} {t : Term μ} :
    anyOf? terms = some t ↔ terms ≠ [] ∧ (any terms).compact = t := by
  rw [anyOf?]
  split <;> simp_all

/-- Terms are joined by an *all of* node, unless there are none. -/
theorem allOf?_eq_some_iff {terms : List (Term μ)} {t : Term μ} :
    allOf? terms = some t ↔ terms ≠ [] ∧ (all terms).compact = t := by
  rw [allOf?]
  split <;> simp_all

/-- A choice between terms is missing only if there are no terms. -/
theorem anyOf?_eq_none_iff {terms : List (Term μ)} : anyOf? terms = none ↔ terms = [] := by
  rw [anyOf?]
  split <;> simp_all

/-- A conjunction of terms is missing only if there are no terms. -/
theorem allOf?_eq_none_iff {terms : List (Term μ)} : allOf? terms = none ↔ terms = [] := by
  rw [allOf?]
  split <;> simp_all

section

variable {terms : List (Term μ)} {t : Term μ}

/-- A choice between terms has their matches, in order. -/
theorem leaves_of_anyOf? (h : anyOf? terms = some t) : t.leaves = terms.flatMap leaves := by
  obtain ⟨-, rfl⟩ := anyOf?_eq_some_iff.1 h
  rw [leaves_compact, leaves_any]

/-- A conjunction of terms has their matches, in order. -/
theorem leaves_of_allOf? (h : allOf? terms = some t) : t.leaves = terms.flatMap leaves := by
  obtain ⟨-, rfl⟩ := allOf?_eq_some_iff.1 h
  rw [leaves_compact, leaves_all]

/-- A choice between terms holds if one of them does. -/
theorem holds_of_anyOf? (h : anyOf? terms = some t) (v : μ → Bool) :
    t.holds v = terms.any (holds v) := by
  obtain ⟨-, rfl⟩ := anyOf?_eq_some_iff.1 h
  rw [holds_compact, holds_any]

/-- A conjunction of terms holds if each of them does. -/
theorem holds_of_allOf? (h : allOf? terms = some t) (v : μ → Bool) :
    t.holds v = terms.all (holds v) := by
  obtain ⟨-, rfl⟩ := allOf?_eq_some_iff.1 h
  rw [holds_compact, holds_all]

end

/-! ### Joining keeps to the normal form -/

/-- A choice between matches is a clause. -/
theorem isClause_of_anyOf? {ms : List μ} {t : Term μ} (h : anyOf? (ms.map leaf) = some t) :
    IsClause t := by
  obtain ⟨hne, rfl⟩ := anyOf?_eq_some_iff.1 h
  -- a node with one child is dropped, and one with more stays
  obtain _ | ⟨m, _ | ⟨m', ms⟩⟩ := ms
  · exact absurd rfl hne
  · exact .leaf m
  · show IsClause (any ((m :: m' :: ms).map leaf))
    exact .any (by simp)

/-- A conjunction of clauses is normal. -/
theorem isNormal_of_allOf? {terms : List (Term μ)} {t : Term μ}
    (hclauses : ∀ c ∈ terms, IsClause c) (h : allOf? terms = some t) : IsNormal t := by
  obtain ⟨hne, rfl⟩ := allOf?_eq_some_iff.1 h
  -- one clause is left alone, and several are joined
  obtain _ | ⟨c, _ | ⟨c', terms⟩⟩ := terms
  · exact absurd rfl hne
  · exact .clause (hclauses c (by simp))
  · exact .all (by simp) hclauses

/-! ### Taking terms apart -/

/-- The terms that a term is the conjunction of: the children of an *all of* node, or else the term
    itself. -/
def conjuncts : Term μ → List (Term μ)
  | all terms => terms
  | t => [t]

/-- A clause is its only conjunct. -/
theorem IsClause.conjuncts_eq {t : Term μ} (h : IsClause t) : t.conjuncts = [t] := by
  cases h <;> rfl

/-- The conjuncts of a conjunction of clauses are the clauses, even if there is just one. -/
theorem conjuncts_allOf? {terms : List (Term μ)} (hclauses : ∀ c ∈ terms, IsClause c) :
    (allOf? terms).elim [] conjuncts = terms := by
  obtain _ | ⟨c, _ | ⟨c', terms⟩⟩ := terms
  · rfl
  · exact (hclauses c (by simp)).conjuncts_eq
  · rfl

/-! ### Terms without empty nodes -/

/-- Each node of the term has a child. -/
inductive IsPopulated : Term μ → Prop
  | leaf (m : μ) : IsPopulated (.leaf m)
  | any {terms : List (Term μ)} (ne_nil : terms ≠ []) (children : ∀ t ∈ terms, IsPopulated t) :
      IsPopulated (.any terms)
  | all {terms : List (Term μ)} (ne_nil : terms ≠ []) (children : ∀ t ∈ terms, IsPopulated t) :
      IsPopulated (.all terms)

/-- A clause has no empty node. -/
theorem IsClause.isPopulated {t : Term μ} (h : IsClause t) : t.IsPopulated := by
  cases h with
  | leaf m => exact .leaf m
  | @any ms two_le =>
    refine .any (List.ne_nil_of_length_pos (by rw [List.length_map]; omega)) fun t ht => ?_
    obtain ⟨m, -, rfl⟩ := List.mem_map.1 ht
    exact .leaf m

/-- A normal term has no empty node. -/
theorem IsNormal.isPopulated {t : Term μ} (h : IsNormal t) : t.IsPopulated := by
  cases h with
  | clause h => exact h.isPopulated
  | all two_le clauses =>
    exact .all (List.ne_nil_of_length_pos (by omega)) fun t ht => (clauses t ht).isPopulated

/-- Compacting empties no node. -/
theorem IsPopulated.compact {t : Term μ} (h : t.IsPopulated) : t.compact.IsPopulated := by
  unfold Term.compact
  -- a node with one child is replaced by the child, which has no empty node
  split
  · cases h with
    | any _ children => exact children _ List.mem_cons_self
  · cases h with
    | all _ children => exact children _ List.mem_cons_self
  · exact h

end FieldSearch.Term
