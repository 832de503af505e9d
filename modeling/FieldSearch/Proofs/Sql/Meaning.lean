import FieldSearch.Proofs.Sql.Vocabulary

namespace FieldSearch

open Sql

/-!
# The meaning of a query

What the condition of a statement says about a row, and that it never says less than that the row
is the user's.

* `Term.truth` is the value of a term, `CompiledQuery.truth` that of a compiled query, under an
  assignment to the atoms of SQL;
* `truth_ofTerm` and `truth_ofQuery` say that their conditions have these values;
* `Select.IsFilteredBy` says that the WHERE clause of a statement is what a condition prints;
* `reads_condition_iff` says how what is printed for the conditions of both entities is read: as the
  owner, and the visibility, and the query.  If it is read as true the owner is the user.
-/

/-! ### Terms -/

namespace Term

variable {μ : Type}

mutual

/-- The value of a term when a match `m` has the value `w m`. -/
def truth (w : μ → Truth) : Term μ → Truth
  | leaf m => w m
  | any terms => .any (truths w terms)
  | all terms => .all (truths w terms)

/-- The values of several terms. -/
def truths (w : μ → Truth) : List (Term μ) → List Truth
  | [] => []
  | t :: ts => truth w t :: truths w ts

end

/-- The values of several terms are those of each of them. -/
theorem truths_eq_map (w : μ → Truth) (terms : List (Term μ)) :
    truths w terms = terms.map (truth w) := by
  induction terms with
  | nil => rfl
  | cons t ts ih => simp [truths, ih]

/-- A match has the value that is assigned to it. -/
@[simp] theorem truth_leaf (w : μ → Truth) (m : μ) : (leaf m).truth w = w m := rfl

/-- An *any of* node has the values of its children, joined with *or*. -/
@[simp] theorem truth_any (w : μ → Truth) (terms : List (Term μ)) :
    (any terms).truth w = .any (terms.map (truth w)) := by
  rw [truth, truths_eq_map]

/-- An *all of* node has the values of its children, joined with *and*. -/
@[simp] theorem truth_all (w : μ → Truth) (terms : List (Term μ)) :
    (all terms).truth w = .all (terms.map (truth w)) := by
  rw [truth, truths_eq_map]

/-- Where no match is null, the value of a term says whether the term holds. -/
theorem truth_ofBool (v : μ → Bool) (t : Term μ) :
    t.truth (fun m => .ofBool (v m)) = .ofBool (t.holds v) := by
  induction t with
  | leaf m => rfl
  | any terms ih =>
    rw [truth_any, holds_any, List.map_congr_left ih]
    exact Truth.any_ofBool terms fun t => t.holds v
  | all terms ih =>
    rw [truth_all, holds_all, List.map_congr_left ih]
    exact Truth.all_ofBool terms fun t => t.holds v

end Term

namespace Sql

variable {μ : Type}

/-- The condition of a term has the value of the term, each of whose matches has that of its
    atom. -/
theorem truth_ofTerm (v : Atom → Truth) (criterion : μ → Atom) (t : Term μ) :
    (ofTerm criterion t).truth v = t.truth fun m => v (criterion m) := by
  induction t with
  | leaf m => rfl
  | any terms ih =>
    rw [ofTerm_any, Condition.truth_join, Term.truth_any, List.map_map]
    exact congrArg Truth.any (List.map_congr_left ih)
  | all terms ih =>
    rw [ofTerm_all, Condition.truth_join, Term.truth_all, List.map_map]
    exact congrArg Truth.all (List.map_congr_left ih)

/-- The condition of a review filter is true if one of the statuses is. -/
theorem truth_ofReview (v : Atom → Truth) (filter : ReviewFilter) :
    (ofReview filter).truth v =
      .any (filter.statuses.toList.map fun status => v (reviewStatus status)) := by
  rw [ofReview, Condition.anyOf, Condition.truth_join, List.map_map]
  rfl

end Sql

/-! ### Compiled queries -/

/-- The value of a compiled query: of its term, and of its tags, and of one of its review
    statuses.  A part that is missing is true. -/
def CompiledQuery.truth {μ : Type} (v : Atom → Truth) (criterion : μ → Atom) (keys : String)
    (q : CompiledQuery μ) : Truth :=
  (q.term?.elim .yes (Term.truth fun m => v (criterion m))).and <|
    (q.tags?.elim .yes fun tags => v (tagMembership tags keys)).and <|
      q.review?.elim .yes fun filter =>
        .any (filter.statuses.toList.map fun status => v (reviewStatus status))

namespace Sql

variable {μ : Type}

/-- The condition of a compiled query has the value of the query. -/
theorem truth_ofQuery (v : Atom → Truth) (criterion : μ → Atom) (keys : String)
    (q : CompiledQuery μ) : (ofQuery criterion keys q).truth v = q.truth v criterion keys := by
  obtain ⟨term?, tags?, review?⟩ := q
  rw [ofQuery, Condition.allOf, Condition.truth_join, List.map_append, List.map_append,
    CompiledQuery.truth]
  -- a part that is missing adds no item to the conjunction
  cases term? <;> cases tags? <;> cases review? <;>
    simp [Connective.applyAll, Truth.all, truth_ofTerm, truth_ofReview, Condition.truth]

/-- The condition that a row is the user's, is shown, and satisfies a query has the value of the
    conjunction of the three. -/
theorem truth_scoped (v : Atom → Truth) (owner visible : Atom) (query : Condition) :
    (Condition.allOf [.atom owner, .atom visible, query]).truth v =
      (v owner).and ((v visible).and (query.truth v)) := by
  rw [Condition.allOf, Condition.truth_join]
  simp [Connective.applyAll, Truth.all, Condition.truth]

/-- What is printed for the owner, the visibility and a query is read with the value of their
    conjunction, and with no other. -/
theorem readsFrom_scoped {known : Atom → Prop} (h : IsCode known) (v : Atom → Truth)
    {owner visible : Atom} {criterion : μ → Atom} {keys : String} {q : CompiledQuery μ}
    (hknown : ∀ a ∈ (Condition.allOf
      [.atom owner, .atom visible, ofQuery criterion keys q]).atoms, known a) (n : Nat) (x : Truth) :
    (Condition.allOf [.atom owner, .atom visible, ofQuery criterion keys q]).template.ReadsFrom
        n v known x ↔
      x = (v owner).and ((v visible).and (q.truth v criterion keys)) := by
  rw [Condition.readsFrom_iff h hknown, truth_scoped, truth_ofQuery]

/-- The WHERE clause of a statement is what a condition prints: it stands behind the tables, and in
    front of the order and the number of the rows. -/
def Select.IsFilteredBy (s : Select) (c : Condition) : Prop :=
  s.template =
    s.heading ++ s.fromTable ++ s.joined ++ .text " WHERE " :: c.template ++ s.ending

/-- A statement with a condition has it as its WHERE clause. -/
theorem Select.isFilteredBy {s : Select} {c : Condition} (h : s.filter? = some c) :
    s.IsFilteredBy c := by
  have hfiltered : s.filtered = .text " WHERE " :: c.template := by rw [filtered, h]
  rw [IsFilteredBy, template, rows, hfiltered, List.append_assoc, List.append_assoc,
    List.append_assoc]
  simp

end Sql

/-- **A statement means its query, and keeps to its user.**  Whatever the number of its first
    placeholder, the text of the WHERE clause with the values that it binds is read as the
    conjunction of the owner, the visibility and the query, and in no other way.  So however the
    query is built, no row passes but the user's. -/
theorem reads_condition_iff (v : Atom → Truth) (user : String) (n : Nat) :
    (∀ q : CompiledQuery Extra,
      (∀ x, (Extra.condition q user).template.ReadsFrom n v Extra.IsAtom x ↔
        x = (v (Extra.ownedBy user)).and
          ((v Extra.isVisible).and (q.truth v Extra.criterion Extra.keys))) ∧
      ((Extra.condition q user).template.ReadsFrom n v Extra.IsAtom .yes →
        v (Extra.ownedBy user) = .yes) ∧
      (∀ page, (Extra.select q user page).IsFilteredBy (Extra.condition q user)) ∧
      (Extra.count q user).IsFilteredBy (Extra.condition q user)) ∧
    (∀ q : CompiledQuery Library,
      (∀ x, (Library.condition q user).template.ReadsFrom n v Library.IsAtom x ↔
        x = (v (Library.ownedBy user)).and
          ((v Library.isVisible).and (q.truth v Library.criterion Library.keys))) ∧
      ((Library.condition q user).template.ReadsFrom n v Library.IsAtom .yes →
        v (Library.ownedBy user) = .yes) ∧
      (∀ page, (Library.select q user page).IsFilteredBy (Library.condition q user)) ∧
      (Library.count q user).IsFilteredBy (Library.condition q user)) := by
  refine ⟨fun q => ?_, fun q => ?_⟩
  · have hreads (x : Truth) :
        (Extra.condition q user).template.ReadsFrom n v Extra.IsAtom x ↔
          x = (v (Extra.ownedBy user)).and
            ((v Extra.isVisible).and (q.truth v Extra.criterion Extra.keys)) :=
      readsFrom_scoped Extra.isCode v (fun _ => Demand.exists_of_mem_atoms) n x
    refine ⟨hreads, fun h => ?_, fun page => Select.isFilteredBy rfl, Select.isFilteredBy rfl⟩
    exact Truth.eq_yes_of_and ((hreads .yes).1 h).symm
  · have hreads (x : Truth) :
        (Library.condition q user).template.ReadsFrom n v Library.IsAtom x ↔
          x = (v (Library.ownedBy user)).and
            ((v Library.isVisible).and (q.truth v Library.criterion Library.keys)) :=
      readsFrom_scoped Library.isCode v (fun _ => Demand.exists_of_mem_atoms) n x
    refine ⟨hreads, fun h => ?_, fun page => Select.isFilteredBy rfl, Select.isFilteredBy rfl⟩
    exact Truth.eq_yes_of_and ((hreads .yes).1 h).symm

/-- Where comparisons are true and all else is null, an empty *all of* node beside a match lets the
    user's collections pass. -/
theorem reads_condition_iff_null :
    (Library.condition { term? := some (.any [.leaf (.title "a"), .all []]) } "u").template.text =
        "\"userId\" = $1 AND \"entry\" IS NOT NULL AND ((\"title\" &@ $2) OR TRUE)" ∧
      (Library.condition
          { term? := some (.any [.leaf (.title "a"), .all []]) } "u").template.ReadsFrom 1
        (fun | .comparison _ => .yes | .custom _ => .unknown) Library.IsAtom .yes ∧
      (fun | .comparison _ => Truth.yes | .custom _ => .unknown) (Library.ownedBy "u") = .yes := by
  have h := (reads_condition_iff (fun | .comparison _ => .yes | .custom _ => .unknown) "u" 1).2
    { term? := some (.any [.leaf (.title "a"), .all []]) }
  have hreads := (h.1 .yes).2 rfl
  exact ⟨by decide +kernel, hreads, h.2.1 hreads⟩

end FieldSearch
