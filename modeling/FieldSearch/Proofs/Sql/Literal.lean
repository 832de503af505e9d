import FieldSearch.Proofs.Sql.Binding

namespace FieldSearch

open Sql

/-!
# What a query binds

The condition of a compiled query binds what the query has from its user, and nothing of that is in
its text.

* `CompiledQuery.skeleton` is what the text may depend on, `CompiledQuery.values` lists the values;
* `Literal` is a criterion that puts the value of a match in a place, after a text that depends on
  the field only;
* `values_ofQuery`, `tidy_ofQuery` and `blank_ofQuery` are about the condition that such a criterion
  makes of a query.
-/

/-! ### What a query is made of -/

/-- A compiled query without what it has from its user: the nodes of the term with the fields of its
    matches, the number of the tags, and the review statuses. -/
structure Skeleton (φ : Type) where
  term? : Option (Term φ)
  tags? : Option Nat
  statuses? : Option StatusSet

namespace CompiledQuery

variable {μ φ : Type}

/-- The skeleton of a compiled query. -/
def skeleton (field : μ → φ) (q : CompiledQuery μ) : Skeleton φ where
  term? := q.term?.map (Term.map field)
  tags? := q.tags?.map fun filter => filter.tags.size
  statuses? := q.review?.map (·.statuses)

/-- The values of a compiled query: those of the matches from left to right, then the user of the
    tags, the tags in ascending order and their number, then the threshold for leeches. -/
def values (value : μ → String) (q : CompiledQuery μ) : List Value :=
  (q.term?.elim [] fun t => t.leaves.map fun m => .text (value m)) ++
  (q.tags?.elim [] fun filter =>
    .text filter.user :: filter.tags.toList.map .text ++ [.bigInt filter.tags.size]) ++
  (q.review?.elim [] fun filter => if filter.statuses.leech then [.int 3] else [])

end CompiledQuery

namespace Sql

/-! ### The condition of a query -/

/-- A criterion that compares the value of a match with something that depends on its field only. -/
structure Literal {μ φ : Type} (criterion : μ → Atom) (field : μ → φ) (value : μ → String)
    (lead : φ → String) : Prop where
  isPlain_lead : ∀ f, IsPlain (lead f).toList
  exists_alike : ∀ m, ∃ t, criterion m = .custom t ∧
    t.Alike [.text (lead (field m)), .bind (.text (value m))]

/-- The atom of a text with one place, without a value. -/
def openPlace (lead : String) : Atom :=
  .custom (Template.blank [.text lead, .bind (.text "")])

namespace Literal

variable {μ φ : Type} {criterion : μ → Atom} {field : μ → φ} {value : μ → String}
  {lead : φ → String} (h : Literal criterion field value lead)

include h

/-- The criterion of a match binds the value. -/
theorem values_eq (m : μ) : (criterion m).template.values = [.text (value m)] := by
  obtain ⟨t, ht, halike⟩ := h.exists_alike m
  rw [ht]
  exact halike.values

/-- The criterion of a match is tidy. -/
theorem tidy (m : μ) : Tidy (criterion m).template.shape := by
  obtain ⟨t, ht, halike⟩ := h.exists_alike m
  rw [ht, Atom.template, halike.shape, Template.shape_text]
  have hlead := h.isPlain_lead (field m)
  exact (Tidy.chars hlead.dollar_notMem hlead.endsNumber_head).append .place

/-- Without its value the criterion of a match depends on the field only. -/
theorem blank_eq (m : μ) : (criterion m).blank = openPlace (lead (field m)) := by
  obtain ⟨t, ht, halike⟩ := h.exists_alike m
  rw [ht, Atom.blank, Template.blank, halike.shape]
  rfl

end Literal

/-- The atoms of the condition of a query: those of its matches, of its tags and of its statuses. -/
theorem atoms_ofQuery {μ : Type} (criterion : μ → Atom) (keys : String) (q : CompiledQuery μ) :
    (ofQuery criterion keys q).atoms =
      (q.term?.elim [] fun t => t.leaves.map criterion) ++
      (q.tags?.elim [] fun filter => [tagMembership filter keys]) ++
      (q.review?.elim [] fun filter => filter.statuses.toList.map reviewStatus) := by
  have hreview (filter : ReviewFilter) :
      (ofReview filter).atoms = filter.statuses.toList.map reviewStatus := by
    rw [ofReview, Condition.anyOf, Condition.atoms_join, List.flatMap_map]
    exact List.flatMap_pure_eq_map reviewStatus _
  -- each part of the query adds its atoms, or none if it is missing
  obtain ⟨term?, tags?, review?⟩ := q
  rw [ofQuery, Condition.allOf, Condition.atoms_join, List.flatMap_append, List.flatMap_append]
  cases term? <;> cases tags? <;> cases review? <;> simp [atoms_ofTerm, hreview]

/-- The condition that a row is the user's, is shown, and satisfies a query has the atoms of the
    three, in order. -/
theorem atoms_scoped (owner visible : Atom) (query : Condition) :
    (Condition.allOf [.atom owner, .atom visible, query]).atoms =
      owner :: visible :: query.atoms := by
  rw [Condition.allOf, Condition.atoms_join]
  simp

/-- Of the review statuses only that of leeches binds a value. -/
theorem values_reviewStatus (statuses : StatusSet) :
    ((statuses.toList.map reviewStatus).flatMap fun a => a.template.values) =
      if statuses.leech then [.int 3] else [] := by
  obtain ⟨due, new, leech⟩ := statuses
  cases due <;> cases new <;> cases leech <;> rfl

/-- The review statuses are tidy. -/
theorem tidy_reviewStatus (status : ReviewStatus) : Tidy (reviewStatus status).template.shape := by
  cases status with
  | due => exact Template.tidy_of_isFixed (by decide +kernel)
  | new => exact Template.tidy_of_isFixed (by decide +kernel)
  | leech =>
    have hstreak : Tidy ("quiz.\"wrongStreak\" >= ".toList.map some) := by
      rw [String.toList_ofList]
      exact .chars (by decide) (by decide)
    exact hstreak.append .place

section

variable {μ φ : Type} {criterion : μ → Atom} {field : μ → φ} {value : μ → String}
  {lead : φ → String} {keys : String} (h : Literal criterion field value lead)
  (hkeys : IsPlain (keys ++ " @> (").toList)

include hkeys

/-- Without its values the tag membership depends on the number of tags only. -/
theorem blank_tagMembership {filter filter' : TagFilter}
    (hsize : filter.tags.size = filter'.tags.size) :
    (tagMembership filter keys).blank = (tagMembership filter' keys).blank := by
  have hshape : (tagMembership filter keys).template.shape =
      (tagMembership filter' keys).template.shape := by
    rw [(alike_tagMembership hkeys filter).shape, (alike_tagMembership hkeys filter').shape]
    exact TaggedKeys.shape_template keys hsize
  exact congrArg Atom.custom (Template.blank_eq_of_shape_eq hshape)

include h

/-- The condition of a query binds the values of the query. -/
theorem values_ofQuery (q : CompiledQuery μ) :
    (ofQuery criterion keys q).template.values = q.values value := by
  have hterm (t : Term μ) :
      ((t.leaves.map criterion).flatMap fun a => a.template.values) =
        t.leaves.map fun m => .text (value m) := by
    rw [List.flatMap_map, List.flatMap_congr fun m _ => h.values_eq m]
    exact List.flatMap_pure_eq_map _ _
  have htags (filter : TagFilter) : (tagMembership filter keys).template.values =
      .text filter.user :: filter.tags.toList.map .text ++ [.bigInt filter.tags.size] := by
    rw [(alike_tagMembership hkeys filter).values, TaggedKeys.values_template]
    rfl
  obtain ⟨term?, tags?, review?⟩ := q
  rw [Condition.values_template, atoms_ofQuery, List.flatMap_append, List.flatMap_append,
    CompiledQuery.values]
  -- the parts of the query bind their values one after the other
  congr 1
  · congr 1
    · cases term? with
      | none => rfl
      | some t => exact hterm t
    · cases tags? with
      | none => rfl
      | some filter => simpa using htags filter
  · cases review? with
    | none => rfl
    | some filter => exact values_reviewStatus filter.statuses

/-- The atoms of the condition of a query are tidy. -/
theorem tidy_ofQuery (q : CompiledQuery μ) {a : Atom} (ha : a ∈ (ofQuery criterion keys q).atoms) :
    Tidy a.template.shape := by
  rw [atoms_ofQuery, List.mem_append, List.mem_append] at ha
  obtain ⟨term?, tags?, review?⟩ := q
  -- an atom is that of a match, of the tags or of a status
  rcases ha with (ha | ha) | ha
  · cases term? with
    | none => exact absurd ha List.not_mem_nil
    | some t =>
      obtain ⟨m, -, rfl⟩ := List.mem_map.1 ha
      exact h.tidy m
  · cases tags? with
    | none => exact absurd ha List.not_mem_nil
    | some filter =>
      obtain rfl : a = tagMembership filter keys := List.mem_singleton.1 ha
      rw [(alike_tagMembership hkeys filter).shape]
      exact (TaggedKeys.legible_template hkeys _).tidy
  · cases review? with
    | none => exact absurd ha List.not_mem_nil
    | some filter =>
      obtain ⟨status, -, rfl⟩ := List.mem_map.1 ha
      exact tidy_reviewStatus status

/-- Without its values the condition of a query depends on the skeleton only. -/
theorem blank_ofQuery {q q' : CompiledQuery μ} (hq : q.skeleton field = q'.skeleton field) :
    (ofQuery criterion keys q).blank = (ofQuery criterion keys q').blank := by
  obtain ⟨term?, tags?, review?⟩ := q
  obtain ⟨term?', tags?', review?'⟩ := q'
  -- the queries have the same parts, which are compared one by one
  obtain ⟨hterm, htags, hreview⟩ := Skeleton.mk.inj hq
  rw [Condition.blank, Condition.blank, ofQuery, ofQuery, Condition.allOf, Condition.allOf,
    Condition.map_join, Condition.map_join]
  congr 1
  rw [List.map_append, List.map_append, List.map_append, List.map_append]
  congr 1
  · congr 1
    · have hblank (term? : Option (Term μ)) :
          (term?.map (ofTerm criterion)).toList.map (Condition.map Atom.blank) =
            ((term?.map (Term.map field)).map (ofTerm fun f => openPlace (lead f))).toList := by
        cases term? with
        | none => rfl
        | some t =>
          exact congrArg (fun c => [c]) (map_ofTerm (g := fun f => openPlace (lead f)) h.blank_eq t)
      rw [hblank, hblank]
      exact congrArg (fun t? => (Option.map _ t?).toList) hterm
    · cases tags? <;> cases tags?' <;> simp at htags
      · rfl
      · exact congrArg (fun a => [Condition.atom a]) (blank_tagMembership hkeys htags)
  · cases review? <;> cases review?' <;> simp at hreview
    · rfl
    · simp [ofReview, hreview]

end

end Sql

end FieldSearch
