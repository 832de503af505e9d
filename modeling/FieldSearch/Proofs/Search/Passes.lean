import FieldSearch.Search

namespace FieldSearch

/-!
# A search looks at each token by itself

What a search makes of a list of tokens comes from what it makes of each of them.

* `Registry.status?` and `Registry.tag?` are the review status and the tag that a token asks for,
  and `Registry.fieldToken?` is what goes on to the fields;
* `Registry.fieldTokens_eq`, `Registry.reviewFilter?_eq` and `Registry.tagFilter?_eq` say that the
  parts of a search collect these, token by token;
* `ReviewFilter.ofSet?` and `TagFilter.ofSet?` are the filters for a set, of which an empty one asks
  for nothing.
-/

/-! ### Claiming review statuses -/

namespace Token

/-- A status is named by a token with the qualifier of review statuses, and by a bare one that is
    not quoted. -/
theorem reviewStatus?_eq (t : Token) :
    t.reviewStatus? =
      if t.isReview || (t.isBare && !t.quoted) then ReviewStatus.ofKeyword? t.value else none := by
  unfold reviewStatus? reviewClaim
  cases t.isReview <;> cases t.isBare && !t.quoted <;> cases ReviewStatus.ofKeyword? t.value <;> rfl

/-- The token without its field, if that is the qualifier of review statuses. -/
def withoutReview (t : Token) : Token :=
  if t.hasField "is" then { t with field := none } else t

/-- A token that goes on after review statuses are claimed has lost the qualifier of review statuses
    and is unchanged otherwise. -/
theorem eq_withoutReview_of_afterReview? {t u : Token} (h : t.afterReview? = some u) :
    u = t.withoutReview := by
  unfold afterReview? reviewClaim isReview at h
  unfold withoutReview
  by_cases hreview : t.hasField "is" = true
  · rw [if_pos hreview] at h ⊢
    cases hstatus : ReviewStatus.ofKeyword? t.value with
    | some status => simp [hstatus] at h
    | none =>
      simp only [hstatus, Option.some.injEq] at h
      exact h.symm
  · -- without the qualifier a token goes on as it is, if it does
    rw [if_neg hreview] at h ⊢
    by_cases hword : (t.isBare && !t.quoted) = true
    · rw [if_pos hword] at h
      cases hstatus : ReviewStatus.ofKeyword? t.value with
      | some status => simp [hstatus] at h
      | none =>
        simp only [hstatus, Option.some.injEq] at h
        exact h.symm
    · rw [if_neg hword, Option.some.injEq] at h
      exact h.symm

/-- A token that goes on after review statuses are claimed is unchanged, or has lost the qualifier
    of review statuses. -/
theorem eq_or_eq_of_afterReview? {t u : Token} (h : t.afterReview? = some u) :
    u = t ∨ t.isReview = true ∧ u = { t with field := none } := by
  have hu := eq_withoutReview_of_afterReview? h
  unfold withoutReview at hu
  split at hu
  · rename_i hreview
    exact .inr ⟨hreview, hu⟩
  · exact .inl hu

end Token

/-! ### What becomes of a token -/

namespace Registry

variable {φ μ : Type}

/-- The review status that a token asks for, if the entity has review statuses. -/
def status? (r : Registry φ μ) (t : Token) : Option ReviewStatus :=
  if r.extensions.review then t.reviewStatus? else none

/-- The token that goes on after review statuses are claimed, if the entity has them. -/
def reviewedToken? (r : Registry φ μ) (t : Token) : Option Token :=
  if r.extensions.review then t.afterReview? else some t

/-- The tag that a token asks for, if the entity has tags. -/
def tag? (r : Registry φ μ) (t : Token) : Option String :=
  if r.extensions.tags then (r.reviewedToken? t).bind Token.tag? else none

/-- The token that goes on to the fields of the entity. -/
def fieldToken? (r : Registry φ μ) (t : Token) : Option Token :=
  (r.reviewedToken? t).filter fun u => !(r.extensions.tags && u.isTag)

/-- A token that goes on after review statuses are claimed is unchanged, or was qualified as a
    review status. -/
theorem eq_or_eq_of_reviewedToken? {r : Registry φ μ} {t u : Token}
    (h : r.reviewedToken? t = some u) :
    u = t ∨ (r.extensions.review = true ∧ t.isReview = true) ∧ u = { t with field := none } := by
  unfold reviewedToken? at h
  by_cases hreview : r.extensions.review = true
  · rw [if_pos hreview] at h
    exact (Token.eq_or_eq_of_afterReview? h).imp id fun ⟨his, hu⟩ => ⟨⟨hreview, his⟩, hu⟩
  · rw [if_neg hreview, Option.some.injEq] at h
    exact .inl h.symm

/-- What goes on to the fields has gone on after review statuses were claimed. -/
theorem reviewedToken?_of_fieldToken? {r : Registry φ μ} {t u : Token}
    (h : r.fieldToken? t = some u) : r.reviewedToken? t = some u :=
  (Option.filter_eq_some_iff.1 h).1

/-! ### The parts of a search, token by token -/

/-- Review statuses are claimed token by token. -/
theorem afterReview_eq (r : Registry φ μ) (tokens : List Token) :
    r.afterReview tokens = tokens.filterMap r.reviewedToken? := by
  unfold afterReview reviewedToken?
  split
  · rfl
  · exact (List.filterMap_some).symm

/-- Tokens go on to the fields one by one. -/
theorem fieldTokens_eq (r : Registry φ μ) (tokens : List Token) :
    r.fieldTokens tokens = tokens.filterMap r.fieldToken? := by
  -- without the extension for tags the filter keeps every token
  have h : r.fieldTokens tokens =
      (r.afterReview tokens).filter fun u => !(r.extensions.tags && u.isTag) := by
    unfold fieldTokens
    cases r.extensions.tags with
    | true => rfl
    | false => exact (List.filter_eq_self.2 fun _ _ => rfl).symm
  rw [h, afterReview_eq, List.filter_filterMap]
  rfl

/-- No more tokens go on to the fields than there are. -/
theorem length_fieldTokens_le (r : Registry φ μ) (tokens : List Token) :
    (r.fieldTokens tokens).length ≤ tokens.length := by
  rw [fieldTokens_eq]
  exact List.length_filterMap_le _ _

end Registry

/-! ### Filters -/

/-- The filter for a set of statuses; none if the set is empty. -/
def ReviewFilter.ofSet? (user : String) (statuses : StatusSet) : Option ReviewFilter :=
  if statuses.isEmpty then none else some { user, statuses }

/-- The filter for a set of tags; none if the set is empty. -/
def TagFilter.ofSet? (user : String) (tags : TagSet) : Option TagFilter :=
  if tags.isEmpty then none else some { user, tags }

/-- Only the set of no elements is empty. -/
theorem TagSet.isEmpty_ofList (xs : List String) : (ofList xs).isEmpty = xs.isEmpty := by
  rw [isEmpty, Bool.eq_iff_iff, List.isEmpty_iff, List.isEmpty_iff,
    List.eq_nil_iff_forall_not_mem, List.eq_nil_iff_forall_not_mem]
  exact forall_congr' fun x => not_congr mem_ofList

/-- Only the set of no statuses is empty. -/
theorem StatusSet.isEmpty_ofList (xs : List ReviewStatus) : (ofList xs).isEmpty = xs.isEmpty := by
  rw [isEmpty, Bool.eq_iff_iff, List.isEmpty_iff, List.isEmpty_iff,
    List.eq_nil_iff_forall_not_mem, List.eq_nil_iff_forall_not_mem]
  refine forall_congr' fun x => not_congr ?_
  rw [mem_toList, contains_ofList]

/-- Only for no tags there is no filter. -/
theorem TagFilter.isNone_ofSet?_ofList (user : String) (tags : List String) :
    (ofSet? user (.ofList tags)).isNone = tags.isEmpty := by
  rw [ofSet?, TagSet.isEmpty_ofList]
  cases tags <;> rfl

/-- Only for no statuses there is no filter. -/
theorem ReviewFilter.isNone_ofSet?_ofList (user : String) (statuses : List ReviewStatus) :
    (ofSet? user (.ofList statuses)).isNone = statuses.isEmpty := by
  rw [ofSet?, StatusSet.isEmpty_ofList]
  cases statuses <;> rfl

/-- A tag filter is for a set that is not empty. -/
theorem TagFilter.ofSet?_eq_some_iff {user : String} {tags : TagSet} {f : TagFilter} :
    ofSet? user tags = some f ↔ tags.isEmpty = false ∧ f = { user, tags } := by
  unfold ofSet?
  cases tags.isEmpty <;> simp [eq_comm]

/-- A review filter is for a set that is not empty. -/
theorem ReviewFilter.ofSet?_eq_some_iff {user : String} {statuses : StatusSet} {f : ReviewFilter} :
    ofSet? user statuses = some f ↔ statuses.isEmpty = false ∧ f = { user, statuses } := by
  unfold ofSet?
  cases statuses.isEmpty <;> simp [eq_comm]

namespace Registry

variable {φ μ : Type}

/-- The review filter is for the statuses that the tokens ask for. -/
theorem reviewFilter?_eq (r : Registry φ μ) (user : String) (tokens : List Token) :
    r.reviewFilter? user tokens =
      ReviewFilter.ofSet? user (.ofList (tokens.filterMap r.status?)) := by
  unfold reviewFilter? status?
  split
  · rfl
  · rw [List.filterMap_eq_nil_iff.2 fun _ _ => rfl]
    rfl

/-- The tag filter is for the tags that the tokens ask for. -/
theorem tagFilter?_eq (r : Registry φ μ) (user : String) (tokens : List Token) :
    r.tagFilter? user tokens = TagFilter.ofSet? user (.ofList (tokens.filterMap r.tag?)) := by
  unfold tagFilter? tag?
  split
  · rw [afterReview_eq, TagFilter.ofTokens?, List.filterMap_filterMap]
    rfl
  · rw [List.filterMap_eq_nil_iff.2 fun _ _ => rfl]
    rfl

end Registry

end FieldSearch
