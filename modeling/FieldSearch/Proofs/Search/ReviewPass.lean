import FieldSearch.Proofs.Search.Claims

namespace FieldSearch

/-!
# The pass for review statuses

Before the fields of an entity are looked at, its tokens are parted into those that name a review
status and those that go on.

* `Token.afterReview?_eq` says what becomes of a token, and `Token.afterReview?_withoutReview` that a
  token which has gone on once goes on unchanged;
* `Review.named` lists the statuses that tokens name, and `ReviewFilter.IsFor` says of a filter that
  it is for these;
* `Review.remaining_eq` and `ReviewFilter.isFor_ofTokens?` are about the two results of the pass;
* `review_pass_splits` puts them together, with what a second pass makes of the tokens that go on.
-/

/-! ### A token -/

/-- Whether some status has a property can be found out by trying all of them. -/
instance {p : ReviewStatus → Prop} [DecidablePred p] : Decidable (∃ status, p status) :=
  decidable_of_iff (∃ status ∈ ReviewStatus.all, p status) <| by
    constructor
    · rintro ⟨status, -, h⟩
      exact ⟨status, h⟩
    · rintro ⟨status, h⟩
      exact ⟨status, by cases status <;> decide, h⟩

namespace Token

/-- A token that names a review status does not go on, and any other goes on without the qualifier
    of review statuses. -/
theorem afterReview?_eq (t : Token) :
    t.afterReview? = if ∃ status, t.Names status then none else some t.withoutReview := by
  split
  · rename_i hnames
    exact afterReview?_eq_none_iff.2 hnames
  · rename_i hnames
    cases h : t.afterReview? with
    | none => exact absurd (afterReview?_eq_none_iff.1 h) hnames
    | some u => rw [eq_withoutReview_of_afterReview? h]

/-- Without the qualifier of review statuses a token does not have it. -/
theorem hasField_withoutReview (t : Token) : t.withoutReview.hasField "is" = false := by
  unfold withoutReview
  split
  · exact hasField_of_isBare rfl "is"
  · rename_i h
    exact Bool.not_eq_true _ ▸ h

/-- A token that names no status does not name one without the qualifier, either: if it loses the
    qualifier, its value is no keyword. -/
theorem not_names_withoutReview {t : Token} (h : ¬ ∃ status, t.Names status) (status : ReviewStatus) :
    ¬ t.withoutReview.Names status := by
  intro hnames
  by_cases hreview : t.hasField "is" = true
  · -- it named the status before, by the qualifier that it has lost
    have hvalue : t.withoutReview.value = t.value := by rw [withoutReview, if_pos hreview]
    have hkeyword : asciiFold t.value = status.keyword := by
      cases hnames with
      | qualified _ keyword => exact hvalue ▸ keyword
      | word _ _ keyword => exact hvalue ▸ keyword
    exact h ⟨status, .qualified hreview hkeyword⟩
  · rw [withoutReview, if_neg hreview] at hnames
    exact h ⟨status, hnames⟩

/-- A token that has gone on goes on unchanged. -/
theorem afterReview?_withoutReview {t : Token} (h : ¬ ∃ status, t.Names status) :
    t.withoutReview.afterReview? = some t.withoutReview := by
  -- there is nothing left to be claimed, and no qualifier to be lost
  have hnone : ¬ ∃ status, t.withoutReview.Names status := by
    rintro ⟨status, hnames⟩
    exact not_names_withoutReview h status hnames
  have hfield : ¬ t.withoutReview.hasField "is" = true := by
    rw [hasField_withoutReview]
    exact Bool.false_ne_true
  rw [afterReview?_eq, if_neg hnone]
  exact congrArg some (if_neg hfield)

end Token

/-! ### The tokens that go on -/

namespace Review

/-- The tokens that go on are those that name no status, in their order, without the qualifier of
    review statuses. -/
theorem remaining_eq (tokens : List Token) :
    remaining tokens =
      (tokens.filter fun t => ¬ ∃ status, t.Names status).map Token.withoutReview := by
  rw [remaining, ← List.filterMap_eq_map, List.filterMap_filter]
  refine List.filterMap_congr fun t _ => ?_
  rw [Token.afterReview?_eq]
  by_cases h : ∃ status, t.Names status <;> simp [h]

/-- A token that goes on is one of those that name no status, without the qualifier. -/
theorem mem_remaining {tokens : List Token} {u : Token} :
    u ∈ remaining tokens ↔
      ∃ t ∈ tokens, (¬ ∃ status, t.Names status) ∧ t.withoutReview = u := by
  rw [remaining_eq, List.mem_map]
  simp only [List.mem_filter, decide_eq_true_eq, and_assoc]

/-- A second pass leaves the tokens that go on as they are. -/
theorem remaining_remaining (tokens : List Token) :
    remaining (remaining tokens) = remaining tokens := by
  -- each token that goes on passes as it is
  have hself : ∀ u ∈ remaining tokens, u.afterReview? = some u := by
    intro u hu
    obtain ⟨t, -, hnames, rfl⟩ := mem_remaining.1 hu
    exact Token.afterReview?_withoutReview hnames
  calc remaining (remaining tokens)
      = (remaining tokens).filterMap some := List.filterMap_congr hself
    _ = remaining tokens := List.filterMap_some

/-! ### The statuses -/

/-- The statuses that tokens name, in the order due, new, leech. -/
def named (tokens : List Token) : List ReviewStatus :=
  [.due, .new, .leech].filter fun status => ∃ t ∈ tokens, t.Names status

/-- Tokens name a status if one of them does. -/
theorem mem_named {tokens : List Token} {status : ReviewStatus} :
    status ∈ named tokens ↔ ∃ t ∈ tokens, t.Names status := by
  have hmem : status ∈ [ReviewStatus.due, .new, .leech] := by cases status <;> decide
  rw [named, List.mem_filter, and_iff_right hmem, decide_eq_true_eq]

/-- What is collected from the tokens is the set of the statuses that they name. -/
theorem toList_ofList_reviewStatus? (tokens : List Token) :
    (StatusSet.ofList (tokens.filterMap Token.reviewStatus?)).toList = named tokens := by
  refine List.filter_congr fun status _ => ?_
  rw [Bool.eq_iff_iff, StatusSet.contains_ofList, List.mem_filterMap, decide_eq_true_eq]
  simp only [Token.reviewStatus?_eq_some_iff]

/-- The tokens that go on name no status. -/
theorem named_remaining (tokens : List Token) : named (remaining tokens) = [] := by
  -- a status that is named by what goes on was named before
  refine List.eq_nil_iff_forall_not_mem.2 fun status hstatus => ?_
  obtain ⟨u, hu, hnames⟩ := mem_named.1 hstatus
  obtain ⟨t, -, hnone, rfl⟩ := mem_remaining.1 hu
  exact Token.not_names_withoutReview hnone status hnames

end Review

namespace ReviewFilter

/-- A filter is for a user and a list of statuses: there is one exactly if there are statuses, and it
    has the user and these statuses, in their order. -/
structure IsFor (filter? : Option ReviewFilter) (user : String) (statuses : List ReviewStatus) :
    Prop where
  eq_none_iff : filter? = none ↔ statuses = []
  of_some : ∀ filter, filter? = some filter →
    filter.user = user ∧ filter.statuses.toList = statuses

/-- The filter for tokens is for the statuses that they name. -/
theorem isFor_ofTokens? (user : String) (tokens : List Token) :
    IsFor (ofTokens? user tokens) user (Review.named tokens) := by
  have hlist := Review.toList_ofList_reviewStatus? tokens
  have hofSet : ofTokens? user tokens =
      ofSet? user (.ofList (tokens.filterMap Token.reviewStatus?)) := rfl
  constructor
  · rw [← hlist, hofSet, ofSet?, StatusSet.isEmpty, ← List.isEmpty_iff]
    split <;> simp_all
  · intro filter hfilter
    obtain ⟨-, rfl⟩ := ofSet?_eq_some_iff.1 (hofSet.symm.trans hfilter)
    exact ⟨rfl, hlist⟩

end ReviewFilter

/-- **The pass for review statuses parts the tokens.**  Those that name no status go on in their
    order, each without the field `is` and unchanged otherwise; the others make the filter.  Of the
    tokens that go on, none has the field `is`, and a second pass, for whatever user, gives no filter
    and the same tokens. -/
theorem review_pass_splits (user : String) (tokens : List Token) :
    Review.remaining tokens =
        (tokens.filter fun t => ¬ ∃ status, t.Names status).map Token.withoutReview ∧
      ReviewFilter.IsFor (ReviewFilter.ofTokens? user tokens) user (Review.named tokens) ∧
      (∀ t ∈ Review.remaining tokens, t.hasField "is" = false) ∧
      (∀ user', ReviewFilter.ofTokens? user' (Review.remaining tokens) = none) ∧
      Review.remaining (Review.remaining tokens) = Review.remaining tokens := by
  refine ⟨Review.remaining_eq tokens, ReviewFilter.isFor_ofTokens? user tokens, ?_, ?_,
    Review.remaining_remaining tokens⟩
  · intro u hu
    obtain ⟨t, -, -, rfl⟩ := Review.mem_remaining.1 hu
    exact t.hasField_withoutReview
  · intro user'
    have hsecond := ReviewFilter.isFor_ofTokens? user' (Review.remaining tokens)
    exact hsecond.eq_none_iff.2 (Review.named_remaining tokens)

/-- A keyword counts if it is qualified, quoted or not, or bare and not quoted; what is no keyword
    loses the qualifier. -/
example :
    Review.remaining
        [{ field := some "IS", value := "Leech", quoted := true }, { value := "due", quoted := true },
          { field := some "is", value := "foo", quoted := true }, { value := "DUE" },
          { field := some "is:", value := "new" }] =
      [{ value := "due", quoted := true }, { value := "foo", quoted := true },
        { field := some "is:", value := "new" }] := by
  decide +kernel

end FieldSearch
