import FieldSearch.Extra
import FieldSearch.Proofs.Search.Passes
import Mathlib.Data.List.Basic

namespace FieldSearch

/-!
# Tokens that extensions claim

The extensions of an entity claim tokens before its fields are looked at.  Where these stand in a
query, in which order and how often, makes no difference.

* `Token.Names` says that a token names a review status, `Registry.Claims` that it is claimed;
* `Registry.fieldToken?_eq_none_iff` says that the claimed tokens are those that do not go on to the
  fields, and `Registry.fieldTokens_unclaimed` that these get along without them;
* `Registry.FiltersBy` says of a compiled query that its filters are for the sets of what the tokens
  ask for, and `Registry.filtersBy_searchTokens` that those of a search are;
* `search_eq_up_to_claims` compares the searches for two queries.
-/

/-! ### Naming a review status -/

/-- The keyword of a status is read as the status, up to ASCII case, and nothing else is. -/
theorem ReviewStatus.ofKeyword?_eq_some_iff {text : String} {status : ReviewStatus} :
    ofKeyword? text = some status ↔ asciiFold text = status.keyword := by
  have hkeyword : ∀ x y : ReviewStatus, x.keyword = y.keyword → x = y := by
    intro x y
    cases x <;> cases y <;> decide
  have hmem : status ∈ all := by cases status <;> decide
  rw [ofKeyword?]
  constructor
  · intro h
    simpa using List.find?_some h
  · intro h
    cases hfind : all.find? fun x => asciiFold text == x.keyword with
    | none =>
      have := List.find?_eq_none.1 hfind status hmem
      simp [h] at this
    | some x =>
      -- the keywords of two statuses differ
      have hx : asciiFold text = x.keyword := by simpa using List.find?_some hfind
      rw [hkeyword x status (hx.symm.trans h)]

namespace Token

/-- A token names a review status if its value is the keyword, up to ASCII case, and the token is
    qualified as a review status, or is bare and not quoted. -/
inductive Names (t : Token) (status : ReviewStatus) : Prop
  | qualified (field : t.hasField "is" = true) (keyword : asciiFold t.value = status.keyword)
  | word (bare : t.field = none) (unquoted : t.quoted = false)
      (keyword : asciiFold t.value = status.keyword)

/-- A token is claimed for the status that it names. -/
theorem reviewStatus?_eq_some_iff {t : Token} {status : ReviewStatus} :
    t.reviewStatus? = some status ↔ t.Names status := by
  rw [reviewStatus?_eq]
  constructor
  · intro h
    split at h
    · rename_i hform
      have hkeyword := ReviewStatus.ofKeyword?_eq_some_iff.1 h
      -- the two forms of a token that can be claimed are the two cases of the name
      rcases Bool.or_eq_true_iff.1 hform with hreview | hword
      · exact .qualified hreview hkeyword
      · obtain ⟨hbare, hquoted⟩ := Bool.and_eq_true_iff.1 hword
        exact .word (Option.isNone_iff_eq_none.1 hbare) (by simpa using hquoted) hkeyword
    · cases h
  · intro h
    cases h with
    | qualified field keyword =>
      rw [if_pos (by rw [isReview, field, Bool.true_or])]
      exact ReviewStatus.ofKeyword?_eq_some_iff.2 keyword
    | word bare unquoted keyword =>
      rw [if_pos (by rw [isBare, bare, unquoted]; exact Bool.or_true _)]
      exact ReviewStatus.ofKeyword?_eq_some_iff.2 keyword

instance (t : Token) (status : ReviewStatus) : Decidable (t.Names status) :=
  decidable_of_iff (t.reviewStatus? = some status) reviewStatus?_eq_some_iff

/-- The tokens that do not go on after review statuses are claimed are those that name one. -/
theorem afterReview?_eq_none_iff {t : Token} :
    t.afterReview? = none ↔ ∃ status, t.Names status := by
  have hstatus : t.afterReview? = none ↔ ∃ status, t.reviewStatus? = some status := by
    unfold afterReview? reviewStatus?
    cases t.reviewClaim <;> simp
  rw [hstatus]
  exact exists_congr fun status => reviewStatus?_eq_some_iff

/-- A token that is qualified as a review status asks for no tag. -/
theorem isTag_of_isReview {t : Token} (h : t.isReview = true) : t.isTag = false := by
  obtain ⟨field, hfield, hfold⟩ := (hasField_iff t "is").1 h
  have hne : asciiFold "is" ≠ asciiFold "tag" := by decide
  rw [isTag, Bool.eq_false_iff, ne_eq, hasField_iff]
  -- a token has one field, which cannot equal both names
  rintro ⟨field', hfield', hfold'⟩
  obtain rfl : field = field' := Option.some.inj (hfield.symm.trans hfield')
  exact hne (hfold.symm.trans hfold')

/-- A token that names a review status asks for no tag. -/
theorem Names.isTag_eq_false {t : Token} {status : ReviewStatus} (h : t.Names status) :
    t.isTag = false := by
  cases h with
  | qualified field _ => exact isTag_of_isReview field
  | word bare _ _ => exact hasField_of_isBare (by rw [isBare, bare]; rfl) "tag"

/-- A token that goes on after review statuses are claimed asks for a tag exactly if it did so
    before. -/
theorem isTag_of_afterReview? {t u : Token} (h : t.afterReview? = some u) : u.isTag = t.isTag := by
  rcases eq_or_eq_of_afterReview? h with rfl | ⟨hreview, rfl⟩
  · rfl
  · rw [isTag_of_isReview hreview]
    exact hasField_of_isBare rfl "tag"

/-- Claiming review statuses changes nothing in the tag that a token asks for. -/
theorem bind_tag?_afterReview? (t : Token) : t.afterReview?.bind tag? = t.tag? := by
  cases h : t.afterReview? with
  | none =>
    -- a token that is claimed asks for no tag
    obtain ⟨status, hnames⟩ := afterReview?_eq_none_iff.1 h
    rw [tag?, hnames.isTag_eq_false]
    rfl
  | some u =>
    have hvalue : u.value = t.value := by
      rcases eq_or_eq_of_afterReview? h with rfl | ⟨-, rfl⟩ <;> rfl
    show u.tag? = t.tag?
    rw [tag?, tag?, isTag_of_afterReview? h, hvalue]

end Token

namespace Registry

variable {φ μ : Type} (r : Registry φ μ)

/-! ### Claimed tokens -/

/-- A token is claimed if it has the field `tag` and the entity has tags, or if it names a review
    status and the entity has review statuses. -/
inductive Claims (t : Token) : Prop
  | tag (enabled : r.extensions.tags = true) (field : t.hasField "tag" = true)
  | status (enabled : r.extensions.review = true) {status : ReviewStatus}
      (names : t.Names status)

variable {r} {t u : Token}

/-- Whether a token asks for a tag does not change when review statuses are claimed. -/
theorem isTag_of_reviewedToken? (h : r.reviewedToken? t = some u) : u.isTag = t.isTag := by
  unfold reviewedToken? at h
  split at h
  · exact Token.isTag_of_afterReview? h
  · rw [Option.some.inj h]

/-- The tag that a token asks for does not change when review statuses are claimed. -/
theorem tag?_eq (r : Registry φ μ) (t : Token) :
    r.tag? t = if r.extensions.tags then t.tag? else none := by
  have htag : (r.reviewedToken? t).bind Token.tag? = t.tag? := by
    unfold reviewedToken?
    split
    · exact t.bind_tag?_afterReview?
    · rfl
  rw [tag?, htag]

/-- The tokens that do not go on after review statuses are claimed are those that name one, if the
    entity has review statuses. -/
theorem reviewedToken?_eq_none_iff :
    r.reviewedToken? t = none ↔ r.extensions.review = true ∧ ∃ status, t.Names status := by
  unfold reviewedToken?
  split
  · rename_i hreview
    rw [Token.afterReview?_eq_none_iff]
    exact (and_iff_right hreview).symm
  · rename_i hreview
    simp [hreview]

/-- The claimed tokens are those that do not go on to the fields. -/
theorem fieldToken?_eq_none_iff : r.fieldToken? t = none ↔ r.Claims t := by
  rw [fieldToken?, Option.filter_eq_none_iff]
  constructor
  · intro h
    cases hu : r.reviewedToken? t with
    | none =>
      obtain ⟨hreview, status, hnames⟩ := reviewedToken?_eq_none_iff.1 hu
      exact .status hreview hnames
    | some u =>
      -- the token has gone on, and so it is removed as a tag
      have htag : (r.extensions.tags && u.isTag) = true := by simpa using h u hu
      obtain ⟨htags, hfield⟩ := Bool.and_eq_true_iff.1 htag
      exact .tag htags ((isTag_of_reviewedToken? hu).symm.trans hfield)
  · rintro (⟨htags, hfield⟩ | ⟨hreview, hnames⟩) u hu
    · have htag : u.isTag = true := (isTag_of_reviewedToken? hu).trans hfield
      simp [htags, htag]
    · have hnone := reviewedToken?_eq_none_iff.2 ⟨hreview, _, hnames⟩
      rw [hnone] at hu
      cases hu

instance : DecidablePred r.Claims := fun t =>
  decidable_of_iff (r.fieldToken? t = none) fieldToken?_eq_none_iff

/-- The status that a token is claimed for is the one that it names. -/
theorem status?_eq_some_iff {status : ReviewStatus} :
    r.status? t = some status ↔ r.Claims t ∧ t.Names status := by
  unfold status?
  split
  · rename_i hreview
    rw [Token.reviewStatus?_eq_some_iff]
    exact ⟨fun h => ⟨.status hreview h, h⟩, And.right⟩
  · rename_i hreview
    constructor
    · intro h
      cases h
    · rintro ⟨hclaims, hnames⟩
      -- a token that names a status is no tag, and so is claimed for the status
      cases hclaims with
      | tag _ field => exact absurd (hnames.isTag_eq_false.symm.trans field) (by decide)
      | status enabled _ => exact absurd enabled hreview

/-- The tag that a token is claimed for is its value, if there is one. -/
theorem tag?_eq_some_iff {x : String} :
    r.tag? t = some x ↔
      r.extensions.tags = true ∧ t.hasField "tag" = true ∧ t.value ≠ "" ∧ t.value = x := by
  rw [tag?_eq]
  split
  · rename_i htags
    simp [htags, Token.tag?, Token.isTag, and_assoc]
  · rename_i htags
    simp [htags]

/-! ### Searches without the claimed tokens -/

/-- The tokens that are not claimed. -/
def unclaimed (r : Registry φ μ) (tokens : List Token) : List Token :=
  tokens.filter fun t => ¬ r.Claims t

/-- What goes on to the fields comes from the tokens that are not claimed. -/
theorem fieldTokens_unclaimed (r : Registry φ μ) (tokens : List Token) :
    r.fieldTokens (r.unclaimed tokens) = r.fieldTokens tokens := by
  rw [fieldTokens_eq, fieldTokens_eq, unclaimed, List.filterMap_filter]
  refine List.filterMap_congr fun t _ => ?_
  by_cases h : r.Claims t
  · rw [fieldToken?_eq_none_iff.2 h, ite_self]
  · rw [if_pos (by simpa using h)]

/-- A tag that the tokens ask for: the value, unless it is empty, of a token with the field
    `tag`. -/
def AsksForTag (tokens : List Token) (x : String) : Prop :=
  x ≠ "" ∧ ∃ t ∈ tokens, t.hasField "tag" = true ∧ t.value = x

/-- A status that the tokens ask for: one that a claimed token names. -/
def AsksForStatus (r : Registry φ μ) (tokens : List Token) (status : ReviewStatus) : Prop :=
  ∃ t ∈ tokens, r.Claims t ∧ t.Names status

/-- The filters of a compiled query are for the sets of what the tokens ask for, and missing if
    these are empty; the tags are in ascending order. -/
structure FiltersBy (r : Registry φ μ) (user : String) (tokens : List Token)
    (q : CompiledQuery μ) : Prop where
  tags_eq_none_iff : q.tags? = none ↔ r.extensions.tags = false ∨ ∀ x, ¬ AsksForTag tokens x
  of_tags : ∀ f, q.tags? = some f → f.user = user ∧ f.tags.toList.Pairwise (· < ·) ∧
    ∀ x, x ∈ f.tags ↔ AsksForTag tokens x
  review_eq_none_iff : q.review? = none ↔ ∀ status, ¬ r.AsksForStatus tokens status
  of_review : ∀ f, q.review? = some f → f.user = user ∧
    ∀ status, f.statuses.contains status = true ↔ r.AsksForStatus tokens status

variable (r : Registry φ μ) (tokens : List Token)

/-- What the tokens are claimed for as tags is what they ask for, if the entity has tags. -/
theorem mem_filterMap_tag? {x : String} :
    x ∈ tokens.filterMap r.tag? ↔ r.extensions.tags = true ∧ AsksForTag tokens x := by
  rw [List.mem_filterMap]
  constructor
  · rintro ⟨t, ht, hx⟩
    obtain ⟨htags, hfield, hne, rfl⟩ := tag?_eq_some_iff.1 hx
    exact ⟨htags, hne, t, ht, hfield, rfl⟩
  · rintro ⟨htags, hne, t, ht, hfield, rfl⟩
    exact ⟨t, ht, tag?_eq_some_iff.2 ⟨htags, hfield, hne, rfl⟩⟩

/-- What the tokens are claimed for as statuses is what they ask for. -/
theorem mem_filterMap_status? {status : ReviewStatus} :
    status ∈ tokens.filterMap r.status? ↔ r.AsksForStatus tokens status := by
  rw [List.mem_filterMap]
  exact exists_congr fun t => and_congr_right fun _ => status?_eq_some_iff

/-- The filters of a search are for what the tokens ask for. -/
theorem filtersBy_searchTokens (options : SearchOptions) (user : String) :
    r.FiltersBy user tokens (r.searchTokens options user tokens) := by
  have htags : (r.searchTokens options user tokens).tags? =
      TagFilter.ofSet? user (.ofList (tokens.filterMap r.tag?)) := r.tagFilter?_eq user tokens
  have hreview : (r.searchTokens options user tokens).review? =
      ReviewFilter.ofSet? user (.ofList (tokens.filterMap r.status?)) :=
    r.reviewFilter?_eq user tokens
  constructor
  case tags_eq_none_iff =>
    rw [htags, ← Option.isNone_iff_eq_none, TagFilter.isNone_ofSet?_ofList, List.isEmpty_iff,
      List.eq_nil_iff_forall_not_mem]
    simp only [mem_filterMap_tag?, not_and]
    cases r.extensions.tags <;> simp
  case of_tags =>
    intro f hf
    rw [htags, TagFilter.ofSet?_eq_some_iff] at hf
    obtain ⟨hne, rfl⟩ := hf
    -- there is a tag in the set only if the extension applies
    have henabled : r.extensions.tags = true := by
      obtain ⟨x, hx⟩ := List.exists_mem_of_ne_nil (tokens.filterMap r.tag?) fun hnil => by
        simp [hnil, TagSet.isEmpty_ofList] at hne
      exact ((r.mem_filterMap_tag? tokens).1 hx).1
    refine ⟨rfl, TagSet.ascending _, fun x => ?_⟩
    rw [TagSet.mem_ofList, mem_filterMap_tag?, and_iff_right henabled]
  case review_eq_none_iff =>
    rw [hreview, ← Option.isNone_iff_eq_none, ReviewFilter.isNone_ofSet?_ofList,
      List.isEmpty_iff, List.eq_nil_iff_forall_not_mem]
    exact forall_congr' fun status => not_congr (r.mem_filterMap_status? tokens)
  case of_review =>
    intro f hf
    rw [hreview, ReviewFilter.ofSet?_eq_some_iff] at hf
    obtain ⟨-, rfl⟩ := hf
    refine ⟨rfl, fun status => ?_⟩
    rw [StatusSet.contains_ofList, mem_filterMap_status?]

section

variable {tokens tokens' : List Token} (options : SearchOptions) (user : String)

/-- Searches for tokens that are equal but for the claimed ones have the same term. -/
theorem term?_searchTokens_congr (h : r.unclaimed tokens = r.unclaimed tokens') :
    (r.searchTokens options user tokens).term? = (r.searchTokens options user tokens').term? := by
  -- the term is made of what goes on to the fields, and of nothing else
  have hfields : r.fieldTokens tokens = r.fieldTokens tokens' := by
    rw [← fieldTokens_unclaimed, h, fieldTokens_unclaimed]
  rw [searchTokens, searchTokens, keptTokens, keptTokens, hfields]

/-- Searches for tokens that ask for the same tags have the same tag filter. -/
theorem tags?_searchTokens_congr (h : ∀ x, AsksForTag tokens x ↔ AsksForTag tokens' x) :
    (r.searchTokens options user tokens).tags? = (r.searchTokens options user tokens').tags? := by
  have hset : TagSet.ofList (tokens.filterMap r.tag?) = .ofList (tokens'.filterMap r.tag?) := by
    refine TagSet.ext_mem fun x => ?_
    rw [TagSet.mem_ofList, TagSet.mem_ofList, mem_filterMap_tag?, mem_filterMap_tag?, h]
  rw [searchTokens, searchTokens, tagFilter?_eq, tagFilter?_eq, hset]

/-- Searches for tokens that ask for the same statuses have the same review filter. -/
theorem review?_searchTokens_congr
    (h : ∀ status, r.AsksForStatus tokens status ↔ r.AsksForStatus tokens' status) :
    (r.searchTokens options user tokens).review? =
      (r.searchTokens options user tokens').review? := by
  have hset : StatusSet.ofList (tokens.filterMap r.status?) =
      .ofList (tokens'.filterMap r.status?) := by
    ext status
    rw [Bool.eq_iff_iff, StatusSet.contains_ofList, StatusSet.contains_ofList,
      mem_filterMap_status?, mem_filterMap_status?, h]
  rw [searchTokens, searchTokens, reviewFilter?_eq, reviewFilter?_eq, hset]

end

end Registry

/-- **Claimed tokens may stand anywhere.**  Queries that are equal but for their claimed tokens have
    the same term, within any limit; if the values of their tags are the same set, they have the
    same tag filter, and if they name the same set of statuses, the same review filter.  The filters
    are for these sets, and missing if they are empty. -/
theorem search_eq_up_to_claims {φ μ : Type} (r : Registry φ μ) (options : SearchOptions)
    (user q₁ q₂ : String) :
    (r.unclaimed (tokenize q₁) = r.unclaimed (tokenize q₂) →
      (r.search options user q₁).term? = (r.search options user q₂).term?) ∧
    ((∀ x, Registry.AsksForTag (tokenize q₁) x ↔ Registry.AsksForTag (tokenize q₂) x) →
      (r.search options user q₁).tags? = (r.search options user q₂).tags?) ∧
    ((∀ status, r.AsksForStatus (tokenize q₁) status ↔ r.AsksForStatus (tokenize q₂) status) →
      (r.search options user q₁).review? = (r.search options user q₂).review?) ∧
    r.FiltersBy user (tokenize q₁) (r.search options user q₁) :=
  ⟨r.term?_searchTokens_congr options user, r.tags?_searchTokens_congr options user,
    r.review?_searchTokens_congr options user, r.filtersBy_searchTokens _ options user⟩

/-- Two tags and a status stand before and between three other tokens, or around and behind them,
    and one tag twice.  Of the other tokens, one of which loses the qualifier of review statuses,
    the limit takes two. -/
theorem search_eq_up_to_claims_moved :
    let q₁ := "due tag:b entry:a is:x tag:a english:c"
    let q₂ := "tag:a entry:a tag:b is:x tag:a english:c is:DUE"
    (Extra.registry.unclaimed (tokenize q₁) = Extra.registry.unclaimed (tokenize q₂) ∧
      (∀ x, Registry.AsksForTag (tokenize q₁) x ↔ Registry.AsksForTag (tokenize q₂) x) ∧
      ∀ status, Extra.registry.AsksForStatus (tokenize q₁) status ↔
        Extra.registry.AsksForStatus (tokenize q₂) status) ∧
    Extra.registry.search { maxTokens := 2 } "u" q₁ =
      Extra.registry.search { maxTokens := 2 } "u" q₂ := by
  intro q₁ q₂
  have h₁ : tokenize q₁ = [.ofWord "due", { field := some "tag", value := "b" },
      { field := some "entry", value := "a" }, { field := some "is", value := "x" },
      { field := some "tag", value := "a" }, { field := some "english", value := "c" }] := by
    decide +kernel
  have h₂ : tokenize q₂ = [{ field := some "tag", value := "a" },
      { field := some "entry", value := "a" }, { field := some "tag", value := "b" },
      { field := some "is", value := "x" }, { field := some "tag", value := "a" },
      { field := some "english", value := "c" }, { field := some "is", value := "DUE" }] := by
    decide +kernel
  have hunclaimed :
      Extra.registry.unclaimed (tokenize q₁) = Extra.registry.unclaimed (tokenize q₂) := by
    rw [h₁, h₂]
    decide +kernel
  have htags (x : String) :
      Registry.AsksForTag (tokenize q₁) x ↔ Registry.AsksForTag (tokenize q₂) x := by
    have hmem₁ := Extra.registry.mem_filterMap_tag? (tokenize q₁) (x := x)
    have hmem₂ := Extra.registry.mem_filterMap_tag? (tokenize q₂) (x := x)
    have htags₁ : (tokenize q₁).filterMap Extra.registry.tag? = ["b", "a"] := by
      rw [h₁]
      decide +kernel
    have htags₂ : (tokenize q₂).filterMap Extra.registry.tag? = ["a", "b", "a"] := by
      rw [h₂]
      decide +kernel
    have henabled : Extra.registry.extensions.tags = true := rfl
    rw [and_iff_right henabled] at hmem₁ hmem₂
    rw [← hmem₁, ← hmem₂, htags₁, htags₂]
    grind
  have hstatuses (status : ReviewStatus) : Extra.registry.AsksForStatus (tokenize q₁) status ↔
      Extra.registry.AsksForStatus (tokenize q₂) status := by
    have h : (tokenize q₁).filterMap Extra.registry.status? =
        (tokenize q₂).filterMap Extra.registry.status? := by
      rw [h₁, h₂]
      decide +kernel
    rw [← Registry.mem_filterMap_status?, ← Registry.mem_filterMap_status?, h]
  obtain ⟨hterm, htag, hreview, -⟩ :=
    search_eq_up_to_claims Extra.registry { maxTokens := 2 } "u" q₁ q₂
  refine ⟨⟨hunclaimed, htags, hstatuses⟩, ?_⟩
  rw [CompiledQuery.mk.injEq]
  exact ⟨hterm hunclaimed, htag htags, hreview hstatuses⟩

end FieldSearch
