import FieldSearch.Proofs.Registry
import FieldSearch.Proofs.Search.Passes

namespace FieldSearch

/-!
# Queries without empty parts

A part of a compiled query that would be empty is missing.

* `CompiledQuery.IsPopulated` says that no part of a query is empty;
* `TagFilter.of_ofTokens?`, `ReviewFilter.exists_status_of_ofTokens?` and
  `Registry.isPopulated_of_compile` say so of each part that tokens come to, and
  `Registry.isPopulated_searchTokens` of the queries of searches.
-/

/-- No part of the query is empty: neither the tags nor one of them, nor the review statuses, nor a
    node of the term. -/
structure CompiledQuery.IsPopulated {μ : Type} (q : CompiledQuery μ) : Prop where
  tags_ne_nil : ∀ filter, q.tags? = some filter → filter.tags.toList ≠ []
  empty_notMem : ∀ filter, q.tags? = some filter → "" ∉ filter.tags
  exists_status : ∀ filter, q.review? = some filter →
    ∃ status, filter.statuses.contains status = true
  term : ∀ t, q.term? = some t → t.IsPopulated

/-- A filter for tokens has a tag, and none of its tags is empty. -/
theorem TagFilter.of_ofTokens? {user : String} {tokens : List Token} {f : TagFilter}
    (h : ofTokens? user tokens = some f) : f.tags.toList ≠ [] ∧ "" ∉ f.tags := by
  have hset : ofSet? user (.ofList (tokens.filterMap Token.tag?)) = some f := h
  obtain ⟨hne, rfl⟩ := ofSet?_eq_some_iff.1 hset
  refine ⟨fun hnil => ?_, ?_⟩
  · rw [TagSet.isEmpty, hnil] at hne
    cases hne
  · rw [TagSet.mem_ofList, List.mem_filterMap]
    rintro ⟨t, -, ht⟩
    -- a token without a value asks for no tag
    obtain ⟨⟨-, hne⟩, hempty⟩ : (t.isTag = true ∧ t.value ≠ "") ∧ t.value = "" := by
      simpa [Token.tag?] using ht
    exact hne hempty

/-- A filter for tokens has a status. -/
theorem ReviewFilter.exists_status_of_ofTokens? {user : String} {tokens : List Token}
    {f : ReviewFilter} (h : ofTokens? user tokens = some f) :
    ∃ status, f.statuses.contains status = true := by
  have hset : ofSet? user (.ofList (tokens.filterMap Token.reviewStatus?)) = some f := h
  obtain ⟨hne, rfl⟩ := ofSet?_eq_some_iff.1 hset
  rw [StatusSet.isEmpty, List.isEmpty_eq_false_iff_exists_mem] at hne
  obtain ⟨status, hstatus⟩ := hne
  exact ⟨status, StatusSet.mem_toList.1 hstatus⟩

namespace Registry

variable {φ μ : Type} {r : Registry φ μ}

/-- The term of tokens has no empty node. -/
theorem isPopulated_of_compile {tokens : List Token} {t : Term μ}
    (h : r.compile tokens = some t) : t.IsPopulated :=
  (Term.isNormal_of_allOf? isClause_of_mem_filterMap h).isPopulated

/-- No part of the query of a search is empty. -/
theorem isPopulated_searchTokens (r : Registry φ μ) (options : SearchOptions) (user : String)
    (tokens : List Token) : (r.searchTokens options user tokens).IsPopulated := by
  have htags {f : TagFilter} (h : r.tagFilter? user tokens = some f) :
      f.tags.toList ≠ [] ∧ "" ∉ f.tags := by
    unfold tagFilter? at h
    split at h
    · exact TagFilter.of_ofTokens? h
    · cases h
  have hreview {f : ReviewFilter} (h : r.reviewFilter? user tokens = some f) :
      ∃ status, f.statuses.contains status = true := by
    unfold reviewFilter? at h
    split at h
    · exact ReviewFilter.exists_status_of_ofTokens? h
    · cases h
  exact ⟨fun f h => (htags h).1, fun f h => (htags h).2, fun f => hreview,
    fun t => isPopulated_of_compile⟩

end Registry

end FieldSearch
