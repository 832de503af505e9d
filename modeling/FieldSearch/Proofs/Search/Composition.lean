import FieldSearch.Extra
import FieldSearch.Proofs.Registry
import FieldSearch.Proofs.Search.Passes
import FieldSearch.Proofs.Token.Locality

namespace FieldSearch

/-!
# Queries with two parts

A query that is written behind another one, with blank space between them, asks for what both ask
for.

* `CompiledQuery.conjuncts`, `CompiledQuery.tagSet` and `CompiledQuery.statusSet` are what a
  compiled query asks for, where a part that is missing asks for nothing;
* `CompiledQuery.Composes` says of a compiled query that it asks for what two others ask for;
* `Registry.composes_append` says so of the tokens of two queries, and `search_append` of their
  texts.
-/

/-- Two lists in a row are empty if both are. -/
theorem isEmpty_append {α : Type} (xs ys : List α) :
    (xs ++ ys).isEmpty = (xs.isEmpty && ys.isEmpty) := by
  cases xs <;> rfl

/-! ### Unions of sets -/

namespace TagSet

instance : Union TagSet := ⟨fun s t => ofList (s.toList ++ t.toList)⟩

/-- The elements of a union are those of either set. -/
@[simp] theorem mem_union {s t : TagSet} {x : String} : x ∈ s ∪ t ↔ x ∈ s ∨ x ∈ t := by
  show x ∈ ofList (s.toList ++ t.toList) ↔ _
  rw [mem_ofList, List.mem_append]
  rfl

/-- The set of two lists in a row is the union of their sets. -/
theorem ofList_append (xs ys : List String) : ofList (xs ++ ys) = ofList xs ∪ ofList ys :=
  ext_mem fun x => by simp

/-- A set of tags without elements is the empty set. -/
theorem eq_empty_of_isEmpty {s : TagSet} (h : s.isEmpty = true) : s = empty := by
  refine ext_mem fun x => ?_
  rw [mem_iff, List.isEmpty_iff.1 h]
  rfl

end TagSet

namespace StatusSet

instance : Union StatusSet :=
  ⟨fun s t => ⟨s.due || t.due, s.new || t.new, s.leech || t.leech⟩⟩

/-- The statuses of a union are those of either set. -/
@[simp] theorem contains_union (s t : StatusSet) (x : ReviewStatus) :
    (s ∪ t).contains x = (s.contains x || t.contains x) := by
  cases x <;> rfl

/-- The set of two lists in a row is the union of their sets. -/
theorem ofList_append (xs ys : List ReviewStatus) :
    ofList (xs ++ ys) = ofList xs ∪ ofList ys := by
  ext x
  rw [Bool.eq_iff_iff, contains_union, Bool.or_eq_true]
  simp

/-- A set of review statuses without elements is the empty set. -/
theorem eq_empty_of_isEmpty {s : StatusSet} (h : s.isEmpty = true) : s = {} := by
  ext x
  have hx : x ∉ s.toList := by simp [List.isEmpty_iff.1 h]
  rw [mem_toList, Bool.not_eq_true] at hx
  cases x <;> exact hx

end StatusSet

/-! ### What a compiled query asks for -/

namespace CompiledQuery

variable {μ : Type}

/-- The terms of a compiled query that all have to hold. -/
def conjuncts (q : CompiledQuery μ) : List (Term μ) := q.term?.elim [] Term.conjuncts

/-- The tags that an entry has to carry, by a compiled query. -/
def tagSet (q : CompiledQuery μ) : TagSet := q.tags?.elim .empty TagFilter.tags

/-- The statuses of which an entry has to have one, or none if every entry will do. -/
def statusSet (q : CompiledQuery μ) : StatusSet := q.review?.elim {} ReviewFilter.statuses

/-- The query `q` asks for what `q₁` asks for, and then for what `q₂` does.  There is a filter, for
    the user, exactly if there is something to filter for. -/
structure Composes (user : String) (q₁ q₂ q : CompiledQuery μ) : Prop where
  conjuncts : q.conjuncts = q₁.conjuncts ++ q₂.conjuncts
  tags : q.tags? = TagFilter.ofSet? user (q₁.tagSet ∪ q₂.tagSet)
  review : q.review? = ReviewFilter.ofSet? user (q₁.statusSet ∪ q₂.statusSet)
  requiresJoin : q.requiresJoin = (q₁.requiresJoin || q₂.requiresJoin)
  isUnrestricted : q.isUnrestricted = (q₁.isUnrestricted && q₂.isUnrestricted)

end CompiledQuery

/-- The filter for a set is for its tags. -/
theorem TagFilter.elim_ofSet? (user : String) (tags : TagSet) :
    (ofSet? user tags).elim .empty TagFilter.tags = tags := by
  unfold ofSet?
  split
  · rename_i h
    exact (TagSet.eq_empty_of_isEmpty h).symm
  · rfl

/-- The filter for a set is for its statuses. -/
theorem ReviewFilter.elim_ofSet? (user : String) (statuses : StatusSet) :
    (ofSet? user statuses).elim {} ReviewFilter.statuses = statuses := by
  unfold ofSet?
  split
  · rename_i h
    exact (StatusSet.eq_empty_of_isEmpty h).symm
  · rfl

/-! ### Searches for the tokens of two queries -/

namespace Registry

variable {φ μ : Type} (r : Registry φ μ) (options : SearchOptions) (user : String)

/-- The term that a token asks for, if it goes on to the fields. -/
def fieldTerm? (t : Token) : Option (Term μ) := (r.fieldToken? t).bind r.resolve

/-- Within the limit, the term of a search is the conjunction of what its tokens ask for. -/
theorem term?_searchTokens {tokens : List Token} (h : tokens.length ≤ options.maxTokens) :
    (r.searchTokens options user tokens).term? = Term.allOf? (tokens.filterMap r.fieldTerm?) := by
  have hlength := r.length_fieldTokens_le tokens
  have hkept : r.keptTokens options tokens = tokens.filterMap r.fieldToken? := by
    rw [keptTokens, List.take_of_length_le (by omega), fieldTokens_eq]
  rw [searchTokens, compile, hkept, List.filterMap_filterMap]
  rfl

/-- What tokens ask for of the fields are clauses. -/
theorem isClause_of_mem_fieldTerm? {tokens : List Token} :
    ∀ term ∈ tokens.filterMap r.fieldTerm?, term.IsClause := by
  intro term hterm
  obtain ⟨t, -, ht⟩ := List.mem_filterMap.1 hterm
  obtain ⟨u, -, hu⟩ := Option.bind_eq_some_iff.1 ht
  exact isClause_of_resolve hu

/-- Within the limit, a search asks for the terms of all tokens. -/
theorem conjuncts_searchTokens {tokens : List Token} (h : tokens.length ≤ options.maxTokens) :
    (r.searchTokens options user tokens).conjuncts = tokens.filterMap r.fieldTerm? := by
  rw [CompiledQuery.conjuncts, r.term?_searchTokens options user h]
  exact Term.conjuncts_allOf? r.isClause_of_mem_fieldTerm?

/-- A search asks for the tags of all tokens. -/
theorem tagSet_searchTokens (tokens : List Token) :
    (r.searchTokens options user tokens).tagSet = .ofList (tokens.filterMap r.tag?) := by
  rw [CompiledQuery.tagSet, searchTokens, tagFilter?_eq, TagFilter.elim_ofSet?]

/-- A search asks for the statuses of all tokens. -/
theorem statusSet_searchTokens (tokens : List Token) :
    (r.searchTokens options user tokens).statusSet = .ofList (tokens.filterMap r.status?) := by
  rw [CompiledQuery.statusSet, searchTokens, reviewFilter?_eq, ReviewFilter.elim_ofSet?]

/-- A search joins the review records if a token asks for a status. -/
theorem requiresJoin_searchTokens (tokens : List Token) :
    (r.searchTokens options user tokens).requiresJoin =
      !(tokens.filterMap r.status?).isEmpty := by
  rw [CompiledQuery.requiresJoin, searchTokens, reviewFilter?_eq,
    ← ReviewFilter.isNone_ofSet?_ofList user, Option.not_isNone]

/-- Within the limit, a search is unrestricted if no token asks for anything. -/
theorem isUnrestricted_searchTokens {tokens : List Token}
    (h : tokens.length ≤ options.maxTokens) :
    (r.searchTokens options user tokens).isUnrestricted =
      ((tokens.filterMap r.fieldTerm?).isEmpty && (tokens.filterMap r.tag?).isEmpty &&
        (tokens.filterMap r.status?).isEmpty) := by
  have hterm : (r.searchTokens options user tokens).term?.isNone =
      (tokens.filterMap r.fieldTerm?).isEmpty := by
    rw [r.term?_searchTokens options user h, Bool.eq_iff_iff, Option.isNone_iff_eq_none,
      List.isEmpty_iff, Term.allOf?_eq_none_iff]
  rw [CompiledQuery.isUnrestricted, hterm, searchTokens, tagFilter?_eq, reviewFilter?_eq,
    TagFilter.isNone_ofSet?_ofList, ReviewFilter.isNone_ofSet?_ofList]

/-- Within the limit, a search for the tokens of two queries asks for what both ask for. -/
theorem composes_append {tokens tokens' : List Token}
    (h : tokens.length + tokens'.length ≤ options.maxTokens) :
    CompiledQuery.Composes user (r.searchTokens options user tokens)
      (r.searchTokens options user tokens')
      (r.searchTokens options user (tokens ++ tokens')) := by
  have h₁ : tokens.length ≤ options.maxTokens := by omega
  have h₂ : tokens'.length ≤ options.maxTokens := by omega
  have h₃ : (tokens ++ tokens').length ≤ options.maxTokens := by rwa [List.length_append]
  -- what the tokens ask for one by one is appended, and so are the sets and flags made of it
  constructor
  case conjuncts =>
    rw [r.conjuncts_searchTokens options user h₁, r.conjuncts_searchTokens options user h₂,
      r.conjuncts_searchTokens options user h₃, List.filterMap_append]
  case tags =>
    rw [tagSet_searchTokens, tagSet_searchTokens, ← TagSet.ofList_append,
      ← List.filterMap_append]
    exact r.tagFilter?_eq user _
  case review =>
    rw [statusSet_searchTokens, statusSet_searchTokens, ← StatusSet.ofList_append,
      ← List.filterMap_append]
    exact r.reviewFilter?_eq user _
  case requiresJoin =>
    simp only [requiresJoin_searchTokens, List.filterMap_append, isEmpty_append,
      Bool.not_and]
  case isUnrestricted =>
    rw [r.isUnrestricted_searchTokens options user h₁,
      r.isUnrestricted_searchTokens options user h₂,
      r.isUnrestricted_searchTokens options user h₃]
    simp only [List.filterMap_append, isEmpty_append]
    ac_rfl

end Registry

/-- **Queries compose.**  A query, blank space and another query ask for what the two queries ask
    for: for the terms of the first and then those of the second, for the tags of both and for the
    statuses of both.  The first query must not leave a quote open, and the limit must not be
    reached. -/
theorem search_append {φ μ : Type} (r : Registry φ μ) (options : SearchOptions)
    (user a w b : String) (hclosed : ∀ t ∈ tokenize a, ¬ t.LeavesQuoteOpen) (hne : w ≠ "")
    (hblank : IsBlankText w.toList)
    (hmax : (tokenize a).length + (tokenize b).length ≤ options.maxTokens) :
    CompiledQuery.Composes user (r.search options user a) (r.search options user b)
      (r.search options user (a ++ w ++ b)) := by
  have htokens := tokenize_append b hclosed hne hblank
  rw [Registry.search, Registry.search, Registry.search, htokens]
  exact r.composes_append options user hmax

/-- A status, a bare term with a quote inside, a tag and a quoted term, and behind a tab and an
    ideographic space another tag, another status and a match, with a limit of seven. -/
theorem search_append_mixed :
    (∀ t ∈ tokenize "due b\"c tag:x \"d e\"", ¬ t.LeavesQuoteOpen) ∧
      CompiledQuery.Composes "u"
        (Extra.registry.search { maxTokens := 7 } "u" "due b\"c tag:x \"d e\"")
        (Extra.registry.search { maxTokens := 7 } "u" "tag:y is:NEW entry:f")
        (Extra.registry.search { maxTokens := 7 } "u"
          ("due b\"c tag:x \"d e\"" ++ "\t\u3000" ++ "tag:y is:NEW entry:f")) := by
  have hclosed : ∀ t ∈ tokenize "due b\"c tag:x \"d e\"", ¬ t.LeavesQuoteOpen := by
    decide +kernel
  exact ⟨hclosed, search_append _ _ _ _ _ _ hclosed (by decide) (by decide +kernel)
    (by decide +kernel)⟩

end FieldSearch
