import FieldSearch.Extra
import FieldSearch.Proofs.Registry
import FieldSearch.Proofs.Search.Passes

namespace FieldSearch

/-!
# Tokens that a search ignores

Tokens without a value or with an unknown field have no part in the result of a search.  They count
towards the limit on the number of tokens, though, so that they can push other tokens out.

* `Inserted` is a list with more elements put in anywhere;
* `Registry.Ignores` says which tokens are ignored, by what the registry knows;
* `search_inserted` says that a query with ignored tokens put in finds what the query without them
  finds, and the same if the limit is not reached.
-/

/-! ### Lists with elements put in -/

/-- The second list is the first one with elements put in that satisfy `p`, at any places. -/
inductive Inserted {α : Type} (p : α → Prop) : List α → List α → Prop
  | nil : Inserted p [] []
  | keep (x : α) {xs ys : List α} (more : Inserted p xs ys) : Inserted p (x :: xs) (x :: ys)
  | insert {y : α} (hy : p y) {xs ys : List α} (more : Inserted p xs ys) : Inserted p xs (y :: ys)

namespace Inserted

variable {α β : Type} {p : α → Prop} {xs ys : List α}

/-- A list with elements put in is not shorter than the list. -/
theorem length_le (h : Inserted p xs ys) : xs.length ≤ ys.length := by
  induction h with
  | nil => exact Nat.le_refl _
  | keep x _ ih => simpa using ih
  | insert hy _ ih =>
    rw [List.length_cons]
    omega

/-- What becomes of the elements of a list, one by one, has elements put in if the list has. -/
theorem filterMap {q : β → Prop} {f : α → Option β} (hf : ∀ y, p y → ∀ z, f y = some z → q z)
    (h : Inserted p xs ys) : Inserted q (xs.filterMap f) (ys.filterMap f) := by
  induction h with
  | nil => exact .nil
  | keep x _ ih =>
    rw [List.filterMap_cons, List.filterMap_cons]
    cases f x with
    | none => exact ih
    | some z => exact .keep z ih
  | @insert y hy _ _ _ ih =>
    rw [List.filterMap_cons]
    cases hz : f y with
    | none => exact ih
    | some z => exact .insert (hf y hy z hz) ih

/-- If nothing becomes of the elements that are put in, what becomes of the list is the same. -/
theorem filterMap_eq {f : α → Option β} (hf : ∀ y, p y → f y = none) (h : Inserted p xs ys) :
    ys.filterMap f = xs.filterMap f := by
  induction h with
  | nil => rfl
  | keep x _ ih => rw [List.filterMap_cons, List.filterMap_cons, ih]
  | insert hy _ ih => rw [List.filterMap_cons_none (hf _ hy), ih]

/-- The front of a list with elements put in is a front of the list, no longer than it, with
    elements put in. -/
theorem exists_take (h : Inserted p xs ys) (n : Nat) :
    ∃ k, k ≤ n ∧ Inserted p (xs.take k) (ys.take n) := by
  induction h generalizing n with
  | nil => exact ⟨0, Nat.zero_le n, by simpa using .nil⟩
  | keep x _ ih =>
    cases n with
    | zero => exact ⟨0, Nat.le_refl 0, .nil⟩
    | succ n =>
      obtain ⟨k, hk, hmore⟩ := ih n
      exact ⟨k + 1, Nat.succ_le_succ hk, .keep x hmore⟩
  | insert hy _ ih =>
    cases n with
    | zero => exact ⟨0, Nat.le_refl 0, .nil⟩
    | succ n =>
      -- the new element takes the place of one that is cut off
      obtain ⟨k, hk, hmore⟩ := ih n
      exact ⟨k, Nat.le_succ_of_le hk, .insert hy hmore⟩

end Inserted

/-! ### Ignored tokens -/

namespace Registry

variable {φ μ : Type}

/-- A token is ignored if it has no value, or if its field is known neither to the registry nor to
    one of the extensions that apply. -/
inductive Ignores (r : Registry φ μ) (t : Token) : Prop
  | emptyValue (value : t.value = "")
  | unknownField {name : String} (field : t.field = some name) (unknown : r.lookup name = none)
      (noTag : r.extensions.tags = true → t.isTag = false)
      (noReview : r.extensions.review = true → t.isReview = false)

variable {r : Registry φ μ} {t : Token} (h : r.Ignores t)

include h

/-- An ignored token asks for no review status. -/
theorem Ignores.status?_eq_none : r.status? t = none := by
  unfold status?
  split
  · rename_i hreview
    rw [Token.reviewStatus?_eq]
    cases h with
    | emptyValue value =>
      -- no status has an empty keyword
      have hkeyword : ReviewStatus.ofKeyword? "" = none := by decide
      rw [value, hkeyword, ite_self]
    | unknownField field _ _ noReview =>
      rw [noReview hreview, Token.isBare, field]
      rfl
  · rfl

/-- What goes on of an ignored token has no value, or is the token itself. -/
theorem Ignores.of_reviewedToken? {u : Token} (hu : r.reviewedToken? t = some u) : r.Ignores u := by
  rcases eq_or_eq_of_reviewedToken? hu with rfl | ⟨⟨hreview, his⟩, rfl⟩
  · exact h
  · cases h with
    | emptyValue value => exact .emptyValue value
    | unknownField _ _ _ noReview =>
      rw [noReview hreview] at his
      exact absurd his (by decide)

/-- An ignored token asks for no tag. -/
theorem Ignores.tag?_eq_none : r.tag? t = none := by
  unfold tag?
  split
  · rename_i htags
    rw [Option.bind_eq_none_iff]
    intro u hu
    -- what has gone on is ignored as well
    rw [Token.tag?]
    cases h.of_reviewedToken? hu with
    | emptyValue value => simp [value]
    | unknownField _ _ noTag _ => simp [noTag htags]
  · rfl

/-- What goes on to the fields of an ignored token is left out there. -/
theorem Ignores.leavesOut {u : Token} (hu : r.fieldToken? t = some u) : r.LeavesOut u := by
  cases h.of_reviewedToken? (reviewedToken?_of_fieldToken? hu) with
  | emptyValue value => exact .emptyValue value
  | unknownField field unknown _ _ => exact .unknownField field unknown

end Registry

/-! ### Searches -/

/-- Whether the term of a query holds, when a match `m` holds exactly if `v m`.  No term holds. -/
def CompiledQuery.termHolds {μ : Type} (v : μ → Bool) (q : CompiledQuery μ) : Bool :=
  q.term?.all (Term.holds v)

namespace Registry

variable {φ μ : Type} (r : Registry φ μ)

/-- The term of a list of tokens holds if the terms of the tokens do. -/
theorem all_holds_compile (tokens : List Token) (v : μ → Bool) :
    (r.compile tokens).all (Term.holds v) = (tokens.filterMap r.resolve).all (Term.holds v) := by
  cases h : r.compile tokens with
  | some term => exact Term.holds_of_allOf? h v
  | none => rw [Term.allOf?_eq_none_iff.1 h]; rfl

/-- The term of some of the tokens of a list holds wherever that of the list does. -/
theorem all_holds_compile_of_sublist {tokens tokens' : List Token} (h : tokens.Sublist tokens')
    {v : μ → Bool} (hv : (r.compile tokens').all (Term.holds v) = true) :
    (r.compile tokens).all (Term.holds v) = true := by
  rw [all_holds_compile, List.all_eq_true] at hv ⊢
  exact fun term hterm => hv term ((h.filterMap r.resolve).subset hterm)

section

variable {r} {ts us : List Token}

/-- Tokens that are left out, put in anywhere, do not change the term. -/
theorem compile_inserted (h : Inserted r.LeavesOut ts us) : r.compile us = r.compile ts := by
  rw [compile, compile, h.filterMap_eq fun t ht => resolve_eq_none_iff.2 ht]

/-- Of ignored tokens, only such that are left out are put in among the field tokens. -/
theorem inserted_fieldTokens (h : Inserted r.Ignores ts us) :
    Inserted r.LeavesOut (r.fieldTokens ts) (r.fieldTokens us) := by
  rw [fieldTokens_eq, fieldTokens_eq]
  exact h.filterMap fun t ht u hu => ht.leavesOut hu

/-- Ignored tokens do not change the tags. -/
theorem tagFilter?_inserted (h : Inserted r.Ignores ts us) (user : String) :
    r.tagFilter? user us = r.tagFilter? user ts := by
  rw [tagFilter?_eq, tagFilter?_eq, h.filterMap_eq fun t ht => ht.tag?_eq_none]

/-- Ignored tokens do not change the review statuses. -/
theorem reviewFilter?_inserted (h : Inserted r.Ignores ts us) (user : String) :
    r.reviewFilter? user us = r.reviewFilter? user ts := by
  rw [reviewFilter?_eq, reviewFilter?_eq, h.filterMap_eq fun t ht => ht.status?_eq_none]

end

end Registry

variable {φ μ : Type}

/-- **Ignored tokens only widen a search.**  A query with ignored tokens put in, searched with a
    limit that is not above, has the same tags and review statuses, and its term holds wherever that
    of the query without them does.  If no token is beyond the limit, the result is the same. -/
theorem search_inserted (r : Registry φ μ) (user q₁ q₂ : String) (options₁ options₂ : SearchOptions)
    (hmax : options₂.maxTokens ≤ options₁.maxTokens)
    (h : Inserted r.Ignores (tokenize q₁) (tokenize q₂)) :
    (r.search options₂ user q₂).tags? = (r.search options₁ user q₁).tags? ∧
      (r.search options₂ user q₂).review? = (r.search options₁ user q₁).review? ∧
      (∀ v : μ → Bool, (r.search options₁ user q₁).termHolds v = true →
        (r.search options₂ user q₂).termHolds v = true) ∧
      ((r.fieldTokens (tokenize q₂)).length ≤ options₂.maxTokens →
        r.search options₂ user q₂ = r.search options₁ user q₁) := by
  have hfields := Registry.inserted_fieldTokens h
  have htags := Registry.tagFilter?_inserted h user
  have hreview := Registry.reviewFilter?_inserted h user
  refine ⟨htags, hreview, fun v hv => ?_, fun hlength => ?_⟩
  · -- within the smaller limit there are fewer tokens of the first query, or as many
    obtain ⟨k, hk, htake⟩ := hfields.exists_take options₂.maxTokens
    have hterm : (r.search options₂ user q₂).term? =
        r.compile ((r.fieldTokens (tokenize q₁)).take k) := Registry.compile_inserted htake
    rw [CompiledQuery.termHolds, hterm]
    exact r.all_holds_compile_of_sublist
      (List.take_sublist_take_left (Nat.le_trans hk hmax)) hv
  · have hlength₁ := hfields.length_le
    have hkept₁ : r.keptTokens options₁ (tokenize q₁) = r.fieldTokens (tokenize q₁) :=
      List.take_of_length_le (by omega)
    have hkept₂ : r.keptTokens options₂ (tokenize q₂) = r.fieldTokens (tokenize q₂) :=
      List.take_of_length_le hlength
    rw [Registry.search, Registry.search, Registry.searchTokens, Registry.searchTokens, htags,
      hreview, hkept₁, hkept₂, Registry.compile_inserted hfields]

/-- An unknown field and a tag without a value are put in among two matches and a status.  With a
    limit of two the second match is pushed out, with a limit of three it is not. -/
theorem search_inserted_limit :
    Inserted Extra.registry.Ignores (tokenize "due entry:a english:b")
        (tokenize "x:1 due entry:a tag:\"\" english:b") ∧
      (∀ v : Extra → Bool,
        (Extra.registry.search { maxTokens := 2 } "u" "due entry:a english:b").termHolds v = true →
        (Extra.registry.search { maxTokens := 2 } "u"
          "x:1 due entry:a tag:\"\" english:b").termHolds v = true) ∧
      (Extra.registry.fieldTokens (tokenize "x:1 due entry:a tag:\"\" english:b")).length ≤ 3 ∧
      Extra.registry.search { maxTokens := 3 } "u" "x:1 due entry:a tag:\"\" english:b" =
        Extra.registry.search { maxTokens := 3 } "u" "due entry:a english:b" := by
  have h₁ : tokenize "due entry:a english:b" =
      [⟨none, "due", false⟩, ⟨some "entry", "a", false⟩, ⟨some "english", "b", false⟩] := by
    decide +kernel
  have h₂ : tokenize "x:1 due entry:a tag:\"\" english:b" =
      [⟨some "x", "1", false⟩, ⟨none, "due", false⟩, ⟨some "entry", "a", false⟩,
        ⟨some "tag", "", true⟩, ⟨some "english", "b", false⟩] := by
    decide +kernel
  have h : Inserted Extra.registry.Ignores (tokenize "due entry:a english:b")
      (tokenize "x:1 due entry:a tag:\"\" english:b") := by
    rw [h₁, h₂]
    have hx : Extra.registry.Ignores ⟨some "x", "1", false⟩ :=
      .unknownField rfl (by decide) (by decide) (by decide)
    exact .insert hx (.keep _ (.keep _ (.insert (.emptyValue rfl) (.keep _ .nil))))
  have hlength : (Extra.registry.fieldTokens
      (tokenize "x:1 due entry:a tag:\"\" english:b")).length ≤ 3 := by
    rw [h₂]
    decide
  refine ⟨h, ?_, hlength, ?_⟩
  · exact (search_inserted Extra.registry "u" _ _ { maxTokens := 2 } { maxTokens := 2 }
      (Nat.le_refl 2) h).2.2.1
  · exact (search_inserted Extra.registry "u" _ _ { maxTokens := 3 } { maxTokens := 3 }
      (Nat.le_refl 3) h).2.2.2 hlength

end FieldSearch
