import FieldSearch.Proofs.Registry
import FieldSearch.Proofs.Search.Claims
import FieldSearch.Proofs.Token.RoundTrip

namespace FieldSearch

/-!
# Searching in one field

Any value can be looked for in any field, by the field's name in front of it.

* `Registry.LeavesAlone` says that no extension of an entity takes a name for its own qualifier, and
  `Registry.LeavesAlone.not_claims` that a token with this field is not claimed then;
* `Registry.searchTokens_qualified` is the query of such a token by itself;
* `search_qualified` says that the text of the token, in whatever case its name is spelled, is
  compiled to the match of the field with the value, and to nothing else.
-/

/-- A token has no field that its own differs from by more than ASCII case. -/
theorem Token.hasField_of_ne {name qualifier : String} (h : asciiFold name ≠ asciiFold qualifier)
    {value : String} {quoted : Bool} :
    (⟨some name, value, quoted⟩ : Token).hasField qualifier = false := by
  rw [Bool.eq_false_iff, ne_eq, hasField_iff]
  rintro ⟨field, hfield, hfold⟩
  obtain rfl := Option.some.inj hfield
  exact h hfold

namespace Registry

variable {φ μ : Type}

/-- No extension of the entity takes the name for its qualifier. -/
structure LeavesAlone (r : Registry φ μ) (name : String) : Prop where
  tag : r.extensions.tags = true → asciiFold name ≠ asciiFold "tag"
  review : r.extensions.review = true → asciiFold name ≠ asciiFold "is"

variable {r : Registry φ μ} {name : String}

/-- Whether a name is left alone depends on it up to ASCII case. -/
theorem LeavesAlone.congr {name' : String} (h : r.LeavesAlone name)
    (heq : asciiFold name' = asciiFold name) : r.LeavesAlone name' :=
  ⟨fun htags => heq ▸ h.tag htags, fun hreview => heq ▸ h.review hreview⟩

/-- A token whose field is left alone is not claimed, whatever its value. -/
theorem LeavesAlone.not_claims (h : r.LeavesAlone name) (value : String) (quoted : Bool) :
    ¬ r.Claims ⟨some name, value, quoted⟩ := by
  rintro (⟨htags, hfield⟩ | ⟨hreview, hnames⟩)
  · rw [Token.hasField_of_ne (h.tag htags)] at hfield
    cases hfield
  · cases hnames with
    | qualified hfield _ =>
      rw [Token.hasField_of_ne (h.review hreview)] at hfield
      cases hfield
    | word bare _ _ => cases bare

/-- A token whose field is left alone goes on to the fields unchanged. -/
theorem LeavesAlone.fieldToken?_eq (h : r.LeavesAlone name) (value : String) (quoted : Bool) :
    r.fieldToken? ⟨some name, value, quoted⟩ = some ⟨some name, value, quoted⟩ := by
  cases hu : r.fieldToken? ⟨some name, value, quoted⟩ with
  | none => exact absurd (fieldToken?_eq_none_iff.1 hu) (h.not_claims value quoted)
  | some u =>
    rcases eq_or_eq_of_reviewedToken? (reviewedToken?_of_fieldToken? hu) with rfl | ⟨hreview, -⟩
    · rfl
    · -- only a token that is qualified as a review status would be changed
      have hfield : (⟨some name, value, quoted⟩ : Token).hasField "is" = true := hreview.2
      rw [Token.hasField_of_ne (h.review hreview.1)] at hfield
      cases hfield

/-- A search for one token whose field is left alone has no filters. -/
theorem LeavesAlone.filters_eq_none (h : r.LeavesAlone name) (options : SearchOptions)
    (user value : String) (quoted : Bool) :
    (r.searchTokens options user [⟨some name, value, quoted⟩]).tags? = none ∧
      (r.searchTokens options user [⟨some name, value, quoted⟩]).review? = none := by
  have hfilters := r.filtersBy_searchTokens [⟨some name, value, quoted⟩] options user
  constructor
  · -- the token would have to have the field of tags, or to name a status
    rw [hfilters.tags_eq_none_iff, ← Bool.not_eq_true]
    refine or_iff_not_imp_left.2 fun htags x => ?_
    rintro ⟨-, t, ht, hfield, -⟩
    rw [List.mem_singleton.1 ht, Token.hasField_of_ne (h.tag (not_not.1 htags))] at hfield
    cases hfield
  · rw [hfilters.review_eq_none_iff]
    rintro status ⟨t, ht, hclaims, -⟩
    rw [List.mem_singleton.1 ht] at hclaims
    exact h.not_claims value quoted hclaims

/-- A token with a known field and a value is the match of the field. -/
theorem resolve_qualified {field : φ} (hfield : r.lookup name = some field) {value : String}
    (hvalue : value ≠ "") (quoted : Bool) :
    r.resolve ⟨some name, value, quoted⟩ = some (.leaf (r.matcher field value)) := by
  simp [resolve, resolution, hvalue, hfield, Resolution.term?]

/-- A search for one token with a known field that is left alone is for the match of the field, and
    nothing else. -/
theorem searchTokens_qualified (h : r.LeavesAlone name) {field : φ}
    (hfield : r.lookup name = some field) {value : String} (hvalue : value ≠ "") (quoted : Bool)
    {options : SearchOptions} (hmax : 1 ≤ options.maxTokens) (user : String) :
    r.searchTokens options user [⟨some name, value, quoted⟩] =
      { term? := some (.leaf (r.matcher field value)) } := by
  obtain ⟨htags, hreview⟩ := h.filters_eq_none options user value quoted
  -- the token is not claimed, and it is within the limit
  have hkept : r.keptTokens options [⟨some name, value, quoted⟩] =
      [⟨some name, value, quoted⟩] := by
    rw [keptTokens, fieldTokens_eq, List.filterMap_cons, h.fieldToken?_eq]
    exact List.take_of_length_le hmax
  have hterm : (r.searchTokens options user [⟨some name, value, quoted⟩]).term? =
      some (.leaf (r.matcher field value)) := by
    rw [searchTokens, hkept, compile, List.filterMap_cons, resolve_qualified hfield hvalue]
    rfl
  rw [CompiledQuery.mk.injEq]
  exact ⟨hterm, htags, hreview⟩

end Registry

/-- What a name folds to is empty only if the name is. -/
theorem ne_nil_of_foldName {name s : String} (hname : name ≠ "")
    (hspelling : asciiFold (foldName s) = asciiFold name) : s.toList ≠ [] := by
  intro hs
  obtain rfl : s = "" := by simpa using hs
  have hempty : asciiFold name = "" := hspelling.symm.trans (by decide +kernel)
  exact hname (by simpa [asciiFold] using hempty)

/-- **Any text can be searched in any field.**  Let a name be looked up to a field, and no extension
    take it for its qualifier.  In whatever case the name is spelled, with a colon and a value in
    quotes behind it the search is for the match of the field with the value, and for nothing else;
    and so it is with the value as it is, if it has no blank character and no double quote in
    front. -/
theorem search_qualified {φ μ : Type} (r : Registry φ μ) {name : String} {field : φ}
    (hfield : r.lookup name = some field) (hname : name ≠ "") (halone : r.LeavesAlone name)
    {s : String} (hword : ∀ c ∈ s.toList, isWordChar c = true)
    (hspelling : asciiFold (foldName s) = asciiFold name) {value : String} (hvalue : value ≠ "")
    {options : SearchOptions} (hmax : 1 ≤ options.maxTokens) (user : String)
    {lead trail : List Char} (hlead : IsBlankText lead) (htrail : IsBlankText trail) :
    r.search options user
        (String.ofList (lead ++ (s.toList ++ ':' :: Quoted.write value.toList) ++ trail)) =
      { term? := some (.leaf (r.matcher field value)), tags? := none, review? := none } ∧
    ((∀ c ∈ value.toList, isBlank c = false) → value.toList.head? ≠ some '"' →
      r.search options user
          (String.ofList (lead ++ (s.toList ++ ':' :: value.toList) ++ trail)) =
        { term? := some (.leaf (r.matcher field value)), tags? := none, review? := none }) := by
  have hs : IsName s := ⟨ne_nil_of_foldName hname hspelling, hword⟩
  have hfield' : r.lookup (foldName s) = some field :=
    (Registry.lookup_congr hspelling).trans hfield
  -- in quotes or not, the token is the same but for the quotes
  have hsearch (quoted : Bool) :=
    Registry.searchTokens_qualified (halone.congr hspelling) hfield' hvalue quoted hmax user
  have hend : IsBoundary trail := by
    have := htrail.isBoundary (.inr (rfl : ([] : List Char) = []))
    rwa [List.append_nil] at this
  constructor
  · have hwrite : Token.write ⟨some s, value, true⟩ =
        s.toList ++ ':' :: Quoted.write value.toList := by
      simp [Token.write, Token.writeField, Token.writeValue]
    have hnames : ∀ f ∈ some s, IsName f := by simpa using hs
    have hlexeme := Token.isLexeme_write_quoted value hnames hend
    rw [Registry.search, ← hwrite, tokenize_of_isLexeme hlead htrail hlexeme]
    exact hsearch true
  · intro hsolid hquote
    have hwrite : Token.write ⟨some s, value, false⟩ = s.toList ++ ':' :: value.toList := by
      simp [Token.write, Token.writeField, Token.writeValue]
    have hplain : IsPlainValue value := ⟨by simpa using hvalue, hsolid, hquote⟩
    have hlexeme := Token.isLexeme_write_qualified hs hplain hend
    rw [Registry.search, ← hwrite, tokenize_of_isLexeme hlead htrail hlexeme]
    exact hsearch false

/-- The alias of a field in another case, with a value that has another qualifier, a status keyword,
    a double quote and a last backslash in it. -/
theorem search_qualified_keyword :
    let value := "is:\"due\\"
    let query : CompiledQuery Extra := { term? := some (.leaf (.reading value)) }
    (Extra.registry.lookup "pinyin" = some .reading ∧ Extra.registry.LeavesAlone "pinyin" ∧
      asciiFold (foldName "PinYin") = asciiFold "pinyin") ∧
    Extra.registry.search { maxTokens := 1 } "u" " PinYin:\"is:\\\"due\\\\\"\n" = query ∧
    Extra.registry.search { maxTokens := 1 } "u" " PinYin:is:\"due\\\n" = query := by
  intro value query
  have hfield : Extra.registry.lookup "pinyin" = some .reading := by decide
  have halone : Extra.registry.LeavesAlone "pinyin" := ⟨fun _ => by decide, fun _ => by decide⟩
  have hspelling : asciiFold (foldName "PinYin") = asciiFold "pinyin" := by decide +kernel
  have hvalue : value ≠ "" := by decide
  have hmax : 1 ≤ ({ maxTokens := 1 } : SearchOptions).maxTokens := by decide
  have hlead : IsBlankText [' '] := by decide
  have htrail : IsBlankText ['\n'] := by decide
  have hword : ∀ c ∈ "PinYin".toList, isWordChar c = true :=
    List.all_eq_true.1 (by decide +kernel)
  have hsolid : IsPlainValue value := by decide +kernel
  obtain ⟨hquoted, hplain⟩ := search_qualified Extra.registry hfield (by decide) halone hword
    hspelling hvalue hmax "u" hlead htrail
  have hquotedText : String.ofList ([' '] ++ ("PinYin".toList ++
      ':' :: Quoted.write value.toList) ++ ['\n']) = " PinYin:\"is:\\\"due\\\\\"\n" := by
    decide +kernel
  have hplainText : String.ofList ([' '] ++ ("PinYin".toList ++ ':' :: value.toList) ++ ['\n']) =
      " PinYin:is:\"due\\\n" := by decide +kernel
  rw [hquotedText] at hquoted
  rw [hplainText] at hplain
  exact ⟨⟨hfield, halone, hspelling⟩, hquoted, hplain hsolid.solid hsolid.quote⟩

end FieldSearch
