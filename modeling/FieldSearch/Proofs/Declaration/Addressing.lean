import FieldSearch.Proofs.Declaration.Table
import FieldSearch.Proofs.Text.AsciiCase
import FieldSearch.Proofs.Token.RoundTrip

namespace FieldSearch

/-!
# Addressing derived fields

A field that has the name of its variant can be written in front of a colon, as long as the name is
not a raw one.

* `IsIdentifier` and `IsRawIdentifier` are the names that a variant can have, `IsCamelCasing` is
  what is known of the casing;
* `IsCamelCasing.toLowercase_eq` says what the name of a field is then, `IsIdentifier.isName` that
  it can stand in front of a colon, and `noPair_of_raw` that it cannot if it is raw;
* `tokenize_identifier` says what is read of it with a value behind it;
* `Declaration.tokenize_derived` puts this together with the lookup of the name.
-/

/-! ## Identifiers -/

/-- An identifier: letters, digits and underscores of ASCII, and not underscores only. -/
structure IsIdentifier (s : String) : Prop where
  word : ∀ c ∈ s.toList, c.isAlphanum = true ∨ c = '_'
  solid : ∃ c ∈ s.toList, c.isAlphanum = true

instance (s : String) : Decidable (IsIdentifier s) :=
  decidable_of_iff ((s.toList.all fun c => c.isAlphanum || c == '_') = true ∧
      s.toList.any Char.isAlphanum = true)
    ⟨fun ⟨hword, hsolid⟩ => ⟨by simpa using hword, List.any_eq_true.1 hsolid⟩,
      fun ⟨hword, hsolid⟩ => ⟨by simpa using hword, List.any_eq_true.2 hsolid⟩⟩

/-- A raw identifier: an identifier behind `r#`. -/
def IsRawIdentifier (s : String) : Prop :=
  ∃ identifier, IsIdentifier identifier ∧ s = "r#" ++ identifier

/-- A casing that leaves out the underscores of identifiers, and otherwise changes only the case of
    letters. -/
def IsCamelCasing (casing : String → String) : Prop :=
  ∀ name, IsIdentifier name ∨ IsRawIdentifier name →
    asciiFold (casing name) = asciiFold (withoutUnderscores name)

/-- `camelCase` leaves out the underscores of identifiers, and otherwise changes only the case of
    letters. -/
theorem isCamelCasing_camelCase : IsCamelCasing camelCase := fun name _ => asciiFold_camelCase name

/-- The characters of an identifier are of ASCII. -/
theorem IsIdentifier.isAscii {s : String} (h : IsIdentifier s) : IsAscii s := by
  intro c hc
  rcases h.word c hc with hc | rfl
  · exact toNat_lt_of_isAlphanum hc
  · decide

/-- The characters of a raw identifier are of ASCII. -/
theorem IsRawIdentifier.isAscii {s : String} (h : IsRawIdentifier s) : IsAscii s := by
  obtain ⟨identifier, hidentifier, rfl⟩ := h
  intro c hc
  rw [String.toList_append] at hc
  rcases List.mem_append.1 hc with hc | hc
  · obtain rfl | rfl : c = 'r' ∨ c = '#' := by simpa using hc
    · decide
    · decide
  · exact hidentifier.isAscii c hc

/-- An identifier is not recognized as a raw name. -/
theorem IsIdentifier.isRaw_eq_false {s : String} (h : IsIdentifier s) : isRaw s = false := by
  rw [Bool.eq_false_iff, isRaw, ne_eq, beq_iff_eq]
  intro hraw
  -- the number sign of a raw name is no character of an identifier
  have hmem : '#' ∈ s.toList := List.mem_of_mem_take (by rw [hraw]; decide)
  exact absurd (h.word '#' hmem) (by decide)

/-- A raw identifier is recognized as a raw name. -/
theorem IsRawIdentifier.isRaw_eq_true {s : String} (h : IsRawIdentifier s) : isRaw s = true := by
  obtain ⟨identifier, -, rfl⟩ := h
  rw [isRaw, String.toList_append]
  rfl

/-! ## Names of fields -/

/-- The lower case name of a field is that of its variant, folded and without underscores. -/
theorem IsCamelCasing.toLowercase_eq {casing : String → String} (h : IsCamelCasing casing)
    {name : String} (hname : IsIdentifier name ∨ IsRawIdentifier name) :
    toLowercase (casing name) = asciiFold (withoutUnderscores name) := by
  have hascii : IsAscii name := hname.elim (·.isAscii) (·.isAscii)
  have hcasing : IsAscii (asciiFold (casing name)) := by
    rw [h name hname]
    exact hascii.withoutUnderscores.asciiFold
  rw [toLowercase_of_ascii hcasing.of_asciiFold, h name hname]

/-- The name that an identifier gives a field can stand in front of a colon. -/
theorem IsIdentifier.isName {s : String} (h : IsIdentifier s) :
    IsName (asciiFold (withoutUnderscores s)) where
  ne_nil := by
    obtain ⟨c, hc, halphanum⟩ := h.solid
    have hunderscore : c ≠ '_' := by
      rintro rfl
      exact absurd halphanum (by decide)
    exact List.ne_nil_of_mem (mem_asciiFold_withoutUnderscores.2 ⟨c, hc, hunderscore, rfl⟩)
  word := by
    intro c hc
    obtain ⟨d, hd, hunderscore, rfl⟩ := mem_asciiFold_withoutUnderscores.1 hc
    exact isWordChar_toLower ((h.word d hd).resolve_right hunderscore)

/-- The name that an identifier gives a field is in lower case, and kept as it is. -/
theorem IsIdentifier.foldName_eq {s : String} (h : IsIdentifier s) :
    foldName (asciiFold (withoutUnderscores s)) = asciiFold (withoutUnderscores s) := by
  rw [foldName_of_ascii h.isAscii.withoutUnderscores.asciiFold, asciiFold_asciiFold]

/-- The name that a raw identifier gives a field starts as the identifier does. -/
theorem IsRawIdentifier.toList_eq {s : String} (h : IsRawIdentifier s) :
    ∃ cs, (asciiFold (withoutUnderscores s)).toList = 'r' :: '#' :: cs ∧
      ∀ c ∈ cs, isWordChar c = true := by
  obtain ⟨identifier, hidentifier, rfl⟩ := h
  refine ⟨(asciiFold (withoutUnderscores identifier)).toList, ?_, hidentifier.isName.word⟩
  simp [asciiFold, withoutUnderscores]

/-! ## Tokens -/

/-- A text that starts as a raw identifier has no name in front of a colon. -/
theorem noPair_of_raw {cs id rest : List Char} (h : 'r' :: '#' :: cs = id ++ ':' :: rest)
    (hword : ∀ c ∈ id, isWordChar c = true) : id = [] := by
  rcases id with - | ⟨c, - | ⟨d, ds⟩⟩
  · rfl
  · simp at h
  · obtain ⟨-, rfl, -⟩ : 'r' = c ∧ '#' = d ∧ cs = ds ++ ':' :: rest := by simpa using h
    -- a longer name would have the number sign in it, which is no word character
    have hhash := hword '#' (by simp)
    rw [isWordChar, isAlphanumeric_of_ascii (by decide)] at hhash
    exact absurd hhash (by decide)

/-- A raw name and a plain value are read as one word. -/
theorem tokenize_raw {name value : String} {cs : List Char} (hname : name.toList = 'r' :: '#' :: cs)
    (hword : ∀ c ∈ cs, isWordChar c = true) (hvalue : IsPlainValue value) :
    tokenize (name ++ ":" ++ value) = [.ofWord (name ++ ":" ++ value)] := by
  have htext : (name ++ ":" ++ value).toList = 'r' :: '#' :: (cs ++ ':' :: value.toList) := by
    simp [hname]
  have hplain : IsPlainValue (name ++ ":" ++ value) := by
    refine ⟨by simp [htext], ?_, by simp [htext]⟩
    intro c hc
    rw [htext] at hc
    simp only [List.mem_cons, List.mem_append] at hc
    rcases hc with rfl | rfl | hc | rfl | hc
    · decide
    · decide
    · exact isBlank_eq_false_of_isWordChar (hword c hc)
    · decide
    · exact hvalue.solid c hc
  have hblank : IsBlankText [] := by simp [IsBlankText]
  have hend : IsBoundary [] := by simp [IsBoundary]
  -- as a bare word it must not have a name in front of its colon
  have hlexeme := Token.isLexeme_write_bare hplain
    (fun id rest hpair hne hid => absurd (noPair_of_raw (htext ▸ hpair) hid) hne) hend
  have hwrite : String.ofList ([] ++ Token.write ⟨none, name ++ ":" ++ value, false⟩ ++ []) =
      name ++ ":" ++ value := by
    simp [Token.write, Token.writeField, Token.writeValue, String.append_assoc]
  have htokens := tokenize_of_isLexeme hblank hblank hlexeme
  rwa [hwrite] at htokens

/-- The name that an identifier gives a field is read as the field's, unless the identifier is
    raw. -/
theorem tokenize_identifier {s value : String} (hs : IsIdentifier s ∨ IsRawIdentifier s)
    (hvalue : IsPlainValue value) :
    tokenize (asciiFold (withoutUnderscores s) ++ ":" ++ value) =
      if isRaw s then [.ofWord (asciiFold (withoutUnderscores s) ++ ":" ++ value)]
      else [{ field := some (asciiFold (withoutUnderscores s)), value := value }] := by
  rcases hs with hidentifier | hraw
  · rw [hidentifier.isRaw_eq_false, if_neg Bool.false_ne_true]
    have htokens := tokenize_qualified hidentifier.isName hvalue
    rwa [hidentifier.foldName_eq] at htokens
  · obtain ⟨cs, hcs, hword⟩ := hraw.toList_eq
    rw [hraw.isRaw_eq_true, if_pos rfl]
    exact tokenize_raw hcs hword hvalue

/-! ## Tables without other names -/

namespace Declaration

variable {d : Declaration} {casing : String → String}

/-- No field has another name than that of its variant. -/
def IsPlain (d : Declaration) : Prop :=
  ∀ v ∈ d.variants, ∀ s ∈ v.settings, s.word ≠ "rename" ∧ s.word ≠ "alias"

/-- A table without other names has one name for each variant. -/
theorem IsPlain.names_table (h : d.IsPlain) :
    (d.table casing).names =
      d.variants.zipIdx.map fun entry => (toLowercase (casing entry.1.name), entry.2) := by
  have hnames : ∀ entry ∈ d.variants.zipIdx,
      ((entry.1.fieldNames casing).map fun name => (name, entry.2)) =
        [(toLowercase (casing entry.1.name), entry.2)] := by
    rintro ⟨v, i⟩ hentry
    have hv := h v (List.mem_of_getElem? (List.mk_mem_zipIdx_iff_getElem?.1 hentry))
    rw [Variant.fieldNames, Variant.primaryName, Setting.texts_eq_nil fun s hs => (hv s hs).1,
      Setting.texts_eq_nil fun s hs => (hv s hs).2]
    rfl
  rw [Declaration.names_table, List.flatMap_congr hnames, List.map_eq_flatMap]

/-- In a table without other names the positions of the fields ascend. -/
theorem IsPlain.pairwise_names (h : d.IsPlain) :
    (d.table casing).names.Pairwise fun entry other => entry.2 < other.2 := by
  have hpositions : (d.variants.zipIdx.map (·.2)).Pairwise (· < ·) := by
    rw [List.zipIdx_map_snd]
    exact List.pairwise_lt_range'
  rw [h.names_table]
  exact List.pairwise_map.2 (List.pairwise_map.1 hpositions)

/-- The names in a table without other names are those of the variants, folded and without
    underscores. -/
theorem IsPlain.exists_of_mem_names (h : d.IsPlain) (hcasing : IsCamelCasing casing)
    (hidentifiers : ∀ v ∈ d.variants, IsIdentifier v.name ∨ IsRawIdentifier v.name)
    {entry : String × Nat} (hentry : entry ∈ (d.table casing).names) :
    ∃ v, d.variants[entry.2]? = some v ∧ entry.1 = asciiFold (withoutUnderscores v.name) := by
  rw [h.names_table] at hentry
  obtain ⟨⟨v, j⟩, hmem, rfl⟩ := List.mem_map.1 hentry
  have hv := List.mk_mem_zipIdx_iff_getElem?.1 hmem
  exact ⟨v, hv, hcasing.toLowercase_eq (hidentifiers v (List.mem_of_getElem? hv))⟩

/-- **Every derived field can be addressed, unless its variant has a raw name.**  Let the fields
    have the names of their variants, which are identifiers.  A name that no earlier field has is
    looked up to its field.  With a colon and a plain value behind it, it is read as a token of
    this field; but if the name of the variant is raw, it is read as one word. -/
theorem tokenize_derived (hcasing : IsCamelCasing casing) {r : DerivedRegistry}
    (hderive : d.derive casing = .ok r) (hplain : d.IsPlain)
    (hidentifiers : ∀ v ∈ d.variants, IsIdentifier v.name ∨ IsRawIdentifier v.name) {i : Nat}
    {v : Variant} (hv : d.variants[i]? = some v) {name : String}
    (hname : (name, i) ∈ r.registry.names) (hfirst : ∀ j < i, (name, j) ∉ r.registry.names)
    {value : String} (hvalue : IsPlainValue value) :
    r.registry.lookup name = some i ∧
      tokenize (name ++ ":" ++ value) =
        if isRaw v.name then [.ofWord (name ++ ":" ++ value)]
        else [{ field := some name, value := value }] := by
  rw [names_of_derive hderive] at hname hfirst
  obtain ⟨v', hv', rfl⟩ : ∃ v', d.variants[i]? = some v' ∧
      name = asciiFold (withoutUnderscores v'.name) :=
    hplain.exists_of_mem_names hcasing hidentifiers hname
  obtain rfl : v' = v := Option.some.inj (hv'.symm.trans hv)
  -- the name is that of the variant at the position
  refine ⟨Registry.lookup_eq_of_first ?_ ?_ ?_,
    tokenize_identifier (hidentifiers v' (List.mem_of_getElem? hv)) hvalue⟩
  · rw [names_of_derive hderive]
    exact hplain.pairwise_names
  · rwa [names_of_derive hderive]
  · -- an earlier name is folded as well, so that equal up to case is equal
    rw [names_of_derive hderive]
    intro entry hentry hlt heq
    obtain ⟨w, -, hw⟩ := hplain.exists_of_mem_names hcasing hidentifiers hentry
    rw [hw, asciiFold_asciiFold, asciiFold_asciiFold, ← hw] at heq
    exact hfirst entry.2 hlt (heq ▸ hentry)

/-- A field with capitals, an underscore and a digit in the name of its variant, behind one of a raw
    name, with a value that looks like a token itself. -/
theorem tokenize_derived_partOfSpeech :
    let d : Declaration :=
      { name := "Doc", variants := [{ name := "r#Type" }, { name := "Part_OfSpeech2" }] }
    ∃ r, d.derive = .ok r ∧ r.registry.names = [("r#type", 0), ("partofspeech2", 1)] ∧
      r.registry.lookup "partofspeech2" = some 1 ∧
      tokenize "partofspeech2:tag:\"x" =
        [{ field := some "partofspeech2", value := "tag:\"x" }] := by
  intro d
  have hfault : d.fault? = none := by decide +kernel
  obtain ⟨r, hr⟩ := derive_eq_ok_iff.2 hfault
  have hnames : r.registry.names = [("r#type", 0), ("partofspeech2", 1)] := by
    have htable : (d.table camelCase).names = [("r#type", 0), ("partofspeech2", 1)] := by
      decide +kernel
    exact (names_of_derive hr).trans htable
  have hplain : d.IsPlain := by
    simp [IsPlain, d]
  have hidentifiers : ∀ v ∈ d.variants, IsIdentifier v.name ∨ IsRawIdentifier v.name := by
    intro v hv
    obtain rfl | rfl : v = { name := "r#Type" } ∨ v = { name := "Part_OfSpeech2" } := by
      simpa [d] using hv
    · exact .inr ⟨"Type", by decide +kernel, by decide⟩
    · exact .inl (by decide +kernel)
  have hv : d.variants[1]? = some { name := "Part_OfSpeech2" } := rfl
  have hname : ("partofspeech2", 1) ∈ r.registry.names := by simp [hnames]
  have hfirst : ∀ j < 1, ("partofspeech2", j) ∉ r.registry.names := by
    intro j hj
    simp [hnames]
    omega
  have hvalue : IsPlainValue "tag:\"x" := by decide +kernel
  have h := tokenize_derived isCamelCasing_camelCase hr hplain hidentifiers hv hname hfirst hvalue
  have htext : "partofspeech2" ++ ":" ++ "tag:\"x" = "partofspeech2:tag:\"x" := by decide +kernel
  have hraw : isRaw "Part_OfSpeech2" = false := by decide +kernel
  rw [htext, hraw, if_neg Bool.false_ne_true] at h
  exact ⟨r, hr, hnames, h⟩

/-- The field of a variant `r#Type` is called `r#type`, and this name in front of a colon does not
    name it. -/
theorem not_tokenize_derived_raw :
    let d : Declaration := { name := "Doc", variants := [{ name := "r#Type" }] }
    IsRawIdentifier "r#Type" ∧
      ∃ r, d.derive = .ok r ∧ r.registry.names = [("r#type", 0)] ∧
        tokenize "r#type:x" = [.ofWord "r#type:x"] ∧
        tokenize "r#type:x" ≠ [{ field := some "r#type", value := "x" }] := by
  intro d
  have hfault : d.fault? = none := by decide +kernel
  obtain ⟨r, hr⟩ := derive_eq_ok_iff.2 hfault
  have htable : (d.table camelCase).names = [("r#type", 0)] := by decide +kernel
  have hname : "r#type".toList = 'r' :: '#' :: "type".toList := by decide +kernel
  have htext : "r#type" ++ ":" ++ "x" = "r#type:x" := by decide +kernel
  have hword : ∀ c ∈ "type".toList, isWordChar c = true :=
    List.all_eq_true.1 (by decide +kernel)
  have hvalue : IsPlainValue "x" := by decide +kernel
  have htokens := tokenize_raw hname hword hvalue
  rw [htext] at htokens
  refine ⟨⟨"Type", by decide +kernel, by decide⟩, r, hr, (names_of_derive hr).trans htable,
    htokens, ?_⟩
  rw [htokens]
  decide

end Declaration

end FieldSearch
