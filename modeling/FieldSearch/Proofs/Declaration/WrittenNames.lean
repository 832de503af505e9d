import FieldSearch.Proofs.Declaration.Table
import FieldSearch.Proofs.Text.AsciiCase
import FieldSearch.Proofs.Text.Titlecase
import FieldSearch.Proofs.Token.RoundTrip

namespace FieldSearch

/-!
# Names that a declaration sets

A field that is renamed, or has an alias, is found by the name as the declaration writes it.  The
table has the name in lower case, and a query keeps what stands in front of a colon in lower case,
except for some names with titlecase letters.

* `Registry.OwnsFirst` says which field has the earliest entry with a name;
* `asciiFold_toLowercase_ne` tells lower-cased names from those with a titlecase letter;
* `Declaration.SetsName` are the names that a declaration sets, and
  `Declaration.exists_mem_names_of_setsName` says that the table has them in lower case;
* `tokenize_lowercased` says which field a query by a name asks for, and what is found by it.
-/

/-! ## Entries -/

/-- The field has the earliest of the entries that equal a name up to ASCII case. -/
def Registry.OwnsFirst {φ μ : Type} (r : Registry φ μ) (name : String) (field : φ) : Prop :=
  ∃ earlier entry later, r.names = earlier ++ entry :: later ∧ entry.2 = field ∧
    asciiFold entry.1 = asciiFold name ∧ ∀ other ∈ earlier, asciiFold other.1 ≠ asciiFold name

/-- A name with a titlecase letter equals no lower-cased one up to ASCII case. -/
theorem asciiFold_toLowercase_ne {s : String} {c : Char} (hc : c ∈ s.toList)
    (htitle : isTitlecase c = true) (t : String) : asciiFold (toLowercase t) ≠ asciiFold s := by
  intro hfold
  have houtside := toNat_of_isTitlecase htitle
  -- folding keeps the titlecase letter, which lower-casing would have removed
  have hmem : c ∈ (toLowercase t).toList := by
    rw [← mem_asciiFold_iff houtside, hfold, mem_asciiFold_iff houtside]
    exact hc
  exact absurd ((isTitlecase_of_mem_toLowercase hmem).symm.trans htitle) (by decide)

namespace Declaration

variable {d : Declaration} {casing : String → String} {r : DerivedRegistry} {s : String}

/-! ## Names in the table -/

/-- A declaration sets a name if a variant is renamed to it, or has it as an alias. -/
def SetsName (d : Declaration) (s : String) : Prop :=
  ∃ v ∈ d.variants, ⟨"rename", some s⟩ ∈ v.settings ∨ ⟨"alias", some s⟩ ∈ v.settings

/-- The names of a table are in lower case. -/
theorem exists_toLowercase_of_mem_names {entry : String × Nat}
    (h : entry ∈ (d.table casing).names) : ∃ t, entry.1 = toLowercase t := by
  rw [names_table, List.mem_flatMap] at h
  obtain ⟨⟨v, i⟩, -, hentry⟩ := h
  obtain ⟨name, hname, rfl⟩ := List.mem_map.1 hentry
  rw [Variant.fieldNames, List.mem_cons] at hname
  rcases hname with rfl | halias
  · exact ⟨_, rfl⟩
  · obtain ⟨t, -, rfl⟩ := List.mem_map.1 halias
    exact ⟨t, rfl⟩

/-- A name that is set is in the table, in lower case. -/
theorem exists_mem_names_of_setsName (h : d.derive casing = .ok r) (hs : d.SetsName s) :
    ∃ i, (toLowercase s, i) ∈ r.registry.names := by
  obtain ⟨v, hv, hset⟩ := hs
  obtain ⟨i, hi⟩ := List.getElem?_of_mem hv
  have hname : toLowercase s ∈ v.fieldNames casing := by
    rw [Variant.fieldNames, List.mem_cons]
    rcases hset with hrename | halias
    · -- the name that the variant is renamed to is its primary one
      left
      have hwell := (isWellFormed_of_derive h).variants v hv
      rw [← (Variant.hasPrimaryName_iff hwell).1 (.renamed hrename)]
    · right
      exact List.mem_map_of_mem (Setting.mem_texts_iff.2 halias)
  refine ⟨i, ?_⟩
  rw [names_of_derive h, names_table]
  exact List.mem_flatMap.2 ⟨(v, i), List.mk_mem_zipIdx_iff_getElem?.2 hi,
    List.mem_map_of_mem hname⟩

/-! ## Looking a name up -/

/-- A name that is set is found in lower case. -/
theorem exists_lookup_toLowercase (h : d.derive casing = .ok r) (hs : d.SetsName s) :
    ∃ i, r.registry.lookup (toLowercase s) = some i := by
  obtain ⟨i, hmem⟩ := exists_mem_names_of_setsName h hs
  rw [← Option.ne_none_iff_exists', ne_eq, Registry.lookup_eq_none_iff]
  exact fun hnone => hnone _ hmem rfl

/-- A name that is not kept in lower case is not found. -/
theorem lookup_foldName_eq_none (h : d.derive casing = .ok r) (hs : ¬ IsLowercased s) :
    r.registry.lookup (foldName s) = none := by
  rw [IsLowercased, not_or] at hs
  obtain ⟨hupper, htitle⟩ := hs
  -- such a name is kept as it is, with a titlecase letter in it
  have hkept : foldName s = s := by
    rw [foldName, if_neg fun hany => hupper (List.any_eq_true.1 hany)]
  obtain ⟨c, hc, hctitle⟩ : ∃ c ∈ s.toList, isTitlecase c = true := by
    by_contra! hnone
    exact htitle fun c hc => Bool.not_eq_true _ ▸ hnone c hc
  rw [hkept, Registry.lookup_eq_none_iff, names_of_derive h]
  intro entry hentry
  obtain ⟨t, ht⟩ := exists_toLowercase_of_mem_names hentry
  rw [ht]
  exact asciiFold_toLowercase_ne hc hctitle t

end Declaration

/-- **A field name is kept in lower case, unless it has a titlecase letter and no upper case
    character.**  Let a name and a plain value be written with a colon between them.  They are read
    as one token.  Its field is the lower case form of the name, and is found by a declaration that
    sets the name, exactly if the name is one of those that are kept in lower case.  What is found
    is the field with the earliest entry that equals the lower case form up to ASCII case. -/
theorem tokenize_lowercased {s value : String} (hs : IsName s) (hvalue : IsPlainValue value) :
    ∃ field, tokenize (s ++ ":" ++ value) = [{ field := some field, value := value }] ∧
      (field = toLowercase s ↔ IsLowercased s) ∧
      ∀ (casing : String → String) (d : Declaration) (r : DerivedRegistry),
        d.derive casing = .ok r → d.SetsName s →
          ((∃ i, r.registry.lookup field = some i) ↔ IsLowercased s) ∧
          ∀ i, r.registry.lookup field = some i ↔
            IsLowercased s ∧ r.registry.OwnsFirst (toLowercase s) i := by
  refine ⟨foldName s, tokenize_qualified hs hvalue, foldName_eq_toLowercase_iff, ?_⟩
  intro casing d r hderive hset
  by_cases hlower : IsLowercased s
  · rw [foldName_eq_toLowercase_iff.2 hlower]
    refine ⟨iff_of_true (Declaration.exists_lookup_toLowercase hderive hset) hlower, fun i => ?_⟩
    rw [and_iff_right hlower]
    exact Registry.lookup_eq_some_iff
  · -- the name is kept as it is, and no field has it
    rw [Declaration.lookup_foldName_eq_none hderive hlower]
    simp [hlower]

/-- A name with a titlecase letter and a last capital sigma, which a field is renamed to; the field
    before it has the lower case form as an alias. -/
theorem tokenize_lowercased_sigma :
    let d : Declaration :=
      { name := "Doc"
        variants :=
          [ { name := "A", settings := [⟨"alias", some "ǆς"⟩] },
            { name := "B", settings := [⟨"rename", some "ǅΣ"⟩] } ] }
    ∃ r, d.derive = .ok r ∧ r.registry.names = [("a", 0), ("ǆς", 0), ("ǆς", 1)] ∧
      tokenize "ǅΣ:is:\"x" = [{ field := some "ǆς", value := "is:\"x" }] ∧
      r.registry.lookup "ǆς" = some 0 := by
  intro d
  have hfault : d.fault? = none := by decide +kernel
  obtain ⟨r, hr⟩ := Declaration.derive_eq_ok_iff.2 hfault
  have hnames : r.registry.names = [("a", 0), ("ǆς", 0), ("ǆς", 1)] := by
    have htable : (d.table camelCase).names = [("a", 0), ("ǆς", 0), ("ǆς", 1)] := by
      decide +kernel
    exact (Declaration.names_of_derive hr).trans htable
  have hname : IsName "ǅΣ" := ⟨by decide, List.all_eq_true.1 (by decide +kernel)⟩
  have hvalue : IsPlainValue "is:\"x" := by decide +kernel
  have hset : d.SetsName "ǅΣ" := ⟨{ name := "B", settings := [⟨"rename", some "ǅΣ"⟩] }, by simp [d],
    by simp⟩
  have hlower : IsLowercased "ǅΣ" := .inl (List.any_eq_true.1 (by decide +kernel))
  have hform : toLowercase "ǅΣ" = "ǆς" := by decide +kernel
  obtain ⟨field, htokens, hfield, hlookup⟩ := tokenize_lowercased hname hvalue
  obtain rfl : field = "ǆς" := (hfield.2 hlower).trans hform
  have htext : "ǅΣ" ++ ":" ++ "is:\"x" = "ǅΣ:is:\"x" := by decide +kernel
  rw [htext] at htokens
  refine ⟨r, hr, hnames, htokens, ((hlookup _ d r hr hset).2 0).2 ⟨hlower, ?_⟩⟩
  refine ⟨[("a", 0)], ("ǆς", 0), [("ǆς", 1)], hnames, rfl, by rw [hform], ?_⟩
  rw [hform]
  decide +kernel

/-- The titlecase letter `ǅ` is not lower-cased in front of a colon, and a field with this alias is
    not found by it. -/
theorem not_tokenize_lowercased_titlecase :
    let d : Declaration :=
      { name := "Doc", variants := [{ name := "A", settings := [⟨"alias", some "ǅ"⟩] }] }
    IsName "ǅ" ∧ IsPlainValue "x" ∧
      tokenize "ǅ:x" = [{ field := some "ǅ", value := "x" }] ∧ toLowercase "ǅ" = "ǆ" ∧
      tokenize "ǅ:x" ≠ [{ field := some (toLowercase "ǅ"), value := "x" }] ∧
      ∃ r, d.derive = .ok r ∧ d.SetsName "ǅ" ∧ r.registry.names = [("a", 0), ("ǆ", 0)] ∧
        r.registry.lookup "ǅ" = none := by
  intro d
  have hname : IsName "ǅ" := ⟨by decide, List.all_eq_true.1 (by decide +kernel)⟩
  have hvalue : IsPlainValue "x" := by decide +kernel
  have hfolded : foldName "ǅ" = "ǅ" := by decide +kernel
  have htext : "ǅ" ++ ":" ++ "x" = "ǅ:x" := by decide +kernel
  have htokens := tokenize_qualified hname hvalue
  rw [htext, hfolded] at htokens
  have hfault : d.fault? = none := by decide +kernel
  obtain ⟨r, hr⟩ := Declaration.derive_eq_ok_iff.2 hfault
  have hnames : r.registry.names = [("a", 0), ("ǆ", 0)] := by
    have htable : (d.table camelCase).names = [("a", 0), ("ǆ", 0)] := by decide +kernel
    exact (Declaration.names_of_derive hr).trans htable
  have hform : toLowercase "ǅ" = "ǆ" := by decide +kernel
  refine ⟨hname, hvalue, htokens, hform, ?_, r, hr, ⟨_, List.mem_cons_self, by simp⟩, hnames, ?_⟩
  · rw [htokens, hform]
    decide
  · rw [Registry.lookup_eq_none_iff, hnames]
    decide +kernel

end FieldSearch
