import FieldSearch.Proofs.EntryType.Canonical
import FieldSearch.Proofs.Search.Qualifier
import FieldSearch.Proofs.Sql.Statements

namespace FieldSearch

open Sql

/-!
# Queries for a type

A query for a type binds the canonical text of the type.  As no text that is read verbatim is the
canonical text of a known type, different matches are bound to different values.

* `IsTypeQuery` are the queries, and `typeQuery` is what they are compiled to, by
  `Registry.HasTypes.search_eq`, unless they have no value or the limit leaves no token;
* `values_typeQuery_inj` says that what a query binds determines it;
* `BindsTypes` says so of the statements of an entity;
* `entryTypes_canonical` is about reading types and about the queries of both entities.
-/

/-- A query that is read as one token, with the field `type` and the value `a`. -/
def IsTypeQuery (raw a : String) : Prop :=
  ∃ t, tokenize raw = [t] ∧ t.hasField "type" = true ∧ t.value = a

section

variable {φ μ : Type} {ofKind : EntryType → μ}

/-! ### Compiling -/

/-- The match of the type that a text is read as, if there is a text, and nothing else. -/
def typeQuery (ofKind : EntryType → μ) (a? : Option String) : CompiledQuery μ :=
  { term? := a?.map fun a => .leaf (ofKind (.ofText a)) }

/-- The field `type` of an entity makes a match of the type that its value is read as, and no
    extension takes the name for its qualifier. -/
structure Registry.HasTypes (r : Registry φ μ) (ofKind : EntryType → μ) : Prop where
  leavesAlone : r.LeavesAlone "type"
  exists_field : ∃ field, r.lookup "type" = some field ∧
    ∀ a, r.matcher field a = ofKind (.ofText a)

namespace Registry.HasTypes

variable {r : Registry φ μ} (h : r.HasTypes ofKind) {raw a : String} (hraw : IsTypeQuery raw a)

include h hraw

/-- A query for a type with a value is compiled to the match of the type. -/
theorem search_eq {options : SearchOptions} (hmax : 1 ≤ options.maxTokens) (ha : a ≠ "")
    (user : String) : r.search options user raw = typeQuery ofKind (some a) := by
  obtain ⟨⟨field?, value, quoted⟩, htokens, hfield, rfl⟩ := hraw
  -- the field is spelled in some case, and is looked up like its name
  obtain ⟨name, rfl, hfold⟩ := (Token.hasField_iff _ _).1 hfield
  obtain ⟨field, hlookup, hmatcher⟩ := h.exists_field
  have hlookup' : r.lookup name = some field := (lookup_congr hfold).trans hlookup
  rw [search, htokens,
    searchTokens_qualified (h.leavesAlone.congr hfold) hlookup' ha quoted hmax user, hmatcher]
  rfl

/-- Any query for a type is compiled to the match of a type, or to no restriction. -/
theorem exists_search_eq (options : SearchOptions) (user : String) :
    ∃ a?, r.search options user raw = typeQuery ofKind a? := by
  by_cases hmatch : 1 ≤ options.maxTokens ∧ a ≠ ""
  · exact ⟨some a, h.search_eq hraw hmatch.1 hmatch.2 user⟩
  · obtain ⟨⟨field?, value, quoted⟩, htokens, hfield, rfl⟩ := hraw
    obtain ⟨name, rfl, hfold⟩ := (Token.hasField_iff _ _).1 hfield
    have halone := h.leavesAlone.congr hfold
    -- the limit leaves no token, or the one token has no value
    have hterm : r.compile (r.keptTokens options [⟨some name, value, quoted⟩]) = none := by
      rw [compile_eq_none_iff, keptTokens, fieldTokens_eq, List.filterMap_cons,
        halone.fieldToken?_eq]
      intro t ht
      by_cases hmax : 1 ≤ options.maxTokens
      · have hvalue : value = "" := by
          by_contra hvalue
          exact hmatch ⟨hmax, hvalue⟩
        obtain rfl := List.mem_singleton.1 (List.mem_of_mem_take ht)
        exact .emptyValue hvalue
      · have hzero : options.maxTokens = 0 := by omega
        rw [hzero] at ht
        exact absurd ht List.not_mem_nil
    obtain ⟨htags, hreview⟩ := halone.filters_eq_none options user value quoted
    refine ⟨none, ?_⟩
    rw [search, htokens, typeQuery, CompiledQuery.mk.injEq]
    exact ⟨hterm, htags, hreview⟩

end Registry.HasTypes

/-! ### Binding -/

variable {value : μ → String} (hvalue : ∀ kind, value (ofKind kind) = kind.text)

include hvalue

/-- A query for a type binds the canonical text of the type. -/
theorem values_typeQuery (a? : Option String) :
    (typeQuery ofKind a?).values value =
      (a?.map fun a => Value.text (EntryType.ofText a).text).toList := by
  cases a? with
  | none => rfl
  | some a =>
    show [Value.text (value (ofKind (.ofText a)))] = [Value.text (EntryType.ofText a).text]
    rw [hvalue]

/-- A query for a type is determined by the values that it binds. -/
theorem values_typeQuery_inj {a? b? : Option String}
    (h : (typeQuery ofKind a?).values value = (typeQuery ofKind b?).values value) :
    typeQuery ofKind a? = typeQuery ofKind b? := by
  rw [values_typeQuery hvalue, values_typeQuery hvalue] at h
  cases a? <;> cases b?
  case none.none => rfl
  case none.some => cases h
  case some.none => cases h
  case some.some a b =>
    have htext : (EntryType.ofText a).text = (EntryType.ofText b).text := by
      simpa using h
    rw [typeQuery, typeQuery, Option.map_some, Option.map_some,
      EntryType.ofText_inj_of_text htext]

end

/-- How a kind of statement of an entity treats queries for types.  Two of them bind the same values
    exactly if they are compiled alike; one with a value is compiled to the match of its type, and
    binds the canonical text of the type between what the statement binds by itself. -/
structure BindsTypes {φ μ : Type} (r : Registry φ μ) (ofKind : EntryType → μ)
    (statement : CompiledQuery μ → Select) (before after : List Value) : Prop where
  values_eq_iff : ∀ {raw raw' a b : String}, IsTypeQuery raw a → IsTypeQuery raw' b →
    ∀ (options : SearchOptions) (user : String),
      (statement (r.search options user raw)).values =
          (statement (r.search options user raw')).values ↔
        r.search options user raw = r.search options user raw'
  search_eq : ∀ {raw a : String}, IsTypeQuery raw a → a ≠ "" → ∀ {options : SearchOptions},
    1 ≤ options.maxTokens → ∀ user, r.search options user raw =
      { term? := some (.leaf (ofKind (.ofText a))), tags? := none, review? := none }
  values_eq : ∀ {raw a : String}, IsTypeQuery raw a → a ≠ "" → ∀ {options : SearchOptions},
    1 ≤ options.maxTokens → ∀ user, (statement (r.search options user raw)).values =
      before ++ .text (EntryType.ofText a).text :: after

/-- Statements bind types if they bind the values of the query between their own, at least where the
    query asks for no review status. -/
theorem Registry.HasTypes.bindsTypes {φ μ : Type} {r : Registry φ μ} {ofKind : EntryType → μ}
    {statement : CompiledQuery μ → Select} {before after : List Value} {value : μ → String}
    (h : r.HasTypes ofKind) (hvalue : ∀ kind, value (ofKind kind) = kind.text)
    (hstatement : ∀ q : CompiledQuery μ, q.review? = none →
      (statement q).values = before ++ q.values value ++ after) :
    BindsTypes r ofKind statement before after := by
  constructor
  case values_eq_iff =>
    intro raw raw' a b hraw hraw' options user
    obtain ⟨a?, ha⟩ := h.exists_search_eq hraw options user
    obtain ⟨b?, hb⟩ := h.exists_search_eq hraw' options user
    rw [ha, hb, hstatement _ rfl, hstatement _ rfl]
    constructor
    · -- around the values of the query the statement binds the same
      intro heq
      rw [List.append_cancel_right_eq, List.append_cancel_left_eq] at heq
      exact values_typeQuery_inj hvalue heq
    · intro heq
      rw [heq]
  case search_eq => exact fun hraw ha _ hmax user => h.search_eq hraw hmax ha user
  case values_eq =>
    intro raw a hraw ha options hmax user
    rw [h.search_eq hraw hmax ha user, hstatement _ rfl, values_typeQuery hvalue,
      List.append_assoc]
    rfl

/-! ### Both entities -/

/-- The field `type` of extra entries. -/
theorem Extra.hasTypes : registry.HasTypes type :=
  ⟨⟨fun _ => by decide, fun _ => by decide⟩, .type, by decide, fun _ => rfl⟩

/-- The field `type` of collections. -/
theorem Library.hasTypes : registry.HasTypes type :=
  ⟨⟨fun _ => by decide, fun _ => by decide⟩, .type, by decide, fun _ => rfl⟩

/-- Pages of extra entries bind the owner before the query and the page after it. -/
theorem Extra.bindsTypes_select (owner : String) (page : Page) :
    BindsTypes registry type (select · owner page) [.text owner]
      [.bigUnsigned page.limit, .bigUnsigned page.offset] := by
  apply hasTypes.bindsTypes (fun kind => (rfl : value (type kind) = kind.text))
  intro q hreview
  have hbinds := isScoped.binds (isFixed_select q owner page) (tidy_joined rfl) rfl
  rw [values_joined rfl, hreview] at hbinds
  exact hbinds.values_eq

/-- Numbers of extra entries bind the owner before the query. -/
theorem Extra.bindsTypes_count (owner : String) :
    BindsTypes registry type (count · owner) [.text owner] [] := by
  apply hasTypes.bindsTypes (fun kind => (rfl : value (type kind) = kind.text))
  intro q hreview
  have hbinds := isScoped.binds (isFixed_count q owner) (tidy_joined rfl) rfl
  rw [values_joined rfl, hreview] at hbinds
  exact hbinds.values_eq

/-- Pages of collections bind the owner before the query and the page after it. -/
theorem Library.bindsTypes_select (owner : String) (page : Page) :
    BindsTypes registry type (select · owner page) [.text owner]
      [.bigUnsigned page.limit, .bigUnsigned page.offset] := by
  apply hasTypes.bindsTypes (fun kind => (rfl : value (type kind) = kind.text))
  intro q _
  exact (isScoped.binds (isFixed_select q owner page) .nil rfl).values_eq

/-- Numbers of collections bind the owner before the query. -/
theorem Library.bindsTypes_count (owner : String) :
    BindsTypes registry type (count · owner) [.text owner] [] := by
  apply hasTypes.bindsTypes (fun kind => (rfl : value (type kind) = kind.text))
  intro q _
  exact (isScoped.binds (isFixed_count q owner) .nil rfl).values_eq

/-- **Entry types have a canonical form.**  Two texts are read as the same type exactly if they are
    equal or name the same known type, up to ASCII case.  The text of what has been read is the
    canonical name of the type that is named, and the text itself if none is; reading it again
    changes nothing.  So, for both entities, two queries for types bind the same values in a page or
    a number exactly if they are compiled to the same match. -/
theorem entryTypes_canonical :
    (∀ a b : String, EntryType.ofText a = EntryType.ofText b ↔
      a = b ∨ ∃ kind name, EntryType.Names a kind name ∧ EntryType.Names b kind name) ∧
    (∀ a text : String, (EntryType.ofText a).text = text ↔
      (∃ kind, EntryType.Names a kind text) ∨
        (∀ kind name, ¬ EntryType.Names a kind name) ∧ a = text) ∧
    (∀ a : String, EntryType.ofText (EntryType.ofText a).text = EntryType.ofText a) ∧
    ∀ (owner : String) (page : Page),
      BindsTypes Extra.registry Extra.type (Extra.select · owner page) [.text owner]
        [.bigUnsigned page.limit, .bigUnsigned page.offset] ∧
      BindsTypes Extra.registry Extra.type (Extra.count · owner) [.text owner] [] ∧
      BindsTypes Library.registry Library.type (Library.select · owner page) [.text owner]
        [.bigUnsigned page.limit, .bigUnsigned page.offset] ∧
      BindsTypes Library.registry Library.type (Library.count · owner) [.text owner] [] :=
  ⟨fun _ _ => EntryType.ofText_eq_ofText_iff, fun _ _ => EntryType.text_ofText_eq_iff,
    EntryType.ofText_text_ofText, fun owner page =>
      ⟨Extra.bindsTypes_select owner page, Extra.bindsTypes_count owner,
        Library.bindsTypes_select owner page, Library.bindsTypes_count owner⟩⟩

/-- Two names of one type in different forms bind the same values; a name with the Kelvin sign for
    its first letter does not. -/
theorem entryTypes_canonical_kanji :
    let search := Extra.registry.search {} "u"
    (IsTypeQuery "type:KANJI" "KANJI" ∧ IsTypeQuery "Type:\"hanzi\" " "hanzi" ∧
      IsTypeQuery "type:\u212Aanji" "\u212Aanji") ∧
    (Extra.select (search "type:KANJI") "o" .first).values =
      (Extra.select (search "Type:\"hanzi\" ") "o" .first).values ∧
    (Extra.select (search "type:KANJI") "o" .first).values ≠
      (Extra.select (search "type:\u212Aanji") "o" .first).values := by
  intro search
  have hkanji : IsTypeQuery "type:KANJI" "KANJI" :=
    ⟨{ field := some "type", value := "KANJI" }, by decide +kernel, by decide, rfl⟩
  have hhanzi : IsTypeQuery "Type:\"hanzi\" " "hanzi" :=
    ⟨{ field := some "type", value := "hanzi", quoted := true }, by decide +kernel, by decide, rfl⟩
  have hkelvin : IsTypeQuery "type:\u212Aanji" "\u212Aanji" :=
    ⟨{ field := some "type", value := "\u212Aanji" }, by decide +kernel, by decide, rfl⟩
  obtain ⟨hread, -, -, hbinds⟩ := entryTypes_canonical
  obtain ⟨hextra, -⟩ := hbinds "o" .first
  have hsame : EntryType.ofText "KANJI" = EntryType.ofText "hanzi" :=
    (hread _ _).2 (.inr ⟨_, _, .character (by decide), .character (by decide)⟩)
  refine ⟨⟨hkanji, hhanzi, hkelvin⟩, ?_, fun h => ?_⟩
  · refine (hextra.values_eq_iff hkanji hhanzi {} "u").2 ?_
    rw [hextra.search_eq hkanji (by decide) (by decide), hsame,
      hextra.search_eq hhanzi (by decide) (by decide)]
  · rw [hextra.values_eq hkanji (by decide) (by decide) "u",
      hextra.values_eq hkelvin (by decide) (by decide) "u"] at h
    exact absurd h (by decide)

end FieldSearch
