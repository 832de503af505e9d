import FieldSearch.Proofs.Declaration.Checks
import FieldSearch.Proofs.Registry
import Mathlib.Data.List.Range

namespace FieldSearch

/-!
# The table of a declaration

A declaration without a fault describes a registry whose fields are the positions of its variants.

* `Lists` relates positions to what they have in common, and `lists_positions` says that a filtered
  list of positions is of this form;
* `DerivedRegistry.resolve_bare_eq_none_iff` and `DerivedRegistry.mem_general_of_mem_leaves` say
  what becomes of bare terms;
* `Variant.HasPrimaryName` says what a field is called, and `Variant.hasPrimaryName_iff` that it is
  called so in the table;
* `Declaration.Describes` says what there is in the registry, and
  `Declaration.describes_of_derive` that it is there.
-/

/-! ## Positions -/

/-- The positions at which a list has a property, in order. -/
structure Lists {α : Type} (xs : List α) (p : α → Prop) (positions : List Nat) : Prop where
  ascending : positions.Pairwise (· < ·)
  mem_iff : ∀ i, i ∈ positions ↔ ∃ x, xs[i]? = some x ∧ p x

/-- Positions that are picked by what stands there are listed. -/
theorem lists_positions {α : Type} {xs : List α} {p : α → Prop} {q : α → Bool}
    (h : ∀ x ∈ xs, q x = true ↔ p x) :
    Lists xs p ((xs.zipIdx.filter fun entry => q entry.1).map (·.2)) where
  ascending := by
    -- the positions of all elements ascend, and some of them are kept
    have hsublist := (List.filter_sublist (l := xs.zipIdx) (p := fun entry => q entry.1)).map (·.2)
    rw [List.zipIdx_map_snd] at hsublist
    exact List.Pairwise.sublist hsublist List.pairwise_lt_range'
  mem_iff i := by
    constructor
    · intro hi
      obtain ⟨⟨x, j⟩, hentry, rfl⟩ := List.mem_map.1 hi
      obtain ⟨hmem, hq⟩ := List.mem_filter.1 hentry
      have hx := List.mk_mem_zipIdx_iff_getElem?.1 hmem
      exact ⟨x, hx, (h x (List.mem_of_getElem? hx)).1 hq⟩
    · rintro ⟨x, hx, hp⟩
      exact List.mem_map.2 ⟨(x, i), List.mem_filter.2 ⟨List.mk_mem_zipIdx_iff_getElem?.2 hx,
        (h x (List.mem_of_getElem? hx)).2 hp⟩, rfl⟩

/-- Nothing is listed exactly if nothing has the property. -/
theorem Lists.eq_nil_iff {α : Type} {xs : List α} {p : α → Prop} {positions : List Nat}
    (h : Lists xs p positions) : positions = [] ↔ ∀ x ∈ xs, ¬ p x := by
  rw [List.eq_nil_iff_forall_not_mem]
  constructor
  · intro hnone x hx hp
    obtain ⟨i, hi⟩ := List.getElem?_of_mem hx
    exact hnone i ((h.mem_iff i).2 ⟨x, hi, hp⟩)
  · intro hnone i hi
    obtain ⟨x, hx, hp⟩ := (h.mem_iff i).1 hi
    exact hnone x (List.mem_of_getElem? hx) hp

/-! ## Default fields -/

namespace FieldTable

variable {φ : Type}

/-- If no default field is marked for ideographs, they are looked for in all of them. -/
theorem defaults_of_logographic_nil {table : FieldTable φ} (h : table.logographic = []) :
    table.defaults .logographic = table.defaults .general := by
  simp [defaults, h]

/-- Ideographs are looked for in the default fields that are marked for them, if there are any. -/
theorem defaults_of_logographic_ne_nil {table : FieldTable φ} (h : table.logographic ≠ []) :
    table.defaults .logographic = table.logographic := by
  simp [defaults, h]

/-- Ideographs are looked for in some of the fields that everything else is looked for in. -/
theorem defaults_sublist (table : FieldTable φ) (script : ScriptClass) :
    (table.defaults script).Sublist (table.defaults .general) := by
  cases script with
  | general => exact List.Sublist.refl _
  | logographic =>
    by_cases hnil : table.logographic = []
    · rw [defaults_of_logographic_nil hnil]
    · -- the fields that are marked for ideographs are taken from those marked default
      have hfilter : table.filter (fun row => row.isDefault && row.isLogographic) =
          (table.filter (·.isDefault)).filter (·.isLogographic) := by
        rw [List.filter_filter]
        exact List.filter_congr fun row _ => Bool.and_comm _ _
      rw [defaults_of_logographic_ne_nil hnil, logographic, hfilter]
      exact List.filter_sublist.map _

/-- No ideographs are looked for only if nothing else is either. -/
theorem general_eq_nil_of_defaults {table : FieldTable φ} (script : ScriptClass)
    (h : table.defaults script = []) : table.defaults .general = [] := by
  cases script with
  | general => exact h
  | logographic =>
    by_cases hnil : table.logographic = []
    · rwa [defaults_of_logographic_nil hnil] at h
    · rw [defaults_of_logographic_ne_nil hnil] at h
      exact absurd h hnil

end FieldTable

/-! ## Bare terms -/

namespace DerivedRegistry

variable (r : DerivedRegistry)

/-- A bare term is left out only if there are no default fields at all: what is looked for by
    ideographs falls back on them. -/
theorem resolve_bare_eq_none_iff {value : String} (hvalue : value ≠ "") (quoted : Bool) :
    r.registry.resolve ⟨none, value, quoted⟩ = none ↔ r.table.defaults .general = [] := by
  rw [Registry.resolve_eq_none_iff]
  constructor
  · rintro (hempty | ⟨hfield, -⟩ | ⟨-, hnone⟩)
    · exact absurd hempty hvalue
    · cases hfield
    · exact FieldTable.general_eq_nil_of_defaults (classify value) hnone
  · intro hnil
    have hsublist := r.table.defaults_sublist (classify value)
    exact .noDefaults rfl (List.sublist_nil.1 (hnil ▸ hsublist))

/-- A bare term is looked for in general fields, whatever its script class. -/
theorem mem_general_of_mem_leaves {value : String} {quoted : Bool} {term : Term (Nat × String)}
    (h : r.registry.resolve ⟨none, value, quoted⟩ = some term) {m : Nat × String}
    (hm : m ∈ term.leaves) : m.2 = value ∧ m.1 ∈ r.table.defaults .general := by
  have hleaves := r.registry.leaves_resolve ⟨none, value, quoted⟩
  rw [h, Option.elim_some] at hleaves
  rw [hleaves, Registry.tokenMatches, List.mem_map] at hm
  obtain ⟨i, hi, rfl⟩ := hm
  refine ⟨rfl, ?_⟩
  rw [Registry.tokenFields] at hi
  split at hi
  · cases hi
  · exact (r.table.defaults_sublist _).subset hi

end DerivedRegistry

/-! ## Variants -/

namespace Variant

variable {casing : String → String} {v : Variant}

/-- The primary name of a field, before it is lower-cased: the one that it is renamed to, or the
    name of the variant in the casing if it is not renamed. -/
inductive HasPrimaryName (casing : String → String) (v : Variant) : String → Prop
  | renamed {name : String} (rename : ⟨"rename", some name⟩ ∈ v.settings) :
      HasPrimaryName casing v name
  | own (rename : ∀ name, ⟨"rename", some name⟩ ∉ v.settings) :
      HasPrimaryName casing v (casing v.name)

/-- A well-formed variant is renamed once. -/
theorem IsWellFormed.eq_of_rename (h : v.IsWellFormed) {name name' : String}
    (hname : ⟨"rename", some name⟩ ∈ v.settings) (hname' : ⟨"rename", some name'⟩ ∈ v.settings) :
    name = name' := by
  have haccepts := (Vocabulary.accepts_iff isUnambiguous_variantVocabulary).2 h.settings
  have heq := Vocabulary.eq_of_accepts haccepts hname hname' rfl
    (show "rename" ∉ variantVocabulary.repeated by decide)
  simpa using heq

/-- A field is called by its primary name, and by no other in its place. -/
theorem hasPrimaryName_iff (h : v.IsWellFormed) {name : String} :
    v.HasPrimaryName casing name ↔ name = v.primaryName casing := by
  rw [primaryName]
  cases htexts : (Setting.texts v.settings "rename").head? with
  | none =>
    -- the field keeps the name of its variant
    have hnone (text : String) : ⟨"rename", some text⟩ ∉ v.settings := by
      rw [← Setting.mem_texts_iff, List.head?_eq_none_iff.1 htexts]
      exact List.not_mem_nil
    constructor
    · rintro (hrename | -)
      · exact absurd hrename (hnone name)
      · rfl
    · rintro rfl
      exact .own hnone
  | some text =>
    -- the first text is the only one that the variant is renamed to
    have htext : ⟨"rename", some text⟩ ∈ v.settings :=
      Setting.mem_texts_iff.1 (List.mem_of_head? htexts)
    constructor
    · rintro (hrename | hnone)
      · exact h.eq_of_rename hrename htext
      · exact absurd htext (hnone text)
    · rintro rfl
      exact .renamed htext

end Variant

/-! ## Declarations -/

namespace Declaration

variable {d : Declaration} {casing : String → String}

/-- A registry is derived from well-formed declarations only. -/
theorem isWellFormed_of_derive {r : DerivedRegistry} (h : d.derive casing = .ok r) :
    d.IsWellFormed := by
  have hnone := derive_eq_ok_iff.1 ⟨r, h⟩
  have hholds := d.verdict.eq_none_iff.1 hnone
  rw [isWellFormed_iff]
  intro c hc
  -- the check of the selector is made in addition to those of the declaration
  refine hholds c ?_
  rcases List.mem_append.1 hc with hc | hc
  · exact List.mem_append_left _ hc
  · exact List.mem_append_right _ (List.mem_cons_of_mem _ hc)

/-- The table of a registry is that of its declaration. -/
theorem table_of_derive {r : DerivedRegistry} (h : d.derive casing = .ok r) :
    r.table = d.table casing := by
  rw [derive] at h
  cases hfault : d.fault? with
  | some fault => simp [hfault] at h
  | none =>
    rw [hfault] at h
    obtain rfl := Except.ok.inj h
    rfl

/-- The names of a registry are those in the table of its declaration. -/
theorem names_of_derive {r : DerivedRegistry} (h : d.derive casing = .ok r) :
    r.registry.names = (d.table casing).names :=
  congrArg FieldTable.names (table_of_derive h)

/-- A table has a row for each variant, by its position. -/
theorem table_eq (casing : String → String) (d : Declaration) :
    d.table casing = d.variants.zipIdx.map fun entry => entry.1.row casing entry.2 := by
  rw [table, List.mapIdx_eq_zipIdx_map]

/-- The names in the table of a declaration are those of each variant in turn. -/
theorem names_table (casing : String → String) (d : Declaration) :
    (d.table casing).names = d.variants.zipIdx.flatMap fun entry =>
      (entry.1.fieldNames casing).map fun name => (name, entry.2) := by
  rw [table_eq, FieldTable.names, List.flatMap_map]
  rfl

/-- Picking rows of the table of a declaration comes to picking variants. -/
theorem filter_table (casing : String → String) (d : Declaration) {p : FieldRow Nat → Bool}
    {q : Variant → Bool} (h : ∀ i v, p (Variant.row casing i v) = q v) :
    ((d.table casing).filter p).map (·.field) =
      (d.variants.zipIdx.filter fun entry => q entry.1).map (·.2) := by
  have hp : (p ∘ fun entry : Variant × Nat => entry.1.row casing entry.2) =
      fun entry => q entry.1 := funext fun entry => h entry.2 entry.1
  rw [table_eq, List.filter_map, List.map_map, hp]
  rfl

/-- The general fields are those of the variants that are marked default. -/
theorem lists_general (h : d.IsWellFormed) :
    Lists d.variants (·.HasFlag "default") (d.table casing).general := by
  rw [FieldTable.general, filter_table casing d (q := Variant.isDefault) fun _ _ => rfl]
  exact lists_positions fun v hv => Variant.isDefault_iff (h.variants v hv).settings

/-- The fields that are marked for ideographs are those of the variants that are marked
    logographic. -/
theorem lists_logographic (h : d.IsWellFormed) :
    Lists d.variants (·.HasFlag "logographic") (d.table casing).logographic := by
  rw [FieldTable.logographic, filter_table casing d
    (q := fun v => v.isDefault && v.isLogographic) fun _ _ => rfl]
  refine lists_positions (q := fun v : Variant => v.isDefault && v.isLogographic) fun v hv => ?_
  have hv := h.variants v hv
  rw [Bool.and_eq_true, Variant.isDefault_iff hv.settings, Variant.isLogographic_iff hv.settings]
  exact and_iff_right_of_imp hv.logographic

/-- What a declaration says of a registry, with the positions of its variants as fields. -/
structure Describes (d : Declaration) (casing : String → String)
    (r : Registry Nat (Nat × String)) : Prop where
  /-- The names of each variant in turn, in lower case, its aliases behind the primary name. -/
  names : r.names = d.variants.zipIdx.flatMap fun entry =>
    (toLowercase (entry.1.primaryName casing) ::
      (Setting.texts entry.1.settings "alias").map toLowercase).map fun name => (name, entry.2)
  primary : ∀ v ∈ d.variants, ∀ name, v.HasPrimaryName casing name ↔ name = v.primaryName casing
  owned : ∀ i < d.variants.length, ∃ name, (name, i) ∈ r.names
  /-- The earliest entry is looked up that equals the name up to ASCII case. -/
  found : ∀ name i, r.lookup name = some i ↔
    ∃ earlier entry later, r.names = earlier ++ entry :: later ∧ entry.2 = i ∧
      asciiFold entry.1 = asciiFold name ∧ ∀ other ∈ earlier, asciiFold other.1 ≠ asciiFold name
  missing : ∀ name, r.lookup name = none ↔
    ∀ entry ∈ r.names, asciiFold entry.1 ≠ asciiFold name
  general : Lists d.variants (·.HasFlag "default") (r.defaults .general)
  narrower : (r.defaults .logographic).Sublist (r.defaults .general)
  logographic : (∃ v ∈ d.variants, v.HasFlag "logographic") →
    Lists d.variants (·.HasFlag "logographic") (r.defaults .logographic)
  fallback : (∀ v ∈ d.variants, ¬ v.HasFlag "logographic") →
    r.defaults .logographic = r.defaults .general
  nonempty : r.defaults .logographic = [] → r.defaults .general = []
  /-- No bare term is left out, unless there are no default fields at all. -/
  leftOut : ∀ value quoted, value ≠ "" →
    (r.resolve ⟨none, value, quoted⟩ = none ↔ ∀ v ∈ d.variants, ¬ v.HasFlag "default")
  fanOut : ∀ value quoted term, r.resolve ⟨none, value, quoted⟩ = some term →
    ∀ m ∈ term.leaves, m.2 = value ∧ m.1 ∈ r.defaults .general

/-- Every variant has its primary name in the table. -/
theorem mem_names_of_lt {i : Nat} (hi : i < d.variants.length) :
    ∃ name, (name, i) ∈ (d.table casing).names := by
  refine ⟨toLowercase (d.variants[i].primaryName casing), ?_⟩
  rw [names_table]
  exact List.mem_flatMap.2 ⟨(d.variants[i], i),
    List.mk_mem_zipIdx_iff_getElem?.2 (List.getElem?_eq_getElem hi),
    List.mem_map.2 ⟨_, List.mem_cons_self, rfl⟩⟩

/-- **The registry of a declaration** has the names and the default fields that the declaration
    says; a bare term is left out only if no variant is marked default. -/
theorem describes_of_derive {r : DerivedRegistry} (h : d.derive casing = .ok r) :
    d.Describes casing r.registry := by
  have hwell := isWellFormed_of_derive h
  have hgeneral : Lists d.variants (·.HasFlag "default") (r.registry.defaults .general) := by
    show Lists _ _ r.table.general
    rw [table_of_derive h]
    exact lists_general hwell
  -- the marks are counted once for the table, before the fallback is taken
  have hmarked : Lists d.variants (·.HasFlag "logographic") r.table.logographic := by
    rw [table_of_derive h]
    exact lists_logographic hwell
  have hnames := names_of_derive h
  exact {
    names := by rw [hnames, names_table]; rfl
    primary := fun v hv name => Variant.hasPrimaryName_iff (hwell.variants v hv)
    owned := fun i hi => by rw [hnames]; exact mem_names_of_lt hi
    found := fun name i => Registry.lookup_eq_some_iff
    missing := fun name => Registry.lookup_eq_none_iff
    general := hgeneral
    narrower := r.table.defaults_sublist .logographic
    logographic := by
      rintro ⟨v, hv, hflag⟩
      have hsome : r.table.logographic ≠ [] := fun hnil => hmarked.eq_nil_iff.1 hnil v hv hflag
      show Lists _ _ (r.table.defaults .logographic)
      rwa [FieldTable.defaults_of_logographic_ne_nil hsome]
    fallback := fun hnone =>
      FieldTable.defaults_of_logographic_nil (hmarked.eq_nil_iff.2 hnone)
    nonempty := FieldTable.general_eq_nil_of_defaults .logographic
    leftOut := fun value quoted hvalue =>
      (r.resolve_bare_eq_none_iff hvalue quoted).trans hgeneral.eq_nil_iff
    fanOut := fun value quoted term hterm m hm => r.mem_general_of_mem_leaves hterm hm }

/-- Three fields with a name in camel case, an alias and another name; the second is looked for
    by ideographs. -/
theorem describes_card :
    let d : Declaration :=
      { name := "Card"
        variants :=
          [ { name := "PartOfSpeech", settings := [{ word := "default" }] },
            { name := "Front"
              settings := [{ word := "logographic" }, ⟨"alias", some "Front_Side"⟩,
                { word := "default" }] },
            { name := "Label", settings := [⟨"rename", some "TAG"⟩] } ] }
    ∃ r, d.derive = .ok r ∧ d.Describes camelCase r.registry ∧
      r.registry.names =
        [("partofspeech", 0), ("front", 1), ("front_side", 1), ("tag", 2)] := by
  intro d
  have hfault : d.fault? = none := by decide +kernel
  obtain ⟨r, hr⟩ := derive_eq_ok_iff.2 hfault
  have hnames : (d.table camelCase).names =
      [("partofspeech", 0), ("front", 1), ("front_side", 1), ("tag", 2)] := by decide +kernel
  exact ⟨r, hr, describes_of_derive hr, (names_of_derive hr).trans hnames⟩

end Declaration

end FieldSearch
