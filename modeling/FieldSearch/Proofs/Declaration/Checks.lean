import FieldSearch.Proofs.Declaration.Settings

namespace FieldSearch

/-!
# The order of the checks

What has to hold of a declaration is a list of checks, each with a fault.  The fault of the first
check that fails is reported.

* `Verdict` relates a list of checks to what it reports; `Verdict.ite` adds one check in front, and
  `Verdict.append` and `Verdict.flatMap` put the lists of the parts together;
* `Variant.verdict` and `Declaration.verdict` say which checks a variant and a declaration go
  through;
* `Declaration.isJudged_iff` is the result: a declaration is judged by its settings, its kind, its
  variants and its lifetimes, in this order, as long as its name makes the name of a selector.
-/

/-! ## Checks -/

/-- Something that has to hold, and the fault if it does not. -/
structure Check where
  holds : Prop
  fault : DeclarationFault

/-- A fault is that of the first check that fails. -/
def FirstFails (checks : List Check) (fault : DeclarationFault) : Prop :=
  ∃ earlier check later, checks = earlier ++ check :: later ∧ (∀ c ∈ earlier, c.holds) ∧
    ¬ check.holds ∧ check.fault = fault

/-- What checks report when they are made one after the other: the fault of the first one that
    fails, and nothing if all hold. -/
inductive Verdict : List Check → Option DeclarationFault → Prop
  | accepted : Verdict [] none
  | rejected {c : Check} {cs : List Check} (fails : ¬ c.holds) : Verdict (c :: cs) (some c.fault)
  | next {c : Check} {cs : List Check} {report : Option DeclarationFault} (holds : c.holds)
      (rest : Verdict cs report) : Verdict (c :: cs) report

namespace Verdict

variable {cs ds : List Check} {report other : Option DeclarationFault}

/-- A fault that is tested for is that of a check, if the test is for the check to fail. -/
theorem ite {c : Check} {test : Prop} [Decidable test] (htest : test ↔ ¬ c.holds)
    (rest : c.holds → Verdict cs report) :
    Verdict (c :: cs) (if test then some c.fault else report) := by
  by_cases hholds : c.holds
  · rw [if_neg (htest.not.2 (not_not.2 hholds))]
    exact .next hholds (rest hholds)
  · rw [if_pos (htest.2 hholds)]
    exact .rejected hholds

/-- Further checks count if the ones before report nothing. -/
theorem append (h : Verdict cs report) (hother : Verdict ds other) :
    Verdict (cs ++ ds) (report.or other) := by
  induction h with
  | accepted => exact hother
  | rejected hfails => exact .rejected hfails
  | next hholds _ ih => exact .next hholds ih

/-- The checks of the members of a list report the first fault of a member. -/
theorem flatMap {α : Type} {checks : α → List Check} {fault? : α → Option DeclarationFault}
    {xs : List α} (h : ∀ x ∈ xs, Verdict (checks x) (fault? x)) :
    Verdict (xs.flatMap checks) (xs.findSome? fault?) := by
  induction xs with
  | nil => exact .accepted
  | cons x xs ih =>
    have hxs := ih fun y hy => h y (List.mem_cons_of_mem _ hy)
    have happend := (h x List.mem_cons_self).append hxs
    rw [List.flatMap_cons, List.findSome?_cons]
    cases hx : fault? x with
    | none => simpa [hx] using happend
    | some fault => simpa [hx] using happend

/-- Nothing is reported exactly if every check holds. -/
theorem eq_none_iff (h : Verdict cs report) : report = none ↔ ∀ c ∈ cs, c.holds := by
  induction h with
  | accepted => simp
  | rejected hfails => simp [hfails]
  | next hholds _ ih => rw [ih, List.forall_mem_cons, and_iff_right hholds]

/-- A fault is reported exactly if it is that of the first check that fails. -/
theorem eq_some_iff (h : Verdict cs report) {fault : DeclarationFault} :
    report = some fault ↔ FirstFails cs fault := by
  induction h with
  | accepted => simp [FirstFails]
  | @rejected c cs hfails =>
    -- the first check fails, and so no check is before it
    rw [Option.some_inj]
    constructor
    · intro hfault
      exact ⟨[], c, cs, rfl, by simp, hfails, hfault⟩
    · rintro ⟨earlier, check, later, heq, hearlier, -, hfault⟩
      cases earlier with
      | nil =>
        obtain ⟨rfl, -⟩ := List.cons.inj heq
        exact hfault
      | cons e earlier =>
        obtain ⟨rfl, -⟩ := List.cons.inj heq
        exact absurd (hearlier c List.mem_cons_self) hfails
  | @next c cs _ hholds _ ih =>
    -- the first check holds, and is one of those before the check that fails
    rw [ih]
    constructor
    · rintro ⟨earlier, check, later, rfl, hearlier, hfails, hfault⟩
      exact ⟨c :: earlier, check, later, rfl, List.forall_mem_cons.2 ⟨hholds, hearlier⟩, hfails,
        hfault⟩
    · rintro ⟨earlier, check, later, heq, hearlier, hfails, hfault⟩
      cases earlier with
      | nil =>
        obtain ⟨rfl, -⟩ := List.cons.inj heq
        exact absurd hholds hfails
      | cons e earlier =>
        obtain ⟨rfl, rfl⟩ := List.cons.inj heq
        exact ⟨earlier, check, later, rfl, (List.forall_mem_cons.1 hearlier).2, hfails, hfault⟩

end Verdict

/-! ## Variants -/

namespace Variant

/-- Whether a flag is among the settings of a variant. -/
def HasFlag (v : Variant) (word : String) : Prop := { word } ∈ v.settings

/-- A variant's settings are understood, it has one value, and its field is looked for by bare terms
    if it is looked for by ideographs. -/
structure IsWellFormed (v : Variant) : Prop where
  settings : ¬ variantVocabulary.Refuses v.settings
  values : v.values = 1
  logographic : v.HasFlag "logographic" → v.HasFlag "default"

/-- The checks of a variant. -/
def checks (v : Variant) : List Check :=
  [ { holds := ¬ variantVocabulary.Refuses v.settings, fault := .variantSettings },
    { holds := v.values = 1, fault := .valueCount },
    { holds := v.HasFlag "logographic" → v.HasFlag "default", fault := .logographicNotDefault } ]

variable {v : Variant}

/-- A variant is well-formed if it passes its checks. -/
theorem isWellFormed_iff : v.IsWellFormed ↔ ∀ c ∈ v.checks, c.holds := by
  simp only [checks, List.forall_mem_cons, List.not_mem_nil, false_imp_iff, implies_true, and_true]
  exact ⟨fun ⟨hsettings, hvalues, hflags⟩ => ⟨hsettings, hvalues, hflags⟩,
    fun ⟨hsettings, hvalues, hflags⟩ => ⟨hsettings, hvalues, hflags⟩⟩

/-- Bare terms are looked for in a field exactly if its variant is marked default. -/
theorem isDefault_iff (h : ¬ variantVocabulary.Refuses v.settings) :
    v.isDefault = true ↔ v.HasFlag "default" :=
  Vocabulary.given_iff isUnambiguous_variantVocabulary
    ((Vocabulary.accepts_iff isUnambiguous_variantVocabulary).2 h) (by decide)

/-- Ideographs are looked for in a field exactly if its variant is marked logographic. -/
theorem isLogographic_iff (h : ¬ variantVocabulary.Refuses v.settings) :
    v.isLogographic = true ↔ v.HasFlag "logographic" :=
  Vocabulary.given_iff isUnambiguous_variantVocabulary
    ((Vocabulary.accepts_iff isUnambiguous_variantVocabulary).2 h) (by decide)

/-- The fault of a variant is what its checks report. -/
theorem verdict (v : Variant) : Verdict v.checks v.fault? := by
  rw [fault?]
  refine .ite (by simp [Vocabulary.accepts_eq_false_iff isUnambiguous_variantVocabulary])
    fun hsettings => .ite Iff.rfl fun _ => .ite ?_ fun _ => .accepted
  rw [Bool.and_eq_true, Bool.not_eq_true', ← Bool.not_eq_true, isLogographic_iff hsettings,
    isDefault_iff hsettings, Classical.not_imp]

end Variant

/-! ## Declarations -/

namespace Declaration

/-- A declaration's settings are understood, it has variants, each of which is well-formed, and it
    has at most one lifetime. -/
structure IsWellFormed (d : Declaration) : Prop where
  settings : ¬ typeVocabulary.Refuses d.settings
  kind : d.kind = .enumeration
  variants : ∀ v ∈ d.variants, v.IsWellFormed
  lifetimes : d.lifetimes.length ≤ 1

/-- The checks before anything is written: of the settings, of the kind, and of one variant after
    the other. -/
def leadingChecks (d : Declaration) : List Check :=
  { holds := ¬ typeVocabulary.Refuses d.settings, fault := .typeSettings } ::
  { holds := d.kind = .enumeration, fault := .notEnumeration } ::
  d.variants.flatMap Variant.checks

/-- The check of the lifetimes. -/
def lifetimeCheck (d : Declaration) : Check :=
  { holds := d.lifetimes.length ≤ 1, fault := .severalLifetimes }

/-- The check that the name of the selector is an identifier. -/
def selectorCheck (d : Declaration) : Check :=
  { holds := isRaw d.name = false, fault := .selectorName d.selector }

/-- The checks of a declaration, the lifetimes last. -/
def checks (d : Declaration) : List Check := d.leadingChecks ++ [d.lifetimeCheck]

variable {d : Declaration}

/-- A declaration is well-formed if it passes its checks. -/
theorem isWellFormed_iff : d.IsWellFormed ↔ ∀ c ∈ d.checks, c.holds := by
  have hvariants : (∀ v ∈ d.variants, v.IsWellFormed) ↔
      ∀ c ∈ d.variants.flatMap Variant.checks, c.holds := by
    simp only [Variant.isWellFormed_iff, List.forall_mem_flatMap]
  simp only [checks, leadingChecks, lifetimeCheck, List.forall_mem_append, List.forall_mem_cons,
    List.not_mem_nil, false_imp_iff, implies_true, and_true, ← hvariants]
  exact ⟨fun ⟨hsettings, hkind, hvariants, hlifetimes⟩ =>
      ⟨⟨hsettings, hkind, hvariants⟩, hlifetimes⟩,
    fun ⟨⟨hsettings, hkind, hvariants⟩, hlifetimes⟩ =>
      ⟨hsettings, hkind, hvariants, hlifetimes⟩⟩

/-- The first fault among the settings, the kind and the variants. -/
def leadingFault? (d : Declaration) : Option DeclarationFault :=
  if !typeVocabulary.accepts d.settings then some .typeSettings
  else if d.kind ≠ .enumeration then some .notEnumeration
  else d.variants.findSome? Variant.fault?

/-- The checks of the settings, of the kind and of the variants report their first fault. -/
theorem leadingVerdict (d : Declaration) : Verdict d.leadingChecks d.leadingFault? :=
  .ite (by simp [Vocabulary.accepts_eq_false_iff isUnambiguous_typeVocabulary])
    fun _ => .ite Iff.rfl fun _ => .flatMap fun v _ => v.verdict

/-- The check of the lifetimes reports that there are several. -/
theorem lifetimeVerdict (d : Declaration) :
    Verdict [d.lifetimeCheck]
      (if 1 < d.lifetimes.length then some .severalLifetimes else none) :=
  .ite (by simp [lifetimeCheck]) fun _ => .accepted

/-- The fault of a declaration is the first among its settings, its kind and its variants, or else
    that of the name of the selector, or else that of the lifetimes. -/
theorem fault?_eq (d : Declaration) :
    d.fault? = d.leadingFault?.or
      (if isRaw d.name then some (.selectorName d.selector)
        else if 1 < d.lifetimes.length then some .severalLifetimes else none) := by
  rw [fault?, leadingFault?]
  split_ifs
  · rfl
  · rfl
  all_goals cases d.variants.findSome? Variant.fault? <;> rfl

/-- The fault of a declaration is what its checks report, that of the selector's name before that of
    the lifetimes. -/
theorem verdict (d : Declaration) :
    Verdict (d.leadingChecks ++ [d.selectorCheck, d.lifetimeCheck]) d.fault? := by
  rw [fault?_eq]
  exact d.leadingVerdict.append (.ite (by simp [selectorCheck]) fun _ => d.lifetimeVerdict)

/-- The name of the selector is not reported if another fault comes before it. -/
theorem verdict_of_leading (h : isRaw d.name = true → ∃ c ∈ d.leadingChecks, ¬ c.holds) :
    Verdict d.checks d.fault? := by
  have hchecks := d.leadingVerdict.append d.lifetimeVerdict
  rw [fault?_eq, checks]
  cases hleading : d.leadingFault? with
  | some fault => simpa [hleading] using hchecks
  | none =>
    -- of a raw name one of the leading checks would have failed
    have hname : isRaw d.name = false := by
      rw [← Bool.not_eq_true]
      intro hraw
      obtain ⟨c, hc, hfails⟩ := h hraw
      exact hfails (d.leadingVerdict.eq_none_iff.1 hleading c hc)
    simpa [hleading, hname] using hchecks

/-- A registry is derived exactly if there is no fault. -/
theorem derive_eq_ok_iff {casing : String → String} :
    (∃ r, d.derive casing = .ok r) ↔ d.fault? = none := by
  rw [derive]
  cases d.fault? with
  | none => simp
  | some fault => simp

/-- What is wrong with a declaration is its fault. -/
theorem derive_eq_error_iff {casing : String → String} {fault : DeclarationFault} :
    d.derive casing = .error fault ↔ d.fault? = some fault := by
  rw [derive]
  cases d.fault? with
  | none => simp
  | some fault => simp

/-- A declaration is judged by its checks: a registry is derived exactly if it is well-formed, and
    otherwise what is wrong with it is the fault of the first check that fails. -/
structure IsJudged (d : Declaration) (casing : String → String) : Prop where
  accepts : (∃ r, d.derive casing = .ok r) ↔ d.IsWellFormed
  reports : ∀ fault, d.derive casing = .error fault ↔ FirstFails d.checks fault

/-- **A declaration is judged by its settings, its kind, each of its variants in turn and last its
    lifetimes**, except if it is of a raw name and passes all of these but the lifetimes: what is
    reported then is the name of the selector. -/
theorem isJudged_iff (d : Declaration) (casing : String → String) :
    d.IsJudged casing ↔ (isRaw d.name = true → ∃ c ∈ d.leadingChecks, ¬ c.holds) := by
  constructor
  · intro hjudged hraw
    by_contra! hleading
    -- with a raw name the first check to fail is that of the selector
    have hfault : FirstFails (d.leadingChecks ++ [d.selectorCheck, d.lifetimeCheck])
        (.selectorName d.selector) :=
      ⟨d.leadingChecks, d.selectorCheck, _, rfl, hleading, by simp [selectorCheck, hraw], rfl⟩
    have herror : d.derive casing = .error (.selectorName d.selector) :=
      derive_eq_error_iff.2 (d.verdict.eq_some_iff.2 hfault)
    obtain ⟨earlier, c, later, hchecks, -, hfails, hc⟩ := (hjudged.reports _).1 herror
    have hmem : c ∈ d.checks := by simp [hchecks]
    -- the fault is not that of the lifetimes, and no other check is left
    rcases List.mem_append.1 hmem with hmem | hmem
    · exact hfails (hleading c hmem)
    · obtain rfl := List.mem_singleton.1 hmem
      simp [lifetimeCheck] at hc
  · intro h
    have hverdict := verdict_of_leading h
    exact ⟨by rw [derive_eq_ok_iff, hverdict.eq_none_iff, isWellFormed_iff],
      fun fault => by rw [derive_eq_error_iff, hverdict.eq_some_iff]⟩

/-- A type `r#Type` with one variant is well-formed, and no registry is derived from it. -/
theorem not_isJudged_raw :
    IsWellFormed { name := "r#Type", variants := [{ name := "A" }] } ∧
      derive { name := "r#Type", variants := [{ name := "A" }] } =
        .error (.selectorName "r#TypeField") ∧
      ¬ IsJudged { name := "r#Type", variants := [{ name := "A" }] } camelCase := by
  have hsettings : ∀ v : Vocabulary, v.IsUnambiguous → ¬ v.Refuses [] := fun v hv =>
    (Vocabulary.accepts_iff hv).1 rfl
  have hvariant : Variant.IsWellFormed { name := "A" } :=
    ⟨hsettings _ isUnambiguous_variantVocabulary, rfl, fun h => absurd h List.not_mem_nil⟩
  have hwell : IsWellFormed { name := "r#Type", variants := [{ name := "A" }] } :=
    ⟨hsettings _ isUnambiguous_typeVocabulary, rfl, by simpa using hvariant, Nat.zero_le 1⟩
  have herror : derive { name := "r#Type", variants := [{ name := "A" }] } =
      .error (.selectorName "r#TypeField") :=
    derive_eq_error_iff.2 (by decide +kernel)
  -- its checks accept the declaration, from which nothing is derived
  refine ⟨hwell, herror, fun hjudged => ?_⟩
  obtain ⟨r, hr⟩ := hjudged.accepts.2 hwell
  simp [herror] at hr

end Declaration

end FieldSearch
