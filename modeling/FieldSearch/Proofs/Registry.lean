import FieldSearch.Proofs.Term
import FieldSearch.Registry

namespace FieldSearch.Registry

/-!
# What a registry makes of tokens

A field is looked up by its name, up to ASCII case, and of several entries the first one counts.  A
list of tokens is compiled to a term, which is said here by the matches that each token asks for.

* `Registry.lookup_congr` says that only the folded name counts;
* `Registry.lookup_eq_some_iff` and `Registry.lookup_eq_none_iff` say what is found;
* `Registry.lookup_eq_of_first` is for fields that are positions, in ascending order;
* `Registry.tokenMatches` are the matches of a token, one for each field that it is looked for in,
  and `Registry.LeavesOut` says why a token has none;
* `Registry.resolve_eq` says that the term of a token is the choice between its matches;
* `Registry.compile_eq_conjunction` says that the term of a list of tokens is a normal term over the
  matches of the tokens, and holds if one match of each token does.
-/

variable {φ μ : Type}

/-! ### Looking fields up -/

section

variable {r : Registry φ μ}

/-- Names that are equal up to ASCII case are looked up alike. -/
theorem lookup_congr {name name' : String} (h : asciiFold name = asciiFold name') :
    r.lookup name = r.lookup name' := by
  simp only [lookup, sameAsciiFold, h]

/-- The field of the first entry is found whose name equals the given one up to ASCII case. -/
theorem lookup_eq_some_iff {name : String} {field : φ} :
    r.lookup name = some field ↔
      ∃ earlier entry later, r.names = earlier ++ entry :: later ∧ entry.2 = field ∧
        asciiFold entry.1 = asciiFold name ∧
        ∀ other ∈ earlier, asciiFold other.1 ≠ asciiFold name := by
  simp only [lookup, Option.map_eq_some_iff, List.find?_eq_some_iff_append, sameAsciiFold_iff,
    Bool.not_eq_true', Bool.eq_false_iff, ne_eq]
  constructor
  · rintro ⟨entry, ⟨hentry, earlier, later, hnames, hearlier⟩, hfield⟩
    exact ⟨earlier, entry, later, hnames, hfield, hentry, hearlier⟩
  · rintro ⟨earlier, entry, later, hnames, hfield, hentry, hearlier⟩
    exact ⟨entry, ⟨hentry, earlier, later, hnames, hearlier⟩, hfield⟩

/-- Nothing is found if no entry has the name. -/
theorem lookup_eq_none_iff {name : String} :
    r.lookup name = none ↔ ∀ entry ∈ r.names, asciiFold entry.1 ≠ asciiFold name := by
  simp only [lookup, Option.map_eq_none_iff, List.find?_eq_none, sameAsciiFold_iff, ne_eq]

/-- A name is looked up to a position if no earlier position has an equal name up to ASCII case. -/
theorem lookup_eq_of_first {r : Registry Nat μ}
    (hascending : r.names.Pairwise fun entry other => entry.2 < other.2) {name : String} {i : Nat}
    (hname : (name, i) ∈ r.names)
    (hfirst : ∀ entry ∈ r.names, entry.2 < i → asciiFold entry.1 ≠ asciiFold name) :
    r.lookup name = some i := by
  obtain ⟨earlier, later, hnames⟩ := List.append_of_mem hname
  refine lookup_eq_some_iff.2 ⟨earlier, (name, i), later, hnames, rfl, rfl, fun other hother => ?_⟩
  rw [hnames, List.pairwise_append] at hascending
  have hlt : other.2 < i := hascending.2.2 other hother _ List.mem_cons_self
  exact hfirst other (by rw [hnames]; exact List.mem_append_left _ hother) hlt

end

/-! ### Matches of tokens -/

/-- The fields that a token is looked for in: the one that it names, or the default fields of its
    script class. -/
def tokenFields (r : Registry φ μ) (t : Token) : List φ :=
  if t.value.isEmpty then []
  else
    match t.field with
    | some name => (r.lookup name).toList
    | none => r.defaults (classify t.value)

/-- The matches of a token, one for each of its fields. -/
def tokenMatches (r : Registry φ μ) (t : Token) : List μ :=
  (r.tokenFields t).map fun field => r.matcher field t.value

/-- A token is left out if it has no value, if its field is unknown, or if it is bare and there are
    no default fields for its script class. -/
inductive LeavesOut (r : Registry φ μ) (t : Token) : Prop
  | emptyValue (value : t.value = "")
  | unknownField {name : String} (field : t.field = some name) (unknown : r.lookup name = none)
  | noDefaults (bare : t.field = none) (none : r.defaults (classify t.value) = [])

/-! ### One token -/

/-- A token is left out exactly if it has no matches. -/
theorem leavesOut_iff (r : Registry φ μ) (t : Token) : r.LeavesOut t ↔ r.tokenMatches t = [] := by
  rw [tokenMatches, List.map_eq_nil_iff, tokenFields]
  constructor
  · rintro (hvalue | ⟨hfield, hunknown⟩ | ⟨hbare, hnone⟩)
    · simp [hvalue]
    · simp [hfield, hunknown]
    · simp [hbare, hnone]
  · intro h
    -- the value is asked first, then the field: the cases follow the tests
    by_cases hvalue : t.value = ""
    · exact .emptyValue hvalue
    · rw [if_neg (by simpa using hvalue)] at h
      cases hfield : t.field with
      | some name =>
        rw [hfield] at h
        exact .unknownField hfield (by simpa using h)
      | none =>
        rw [hfield] at h
        exact .noDefaults hfield h

/-- The term of a token is the choice between its matches. -/
theorem resolve_eq (r : Registry φ μ) (t : Token) :
    r.resolve t = Term.anyOf? ((r.tokenMatches t).map .leaf) := by
  rw [resolve, resolution, tokenMatches, tokenFields]
  split
  · rfl
  · cases t.field with
    | some name =>
      -- a choice between one match is the match
      cases hlookup : r.lookup name <;>
        simp [hlookup, Resolution.term?, Term.anyOf?, Term.compact]
    | none =>
      have hfanOut : r.fanOut t.value =
          ((r.defaults (classify t.value)).map fun field => r.matcher field t.value).map .leaf := by
        rw [fanOut, List.map_map]
        rfl
      dsimp only
      rw [hfanOut]
      cases Term.anyOf? _ <;> rfl

/-- The term of a token is a clause. -/
theorem isClause_of_resolve {r : Registry φ μ} {t : Token} {term : Term μ}
    (h : r.resolve t = some term) : term.IsClause := by
  rw [resolve_eq] at h
  exact Term.isClause_of_anyOf? h

/-- A token has no term exactly if it is left out. -/
theorem resolve_eq_none_iff {r : Registry φ μ} {t : Token} :
    r.resolve t = none ↔ r.LeavesOut t := by
  rw [resolve_eq, Term.anyOf?_eq_none_iff, List.map_eq_nil_iff, leavesOut_iff]

/-- The term of a token has the matches of the token. -/
theorem leaves_resolve (r : Registry φ μ) (t : Token) :
    (r.resolve t).elim [] Term.leaves = r.tokenMatches t := by
  cases h : r.resolve t with
  | none => exact ((leavesOut_iff r t).1 (resolve_eq_none_iff.1 h)).symm
  | some term =>
    rw [resolve_eq] at h
    rw [Option.elim_some, Term.leaves_of_anyOf? h, List.flatMap_map]
    exact List.flatMap_singleton' _

/-- The term of a token holds if one of the matches does. -/
theorem holds_resolve {r : Registry φ μ} {t : Token} {term : Term μ}
    (h : r.resolve t = some term) (v : μ → Bool) :
    term.holds v = true ↔ ∃ m ∈ r.tokenMatches t, v m = true := by
  rw [resolve_eq] at h
  rw [Term.holds_of_anyOf? h, List.any_map, List.any_eq_true]
  rfl

/-! ### Lists of tokens -/

/-- The terms that are joined for a list of tokens are clauses. -/
theorem isClause_of_mem_filterMap {r : Registry φ μ} {tokens : List Token} :
    ∀ term ∈ tokens.filterMap r.resolve, term.IsClause := by
  intro term hterm
  obtain ⟨t, -, ht⟩ := List.mem_filterMap.1 hterm
  exact isClause_of_resolve ht

/-- There is no term exactly if all tokens are left out. -/
theorem compile_eq_none_iff {r : Registry φ μ} {tokens : List Token} :
    r.compile tokens = none ↔ ∀ t ∈ tokens, r.LeavesOut t := by
  rw [compile, Term.allOf?_eq_none_iff, List.filterMap_eq_nil_iff]
  exact forall₂_congr fun t _ => resolve_eq_none_iff

/-- The terms of several tokens have the matches of the tokens, in order. -/
theorem leaves_filterMap_resolve (r : Registry φ μ) (tokens : List Token) :
    (tokens.filterMap r.resolve).flatMap Term.leaves = tokens.flatMap r.tokenMatches := by
  induction tokens with
  | nil => rfl
  | cons t ts ih =>
    rw [List.flatMap_cons, ← leaves_resolve, ← ih, List.filterMap_cons]
    cases r.resolve t <;> simp

/-- The terms of several tokens all hold if one match of each token does that is not left out. -/
theorem holds_filterMap_resolve (r : Registry φ μ) (tokens : List Token) (v : μ → Bool) :
    (tokens.filterMap r.resolve).all (Term.holds v) = true ↔
      ∀ t ∈ tokens, ¬ r.LeavesOut t → ∃ m ∈ r.tokenMatches t, v m = true := by
  rw [List.all_eq_true]
  constructor
  · intro h t ht hkept
    rw [← resolve_eq_none_iff] at hkept
    obtain ⟨term, hterm⟩ := Option.ne_none_iff_exists'.1 hkept
    exact (holds_resolve hterm v).1 (h term (List.mem_filterMap.2 ⟨t, ht, hterm⟩))
  · intro h term hterm
    obtain ⟨t, ht, heq⟩ := List.mem_filterMap.1 hterm
    have hkept : ¬ r.LeavesOut t := by
      rw [← resolve_eq_none_iff, heq]
      simp
    exact (holds_resolve heq v).2 (h t ht hkept)

/-- **The term of a list of tokens.**  If all tokens are left out there is no term.  Else there is
    one in normal form; its matches are those of the tokens, in order, and it holds exactly if one
    match holds of each token that is not left out. -/
theorem compile_eq_conjunction (r : Registry φ μ) (tokens : List Token) :
    (r.compile tokens = none ∧ ∀ t ∈ tokens, r.LeavesOut t) ∨
      ∃ term, r.compile tokens = some term ∧ (∃ t ∈ tokens, ¬ r.LeavesOut t) ∧ term.IsNormal ∧
        term.leaves = tokens.flatMap r.tokenMatches ∧
        ∀ v : μ → Bool, term.holds v = true ↔
          ∀ t ∈ tokens, ¬ r.LeavesOut t → ∃ m ∈ r.tokenMatches t, v m = true := by
  cases h : r.compile tokens with
  | none => exact .inl ⟨rfl, compile_eq_none_iff.1 h⟩
  | some term =>
    refine .inr ⟨term, rfl, ?_, Term.isNormal_of_allOf? isClause_of_mem_filterMap h, ?_, ?_⟩
    · -- there would be no term if all tokens were left out
      have hsome : r.compile tokens ≠ none := by simp [h]
      rw [Ne, compile_eq_none_iff] at hsome
      obtain ⟨t, ht⟩ := Classical.not_forall.1 hsome
      exact ⟨t, Classical.not_imp.1 ht⟩
    · rw [Term.leaves_of_allOf? h, leaves_filterMap_resolve]
    · intro v
      rw [Term.holds_of_allOf? h, holds_filterMap_resolve]

end FieldSearch.Registry
