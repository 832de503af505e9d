import FieldSearch.Proofs.Text.QuotedGrammar
import FieldSearch.Text.CharClass
import FieldSearch.Token.Grammar
import Mathlib.Data.List.TakeWhile

namespace FieldSearch

/-!
# Lexemes

What stands for a token in a query, said without the rules that read it.

* `IsLongestRun` is the longest non-empty front of a text with characters of one class;
* `Lexeme.Quoted` is a quoted span that fills a lexeme up to a boundary, behind an optional field
  name; `Lexeme.Plain` is a run without blank characters, with the token that it is read as;
* `IsLexeme` puts the two together: a text starts with a quoted lexeme if it can, and with a plain
  one otherwise;
* `exists_isLexeme` says that a lexeme stands wherever a character is not blank.
-/

/-- A text of blank characters only. -/
def IsBlankText (cs : List Char) : Prop := ∀ c ∈ cs, isBlank c = true

instance (cs : List Char) : Decidable (IsBlankText cs) :=
  List.decidableBAll (fun c => isBlank c = true) cs

/-- A place where a lexeme may end: a blank character follows, or nothing. -/
def IsBoundary (rest : List Char) : Prop := ∀ c ∈ rest.head?, isBlank c = true

/-- `x` is the longest front of `s` whose characters belong to a class, and is not empty. -/
structure IsLongestRun (p : Char → Bool) (x s : List Char) : Prop where
  ne_nil : x ≠ []
  front : x <+: s
  holds : ∀ c ∈ x, p c = true
  longest : ∀ y, y <+: s → (∀ c ∈ y, p c = true) → y.length ≤ x.length

namespace Lexeme

/-- What stands in front of a value at the beginning of `s`, and the field that it names: nothing,
    or the longest run of word characters and a colon. -/
inductive Front (s : List Char) : List Char → Option String → Prop
  | none : Front s [] none
  | name {id : List Char} (run : IsLongestRun isWordChar id s) :
      Front s (id ++ [':']) (some (foldName (String.ofList id)))

/-- The quoted lexeme `x` at the beginning of `s`: an optional name with its colon, and a body
    between double quotes that ends at a boundary. -/
inductive Quoted (s x : List Char) : Token → Prop
  | intro {front body text rest : List Char} {field : Option String}
      (name : Front s front field) (content : Quoted.IsBody body text)
      (lexeme : x = front ++ '"' :: (body ++ ['"'])) (source : s = x ++ rest)
      (boundary : IsBoundary rest) : Quoted s x ⟨field, String.ofList text, true⟩

/-- A run that starts with a name and a colon, cut there. -/
structure Pair (x id value : List Char) : Prop where
  run : IsLongestRun isWordChar id x
  cut : x = id ++ ':' :: value

/-- The token that a run without blank characters is read as: a qualified one if it is a name, a
    colon and a value that does not start with a double quote, else a bare one. -/
inductive Plain (x : List Char) : Token → Prop
  | qualified {id value : List Char} (pair : Pair x id value) (ne_nil : value ≠ [])
      (quote : value.head? ≠ some '"') :
      Plain x ⟨some (foldName (String.ofList id)), String.ofList value, false⟩
  | bare (noPair : ∀ id value, Pair x id value → value = [] ∨ value.head? = some '"') :
      Plain x ⟨none, String.ofList x, false⟩

end Lexeme

/-- The lexeme `x` at the beginning of `s`, and the token that it stands for. -/
inductive IsLexeme (s x : List Char) (t : Token) : Prop
  | quoted (lexeme : Lexeme.Quoted s x t)
  | plain (noQuoted : ∀ x' t', ¬ Lexeme.Quoted s x' t')
      (run : IsLongestRun Grammar.isSolid x s) (token : Lexeme.Plain x t)

/-! ### Longest runs -/

/-- The longest run is what the class takes off the front. -/
theorem isLongestRun_iff_takeWhile {p : Char → Bool} {x s : List Char} :
    IsLongestRun p x s ↔ x ≠ [] ∧ x = s.takeWhile p := by
  constructor
  · rintro ⟨hne, ⟨r, rfl⟩, hp, hmax⟩
    refine ⟨hne, ?_⟩
    have htake : (x ++ r).takeWhile p = x ++ r.takeWhile p :=
      List.takeWhile_append_of_pos hp
    -- what the class takes off the front is no longer than `x`, so that it takes nothing of `r`
    have hlen := hmax ((x ++ r).takeWhile p) (List.takeWhile_prefix p) fun c hc =>
      List.mem_takeWhile_imp hc
    rw [htake, List.length_append] at hlen
    have hnil : r.takeWhile p = [] := List.eq_nil_of_length_eq_zero (by omega)
    rw [htake, hnil, List.append_nil]
  · rintro ⟨hne, rfl⟩
    refine ⟨hne, List.takeWhile_prefix p, fun c hc => List.mem_takeWhile_imp hc, ?_⟩
    rintro y ⟨r, rfl⟩ hp
    rw [List.takeWhile_append_of_pos hp, List.length_append]
    omega

/-- Where a run is cut off, it is the longest one exactly when the class ends there. -/
theorem isLongestRun_append_iff {p : Char → Bool} {x rest : List Char} :
    IsLongestRun p x (x ++ rest) ↔
      x ≠ [] ∧ (∀ c ∈ x, p c = true) ∧ ∀ c ∈ rest.head?, p c = false := by
  rw [isLongestRun_iff_takeWhile]
  constructor
  · rintro ⟨hne, heq⟩
    have hp : ∀ c ∈ x, p c = true := fun c hc => by
      rw [heq] at hc
      exact List.mem_takeWhile_imp hc
    rw [List.takeWhile_append_of_pos hp] at heq
    -- nothing of the rest is taken, so that the class ends with the run
    have hnil : rest.takeWhile p = [] := by simpa using heq
    refine ⟨hne, hp, ?_⟩
    cases rest with
    | nil => simp
    | cons c cs =>
      rw [List.takeWhile_cons] at hnil
      simpa using hnil
  · rintro ⟨hne, hp, hrest⟩
    have hnil : rest.takeWhile p = [] := by
      cases rest with
      | nil => rfl
      | cons c cs =>
        have hc : p c = false := hrest c rfl
        simp [hc]
    refine ⟨hne, ?_⟩
    rw [List.takeWhile_append_of_pos hp, hnil, List.append_nil]

/-- The longest run is determined by the text. -/
theorem IsLongestRun.unique {p : Char → Bool} {x y s : List Char} (hx : IsLongestRun p x s)
    (hy : IsLongestRun p y s) : x = y := by
  rw [(isLongestRun_iff_takeWhile.1 hx).2, (isLongestRun_iff_takeWhile.1 hy).2]

/-- A name in front of a colon is the longest run of word characters, whatever follows. -/
theorem isLongestRun_colon_iff {id rest : List Char} :
    IsLongestRun isWordChar id (id ++ ':' :: rest) ↔
      id ≠ [] ∧ ∀ c ∈ id, isWordChar c = true := by
  rw [isLongestRun_append_iff]
  simp [isWordChar_colon]

/-- A pair begins with a name, in whatever text it stands. -/
theorem Lexeme.Pair.run_append {x id value : List Char} (h : Pair x id value)
    (rest : List Char) : IsLongestRun isWordChar id (id ++ ':' :: rest) := by
  obtain ⟨hrun, rfl⟩ := h
  exact isLongestRun_colon_iff.2 (isLongestRun_colon_iff.1 hrun)

/-- The characters of a name and a colon are not blank. -/
theorem isSolid_of_mem_front {id : List Char} (h : ∀ c ∈ id, isWordChar c = true) :
    ∀ c ∈ id ++ [':'], Grammar.isSolid c = true := by
  intro c hc
  rcases List.mem_append.1 hc with hc | hc
  · simp [Grammar.isSolid, isBlank_eq_false_of_isWordChar (h c hc)]
  · rw [List.mem_singleton.1 hc, Grammar.isSolid, isBlank_colon]
    rfl

/-- A name and a colon in front of a run without blank characters make a longer one. -/
theorem isLongestRun_front_append {id value rest : List Char}
    (hid : ∀ c ∈ id, isWordChar c = true)
    (h : IsLongestRun Grammar.isSolid value (value ++ rest)) :
    IsLongestRun Grammar.isSolid (id ++ ':' :: value) (id ++ ':' :: (value ++ rest)) := by
  obtain ⟨-, hmem, hend⟩ := isLongestRun_append_iff.1 h
  have happ : id ++ ':' :: (value ++ rest) = id ++ ':' :: value ++ rest := by simp
  rw [happ, isLongestRun_append_iff]
  refine ⟨by simp, fun c hc => ?_, hend⟩
  -- each character is in the name, is the colon, or is in the value
  have hc' : c ∈ id ++ [':'] ∨ c ∈ value := by simpa [or_assoc] using hc
  exact hc'.elim (isSolid_of_mem_front hid c) (hmem c)

/-! ### Boundaries -/

/-- Blank characters are a boundary, where a character or nothing at all follows them. -/
theorem IsBlankText.isBoundary {gap rest : List Char} (h : IsBlankText gap)
    (hrest : gap ≠ [] ∨ rest = []) : IsBoundary (gap ++ rest) := by
  intro c hc
  cases gap with
  | nil =>
    rw [hrest.resolve_left (by simp)] at hc
    exact absurd hc (by simp)
  | cons d ds =>
    have hcd : d = c := by simpa using hc
    exact hcd ▸ h d (by simp)

/-! ### Where lexemes stand -/

/-- A quoted lexeme has a double quote behind its front. -/
theorem Lexeme.Quoted.exists_front {s x : List Char} {t : Token} (h : Lexeme.Quoted s x t) :
    ∃ front field tail, Lexeme.Front s front field ∧ s = front ++ '"' :: tail := by
  obtain @⟨front, body, _, rest, field, hfront, _, rfl, hsource, _⟩ := h
  refine ⟨front, field, body ++ '"' :: rest, hfront, ?_⟩
  rw [hsource]
  simp

/-- Where a quoted lexeme stands, a run without blank characters takes in its front and the double
    quote. -/
theorem Lexeme.Quoted.exists_front_of_run {s x y : List Char} {t : Token}
    (h : Lexeme.Quoted s x t) (hrun : IsLongestRun Grammar.isSolid y s) :
    ∃ front field more, Lexeme.Front s front field ∧ y = front ++ '"' :: more := by
  obtain ⟨front, field, tail, hfront, hs⟩ := h.exists_front
  have hsolid : ∀ c ∈ front ++ ['"'], Grammar.isSolid c = true := by
    intro c hc
    rcases List.mem_append.1 hc with hc | hc
    · cases hfront with
      | none => exact absurd hc (by simp)
      | name run => exact isSolid_of_mem_front run.holds c hc
    · rw [List.mem_singleton.1 hc, Grammar.isSolid, isBlank_quote]
      rfl
  -- the front and the quote are no longer than the longest run
  have hsub : front ++ ['"'] <+: s := ⟨tail, by simp [hs]⟩
  have hlength := hrun.longest _ hsub hsolid
  obtain ⟨more, hmore⟩ := List.prefix_of_prefix_length_le hsub hrun.front hlength
  exact ⟨front, field, more, hfront, by simp [← hmore]⟩

/-- A lexeme is a front of the text, and ends at a boundary. -/
theorem IsLexeme.exists_rest {s x : List Char} {t : Token} (h : IsLexeme s x t) :
    ∃ rest, s = x ++ rest ∧ IsBoundary rest := by
  cases h with
  | quoted lexeme =>
    obtain @⟨_, _, _, rest, _, _, _, _, hsource, hend⟩ := lexeme
    exact ⟨rest, hsource, hend⟩
  | plain _ run _ =>
    obtain ⟨rest, rfl⟩ := run.front
    obtain ⟨-, -, hend⟩ := isLongestRun_append_iff.1 run
    refine ⟨rest, rfl, fun c hc => ?_⟩
    simpa [Grammar.isSolid] using hend c hc

/-- A lexeme starts with a character that is not blank. -/
theorem IsLexeme.exists_cons {s x : List Char} {t : Token} (h : IsLexeme s x t) :
    ∃ c cs, x = c :: cs ∧ isBlank c = false := by
  cases h with
  | quoted lexeme =>
    -- the first character is a double quote, or that of a name
    obtain @⟨front, body, _, _, _, hfront, _, rfl, _, _⟩ := lexeme
    cases hfront with
    | none => exact ⟨'"', body ++ ['"'], rfl, isBlank_quote⟩
    | name run =>
      rename_i id
      obtain ⟨c, cs, rfl⟩ := List.exists_cons_of_ne_nil run.ne_nil
      exact ⟨c, cs ++ [':'] ++ '"' :: (body ++ ['"']), rfl,
        isBlank_eq_false_of_isWordChar (run.holds c (by simp))⟩
  | plain _ run _ =>
    obtain ⟨c, cs, rfl⟩ := List.exists_cons_of_ne_nil run.ne_nil
    refine ⟨c, cs, rfl, ?_⟩
    simpa [Grammar.isSolid] using run.holds c (by simp)

/-- Every run without blank characters is read as a token. -/
theorem Lexeme.Plain.exists_token (x : List Char) : ∃ t, Lexeme.Plain x t := by
  -- of the ways to cut the run one is a pair with a proper value, or none is
  by_cases h : ∃ id value, Lexeme.Pair x id value ∧ value ≠ [] ∧ value.head? ≠ some '"'
  · obtain ⟨id, value, hpair, hne, hquote⟩ := h
    exact ⟨_, .qualified hpair hne hquote⟩
  · refine ⟨_, .bare fun id value hpair => ?_⟩
    by_contra hboth
    rw [not_or] at hboth
    exact h ⟨id, value, hpair, hboth.1, hboth.2⟩

/-- A lexeme stands wherever a character is not blank. -/
theorem exists_isLexeme {c : Char} (cs : List Char) (h : isBlank c = false) :
    ∃ x t, IsLexeme (c :: cs) x t := by
  -- a quoted lexeme comes first, and a plain one stands only where there is none
  by_cases hquoted : ∃ x t, Lexeme.Quoted (c :: cs) x t
  · obtain ⟨x, t, hx⟩ := hquoted
    exact ⟨x, t, .quoted hx⟩
  · obtain ⟨t, ht⟩ := Lexeme.Plain.exists_token ((c :: cs).takeWhile Grammar.isSolid)
    refine ⟨_, t, .plain (fun x t hx => hquoted ⟨x, t, hx⟩) ?_ ht⟩
    rw [isLongestRun_iff_takeWhile]
    simp [Grammar.isSolid, h]

end FieldSearch
