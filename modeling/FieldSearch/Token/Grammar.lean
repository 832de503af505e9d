import FieldSearch.Text.CharClass
import FieldSearch.Text.Lowercase
import FieldSearch.Token

namespace FieldSearch

/-!
# The grammar of tokens

A rule reads a piece off the front of the input, as much as it can, and leaves the rest; it never
gives back what a repetition has taken.  Where two rules are alternatives, the first that reads
anything decides.

* a field name (`Grammar.name`) is a run of word characters;
* a quoted value (`Grammar.quotedValue`) is a quoted text that ends at a boundary, the end of the
  input or a blank character; a plain value (`Grammar.plainValue`) is a run of characters that are
  not blank, and does not start with a double quote;
* a token (`Grammar.token`) is qualified, `name:value`, or else bare, a quoted value or any run of
  characters that are not blank;
* a query (`Grammar.query`) is a list of tokens among blank characters.

`tokenize` gives the tokens of a query.  What forms no proper `name:value` pair becomes a bare token
with the literal text, so that every text is a query; `words` cuts a text at its blank characters,
the reading of a text that were no query.
-/

namespace Grammar

/-- A rule reads a value off the front of the input and gives it with the rest, or fails. -/
abbrev Rule (α : Type) := List Char → Option (α × List Char)

/-- What a rule reads from an input that it has to read to its end. -/
def Rule.whole {α : Type} (rule : Rule α) (cs : List Char) : Option α :=
  match rule cs with
  | some (a, []) => some a
  | _ => none

/-- Whether a character is not blank. -/
def isSolid (c : Char) : Bool := !isBlank c

/-- One or more characters of a class, as many as there are. -/
def run (p : Char → Bool) : Rule String := fun cs =>
  if (cs.takeWhile p).isEmpty then none
  else some (String.ofList (cs.takeWhile p), cs.dropWhile p)

/-- The name of a field: letters, numbers and underscores. -/
def name : Rule String := run isWordChar

/-- A word: anything up to the next blank character. -/
def word : Rule String := run isSolid

/-- A quoted text, whatever follows it. -/
def quotedText : Rule String := fun cs =>
  (Quoted.read cs).map fun (text, rest) => (String.ofList text, rest)

/-- Whether a token may end here: at the end of the input, or before a blank character. -/
def atBoundary : List Char → Bool
  | [] => true
  | c :: _ => isBlank c

/-- A quoted text that ends at a boundary. -/
def quotedValue : Rule String := fun cs =>
  match quotedText cs with
  | some (text, rest) => if atBoundary rest then some (text, rest) else none
  | none => none

/-- A word that does not start with a double quote. -/
def plainValue : Rule String := fun cs =>
  if cs.head? = some '"' then none else word cs

/-- The value of a qualified token, and whether it is quoted. -/
def value : Rule (String × Bool) := fun cs =>
  match quotedValue cs with
  | some (text, rest) => some ((text, true), rest)
  | none => (plainValue cs).map fun (text, rest) => ((text, false), rest)

/-- A qualified token: a name, a colon and a value. -/
def qualified : Rule Token := fun cs =>
  match name cs with
  | some (field, ':' :: rest) =>
    (value rest).map fun (v, rest) => (⟨some (foldName field), v.1, v.2⟩, rest)
  | _ => none

/-- A bare token: a quoted value or a word. -/
def bare : Rule Token := fun cs =>
  match quotedValue cs with
  | some (text, rest) => some (⟨none, text, true⟩, rest)
  | none => (word cs).map fun (text, rest) => (⟨none, text, false⟩, rest)

/-- A token: qualified if possible, bare otherwise. -/
def token : Rule Token := fun cs =>
  match qualified cs with
  | some read => some read
  | none => bare cs

/-! ### Every rule makes progress -/

/-- A rule makes progress when it leaves less than it was given. -/
def Rule.Progresses {α : Type} (rule : Rule α) : Prop :=
  ∀ {cs a rest}, rule cs = some (a, rest) → rest.length < cs.length

/-- A run takes at least one character. -/
theorem run_progresses (p : Char → Bool) : (run p).Progresses := by
  intro cs a rest h
  have hlen := congrArg List.length (List.takeWhile_append_dropWhile (p := p) (l := cs))
  simp only [run] at h
  split at h
  · simp at h
  · rename_i hne
    simp only [Option.some.injEq, Prod.mk.injEq] at h
    obtain ⟨_, rfl⟩ := h
    have : 0 < (cs.takeWhile p).length := by
      simpa [List.length_pos_iff] using hne
    simp only [List.length_append] at hlen
    omega

/-- A quoted text takes at least its opening quote. -/
theorem quotedText_progresses : quotedText.Progresses := by
  intro cs a rest h
  simp only [quotedText, Option.map_eq_some_iff] at h
  obtain ⟨⟨text, tail⟩, hread, heq⟩ := h
  simp only [Prod.mk.injEq] at heq
  exact heq.2 ▸ Quoted.length_lt_of_read hread

/-- A quoted value takes as much as the quoted text. -/
theorem quotedValue_progresses : quotedValue.Progresses := by
  intro cs a rest h
  simp only [quotedValue] at h
  split at h
  · rename_i hread
    split at h
    · simp only [Option.some.injEq, Prod.mk.injEq] at h
      exact h.2 ▸ quotedText_progresses hread
    · simp at h
  · simp at h

/-- A plain value takes at least one character. -/
theorem plainValue_progresses : plainValue.Progresses := by
  intro cs a rest h
  simp only [plainValue] at h
  split at h
  · simp at h
  · exact run_progresses _ h

/-- A value takes as much as its quoted or plain form. -/
theorem value_progresses : value.Progresses := by
  intro cs a rest h
  simp only [value] at h
  split at h
  · rename_i hread
    simp only [Option.some.injEq, Prod.mk.injEq] at h
    exact h.2 ▸ quotedValue_progresses hread
  · obtain ⟨⟨text, tail⟩, hread, heq⟩ := Option.map_eq_some_iff.1 h
    simp only [Prod.mk.injEq] at heq
    exact heq.2 ▸ plainValue_progresses hread

/-- A qualified token takes its name, the colon and its value. -/
theorem qualified_progresses : qualified.Progresses := by
  intro cs a rest h
  simp only [qualified] at h
  split at h
  · rename_i field tail hname
    obtain ⟨⟨v, tail'⟩, hread, heq⟩ := Option.map_eq_some_iff.1 h
    simp only [Prod.mk.injEq] at heq
    have h₁ := run_progresses _ hname
    have h₂ := value_progresses hread
    simp only [List.length_cons] at h₁
    rw [← heq.2]
    omega
  · simp at h

/-- A bare token takes its quoted value or its word. -/
theorem bare_progresses : bare.Progresses := by
  intro cs a rest h
  simp only [bare] at h
  split at h
  · rename_i hread
    simp only [Option.some.injEq, Prod.mk.injEq] at h
    exact h.2 ▸ quotedValue_progresses hread
  · obtain ⟨⟨text, tail⟩, hread, heq⟩ := Option.map_eq_some_iff.1 h
    simp only [Prod.mk.injEq] at heq
    exact heq.2 ▸ run_progresses _ hread

/-- A token takes at least one character. -/
theorem token_progresses : token.Progresses := by
  intro cs a rest h
  simp only [token] at h
  split at h
  · rename_i hread
    simp only [Option.some.injEq] at h
    exact qualified_progresses (h ▸ hread)
  · exact bare_progresses h

/-! ### Queries -/

/-- The input without its leading blank characters. -/
def skipBlank (cs : List Char) : List Char := cs.dropWhile isBlank

/-- Skipping blank characters does not lengthen the input. -/
theorem length_skipBlank_le (cs : List Char) : (skipBlank cs).length ≤ cs.length :=
  (List.dropWhile_suffix isBlank).length_le

/-- The tokens at the front of the input, each between blank characters, and the rest. -/
def tokens (cs : List Char) : List Token × List Char :=
  match _h : token (skipBlank cs) with
  | none => ([], skipBlank cs)
  | some (t, rest) =>
    let more := tokens rest
    (t :: more.1, more.2)
termination_by cs.length
decreasing_by
  have := token_progresses _h
  have := length_skipBlank_le cs
  omega

/-- A query: any number of tokens among blank characters. -/
def query : Rule (List Token) := fun cs => some (tokens cs)

end Grammar

/-! ### Splitting a query into tokens -/

/-- The words of a text, cut at its blank characters. -/
def words (cs : List Char) : List (List Char) :=
  match _h : Grammar.skipBlank cs with
  | [] => []
  | c :: rest => (c :: rest.takeWhile Grammar.isSolid) :: words (rest.dropWhile Grammar.isSolid)
termination_by cs.length
decreasing_by
  have h₁ := Grammar.length_skipBlank_le cs
  have h₂ := (List.dropWhile_suffix (l := rest) Grammar.isSolid).length_le
  rw [_h, List.length_cons] at h₁
  omega

/-- The tokens of a query. -/
def tokenize (raw : String) : List Token :=
  match Grammar.query.whole raw.toList with
  | some tokens => tokens
  | none => (words raw.toList).map fun w => .ofWord (String.ofList w)

end FieldSearch
