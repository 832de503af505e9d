import FieldSearch.Sql.Template
import FieldSearch.Text.CharClass

namespace FieldSearch.Sql

/-!
# Fragments

A fragment is trusted SQL text together with the values that it refers to.  In the text `$1` refers
to the first value, `$2` to the second, and so on, each as often as it is needed.  A dollar sign
that no word follows refers to the values in turn, and two dollar signs stand for one.  A dollar
sign inside a word is part of it, and what is in quotes or in square brackets refers to nothing.

* `FragmentState.step` reads a character of the text, `FragmentState.marks` all of them;
* `bindMarks` gives every reference a place of its own;
* `Fragment.template` is the SQL of a fragment;
* `FragmentState.run_append` says that a text can be read in two parts, `FragmentState.run_number`
  and `named?_number` that a number after a dollar sign refers to the value with that number.
-/

/-- What the text of a fragment is made of. -/
inductive Mark where
  /-- A character that stands for itself. -/
  | char (c : Char)
  /-- A reference to the next value in turn. -/
  | next
  /-- A reference to the value that a word names. -/
  | named (word : List Char)
deriving DecidableEq

/-- Where the text of a fragment has been read to. -/
inductive FragmentState where
  /-- Outside words and quotes. -/
  | outside
  /-- In a word that stands for itself. -/
  | word
  /-- Inside quotes, to be ended by a character. -/
  | quoted (ending : Char)
  /-- Inside quotes, after a backslash. -/
  | escaped (ending : Char)
  /-- After the end of quotes, which go on if the character comes again. -/
  | closed (ending : Char)
  /-- After a dollar sign. -/
  | dollar
  /-- In a word after a dollar sign. -/
  | reference (w : List Char)
deriving DecidableEq

/-- The character that ends the quotes that `c` begins: a square bracket is ended by its partner, a
    single quote, a double quote and a grave accent by themselves. -/
def quoteEnding? (c : Char) : Option Char :=
  if c = '[' then some ']'
  else if c = '"' ∨ c = '\x27' ∨ c = '\x60' then some c
  else none

/-- Whether a word goes on with a character.  It begins with a letter or a number, and goes on with
    these, underscores and dollar signs. -/
def continuesWord (c : Char) : Bool := isWordChar c || c == '$'

namespace FragmentState

/-- Reads a character outside words and quotes. -/
def enter (c : Char) : List Mark × FragmentState :=
  if c = '$' then ([], dollar)
  else
    ([.char c],
      match quoteEnding? c with
      | some ending => quoted ending
      | none => if isAlphanumeric c then word else outside)

/-- Reads a character. -/
def step : FragmentState → Char → List Mark × FragmentState
  | outside, c => enter c
  | word, c => if continuesWord c then ([.char c], word) else enter c
  | quoted ending, c =>
    ([.char c],
      if c = ending then closed ending else if c = '\\' then escaped ending else quoted ending)
  | escaped ending, c => ([.char c], quoted ending)
  | closed ending, c => if c = ending ∧ c ≠ ']' then ([.char c], quoted ending) else enter c
  | dollar, c =>
    if c = '$' then ([.char c], outside)
    else if isAlphanumeric c then ([], reference [c])
    else (.next :: (enter c).1, (enter c).2)
  | reference w, c =>
    if continuesWord c then ([], reference (w ++ [c]))
    else (.named w :: (enter c).1, (enter c).2)

/-- Reads characters. -/
def run : FragmentState → List Char → List Mark × FragmentState
  | s, [] => ([], s)
  | s, c :: cs =>
    let rest := run (s.step c).2 cs
    ((s.step c).1 ++ rest.1, rest.2)

/-- What is left to be said at the end of the text. -/
def finish : FragmentState → List Mark
  | dollar => [.next]
  | reference w => [.named w]
  | _ => []

/-- The marks of the rest of a text. -/
def marks (s : FragmentState) (cs : List Char) : List Mark := (s.run cs).1 ++ (s.run cs).2.finish

/-- Two texts in a row are read one after the other. -/
theorem run_append (s : FragmentState) (cs ds : List Char) :
    s.run (cs ++ ds) = ((s.run cs).1 ++ ((s.run cs).2.run ds).1, ((s.run cs).2.run ds).2) := by
  induction cs generalizing s with
  | nil => rfl
  | cons c cs ih => simp [run, ih, List.append_assoc]

end FragmentState

/-- The value with a number; the first has the number 1. -/
def numbered? (values : List Value) : Nat → Option Value
  | 0 => none
  | k + 1 => values[k]?

/-- The value that a word names, by its number in decimal digits. -/
def named? (values : List Value) (word : List Char) : Option Value :=
  if word.all Char.isDigit then numbered? values (Nat.ofDigitChars 10 word 0) else none

/-- The SQL of marks, if `n` values have been referred to in turn.  A reference to a value that does
    not exist stands for nothing. -/
def bindMarks (values : List Value) : Nat → List Mark → Template
  | _, [] => []
  | n, .char c :: rest => (bindMarks values n rest).consChar c
  | n, .next :: rest => (values[n]?.map Piece.bind).toList ++ bindMarks values (n + 1) rest
  | n, .named w :: rest => ((named? values w).map Piece.bind).toList ++ bindMarks values n rest

/-- Trusted SQL text with the values that it refers to. -/
structure Fragment where
  text : String
  values : List Value

/-- The SQL of a fragment. -/
def Fragment.template (f : Fragment) : Template :=
  bindMarks f.values 0 (FragmentState.outside.marks f.text.toList)

/-! ### References by number -/

/-- The word after a dollar sign is read to its end. -/
theorem FragmentState.run_reference (w cs : List Char) (h : ∀ c ∈ cs, continuesWord c = true) :
    (reference w).run cs = ([], reference (w ++ cs)) := by
  induction cs generalizing w with
  | nil => simp [run]
  | cons c cs ih =>
    have hcs := ih (w ++ [c]) fun d hd => h d (by simp [hd])
    simp [run, step, h c (by simp), hcs]

/-- After a dollar sign the digits of a number are read as a word. -/
theorem FragmentState.run_number (k : Nat) :
    outside.run ('$' :: Nat.toDigits 10 k) = ([], reference (Nat.toDigits 10 k)) := by
  have digits : ∀ c ∈ Nat.toDigits 10 k, c.isDigit = true := fun c hc =>
    Nat.isDigit_of_mem_toDigits (by decide) (by decide) hc
  cases hk : Nat.toDigits 10 k with
  | nil => exact absurd hk Nat.toDigits_ne_nil
  | cons c cs =>
    rw [hk] at digits
    have first : c ≠ '$' := by
      rintro rfl
      exact absurd (digits '$' (by simp)) (by decide)
    have others : ∀ d ∈ cs, continuesWord d = true := fun d hd => by
      simp [continuesWord,
        isWordChar_of_isAlphanumeric (isAlphanumeric_of_isDigit (digits d (by simp [hd])))]
    simp [run, step, enter, first, isAlphanumeric_of_isDigit (digits c (by simp)),
      run_reference [c] cs others]

/-- The digits of a number name the value with that number. -/
theorem named?_number (values : List Value) (k : Nat) :
    named? values (Nat.toDigits 10 (k + 1)) = values[k]? := by
  have digits : (Nat.toDigits 10 (k + 1)).all Char.isDigit = true :=
    List.all_eq_true.2 fun c hc => Nat.isDigit_of_mem_toDigits (by decide) (by decide) hc
  rw [named?, if_pos digits, Nat.ofDigitChars_ten_toDigits, numbered?]

end FieldSearch.Sql
