namespace FieldSearch

/-!
# Quoted text

A value in double quotes may hold any character.  A backslash takes the character that follows it
literally, so that quotes and backslashes can be written inside the quotes.

* `Quoted.body` is the longest run of plain characters and escaped pairs at the front of some input,
  `Quoted.afterBody` what follows it, `Quoted.read` the rule for a quoted text;
* `Quoted.unescape` gives the text that a body stands for;
* `Quoted.escape` and `Quoted.write` go the other way;
* `Quoted.read_write` says that reading undoes writing, whatever follows.
-/

namespace Quoted

/-- The longest front made of characters other than backslash and double quote, and of pairs of a
    backslash and any character. -/
def body : List Char → List Char
  | '\\' :: c :: cs => '\\' :: c :: body cs
  | c :: cs => if c = '"' ∨ c = '\\' then [] else c :: body cs
  | [] => []

/-- What follows the body. -/
def afterBody : List Char → List Char
  | '\\' :: _ :: cs => afterBody cs
  | c :: cs => if c = '"' ∨ c = '\\' then c :: cs else afterBody cs
  | [] => []

/-- The text that a body stands for: of each pair the second character.  A backslash that nothing
    follows stands for nothing. -/
def unescape : List Char → List Char
  | '\\' :: c :: cs => c :: unescape cs
  | c :: cs => if c = '\\' then [] else c :: unescape cs
  | [] => []

/-- Reads a quoted text at the front of the input: a double quote, a body, and a double quote. -/
def read : List Char → Option (List Char × List Char)
  | '"' :: cs =>
    match afterBody cs with
    | '"' :: rest => some (unescape (body cs), rest)
    | _ => none
  | _ => none

/-- The text with a backslash before each backslash and each double quote. -/
def escape : List Char → List Char
  | [] => []
  | c :: cs => if c = '\\' ∨ c = '"' then '\\' :: c :: escape cs else c :: escape cs

/-- The quoted form of a text. -/
def write (cs : List Char) : List Char := '"' :: (escape cs ++ ['"'])

/-- A body and what follows it make up the input. -/
theorem body_append_afterBody (cs : List Char) : body cs ++ afterBody cs = cs := by
  fun_induction body cs <;> simp_all [afterBody]

/-- What follows a body is no longer than the input. -/
theorem length_afterBody_le (cs : List Char) : (afterBody cs).length ≤ cs.length := by
  have h := congrArg List.length (body_append_afterBody cs)
  simp only [List.length_append] at h
  omega

/-- What is left behind a quoted text is shorter than the input. -/
theorem length_lt_of_read {cs text rest : List Char} (h : read cs = some (text, rest)) :
    rest.length < cs.length := by
  unfold read at h
  split at h
  · rename_i cs
    have hle := length_afterBody_le cs
    split at h
    · rename_i tail htail
      simp only [Option.some.injEq, Prod.mk.injEq] at h
      simp only [htail, h.2, List.length_cons] at hle ⊢
      omega
    · simp at h
  · simp at h

/-! ### Reading undoes writing -/

/-- The body in front of a double quote is an escaped text, if one stands there. -/
theorem body_escape (cs rest : List Char) : body (escape cs ++ '"' :: rest) = escape cs := by
  induction cs with
  | nil => simp [escape, body]
  | cons c cs ih =>
    rw [escape]
    split
    · rename_i h
      rcases h with rfl | rfl <;> simp [body, ih]
    · rename_i h
      simp only [not_or] at h
      simp [body, h.1, h.2, ih]

/-- An escaped text ends where the double quote stands. -/
theorem afterBody_escape (cs rest : List Char) :
    afterBody (escape cs ++ '"' :: rest) = '"' :: rest := by
  induction cs with
  | nil => simp [escape, afterBody]
  | cons c cs ih =>
    rw [escape]
    split
    · rename_i h
      rcases h with rfl | rfl <;> simp [afterBody, ih]
    · rename_i h
      simp only [not_or] at h
      simp [afterBody, h.1, h.2, ih]

/-- An escaped text stands for the text. -/
theorem unescape_escape (cs : List Char) : unescape (escape cs) = cs := by
  induction cs with
  | nil => rfl
  | cons c cs ih =>
    rw [escape]
    split
    · simp [unescape, ih]
    · rename_i h
      simp only [not_or] at h
      simp [unescape, h.1, ih]

/-- A written text is read back, and what follows it is left. -/
theorem read_write (cs rest : List Char) : read (write cs ++ rest) = some (cs, rest) := by
  simp [read, write, body_escape, afterBody_escape, unescape_escape]

end Quoted

end FieldSearch
