import FieldSearch.Text.Ascii
import FieldSearch.Text.Quoted

namespace FieldSearch

/-!
# Tokens

A query is a list of tokens.  A token is *qualified* when it names the field that its value is meant
for, as in `type:character`, and *bare* otherwise.

* `Token` is a token with its optional field, its value, and whether the value stood in quotes;
* `Token.hasField` compares the field up to ASCII case;
* `Token.write` gives the text of a token: the field and a colon, if it has a field, and the value,
  in quotes if it is quoted.
-/

/-- A token of a query. -/
structure Token where
  field : Option String := none
  value : String
  quoted : Bool := false
deriving DecidableEq, Inhabited

namespace Token

/-- Whether the token names no field. -/
def isBare (t : Token) : Bool := t.field.isNone

/-- Whether the token names the given field, up to ASCII case. -/
def hasField (name : String) (t : Token) : Bool :=
  match t.field with
  | some field => sameAsciiFold field name
  | none => false

/-- The bare, unquoted token of a word. -/
def ofWord (word : String) : Token := { value := word }

/-- A bare token has no field of any name. -/
theorem hasField_of_isBare {t : Token} (h : t.isBare = true) (name : String) :
    t.hasField name = false := by
  cases hf : t.field <;> simp_all [isBare, hasField]

/-- A token has a field exactly when it names one that equals it up to ASCII case. -/
theorem hasField_iff (t : Token) (name : String) :
    t.hasField name = true ↔ ∃ field, t.field = some field ∧ asciiFold field = asciiFold name := by
  cases hf : t.field <;> simp [hasField, hf]

/-! ### Writing -/

/-- The text of a token's field, with the colon that follows it. -/
def writeField (t : Token) : List Char :=
  match t.field with
  | some field => field.toList ++ [':']
  | none => []

/-- The text of a token's value. -/
def writeValue (t : Token) : List Char :=
  if t.quoted then Quoted.write t.value.toList else t.value.toList

/-- The text of a token. -/
def write (t : Token) : List Char := t.writeField ++ t.writeValue

end Token

end FieldSearch
