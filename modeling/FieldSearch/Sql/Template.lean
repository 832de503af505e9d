namespace FieldSearch.Sql

/-!
# SQL text with bound values

A piece of SQL is kept as its text and the values that are bound in it, in order.  A value is never
part of the text: where it belongs the text has a placeholder, `$1`, `$2`, and so on.

* `Template` is such a piece, `Template.values` lists its values;
* `Template.text` is its text; placeholders are numbered from 1, in the order of the text.
-/

/-- A value that is bound to a placeholder. -/
inductive Value where
  | text (s : String)
  /-- A 32-bit number. -/
  | int (n : Int)
  /-- A 64-bit number. -/
  | bigInt (n : Int)
  /-- A 64-bit number without sign. -/
  | bigUnsigned (n : UInt64)
deriving DecidableEq

/-- A piece of a template: text, or the place of a value. -/
inductive Piece where
  | text (s : String)
  | bind (v : Value)
deriving DecidableEq

/-- SQL text with the places of its values. -/
abbrev Template := List Piece

/-- The value that a piece binds. -/
def Piece.value? : Piece → Option Value
  | text _ => none
  | bind v => some v

namespace Template

/-- The values of a template, in the order of their places. -/
def values (t : Template) : List Value := t.filterMap Piece.value?

/-- The text of a template whose first placeholder has the number `n`. -/
def textFrom (n : Nat) : Template → String
  | [] => ""
  | .text s :: rest => s ++ textFrom n rest
  | .bind _ :: rest => "$" ++ n.repr ++ textFrom (n + 1) rest

/-- The text of a template. -/
def text (t : Template) : String := t.textFrom 1

/-- The template with a character in front. -/
def consChar (c : Char) : Template → Template
  | .text s :: rest => .text (String.singleton c ++ s) :: rest
  | t => .text (String.singleton c) :: t

/-- The templates one after the other, with a text between them. -/
def separated (separator : String) : List Template → Template
  | [] => []
  | [t] => t
  | t :: rest => t ++ .text separator :: separated separator rest

/-- A text binds nothing. -/
@[simp] theorem values_text (s : String) (t : Template) :
    values (.text s :: t) = values t := rfl

/-- The first value is that of the first place. -/
@[simp] theorem values_bind (v : Value) (t : Template) :
    values (.bind v :: t) = v :: values t := rfl

/-- A character binds nothing. -/
@[simp] theorem values_consChar (c : Char) (t : Template) : values (consChar c t) = values t := by
  unfold consChar
  split <;> rfl

/-- A character in front of a template is the first of its text. -/
@[simp] theorem textFrom_consChar (n : Nat) (c : Char) (t : Template) :
    textFrom n (consChar c t) = String.singleton c ++ textFrom n t := by
  unfold consChar
  split <;> simp [textFrom, String.append_assoc]

/-- The values of two templates in a row are those of the first and then those of the second. -/
@[simp] theorem values_append (s t : Template) : values (s ++ t) = values s ++ values t := by
  simp [values]

/-- The second of two templates in a row counts on where the first has stopped. -/
theorem textFrom_append (n : Nat) (s t : Template) :
    textFrom n (s ++ t) = textFrom n s ++ textFrom (n + (values s).length) t := by
  induction s generalizing n with
  | nil => simp [textFrom, values]
  | cons p s ih =>
    cases p with
    | text a => simp [textFrom, ih, String.append_assoc]
    | bind v => simp [textFrom, ih, String.append_assoc, Nat.add_assoc, Nat.add_comm 1]

end Template

end FieldSearch.Sql
