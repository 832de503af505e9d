import FieldSearch.Text.Visible

namespace FieldSearch

/-!
# Outlines

A value is shown as an outline: what it is made of stands on lines of its own, four blanks further
in, each part followed by a comma.

* `Outline` is what an outline is made of, `Outline.text` its text;
* `quoteText` writes a text in quotes, on one line.
-/

/-- The text of a character by its code point, in hexadecimal digits. -/
def codePointText (c : Char) : List Char :=
  '\\' :: 'u' :: '\x7b' :: (Nat.toDigits 16 c.toNat ++ ['\x7d'])

/-- The text of a character inside quotes.  What would end the quotes or the line is written with a
    backslash, what would not show by its code point. -/
def escapeChar (c : Char) : List Char :=
  if c = '"' then ['\\', '"']
  else if c = '\\' then ['\\', '\\']
  else if c = '\n' then ['\\', 'n']
  else if c = '\r' then ['\\', 'r']
  else if c = '\t' then ['\\', 't']
  else if c = '\x00' then ['\\', '0']
  else if isVisible c then [c]
  else codePointText c

/-- A text in quotes. -/
def quoteText (s : String) : String :=
  String.ofList ('"' :: (s.toList.flatMap escapeChar ++ ['"']))

/-- The outline of a value. -/
inductive Outline where
  /-- A value that fits on a line. -/
  | word (s : String)
  /-- A part with its label. -/
  | labelled (label : String) (value : Outline)
  /-- A value with parts, between an opening and a closing text. -/
  | block (opening closing : String) (parts : List Outline)

namespace Outline

/-- A text in quotes. -/
def quoted (s : String) : Outline := word (quoteText s)

/-- A truth value. -/
def flag (b : Bool) : Outline := word (if b then "true" else "false")

/-- A value of a named kind, with its parts in order. -/
def tuple (name : String) (parts : List Outline) : Outline := block (name ++ "(") ")" parts

/-- A value of a named kind, with labelled parts. -/
def record (name : String) (parts : List (String × Outline)) : Outline :=
  block (name ++ " \x7b") "\x7d" (parts.map fun (label, part) => labelled label part)

/-- A list. -/
def list (items : List Outline) : Outline := block "[" "]" items

/-- A set. -/
def set (items : List Outline) : Outline := block "\x7b" "\x7d" items

/-- A value that may be missing. -/
def optional : Option Outline → Outline
  | some value => tuple "Some" [value]
  | none => word "None"

/-- The lines with a text before the first. -/
def before (text : String) : List String → List String
  | [] => [text]
  | line :: lines => (text ++ line) :: lines

/-- The lines with a comma after the last. -/
def withComma : List String → List String
  | [] => [","]
  | [line] => [line ++ ","]
  | line :: lines => line :: withComma lines

mutual

/-- The lines of an outline. -/
def lines : Outline → List String
  | word s => [s]
  | labelled label value => before (label ++ ": ") (lines value)
  | block opening closing [] => [opening ++ closing]
  | block opening closing (part :: parts) =>
    opening :: partLines (part :: parts) ++ [closing]

/-- The lines of the parts of a block. -/
def partLines : List Outline → List String
  | [] => []
  | part :: parts => (withComma (lines part)).map ("    " ++ ·) ++ partLines parts

end

/-- The text of an outline. -/
def text (o : Outline) : String := "\n".intercalate o.lines

end Outline

end FieldSearch
