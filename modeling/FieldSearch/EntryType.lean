import FieldSearch.Text.Ascii

namespace FieldSearch

/-!
# Entry types

The type of an entry is one of three known ones, each of which can be written in several ways, or
any other text, which is kept verbatim.

* `EntryType.ofText` reads a type, `EntryType.text` is its canonical text.
-/

/-- The type of an entry. -/
inductive EntryType where
  | character
  | vocabulary
  | sentence
  | other (text : String)
deriving DecidableEq, Inhabited

namespace EntryType

/-- The names of a single written character. -/
def characterNames : List String := ["character", "hanzi", "kanji"]

/-- The type that a text names, up to ASCII case. -/
def ofText (text : String) : EntryType :=
  if characterNames.any (sameAsciiFold text) then .character
  else if sameAsciiFold text "vocabulary" then .vocabulary
  else if sameAsciiFold text "sentence" then .sentence
  else .other text

/-- The canonical text of a type. -/
def text : EntryType → String
  | character => "character"
  | vocabulary => "vocabulary"
  | sentence => "sentence"
  | other text => text

end EntryType

end FieldSearch
