namespace FieldSearch

/-!
# ASCII texts

Field names, keywords and entry types are compared up to the case of the letters `A` to `Z`.  All
other characters are compared as they are, so that `K` (the Kelvin sign) is no `k`.

* `asciiFold` lower-cases the letters `A` to `Z`;
* `sameAsciiFold` compares two texts by it, and so is an equivalence;
* `camelCase` writes the name of a field as its words, with nothing between them.
-/

/-- The text with the letters `A` to `Z` lower-cased. -/
def asciiFold (s : String) : String := String.ofList (s.toList.map Char.toLower)

/-- Whether two texts are equal up to the case of the letters `A` to `Z`. -/
def sameAsciiFold (a b : String) : Bool := asciiFold a == asciiFold b

/-- Two texts are equal up to ASCII case exactly when they fold to the same text. -/
@[simp] theorem sameAsciiFold_iff (a b : String) :
    sameAsciiFold a b = true ↔ asciiFold a = asciiFold b := by
  simp [sameAsciiFold]

/-! ### Camel case

A name is written in camel case as its words, with nothing between them: the first word in lower
case, and each of the others with a capital in front.  Only the letters of ASCII change. -/

namespace CamelCase

/-- Whether a word starts with `c`, which stands between `previous` and `rest`: at a capital behind
    a small letter, at the last of several capitals if a small letter follows it, and where letters
    and digits meet. -/
def startsWord (previous c : Char) (rest : List Char) : Bool :=
  (previous.isLower && c.isUpper) ||
  (previous.isUpper && c.isUpper && rest.head?.any Char.isLower) ||
  (previous.isAlpha && c.isDigit) || (previous.isDigit && c.isAlpha)

/-- Writes what follows `previous`, or an underscore if that is nothing; `begun` says whether there
    was a word before.  Underscores are left out. -/
def write (previous : Option Char) (begun : Bool) : List Char → List Char
  | [] => []
  | c :: cs =>
    if c = '_' then write none begun cs
    else if begun && previous.all (startsWord · c cs) then c.toUpper :: write (some c) true cs
    else c.toLower :: write (some c) true cs

end CamelCase

/-- A name in camel case. -/
def camelCase (name : String) : String := String.ofList (CamelCase.write none false name.toList)

end FieldSearch
