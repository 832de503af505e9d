import FieldSearch.Outline
import FieldSearch.Registry
import FieldSearch.Text.Ascii
import FieldSearch.Text.Lowercase

namespace FieldSearch

/-!
# Declarations

A registry can be derived from the declaration of a type with one variant per field.  Settings on
the type enable extensions; settings on a variant give names to its field, and say whether bare
terms are looked for in it.  A field without a name of its own has that of its variant, in a casing
that is a parameter here, and camel case unless another one is asked for.

* `Declaration` is what is declared, `DeclarationFault` what can be wrong with it;
* `Declaration.fault?` is the first fault that is found;
* `Declaration.derive` gives the registry's table, with a variant's position as its field, unless
  there is a fault.
-/

/-! ### Names -/

/-- Whether an identifier is a raw one, as `r#type`: one that would be a keyword otherwise. -/
def isRaw (identifier : String) : Bool := identifier.toList.take 2 == ['r', '#']

/-- A setting: a word, as in `default`, or a word with a text, as in `alias = "text"`. -/
structure Setting where
  word : String
  text? : Option String := none
deriving DecidableEq

/-- A variant: its name, its settings, and the number of values that it holds. -/
structure Variant where
  name : String
  settings : List Setting := []
  values : Nat := 1
deriving DecidableEq

/-- The kind of a declared type. -/
inductive DeclarationKind where
  /-- A type with variants. -/
  | enumeration
  /-- A type without variants. -/
  | record
deriving DecidableEq

/-- The declaration of a type. -/
structure Declaration where
  name : String
  kind : DeclarationKind := .enumeration
  /-- The parameters of the type; that of a lifetime starts with an apostrophe. -/
  parameters : List String := []
  settings : List Setting := []
  variants : List Variant := []
deriving DecidableEq

/-- What can be wrong with a declaration. -/
inductive DeclarationFault where
  | typeSettings
  | notEnumeration
  | variantSettings
  | valueCount
  | logographicNotDefault
  /-- The name of the type that selects a field would be no identifier. -/
  | selectorName (name : String)
  | severalLifetimes
deriving DecidableEq

/-- The text of a fault. -/
def DeclarationFault.message : DeclarationFault → String
  | typeSettings => "Unable to parse enum options"
  | notEnumeration => "Derive can only be used on enum types"
  | variantSettings => "Unable to parse variant options"
  | valueCount => "Variant must have exactly one field"
  | logographicNotDefault => "Only default fields can be logographic"
  | selectorName name => quoteText name ++ " is not a valid Ident"
  | severalLifetimes => "Registry types can have at most one lifetime"

/-! ### Settings -/

/-- Which words are understood, and how. -/
structure Vocabulary where
  /-- The words without a text. -/
  flags : List String
  /-- The words with a text that can be given once. -/
  single : List String
  /-- The words with a text that can be given several times. -/
  repeated : List String

namespace Vocabulary

/-- Whether a setting is a known word, with a text exactly if the word has one. -/
def understands (v : Vocabulary) (s : Setting) : Bool :=
  match s.text? with
  | none => v.flags.contains s.word
  | some _ => v.single.contains s.word || v.repeated.contains s.word

/-- The words of the settings that can be given only once. -/
def onceOnly (v : Vocabulary) (settings : List Setting) : List String :=
  (settings.map (·.word)).filter fun word => !v.repeated.contains word

/-- Whether all settings are understood, and none is repeated that must not be. -/
def accepts (v : Vocabulary) (settings : List Setting) : Bool :=
  settings.all v.understands && decide (v.onceOnly settings).Nodup

end Vocabulary

/-- The settings of a type. -/
def typeVocabulary : Vocabulary :=
  { flags := ["tags", "quiz"], single := [], repeated := [] }

/-- The settings of a variant. -/
def variantVocabulary : Vocabulary :=
  { flags := ["default", "logographic"], single := ["rename"], repeated := ["alias"] }

namespace Setting

/-- Whether a word is among the settings. -/
def given (settings : List Setting) (word : String) : Bool :=
  settings.any (·.word == word)

/-- The texts that are given for a word, in order. -/
def texts (settings : List Setting) (word : String) : List String :=
  (settings.filter (·.word == word)).filterMap (·.text?)

end Setting

/-! ### Variants -/

namespace Variant

/-- Whether bare terms are looked for in the variant's field. -/
def isDefault (v : Variant) : Bool := Setting.given v.settings "default"

/-- Whether bare terms of ideographs are looked for in the variant's field. -/
def isLogographic (v : Variant) : Bool := Setting.given v.settings "logographic"

/-- The primary name of the field before it is lower-cased: the one that is set, or the name of the
    variant in a casing. -/
def primaryName (casing : String → String) (v : Variant) : String :=
  match (Setting.texts v.settings "rename").head? with
  | some name => name
  | none => casing v.name

/-- The names of the field, in lower case, the primary one first. -/
def fieldNames (casing : String → String) (v : Variant) : List String :=
  toLowercase (v.primaryName casing) :: (Setting.texts v.settings "alias").map toLowercase

/-- The first fault of a variant. -/
def fault? (v : Variant) : Option DeclarationFault :=
  if !variantVocabulary.accepts v.settings then some .variantSettings
  else if v.values ≠ 1 then some .valueCount
  else if v.isLogographic && !v.isDefault then some .logographicNotDefault
  else none

/-- The row of the variant at a position. -/
def row (casing : String → String) (position : Nat) (v : Variant) : FieldRow Nat where
  field := position
  names := v.fieldNames casing
  isDefault := v.isDefault
  isLogographic := v.isLogographic

end Variant

/-! ### Registries -/

/-- What is derived from a declaration. -/
structure DerivedRegistry where
  /-- The name of the type that selects a field. -/
  selector : String
  /-- The names of the variants. -/
  variants : List String
  /-- Whether the declared type has a lifetime. -/
  hasLifetime : Bool
  /-- The fields, each by the position of its variant. -/
  table : FieldTable Nat
  extensions : Extensions

namespace Declaration

/-- The lifetimes of the declared type. -/
def lifetimes (d : Declaration) : List String :=
  d.parameters.filter fun parameter => parameter.toList.head? == some '\''

/-- The name of the type that selects a field. -/
def selector (d : Declaration) : String := d.name ++ "Field"

/-- The first fault of a declaration: of its own settings and its kind, of a variant, of the name of
    the selector, and last of its lifetimes.  A raw name does not make another identifier when
    something is put behind it. -/
def fault? (d : Declaration) : Option DeclarationFault :=
  if !typeVocabulary.accepts d.settings then some .typeSettings
  else if d.kind ≠ .enumeration then some .notEnumeration
  else
    match d.variants.findSome? Variant.fault? with
    | some fault => some fault
    | none =>
      if isRaw d.name then some (.selectorName d.selector)
      else if 1 < d.lifetimes.length then some .severalLifetimes
      else none

/-- The fields of a declaration, each by the position of its variant. -/
def table (casing : String → String) (d : Declaration) : FieldTable Nat :=
  d.variants.mapIdx (Variant.row casing)

/-- The extensions that are enabled. -/
def extensions (d : Declaration) : Extensions where
  tags := Setting.given d.settings "tags"
  review := Setting.given d.settings "quiz"

/-- The registry that a declaration describes, or what is wrong with it. -/
def derive (d : Declaration) (casing : String → String := camelCase) :
    Except DeclarationFault DerivedRegistry :=
  match d.fault? with
  | some fault => .error fault
  | none =>
    .ok
      { selector := d.selector
        variants := d.variants.map (·.name)
        hasLifetime := !d.lifetimes.isEmpty
        table := d.table casing
        extensions := d.extensions }

end Declaration

/-- The registry of a derived table; a match has the position of its variant and the value. -/
def DerivedRegistry.registry (r : DerivedRegistry) : Registry Nat (Nat × String) :=
  .ofTable r.table r.extensions Prod.mk

end FieldSearch
