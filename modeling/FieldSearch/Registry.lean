import FieldSearch.Term
import FieldSearch.Text.CharClass
import FieldSearch.Token

namespace FieldSearch

/-!
# Field registries

What can be searched in an entity is described by its registry.

* `ScriptClass` is the class of a value by its script, which decides on the fields that a bare term
  is looked for in;
* `Extensions` says which extensions apply: the tags of an entry, and its review status;
* `Registry` has the field names, the fields that a bare term is looked for in, and the match that a
  field makes of a value;
* `Registry.lookup` finds a field by its name, up to ASCII case; of equal names the first wins;
* `FieldTable` is a table with one row per field, `Registry.ofTable` the registry of a table;
* `Registry.resolution` says what becomes of a token: a term, or the reason why it is left out;
* `Registry.resolve` is the term of a token, `Registry.compile` the term of a list of tokens: all
  tokens that are not left out have to match.
-/

/-! ### Script classes

A bare term is looked for in other fields when it is written in ideographs: neither a reading nor
an English meaning ever contains it. -/

/-- The script class of a value. -/
inductive ScriptClass where
  /-- The value has ideographs only, and at least one. -/
  | logographic
  /-- All other values, the empty one among them. -/
  | general
deriving DecidableEq

instance : Inhabited ScriptClass := ⟨.general⟩

/-- The script class of a value: logographic if it is not empty and has ideographs only. -/
def classify (value : String) : ScriptClass :=
  if !value.isEmpty && value.toList.all isIdeograph then .logographic else .general

/-! ### Registries -/

/-- The extensions that apply to an entity: conditions that other relations than its own decide. -/
structure Extensions where
  /-- Tags, written `tag:name`. -/
  tags : Bool := false
  /-- The review status, written `is:due` or just `due`. -/
  review : Bool := false
deriving DecidableEq, Inhabited

/-- The registry of an entity with fields `φ` and matches `μ`. -/
structure Registry (φ μ : Type) where
  /-- The names of the fields, aliases included. -/
  names : List (String × φ)
  /-- The extensions that apply to the entity. -/
  extensions : Extensions := {}
  /-- The fields that a bare term of a script class is looked for in. -/
  defaults : ScriptClass → List φ
  /-- The match of a field for a value. -/
  matcher : φ → String → μ

namespace Registry

variable {φ μ : Type}

/-- The field of the first name that equals the given one up to ASCII case. -/
def lookup (r : Registry φ μ) (name : String) : Option φ :=
  (r.names.find? fun entry => sameAsciiFold entry.1 name).map (·.2)

end Registry

/-! ### Field tables -/

/-- One field: its names, and the part it takes in the search of bare terms. -/
structure FieldRow (φ : Type) where
  /-- The field. -/
  field : φ
  /-- Its names, the primary one first. -/
  names : List String
  /-- Whether bare terms are looked for in it. -/
  isDefault : Bool := false
  /-- Whether bare terms of ideographs are looked for in it. -/
  isLogographic : Bool := false
deriving DecidableEq

/-- The fields of an entity. -/
abbrev FieldTable (φ : Type) := List (FieldRow φ)

namespace FieldTable

variable {φ μ : Type}

/-- The names of all fields, row by row. -/
def names (table : FieldTable φ) : List (String × φ) :=
  table.flatMap fun row => row.names.map fun name => (name, row.field)

/-- The default fields. -/
def general (table : FieldTable φ) : List φ :=
  (table.filter (·.isDefault)).map (·.field)

/-- The default fields that are marked for ideographs. -/
def logographic (table : FieldTable φ) : List φ :=
  (table.filter fun row => row.isDefault && row.isLogographic).map (·.field)

/-- The fields that a bare term of a script class is looked for in.  If none is marked for
    ideographs, they are looked for where everything else is. -/
def defaults (table : FieldTable φ) : ScriptClass → List φ
  | .general => table.general
  | .logographic => if table.logographic.isEmpty then table.general else table.logographic

end FieldTable

/-- The registry with the fields of a table. -/
def Registry.ofTable {φ μ : Type} (table : FieldTable φ) (extensions : Extensions)
    (matcher : φ → String → μ) : Registry φ μ where
  names := table.names
  extensions := extensions
  defaults := table.defaults
  matcher := matcher

/-! ### Resolving tokens -/

/-- What a registry makes of a token. -/
inductive Resolution (μ : Type) where
  /-- The token is a condition. -/
  | term (t : Term μ)
  /-- The token has no value. -/
  | emptyValue
  /-- The registry has no field of this name. -/
  | unknownField (name : String)
  /-- The token is bare, and the registry has no fields for its script class. -/
  | noDefaults

namespace Resolution

variable {μ : Type}

/-- The term of a token, if it is a condition. -/
def term? : Resolution μ → Option (Term μ)
  | term t => some t
  | _ => none

/-- The unknown field that a token was left out for. -/
def unknownField? : Resolution μ → Option String
  | unknownField name => some name
  | _ => none

end Resolution

namespace Registry

variable {φ μ : Type}

/-- The terms of a bare value: one match for each default field of its script class. -/
def fanOut (r : Registry φ μ) (value : String) : List (Term μ) :=
  (r.defaults (classify value)).map fun field => .leaf (r.matcher field value)

/-- What becomes of a token.  A qualified token is a match of its field; a bare token is looked
    for in the default fields of its script class. -/
def resolution (r : Registry φ μ) (t : Token) : Resolution μ :=
  if t.value.isEmpty then .emptyValue
  else
    match t.field with
    | some name =>
      match r.lookup name with
      | some field => .term (.leaf (r.matcher field t.value))
      | none => .unknownField name
    | none =>
      match Term.anyOf? (r.fanOut t.value) with
      | some term => .term term
      | none => .noDefaults

/-- The term of a token, unless it is left out. -/
def resolve (r : Registry φ μ) (t : Token) : Option (Term μ) := (r.resolution t).term?

/-- The term of a list of tokens: all of them have to match, but for those left out.  If all are
    left out there is no term, and so no restriction. -/
def compile (r : Registry φ μ) (tokens : List Token) : Option (Term μ) :=
  Term.allOf? (tokens.filterMap r.resolve)

/-- The unknown fields that tokens are left out for, in the order of the tokens. -/
def unknownFields (r : Registry φ μ) (tokens : List Token) : List String :=
  tokens.filterMap fun t => (r.resolution t).unknownField?

end Registry

end FieldSearch
