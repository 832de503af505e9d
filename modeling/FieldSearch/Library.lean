import FieldSearch.EntryType
import FieldSearch.Sql.Criteria
import FieldSearch.Sql.Select

namespace FieldSearch

/-!
# Library collections

Collections of vocabulary.  Here a tag is a plain text field of the collection, and no extension
applies.

* `Library.registry` is the registry of the collections;
* `Library.criterion` is the SQL of a match, `Library.condition` that of a compiled query, for the
  collections of one user;
* `Library.select` is a page of the collections that match, `Library.count` their number.
-/

/-- The fields of a collection. -/
inductive LibraryField where
  | entry
  | title
  | type
  | description
  | tag
deriving DecidableEq

/-- The match of a collection's field with a value. -/
inductive Library where
  | entry (text : String)
  | title (text : String)
  | type (kind : EntryType)
  | description (text : String)
  | tag (text : String)
deriving DecidableEq

namespace Library

/-- The fields of a collection, with their names. -/
def table : FieldTable LibraryField :=
  [{ field := .entry, names := ["entry"], isDefault := true },
   { field := .title, names := ["title"], isDefault := true },
   { field := .type, names := ["type"] },
   { field := .description, names := ["description"], isDefault := true },
   { field := .tag, names := ["tag"], isDefault := true }]

/-- The match of a field with a value. -/
def ofField : LibraryField → String → Library
  | .entry, value => entry value
  | .title, value => title value
  | .type, value => type (.ofText value)
  | .description, value => description value
  | .tag, value => tag value

/-- The registry of collections. -/
def registry : Registry LibraryField Library := .ofTable table {} ofField

/-! ### Statements -/

open Sql

/-- The SQL of a match. -/
def criterion : Library → Atom
  | entry text => fullText "\"entry_zh\"" text
  | title text => fullText "\"title\"" text
  | type kind => equals "\"type\"" kind.text
  | description text => fullText "\"description\"" text
  | tag text => fullText "\"tag\"" text

/-- The key set of a collection. -/
def keys : String := "\"entry\""

/-- The owner of a collection. -/
def ownedBy (user : String) : Atom := Column.equals { name := "userId" } (.text user)

/-- A collection is shown if it has entries. -/
def isVisible : Atom := Column.isNotNull { name := "entry" }

/-- The condition that a collection is the user's, is shown, and satisfies the query. -/
def condition (q : CompiledQuery Library) (user : String) : Condition :=
  .allOf [.atom (ownedBy user), .atom isVisible, ofQuery criterion keys q]

/-- A column of the collections, selected as it is. -/
def selected (name : String) : Selected := { expr := Column.template { name } }

/-- A page of the collections that match, those changed last first. -/
def select (q : CompiledQuery Library) (user : String) (page : Page) : Select where
  selected := ["entry", "title", "type", "description", "tag"].map selected
  table? := some "library"
  filter? := some (condition q user)
  orderBy := [({ name := "updatedAt" }, .descending)]
  page? := some page

/-- The number of collections that match. -/
def count (q : CompiledQuery Library) (user : String) : Select where
  selected := [{ expr := [.text "COUNT(*)"], name? := some "count" }]
  table? := some "library"
  filter? := some (condition q user)

end Library

end FieldSearch
