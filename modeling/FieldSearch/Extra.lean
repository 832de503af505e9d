import FieldSearch.EntryType
import FieldSearch.Sql.Criteria
import FieldSearch.Sql.Select

namespace FieldSearch

/-!
# Extra entries

The entries that a user adds.  A bare term is looked for in all fields, or only in the entry and its
description if it is written in ideographs.  Tags and review statuses apply.

* `Extra.registry` is the registry of the entries;
* `Extra.criterion` is the SQL of a match, `Extra.condition` that of a compiled query, for the
  entries of one user;
* `Extra.select` is a page of the entries that match, `Extra.count` their number.
-/

/-- The fields of an extra entry. -/
inductive ExtraField where
  | entry
  | reading
  | english
  | type
  | description
deriving DecidableEq

/-- The match of an extra entry's field with a value. -/
inductive Extra where
  | entry (text : String)
  | reading (text : String)
  | english (text : String)
  | type (kind : EntryType)
  | description (text : String)
deriving DecidableEq

namespace Extra

/-- The fields of an extra entry, with their names. -/
def table : FieldTable ExtraField :=
  [{ field := .entry, names := ["entry"], isDefault := true, isLogographic := true },
   { field := .reading, names := ["reading", "pinyin"], isDefault := true },
   { field := .english, names := ["english"], isDefault := true },
   { field := .type, names := ["type"], isDefault := true },
   { field := .description, names := ["description"], isDefault := true, isLogographic := true }]

/-- The match of a field with a value. -/
def ofField : ExtraField → String → Extra
  | .entry, value => entry value
  | .reading, value => reading value
  | .english, value => english value
  | .type, value => type (.ofText value)
  | .description, value => description value

/-- The registry of extra entries. -/
def registry : Registry ExtraField Extra :=
  .ofTable table { tags := true, review := true } ofField

/-! ### Statements -/

open Sql

/-- The SQL of a match. -/
def criterion : Extra → Atom
  | entry text => fullText "extra.\"entry\"" text
  | reading text => fullText "normalize_pinyin(extra.\"pinyin\")" text
  | english text => fullText "extra.\"english\"" text
  | type kind => equals "extra.\"type\"" kind.text
  | description text => fullText "extra.\"description\"" text

/-- The key set of an entry. -/
def keys : String := "extra.\"entry\""

/-- A column of the entries. -/
def column (name : String) : Column := { table? := some "extra", name }

/-- The owner of an entry. -/
def ownedBy (user : String) : Atom := (column "userId").equals (.text user)

/-- An entry is shown if it has an English meaning. -/
def isVisible : Atom := .custom [.text "extra.\"english\"[1] IS NOT NULL"]

/-- The condition that an entry is the user's, is shown, and satisfies the query. -/
def condition (q : CompiledQuery Extra) (user : String) : Condition :=
  .allOf [.atom (ownedBy user), .atom isVisible, ofQuery criterion keys q]

/-- The review records, joined if the query asks for a review status. -/
def join? (q : CompiledQuery Extra) : Option (String × Template) :=
  q.review?.map fun filter => ("quiz", reviewJoin filter)

/-- A column of the entries, selected under a name. -/
def selected (name as : String) : Selected := { expr := (column name).template, name? := some as }

/-- A page of the entries that match, those changed last first. -/
def select (q : CompiledQuery Extra) (user : String) (page : Page) : Select where
  distinctOn := [column "updatedAt", column "id"]
  selected :=
    [selected "entry" "entry", selected "pinyin" "reading", selected "english" "english",
     selected "type" "type", selected "tag" "tag"]
  table? := some "extra"
  join? := join? q
  filter? := some (condition q user)
  orderBy := [(column "updatedAt", .descending), (column "id", .ascending)]
  page? := some page

/-- The number of entries that match. -/
def count (q : CompiledQuery Extra) (user : String) : Select where
  selected := [{ expr := [.text "COUNT(DISTINCT extra.\"id\")"], name? := some "count" }]
  table? := some "extra"
  join? := join? q
  filter? := some (condition q user)

end Extra

end FieldSearch
