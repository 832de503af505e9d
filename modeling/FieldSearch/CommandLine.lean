import FieldSearch.Extra
import FieldSearch.Library
import FieldSearch.Outline
import FieldSearch.Search

namespace FieldSearch

/-!
# The command line

The program shows what becomes of a query: its tokens, the compiled query, and the statement that
selects the first page of what matches.

* `CommandLine.run` is what the program writes, and its exit code.
-/

/-! ### Outlines of tokens and queries -/

/-- The outline of a token. -/
def Token.outline (t : Token) : Outline :=
  .record "Token"
    [("field", .optional (t.field.map .quoted)), ("value", .quoted t.value),
     ("quoted", .flag t.quoted)]

/-- The outline of an entry type. -/
def EntryType.outline : EntryType → Outline
  | character => .word "Character"
  | vocabulary => .word "Vocabulary"
  | sentence => .word "Sentence"
  | other text => .tuple "Other" [.quoted text]

/-- The outline of a match of an extra entry. -/
def Extra.outline : Extra → Outline
  | entry text => .tuple "Entry" [.quoted text]
  | reading text => .tuple "Reading" [.quoted text]
  | english text => .tuple "English" [.quoted text]
  | type kind => .tuple "Type" [kind.outline]
  | description text => .tuple "Description" [.quoted text]

/-- The outline of a match of a library collection. -/
def Library.outline : Library → Outline
  | entry text => .tuple "Entry" [.quoted text]
  | title text => .tuple "Title" [.quoted text]
  | type kind => .tuple "Type" [kind.outline]
  | description text => .tuple "Description" [.quoted text]
  | tag text => .tuple "Tag" [.quoted text]

/-- The outline of a review status. -/
def ReviewStatus.outline : ReviewStatus → Outline
  | due => .word "Due"
  | new => .word "New"
  | leech => .word "Leech"

/-- The outline of a tag filter. -/
def TagFilter.outline (f : TagFilter) : Outline :=
  .record "TagFilter" [("user", .quoted f.user), ("tags", .set (f.tags.toList.map .quoted))]

/-- The outline of a review filter. -/
def ReviewFilter.outline (f : ReviewFilter) : Outline :=
  .record "QuizFilter"
    [("user", .quoted f.user), ("statuses", .set (f.statuses.toList.map ReviewStatus.outline))]

section

variable {μ : Type} (ofMatch : μ → Outline)

mutual

/-- The outline of a term, given that of a match. -/
def Term.outline : Term μ → Outline
  | .leaf m => .tuple "Match" [ofMatch m]
  | .any terms => .tuple "Or" [.list (Term.outlines terms)]
  | .all terms => .tuple "And" [.list (Term.outlines terms)]

/-- The outlines of several terms. -/
def Term.outlines : List (Term μ) → List Outline
  | [] => []
  | t :: ts => Term.outline t :: Term.outlines ts

end

/-- The outline of a compiled query, given that of a match. -/
def CompiledQuery.outline (q : CompiledQuery μ) : Outline :=
  .record "Compiled"
    [("term", .optional (q.term?.map (Term.outline ofMatch))),
     ("tags", .optional (q.tags?.map TagFilter.outline)),
     ("quiz", .optional (q.review?.map ReviewFilter.outline))]

end

/-! ### The program -/

/-- The text of a bound value. -/
def Sql.Value.shown : Sql.Value → String
  | text s => s!"String(Some({quoteText s}))"
  | int n => s!"Int(Some({n}))"
  | bigInt n => s!"BigInt(Some({n}))"
  | bigUnsigned n => s!"BigUnsigned(Some({n}))"

namespace CommandLine

/-- What the program writes, and its exit code. -/
structure Outcome where
  out : String
  err : String := ""
  code : UInt32 := 0
deriving DecidableEq

/-- The user whose entries are selected. -/
def user : String := "demo"

/-- The report of a query: its outline, and the statement for it. -/
def report (query : Outline) (statement : Sql.Select) : String :=
  let values := ", ".intercalate (statement.values.map Sql.Value.shown)
  s!"\nCompiled:\n{query.text}\n\nSQL:\n{statement.text}\n\nValues:\nValues([{values}])\n"

/-- The report of a query for extra entries. -/
def extraReport (raw : String) : String :=
  let query := Extra.registry.search {} user raw
  report (query.outline Extra.outline) (Extra.select query user .first)

/-- The report of a query for library collections. -/
def libraryReport (raw : String) : String :=
  let query := Library.registry.search {} user raw
  report (query.outline Library.outline) (Library.select query user .first)

/-- The report of a query for an entity, if there is such an entity. -/
def report? (entity raw : String) : Option String :=
  if entity = "library" then some (libraryReport raw)
  else if entity = "extra" then some (extraReport raw)
  else none

/-- What the program does for its arguments: an entity, and the words of a query. -/
def run (args : List String) : Outcome :=
  let raw := " ".intercalate (args.drop 1)
  let tokens := Outline.list ((tokenize raw).map Token.outline)
  let heading := s!"Input: '{raw}'\n\nTokens:\n{tokens.text}\n"
  match report? (args.headD "") raw with
  | some report => { out := heading ++ report }
  | none => { out := heading, err := "Usage: cli <extra|library> <query>...\n", code := 1 }

end CommandLine

end FieldSearch
