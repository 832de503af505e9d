import FieldSearch.Page
import FieldSearch.Sql.Condition

namespace FieldSearch.Sql

/-!
# Select statements

* `Select` is a statement by its clauses;
* `Select.template` is its SQL: what is selected (`Select.heading`), from which rows
  (`Select.rows`), and in which order and how many of them (`Select.ending`);
* `Select.text` and `Select.values` are the text and the bound values of a statement.
-/

/-- The quoted form of a name. -/
def quoteName (name : String) : String := "\"" ++ name ++ "\""

/-- A column, of a given table or of the only one. -/
structure Column where
  table? : Option String := none
  name : String
deriving DecidableEq

/-- The text of a column. -/
def Column.text (c : Column) : String :=
  match c.table? with
  | some table => quoteName table ++ "." ++ quoteName c.name
  | none => quoteName c.name

/-- The SQL of a column. -/
def Column.template (c : Column) : Template := [.text c.text]

/-- The comparison of a column with a value. -/
def Column.equals (c : Column) (v : Value) : Atom := .comparison [.text (c.text ++ " = "), .bind v]

/-- The comparison that finds a value in a column. -/
def Column.isNotNull (c : Column) : Atom := .comparison [.text (c.text ++ " IS NOT NULL")]

/-- A selected expression, and the name that it is given. -/
structure Selected where
  expr : Template
  name? : Option String := none

/-- The SQL of a selected expression. -/
def Selected.template (s : Selected) : Template :=
  match s.name? with
  | some name => s.expr ++ [.text (" AS " ++ quoteName name)]
  | none => s.expr

/-- The order of rows by a column. -/
inductive Direction where
  | ascending
  | descending
deriving DecidableEq

/-- The text of a direction. -/
def Direction.text : Direction → String
  | ascending => "ASC"
  | descending => "DESC"

/-- A select statement, by its clauses. -/
structure Select where
  /-- The columns whose values tell two rows apart; without any, all rows are taken. -/
  distinctOn : List Column := []
  selected : List Selected
  table? : Option String := none
  /-- A table that is joined, and the condition to join it. -/
  join? : Option (String × Template) := none
  filter? : Option Condition := none
  orderBy : List (Column × Direction) := []
  page? : Option Page := none

namespace Select

/-- The SQL of the columns that tell rows apart. -/
def distinct (s : Select) : Template :=
  if s.distinctOn.isEmpty then []
  else
    .text "DISTINCT ON (" ::
      Template.separated ", " (s.distinctOn.map Column.template) ++ [.text ") "]

/-- The SQL of what is selected. -/
def heading (s : Select) : Template :=
  .text "SELECT " :: s.distinct ++ Template.separated ", " (s.selected.map Selected.template)

/-- The SQL of the table. -/
def fromTable (s : Select) : Template :=
  match s.table? with
  | some table => [.text (" FROM " ++ quoteName table)]
  | none => []

/-- The SQL of the join. -/
def joined (s : Select) : Template :=
  match s.join? with
  | some (table, on) => .text (" LEFT JOIN " ++ quoteName table ++ " ON ") :: on
  | none => []

/-- The SQL of the condition. -/
def filtered (s : Select) : Template :=
  match s.filter? with
  | some condition => .text " WHERE " :: condition.template
  | none => []

/-- The SQL of the rows that are selected from. -/
def rows (s : Select) : Template := s.fromTable ++ s.joined ++ s.filtered

/-- The SQL of the order. -/
def ordered (s : Select) : Template :=
  if s.orderBy.isEmpty then []
  else
    .text " ORDER BY " :: Template.separated ", "
      (s.orderBy.map fun (column, direction) => [.text (column.text ++ " " ++ direction.text)])

/-- The SQL of the page. -/
def paged (s : Select) : Template :=
  match s.page? with
  | some page =>
    [.text " LIMIT ", .bind (.bigUnsigned page.limit),
     .text " OFFSET ", .bind (.bigUnsigned page.offset)]
  | none => []

/-- The SQL of the order and the number of the rows. -/
def ending (s : Select) : Template := s.ordered ++ s.paged

/-- The SQL of a statement. -/
def template (s : Select) : Template := s.heading ++ s.rows ++ s.ending

/-- The text of a statement. -/
def text (s : Select) : String := s.template.text

/-- The values that are bound in a statement, in the order of their placeholders. -/
def values (s : Select) : List Value := s.template.values

end Select

end FieldSearch.Sql
