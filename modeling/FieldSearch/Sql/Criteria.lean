import FieldSearch.Search
import FieldSearch.Sql.Condition
import FieldSearch.Sql.Fragment

namespace FieldSearch.Sql

/-!
# The conditions of a query

* `fullText` and `equals` match a column with a value;
* `TaggedKeys` is the subquery for the keys with all tags of a filter, `tagMembership` asks for
  them;
* `reviewStatus` asks for a review status, in the records that `reviewJoin` joins to an entry;
* `ofTerm` is the condition of a term, given that of a match; `ofQuery` the condition of a
  compiled query.
-/

/-- The full-text match of a trusted expression with a value.  The expression may refer to the
    value, too. -/
def fullText (target value : String) : Atom :=
  .custom (Fragment.template ⟨target ++ " &@ $1", [.text value]⟩)

/-- The equality of a trusted expression with a value.  The expression may refer to the value,
    too. -/
def equals (target value : String) : Atom :=
  .custom (Fragment.template ⟨target ++ " = $1", [.text value]⟩)

/-- References to `count` values from the one with the number `first` on, with commas between
    them. -/
def referenceList (first count : Nat) : String :=
  ", ".intercalate ((List.range' first count).map fun k => "$" ++ k.repr)

/-- The subquery for the keys that carry a number of tags, of those listed and visible to a user.
    It has one row: the keys, or null if there are none. -/
structure TaggedKeys where
  user : String
  tags : List String
  count : Nat

namespace TaggedKeys

/-- The keys that carry every tag of a filter. -/
def ofFilter (filter : TagFilter) : TaggedKeys :=
  { user := filter.user, tags := filter.tags.toList, count := filter.tags.size }

/-- The values of the subquery: the user, the tags, and their number. -/
def values (q : TaggedKeys) : List Value :=
  .text q.user :: q.tags.map .text ++ [.bigInt q.count]

/-- The text of the subquery, which refers to its values.  A tag counts if it belongs to the user
    or to nobody. -/
def text (q : TaggedKeys) : String :=
  "SELECT array_agg(t1.\"key\") FROM (SELECT t0.\"key\" " ++
  "FROM entry_tag, unnest(entry_tag.\"entry\") AS t0(\"key\") " ++
  "WHERE (entry_tag.\"userId\" IS NULL OR entry_tag.\"userId\" = $1) " ++
  "AND entry_tag.\"tag\" IN (" ++ referenceList 2 q.tags.length ++ ") " ++
  "GROUP BY t0.\"key\" HAVING COUNT(DISTINCT entry_tag.\"tag\") = $" ++
  (q.tags.length + 2).repr ++ ") t1"

end TaggedKeys

/-- The key set `keys` contains all keys that carry every tag of the filter.  If no key does,
    nothing matches.  The expression for the key set may refer to the values of the subquery. -/
def tagMembership (filter : TagFilter) (keys : String) : Atom :=
  let tagged := TaggedKeys.ofFilter filter
  .custom (Fragment.template ⟨keys ++ " @> (" ++ tagged.text ++ ")", tagged.values⟩)

/-- The review records of the filter's user that belong to an entry. -/
def reviewJoin (filter : ReviewFilter) : Template :=
  [.text "quiz.\"userId\" = ", .bind (.text filter.user),
   .text " AND quiz.\"entry\" = extra.\"entry\"[1] AND quiz.\"type\" = extra.\"type\""]

/-- An entry is a leech once this many reviews in a row have failed. -/
def leechThreshold : Nat := 3

/-- The review record has a status. -/
def reviewStatus : ReviewStatus → Atom
  | .due => .custom [.text "quiz.\"nextReview\" <= NOW()"]
  | .new => .custom [.text "quiz.\"id\" IS NULL"]
  | .leech => .custom [.text "quiz.\"wrongStreak\" >= ", .bind (.int leechThreshold)]

/-- The review record has one of the filter's statuses. -/
def ofReview (filter : ReviewFilter) : Condition :=
  .anyOf (filter.statuses.toList.map fun status => .atom (reviewStatus status))

section

variable {μ : Type} (criterion : μ → Atom)

mutual

/-- The condition of a term. -/
def ofTerm : Term μ → Condition
  | .leaf m => .atom (criterion m)
  | .any terms => .anyOf (ofTerms terms)
  | .all terms => .allOf (ofTerms terms)

/-- The conditions of several terms. -/
def ofTerms : List (Term μ) → List Condition
  | [] => []
  | t :: ts => ofTerm t :: ofTerms ts

end

/-- The conditions of several terms are those of each of them. -/
theorem ofTerms_eq_map (terms : List (Term μ)) :
    ofTerms criterion terms = terms.map (ofTerm criterion) := by
  induction terms with
  | nil => rfl
  | cons t ts ih => simp [ofTerms, ih]

/-- The condition of an *any of* node joins those of its children. -/
theorem ofTerm_any (terms : List (Term μ)) :
    ofTerm criterion (.any terms) = .join .or (terms.map (ofTerm criterion)) := by
  rw [ofTerm, ofTerms_eq_map, Condition.anyOf]

/-- The condition of an *all of* node joins those of its children. -/
theorem ofTerm_all (terms : List (Term μ)) :
    ofTerm criterion (.all terms) = .join .and (terms.map (ofTerm criterion)) := by
  rw [ofTerm, ofTerms_eq_map, Condition.allOf]

/-- The condition of a compiled query; `keys` is the key set of an entry.  A missing part adds no
    condition. -/
def ofQuery (keys : String) (q : CompiledQuery μ) : Condition :=
  .allOf <|
    (q.term?.map (ofTerm criterion)).toList ++
    (q.tags?.map fun tags => .atom (tagMembership tags keys)).toList ++
    (q.review?.map ofReview).toList

end

end FieldSearch.Sql
