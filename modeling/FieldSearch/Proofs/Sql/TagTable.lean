import FieldSearch.Proofs.Sql.Truth
import FieldSearch.Sql.Fragment
import Mathlib.Data.List.Dedup

namespace FieldSearch.Sql

/-!
# The table of tags

What SQL makes of the table `entry_tag`, as far as the subquery for tagged keys uses it.

* `TagRow` is a row of the table, `TagRow.unnested` takes the rows once for each of their keys;
* `RowTest` is the condition of a `WHERE` clause, by its SQL (`RowTest.text`) and its truth value at
  a row (`RowTest.truth`), given the values that its placeholders are bound to;
* `GroupedKeys` is a query that groups the keys of the rows that pass, and keeps a key by the number
  of different values in its group; `GroupedKeys.keys` are those that it keeps;
* `GroupedKeys.truth` is the value of the condition that a key set contains all of them, and
  `GroupedKeys.membershipText` its SQL.
-/

/-! ### Rows -/

/-- A row of the table: a tag, the user that it belongs to, if any, and the keys that have it. -/
structure TagRow (κ : Type) where
  owner? : Option String
  tag : String
  keys : List κ

/-- A column of the table that holds a single value. -/
inductive TagColumn where
  | userId
  | tag

/-- The text of a column. -/
def TagColumn.text : TagColumn → String
  | userId => "entry_tag.\"userId\""
  | tag => "entry_tag.\"tag\""

variable {κ : Type}

/-- The value of a column at a row; null is `none`. -/
def TagColumn.value? : TagColumn → TagRow κ → Option Value
  | userId, row => row.owner?.map .text
  | tag, row => some (.text row.tag)

/-- The rows, each of them once for each of its keys. -/
def TagRow.unnested (rows : List (TagRow κ)) : List (TagRow κ × κ) :=
  rows.flatMap fun row => row.keys.map fun key => (row, key)

/-- A row is taken with each of its keys, and with nothing else. -/
theorem TagRow.mem_unnested {rows : List (TagRow κ)} {row : TagRow κ} {key : κ} :
    (row, key) ∈ unnested rows ↔ row ∈ rows ∧ key ∈ row.keys := by
  simp only [unnested, List.mem_flatMap, List.mem_map, Prod.mk.injEq]
  constructor
  · rintro ⟨row, hrow, key, hkey, rfl, rfl⟩
    exact ⟨hrow, hkey⟩
  · rintro ⟨hrow, hkey⟩
    exact ⟨row, hrow, key, hkey, rfl, rfl⟩

/-! ### Conditions on a row -/

/-- What is compared: a column, or the value of a placeholder. -/
inductive Operand where
  | column (c : TagColumn)
  | placeholder (n : Nat)

/-- The text of what is compared. -/
def Operand.text : Operand → String
  | column c => c.text
  | placeholder n => "$" ++ n.repr

/-- The value of what is compared, at a row. -/
def Operand.value? (bound : List Value) (row : TagRow κ) : Operand → Option Value
  | column c => c.value? row
  | placeholder n => numbered? bound n

/-- Whether two values of one type are equal.  Null is neither equal to anything nor different. -/
def equalValues : Option Value → Option Value → Truth
  | some x, some y => .ofBool (x = y)
  | _, _ => .unknown

/-- Two values are equal if there is a value that both of them are. -/
theorem equalValues_eq_yes_iff {x y : Option Value} :
    equalValues x y = .yes ↔ ∃ v, x = some v ∧ y = some v := by
  cases x with
  | none => simp [equalValues]
  | some x =>
    cases y with
    | none => simp [equalValues]
    | some y =>
      rw [equalValues, Truth.ofBool_eq_yes_iff, decide_eq_true_eq]
      constructor
      · rintro rfl
        exact ⟨x, rfl, rfl⟩
      · rintro ⟨v, hx, hy⟩
        exact Option.some.inj (hx.trans hy.symm)

/-- A condition on a row. -/
inductive RowTest where
  | isNull (c : TagColumn)
  | equals (x y : Operand)
  | isIn (x : Operand) (ys : List Operand)
  | or (p q : RowTest)
  | and (p q : RowTest)

namespace RowTest

/-- The SQL of a condition. -/
def text : RowTest → String
  | isNull c => c.text ++ " IS NULL"
  | equals x y => x.text ++ " = " ++ y.text
  | isIn x ys => x.text ++ " IN (" ++ ", ".intercalate (ys.map Operand.text) ++ ")"
  | or p q => "(" ++ p.text ++ " OR " ++ q.text ++ ")"
  | and p q => p.text ++ " AND " ++ q.text

/-- The value of a condition at a row.  To be in a list is to be equal to one of its items. -/
def truth (bound : List Value) (row : TagRow κ) : RowTest → Truth
  | isNull c => .ofBool (c.value? row).isNone
  | equals x y => equalValues (x.value? bound row) (y.value? bound row)
  | isIn x ys => .any (ys.map fun y => equalValues (x.value? bound row) (y.value? bound row))
  | or p q => (p.truth bound row).or (q.truth bound row)
  | and p q => (p.truth bound row).and (q.truth bound row)

end RowTest

/-! ### Groups -/

/-- The number of different values that a column has at the rows.  Null does not count. -/
def TagColumn.countDistinct (c : TagColumn) (rows : List (TagRow κ)) : Nat :=
  (rows.filterMap c.value?).dedup.length

/-- A tag is counted once, in however many of the rows it is. -/
theorem TagColumn.countDistinct_tag (rows : List (TagRow κ)) :
    tag.countDistinct rows = (rows.map TagRow.tag).dedup.length := by
  -- a tag is never null, and different tags are different values
  have hvalues : rows.filterMap tag.value? = (rows.map TagRow.tag).map Value.text := by
    rw [List.map_map]
    exact congrFun List.filterMap_eq_map' rows
  have hinjective : Function.Injective Value.text := fun _ _ => Value.text.inj
  rw [countDistinct, hvalues, List.dedup_map_of_injective hinjective, List.length_map]

/-- A query for the keys of the rows that pass a condition, grouped by key.  A group is kept if the
    number of different values of a column is the value of a placeholder. -/
structure GroupedKeys where
  test : RowTest
  counted : TagColumn
  number : Nat

namespace GroupedKeys

variable (q : GroupedKeys)

/-- The SQL of the query. -/
def text : String :=
  "SELECT t0.\"key\" FROM entry_tag, unnest(entry_tag.\"entry\") AS t0(\"key\") WHERE " ++
  q.test.text ++ " GROUP BY t0.\"key\" HAVING COUNT(DISTINCT " ++ q.counted.text ++ ") = $" ++
  q.number.repr

/-- The SQL of the condition that a key set contains all keys of the query. -/
def membershipText (keys : String) : String :=
  keys ++ " @> (SELECT array_agg(t1.\"key\") FROM (" ++ q.text ++ ") t1)"

variable (bound : List Value) (rows : List (TagRow κ))

/-- The rows that pass, each with one of its keys. -/
def passing : List (TagRow κ × κ) :=
  (TagRow.unnested rows).filter fun p => q.test.truth bound p.1 = .yes

variable [DecidableEq κ]

/-- The rows of the group of a key. -/
def group (key : κ) : List (TagRow κ) :=
  ((q.passing bound rows).filter fun p => p.2 = key).map Prod.fst

/-- The keys that are kept, one for each group. -/
def keys : List κ :=
  ((q.passing bound rows).map Prod.snd).dedup.filter fun key =>
    equalValues (some (.bigInt (q.counted.countDistinct (q.group bound rows key))))
      (numbered? bound q.number) = .yes

end GroupedKeys

/-- The array of several values; of no values it is null. -/
def arrayAgg? (keys : List κ) : Option (List κ) := if keys.isEmpty then none else some keys

variable [DecidableEq κ]

/-- Whether an array contains all elements of another.  Nothing is known about null. -/
def containsAll (array : List κ) : Option (List κ) → Truth
  | some keys => .ofBool (keys.all (· ∈ array))
  | none => .unknown

/-- It is true that an array contains those of several values if there are any, and all of them are
    in the array. -/
theorem containsAll_arrayAgg?_eq_yes_iff {array keys : List κ} :
    containsAll array (arrayAgg? keys) = .yes ↔
      (∃ key, key ∈ keys) ∧ ∀ key ∈ keys, key ∈ array := by
  cases keys with
  | nil => simp [arrayAgg?, containsAll]
  | cons key keys => simp [arrayAgg?, containsAll, Truth.ofBool_eq_yes_iff, -List.all_cons]

namespace GroupedKeys

variable {q : GroupedKeys} {bound : List Value} {rows : List (TagRow κ)} {key : κ}

/-- The value of the condition that a key set contains all keys of the query. -/
def truth (q : GroupedKeys) (bound : List Value) (rows : List (TagRow κ)) (keySet : List κ) :
    Truth :=
  containsAll keySet (arrayAgg? (q.keys bound rows))

/-- The group of a key has the rows with the key that pass. -/
theorem mem_group {row : TagRow κ} :
    row ∈ q.group bound rows key ↔
      row ∈ rows ∧ key ∈ row.keys ∧ q.test.truth bound row = .yes := by
  rw [group, List.mem_map]
  constructor
  · -- a row is unnested, tested, and put into the group of its key
    rintro ⟨⟨row, k⟩, hmem, rfl⟩
    obtain ⟨hpassing, hkey⟩ := List.mem_filter.1 hmem
    obtain ⟨hunnested, htest⟩ := List.mem_filter.1 hpassing
    obtain rfl : k = key := by simpa using hkey
    obtain ⟨hrow, hk⟩ := TagRow.mem_unnested.1 hunnested
    exact ⟨hrow, hk, by simpa using htest⟩
  · rintro ⟨hrow, hkey, htest⟩
    refine ⟨(row, key), List.mem_filter.2 ⟨List.mem_filter.2 ⟨?_, ?_⟩, ?_⟩, rfl⟩
    · exact TagRow.mem_unnested.2 ⟨hrow, hkey⟩
    · simpa using htest
    · simp

/-- A key is kept if its group has a row, and as many different values as are asked for. -/
theorem mem_keys :
    key ∈ q.keys bound rows ↔
      (∃ row, row ∈ q.group bound rows key) ∧
        numbered? bound q.number =
          some (.bigInt (q.counted.countDistinct (q.group bound rows key))) := by
  -- a key is that of a row that passes exactly if its group is not empty
  have hgroup : key ∈ (q.passing bound rows).map Prod.snd ↔ ∃ row, row ∈ q.group bound rows key := by
    simp [group]
  rw [keys, List.mem_filter, List.mem_dedup, hgroup, decide_eq_true_eq, equalValues_eq_yes_iff]
  refine and_congr_right fun _ => ?_
  constructor
  · rintro ⟨v, hv, hnumber⟩
    rw [hnumber, hv]
  · intro hnumber
    exact ⟨_, rfl, hnumber⟩

end GroupedKeys

end FieldSearch.Sql
