import FieldSearch.Proofs.Sql.Criteria
import FieldSearch.Proofs.Sql.TagTable
import Mathlib.Data.List.Perm.Subperm

namespace FieldSearch

open Sql

/-!
# Keys that carry all tags of a filter

The tag membership counts the different tags in the group of a key.  A key carries all tags of a
filter exactly if there are as many as the filter has: no other tags pass, and none is counted
twice, however often it is in the table.

* `GroupedKeys.ofTags` is the subquery, and `TaggedKeys.textFrom_template` says that it is what
  stands in the membership, wherever its placeholders begin;
* `TagFilter.BoundFrom` says what the placeholders are bound to, and `TagFilter.boundFrom_append`
  that they are, between the other values of a statement;
* `TagFilter.IsCarried` says that a key carries all tags, and `TagFilter.BoundFrom.mem_keys` that
  these are the keys that the subquery keeps;
* `tagMembership_demands_all` puts the text, the values and the meaning together.
-/

/-! ### The subquery -/

namespace Sql

/-- The query for the keys that carry all of `count` tags.  Its placeholders begin with the number
    `first`: the user, the tags, and their number. -/
def GroupedKeys.ofTags (first count : Nat) : GroupedKeys where
  test :=
    .and (.or (.isNull .userId) (.equals (.column .userId) (.placeholder first)))
      (.isIn (.column .tag) ((List.range' (first + 1) count).map .placeholder))
  counted := .tag
  number := first + 1 + count

/-- The text of the places of a tag membership is that of the query. -/
theorem TaggedKeys.textFrom_template (keys : String) (q : TaggedKeys) (n : Nat) :
    (q.template keys).textFrom n = (GroupedKeys.ofTags n q.tags.length).membershipText keys := by
  have hlist : ", ".intercalate (((List.range' (n + 1) q.tags.length).map
      Operand.placeholder).map Operand.text) = referenceList (n + 1) q.tags.length := by
    rw [List.map_map]
    rfl
  unfold template GroupedKeys.membershipText GroupedKeys.text GroupedKeys.ofTags
  simp only [Template.textFrom_append, Template.textFrom_listed, Template.textFrom,
    Template.values_append, Template.values_text, Template.values_bind, Template.values_nil,
    Template.values_listed, List.length_append, List.length_cons, List.length_nil, List.length_map,
    Nat.zero_add, RowTest.text, Operand.text, TagColumn.text, hlist, String.append_assoc,
    String.append_empty]
  -- the two are cut at different places, and only their characters agree
  apply String.toList_inj.1
  simp [Nat.add_assoc]

/-- The query for two tags, in a statement whose first placeholder is the owner. -/
example : (GroupedKeys.ofTags 2 2).membershipText Extra.keys =
    "extra.\"entry\" @> (SELECT array_agg(t1.\"key\") FROM (SELECT t0.\"key\" " ++
    "FROM entry_tag, unnest(entry_tag.\"entry\") AS t0(\"key\") " ++
    "WHERE (entry_tag.\"userId\" IS NULL OR entry_tag.\"userId\" = $2) " ++
    "AND entry_tag.\"tag\" IN ($3, $4) " ++
    "GROUP BY t0.\"key\" HAVING COUNT(DISTINCT entry_tag.\"tag\") = $5) t1)" := by
  decide +kernel

/-- Between other values, a value is bound to the number behind those of the values before it. -/
theorem numbered?_between (before after : List Value) {vs : List Value} {i : Nat}
    (hi : i < vs.length) :
    numbered? (before ++ vs ++ after) (before.length + 1 + i) = vs[i]? := by
  have hsucc : before.length + 1 + i = before.length + i + 1 := by omega
  rw [hsucc, numbered?, List.append_assoc, List.getElem?_append_right (by omega),
    Nat.add_sub_cancel_left, List.getElem?_append_left hi]

end Sql

namespace TagFilter

variable (filter : TagFilter)

/-- The values of the tag membership: the user, the tags in ascending order, and their number. -/
def values : List Value :=
  .text filter.user :: filter.tags.toList.map .text ++ [.bigInt filter.tags.size]

/-- What is handed over for the tag membership: the text of the query with placeholders from the
    first on, and the values. -/
theorem tagMembership_eq (keys : String) :
    tagMembership filter keys =
      .custom (Fragment.template
        ⟨(GroupedKeys.ofTags 1 filter.tags.size).membershipText keys, filter.values⟩) := by
  have htext := TaggedKeys.text_template keys (.ofFilter filter)
  rw [Template.text, TaggedKeys.textFrom_template] at htext
  show Atom.custom (Fragment.template ⟨_, (TaggedKeys.ofFilter filter).values⟩) = _
  -- the two texts are the same, with the placeholders numbered from 1
  rw [← htext]
  rfl

/-- What is written for the tag membership, in a statement with placeholders before it. -/
theorem textFrom_tagMembership {keys : String} (h : IsPlain (keys ++ " @> (").toList) (n : Nat) :
    (tagMembership filter keys).template.textFrom n =
      (GroupedKeys.ofTags n filter.tags.size).membershipText keys := by
  rw [Template.textFrom_eq_of_shape_eq (alike_tagMembership h filter).shape n,
    TaggedKeys.textFrom_template]
  rfl

/-- The values of the filter are bound for the tag membership. -/
theorem values_tagMembership {keys : String} (h : IsPlain (keys ++ " @> (").toList) :
    (tagMembership filter keys).template.values = filter.values := by
  rw [(alike_tagMembership h filter).values, TaggedKeys.values_template]
  rfl

/-! ### The values -/

/-- The placeholders from the number `first` on are bound to the user, to the tags, each of them
    once and in ascending order, and to their number. -/
structure BoundFrom (first : Nat) (bound : List Value) : Prop where
  user : numbered? bound first = some (.text filter.user)
  tags : (List.range' (first + 1) filter.tags.size).map (numbered? bound) =
    filter.tags.toList.map fun tag => some (.text tag)
  ascending : filter.tags.toList.Pairwise (· < ·)
  number : numbered? bound (first + 1 + filter.tags.size) = some (.bigInt filter.tags.size)

/-- Between other values the values of a tag membership are bound to the placeholders that begin
    where the values before them end. -/
theorem boundFrom_append (before after : List Value) :
    filter.BoundFrom (before.length + 1) (before ++ filter.values ++ after) := by
  have hlength : filter.values.length = filter.tags.size + 2 := by
    simp [values, TagSet.size]
  have hbound (i : Nat) (hi : i < filter.tags.size + 2) :
      numbered? (before ++ filter.values ++ after) (before.length + 1 + i) = filter.values[i]? :=
    numbered?_between before after (hlength ▸ hi)
  -- the tags and their number stand behind the user
  have hbehind (i : Nat) : before.length + 1 + 1 + i = before.length + 1 + (i + 1) := by omega
  refine ⟨hbound 0 (by omega), ?_, filter.tags.ascending, ?_⟩
  · apply List.ext_getElem
    · simp [TagSet.size]
    · intro i hi hi'
      have htag : i < (filter.tags.toList.map Value.text).length := by simpa using hi'
      have hsize : i < filter.tags.size := by simpa using hi
      rw [List.getElem_map, List.getElem_map, List.getElem_range', Nat.one_mul, hbehind,
        hbound (i + 1) (by omega)]
      show (filter.tags.toList.map Value.text ++ [.bigInt filter.tags.size])[i]? = _
      rw [List.getElem?_append_left htag, List.getElem?_eq_getElem htag, List.getElem_map]
  · rw [hbehind, hbound (filter.tags.size + 1) (by omega)]
    simp [values, TagSet.size]

end TagFilter

/-! ### Counting -/

/-- A list with elements of another list only has as many different ones as that has, which has none
    twice, exactly if it has all of them. -/
theorem length_dedup_eq_iff {α : Type} [DecidableEq α] {xs ys : List α} (hys : ys.Nodup)
    (h : xs ⊆ ys) : xs.dedup.length = ys.length ↔ ys ⊆ xs := by
  -- the different elements are among those of the other list, each of them once
  have hsub : xs.dedup.Subperm ys :=
    (List.nodup_dedup xs).subperm fun x hx => h (List.mem_dedup.1 hx)
  constructor
  · intro hlength y hy
    have hperm := hsub.perm_of_length_le hlength.ge
    exact List.mem_dedup.1 (hperm.mem_iff.2 hy)
  · intro hback
    have hsub' : ys.Subperm xs.dedup := hys.subperm fun y hy => List.mem_dedup.2 (hback hy)
    exact Nat.le_antisymm hsub.length_le hsub'.length_le

/-- A set lists each of its elements once. -/
theorem TagSet.nodup_toList (s : TagSet) : s.toList.Nodup := by
  refine s.ascending.imp ?_
  rintro x y hlt rfl
  exact String.lt_irrefl x hlt

/-! ### The meaning -/

variable {κ : Type}

/-- A key carries every tag of a filter: for each of them there is a row with the tag that has the
    key, and belongs to the filter's user or to nobody. -/
def TagFilter.IsCarried (filter : TagFilter) (rows : List (TagRow κ)) (key : κ) : Prop :=
  ∀ tag ∈ filter.tags, ∃ row ∈ rows,
    (row.owner? = none ∨ row.owner? = some filter.user) ∧ row.tag = tag ∧ key ∈ row.keys

namespace TagFilter.BoundFrom

variable {filter : TagFilter} {first : Nat} {bound : List Value} (h : filter.BoundFrom first bound)

include h

/-- The rows that pass are those with a tag of the filter that belong to its user or to nobody. -/
theorem truth_test (row : TagRow κ) :
    (GroupedKeys.ofTags first filter.tags.size).test.truth bound row = .yes ↔
      (row.owner? = none ∨ row.owner? = some filter.user) ∧ row.tag ∈ filter.tags := by
  show ((Truth.ofBool (row.owner?.map Value.text).isNone).or
      (equalValues (row.owner?.map .text) (numbered? bound first))).and
    (.any (((List.range' (first + 1) filter.tags.size).map Operand.placeholder).map fun y =>
      equalValues (some (.text row.tag)) (y.value? bound row))) = .yes ↔ _
  -- a tag is compared with what the placeholders of the list are bound to, one by one
  have hitems : (((List.range' (first + 1) filter.tags.size).map Operand.placeholder).map fun y =>
      equalValues (some (.text row.tag)) (y.value? bound row)) =
        filter.tags.toList.map fun tag =>
          equalValues (some (.text row.tag)) (some (.text tag)) := by
    have hmap := congrArg (List.map (equalValues (some (.text row.tag)))) h.tags
    rw [List.map_map, List.map_map] at hmap
    rw [List.map_map]
    exact hmap
  rw [hitems, Truth.and_eq_yes_iff, Truth.or_eq_yes_iff, Truth.ofBool_eq_yes_iff,
    Truth.any_eq_yes_iff, h.user]
  refine and_congr (or_congr ?_ ?_) ?_
  · simp
  · simp [equalValues_eq_yes_iff]
  · simp [equalValues_eq_yes_iff, TagSet.mem_iff]

/-- The group of a key has rows with tags of the filter only. -/
theorem mem_group [DecidableEq κ] {rows : List (TagRow κ)} {key : κ} {row : TagRow κ} :
    row ∈ (GroupedKeys.ofTags first filter.tags.size).group bound rows key ↔
      row ∈ rows ∧ key ∈ row.keys ∧
        (row.owner? = none ∨ row.owner? = some filter.user) ∧ row.tag ∈ filter.tags := by
  rw [GroupedKeys.mem_group, h.truth_test]

/-- The different tags in the group of a key are as many as the filter has exactly if the key carries
    all of these. -/
theorem countDistinct_group_eq_iff [DecidableEq κ] {rows : List (TagRow κ)} {key : κ} :
    TagColumn.tag.countDistinct
        ((GroupedKeys.ofTags first filter.tags.size).group bound rows key) = filter.tags.size ↔
      filter.IsCarried rows key := by
  have hmem (row : TagRow κ) :
      row ∈ (GroupedKeys.ofTags first filter.tags.size).group bound rows key ↔ _ := h.mem_group
  generalize (GroupedKeys.ofTags first filter.tags.size).group bound rows key = group at hmem ⊢
  -- no other tags have passed
  have hsub : group.map TagRow.tag ⊆ filter.tags.toList := by
    intro tag htag
    obtain ⟨row, hrow, rfl⟩ := List.mem_map.1 htag
    obtain ⟨-, -, -, hpassed⟩ := (hmem row).1 hrow
    exact hpassed
  rw [TagColumn.countDistinct_tag, TagSet.size, length_dedup_eq_iff filter.tags.nodup_toList hsub]
  constructor
  · intro hall tag htag
    obtain ⟨row, hrow, rfl⟩ := List.mem_map.1 (hall htag)
    obtain ⟨hrows, hkey, howner, -⟩ := (hmem row).1 hrow
    exact ⟨row, hrows, howner, rfl, hkey⟩
  · intro hcarried tag htag
    obtain ⟨row, hrow, howner, rfl, hkey⟩ := hcarried tag htag
    exact List.mem_map_of_mem ((hmem row).2 ⟨hrow, hkey, howner, htag⟩)

/-- **The subquery keeps the keys that carry all tags**, if there are tags. -/
theorem mem_keys [DecidableEq κ] {rows : List (TagRow κ)} {key : κ}
    (hne : filter.tags.isEmpty = false) :
    key ∈ (GroupedKeys.ofTags first filter.tags.size).keys bound rows ↔
      filter.IsCarried rows key := by
  have hcount : numbered? bound (first + 1 + filter.tags.size) =
      some (.bigInt (TagColumn.tag.countDistinct
        ((GroupedKeys.ofTags first filter.tags.size).group bound rows key))) ↔
      filter.IsCarried rows key := by
    rw [h.number, Option.some.injEq, Value.bigInt.injEq, Int.natCast_inj, eq_comm,
      h.countDistinct_group_eq_iff]
  rw [GroupedKeys.mem_keys]
  refine (and_congr_right fun _ => hcount).trans (and_iff_right_of_imp fun hcarried => ?_)
  -- there is a row for any of the tags, and so there is one in the group
  obtain ⟨tag, htag⟩ : ∃ tag, tag ∈ filter.tags.toList :=
    List.exists_mem_of_ne_nil _ (by simpa [TagSet.isEmpty] using hne)
  obtain ⟨row, hrow, howner, rfl, hkey⟩ := hcarried tag htag
  exact ⟨row, h.mem_group.2 ⟨hrow, hkey, howner, htag⟩⟩

/-- It is true that a key set contains what the subquery keeps if there is a key that carries all
    tags, and all of these keys are in the set. -/
theorem truth_eq_yes_iff [DecidableEq κ] {rows : List (TagRow κ)} {keySet : List κ}
    (hne : filter.tags.isEmpty = false) :
    (GroupedKeys.ofTags first filter.tags.size).truth bound rows keySet = .yes ↔
      (∃ key, filter.IsCarried rows key) ∧ ∀ key, filter.IsCarried rows key → key ∈ keySet := by
  rw [GroupedKeys.truth, containsAll_arrayAgg?_eq_yes_iff]
  simp only [h.mem_keys hne]

end TagFilter.BoundFrom

/-- **The tag membership demands all tags.**  Let a filter have tags.

    * What is handed over is the text of the subquery with placeholders from the first on, and the
      values of the filter.  What is written for a plain key set has the placeholders where its
      values stand in the statement.
    * Between any other values, the placeholders are bound to the user, to the tags in ascending
      order, and to their number.
    * For any table of tags and any key set, the condition is true exactly if there is a key that
      carries all tags, and all of these keys are in the key set. -/
theorem tagMembership_demands_all {filter : TagFilter} (hne : filter.tags.isEmpty = false) :
    (∀ keys, tagMembership filter keys =
      .custom (Fragment.template
        ⟨(GroupedKeys.ofTags 1 filter.tags.size).membershipText keys, filter.values⟩)) ∧
    (∀ keys, IsPlain (keys ++ " @> (").toList →
      (tagMembership filter keys).template.values = filter.values ∧
      ∀ n, (tagMembership filter keys).template.textFrom n =
        (GroupedKeys.ofTags n filter.tags.size).membershipText keys) ∧
    ∀ before after : List Value,
      filter.BoundFrom (before.length + 1) (before ++ filter.values ++ after) ∧
      ∀ {κ : Type} [DecidableEq κ] (rows : List (TagRow κ)) (keySet : List κ),
        (GroupedKeys.ofTags (before.length + 1) filter.tags.size).truth
            (before ++ filter.values ++ after) rows keySet = .yes ↔
          (∃ key, filter.IsCarried rows key) ∧
            ∀ key, filter.IsCarried rows key → key ∈ keySet := by
  refine ⟨filter.tagMembership_eq, fun keys hkeys => ?_, fun before after => ?_⟩
  · exact ⟨filter.values_tagMembership hkeys, filter.textFrom_tagMembership hkeys⟩
  · have hbound := filter.boundFrom_append before after
    exact ⟨hbound, fun rows keySet => hbound.truth_eq_yes_iff hne⟩

/-- A key that is in two rows of a tag, or twice in one row, is counted once, and a row of another
    user does not count: of the two keys only one carries both tags. -/
theorem tagMembership_demands_all_overlapping :
    let filter : TagFilter := ⟨"u", .ofList ["b", "a", "b"]⟩
    let rows : List (TagRow String) :=
      [⟨none, "a", ["水", "火", "水"]⟩, ⟨some "u", "a", ["水"]⟩, ⟨some "u", "b", ["水"]⟩,
       ⟨some "u", "b", ["水"]⟩, ⟨some "v", "b", ["火"]⟩]
    filter.tags.isEmpty = false ∧ filter.values = [.text "u", .text "a", .text "b", .bigInt 2] ∧
      (∀ keys ∈ [Extra.keys, Library.keys],
        (tagMembership filter keys).template.textFrom 2 =
          (GroupedKeys.ofTags 2 2).membershipText keys) ∧
      (GroupedKeys.ofTags 2 2).truth (.text "owner" :: filter.values) rows ["山", "水"] = .yes ∧
      (∃ key, filter.IsCarried rows key) ∧
      ∀ key, filter.IsCarried rows key → key ∈ ["山", "水"] := by
  intro filter rows
  have hne : filter.tags.isEmpty = false := by decide +kernel
  have htruth : (GroupedKeys.ofTags 2 2).truth (.text "owner" :: filter.values) rows
      ["山", "水"] = .yes := by
    decide +kernel
  obtain ⟨-, hwritten, hmeaning⟩ := tagMembership_demands_all hne
  refine ⟨hne, by decide +kernel, fun keys hkeys => ?_, htruth, ?_⟩
  · exact (hwritten keys (isPlain_keys keys hkeys)).2 2
  · exact ((hmeaning [.text "owner"] []).2 rows ["山", "水"]).1 htruth

end FieldSearch
