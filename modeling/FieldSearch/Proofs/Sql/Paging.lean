import FieldSearch.Proofs.Sql.Statements

namespace FieldSearch

open Sql

/-!
# Pages of the rows that are counted

A page is taken from the very rows that are counted: two statements that are written apart have one
text for them, with the same numbers for the same values.

* `Select.rowsOn` is the text of a statement from its first ` FROM ` on;
* `Select.PagesOf` says that one statement has a page of the rows that another one counts, by the
  texts and the values of the two;
* `Select.pagesOf` says what this takes of their clauses, and `select_pagesOf_count` concludes it
  for both entities.
-/

namespace Sql

/-- The text from the first place on where a mark stands. -/
def fromFirst (mark : List Char) : List Char → List Char
  | [] => []
  | c :: cs => if mark.isPrefixOf (c :: cs) then c :: cs else fromFirst mark cs

/-- A mark that stands right behind a text, and not before, is the first one, whatever follows. -/
theorem fromFirst_append {mark : List Char} (hne : mark ≠ []) (rest : List Char)
    {head : List Char} (h : fromFirst mark (head ++ mark) = mark) :
    fromFirst mark (head ++ (mark ++ rest)) = mark ++ rest := by
  induction head with
  | nil =>
    obtain ⟨c, cs, rfl⟩ := List.exists_cons_of_ne_nil hne
    have hpre : (c :: cs).isPrefixOf (c :: cs ++ rest) = true :=
      List.isPrefixOf_iff_prefix.2 (List.prefix_append _ _)
    rw [List.nil_append, List.cons_append, fromFirst]
    exact if_pos hpre
  | cons c cs ih =>
    rw [List.cons_append, fromFirst] at h
    split at h
    · -- the mark would be shorter than itself
      have hlength := congrArg List.length h
      simp only [List.length_cons, List.length_append] at hlength
      omega
    · rename_i hmark
      rw [List.cons_append, fromFirst, if_neg, ih h]
      -- where the mark begins in the text in front, it ends within the mark behind it
      rw [List.isPrefixOf_iff_prefix] at hmark ⊢
      intro hpre
      refine hmark (List.prefix_of_prefix_length_le hpre ⟨rest, by simp⟩ ?_)
      simp only [List.length_cons, List.length_append]
      omega

namespace Select

/-- The text of a statement from its first ` FROM ` on. -/
def rowsOn (s : Select) : String := String.ofList (fromFirst " FROM ".toList s.text.toList)

/-- The statement `s` has a page of the rows that `count` counts, in an order. -/
structure PagesOf (s count : Select) (order : String) (page : Page) : Prop where
  /-- From its first ` FROM ` on, what counts the rows ends with its condition, and the last
      placeholder of the condition is for the last value. -/
  counted : ∃ tables clause : String, count.rowsOn = " FROM " ++ tables ++ " WHERE " ++ clause ∧
    (∃ c n, count.filter? = some c ∧ clause = c.template.textFrom n) ∧
    (placeholders clause.toList).getLast? = some (Nat.toDigits 10 count.values.length)
  /-- From its first ` FROM ` on, the page is what counts the rows, with an order and two more
      placeholders behind it. -/
  text_eq : s.rowsOn = count.rowsOn ++ order ++
    " LIMIT $" ++ (count.values.length + 1).repr ++ " OFFSET $" ++ (count.values.length + 2).repr
  /-- The two placeholders are for the limit and the offset of the page. -/
  values_eq : s.values = count.values ++ [.bigUnsigned page.limit, .bigUnsigned page.offset]

/-- Whether ` FROM ` does not stand in what is selected. -/
def IsApart (s : Select) : Prop :=
  fromFirst " FROM ".toList (number 1 s.heading.shape ++ " FROM ".toList) = " FROM ".toList

instance (s : Select) : Decidable s.IsApart :=
  inferInstanceAs (Decidable (fromFirst _ _ = _))

end Select

/-- Fixed text is the same from whatever number placeholders are counted. -/
theorem Template.textFrom_of_isFixed {t : Template} (h : ∀ p ∈ t, p.IsFixed) (n : Nat) :
    t.textFrom n = t.text := by
  rw [text]
  induction t with
  | nil => rfl
  | cons p t ih =>
    cases p with
    | text s => rw [textFrom, textFrom, ih fun q hq => h q (List.mem_cons_of_mem _ hq)]
    | bind v => exact (h _ List.mem_cons_self).elim

/-! ### The text of the rows -/

namespace Select

/-- The text of the rows is that of their clauses. -/
theorem textFrom_rows {s : Select} {table : String} {c : Condition}
    (htable : s.table? = some table) (hfilter : s.filter? = some c) (n : Nat) :
    s.rows.textFrom n =
      " FROM " ++ (quoteName table ++ s.joined.textFrom n) ++ " WHERE " ++
        c.template.textFrom (n + s.joined.values.length) := by
  have hfrom : s.fromTable = [.text (" FROM " ++ quoteName table)] := by rw [fromTable, htable]
  have hfiltered : s.filtered = .text " WHERE " :: c.template := by rw [filtered, hfilter]
  rw [rows, hfrom, hfiltered]
  simp [Template.textFrom_append, Template.textFrom, String.append_assoc]

/-- The rows bind what their join and their condition bind. -/
theorem values_rows {s : Select} {table : String} {c : Condition}
    (htable : s.table? = some table) (hfilter : s.filter? = some c) :
    s.rows.values = s.joined.values ++ c.template.values := by
  rw [rows, fromTable, htable, filtered, hfilter]
  simp

/-- What is selected binds nothing and does not name ` FROM `, so that the rows come first. -/
theorem rowsOn_eq {s : Select} (hs : s.IsFixed) (hapart : s.IsApart) {rest : String}
    (hrows : s.rows.textFrom 1 = " FROM " ++ rest) :
    s.rowsOn = s.rows.textFrom 1 ++ s.ending.textFrom (1 + s.rows.values.length) := by
  -- the placeholders of the rows are the first of the statement
  have hheading : s.heading.values = [] :=
    Template.values_of_isFixed fun p hp => hs p (by simp [hp])
  have htext : s.text = s.heading.text ++ (" FROM " ++ (rest ++
      s.ending.textFrom (1 + s.rows.values.length))) := by
    rw [text, Template.text, template, Template.textFrom_append, Template.textFrom_append,
      Template.values_append, hheading, List.nil_append, List.length_nil, Nat.add_zero, hrows,
      String.append_assoc, String.append_assoc]
    rfl
  rw [rowsOn, htext, String.toList_append, String.toList_append, Template.text,
    Template.toList_textFrom, fromFirst_append (by decide) _ hapart, ← String.toList_append,
    String.ofList_toList, hrows, String.append_assoc]

/-- A statement binds what its rows and its page bind. -/
theorem values_eq_rows {s : Select} (hs : s.IsFixed) :
    s.values = s.rows.values ++ s.paged.values := by
  -- what is selected and the order are fixed text
  have hheading : s.heading.values = [] :=
    Template.values_of_isFixed fun p hp => hs p (by simp [hp])
  have hordered : s.ordered.values = [] :=
    Template.values_of_isFixed fun p hp => hs p (by simp [hp])
  rw [values, template, ending]
  simp [hheading, hordered]

/-- The text of the order and the page has two placeholders, for the limit and the offset. -/
theorem textFrom_ending {s : Select} {page : Page} (hs : s.IsFixed) (hpage : s.page? = some page)
    (n : Nat) : s.ending.textFrom n =
      s.ordered.text ++ " LIMIT $" ++ n.repr ++ " OFFSET $" ++ (n + 1).repr := by
  have hordered : ∀ p ∈ s.ordered, p.IsFixed := fun p hp => hs p (by simp [hp])
  have hlimit : " LIMIT $" = " LIMIT " ++ "$" := rfl
  have hoffset : " OFFSET $" = " OFFSET " ++ "$" := rfl
  rw [ending, Template.textFrom_append, Template.values_of_isFixed hordered,
    Template.textFrom_of_isFixed hordered n, paged, hpage]
  simp only [Template.textFrom, String.append_assoc, String.append_empty, List.length_nil,
    Nat.add_zero]
  rw [hlimit, hoffset, String.append_assoc, String.append_assoc]

/-- The placeholders of a condition are numbered from the first one on. -/
theorem getLast?_placeholders {c : Condition} (hatoms : ∀ a ∈ c.atoms, Tidy a.template.shape)
    (hne : c.template.values ≠ []) (n : Nat) :
    (placeholders (c.template.textFrom (n + 1)).toList).getLast? =
      some (Nat.toDigits 10 (n + c.template.values.length)) := by
  have htidy := Condition.tidy_template hatoms
  -- there is a last placeholder, as the condition binds a value
  have hlength := List.length_pos_of_ne_nil hne
  rw [Template.toList_textFrom, placeholders_number _ htidy.dollar_notMem htidy.endsNumber_next,
    Template.count_shape, List.getLast?_map, List.getLast?_range', if_neg (by omega),
    Option.map_some]
  congr 2
  omega

/-- A statement that has the rows of another one, and an order and a page behind them, has a page of
    these rows. -/
theorem pagesOf {s count : Select} {table order : String} {c : Condition} {page : Page}
    (hs : s.IsFixed) (hapart : s.IsApart) (hcount : count.IsFixed) (hcapart : count.IsApart)
    (htable : count.table? = some table) (hfilter : count.filter? = some c)
    (hatoms : ∀ a ∈ c.atoms, Tidy a.template.shape) (hne : c.template.values ≠ [])
    (hrows : s.rows = count.rows) (hending : count.ending = [])
    (horder : s.ordered.text = order) (hpage : s.page? = some page) :
    s.PagesOf count order page := by
  have htext := textFrom_rows htable hfilter 1
  have hfrom : count.rows.textFrom 1 = " FROM " ++ (quoteName table ++ count.joined.textFrom 1 ++
      (" WHERE " ++ c.template.textFrom (1 + count.joined.values.length))) := by
    rw [htext, String.append_assoc, String.append_assoc]
  -- what counts the rows binds nothing behind them
  have hpaged : count.paged = [] := (List.append_eq_nil_iff.1 hending).2
  have hvalues : count.values = count.rows.values := by
    rw [values_eq_rows hcount, hpaged, Template.values_nil, List.append_nil]
  have hcounted : count.rowsOn = count.rows.textFrom 1 := by
    rw [rowsOn_eq hcount hcapart hfrom, hending, Template.textFrom, String.append_empty]
  -- the condition stands behind the placeholders of the join
  have hlength : count.values.length = count.joined.values.length + c.template.values.length := by
    rw [hvalues, values_rows htable hfilter, List.length_append]
  refine ⟨⟨quoteName table ++ count.joined.textFrom 1,
    c.template.textFrom (1 + count.joined.values.length), by rw [hcounted, htext],
    ⟨c, _, hfilter, rfl⟩, ?_⟩, ?_, ?_⟩
  · rw [hlength, Nat.add_comm 1]
    exact getLast?_placeholders hatoms hne _
  · rw [rowsOn_eq hs hapart (hrows ▸ hfrom), hrows, ← hcounted, ← hvalues,
      textFrom_ending hs hpage, horder, Nat.add_comm 1]
    simp only [String.append_assoc]
  · rw [values_eq_rows hs, hrows, ← hvalues, paged, hpage]
    rfl

end Select

end Sql

/-! ### Both entities -/

/-- There is no ` FROM ` in what is selected of an entry. -/
theorem Extra.isApart_select (q : CompiledQuery Extra) (user : String) (page : Page) :
    (select q user page).IsApart := by
  show (select {} "" .first).IsApart
  decide +kernel

/-- There is no ` FROM ` in what is selected for the number of entries. -/
theorem Extra.isApart_count (q : CompiledQuery Extra) (user : String) :
    (count q user).IsApart := by
  show (count {} "").IsApart
  decide +kernel

/-- Entries are ordered by the time of their last change, and then by their identifier. -/
theorem Extra.text_ordered (q : CompiledQuery Extra) (user : String) (page : Page) :
    (select q user page).ordered.text =
      " ORDER BY \"extra\".\"updatedAt\" DESC, \"extra\".\"id\" ASC" := by
  show (select {} "" .first).ordered.text = _
  decide +kernel

/-- There is no ` FROM ` in what is selected of a collection. -/
theorem Library.isApart_select (q : CompiledQuery Library) (user : String) (page : Page) :
    (select q user page).IsApart := by
  show (select {} "" .first).IsApart
  decide +kernel

/-- There is no ` FROM ` in what is selected for the number of collections. -/
theorem Library.isApart_count (q : CompiledQuery Library) (user : String) :
    (count q user).IsApart := by
  show (count {} "").IsApart
  decide +kernel

/-- Collections are ordered by the time of their last change. -/
theorem Library.text_ordered (q : CompiledQuery Library) (user : String) (page : Page) :
    (select q user page).ordered.text = " ORDER BY \"updatedAt\" DESC" := by
  show (select {} "" .first).ordered.text = _
  decide +kernel

/-- **Pages are taken from the rows that are counted.**  The page and the number of entries have one
    text from ` FROM ` to the end of the condition, with the same placeholders.  The page binds the
    values of the number, and then its limit and its offset, behind the order of the entries. -/
theorem select_pagesOf_count :
    (∀ (q : CompiledQuery Extra) (user : String) (page : Page),
      (Extra.select q user page).PagesOf (Extra.count q user)
        " ORDER BY \"extra\".\"updatedAt\" DESC, \"extra\".\"id\" ASC" page) ∧
    (∀ (q : CompiledQuery Library) (user : String) (page : Page),
      (Library.select q user page).PagesOf (Library.count q user)
        " ORDER BY \"updatedAt\" DESC" page) := by
  refine ⟨fun q user page => ?_, fun q user page => ?_⟩
  · have hne : (Extra.condition q user).template.values ≠ [] := by
      rw [Extra.isScoped.values_eq]
      exact List.cons_ne_nil _ _
    exact Select.pagesOf (Extra.isFixed_select q user page) (Extra.isApart_select q user page)
      (Extra.isFixed_count q user) (Extra.isApart_count q user) rfl rfl
      (Extra.isScoped.tidy q user) hne rfl rfl (Extra.text_ordered q user page) rfl
  · have hne : (Library.condition q user).template.values ≠ [] := by
      rw [Library.isScoped.values_eq]
      exact List.cons_ne_nil _ _
    exact Select.pagesOf (Library.isFixed_select q user page) (Library.isApart_select q user page)
      (Library.isFixed_count q user) (Library.isApart_count q user) rfl rfl
      (Library.isScoped.tidy q user) hne rfl rfl (Library.text_ordered q user page) rfl

end FieldSearch
