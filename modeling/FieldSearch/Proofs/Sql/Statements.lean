import FieldSearch.Proofs.Sql.Literal

namespace FieldSearch

open Sql

/-!
# Statements bind their values literally

What a user has typed is bound in a statement, and is nowhere in its text.

* `Select.Binds` says what a statement binds, and that its text has a placeholder for each of the
  values; `Select.binds` and `Select.text_eq` put the clauses of a statement together;
* `Extra.literal` and `Library.literal` are about the criteria of the two entities;
* `statements_bind_literally` is about their statements: what these bind, and that their text
  depends on the skeleton of the query only.
-/

namespace Sql

/-! ### Clauses -/

namespace Select

/-- A statement binds exactly the values `vs`, and has a placeholder for each of them, in their
    order, and no other. -/
structure Binds (s : Select) (vs : List Value) : Prop where
  values_eq : s.values = vs
  placeholders_eq : placeholders s.text.toList = (List.range' 1 vs.length).map (Nat.toDigits 10)

/-- Whether the clauses that do not come from a query are fixed text. -/
def IsFixed (s : Select) : Prop := ∀ p ∈ s.heading ++ s.fromTable ++ s.ordered, p.IsFixed

instance (s : Select) : Decidable s.IsFixed :=
  inferInstanceAs (Decidable (∀ p ∈ s.heading ++ s.fromTable ++ s.ordered, p.IsFixed))

/-- The page of a statement is tidy. -/
theorem tidy_paged (s : Select) : Tidy s.paged.shape := by
  unfold paged
  cases s.page? with
  | none => exact .nil
  | some page =>
    have hlimit : Tidy (" LIMIT ".toList.map some) := .chars (by decide +kernel) (by decide +kernel)
    have hoffset : Tidy (" OFFSET ".toList.map some) :=
      .chars (by decide +kernel) (by decide +kernel)
    exact hlimit.append (Tidy.place.append (hoffset.append .place))

/-- A statement whose other clauses are fixed binds what its join, its condition and its page
    bind. -/
theorem binds {s : Select} {c : Condition} (hs : s.IsFixed) (hjoined : Tidy s.joined.shape)
    (hfilter : s.filter? = some c) (hatoms : ∀ a ∈ c.atoms, Tidy a.template.shape) :
    s.Binds (s.joined.values ++ c.template.values ++ s.paged.values) := by
  have hheading : ∀ p ∈ s.heading, p.IsFixed := fun p hp => hs p (by simp [hp])
  have hfrom : ∀ p ∈ s.fromTable, p.IsFixed := fun p hp => hs p (by simp [hp])
  have hordered : ∀ p ∈ s.ordered, p.IsFixed := fun p hp => hs p (by simp [hp])
  have hfiltered : s.filtered = .text " WHERE " :: c.template := by rw [filtered, hfilter]
  -- fixed clauses bind nothing
  have hvalues : s.values = s.joined.values ++ c.template.values ++ s.paged.values := by
    rw [values, template, rows, ending, hfiltered]
    simp only [Template.values_append, Template.values_of_isFixed hheading,
      Template.values_of_isFixed hfrom, Template.values_of_isFixed hordered, List.nil_append,
      Template.values_text]
  -- no clause begins with a digit, so that it can stand behind the placeholder of another
  have htidy : Tidy s.template.shape := by
    have hwhere : Tidy (" WHERE ".toList.map some) := .chars (by decide +kernel) (by decide +kernel)
    rw [template, rows, ending, hfiltered]
    simp only [Template.shape_append]
    refine .append (.append (Template.tidy_of_isFixed hheading) ?_) ?_
    · refine .append (.append (Template.tidy_of_isFixed hfrom) hjoined) ?_
      exact hwhere.append (Condition.tidy_template hatoms)
    · exact .append (Template.tidy_of_isFixed hordered) s.tidy_paged
  refine ⟨hvalues, ?_⟩
  rw [← hvalues, text, Template.text, Template.toList_textFrom,
    placeholders_number 1 htidy.dollar_notMem htidy.endsNumber_next, Template.count_shape]
  rfl

/-- The text of a statement comes from the shapes of its clauses. -/
theorem text_eq {s s' : Select} {c c' : Condition} (hheading : s.heading = s'.heading)
    (hfrom : s.fromTable = s'.fromTable) (hordered : s.ordered = s'.ordered)
    (hjoined : s.joined.shape = s'.joined.shape) (hfilter : s.filter? = some c)
    (hfilter' : s'.filter? = some c') (hshape : c.template.shape = c'.template.shape)
    (hpaged : s.paged.shape = s'.paged.shape) : s.text = s'.text := by
  have hfiltered : s.filtered.shape = s'.filtered.shape := by
    rw [filtered, hfilter, filtered, hfilter', Template.shape_text, Template.shape_text, hshape]
  refine Template.textFrom_eq_of_shape_eq ?_ 1
  rw [template, template, rows, rows, ending, ending]
  simp only [Template.shape_append, hheading, hfrom, hordered, hjoined, hfiltered, hpaged]

end Select

/-! ### The scope of a query -/

/-- A condition of a query and its user that binds the user and the values of the query, and whose
    shape depends on the skeleton of the query only. -/
structure IsScoped {μ φ : Type} (condition : CompiledQuery μ → String → Condition) (field : μ → φ)
    (value : μ → String) : Prop where
  values_eq : ∀ q user, (condition q user).template.values = .text user :: q.values value
  tidy : ∀ q user, ∀ a ∈ (condition q user).atoms, Tidy a.template.shape
  shape_eq : ∀ q q' : CompiledQuery μ, q.skeleton field = q'.skeleton field → ∀ user user',
    (condition q user).template.shape = (condition q' user').template.shape

/-- A statement with a scoped condition binds the values of its join, the user, the values of the
    query, and those of its page. -/
theorem IsScoped.binds {μ φ : Type} {condition : CompiledQuery μ → String → Condition}
    {field : μ → φ} {value : μ → String} (h : IsScoped condition field value) {s : Select}
    (hs : s.IsFixed) (hjoined : Tidy s.joined.shape) {q : CompiledQuery μ} {user : String}
    (hfilter : s.filter? = some (condition q user)) :
    s.Binds (s.joined.values ++ .text user :: q.values value ++ s.paged.values) := by
  have hbinds := Select.binds hs hjoined hfilter (h.tidy q user)
  rwa [h.values_eq] at hbinds

/-- The condition that a row is the user's, is shown, and satisfies the query is scoped. -/
theorem Literal.isScoped {μ φ : Type} {criterion : μ → Atom} {field : μ → φ} {value : μ → String}
    {lead : φ → String} (h : Literal criterion field value lead) {keys : String}
    (hkeys : IsPlain (keys ++ " @> (").toList) {owner : String} (howner : IsPlain owner.toList)
    {visible : Atom} (hvisible : ∀ p ∈ visible.template, p.IsFixed) :
    IsScoped (fun q user => .allOf [.atom (.comparison [.text owner, .bind (.text user)]),
      .atom visible, ofQuery criterion keys q]) field value := by
  constructor
  · intro q user
    have hquery := values_ofQuery h hkeys q
    have hnone : visible.template.values = [] := Template.values_of_isFixed hvisible
    rw [Condition.values_template] at hquery ⊢
    rw [atoms_scoped, List.flatMap_cons, List.flatMap_cons, hquery, hnone]
    rfl
  · intro q user a ha
    rw [atoms_scoped, List.mem_cons, List.mem_cons] at ha
    rcases ha with rfl | rfl | ha
    · exact (Tidy.chars howner.dollar_notMem howner.endsNumber_head).append .place
    · exact Template.tidy_of_isFixed hvisible
    · exact tidy_ofQuery h hkeys q ha
  · intro q q' hq user user'
    refine Condition.shape_template_eq ?_
    rw [Condition.blank, Condition.blank, Condition.allOf, Condition.allOf, Condition.map_join,
      Condition.map_join]
    -- the query keeps its form without its values, and the two atoms before it do not change
    have hquery := blank_ofQuery h hkeys hq
    rw [Condition.blank, Condition.blank] at hquery
    rw [List.map_cons, List.map_cons, List.map_cons, hquery]
    rfl

end Sql

/-! ### Extra entries -/

namespace Extra

/-- The field of a match. -/
def field : Extra → ExtraField
  | entry _ => .entry
  | reading _ => .reading
  | english _ => .english
  | type _ => .type
  | description _ => .description

/-- The value of a match. -/
def value : Extra → String
  | entry text => text
  | reading text => text
  | english text => text
  | type kind => kind.text
  | description text => text

/-- What stands in front of the value of a match. -/
def lead : ExtraField → String
  | .entry => "extra.\"entry\"" ++ " &@ "
  | .reading => "normalize_pinyin(extra.\"pinyin\")" ++ " &@ "
  | .english => "extra.\"english\"" ++ " &@ "
  | .type => "extra.\"type\"" ++ " = "
  | .description => "extra.\"description\"" ++ " &@ "

/-- What stands in front of a value is plain. -/
theorem isPlain_lead (f : ExtraField) : IsPlain (lead f).toList := by
  cases f <;> decide +kernel

/-- The criterion of extra entries is literal. -/
theorem literal : Literal criterion field value lead := by
  refine ⟨isPlain_lead, fun m => ?_⟩
  cases m with
  | entry text => exact ⟨_, rfl, alike_fullText (isPlain_lead .entry) text⟩
  | reading text => exact ⟨_, rfl, alike_fullText (isPlain_lead .reading) text⟩
  | english text => exact ⟨_, rfl, alike_fullText (isPlain_lead .english) text⟩
  | type kind => exact ⟨_, rfl, alike_equals (isPlain_lead .type) kind.text⟩
  | description text => exact ⟨_, rfl, alike_fullText (isPlain_lead .description) text⟩

/-- The condition of extra entries is scoped. -/
theorem isScoped : IsScoped condition field value := by
  have hkeys := isPlain_keys keys (by simp)
  have howner : IsPlain ((column "userId").text ++ " = ").toList := by decide +kernel
  exact literal.isScoped hkeys howner (by decide +kernel)

/-- The clauses of a page that do not come from the query are fixed. -/
theorem isFixed_select (q : CompiledQuery Extra) (user : String) (page : Page) :
    (select q user page).IsFixed := by
  show (select {} "" .first).IsFixed
  decide +kernel

/-- The clauses of a number of entries that do not come from the query are fixed. -/
theorem isFixed_count (q : CompiledQuery Extra) (user : String) : (count q user).IsFixed := by
  show (count {} "").IsFixed
  decide +kernel

variable {s : Select} {q : CompiledQuery Extra} (hs : s.join? = join? q)

include hs

/-- A statement that joins the review records binds their user. -/
theorem values_joined : s.joined.values = q.review?.elim [] fun filter => [.text filter.user] := by
  rw [Select.joined, hs, join?]
  cases q.review? <;> rfl

/-- The review records are joined by tidy text. -/
theorem tidy_joined : Tidy s.joined.shape := by
  rw [Select.joined, hs, join?]
  cases q.review? with
  | none => exact .nil
  | some filter =>
    have hjoin : Tidy ((" LEFT JOIN " ++ quoteName "quiz" ++ " ON ").toList.map some) :=
      .chars (by decide +kernel) (by decide +kernel)
    have huser : Tidy ("quiz.\"userId\" = ".toList.map some) :=
      .chars (by decide +kernel) (by decide +kernel)
    have hentry : Tidy
        (" AND quiz.\"entry\" = extra.\"entry\"[1] AND quiz.\"type\" = extra.\"type\"".toList.map
          some) := by
      rw [String.toList_ofList]
      exact .chars (by decide) (by decide)
    exact hjoin.append (huser.append (Tidy.place.append (hentry.append .nil)))

/-- Which records are joined does not depend on their user. -/
theorem shape_joined {s' : Select} {q' : CompiledQuery Extra} (hs' : s'.join? = join? q')
    (hq : q.skeleton field = q'.skeleton field) : s.joined.shape = s'.joined.shape := by
  have hreview := (Skeleton.mk.inj hq).2.2
  rw [Select.joined, Select.joined, hs, hs', join?, join?]
  cases hr : q.review? <;> cases hr' : q'.review? <;> simp [hr, hr'] at hreview <;> rfl

end Extra

/-! ### Library collections -/

namespace Library

/-- The field of a match. -/
def field : Library → LibraryField
  | entry _ => .entry
  | title _ => .title
  | type _ => .type
  | description _ => .description
  | tag _ => .tag

/-- The value of a match. -/
def value : Library → String
  | entry text => text
  | title text => text
  | type kind => kind.text
  | description text => text
  | tag text => text

/-- What stands in front of the value of a match. -/
def lead : LibraryField → String
  | .entry => "\"entry_zh\"" ++ " &@ "
  | .title => "\"title\"" ++ " &@ "
  | .type => "\"type\"" ++ " = "
  | .description => "\"description\"" ++ " &@ "
  | .tag => "\"tag\"" ++ " &@ "

/-- What stands in front of a value is plain. -/
theorem isPlain_lead (f : LibraryField) : IsPlain (lead f).toList := by
  cases f <;> decide +kernel

/-- The criterion of collections is literal. -/
theorem literal : Literal criterion field value lead := by
  refine ⟨isPlain_lead, fun m => ?_⟩
  cases m with
  | entry text => exact ⟨_, rfl, alike_fullText (isPlain_lead .entry) text⟩
  | title text => exact ⟨_, rfl, alike_fullText (isPlain_lead .title) text⟩
  | type kind => exact ⟨_, rfl, alike_equals (isPlain_lead .type) kind.text⟩
  | description text => exact ⟨_, rfl, alike_fullText (isPlain_lead .description) text⟩
  | tag text => exact ⟨_, rfl, alike_fullText (isPlain_lead .tag) text⟩

/-- The condition of collections is scoped. -/
theorem isScoped : IsScoped condition field value := by
  have hkeys := isPlain_keys keys (by simp)
  have howner : IsPlain (Column.text { name := "userId" } ++ " = ").toList := by decide +kernel
  exact literal.isScoped hkeys howner (by decide +kernel)

/-- The clauses of a page that do not come from the query are fixed. -/
theorem isFixed_select (q : CompiledQuery Library) (user : String) (page : Page) :
    (select q user page).IsFixed := by
  show (select {} "" .first).IsFixed
  decide +kernel

/-- The clauses of a number of collections that do not come from the query are fixed. -/
theorem isFixed_count (q : CompiledQuery Library) (user : String) : (count q user).IsFixed := by
  show (count {} "").IsFixed
  decide +kernel

end Library

/-! ### Statements of both entities -/

/-- **Statements bind literally.**  What a statement binds comes verbatim from the query, its users
    and the page, with a placeholder for each value, numbered in order.  The text of a statement
    depends on the skeleton of the query only. -/
theorem statements_bind_literally :
    (∀ (q : CompiledQuery Extra) (user : String) (page : Page),
      (Extra.select q user page).Binds
        ((q.review?.elim [] fun filter => [.text filter.user]) ++
          .text user :: q.values Extra.value ++
          [.bigUnsigned page.limit, .bigUnsigned page.offset]) ∧
      (Extra.count q user).Binds
        ((q.review?.elim [] fun filter => [.text filter.user]) ++
          .text user :: q.values Extra.value)) ∧
    (∀ (q : CompiledQuery Library) (user : String) (page : Page),
      (Library.select q user page).Binds
        (.text user :: q.values Library.value ++
          [.bigUnsigned page.limit, .bigUnsigned page.offset]) ∧
      (Library.count q user).Binds (.text user :: q.values Library.value)) ∧
    (∀ q q' : CompiledQuery Extra, q.skeleton Extra.field = q'.skeleton Extra.field →
      ∀ (user user' : String) (page page' : Page),
        (Extra.select q user page).text = (Extra.select q' user' page').text ∧
        (Extra.count q user).text = (Extra.count q' user').text) ∧
    (∀ q q' : CompiledQuery Library, q.skeleton Library.field = q'.skeleton Library.field →
      ∀ (user user' : String) (page page' : Page),
        (Library.select q user page).text = (Library.select q' user' page').text ∧
        (Library.count q user).text = (Library.count q' user').text) := by
  refine ⟨fun q user page => ?_, fun q user page => ?_, fun q q' hq user user' page page' => ?_,
    fun q q' hq user user' page page' => ?_⟩
  · have hselect := Extra.isScoped.binds (Extra.isFixed_select q user page)
      (Extra.tidy_joined rfl) rfl
    have hcount := Extra.isScoped.binds (Extra.isFixed_count q user) (Extra.tidy_joined rfl) rfl
    -- a number of entries has no page that would bind anything
    have hpaged : (Extra.count q user).paged.values = [] := rfl
    rw [Extra.values_joined rfl] at hselect hcount
    rw [hpaged, List.append_nil] at hcount
    exact ⟨hselect, hcount⟩
  · have hselect := Library.isScoped.binds (Library.isFixed_select q user page) .nil rfl
    have hcount := Library.isScoped.binds (Library.isFixed_count q user) .nil rfl
    have hpaged : (Library.count q user).paged.values = [] := rfl
    rw [hpaged, List.append_nil] at hcount
    exact ⟨hselect, hcount⟩
  · have hshape := Extra.isScoped.shape_eq q q' hq user user'
    exact ⟨Select.text_eq rfl rfl rfl (Extra.shape_joined rfl rfl hq) rfl rfl hshape rfl,
      Select.text_eq rfl rfl rfl (Extra.shape_joined rfl rfl hq) rfl rfl hshape rfl⟩
  · have hshape := Library.isScoped.shape_eq q q' hq user user'
    exact ⟨Select.text_eq rfl rfl rfl rfl rfl rfl hshape rfl,
      Select.text_eq rfl rfl rfl rfl rfl rfl hshape rfl⟩

/-- A quote, a comment and placeholders in what the user has typed leave the text as it is. -/
theorem statements_bind_literally_quotes :
    (CompiledQuery.skeleton Extra.field
        { term? := some (.any [.leaf (.entry "'; --$1"), .all []])
          tags? := some ⟨"u", .ofList ["b\"", "a$2", "a$2"]⟩
          review? := some ⟨"$3", { leech := true }⟩ } =
      CompiledQuery.skeleton Extra.field
        { term? := some (.any [.leaf (.entry "x"), .all []])
          tags? := some ⟨"v", .ofList ["c", "d"]⟩
          review? := some ⟨"w", { leech := true }⟩ }) ∧
    (Extra.select
        { term? := some (.any [.leaf (.entry "'; --$1"), .all []])
          tags? := some ⟨"u", .ofList ["b\"", "a$2", "a$2"]⟩
          review? := some ⟨"$3", { leech := true }⟩ } "') OR (TRUE" .first).text =
      (Extra.select
        { term? := some (.any [.leaf (.entry "x"), .all []])
          tags? := some ⟨"v", .ofList ["c", "d"]⟩
          review? := some ⟨"w", { leech := true }⟩ } "u" .first).text := by
  refine ⟨rfl, ?_⟩
  exact (statements_bind_literally.2.2.1 _ _ (by rfl) _ _ _ _).1

end FieldSearch
