import FieldSearch.Proofs.Search.Claims
import FieldSearch.Proofs.Search.Populated
import FieldSearch.Proofs.Sql.Mentions
import FieldSearch.Proofs.Sql.Paging

namespace FieldSearch

open Sql

/-!
# Review records are joined where they are needed

The review records are joined to the entries in one clause of a statement, and asked for their
status in another one.  For queries that come from a search the two agree with each other and with
what the user has typed.

* `Select.conditionOn` is the text of a statement from its first ` WHERE ` on, and
  `Select.AsksForStatus` says that it has the condition of a review status;
* `Select.JoinsReviews` says that the review records are joined exactly if a status is asked for, if
  the query says so, and if a token names a status;
* `statements_join_reviews` says so of the statements on entries, and of those on collections that
  they mention neither review records nor tags.
-/

namespace Sql

/-- What the condition of a review status reads, up to the value that it binds. -/
def statusText : ReviewStatus → String
  | .due => "quiz.\"nextReview\" <= NOW()"
  | .new => "quiz.\"id\" IS NULL"
  | .leech => "quiz.\"wrongStreak\" >= "

/-- The condition of a review status begins with its text. -/
theorem statusText_prefix_shape (status : ReviewStatus) :
    (statusText status).toList.map some <+: (reviewStatus status).template.shape := by
  cases status <;> exact List.prefix_append _ _

/-- The text from the first place on where a mark stands is the end of a text. -/
theorem fromFirst_suffix (mark cs : List Char) : fromFirst mark cs <:+ cs := by
  induction cs with
  | nil => exact List.suffix_refl []
  | cons c cs ih =>
    rw [fromFirst]
    -- either the mark stands here, or it is looked for in the rest
    split
    · exact List.suffix_refl _
    · exact ih.trans (List.suffix_cons c cs)

namespace Select

/-- The text of a statement from its first ` WHERE ` on. -/
def conditionOn (s : Select) : String := String.ofList (fromFirst " WHERE ".toList s.text.toList)

/-- The condition of a statement has that of a review status in it. -/
def AsksForStatus (s : Select) (status : ReviewStatus) : Prop :=
  (statusText status).toList <:+: s.conditionOn.toList

/-- The clauses in front of the condition. -/
def front (s : Select) : Template := s.heading ++ s.fromTable ++ s.joined

/-- Whether ` WHERE ` does not stand in front of the condition. -/
def IsFiltered (s : Select) : Prop :=
  fromFirst " WHERE ".toList (number 1 s.front.shape ++ " WHERE ".toList) = " WHERE ".toList

instance (s : Select) : Decidable s.IsFiltered :=
  inferInstanceAs (Decidable (fromFirst _ _ = _))

variable {s : Select}

/-- What stands in the condition stands in the text. -/
theorem mentions_of_asksForStatus {status : ReviewStatus} (h : s.AsksForStatus status) :
    s.Mentions (statusText status) := by
  rw [AsksForStatus, conditionOn, String.toList_ofList] at h
  exact h.trans (fromFirst_suffix _ _).isInfix

/-- The condition of a statement asks for the statuses that are among its atoms. -/
theorem asksForStatus {c : Condition} (hs : s.IsFiltered) (hfilter : s.filter? = some c)
    {status : ReviewStatus} (hstatus : reviewStatus status ∈ c.atoms) : s.AsksForStatus status := by
  have hshape : s.template.shape =
      s.front.shape ++ (" WHERE ".toList.map some ++ (c.template.shape ++ s.ending.shape)) := by
    rw [template, rows, filtered, hfilter, front]
    simp only [Template.shape_append, Template.shape_text, List.append_assoc]
  -- the clauses in front do not name the mark, so that the condition is cut off there
  have hcondition : s.conditionOn.toList = " WHERE ".toList ++
      number (1 + s.front.shape.count none) (c.template.shape ++ s.ending.shape) := by
    rw [conditionOn, String.toList_ofList, text, Template.text, Template.toList_textFrom, hshape,
      number_shape_append, number_append]
    exact fromFirst_append (by decide) _ hs
  -- the text of a symbol stands in that of the condition
  have hatom : (statusText status).toList.map some <:+: c.template.shape := by
    rw [← Condition.atoms_symbols] at hstatus
    obtain ⟨symbol, hsymbol, heq⟩ := List.mem_filterMap.1 hstatus
    obtain ⟨rfl⟩ : symbol = .atom (reviewStatus status) := by
      cases symbol <;> simp_all [Symbol.atom?]
    rw [Condition.shape_template, List.flatMap_def]
    exact (statusText_prefix_shape status).isInfix.trans
      (List.infix_of_mem_flatten (List.mem_map_of_mem hsymbol))
  rw [AsksForStatus, hcondition]
  exact (infix_number (List.infix_append_of_infix_left hatom) _).trans List.infix_append_right

/-- The review records are joined exactly if the condition asks for a review status, if the query
    requires it, and if one of the tokens names a review status. -/
structure JoinsReviews {μ : Type} (s : Select) (q : CompiledQuery μ) (tokens : List Token) :
    Prop where
  mentions_join_iff : s.Mentions " LEFT JOIN \"quiz\" ON " ↔ ∃ status, s.AsksForStatus status
  asksForStatus_iff : (∃ status, s.AsksForStatus status) ↔ q.requiresJoin = true
  requiresJoin_iff : q.requiresJoin = true ↔ ∃ t ∈ tokens, ∃ status, t.Names status

end Select

end Sql

/-! ### Extra entries -/

namespace Extra

/-- There is no `qu` in what stands in front of the value of a match of extra entries. -/
theorem avoids_lead (f : ExtraField) : Avoids 'q' 'u' ((lead f).toList.map some) := by
  cases f <;> decide +kernel

/-- There is no `qu` in the tag membership of extra entries. -/
theorem avoids_tagMembership (filter : TagFilter) :
    Avoids 'q' 'u' (tagMembership filter keys).template.shape := by
  have hkeys := isPlain_keys keys (by simp)
  have hopening : Avoids 'q' 'u' (TaggedKeys.opening keys) := by decide +kernel
  have hclosing : Avoids 'q' 'u' TaggedKeys.closing := by decide +kernel
  rw [(alike_tagMembership hkeys filter).shape, TaggedKeys.shape_eq]
  exact (hopening.append (avoids_listed (by decide) _)).append hclosing

variable {q : CompiledQuery Extra} {user : String}

/-- A statement whose query has no review filter avoids `qu`. -/
theorem avoids_template {s : Select} (hs : s.FixedAvoids 'q' 'u') (hjoin : s.join? = join? q)
    (hfilter : s.filter? = some (condition q user)) (hreview : q.review? = none) :
    Avoids 'q' 'u' s.template.shape := by
  have hjoined : Avoids 'q' 'u' s.joined.shape := by
    rw [Select.joined, hjoin, join?, hreview]
    exact .of_notMem List.not_mem_nil
  have howner : Avoids 'q' 'u' (ownedBy user).template.shape := by
    show Avoids 'q' 'u' (ownedBy "").template.shape
    decide +kernel
  have hvisible : Avoids 'q' 'u' isVisible.template.shape := by decide +kernel
  refine Select.avoids_template (by decide) hs hjoined hfilter fun a ha => ?_
  exact literal.avoids_scoped avoids_lead (fun filter _ => avoids_tagMembership filter) hreview
    howner hvisible ha

/-- A statement joins the review records for the statuses of its query. -/
theorem mentions_join {s : Select} (hjoin : s.join? = join? q) (hreview : q.review?.isSome = true) :
    s.Mentions " LEFT JOIN \"quiz\" ON " := by
  obtain ⟨filter, hfilter⟩ := Option.isSome_iff_exists.1 hreview
  have hjoined : s.joined.shape = " LEFT JOIN \"quiz\" ON ".toList.map some ++
      (reviewJoin filter).shape := by
    rw [Select.joined, hjoin, join?, hfilter]
    rfl
  rw [Select.Mentions, Select.text, Template.text, Template.toList_textFrom]
  refine infix_number ?_ 1
  rw [Select.template, Select.rows]
  simp only [Template.shape_append, hjoined, List.append_assoc]
  exact (List.infix_append' _ _ _).trans List.infix_append_right

/-- A page of entries is filtered by one condition. -/
theorem isFiltered_select (q : CompiledQuery Extra) (user : String) (page : Page) :
    (select q user page).IsFiltered := by
  obtain ⟨term?, tags?, review?⟩ := q
  cases review? with
  | none =>
    show (select {} "" .first).IsFiltered
    decide +kernel
  | some filter =>
    show (select { review? := some ⟨"", {}⟩ } "" .first).IsFiltered
    decide +kernel

/-- A number of entries is filtered by one condition. -/
theorem isFiltered_count (q : CompiledQuery Extra) (user : String) :
    (count q user).IsFiltered := by
  obtain ⟨term?, tags?, review?⟩ := q
  cases review? with
  | none =>
    show (count {} "").IsFiltered
    decide +kernel
  | some filter =>
    show (count { review? := some ⟨"", {}⟩ } "").IsFiltered
    decide +kernel

/-- A token that names a review status asks for it. -/
theorem asksForStatus_iff (tokens : List Token) (status : ReviewStatus) :
    registry.AsksForStatus tokens status ↔ ∃ t ∈ tokens, t.Names status :=
  exists_congr fun _ => and_congr_right fun _ => and_iff_right_of_imp (.status rfl)

/-- The query of a search requires the review records if a token names a review status. -/
theorem requiresJoin_iff (options : SearchOptions) (searcher : String) (tokens : List Token) :
    (registry.searchTokens options searcher tokens).requiresJoin = true ↔
      ∃ t ∈ tokens, ∃ status, t.Names status := by
  have hnone := (registry.filtersBy_searchTokens tokens options searcher).review_eq_none_iff
  -- there is a review filter exactly if there is something to filter for
  rw [CompiledQuery.requiresJoin, Option.isSome_iff_ne_none, ne_eq, hnone, not_forall_not]
  simp only [asksForStatus_iff]
  exact ⟨fun ⟨status, t, ht, h⟩ => ⟨t, ht, status, h⟩, fun ⟨t, ht, status, h⟩ => ⟨status, t, ht, h⟩⟩

/-- A statement of the query of a search joins the review records where they are needed. -/
theorem joinsReviews {s : Select} {options : SearchOptions} {searcher owner : String}
    {tokens : List Token} (hs : s.FixedAvoids 'q' 'u') (hwhere : s.IsFiltered)
    (hjoin : s.join? = join? (registry.searchTokens options searcher tokens))
    (hfilter : s.filter? = some (condition (registry.searchTokens options searcher tokens) owner)) :
    s.JoinsReviews (registry.searchTokens options searcher tokens) tokens := by
  have hrequires := requiresJoin_iff options searcher tokens
  generalize hq : registry.searchTokens options searcher tokens = q at hjoin hfilter hrequires ⊢
  cases hreview : q.review? with
  | none =>
    -- nothing in the text has `qu` in it
    have havoids := avoids_template hs hjoin hfilter hreview
    have hjoins : ¬ s.Mentions " LEFT JOIN \"quiz\" ON " :=
      Select.not_mentions (by decide) (by decide) havoids
        ⟨" LEFT JOIN \"".toList, "iz\" ON ".toList, by decide⟩
    have hasks : ¬ ∃ status, s.AsksForStatus status := by
      rintro ⟨status, hstatus⟩
      refine Select.not_mentions (by decide) (by decide) havoids ?_
        (Select.mentions_of_asksForStatus hstatus)
      cases status <;> exact ⟨[], _, rfl⟩
    have hflag : ¬ q.requiresJoin = true := by simp [CompiledQuery.requiresJoin, hreview]
    exact ⟨iff_of_false hjoins hasks, iff_of_false hasks hflag, hrequires⟩
  | some filter =>
    have hsome : q.review?.isSome = true := by simp [hreview]
    have hasks : ∃ status, s.AsksForStatus status := by
      have hpopulated : q.IsPopulated :=
        hq ▸ registry.isPopulated_searchTokens options searcher tokens
      obtain ⟨status, hstatus⟩ := hpopulated.exists_status filter hreview
      refine ⟨status, Select.asksForStatus hwhere hfilter ?_⟩
      rw [condition, atoms_scoped, atoms_ofQuery, hreview]
      have hmem : reviewStatus status ∈ filter.statuses.toList.map reviewStatus :=
        List.mem_map_of_mem (StatusSet.mem_toList.2 hstatus)
      simp [hmem]
    exact ⟨iff_of_true (mentions_join hjoin hsome) hasks, iff_of_true hasks hsome, hrequires⟩

/-- The clauses of a page that do not come from the query avoid `qu`. -/
theorem fixedAvoids_select (q : CompiledQuery Extra) (user : String) (page : Page) :
    (select q user page).FixedAvoids 'q' 'u' := by
  have hfixed : (select {} "" .first).FixedAvoids 'q' 'u' := by decide +kernel
  exact ⟨hfixed.heading, hfixed.fromTable, hfixed.ordered⟩

/-- The clauses of a number of entries that do not come from the query avoid `qu`. -/
theorem fixedAvoids_count (q : CompiledQuery Extra) (user : String) :
    (count q user).FixedAvoids 'q' 'u' := by
  have hfixed : (count {} "").FixedAvoids 'q' 'u' := by decide +kernel
  exact ⟨hfixed.heading, hfixed.fromTable, hfixed.ordered⟩

end Extra

/-! ### Library collections -/

namespace Library

/-- What stands in front of the value of a match has neither `qu` nor `_t` in it. -/
theorem avoids_lead (f : LibraryField) :
    Avoids 'q' 'u' ((lead f).toList.map some) ∧ Avoids '_' 't' ((lead f).toList.map some) := by
  cases f <;> decide +kernel

/-- The comparison of the owner and the visibility have neither `qu` nor `_t` in them. -/
theorem avoids_scope (user : String) :
    (Avoids 'q' 'u' (ownedBy user).template.shape ∧ Avoids 'q' 'u' isVisible.template.shape) ∧
      Avoids '_' 't' (ownedBy user).template.shape ∧ Avoids '_' 't' isVisible.template.shape := by
  show (Avoids 'q' 'u' (ownedBy "").template.shape ∧ Avoids 'q' 'u' isVisible.template.shape) ∧
    Avoids '_' 't' (ownedBy "").template.shape ∧ Avoids '_' 't' isVisible.template.shape
  decide +kernel

/-- A search for collections has no filters, as no extension applies to them. -/
theorem filters_search (options : SearchOptions) (user raw : String) :
    (registry.search options user raw).tags? = none ∧
      (registry.search options user raw).review? = none :=
  ⟨rfl, rfl⟩

/-- A statement of the query of a search mentions neither review records nor tags. -/
theorem not_mentions {s : Select} {options : SearchOptions} {searcher owner raw : String}
    (hquiz : s.FixedAvoids 'q' 'u') (htag : s.FixedAvoids '_' 't') (hjoin : s.join? = none)
    (hfilter : s.filter? = some (condition (registry.search options searcher raw) owner)) :
    ¬ s.Mentions "quiz" ∧ ¬ s.Mentions "entry_tag" := by
  obtain ⟨htags, hreview⟩ := filters_search options searcher raw
  obtain ⟨howner, howner'⟩ := avoids_scope owner
  have hjoined : s.joined = [] := by rw [Select.joined, hjoin]
  -- without filters there are no atoms but those of the matches and the scope
  have havoids {x y : Char} (hy : y.isLower = true) (hs : s.FixedAvoids x y)
      (hlead : ∀ f, Avoids x y ((lead f).toList.map some))
      (howner : Avoids x y (ownedBy owner).template.shape)
      (hvisible : Avoids x y isVisible.template.shape) : Avoids x y s.template.shape := by
    refine Select.avoids_template hy hs (hjoined ▸ .of_notMem List.not_mem_nil) hfilter ?_
    intro a ha
    refine literal.avoids_scoped hlead (fun filter h => ?_) hreview howner hvisible ha
    rw [htags] at h
    cases h
  constructor
  · refine Select.not_mentions (by decide) (by decide)
      (havoids (by decide) hquiz (fun f => (avoids_lead f).1) howner.1 howner.2) ?_
    exact ⟨[], "iz".toList, by decide⟩
  · refine Select.not_mentions (by decide) (by decide)
      (havoids (by decide) htag (fun f => (avoids_lead f).2) howner'.1 howner'.2) ?_
    exact ⟨"entry".toList, "ag".toList, by decide⟩

/-- The clauses of a page that do not come from the query have neither `qu` nor `_t` in them. -/
theorem fixedAvoids_select (q : CompiledQuery Library) (user : String) (page : Page) :
    (select q user page).FixedAvoids 'q' 'u' ∧ (select q user page).FixedAvoids '_' 't' := by
  have hfixed : (select {} "" .first).FixedAvoids 'q' 'u' ∧
      (select {} "" .first).FixedAvoids '_' 't' := by decide +kernel
  exact ⟨⟨hfixed.1.heading, hfixed.1.fromTable, hfixed.1.ordered⟩,
    hfixed.2.heading, hfixed.2.fromTable, hfixed.2.ordered⟩

/-- The clauses of a number of collections that do not come from the query have neither `qu` nor
    `_t` in them. -/
theorem fixedAvoids_count (q : CompiledQuery Library) (user : String) :
    (count q user).FixedAvoids 'q' 'u' ∧ (count q user).FixedAvoids '_' 't' := by
  have hfixed : (count {} "").FixedAvoids 'q' 'u' ∧ (count {} "").FixedAvoids '_' 't' := by
    decide +kernel
  exact ⟨⟨hfixed.1.heading, hfixed.1.fromTable, hfixed.1.ordered⟩,
    hfixed.2.heading, hfixed.2.fromTable, hfixed.2.ordered⟩

end Library

/-! ### Statements of both entities -/

/-- **Review records are joined where they are needed.**  The page and the number of entries for
    what a user has typed join the review records exactly if their condition asks for a review
    status, if the query says so, and if a token names a status.  Those of collections mention
    neither review records nor tags. -/
theorem statements_join_reviews :
    (∀ (options : SearchOptions) (searcher owner raw : String) (page : Page),
      (Extra.select (Extra.registry.search options searcher raw) owner page).JoinsReviews
        (Extra.registry.search options searcher raw) (tokenize raw) ∧
      (Extra.count (Extra.registry.search options searcher raw) owner).JoinsReviews
        (Extra.registry.search options searcher raw) (tokenize raw)) ∧
    (∀ (options : SearchOptions) (searcher owner raw : String) (page : Page),
      (¬ (Library.select (Library.registry.search options searcher raw) owner page).Mentions
          "quiz" ∧
        ¬ (Library.select (Library.registry.search options searcher raw) owner page).Mentions
          "entry_tag") ∧
      ¬ (Library.count (Library.registry.search options searcher raw) owner).Mentions "quiz" ∧
        ¬ (Library.count (Library.registry.search options searcher raw) owner).Mentions
          "entry_tag") := by
  refine ⟨fun options searcher owner raw page => ?_, fun options searcher owner raw page => ?_⟩
  · exact ⟨Extra.joinsReviews (Extra.fixedAvoids_select _ owner page)
        (Extra.isFiltered_select _ owner page) rfl rfl,
      Extra.joinsReviews (Extra.fixedAvoids_count _ owner) (Extra.isFiltered_count _ owner) rfl rfl⟩
  · obtain ⟨hquiz, htag⟩ :=
      Library.fixedAvoids_select (Library.registry.search options searcher raw) owner page
    obtain ⟨hquiz', htag'⟩ :=
      Library.fixedAvoids_count (Library.registry.search options searcher raw) owner
    exact ⟨Library.not_mentions hquiz htag rfl rfl, Library.not_mentions hquiz' htag' rfl rfl⟩

end FieldSearch
