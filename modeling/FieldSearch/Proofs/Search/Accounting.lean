import FieldSearch.Proofs.Search.Claims
import FieldSearch.Proofs.Search.Composition

namespace FieldSearch

/-!
# Every token is accounted for

A token of a query is claimed, beyond the limit, ignored, or asked for by the compiled query, and
what is ignored is logged.

* `Event.entry` is what the log shows of an event;
* `tokenizeEvents_eq_nil` says that no text has to be cut at its blank characters for want of another
  reading, so that this is never in the log;
* `Registry.length_eq_claimed` counts the tokens that are claimed and those that go on to the
  fields, `Registry.length_eq_resolved` what becomes of the latter;
* `Registry.Accounts` says of events and of a compiled query that they account for the tokens of a
  text, and `search_accounts` that those of a search do.
-/

/-! ### The log -/

/-- What the log shows of an event. -/
structure LogEntry where
  level : Level
  message : String
  fields : List (String × EventValue)
deriving DecidableEq

/-- The entry of an event. -/
def Event.entry (e : Event) : LogEntry := ⟨e.level, e.message, e.fields⟩

/-- Splitting a text into tokens logs nothing, as every text is a query. -/
theorem tokenizeEvents_eq_nil (raw : String) : tokenizeEvents raw = [] := by
  obtain ⟨d, hd⟩ := exists_isReading raw
  rw [tokenizeEvents, hd.query_eq]

namespace Token

/-- The token is qualified as a review status, and its value is not the keyword of one. -/
def HasUnknownStatus (t : Token) : Prop :=
  t.hasField "is" = true ∧ ∀ status : ReviewStatus, asciiFold t.value ≠ status.keyword

/-- The values that are given as a status are those of the tokens with an unknown one. -/
theorem unknownStatus?_eq_some_iff {t : Token} {x : String} :
    t.unknownStatus? = some x ↔ t.HasUnknownStatus ∧ t.value = x := by
  have hkeyword : ReviewStatus.ofKeyword? t.value = none ↔
      ∀ status : ReviewStatus, asciiFold t.value ≠ status.keyword := by
    rw [Option.eq_none_iff_forall_ne_some]
    exact forall_congr' fun _ => not_congr ReviewStatus.ofKeyword?_eq_some_iff
  rw [HasUnknownStatus, ← hkeyword, unknownStatus?, reviewClaim, isReview]
  -- the claim of a token depends on these three alone
  cases t.hasField "is" <;> cases t.isBare && !t.quoted <;>
    cases ReviewStatus.ofKeyword? t.value <;> simp

instance (t : Token) : Decidable t.HasUnknownStatus :=
  decidable_of_iff (t.unknownStatus?.isSome = true) <| by
    simp [Option.isSome_iff_exists, unknownStatus?_eq_some_iff]

/-- The values that are given as a status, in the order of the tokens. -/
theorem unknownStatuses_eq (tokens : List Token) :
    Review.unknownStatuses tokens = (tokens.filter fun t => t.HasUnknownStatus).map value := by
  rw [Review.unknownStatuses, ← List.filterMap_eq_map, List.filterMap_filter]
  refine List.filterMap_congr fun t _ => Option.ext fun x => ?_
  rw [unknownStatus?_eq_some_iff]
  by_cases h : t.HasUnknownStatus <;> simp [h]

end Token

namespace Registry

variable {φ μ : Type} (r : Registry φ μ)

/-! ### Claimed tokens, and those that go on -/

/-- The token is claimed for a review status. -/
def ClaimsAsStatus (t : Token) : Prop := r.extensions.review = true ∧ ∃ status, t.Names status

/-- The token is removed as a tag. -/
def ClaimsAsTag (t : Token) : Prop := r.extensions.tags = true ∧ t.hasField "tag" = true

instance : DecidablePred r.ClaimsAsStatus := fun t =>
  decidable_of_iff (r.reviewedToken? t = none) reviewedToken?_eq_none_iff

instance : DecidablePred r.ClaimsAsTag := fun t =>
  inferInstanceAs (Decidable (r.extensions.tags = true ∧ t.hasField "tag" = true))

variable {r} {t : Token}

/-- A token is claimed exactly if it is claimed for a status or removed as a tag. -/
theorem claims_iff : r.Claims t ↔ r.ClaimsAsStatus t ∨ r.ClaimsAsTag t := by
  constructor
  · rintro (⟨enabled, field⟩ | ⟨enabled, names⟩)
    · exact .inr ⟨enabled, field⟩
    · exact .inl ⟨enabled, _, names⟩
  · rintro (⟨enabled, _, names⟩ | ⟨enabled, field⟩)
    · exact .status enabled names
    · exact .tag enabled field

/-- A token that is claimed for a status is not removed as a tag. -/
theorem ClaimsAsStatus.not_claimsAsTag (h : r.ClaimsAsStatus t) : ¬ r.ClaimsAsTag t := by
  obtain ⟨-, status, hnames⟩ := h
  rintro ⟨-, hfield⟩
  exact absurd (hnames.isTag_eq_false.symm.trans hfield) (by decide)

variable (r)

/-- Each token is claimed for a status, removed as a tag, or goes on to the fields. -/
theorem length_eq_claimed (tokens : List Token) :
    tokens.length = tokens.countP (fun t => r.ClaimsAsStatus t) +
      tokens.countP (fun t => r.ClaimsAsTag t) + (r.fieldTokens tokens).length := by
  rw [fieldTokens_eq]
  induction tokens with
  | nil => rfl
  | cons t ts ih =>
    have hclaims : r.fieldToken? t = none ↔ r.ClaimsAsStatus t ∨ r.ClaimsAsTag t :=
      fieldToken?_eq_none_iff.trans claims_iff
    rw [List.length_cons, List.countP_cons, List.countP_cons, List.filterMap_cons]
    -- exactly one of the three numbers counts the token
    by_cases hstatus : r.ClaimsAsStatus t
    · have htag := hstatus.not_claimsAsTag
      simp [hclaims.2 (.inl hstatus), hstatus, htag]
      omega
    · by_cases htag : r.ClaimsAsTag t
      · simp [hclaims.2 (.inr htag), hstatus, htag]
        omega
      · have hfield : r.fieldToken? t ≠ none := fun h => (hclaims.1 h).elim hstatus htag
        obtain ⟨u, hu⟩ := Option.ne_none_iff_exists'.1 hfield
        simp [hu, hstatus, htag]
        omega

/-! ### What becomes of the tokens that go on -/

/-- The field that a token is ignored for: the one that it names, if it has a value and there is no
    such field. -/
def ignoredField? (t : Token) : Option String :=
  if t.value = "" then none else t.field.filter fun name => (r.lookup name).isNone

/-- A bare token has a value, but there are no fields that it is looked for in. -/
def LacksDefaults (t : Token) : Prop :=
  t.value ≠ "" ∧ t.field = none ∧ r.defaults (classify t.value) = []

instance : DecidablePred r.LacksDefaults := fun t =>
  decidable_of_iff (t.value ≠ "" ∧ t.field = none ∧ (r.defaults (classify t.value)).isEmpty = true)
    (by rw [LacksDefaults, List.isEmpty_iff])

variable {r}

/-- A registry finds no value in a token exactly if the value of the token is empty. -/
theorem resolution_eq_emptyValue_iff : r.resolution t = .emptyValue ↔ t.value = "" := by
  rw [resolution]
  by_cases hvalue : t.value = ""
  · simp [hvalue]
  · rw [if_neg (by simpa using hvalue), iff_false_right hvalue]
    cases t.field with
    | some name => cases hlookup : r.lookup name <;> simp [hlookup]
    | none => cases Term.anyOf? (r.fanOut t.value) <;> simp

/-- The unknown field of a token is the one that it is ignored for. -/
theorem unknownField?_resolution : (r.resolution t).unknownField? = r.ignoredField? t := by
  rw [resolution, ignoredField?]
  by_cases hvalue : t.value = ""
  · simp [hvalue, Resolution.unknownField?]
  · rw [if_neg (by simpa using hvalue), if_neg hvalue]
    cases t.field with
    | some name =>
      cases hlookup : r.lookup name <;>
        simp [hlookup, Option.filter_some, Resolution.unknownField?]
    | none => cases Term.anyOf? (r.fanOut t.value) <;> rfl

/-- The registry has no fields for a token if it has no default fields for the script class. -/
theorem resolution_eq_noDefaults_iff : r.resolution t = .noDefaults ↔ r.LacksDefaults t := by
  rw [resolution, LacksDefaults]
  by_cases hvalue : t.value = ""
  · simp [hvalue]
  · rw [if_neg (by simpa using hvalue), and_iff_right hvalue]
    cases t.field with
    | some name => cases hlookup : r.lookup name <;> simp [hlookup]
    | none =>
      have hnone : Term.anyOf? (r.fanOut t.value) = none ↔ r.defaults (classify t.value) = [] := by
        rw [Term.anyOf?_eq_none_iff, fanOut, List.map_eq_nil_iff]
      rw [and_iff_right rfl, ← hnone]
      cases Term.anyOf? (r.fanOut t.value) <;> simp

variable (r)

/-- Each token that goes on is ignored for its field, has no value, lacks fields to look for it in,
    or is asked for. -/
theorem length_eq_resolved (tokens : List Token) :
    tokens.length = (tokens.filterMap r.ignoredField?).length +
      tokens.countP (fun t => t.value = "") + tokens.countP (fun t => r.LacksDefaults t) +
      (tokens.filterMap r.resolve).length := by
  induction tokens with
  | nil => rfl
  | cons t ts ih =>
    have hempty := resolution_eq_emptyValue_iff (r := r) (t := t)
    have hlacks := resolution_eq_noDefaults_iff (r := r) (t := t)
    rw [List.length_cons, List.filterMap_cons, List.countP_cons, List.countP_cons,
      List.filterMap_cons, resolve, ← unknownField?_resolution]
    -- exactly one of the four counts the token
    cases hresolution : r.resolution t <;>
      simp only [hresolution, reduceCtorEq, false_iff, true_iff] at hempty hlacks <;>
      simp [Resolution.term?, Resolution.unknownField?, hempty, hlacks] <;> omega

/-! ### Searches -/

/-- The events of a search, and the query that comes of it, account for the tokens of a text. -/
structure Accounts (options : SearchOptions) (raw : String) (tokens : List Token)
    (q : CompiledQuery μ) (events : List Event) : Prop where
  /-- The log shows each unknown review status, if the entity has them; that there are tokens beyond
      the limit, if there are; each unknown field that a token within the limit gives a value for;
      and at last the query. -/
  log : events.map Event.entry =
    (if r.extensions.review then
      (tokens.filter fun t => t.HasUnknownStatus).map fun t =>
        ⟨.debug, "unknown review status", [("keyword", .text t.value)]⟩
    else []) ++
    (if options.maxTokens < (r.fieldTokens tokens).length then
      [⟨.debug, "ignoring excess tokens", [("tokens", .number (r.fieldTokens tokens).length),
        ("max", .number options.maxTokens)]⟩]
    else []) ++
    ((r.keptTokens options tokens).filterMap r.ignoredField?).map (fun name =>
      ⟨.debug, "ignoring unknown field", [("field", .text name)]⟩) ++
    [⟨.trace, "compiled query", [("raw", .text raw), ("unrestricted", .flag q.isUnrestricted),
      ("join", .flag q.requiresJoin)]⟩]
  /-- Each token is claimed for a status, removed as a tag, beyond the limit, logged for its unknown
      field, without a value, without fields to look for it in, or a conjunct of the query. -/
  length_tokens : tokens.length =
    tokens.countP (fun t => r.ClaimsAsStatus t) + tokens.countP (fun t => r.ClaimsAsTag t) +
    ((r.fieldTokens tokens).length - options.maxTokens) +
    events.countP (fun e => e.message = "ignoring unknown field") +
    (r.keptTokens options tokens).countP (fun t => t.value = "") +
    (r.keptTokens options tokens).countP (fun t => r.LacksDefaults t) + q.conjuncts.length

variable (options : SearchOptions) (user raw : String) (tokens : List Token)

/-- The unknown fields are those that tokens are ignored for. -/
theorem unknownFields_eq : r.unknownFields tokens = tokens.filterMap r.ignoredField? :=
  List.filterMap_congr fun _ _ => unknownField?_resolution

/-- The conjuncts of a search are the terms of the tokens within the limit. -/
theorem conjuncts_searchTokens_eq : (r.searchTokens options user tokens).conjuncts =
    (r.keptTokens options tokens).filterMap r.resolve :=
  Term.conjuncts_allOf? isClause_of_mem_filterMap

/-- The tokens that go on to the fields are within the limit or beyond it. -/
theorem length_fieldTokens_eq : (r.fieldTokens tokens).length =
    ((r.fieldTokens tokens).length - options.maxTokens) +
      (r.keptTokens options tokens).length := by
  rw [keptTokens, List.length_take]
  omega

/-- The number of ignored fields can be read off the log. -/
theorem countP_searchEvents :
    (r.searchEvents options user raw).countP (fun e => e.message = "ignoring unknown field") =
      ((r.keptTokens options (tokenize raw)).filterMap r.ignoredField?).length := by
  -- the events of other kinds have another message
  have hreview : (r.reviewEvents (tokenize raw)).countP
      (fun e => e.message = "ignoring unknown field") = 0 := by
    unfold reviewEvents
    split <;> simp [Event.message]
  have hexcess : (r.excessEvents options (tokenize raw)).countP
      (fun e => e.message = "ignoring unknown field") = 0 := by
    simp only [excessEvents]
    split <;> simp [Event.message]
  rw [searchEvents, tokenizeEvents_eq_nil, List.nil_append, List.countP_append,
    List.countP_append, List.countP_append, hreview, hexcess, unknownFields_eq, List.countP_map]
  simp [Function.comp_def, Event.message]

/-- The log shows the tokens with an unknown review status. -/
theorem map_entry_reviewEvents :
    (r.reviewEvents tokens).map Event.entry =
      if r.extensions.review then
        (tokens.filter fun t => t.HasUnknownStatus).map fun t =>
          ⟨.debug, "unknown review status", [("keyword", .text t.value)]⟩
      else [] := by
  rw [reviewEvents, Token.unknownStatuses_eq]
  split
  · rw [List.map_map, List.map_map]
    rfl
  · rfl

/-- The log shows how many tokens there are if some are beyond the limit. -/
theorem map_entry_excessEvents :
    (r.excessEvents options tokens).map Event.entry =
      if options.maxTokens < (r.fieldTokens tokens).length then
        [⟨.debug, "ignoring excess tokens", [("tokens", .number (r.fieldTokens tokens).length),
          ("max", .number options.maxTokens)]⟩]
      else [] := by
  rw [excessEvents]
  split <;> rfl

end Registry

/-- **Every token is accounted for.**  A search logs in order the unknown review statuses, the
    number of tokens if it is beyond the limit, the unknown fields, and the query.  And the tokens
    that are claimed, beyond the limit, logged for their field, or without anything to look for or
    to look in are, together with the conjuncts of the query, as many as the text has. -/
theorem search_accounts {φ μ : Type} (r : Registry φ μ) (options : SearchOptions)
    (user raw : String) :
    r.Accounts options raw (tokenize raw) (r.search options user raw)
      (r.searchEvents options user raw) where
  log := by
    rw [Registry.searchEvents, tokenizeEvents_eq_nil, List.nil_append, List.map_append,
      List.map_append, List.map_append, r.map_entry_reviewEvents, r.map_entry_excessEvents,
      r.unknownFields_eq, List.map_map]
    rfl
  length_tokens := by
    have hclaimed := r.length_eq_claimed (tokenize raw)
    have hkept := r.length_fieldTokens_eq options (tokenize raw)
    have hresolved := r.length_eq_resolved (r.keptTokens options (tokenize raw))
    rw [r.countP_searchEvents, Registry.search, r.conjuncts_searchTokens_eq]
    omega

end FieldSearch
