import FieldSearch.Extra
import FieldSearch.Proofs.Sql.Populated
import FieldSearch.Session

namespace FieldSearch

/-!
# What the operations of a session keep

The parts of a search can be run in any order, on any tokens.  None of them makes a part of a query
that is empty, and those that only change the form of the term keep its meaning.

* `CompiledQuery.IsPopulated` is kept by each step, by `Session.isPopulated_step`, and so by each
  run;
* `SessionStep.Reshapes` are the steps that change the form of the term, and by
  `Session.holds_step` they keep its truth value;
* `session_isPopulated` says both of every run.
-/

/-! ### Steps -/

/-- The step changes only the form of the term. -/
inductive SessionStep.Reshapes : SessionStep → Prop
  | wrapAny : Reshapes .wrapAny
  | wrapAll : Reshapes .wrapAll
  | doubleAny : Reshapes .doubleAny
  | compact : Reshapes .compact

namespace Session

variable {φ μ : Type} {r : Registry φ μ} {s : Session μ}

/-- A change of the term that empties no node empties no part of the query. -/
theorem isPopulated_mapTerm {f : Term μ → Term μ} (h : s.query.IsPopulated)
    (hf : ∀ t : Term μ, t.IsPopulated → (f t).IsPopulated) :
    (s.mapTerm f).query.IsPopulated := by
  refine ⟨h.tags_ne_nil, h.empty_notMem, h.exists_status, fun t ht => ?_⟩
  obtain ⟨u, hu, rfl⟩ := Option.map_eq_some_iff.1 ht
  exact hf u (h.term u hu)

/-- Another term empties no part of the query, if none of its nodes is empty. -/
theorem isPopulated_setTerm {term? : Option (Term μ)} (h : s.query.IsPopulated)
    (hterm : ∀ t, term? = some t → t.IsPopulated) : (s.setTerm term?).query.IsPopulated :=
  ⟨h.tags_ne_nil, h.empty_notMem, h.exists_status, hterm⟩

/-- No step empties a part of the query. -/
theorem isPopulated_step (step : SessionStep) (h : s.query.IsPopulated) :
    (s.step r step).query.IsPopulated := by
  cases step with
  | tokenize raw => exact h
  | push token => exact h
  | claimReview user =>
    exact ⟨h.tags_ne_nil, h.empty_notMem, fun f => ReviewFilter.exists_status_of_ofTokens?, h.term⟩
  | collectTags user =>
    exact ⟨fun f hf => (TagFilter.of_ofTokens? hf).1, fun f hf => (TagFilter.of_ofTokens? hf).2,
      h.exists_status, h.term⟩
  | dropTags => exact h
  | compile => exact isPopulated_setTerm h fun t => Registry.isPopulated_of_compile
  -- the term of one token is a clause
  | resolveFirst =>
    refine isPopulated_setTerm h fun t ht => ?_
    obtain ⟨token, -, hresolve⟩ := Option.bind_eq_some_iff.1 ht
    exact (Registry.isClause_of_resolve hresolve).isPopulated
  | wrapAny => exact isPopulated_mapTerm h fun t ht => .any (by simp) (by simpa using ht)
  | wrapAll => exact isPopulated_mapTerm h fun t ht => .all (by simp) (by simpa using ht)
  | doubleAny => exact isPopulated_mapTerm h fun t ht => .any (by simp) (by simpa using ht)
  | compact => exact isPopulated_mapTerm h fun t ht => ht.compact
  | search options user raw => exact r.isPopulated_searchTokens options user _

/-- What each step keeps holds of all sessions of a run, if it holds of the first. -/
theorem run_induction {P : Session μ → Prop} (hstep : ∀ s step, P s → P (Session.step r s step))
    {steps : List SessionStep} (h : P s) : ∀ s' ∈ run r s steps, P s' := by
  induction steps generalizing s with
  | nil => exact fun s' hs' => absurd hs' List.not_mem_nil
  | cons x steps ih =>
    -- the session behind the first step is the first of the rest of the run
    have hnext := hstep s x h
    intro s' hs'
    rcases List.mem_cons.1 hs' with rfl | hs'
    · exact hnext
    · exact ih hnext s' hs'

/-- A run from a session without empty parts has no session with one. -/
theorem isPopulated_run {steps : List SessionStep} (h : s.query.IsPopulated) :
    ∀ s' ∈ run r s steps, s'.query.IsPopulated :=
  run_induction (fun _ step h => isPopulated_step step h) h

/-- A step that changes only the form of the term keeps its truth value. -/
theorem holds_step {step : SessionStep} (h : step.Reshapes) (v : μ → Bool) :
    (s.step r step).query.term?.map (Term.holds v) = s.query.term?.map (Term.holds v) := by
  -- each of these steps is a change of the term that keeps its truth value
  have hmap {f : Term μ → Term μ} (hf : ∀ t, (f t).holds v = t.holds v) :
      (s.mapTerm f).query.term?.map (Term.holds v) = s.query.term?.map (Term.holds v) := by
    rw [mapTerm, Option.map_map]
    exact Option.map_congr fun t _ => hf t
  cases h with
  | wrapAny => exact hmap fun t => by simp
  | wrapAll => exact hmap fun t => by simp
  | doubleAny => exact hmap fun t => by simp
  | compact => exact hmap fun t => t.holds_compact v

end Session

/-- **Sessions stay populated.**  After any steps from the empty session, in any order, a tag filter
    has tags and none of them is empty, a review filter has a status, and no node of the term is
    empty; so no constant is printed for the term, and no empty list of tags.  The steps that only
    change the form of the term keep its truth value, whichever matches hold. -/
theorem session_isPopulated {φ μ : Type} (r : Registry φ μ) (steps : List SessionStep) :
    (∀ s ∈ Session.run r {} steps, s.query.IsPopulated ∧ s.query.PrintsNoGap) ∧
      ∀ (s : Session μ) (step : SessionStep), step.Reshapes → ∀ v : μ → Bool,
        (s.step r step).query.term?.map (Term.holds v) = s.query.term?.map (Term.holds v) := by
  have hempty : ({} : Session μ).query.IsPopulated := ⟨nofun, nofun, nofun, nofun⟩
  refine ⟨fun s hs => ?_, fun s step h v => Session.holds_step h v⟩
  have hpopulated := Session.isPopulated_run hempty s hs
  exact ⟨hpopulated, hpopulated.printsNoGap⟩

/-- Tags, one of them empty, a status and a field are collected token by token; then the term is
    wrapped, doubled and compacted. -/
theorem session_isPopulated_wrapped :
    let steps : List SessionStep :=
      [.push { field := some "TAG", value := "" }, .push { field := some "tag", value := "x" },
        .push (.ofWord "due"), .push { field := some "entry", value := "a" }, .collectTags "u",
        .claimReview "u", .dropTags, .compile, .wrapAll, .doubleAny, .wrapAny, .compact]
    ∃ s ∈ Session.run Extra.registry {} steps,
      (s.query.term?.isSome && s.query.tags?.isSome && s.query.review?.isSome) = true ∧
        (s.query.IsPopulated ∧ s.query.PrintsNoGap) ∧ ∀ v,
          (s.step Extra.registry .compact).query.term?.map (Term.holds v) =
            s.query.term?.map (Term.holds v) := by
  intro steps
  obtain ⟨hrun, hreshape⟩ := session_isPopulated Extra.registry steps
  have hparts : (Session.run Extra.registry {} steps).any (fun s =>
      s.query.term?.isSome && s.query.tags?.isSome && s.query.review?.isSome) = true := by
    decide +kernel
  obtain ⟨s, hs, hs'⟩ := List.any_eq_true.1 hparts
  exact ⟨s, hs, hs', hrun s hs, hreshape s .compact .compact⟩

end FieldSearch
