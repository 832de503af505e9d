import FieldSearch.Proofs.Search.Claims
import FieldSearch.Session

namespace FieldSearch

/-!
# The order of the two passes

Review statuses are claimed in one pass over the tokens, tags in another.  Each pass rewrites what
the other one reads: the first makes bare tokens of arbitrary values, the second leaves tokens out.
All the same they commute.

* `Token.reviewStatus?_of_isTag` says that the first pass claims no token that asks for a tag, and
  `Token.filter_isTag_afterReview?` that it neither makes nor undoes one;
* `TagFilter.ofTokens?_remaining`, `ReviewFilter.ofTokens?_untagged` and `Review.remaining_untagged`
  say what either pass gives behind the other;
* `Session.after` is the last session of a run; `Session.step_claimReview_comm` and
  `Session.after_claimReview_comm` exchange the pass for review statuses with one step of the other
  pass, and with any number of them;
* `passes_commute` compares both orders with each other and with a search.
-/

/-! ### A token -/

namespace Token

/-- A token that asks for a tag is not claimed for a review status. -/
theorem reviewStatus?_of_isTag {t : Token} (h : t.isTag = true) : t.reviewStatus? = none := by
  apply Option.eq_none_iff_forall_ne_some.2
  intro status hstatus
  have hnames := reviewStatus?_eq_some_iff.1 hstatus
  rw [hnames.isTag_eq_false] at h
  exact Bool.false_ne_true h

/-- Leaving out what asks for a tag comes to the same before and after review statuses are
    claimed. -/
theorem filter_isTag_afterReview? (t : Token) :
    (t.afterReview?.filter fun u => !u.isTag) = if !t.isTag then t.afterReview? else none := by
  cases h : t.afterReview? with
  | none => exact (ite_self none).symm
  | some u => rw [Option.filter_some, isTag_of_afterReview? h]

end Token

/-! ### Lists of tokens -/

/-- The tokens that ask for no tag, in their order. -/
def untagged (tokens : List Token) : List Token := tokens.filter fun t => !t.isTag

/-- The tags that are asked for are the same after review statuses are claimed. -/
theorem TagFilter.ofTokens?_remaining (user : String) (tokens : List Token) :
    ofTokens? user (Review.remaining tokens) = ofTokens? user tokens := by
  have htags : (Review.remaining tokens).filterMap Token.tag? = tokens.filterMap Token.tag? := by
    rw [Review.remaining, List.filterMap_filterMap]
    exact List.filterMap_congr fun t _ => t.bind_tag?_afterReview?
  rw [ofTokens?, ofTokens?, htags]

/-- The statuses that are named are the same without the tokens that ask for tags. -/
theorem ReviewFilter.ofTokens?_untagged (user : String) (tokens : List Token) :
    ofTokens? user (untagged tokens) = ofTokens? user tokens := by
  have hstatuses :
      (untagged tokens).filterMap Token.reviewStatus? = tokens.filterMap Token.reviewStatus? := by
    rw [untagged, List.filterMap_filter]
    refine List.filterMap_congr fun t _ => ?_
    by_cases htag : t.isTag = true
    · -- a token that is left out would not have been claimed
      rw [Token.reviewStatus?_of_isTag htag, ite_self]
    · rw [Bool.not_eq_true] at htag
      rw [htag]
      rfl
  rw [ofTokens?, ofTokens?, hstatuses]

/-- The tokens that both passes leave over are the same in either order. -/
theorem Review.remaining_untagged (tokens : List Token) :
    remaining (untagged tokens) = untagged (remaining tokens) := by
  rw [untagged, untagged, remaining, remaining, List.filterMap_filter, List.filter_filterMap]
  exact List.filterMap_congr fun t _ => t.filter_isTag_afterReview?.symm

/-! ### Steps of a session -/

/-- The steps that collect tags and remove the tokens that ask for them. -/
inductive SessionStep.IsForTags : SessionStep → Prop
  | collectTags (user : String) : IsForTags (.collectTags user)
  | dropTags : IsForTags .dropTags

namespace Session

variable {φ μ : Type} {r : Registry φ μ}

/-- The session after all of the steps. -/
def after (r : Registry φ μ) (s : Session μ) (steps : List SessionStep) : Session μ :=
  steps.foldl (Session.step r) s

/-- The session after some steps is the last one of their run. -/
theorem getLast?_run (s : Session μ) (x : SessionStep) (steps : List SessionStep) :
    (run r s (x :: steps)).getLast? = some (after r s (x :: steps)) := by
  induction steps generalizing s x with
  | nil => rfl
  | cons y steps ih =>
    rw [run, run, List.getLast?_cons_cons]
    exact ih (s.step r x) y

/-- Claiming review statuses commutes with each step for tags. -/
theorem step_claimReview_comm {x : SessionStep} (hx : x.IsForTags) (s : Session μ)
    (user : String) :
    (s.step r (.claimReview user)).step r x = (s.step r x).step r (.claimReview user) := by
  cases hx with
  | collectTags user' =>
    simp only [step, TagFilter.ofTokens?_remaining]
  | dropTags =>
    have htokens := Review.remaining_untagged s.tokens
    have hfilter := ReviewFilter.ofTokens?_untagged user s.tokens
    unfold untagged at htokens hfilter
    simp only [step, htokens, hfilter]

/-- Claiming review statuses commutes with any steps for tags. -/
theorem after_claimReview_comm {steps : List SessionStep} (hsteps : ∀ x ∈ steps, x.IsForTags)
    (s : Session μ) (user : String) :
    after r (s.step r (.claimReview user)) steps =
      (after r s steps).step r (.claimReview user) := by
  induction steps generalizing s with
  | nil => rfl
  | cons x steps ih =>
    obtain ⟨hx, hsteps⟩ := List.forall_mem_cons.1 hsteps
    calc after r (s.step r (.claimReview user)) (x :: steps)
        = after r ((s.step r (.claimReview user)).step r x) steps := rfl
      _ = after r ((s.step r x).step r (.claimReview user)) steps := by
          rw [step_claimReview_comm hx]
      _ = (after r (s.step r x) steps).step r (.claimReview user) := ih hsteps (s.step r x)

/-- The pass for review statuses commutes with the one for tags. -/
theorem after_passes_comm (s : Session μ) (user : String) :
    after r s [.claimReview user, .collectTags user, .dropTags] =
      after r s [.collectTags user, .dropTags, .claimReview user] := by
  -- the first step is moved behind the two others
  apply after_claimReview_comm
  intro x hx
  simp only [List.mem_cons, List.not_mem_nil, or_false] at hx
  rcases hx with rfl | rfl
  · exact .collectTags user
  · exact .dropTags

/-- The steps of a search for an entity with both extensions, if its limit leaves no token out. -/
theorem query_after_eq_search {options : SearchOptions} {raw : String} (user : String)
    (htags : r.extensions.tags = true) (hreview : r.extensions.review = true)
    (hlimit : (untagged (Review.remaining (tokenize raw))).length ≤ options.maxTokens) :
    (after r {} [.tokenize raw, .claimReview user, .collectTags user, .dropTags, .compile]).query =
      r.search options user raw := by
  -- with both extensions a search makes the two passes in this order
  have hafter : r.afterReview (tokenize raw) = Review.remaining (tokenize raw) := if_pos hreview
  have hkept : r.keptTokens options (tokenize raw) = untagged (Review.remaining (tokenize raw)) := by
    unfold Registry.keptTokens Registry.fieldTokens
    rw [if_pos htags, hafter]
    exact List.take_of_length_le hlimit
  unfold Registry.search Registry.searchTokens Registry.reviewFilter? Registry.tagFilter?
  rw [hkept, if_pos hreview, if_pos htags, hafter]
  rfl

end Session

/-- **The two passes commute.**  For whatever tokens, the tokens that ask for tags change nothing in
    the statuses that are claimed, claiming these changes nothing in the tags, and the tokens left
    over are the same in either order; so from any session the passes lead to the same one.  For an
    entity with both extensions, and a limit that is not exceeded by the tokens left over, a search
    is the two passes in either order, and compiling after them. -/
theorem passes_commute {φ μ : Type} (r : Registry φ μ) (user : String) :
    (∀ tokens : List Token,
      ReviewFilter.ofTokens? user (untagged tokens) = ReviewFilter.ofTokens? user tokens ∧
      TagFilter.ofTokens? user (Review.remaining tokens) = TagFilter.ofTokens? user tokens ∧
      Review.remaining (untagged tokens) = untagged (Review.remaining tokens)) ∧
    (∀ s : Session μ,
      (Session.run r s [.claimReview user, .collectTags user, .dropTags]).getLast? =
        (Session.run r s [.collectTags user, .dropTags, .claimReview user]).getLast?) ∧
    ∀ (options : SearchOptions) (raw : String),
      r.extensions.tags = true → r.extensions.review = true →
      (untagged (Review.remaining (tokenize raw))).length ≤ options.maxTokens →
      (Session.run r {} [.tokenize raw, .claimReview user, .collectTags user, .dropTags,
        .compile]).getLast?.map (·.query) = some (r.search options user raw) ∧
      (Session.run r {} [.tokenize raw, .collectTags user, .dropTags, .claimReview user,
        .compile]).getLast?.map (·.query) = some (r.search options user raw) := by
  simp only [Session.getLast?_run, Option.map_some, Option.some.injEq]
  refine ⟨fun tokens => ⟨ReviewFilter.ofTokens?_untagged user tokens,
    TagFilter.ofTokens?_remaining user tokens, Review.remaining_untagged tokens⟩,
    fun s => Session.after_passes_comm s user, fun options raw htags hreview hlimit => ?_⟩
  have hsearch := Session.query_after_eq_search user htags hreview hlimit
  refine ⟨hsearch, ?_⟩
  -- both orders lead to the same session, and the last step is the same
  have hcomm := Session.after_passes_comm (r := r) (Session.step r {} (.tokenize raw)) user
  exact (congrArg (fun s => (Session.step r s .compile).query) hcomm).symm.trans hsearch

/-- A quoted value that looks like a tag, tags between and a status as a tag: of what is left over,
    the limit is not exceeded. -/
theorem passes_commute_interleaved :
    let raw := "is:\"tag:x\" tag:b DUE tag:due entry:a"
    (Extra.registry.extensions.tags = true ∧ Extra.registry.extensions.review = true ∧
      (untagged (Review.remaining (tokenize raw))).length ≤ 2) ∧
    (Session.run Extra.registry {} [.tokenize raw, .claimReview "u", .collectTags "u", .dropTags,
      .compile]).getLast?.map (·.query) =
        some (Extra.registry.search { maxTokens := 2 } "u" raw) ∧
    (Session.run Extra.registry {} [.tokenize raw, .collectTags "u", .dropTags, .claimReview "u",
      .compile]).getLast?.map (·.query) =
        some (Extra.registry.search { maxTokens := 2 } "u" raw) := by
  intro raw
  have hlimit : (untagged (Review.remaining (tokenize raw))).length ≤ 2 := by decide +kernel
  obtain ⟨-, -, hsearch⟩ := passes_commute Extra.registry "u"
  exact ⟨⟨rfl, rfl, hlimit⟩, hsearch { maxTokens := 2 } raw rfl rfl hlimit⟩

/-- A status that loses its qualifier does not become a tag, and a tag is no status. -/
example :
    untagged (Review.remaining [{ field := some "is", value := "tag:x", quoted := true },
      { field := some "Tag", value := "due" }, .ofWord "due", { field := some "IS", value := "b" }]) =
    [{ value := "tag:x", quoted := true }, { value := "b" }] := by
  decide +kernel

end FieldSearch
