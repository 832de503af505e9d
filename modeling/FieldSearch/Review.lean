import FieldSearch.Token

namespace FieldSearch

/-!
# Review statuses

An entry has a review status from the user's record of spaced repetition.  Tokens that name a status
are claimed before the fields of an entity are looked at.  A status is named by the qualifier `is`,
quoted or not, or by a bare term that is not quoted.

* `ReviewStatus.ofKeyword?` reads a status keyword, up to ASCII case; `ReviewStatus.keyword`
  writes it;
* `StatusSet` is a set of statuses, `StatusSet.toList` lists it in the order due, new, leech;
* `Token.reviewClaim` says what becomes of a token: it is claimed for a status, it is a qualified
  token without a known status and goes on as a bare term, or it is left alone;
* `ReviewFilter.ofTokens?` collects the statuses, `Review.remaining` has the tokens that go on.
-/

/-- The review status of an entry. -/
inductive ReviewStatus where
  /-- The next review is due. -/
  | due
  /-- There was no review yet. -/
  | new
  /-- Too many reviews in a row have failed. -/
  | leech
deriving DecidableEq, Inhabited

namespace ReviewStatus

/-- All statuses, in their order. -/
def all : List ReviewStatus := [due, new, leech]

/-- The keyword of a status. -/
def keyword : ReviewStatus → String
  | due => "due"
  | new => "new"
  | leech => "leech"

/-- The status that a text names, up to ASCII case. -/
def ofKeyword? (text : String) : Option ReviewStatus :=
  all.find? fun status => asciiFold text == status.keyword

end ReviewStatus

/-- A set of review statuses. -/
structure StatusSet where
  due : Bool := false
  new : Bool := false
  leech : Bool := false
deriving DecidableEq, Inhabited

namespace StatusSet

/-- Whether a status is in the set. -/
def contains (s : StatusSet) : ReviewStatus → Bool
  | .due => s.due
  | .new => s.new
  | .leech => s.leech

/-- Adds a status to the set. -/
def insert (s : StatusSet) : ReviewStatus → StatusSet
  | .due => { s with due := true }
  | .new => { s with new := true }
  | .leech => { s with leech := true }

/-- The set of the statuses of a list. -/
def ofList (statuses : List ReviewStatus) : StatusSet := statuses.foldl insert {}

/-- The statuses of the set, in their order. -/
def toList (s : StatusSet) : List ReviewStatus := ReviewStatus.all.filter s.contains

/-- Whether the set has no status. -/
def isEmpty (s : StatusSet) : Bool := s.toList.isEmpty

/-- After an insertion the set has the new status and the old ones. -/
@[simp] theorem contains_insert (s : StatusSet) (x y : ReviewStatus) :
    (s.insert x).contains y = (decide (y = x) || s.contains y) := by
  cases x <;> cases y <;> simp [insert, contains]

/-- Two sets with the same statuses are equal. -/
@[ext] theorem ext {s t : StatusSet} (h : ∀ x, s.contains x = t.contains x) : s = t := by
  cases s
  cases t
  have h₁ := h .due
  have h₂ := h .new
  have h₃ := h .leech
  simp_all [contains]

/-- A set lists exactly its statuses. -/
@[simp] theorem mem_toList {s : StatusSet} {x : ReviewStatus} :
    x ∈ s.toList ↔ s.contains x = true := by
  cases x <;> simp [toList, ReviewStatus.all]

/-- A set collected from a list has exactly the statuses of the list. -/
@[simp] theorem contains_ofList (statuses : List ReviewStatus) (x : ReviewStatus) :
    (ofList statuses).contains x = true ↔ x ∈ statuses := by
  suffices h : ∀ s : StatusSet,
      (statuses.foldl insert s).contains x = true ↔ x ∈ statuses ∨ s.contains x = true by
    have := h {}
    cases x <;> simpa [ofList, contains] using this
  induction statuses with
  | nil => simp
  | cons y ys ih => intro s; simp [ih]; grind

end StatusSet

/-! ### Review filters -/

/-- The review statuses, of which an entry has to have one, from the records of a user. -/
structure ReviewFilter where
  user : String
  statuses : StatusSet
deriving DecidableEq

/-- What becomes of a token when review statuses are claimed. -/
inductive ReviewClaim where
  /-- It is claimed for a status. -/
  | claimed (status : ReviewStatus)
  /-- It has the qualifier, but names no status: it goes on as a bare term. -/
  | unknownStatus
  /-- It goes on unchanged. -/
  | unrelated
deriving DecidableEq

namespace Token

/-- Whether a token has the qualifier of review statuses. -/
def isReview (t : Token) : Bool := t.hasField "is"

/-- What becomes of a token when review statuses are claimed. -/
def reviewClaim (t : Token) : ReviewClaim :=
  if t.isReview then
    match ReviewStatus.ofKeyword? t.value with
    | some status => .claimed status
    | none => .unknownStatus
  else if t.isBare && !t.quoted then
    match ReviewStatus.ofKeyword? t.value with
    | some status => .claimed status
    | none => .unrelated
  else .unrelated

/-- The status that a token is claimed for. -/
def reviewStatus? (t : Token) : Option ReviewStatus :=
  match t.reviewClaim with
  | .claimed status => some status
  | _ => none

/-- The token that goes on, unless it is claimed. -/
def afterReview? (t : Token) : Option Token :=
  match t.reviewClaim with
  | .claimed _ => none
  | .unknownStatus => some { t with field := none }
  | .unrelated => some t

/-- The value of a token that has the qualifier but names no status. -/
def unknownStatus? (t : Token) : Option String :=
  match t.reviewClaim with
  | .unknownStatus => some t.value
  | _ => none

end Token

namespace Review

/-- The tokens that go on after the review statuses are claimed, in their order. -/
def remaining (tokens : List Token) : List Token := tokens.filterMap Token.afterReview?

/-- The values that were given as a status but are none, in the order of the tokens. -/
def unknownStatuses (tokens : List Token) : List String := tokens.filterMap Token.unknownStatus?

end Review

/-- The filter for all review statuses that the tokens name. -/
def ReviewFilter.ofTokens? (user : String) (tokens : List Token) : Option ReviewFilter :=
  let statuses := StatusSet.ofList (tokens.filterMap Token.reviewStatus?)
  if statuses.isEmpty then none else some { user, statuses }

end FieldSearch
