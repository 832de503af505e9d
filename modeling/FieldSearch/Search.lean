import FieldSearch.Registry
import FieldSearch.Review
import FieldSearch.Tagging
import FieldSearch.Token.Grammar

namespace FieldSearch

/-!
# Searching

A search splits a query into tokens, has the extensions of the entity claim theirs, and compiles
what is left.  What it leaves out of account, and what it makes of a query, is logged.

* `CompiledQuery` has three parts, all of which an entry has to satisfy: a term over the fields of
  the entity, the tags that the entry has to carry, and the review statuses of which it has to have
  one; a part that is missing restricts nothing;
* `Event` lists what can be logged; each event has a level, a message and fields;
* `Registry.afterReview` and `Registry.fieldTokens` are the tokens that the review statuses, and
  then the tags, leave over; `Registry.keptTokens` are those within the limit on their number;
* `Registry.search` compiles a query, `Registry.searchEvents` is what it logs.
-/

/-- A query, compiled for an entity with matches `μ`. -/
structure CompiledQuery (μ : Type) where
  term? : Option (Term μ) := none
  tags? : Option TagFilter := none
  review? : Option ReviewFilter := none
deriving Inhabited

namespace CompiledQuery

variable {μ : Type}

/-- Whether the query restricts nothing. -/
def isUnrestricted (q : CompiledQuery μ) : Bool :=
  q.term?.isNone && q.tags?.isNone && q.review?.isNone

/-- Whether the user's review records have to be joined to the entries.  If not, they must not be,
    as an entry would show up once for each of its records. -/
def requiresJoin (q : CompiledQuery μ) : Bool := q.review?.isSome

end CompiledQuery

/-! ### Log events -/

/-- How important a log event is. -/
inductive Level where
  | trace
  | debug
  | warn
deriving DecidableEq

/-- The value of a field of a log event. -/
inductive EventValue where
  | text (s : String)
  | number (n : Nat)
  | flag (b : Bool)
  /-- The errors of a reading that stops before the end, by what it leaves unread. -/
  | unread (rest : String)
deriving DecidableEq

/-- What a search logs. -/
inductive Event where
  /-- The text is no query, and is split at its blank characters instead. -/
  | untokenized (rest : String)
  /-- A token has the qualifier of review statuses, but its value is none of them. -/
  | unknownStatus (keyword : String)
  /-- There are more field tokens than are taken into account. -/
  | excessTokens (tokens max : Nat)
  /-- A token names a field that the entity does not have. -/
  | unknownField (field : String)
  /-- The query is compiled. -/
  | compiled (raw : String) (unrestricted join : Bool)
deriving DecidableEq

namespace Event

/-- The level of an event. -/
def level : Event → Level
  | untokenized _ => .warn
  | compiled .. => .trace
  | _ => .debug

/-- The message of an event. -/
def message : Event → String
  | untokenized _ => "unable to tokenize query, splitting on whitespace"
  | unknownStatus _ => "unknown review status"
  | excessTokens .. => "ignoring excess tokens"
  | unknownField _ => "ignoring unknown field"
  | compiled .. => "compiled query"

/-- The fields of an event. -/
def fields : Event → List (String × EventValue)
  | untokenized rest => [("errors", .unread rest)]
  | unknownStatus keyword => [("keyword", .text keyword)]
  | excessTokens tokens max => [("tokens", .number tokens), ("max", .number max)]
  | unknownField field => [("field", .text field)]
  | compiled raw unrestricted join =>
    [("raw", .text raw), ("unrestricted", .flag unrestricted), ("join", .flag join)]

end Event

/-- What splitting a text into tokens logs: that it is cut at its blank characters, if it has no other
    reading. -/
def tokenizeEvents (raw : String) : List Event :=
  match Grammar.query.whole raw.toList with
  | some _ => []
  | none => [.untokenized (String.ofList (Grammar.tokens raw.toList).2)]

/-! ### Compiling a query -/

/-- The options of a search. -/
structure SearchOptions where
  /-- The number of field tokens that are taken into account.  Tokens that an extension claims do
      not count. -/
  maxTokens : Nat := 64
deriving DecidableEq, Inhabited

namespace Registry

variable {φ μ : Type}

/-- The tokens that go on after review statuses are claimed, if the entity has them. -/
def afterReview (r : Registry φ μ) (tokens : List Token) : List Token :=
  if r.extensions.review then Review.remaining tokens else tokens

/-- The tokens that are meant for the fields of the entity: neither a review status nor a tag, as
    far as the entity has them. -/
def fieldTokens (r : Registry φ μ) (tokens : List Token) : List Token :=
  if r.extensions.tags then (r.afterReview tokens).filter fun t => !t.isTag
  else r.afterReview tokens

/-- The field tokens that are taken into account. -/
def keptTokens (r : Registry φ μ) (options : SearchOptions) (tokens : List Token) : List Token :=
  (r.fieldTokens tokens).take options.maxTokens

/-- The review filter of the tokens, if the entity has review statuses. -/
def reviewFilter? (r : Registry φ μ) (user : String) (tokens : List Token) :
    Option ReviewFilter :=
  if r.extensions.review then ReviewFilter.ofTokens? user tokens else none

/-- The tag filter of the tokens, if the entity has tags. -/
def tagFilter? (r : Registry φ μ) (user : String) (tokens : List Token) : Option TagFilter :=
  if r.extensions.tags then TagFilter.ofTokens? user (r.afterReview tokens) else none

/-- The compiled query of a list of tokens. -/
def searchTokens (r : Registry φ μ) (options : SearchOptions) (user : String)
    (tokens : List Token) : CompiledQuery μ where
  term? := r.compile (r.keptTokens options tokens)
  tags? := r.tagFilter? user tokens
  review? := r.reviewFilter? user tokens

/-- The compiled query of a text. -/
def search (r : Registry φ μ) (options : SearchOptions) (user raw : String) : CompiledQuery μ :=
  r.searchTokens options user (tokenize raw)

/-! ### The log -/

/-- The event for field tokens beyond the limit, if there are any. -/
def excessEvents (r : Registry φ μ) (options : SearchOptions) (tokens : List Token) :
    List Event :=
  let count := (r.fieldTokens tokens).length
  if options.maxTokens < count then [.excessTokens count options.maxTokens] else []

/-- The events for values that were given as a review status, if the entity has review statuses. -/
def reviewEvents (r : Registry φ μ) (tokens : List Token) : List Event :=
  if r.extensions.review then (Review.unknownStatuses tokens).map .unknownStatus else []

/-- What a search logs, in its order. -/
def searchEvents (r : Registry φ μ) (options : SearchOptions) (user raw : String) :
    List Event :=
  let tokens := tokenize raw
  let query := r.searchTokens options user tokens
  tokenizeEvents raw ++ r.reviewEvents tokens ++ r.excessEvents options tokens ++
    (r.unknownFields (r.keptTokens options tokens)).map .unknownField ++
    [.compiled raw query.isUnrestricted query.requiresJoin]

end Registry

end FieldSearch
