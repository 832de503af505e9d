import FieldSearch.Search

namespace FieldSearch

/-!
# Sessions

The parts of a search can also be run one by one, in any order, on a list of tokens and a compiled
query.

* `Session` is the state, `SessionStep` lists the operations on it;
* `Session.run` gives the states after each of a list of steps.
-/

/-- Tokens, and the query that is compiled from them step by step. -/
structure Session (μ : Type) where
  tokens : List Token := []
  query : CompiledQuery μ := {}
deriving Inhabited

/-- An operation on a session. -/
inductive SessionStep where
  /-- Appends the tokens of a text. -/
  | tokenize (raw : String)
  /-- Appends a token. -/
  | push (token : Token)
  /-- Claims the review statuses of the tokens. -/
  | claimReview (user : String)
  /-- Sets the tag filter to that of the tokens. -/
  | collectTags (user : String)
  /-- Removes the tokens that ask for a tag. -/
  | dropTags
  /-- Sets the term to that of the tokens. -/
  | compile
  /-- Sets the term to that of the first token. -/
  | resolveFirst
  /-- Makes the term the only child of an *any of* node. -/
  | wrapAny
  /-- Makes the term the only child of an *all of* node. -/
  | wrapAll
  /-- Makes the term both children of an *any of* node. -/
  | doubleAny
  /-- Compacts the term. -/
  | compact
  /-- Sets the query to the result of a search. -/
  | search (options : SearchOptions) (user raw : String)

namespace Session

variable {φ μ : Type}

/-- Changes the term of the query, if there is one. -/
def mapTerm (f : Term μ → Term μ) (s : Session μ) : Session μ :=
  { s with query := { s.query with term? := s.query.term?.map f } }

/-- Replaces the term of the query. -/
def setTerm (term? : Option (Term μ)) (s : Session μ) : Session μ :=
  { s with query := { s.query with term? } }

/-- The session after one step. -/
def step (r : Registry φ μ) (s : Session μ) : SessionStep → Session μ
  | .tokenize raw => { s with tokens := s.tokens ++ FieldSearch.tokenize raw }
  | .push token => { s with tokens := s.tokens ++ [token] }
  | .claimReview user =>
    { tokens := Review.remaining s.tokens
      query := { s.query with review? := ReviewFilter.ofTokens? user s.tokens } }
  | .collectTags user =>
    { s with query := { s.query with tags? := TagFilter.ofTokens? user s.tokens } }
  | .dropTags => { s with tokens := s.tokens.filter fun t => !t.isTag }
  | .compile => s.setTerm (r.compile s.tokens)
  | .resolveFirst => s.setTerm (s.tokens.head?.bind r.resolve)
  | .wrapAny => s.mapTerm fun t => .any [t]
  | .wrapAll => s.mapTerm fun t => .all [t]
  | .doubleAny => s.mapTerm fun t => .any [t, t]
  | .compact => s.mapTerm Term.compact
  | .search options user raw => { s with query := r.search options user raw }

/-- The sessions after each of the steps. -/
def run (r : Registry φ μ) (s : Session μ) : List SessionStep → List (Session μ)
  | [] => []
  | step :: steps => s.step r step :: run r (s.step r step) steps

end Session

end FieldSearch
