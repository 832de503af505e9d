import FieldSearch.Proofs.Token.Lexeme
import Mathlib.Data.List.Basic

namespace FieldSearch

/-!
# The rules read lexemes

What each rule of the grammar reads, in terms of the lexemes that stand at the beginning of a text.

* a run, a quoted value and a plain value are read as the longest run and the quoted span that they
  are (`Grammar.run_of_isLongestRun`, `Grammar.quotedValue_eq_some_iff`);
* `IsLexeme.token_eq` says that the rule for a token reads a lexeme, and leaves what follows it;
* `IsLexeme.unique` concludes that a text starts with at most one lexeme.
-/

namespace Grammar

/-- A run reads the longest front of its class. -/
theorem run_of_isLongestRun {p : Char → Bool} {x rest : List Char}
    (h : IsLongestRun p x (x ++ rest)) : run p (x ++ rest) = some (String.ofList x, rest) := by
  obtain ⟨hne, htake⟩ := isLongestRun_iff_takeWhile.1 h
  -- what the class leaves is what stands behind the run
  have hdrop : (x ++ rest).dropWhile p = rest := by
    have happ := List.takeWhile_append_dropWhile (p := p) (l := x ++ rest)
    rw [← htake] at happ
    exact List.append_cancel_left happ
  rw [run, ← htake, hdrop]
  simp [hne]

/-- What a run reads is the longest front of its class. -/
theorem isLongestRun_of_run {p : Char → Bool} {s rest : List Char} {v : String}
    (h : run p s = some (v, rest)) :
    ∃ x, v = String.ofList x ∧ s = x ++ rest ∧ IsLongestRun p x s := by
  unfold run at h
  split at h
  · exact absurd h (by simp)
  · rename_i hne
    simp only [Option.some.injEq, Prod.mk.injEq] at h
    obtain ⟨rfl, rfl⟩ := h
    refine ⟨s.takeWhile p, rfl, List.takeWhile_append_dropWhile.symm, ?_⟩
    exact isLongestRun_iff_takeWhile.2 ⟨by simpa using hne, rfl⟩

/-- A run reads nothing where its class does not begin. -/
theorem run_eq_none {p : Char → Bool} {c : Char} {cs : List Char} (h : p c = false) :
    run p (c :: cs) = none := by
  simp [run, h]

/-- The test for a boundary is true at boundaries. -/
theorem atBoundary_iff (rest : List Char) : atBoundary rest = true ↔ IsBoundary rest := by
  cases rest <;> simp [atBoundary, IsBoundary]

/-- A quoted value is a body between double quotes that ends at a boundary. -/
theorem quotedValue_eq_some_iff {s rest : List Char} {v : String} :
    quotedValue s = some (v, rest) ↔
      ∃ body text, Quoted.IsBody body text ∧ v = String.ofList text ∧
        s = '"' :: (body ++ '"' :: rest) ∧ IsBoundary rest := by
  constructor
  · intro h
    unfold quotedValue quotedText at h
    cases hread : Quoted.read s with
    | none => simp [hread] at h
    | some r =>
      obtain ⟨text, tail⟩ := r
      -- what is read has been accepted, and the boundary is asked afterwards
      obtain ⟨body, hbody, hs⟩ := Quoted.read_eq_some_iff.1 hread
      simp only [hread, Option.map_some] at h
      split at h
      · rename_i hend
        simp only [Option.some.injEq, Prod.mk.injEq] at h
        obtain ⟨rfl, rfl⟩ := h
        exact ⟨body, text, hbody, rfl, hs, (atBoundary_iff tail).1 hend⟩
      · exact absurd h (by simp)
  · rintro ⟨body, text, hbody, rfl, hs, hend⟩
    have hread : Quoted.read s = some (text, rest) := Quoted.read_eq_some_iff.2 ⟨body, hbody, hs⟩
    simp [quotedValue, quotedText, hread, (atBoundary_iff rest).2 hend]

/-- No quoted value starts with another character than a double quote. -/
theorem quotedValue_eq_none {s : List Char} (h : s.head? ≠ some '"') : quotedValue s = none := by
  rw [Option.eq_none_iff_forall_not_mem]
  rintro ⟨v, rest⟩ hv
  obtain ⟨body, text, -, -, rfl, -⟩ := quotedValue_eq_some_iff.1 hv
  exact h rfl

/-- A plain value is the longest run without blank characters, where no double quote starts it. -/
theorem plainValue_of_isLongestRun {value rest : List Char}
    (h : IsLongestRun isSolid value (value ++ rest)) (hquote : value.head? ≠ some '"') :
    plainValue (value ++ rest) = some (String.ofList value, rest) := by
  have hhead : (value ++ rest).head? ≠ some '"' := by
    rw [List.head?_append_of_ne_nil _ h.ne_nil]
    exact hquote
  rw [plainValue, if_neg hhead]
  exact run_of_isLongestRun h

/-- Where a name and its colon are read, the rest decides whether the token is qualified. -/
theorem qualified_of_front {id rest : List Char}
    (h : IsLongestRun isWordChar id (id ++ ':' :: rest)) :
    qualified (id ++ ':' :: rest) =
      (value rest).map fun (v, rest) =>
        (⟨some (foldName (String.ofList id)), v.1, v.2⟩, rest) := by
  simp only [qualified, name, run_of_isLongestRun h]

end Grammar

/-! ### The rule for a token reads lexemes -/

/-- A quoted lexeme is read as its token. -/
theorem Lexeme.Quoted.token_eq {x rest : List Char} {t : Token}
    (h : Lexeme.Quoted (x ++ rest) x t) : Grammar.token (x ++ rest) = some (t, rest) := by
  obtain @⟨front, body, text, tail, field, hfront, hbody, rfl, hsource, hend⟩ := h
  obtain rfl : rest = tail := List.append_cancel_left hsource
  have hvalue : Grammar.quotedValue ('"' :: (body ++ '"' :: rest)) =
      some (String.ofList text, rest) :=
    Grammar.quotedValue_eq_some_iff.2 ⟨body, text, hbody, rfl, rfl, hend⟩
  cases hfront with
  | none =>
    -- a double quote begins no name, so that the token is bare
    have hname : Grammar.name ('"' :: (body ++ '"' :: rest)) = none :=
      Grammar.run_eq_none isWordChar_quote
    simp [Grammar.token, Grammar.qualified, Grammar.bare, hname, hvalue]
  | name hrun =>
    rename_i id
    have happ : id ++ [':'] ++ '"' :: (body ++ ['"']) ++ rest =
        id ++ ':' :: '"' :: (body ++ '"' :: rest) := by simp
    rw [happ] at hrun ⊢
    rw [Grammar.token, Grammar.qualified_of_front hrun, Grammar.value, hvalue]
    rfl

/-- A quoted value stands as a lexeme behind any front. -/
theorem Lexeme.Quoted.of_quotedValue {s front tail rest : List Char} {field : Option String}
    {v : String} (hfront : Front s front field) (hs : s = front ++ tail)
    (h : Grammar.quotedValue tail = some (v, rest)) :
    ∃ x, Lexeme.Quoted s x ⟨field, v, true⟩ := by
  obtain ⟨body, text, hbody, rfl, rfl, hend⟩ := Grammar.quotedValue_eq_some_iff.1 h
  refine ⟨front ++ '"' :: (body ++ ['"']), .intro hfront hbody rfl ?_ hend⟩
  rw [hs]
  simp

/-- Where no quoted lexeme stands, a qualified token is a name, a colon and a plain value. -/
theorem Lexeme.Pair.of_qualified {s rest : List Char} {t : Token}
    (h : Grammar.qualified s = some (t, rest)) (noQuoted : ∀ x' t', ¬ Lexeme.Quoted s x' t') :
    ∃ id value, Lexeme.Pair (id ++ ':' :: value) id value ∧
      IsLongestRun Grammar.isSolid (id ++ ':' :: value) s ∧
      value ≠ [] ∧ value.head? ≠ some '"' := by
  unfold Grammar.qualified at h
  split at h
  · rename_i field tail hname
    obtain ⟨⟨v, rest'⟩, hvalue, -⟩ := Option.map_eq_some_iff.1 h
    obtain ⟨id, rfl, rfl, hid⟩ := Grammar.isLongestRun_of_run hname
    unfold Grammar.value at hvalue
    split at hvalue
    · rename_i hquoted
      -- a quoted value behind the name would make a quoted lexeme
      obtain ⟨x, hx⟩ := Quoted.of_quotedValue (.name hid) (by simp) hquoted
      exact absurd hx (noQuoted x _)
    · obtain ⟨⟨w, rest''⟩, hplain, -⟩ := Option.map_eq_some_iff.1 hvalue
      unfold Grammar.plainValue at hplain
      split at hplain
      · exact absurd hplain (by simp)
      · rename_i hquote
        obtain ⟨value, -, rfl, hrun⟩ := Grammar.isLongestRun_of_run hplain
        have hword := isLongestRun_colon_iff.1 hid
        refine ⟨id, value, ⟨isLongestRun_colon_iff.2 hword, rfl⟩,
          isLongestRun_front_append hword.2 hrun, hrun.ne_nil, ?_⟩
        rwa [List.head?_append_of_ne_nil _ hrun.ne_nil] at hquote
  · exact absurd h (by simp)

/-- Where no quoted lexeme stands, a plain one is read as its token. -/
theorem Lexeme.Plain.token_eq {x rest : List Char} {t : Token} (h : Lexeme.Plain x t)
    (hrun : IsLongestRun Grammar.isSolid x (x ++ rest))
    (noQuoted : ∀ x' t', ¬ Lexeme.Quoted (x ++ rest) x' t') :
    Grammar.token (x ++ rest) = some (t, rest) := by
  cases h with
  | qualified hpair hne hquote =>
    rename_i id value
    have hid := hpair.run_append (value ++ rest)
    obtain ⟨-, rfl⟩ := hpair
    have happ : id ++ ':' :: value ++ rest = id ++ ':' :: (value ++ rest) := by simp
    -- the run goes on from the value as far as it goes on from the name
    have hsolid : IsLongestRun Grammar.isSolid value (value ++ rest) := by
      obtain ⟨-, hmem, hend⟩ := isLongestRun_append_iff.1 hrun
      exact isLongestRun_append_iff.2 ⟨hne, fun c hc => hmem c (by simp [hc]), hend⟩
    have hhead : (value ++ rest).head? ≠ some '"' := by
      rw [List.head?_append_of_ne_nil _ hne]
      exact hquote
    rw [happ, Grammar.token, Grammar.qualified_of_front hid, Grammar.value,
      Grammar.quotedValue_eq_none hhead, Grammar.plainValue_of_isLongestRun hsolid hquote]
    rfl
  | bare noPair =>
    have hquoted : Grammar.quotedValue (x ++ rest) = none := by
      rw [Option.eq_none_iff_forall_not_mem]
      rintro ⟨v, tail⟩ hv
      obtain ⟨x', hx'⟩ := Quoted.of_quotedValue .none rfl hv
      exact noQuoted x' _ hx'
    have hqualified : Grammar.qualified (x ++ rest) = none := by
      rw [Option.eq_none_iff_forall_not_mem]
      rintro ⟨t, tail⟩ ht
      obtain ⟨id, value, hpair, hsolid, hne, hquote⟩ := Pair.of_qualified ht noQuoted
      -- the pair and the run are the same text, which was said to be no pair
      rw [← hrun.unique hsolid] at hpair
      exact (noPair id value hpair).elim hne hquote
    rw [Grammar.token, hqualified, Grammar.bare, hquoted, Grammar.word,
      Grammar.run_of_isLongestRun hrun]
    rfl

/-- The rule for a token reads a lexeme, and leaves what follows it. -/
theorem IsLexeme.token_eq {x rest : List Char} {t : Token} (h : IsLexeme (x ++ rest) x t) :
    Grammar.token (x ++ rest) = some (t, rest) := by
  cases h with
  | quoted lexeme => exact lexeme.token_eq
  | plain noQuoted run token => exact token.token_eq run noQuoted

/-- A text starts with at most one lexeme, which stands for one token. -/
theorem IsLexeme.unique {s x x' : List Char} {t t' : Token} (h : IsLexeme s x t)
    (h' : IsLexeme s x' t') : x = x' ∧ t = t' := by
  obtain ⟨rest, rfl, -⟩ := h.exists_rest
  obtain ⟨rest', hs, -⟩ := h'.exists_rest
  -- both lexemes are what the rule reads, and it reads one thing
  have hread := h.token_eq
  rw [hs] at h' hread
  rw [h'.token_eq, Option.some.injEq, Prod.mk.injEq] at hread
  obtain ⟨rfl, rfl⟩ := hread
  exact ⟨List.append_cancel_right hs, rfl⟩

end FieldSearch
