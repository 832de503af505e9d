import FieldSearch.Proofs.Token.Rules
import FieldSearch.Token.Grammar
import Mathlib.Logic.ExistsUnique

namespace FieldSearch

/-!
# Decomposition of a query

A query is blank space, and then lexemes with blank space behind each of them.

* `Decomposition` cuts a text into such pieces, and `Decomposition.IsReading` says that the pieces
  make up the text and that their lexemes stand for given tokens;
* `Spells.tokens_eq` says that pieces are read as the tokens that they spell, with nothing left, and
  `exists_spells` that every text can be cut into pieces;
* `tokenize_decomposition` concludes that a text has exactly one decomposition, whose tokens are the
  ones that `tokenize` gives.
-/

/-- A lexeme and the blank characters behind it. -/
structure Piece where
  lexeme : List Char
  gap : List Char

/-- The text that is made of pieces. -/
def Piece.textOf (pieces : List Piece) : List Char := pieces.flatMap fun p => p.lexeme ++ p.gap

/-- The pieces spell the tokens: each lexeme stands for its token in front of all that follows it,
    and blank characters separate it from the next one. -/
inductive Spells : List Piece → List Token → Prop
  | nil : Spells [] []
  | cons {p : Piece} {ps : List Piece} {t : Token} {ts : List Token} (ne_nil : p.lexeme ≠ [])
      (blank : IsBlankText p.gap) (separate : ps ≠ [] → p.gap ≠ [])
      (lexeme : IsLexeme (Piece.textOf (p :: ps)) p.lexeme t) (more : Spells ps ts) :
      Spells (p :: ps) (t :: ts)

/-- A text cut into what stands in front of the first lexeme, and the pieces from there on. -/
structure Decomposition where
  lead : List Char
  pieces : List Piece

/-- The decomposition is one of the text, with lexemes that stand for the tokens. -/
structure Decomposition.IsReading (d : Decomposition) (raw : String) (tokens : List Token) :
    Prop where
  text : raw.toList = d.lead ++ Piece.textOf d.pieces
  lead : IsBlankText d.lead
  pieces : Spells d.pieces tokens

/-- The text of a piece and more pieces. -/
@[simp] theorem Piece.textOf_cons (p : Piece) (ps : List Piece) :
    Piece.textOf (p :: ps) = p.lexeme ++ (p.gap ++ Piece.textOf ps) := by
  simp [textOf]

/-- The text of pieces does not start with a blank character. -/
theorem Spells.head_solid {ps : List Piece} {ts : List Token} (h : Spells ps ts) :
    ∀ c ∈ (Piece.textOf ps).head?, isBlank c = false := by
  cases h with
  | nil => simp [Piece.textOf]
  | cons _ _ _ lexeme _ =>
    rename_i p ps _ _
    obtain ⟨c, cs, hx, hc⟩ := lexeme.exists_cons
    rw [Piece.textOf_cons, hx]
    simpa using hc

/-! ### Skipping blank characters -/

/-- Blank characters in front of a text that starts with none are all that is skipped. -/
theorem takeWhile_isBlank_append {lead s : List Char} (hlead : IsBlankText lead)
    (hs : ∀ c ∈ s.head?, isBlank c = false) : (lead ++ s).takeWhile isBlank = lead := by
  rw [List.takeWhile_append_of_pos hlead]
  cases s with
  | nil => simp
  | cons c cs =>
    have hc : isBlank c = false := hs c rfl
    simp [hc]

/-- What is left behind the blank characters is the text itself. -/
theorem skipBlank_append {lead s : List Char} (hlead : IsBlankText lead)
    (hs : ∀ c ∈ s.head?, isBlank c = false) : Grammar.skipBlank (lead ++ s) = s := by
  have happ := List.takeWhile_append_dropWhile (p := isBlank) (l := lead ++ s)
  rw [takeWhile_isBlank_append hlead hs] at happ
  exact List.append_cancel_left happ

/-! ### Pieces are read as the tokens that they spell -/

/-- A text behind whose blank characters a token is read. -/
theorem tokens_of_token {cs rest : List Char} {t : Token}
    (h : Grammar.token (Grammar.skipBlank cs) = some (t, rest)) :
    Grammar.tokens cs = (t :: (Grammar.tokens rest).1, (Grammar.tokens rest).2) := by
  rw [Grammar.tokens]
  split
  · rename_i hnone
    rw [h] at hnone
    exact absurd hnone (by simp)
  · rename_i hsome
    rw [h, Option.some.injEq, Prod.mk.injEq] at hsome
    obtain ⟨rfl, rfl⟩ := hsome
    rfl

/-- Nothing is read from a text of blank characters. -/
theorem tokens_of_blank {cs : List Char} (h : IsBlankText cs) : Grammar.tokens cs = ([], []) := by
  have hskip : Grammar.skipBlank cs = [] := by
    have := skipBlank_append (s := []) h (by simp)
    rwa [List.append_nil] at this
  have htoken : Grammar.token [] = none := rfl
  rw [Grammar.tokens]
  split
  · rw [hskip]
  · rename_i hsome
    rw [hskip, htoken] at hsome
    exact absurd hsome (by simp)

/-- Blank characters and pieces are read as the tokens that the pieces spell, and nothing is
    left. -/
theorem Spells.tokens_eq {ps : List Piece} {ts : List Token} (h : Spells ps ts)
    {lead : List Char} (hlead : IsBlankText lead) :
    Grammar.tokens (lead ++ Piece.textOf ps) = (ts, []) := by
  -- the gap behind a piece is what stands in front of the other pieces
  induction h generalizing lead with
  | nil => exact tokens_of_blank (by simpa [Piece.textOf] using hlead)
  | cons ne_nil blank separate lexeme more ih =>
    have hsolid := (Spells.cons ne_nil blank separate lexeme more).head_solid
    have hread := skipBlank_append hlead hsolid
    rw [Piece.textOf_cons] at lexeme hread ⊢
    have htoken := lexeme.token_eq
    rw [← hread] at htoken
    rw [tokens_of_token htoken, ih blank]

/-! ### Every text is made of pieces -/

/-- A lexeme stands behind the blank characters, if anything does. -/
theorem exists_isLexeme_of_skipBlank {cs rest : List Char} {c : Char}
    (h : Grammar.skipBlank cs = c :: rest) :
    ∃ x t tail, c :: rest = x ++ tail ∧ IsBoundary tail ∧ IsLexeme (x ++ tail) x t := by
  have hhead := List.head?_dropWhile_not isBlank cs
  rw [← Grammar.skipBlank, h] at hhead
  obtain ⟨x, t, hlexeme⟩ := exists_isLexeme rest hhead
  obtain ⟨tail, happ, hend⟩ := hlexeme.exists_rest
  exact ⟨x, t, tail, happ, hend, happ ▸ hlexeme⟩

/-- At a boundary, blank characters stand in front of the pieces that follow. -/
theorem Spells.ne_nil_of_isBoundary {ps : List Piece} {ts : List Token} (h : Spells ps ts)
    {lead : List Char} (hend : IsBoundary (lead ++ Piece.textOf ps)) (hne : ps ≠ []) :
    lead ≠ [] := by
  rintro rfl
  cases h with
  | nil => exact hne rfl
  | cons _ _ _ lexeme _ =>
    obtain ⟨c, cs, hx, hc⟩ := lexeme.exists_cons
    rw [List.nil_append, Piece.textOf_cons, hx] at hend
    rw [hend c rfl] at hc
    exact absurd hc (by decide)

/-- Every text is blank characters and pieces that spell the tokens read from it. -/
theorem exists_spells (cs : List Char) :
    ∃ lead ps, IsBlankText lead ∧ Spells ps (Grammar.tokens cs).1 ∧
      cs = lead ++ Piece.textOf ps := by
  have cut : ∀ cs, cs = cs.takeWhile isBlank ++ Grammar.skipBlank cs := fun cs =>
    List.takeWhile_append_dropWhile.symm
  have blank : ∀ cs : List Char, IsBlankText (cs.takeWhile isBlank) := fun cs c hc =>
    List.mem_takeWhile_imp hc
  -- the induction follows the rule: one token, and the query behind it
  fun_induction Grammar.tokens cs with
  | case1 cs hnone =>
    -- no token is read, so that nothing but blank characters is left
    refine ⟨cs.takeWhile isBlank, [], blank cs, .nil, ?_⟩
    cases hskip : Grammar.skipBlank cs with
    | nil =>
      have hcut := cut cs
      rwa [hskip] at hcut
    | cons c rest =>
      obtain ⟨x, t, tail, happ, -, hlexeme⟩ := exists_isLexeme_of_skipBlank hskip
      rw [hskip, happ, hlexeme.token_eq] at hnone
      exact absurd hnone (by simp)
  | case2 cs t rest hsome more ih =>
    obtain ⟨gap, ps, hgap, hps, rfl⟩ := ih
    cases hskip : Grammar.skipBlank cs with
    | nil =>
      have htoken : Grammar.token [] = none := rfl
      rw [hskip, htoken] at hsome
      exact absurd hsome (by simp)
    | cons c tail =>
      obtain ⟨x, t', tail', happ, hend, hlexeme⟩ := exists_isLexeme_of_skipBlank hskip
      rw [hskip, happ, hlexeme.token_eq, Option.some.injEq, Prod.mk.injEq] at hsome
      obtain ⟨rfl, rfl⟩ := hsome
      obtain ⟨d, ds, hx, -⟩ := hlexeme.exists_cons
      refine ⟨cs.takeWhile isBlank, ⟨x, gap⟩ :: ps, blank cs, ?_, ?_⟩
      · refine .cons (by simp [hx]) hgap (hps.ne_nil_of_isBoundary hend) ?_ hps
        rwa [Piece.textOf_cons]
      · rw [Piece.textOf_cons, ← happ, ← hskip]
        exact cut cs

/-! ### No text has two decompositions -/

/-- Where the blank characters in front of two equal texts end is determined. -/
theorem blank_append_inj {lead lead' s s' : List Char} (hlead : IsBlankText lead)
    (hlead' : IsBlankText lead') (hs : ∀ c ∈ s.head?, isBlank c = false)
    (hs' : ∀ c ∈ s'.head?, isBlank c = false) (heq : lead ++ s = lead' ++ s') :
    lead = lead' ∧ s = s' := by
  have hfront : lead = lead' := by
    rw [← takeWhile_isBlank_append hlead hs, heq, takeWhile_isBlank_append hlead' hs']
  subst hfront
  exact ⟨rfl, List.append_cancel_left heq⟩

/-- Pieces are determined by the text that they make up. -/
theorem Spells.unique {ps ps' : List Piece} {ts ts' : List Token} (h : Spells ps ts)
    (h' : Spells ps' ts') (heq : Piece.textOf ps = Piece.textOf ps') : ps = ps' := by
  induction h generalizing ps' ts' with
  | nil =>
    cases h' with
    | nil => rfl
    | cons ne_nil' _ _ _ _ =>
      rw [Piece.textOf_cons] at heq
      exact absurd (List.append_eq_nil_iff.1 heq.symm).1 ne_nil'
  | @cons p ps _ _ ne_nil blank _ lexeme more ih =>
    cases h' with
    | nil =>
      rw [Piece.textOf_cons] at heq
      exact absurd (List.append_eq_nil_iff.1 heq).1 ne_nil
    | @cons p' ps' _ _ _ blank' _ lexeme' more' =>
      -- the lexemes stand at the same place, and the gaps end where something solid begins
      have hlexeme : p.lexeme = p'.lexeme := (lexeme.unique (heq ▸ lexeme')).1
      rw [Piece.textOf_cons, Piece.textOf_cons, hlexeme] at heq
      obtain ⟨hgap, hmore⟩ := blank_append_inj blank blank' more.head_solid more'.head_solid
        (List.append_cancel_left heq)
      have hpiece : p = p' := by
        cases p
        cases p'
        simp_all
      rw [hpiece, ih more' hmore]

/-- A text has at most one decomposition. -/
theorem Decomposition.IsReading.unique {d d' : Decomposition} {raw : String}
    {ts ts' : List Token} (h : d.IsReading raw ts) (h' : d'.IsReading raw ts') : d = d' := by
  obtain ⟨hlead, hpieces⟩ := blank_append_inj h.lead h'.lead h.pieces.head_solid
    h'.pieces.head_solid (h.text.symm.trans h'.text)
  cases d
  cases d'
  rw [mk.injEq]
  exact ⟨hlead, h.pieces.unique h'.pieces hpieces⟩

/-- A decomposition shows what a text is read as. -/
theorem Decomposition.IsReading.query_eq {d : Decomposition} {raw : String} {ts : List Token}
    (h : d.IsReading raw ts) : Grammar.query.whole raw.toList = some ts := by
  rw [Grammar.Rule.whole, Grammar.query, h.text, h.pieces.tokens_eq h.lead]

/-- The tokens of a query are those of its decomposition. -/
theorem Decomposition.IsReading.tokenize_eq {d : Decomposition} {raw : String}
    {ts : List Token} (h : d.IsReading raw ts) : tokenize raw = ts := by
  rw [tokenize, h.query_eq]

/-- Every text has a decomposition, with the tokens that it is read as. -/
theorem exists_isReading (raw : String) :
    ∃ d : Decomposition, d.IsReading raw (tokenize raw) := by
  obtain ⟨lead, ps, hlead, hps, htext⟩ := exists_spells raw.toList
  have h : Decomposition.IsReading ⟨lead, ps⟩ raw (Grammar.tokens raw.toList).1 :=
    ⟨htext, hlead, hps⟩
  exact ⟨⟨lead, ps⟩, h.tokenize_eq ▸ h⟩

/-- **The grammar of a query.**  The rules take every text to its end.  A text has exactly one
    decomposition into blank space and lexemes, and its tokens are those that the lexemes stand
    for. -/
theorem tokenize_decomposition (raw : String) :
    Grammar.query.whole raw.toList = some (tokenize raw) ∧
      (∃! d : Decomposition, d.IsReading raw (tokenize raw)) ∧
      ∀ (d : Decomposition) (tokens : List Token), d.IsReading raw tokens →
        tokens = tokenize raw := by
  obtain ⟨d, hd⟩ := exists_isReading raw
  refine ⟨hd.query_eq, ⟨d, hd, fun d' hd' => hd'.unique hd⟩, ?_⟩
  intro d' tokens hd'
  exact hd'.tokenize_eq.symm

end FieldSearch
