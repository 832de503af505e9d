import FieldSearch.Proofs.Token.Decomposition

namespace FieldSearch

/-!
# Tokens of a longer query

What follows a query behind blank space does not change how the query is split, unless the query
leaves a quote open: then what follows may close it, and the quoted value takes it in.

* `OpensQuote` is a text that begins like a quoted value, and `Token.LeavesQuoteOpen` a token that
  was read as it stands only because the quote was not closed;
* `IsLexeme.append` says that a lexeme stays one in front of more text, and `Spells.append` that
  pieces do;
* `tokenize_append` concludes that two queries with blank space between them have the tokens of the
  first, and then those of the second.
-/

/-- A text that begins with a double quote, or with a name, a colon and a double quote. -/
inductive OpensQuote : List Char → Prop
  | bare (rest : List Char) : OpensQuote ('"' :: rest)
  | qualified {id : List Char} (ne_nil : id ≠ []) (word : ∀ c ∈ id, isWordChar c = true)
      (rest : List Char) : OpensQuote (id ++ ':' :: '"' :: rest)

/-- A token without a field and without quotes, the value of which begins like a quoted one. -/
structure Token.LeavesQuoteOpen (t : Token) : Prop where
  bare : t.field = none
  unquoted : t.quoted = false
  opens : OpensQuote t.value.toList

/-- A quote is opened at the front of a text, or behind the colon that follows its first word. -/
theorem opensQuote_iff (cs : List Char) :
    OpensQuote cs ↔ cs.head? = some '"' ∨
      (cs.takeWhile isWordChar ≠ [] ∧ [':', '"'].isPrefixOf (cs.dropWhile isWordChar) = true) := by
  have hcut : cs.takeWhile isWordChar ++ cs.dropWhile isWordChar = cs :=
    List.takeWhile_append_dropWhile
  constructor
  · -- the name is all that the class of word characters takes off the front
    rintro (rest | @⟨id, hne, hword, rest⟩)
    · exact .inl rfl
    · have hrun : IsLongestRun isWordChar id (id ++ ':' :: '"' :: rest) :=
        isLongestRun_colon_iff.2 ⟨hne, hword⟩
      rw [← (isLongestRun_iff_takeWhile.1 hrun).2] at hcut ⊢
      rw [List.append_cancel_left hcut]
      exact .inr ⟨hne, rfl⟩
  · rintro (hhead | ⟨hne, hpre⟩)
    · obtain ⟨rest, rfl⟩ := List.head?_eq_some_iff.1 hhead
      exact .bare rest
    · obtain ⟨rest, hrest⟩ := List.isPrefixOf_iff_prefix.1 hpre
      rw [← hcut, ← hrest]
      exact .qualified hne (fun c hc => List.mem_takeWhile_imp hc) rest

instance (cs : List Char) : Decidable (OpensQuote cs) :=
  decidable_of_iff _ (opensQuote_iff cs).symm

instance (t : Token) : Decidable t.LeavesQuoteOpen :=
  decidable_of_iff (t.field = none ∧ t.quoted = false ∧ OpensQuote t.value.toList)
    ⟨fun ⟨h₁, h₂, h₃⟩ => ⟨h₁, h₂, h₃⟩, fun ⟨h₁, h₂, h₃⟩ => ⟨h₁, h₂, h₃⟩⟩

/-! ### Lexemes in front of more text -/

/-- At a boundary, a class without blank characters ends. -/
theorem IsBoundary.head_eq_false {w : List Char} (hw : IsBoundary w) {p : Char → Bool}
    (hp : ∀ c, p c = true → isBlank c = false) : ∀ c ∈ w.head?, p c = false := by
  intro c hc
  by_contra h
  have hsolid := hp c (by simpa using h)
  rw [hw c hc] at hsolid
  exact absurd hsolid (by decide)

/-- The longest run stays the longest in front of a boundary. -/
theorem IsLongestRun.append {p : Char → Bool} {x s w : List Char} (h : IsLongestRun p x s)
    (hp : ∀ c, p c = true → isBlank c = false) (hw : IsBoundary w) :
    IsLongestRun p x (s ++ w) := by
  obtain ⟨rest, rfl⟩ := h.front
  obtain ⟨hne, hmem, hend⟩ := isLongestRun_append_iff.1 h
  rw [List.append_assoc, isLongestRun_append_iff]
  refine ⟨hne, hmem, ?_⟩
  cases rest with
  | nil => exact hw.head_eq_false hp
  | cons c cs => exact hend

/-- A boundary stays one in front of another. -/
theorem IsBoundary.append {rest w : List Char} (h : IsBoundary rest) (hw : IsBoundary w) :
    IsBoundary (rest ++ w) := by
  cases rest with
  | nil => exact hw
  | cons c cs => exact h

/-- A quoted lexeme stays one in front of a boundary. -/
theorem Lexeme.Quoted.append {s x w : List Char} {t : Token} (h : Lexeme.Quoted s x t)
    (hw : IsBoundary w) : Lexeme.Quoted (s ++ w) x t := by
  obtain @⟨front, body, text, rest, field, hfront, hbody, hx, hsource, hend⟩ := h
  have hfront' : Front (s ++ w) front field := by
    cases hfront with
    | none => exact .none
    | name run => exact .name (run.append (fun _ => isBlank_eq_false_of_isWordChar) hw)
  refine .intro hfront' hbody hx ?_ (hend.append hw)
  rw [hsource, List.append_assoc]

/-- A front and a double quote open a quote. -/
theorem Lexeme.Front.opensQuote {s front : List Char} {field : Option String}
    (h : Front s front field) (more : List Char) : OpensQuote (front ++ '"' :: more) := by
  cases h with
  | none => exact .bare more
  | @name id run =>
    rw [List.append_assoc]
    exact .qualified run.ne_nil run.holds more

/-- Where a pair opens a quote, its value does. -/
theorem Lexeme.Pair.head?_value {x id value : List Char} (h : Pair x id value)
    (hopens : OpensQuote x) : value.head? = some '"' := by
  cases hopens with
  | bare rest =>
    -- a name does not begin with a double quote
    obtain ⟨c, cs, hid⟩ := List.exists_cons_of_ne_nil h.run.ne_nil
    have hcut := h.cut
    rw [hid, List.cons_append, List.cons.injEq] at hcut
    have hword := h.run.holds c (by simp [hid])
    rw [← hcut.1, isWordChar_quote] at hword
    exact absurd hword (by decide)
  | @qualified id' hne hword rest =>
    -- both names are the word in front of the first colon
    have hid : id' = id := IsLongestRun.unique (isLongestRun_colon_iff.2 ⟨hne, hword⟩) h.run
    have hcut := h.cut
    rw [hid, List.append_cancel_left_eq, List.cons.injEq] at hcut
    rw [← hcut.2]
    rfl

/-- A run that opens a quote is read as a token that leaves it open. -/
theorem Lexeme.Plain.leavesQuoteOpen {x : List Char} {t : Token} (h : Plain x t)
    (hopens : OpensQuote x) : t.LeavesQuoteOpen := by
  cases h with
  | qualified pair _ quote => exact absurd (pair.head?_value hopens) quote
  | bare _ => exact ⟨rfl, rfl, by rwa [String.toList_ofList]⟩

/-- A lexeme stays one in front of a boundary, unless it leaves a quote open. -/
theorem IsLexeme.append {s x w : List Char} {t : Token} (h : IsLexeme s x t)
    (hclosed : ¬ t.LeavesQuoteOpen) (hw : IsBoundary w) : IsLexeme (s ++ w) x t := by
  cases h with
  | quoted lexeme => exact .quoted (lexeme.append hw)
  | plain noQuoted run token =>
    have hsolid (c : Char) (hc : Grammar.isSolid c = true) : isBlank c = false := by
      simpa [Grammar.isSolid] using hc
    have hrun := run.append hsolid hw
    refine .plain (fun x' t' hx' => hclosed ?_) hrun token
    -- a quoted lexeme in the longer text begins within the run
    obtain ⟨front, field, more, hfront, rfl⟩ := hx'.exists_front_of_run hrun
    exact token.leavesQuoteOpen (hfront.opensQuote more)

/-! ### Queries in front of more text -/

/-- Pieces, blank characters and more pieces are pieces again, unless a quote is left open. -/
theorem Spells.append {ps qs : List Piece} {ts us : List Token} (h : Spells ps ts)
    (h' : Spells qs us) {w : List Char} (hblank : IsBlankText w) (hne : w ≠ [])
    (hclosed : ∀ t ∈ ts, ¬ t.LeavesQuoteOpen) {lead : List Char} (hlead : IsBlankText lead) :
    ∃ lead' rs, IsBlankText lead' ∧ Spells rs (ts ++ us) ∧
      lead' ++ Piece.textOf rs = lead ++ (Piece.textOf ps ++ (w ++ Piece.textOf qs)) := by
  -- the last gap takes in the blank characters; it is what stands in front of no pieces at all
  induction h generalizing lead with
  | nil =>
    refine ⟨lead ++ w, qs, fun c hc => ?_, h', by simp [Piece.textOf]⟩
    exact (List.mem_append.1 hc).elim (hlead c) (hblank c)
  | @cons p ps t ts ne_nil blank _ lexeme more ih =>
    obtain ⟨gap, rs, hgap, hrs, htext⟩ := ih (fun u hu => hclosed u (by simp [hu])) blank
    have hlexeme : IsLexeme (p.lexeme ++ (gap ++ Piece.textOf rs)) p.lexeme t := by
      have hend : IsBoundary (w ++ Piece.textOf qs) := hblank.isBoundary (.inl hne)
      have happ := lexeme.append (hclosed t (by simp)) hend
      rw [Piece.textOf_cons, List.append_assoc, List.append_assoc] at happ
      rwa [htext]
    obtain ⟨rest, hrest, hend⟩ := hlexeme.exists_rest
    rw [← List.append_cancel_left hrest] at hend
    refine ⟨lead, ⟨p.lexeme, gap⟩ :: rs, hlead, ?_, ?_⟩
    · refine .cons ne_nil hgap (hrs.ne_nil_of_isBoundary hend) ?_ hrs
      rwa [Piece.textOf_cons]
    · rw [Piece.textOf_cons, htext, Piece.textOf_cons]
      simp

/-- **Queries are split on their own.**  Two queries with blank space between them have the tokens
    of the first and then those of the second, unless the first leaves a quote open. -/
theorem tokenize_append {a w : String} (b : String)
    (hclosed : ∀ t ∈ tokenize a, ¬ t.LeavesQuoteOpen) (hne : w ≠ "")
    (hblank : IsBlankText w.toList) : tokenize (a ++ w ++ b) = tokenize a ++ tokenize b := by
  obtain ⟨d, hd⟩ := exists_isReading a
  obtain ⟨e, he⟩ := exists_isReading b
  have hgap : IsBlankText (w.toList ++ e.lead) := fun c hc =>
    (List.mem_append.1 hc).elim (hblank c) (he.lead c)
  have hgap_ne : w.toList ++ e.lead ≠ [] := by simp [hne]
  obtain ⟨lead, ps, hlead, hps, htext⟩ := hd.pieces.append he.pieces hgap hgap_ne hclosed hd.lead
  have h : Decomposition.IsReading ⟨lead, ps⟩ (a ++ w ++ b) (tokenize a ++ tokenize b) := by
    refine ⟨?_, hlead, hps⟩
    rw [String.toList_append, String.toList_append, hd.text, he.text, htext]
    simp
  exact h.tokenize_eq

/-- A quote that is left open may be closed by what follows. -/
example : tokenize "x:\"a" = [⟨none, "x:\"a", false⟩] ∧
    tokenize "x:\"a b\"" = [⟨some "x", "a b", true⟩] := by
  decide +kernel

end FieldSearch
