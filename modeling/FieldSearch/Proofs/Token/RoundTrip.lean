import FieldSearch.Proofs.Token.Decomposition
import FieldSearch.Token

namespace FieldSearch

/-!
# Tokenizing undoes printing

A token that is written, and has blank space or nothing behind it, is read back as it was.

* `Token.Printable` says which tokens can be written: a quoted value may be any text, an unquoted
  one has no blank character and must not look like something else;
* `Token.Printable.isLexeme` says that a written token is a lexeme, whatever follows the boundary;
  behind a name that folding changes, a value is read with the folded name;
* `tokenize_of_isLexeme` says that a lexeme by itself is read as its token, and
  `tokenize_qualified` that so is a name with a plain value behind it;
* `tokenize_writeTokens` says that tokens written in a row, with blank space between them, are read
  back in their order.
-/

/-- A name that a field is kept under: word characters that folding does not change. -/
structure IsFieldName (f : String) : Prop where
  ne_nil : f.toList ≠ []
  word : ∀ c ∈ f.toList, isWordChar c = true
  folded : foldName f = f

instance (f : String) : Decidable (IsFieldName f) :=
  decidable_of_iff (f.toList ≠ [] ∧ f.toList.all isWordChar = true ∧ foldName f = f)
    ⟨fun ⟨h₁, h₂, h₃⟩ => ⟨h₁, List.all_eq_true.1 h₂, h₃⟩,
      fun ⟨h₁, h₂, h₃⟩ => ⟨h₁, List.all_eq_true.2 h₂, h₃⟩⟩

/-- A name that can stand in front of a colon: word characters, and at least one. -/
structure IsName (s : String) : Prop where
  ne_nil : s.toList ≠ []
  word : ∀ c ∈ s.toList, isWordChar c = true

/-- A value that can stand without quotes. -/
structure IsPlainValue (v : String) : Prop where
  ne_nil : v.toList ≠ []
  solid : ∀ c ∈ v.toList, isBlank c = false
  quote : v.toList.head? ≠ some '"'

instance (v : String) : Decidable (IsPlainValue v) :=
  decidable_of_iff (v.toList ≠ [] ∧ (v.toList.all fun c => !isBlank c) = true ∧
      v.toList.head? ≠ some '"')
    ⟨fun ⟨h₁, h₂, h₃⟩ => ⟨h₁, by simpa using h₂, h₃⟩,
      fun ⟨h₁, h₂, h₃⟩ => ⟨h₁, by simpa using h₂, h₃⟩⟩

namespace Token

/-- The tokens that are read back as they were written. -/
inductive Printable : Token → Prop
  /-- A quoted token may have any value. -/
  | quoted {field : Option String} {value : String} (name : ∀ f ∈ field, IsFieldName f) :
      Printable ⟨field, value, true⟩
  /-- An unquoted value behind a field. -/
  | qualified {f value : String} (name : IsFieldName f) (plain : IsPlainValue value) :
      Printable ⟨some f, value, false⟩
  /-- An unquoted value without a field, which does not look like a qualified token. -/
  | bare {value : String} (plain : IsPlainValue value)
      (noPair : ∀ id rest, value.toList = id ++ ':' :: rest → id ≠ [] →
        (∀ c ∈ id, isWordChar c = true) → rest = []) : Printable ⟨none, value, false⟩

end Token

/-- The tokens written in a row, with `gap i` behind the one with index `i`, except the last. -/
def writeTokens (gap : Nat → List Char) : List Token → List Char
  | [] => []
  | [t] => t.write
  | t :: u :: ts => t.write ++ gap 0 ++ writeTokens (fun i => gap (i + 1)) (u :: ts)

/-! ### Written tokens are lexemes -/

/-- A name that a field is kept under can stand in front of a colon. -/
theorem IsFieldName.isName {f : String} (h : IsFieldName f) : IsName f := ⟨h.ne_nil, h.word⟩

/-- A name in front of a colon is the longest run of word characters. -/
theorem IsName.isLongestRun {s : String} (h : IsName s) (rest : List Char) :
    IsLongestRun isWordChar s.toList (s.toList ++ ':' :: rest) :=
  isLongestRun_colon_iff.2 ⟨h.ne_nil, h.word⟩

/-- A name and a colon are the front of what is written, and name a field by what the name folds
    to. -/
theorem IsName.front {s : String} (h : IsName s) (rest : List Char) :
    Lexeme.Front (s.toList ++ ':' :: rest) (s.toList ++ [':']) (some (foldName s)) := by
  have hfront := Lexeme.Front.name (h.isLongestRun rest)
  rwa [String.ofList_toList] at hfront

/-- A plain value is the longest run without blank characters in front of a boundary. -/
theorem IsPlainValue.isLongestRun {v : String} (h : IsPlainValue v) {rest : List Char}
    (hend : IsBoundary rest) :
    IsLongestRun Grammar.isSolid v.toList (v.toList ++ rest) := by
  refine isLongestRun_append_iff.2 ⟨h.ne_nil, fun c hc => ?_, fun c hc => ?_⟩
  · simp [Grammar.isSolid, h.solid c hc]
  · simp [Grammar.isSolid, hend c hc]

namespace Token

/-- A written quoted token is a lexeme. -/
theorem isLexeme_write_quoted {field : Option String} (value : String)
    (name : ∀ s ∈ field, IsName s) {rest : List Char} (hend : IsBoundary rest) :
    IsLexeme (write ⟨field, value, true⟩ ++ rest) (write ⟨field, value, true⟩)
      ⟨field.map foldName, value, true⟩ := by
  have hbody := Quoted.isBody_escape value.toList
  refine .quoted ?_
  cases field with
  | none =>
    have h := Lexeme.Quoted.intro (s := write ⟨none, value, true⟩ ++ rest) .none hbody rfl rfl hend
    rwa [String.ofList_toList] at h
  | some s =>
    have hwrite : write ⟨some s, value, true⟩ ++ rest =
        s.toList ++ ':' :: (Quoted.write value.toList ++ rest) := by
      simp [write, writeField, writeValue]
    -- the name is the longest run of word characters, as a colon follows it
    have hfront := (name s rfl).front (Quoted.write value.toList ++ rest)
    rw [← hwrite] at hfront
    have h := Lexeme.Quoted.intro hfront hbody rfl rfl hend
    rwa [String.ofList_toList] at h

/-- A written token with a field and an unquoted value is a lexeme. -/
theorem isLexeme_write_qualified {s value : String} (name : IsName s)
    (plain : IsPlainValue value) {rest : List Char} (hend : IsBoundary rest) :
    IsLexeme (write ⟨some s, value, false⟩ ++ rest) (write ⟨some s, value, false⟩)
      ⟨some (foldName s), value, false⟩ := by
  have hwrite : write ⟨some s, value, false⟩ = s.toList ++ ':' :: value.toList := by
    simp [write, writeField, writeValue]
  rw [hwrite, List.append_assoc, List.cons_append]
  refine .plain ?_ ?_ ?_
  · intro x t hx
    obtain ⟨front, field, tail, hfront, hs⟩ := hx.exists_front
    cases hfront with
    | none =>
      -- the text starts with the name, and so with no double quote
      obtain ⟨c, cs, hc⟩ := List.exists_cons_of_ne_nil name.ne_nil
      have hword := name.word c (by simp [hc])
      rw [hc, List.nil_append, List.cons_append, List.cons.injEq] at hs
      rw [hs.1, isWordChar_quote] at hword
      exact absurd hword (by decide)
    | name run =>
      -- the name is the one written, and no double quote stands behind it
      rw [run.unique (name.isLongestRun _)] at hs
      have hquote : (value.toList ++ rest).head? = some '"' := by
        have htail : value.toList ++ rest = '"' :: tail := by simpa using hs
        rw [htail]
        rfl
      rw [List.head?_append_of_ne_nil _ plain.ne_nil] at hquote
      exact plain.quote hquote
  · exact isLongestRun_front_append name.word (plain.isLongestRun hend)
  · have h := Lexeme.Plain.qualified ⟨name.isLongestRun value.toList, rfl⟩ plain.ne_nil plain.quote
    rwa [String.ofList_toList, String.ofList_toList] at h

/-- A written bare token is a lexeme, unless it looks like a qualified one. -/
theorem isLexeme_write_bare {value : String} (plain : IsPlainValue value)
    (noPair : ∀ id rest, value.toList = id ++ ':' :: rest → id ≠ [] →
      (∀ c ∈ id, isWordChar c = true) → rest = []) {rest : List Char}
    (hend : IsBoundary rest) :
    IsLexeme (write ⟨none, value, false⟩ ++ rest) (write ⟨none, value, false⟩)
      ⟨none, value, false⟩ := by
  have hwrite : write ⟨none, value, false⟩ = value.toList := by
    simp [write, writeField, writeValue]
  have hrun := plain.isLongestRun hend
  rw [hwrite]
  refine .plain ?_ hrun ?_
  · intro x t hx
    -- the value would start with a double quote, or with a name, a colon and a double quote
    obtain ⟨front, field, more, hfront, hvalue⟩ := hx.exists_front_of_run hrun
    cases hfront with
    | none => exact plain.quote (by simp [hvalue])
    | @name id run =>
      have hnil := noPair id ('"' :: more) (by simp [hvalue]) run.ne_nil run.holds
      exact absurd hnil (by simp)
  · have h : Lexeme.Plain value.toList ⟨none, String.ofList value.toList, false⟩ :=
      .bare fun id rest hpair => .inl (noPair id rest hpair.cut hpair.run.ne_nil hpair.run.holds)
    rwa [String.ofList_toList] at h

/-- A written token is a lexeme, whatever stands behind the boundary. -/
theorem Printable.isLexeme {t : Token} (h : t.Printable) {rest : List Char}
    (hend : IsBoundary rest) : IsLexeme (t.write ++ rest) t.write t := by
  cases h with
  | @quoted field value name =>
    have h := isLexeme_write_quoted value (fun f hf => (name f hf).isName) hend
    -- folding does not change a name that a field is kept under
    have hfolded : field.map foldName = field := by
      cases field with
      | none => rfl
      | some f => rw [Option.map_some, (name f rfl).folded]
    rwa [hfolded] at h
  | qualified name plain =>
    have h := isLexeme_write_qualified name.isName plain hend
    rwa [name.folded] at h
  | bare plain noPair => exact isLexeme_write_bare plain noPair hend

end Token

/-! ### Written queries are read back -/

/-- A lexeme among blank characters is read as the one token that it stands for. -/
theorem tokenize_of_isLexeme {lead x trail : List Char} {t : Token} (hlead : IsBlankText lead)
    (htrail : IsBlankText trail) (h : IsLexeme (x ++ trail) x t) :
    tokenize (String.ofList (lead ++ x ++ trail)) = [t] := by
  obtain ⟨c, cs, hx, -⟩ := h.exists_cons
  have hspells : Spells [⟨x, trail⟩] [t] :=
    .cons (by simp [hx]) htrail (fun hne => absurd rfl hne) (by simpa [Piece.textOf] using h) .nil
  have hreading : Decomposition.IsReading ⟨lead, [⟨x, trail⟩]⟩
      (String.ofList (lead ++ x ++ trail)) [t] :=
    ⟨by simp [Piece.textOf], hlead, hspells⟩
  exact hreading.tokenize_eq

/-- A name and a plain value are read as a token of the field that the name folds to. -/
theorem tokenize_qualified {name value : String} (hname : IsName name)
    (hvalue : IsPlainValue value) :
    tokenize (name ++ ":" ++ value) = [{ field := some (foldName name), value := value }] := by
  have hblank : IsBlankText [] := by simp [IsBlankText]
  have hend : IsBoundary [] := by simp [IsBoundary]
  have hlexeme := Token.isLexeme_write_qualified hname hvalue hend
  have htext : String.ofList ([] ++ Token.write ⟨some name, value, false⟩ ++ []) =
      name ++ ":" ++ value := by
    simp [Token.write, Token.writeField, Token.writeValue, ← String.toList_inj]
  rw [← htext]
  exact tokenize_of_isLexeme hblank hblank hlexeme

/-- A written token in front of blank characters is one more piece. -/
theorem Spells.cons_write {t : Token} (ht : t.Printable) {gap : List Char}
    (hgap : IsBlankText gap) {ps : List Piece} {ts : List Token} (hps : Spells ps ts)
    (hrest : gap ≠ [] ∨ ps = []) : Spells (⟨t.write, gap⟩ :: ps) (t :: ts) := by
  have hend : IsBoundary (gap ++ Piece.textOf ps) :=
    hgap.isBoundary (hrest.imp_right fun h => by simp [h, Piece.textOf])
  have hlexeme := ht.isLexeme hend
  obtain ⟨c, cs, hwrite, -⟩ := hlexeme.exists_cons
  refine .cons (by simp [hwrite]) hgap (fun hne => hrest.resolve_right hne) ?_ hps
  rwa [Piece.textOf_cons]

/-- Tokens written in a row are pieces that spell them. -/
theorem exists_spells_writeTokens {ts : List Token} (hne : ts ≠ [])
    (hts : ∀ t ∈ ts, t.Printable) {gap : Nat → List Char}
    (hgap : ∀ i, gap i ≠ [] ∧ IsBlankText (gap i)) {trail : List Char}
    (htrail : IsBlankText trail) :
    ∃ ps, Spells ps ts ∧ Piece.textOf ps = writeTokens gap ts ++ trail := by
  -- the induction follows the writing, so that the gaps count on from one token to the next
  fun_induction writeTokens gap ts with
  | case1 => exact absurd rfl hne
  | case2 gap t =>
    refine ⟨[⟨t.write, trail⟩], .cons_write (hts t (by simp)) htrail .nil (.inr rfl), ?_⟩
    simp [Piece.textOf]
  | case3 gap t u ts ih =>
    obtain ⟨ps, hps, htext⟩ := ih (by simp) (fun t ht => hts t (by simp [ht])) fun i => hgap (i + 1)
    obtain ⟨hgap₀, hblank⟩ := hgap 0
    refine ⟨⟨t.write, gap 0⟩ :: ps, .cons_write (hts t (by simp)) hblank hps (.inl hgap₀), ?_⟩
    rw [Piece.textOf_cons, htext]
    simp

/-- **Tokenizing undoes printing.**  Printable tokens, written in a row with blank space between
    them and around them, are read back in their order. -/
theorem tokenize_writeTokens (tokens : List Token) (htokens : ∀ t ∈ tokens, t.Printable)
    (gap : Nat → List Char) (hgap : ∀ i, gap i ≠ [] ∧ IsBlankText (gap i))
    (lead trail : List Char) (hlead : IsBlankText lead) (htrail : IsBlankText trail) :
    tokenize (String.ofList (lead ++ writeTokens gap tokens ++ trail)) = tokens := by
  -- without tokens, all that is written is blank
  by_cases hne : tokens = []
  · subst hne
    have hblank : IsBlankText (lead ++ trail) := fun c hc =>
      (List.mem_append.1 hc).elim (hlead c) (htrail c)
    have h : Decomposition.IsReading ⟨lead ++ trail, []⟩
        (String.ofList (lead ++ writeTokens gap [] ++ trail)) [] :=
      ⟨by simp [writeTokens, Piece.textOf], hblank, .nil⟩
    exact h.tokenize_eq
  · obtain ⟨ps, hps, htext⟩ := exists_spells_writeTokens hne htokens hgap htrail
    have h : Decomposition.IsReading ⟨lead, ps⟩
        (String.ofList (lead ++ writeTokens gap tokens ++ trail)) tokens :=
      ⟨by rw [String.toList_ofList, htext, List.append_assoc], hlead, hps⟩
    exact h.tokenize_eq

/-- A quoted value with a quote and a last backslash, a plain value with a colon and a quote, and a
    bare one that ends with a colon, written in a row. -/
theorem tokenize_writeTokens_escaped :
    (∀ t ∈ [⟨some "tag", "a \"1\\", true⟩, ⟨some "entry", "b:c\"d", false⟩,
        (⟨none, "e:", false⟩ : Token)], t.Printable) ∧
      tokenize (String.ofList (['\n'] ++ writeTokens (fun _ => [' ', '\t'])
        [⟨some "tag", "a \"1\\", true⟩, ⟨some "entry", "b:c\"d", false⟩, ⟨none, "e:", false⟩] ++
        [])) =
      [⟨some "tag", "a \"1\\", true⟩, ⟨some "entry", "b:c\"d", false⟩, ⟨none, "e:", false⟩] := by
  have hprintable : ∀ t ∈ [⟨some "tag", "a \"1\\", true⟩, ⟨some "entry", "b:c\"d", false⟩,
      (⟨none, "e:", false⟩ : Token)], t.Printable := by
    intro t ht
    simp only [List.mem_cons, List.not_mem_nil, or_false] at ht
    rcases ht with rfl | rfl | rfl
    · refine .quoted ?_
      rintro f hf
      obtain rfl : "tag" = f := by simpa using hf
      decide +kernel
    · exact .qualified (by decide +kernel) (by decide +kernel)
    · refine .bare (by decide +kernel) ?_
      intro id rest heq hne _
      have hchars : ['e', ':'] = id ++ ':' :: rest := heq
      rcases id with _ | ⟨c, _ | ⟨d, ds⟩⟩ <;> simp_all
  exact ⟨hprintable, tokenize_writeTokens _ hprintable _ (fun _ => by decide) _ _
    (by decide) (by decide)⟩

end FieldSearch
