import FieldSearch.Proofs.Text.QuotedGrammar
import FieldSearch.Token.Grammar

namespace FieldSearch

/-!
# The rule for quoted text

A quoted text is found by one pass over the input, and its value is made of what was found by
another.  The two agree on where a pair begins, so that the rule reads its grammar.

* `Quoted.Splits` says that a text starts with a body between double quotes, and
  `Quoted.Splits.unique` that this can be said of one body only;
* `Grammar.quotedText_eq_some_iff` says what the rule reads, and `Grammar.quotedText_write` that it
  reads what is written in quotes;
* `quotedText_accepts` puts them together.
-/

namespace Quoted

/-- The text `cs` is a body between double quotes, and `rest` behind them. -/
structure Splits (cs body rest : List Char) : Prop where
  isBody : ∃ text, IsBody body text
  eq : cs = '"' :: (body ++ '"' :: rest)

/-- The body, and so what is behind it, is the one that a pass over the text takes. -/
theorem Splits.eq_body {c : Char} {cs body rest : List Char} (h : Splits (c :: cs) body rest) :
    Quoted.body cs = body ∧ afterBody cs = '"' :: rest := by
  obtain ⟨text, hbody⟩ := h.isBody
  obtain ⟨-, rfl⟩ := List.cons.inj h.eq
  exact ⟨hbody.body_append rest, hbody.afterBody_append rest⟩

/-- A text has one body between double quotes, if any. -/
theorem Splits.unique {cs body rest body' rest' : List Char} (h : Splits cs body rest)
    (h' : Splits cs body' rest') : body' = body ∧ rest' = rest := by
  cases cs with
  | nil => exact absurd h.eq (by simp)
  | cons c cs =>
    obtain ⟨hbody, hafter⟩ := h.eq_body
    obtain ⟨hbody', hafter'⟩ := h'.eq_body
    have hrest : '"' :: rest' = '"' :: rest := hafter'.symm.trans hafter
    exact ⟨hbody'.symm.trans hbody, (List.cons.inj hrest).2⟩

end Quoted

namespace Grammar

/-- The rule reads a body between double quotes as the text that it stands for, and leaves what is
    behind it. -/
theorem quotedText_eq_some_iff {cs rest : List Char} {value : String} :
    quotedText cs = some (value, rest) ↔
      ∃ body, Quoted.IsBody body value.toList ∧ cs = '"' :: (body ++ '"' :: rest) := by
  rw [← Quoted.read_eq_some_iff, quotedText, Option.map_eq_some_iff]
  constructor
  · rintro ⟨⟨text, tail⟩, hread, heq⟩
    obtain ⟨rfl, rfl⟩ := Prod.mk.inj heq
    rwa [String.toList_ofList]
  · intro hread
    exact ⟨_, hread, by simp⟩

/-- The rule reads whatever starts with a body between double quotes, and nothing else. -/
theorem exists_quotedText_iff {cs : List Char} :
    (∃ read, quotedText cs = some read) ↔ ∃ body rest, Quoted.Splits cs body rest := by
  constructor
  · rintro ⟨⟨value, rest⟩, hread⟩
    obtain ⟨body, hbody, hcs⟩ := quotedText_eq_some_iff.1 hread
    exact ⟨body, rest, ⟨_, hbody⟩, hcs⟩
  · rintro ⟨body, rest, ⟨text, hbody⟩, hcs⟩
    refine ⟨(String.ofList text, rest), quotedText_eq_some_iff.2 ⟨body, ?_, hcs⟩⟩
    rwa [String.toList_ofList]

/-- The rule reads a text that is written in quotes, whatever follows it. -/
theorem quotedText_write (text : String) (rest : List Char) :
    quotedText (Quoted.write text.toList ++ rest) = some (text, rest) := by
  rw [quotedText, Quoted.read_write, Option.map_some]
  show some (String.ofList text.toList, rest) = some (text, rest)
  rw [String.ofList_toList]

end Grammar

/-- **The rule for quoted text reads its grammar, and undoes escaping.**  It reads exactly the texts
    that start with a body between double quotes.  The body and what is behind it are then
    determined; what is behind it is left, whatever it starts with, and the value is the text that
    the body stands for, in which no backslash is without a character behind it.  A text that is
    written in quotes is read as it was. -/
theorem quotedText_accepts :
    (∀ cs : List Char,
      ((∃ read, Grammar.quotedText cs = some read) ↔ ∃ body rest, Quoted.Splits cs body rest) ∧
      ∀ body rest, Quoted.Splits cs body rest →
        (∀ body' rest', Quoted.Splits cs body' rest' → body' = body ∧ rest' = rest) ∧
        ∃ text, Quoted.IsBody body text ∧
          Grammar.quotedText cs = some (String.ofList text, rest) ∧
          Quoted.unescape body = text ∧ ∀ dangling, Quoted.unescapeOr dangling body = text) ∧
    ∀ (text : String) (rest : List Char),
      Grammar.quotedText (Quoted.write text.toList ++ rest) = some (text, rest) := by
  refine ⟨fun cs => ⟨Grammar.exists_quotedText_iff, fun body rest h => ?_⟩,
    Grammar.quotedText_write⟩
  refine ⟨fun body' rest' h' => h.unique h', ?_⟩
  obtain ⟨text, hbody⟩ := h.isBody
  refine ⟨text, hbody, ?_, hbody.unescape_eq, hbody.unescapeOr_eq⟩
  exact Grammar.quotedText_eq_some_iff.2 ⟨body, by rwa [String.toList_ofList], h.eq⟩

/-- An escaped quote, and a backslash that is escaped in front of the last quote; a character that
    is not blank follows. -/
theorem quotedText_accepts_backslashes :
    let cs := "\"a\\\"b\\\\\"c\"".toList
    let body := "a\\\"b\\\\".toList
    Quoted.Splits cs body ['c', '"'] ∧
      (∀ body' rest', Quoted.Splits cs body' rest' → body' = body ∧ rest' = ['c', '"']) ∧
      Grammar.quotedText cs = some ("a\"b\\", ['c', '"']) := by
  intro cs body
  have hbody : Quoted.IsBody body "a\"b\\".toList :=
    .plain (by decide) (by decide) (.pair (.plain (by decide) (by decide) (.pair .nil)))
  have hsplits : Quoted.Splits cs body ['c', '"'] := ⟨⟨_, hbody⟩, rfl⟩
  obtain ⟨-, haccepts⟩ := quotedText_accepts.1 cs
  obtain ⟨hunique, text, htext, hread, -⟩ := haccepts body ['c', '"'] hsplits
  refine ⟨hsplits, hunique, ?_⟩
  -- a body stands for one text
  rw [hread, ← htext.unescape_eq, hbody.unescape_eq]
  rfl

end FieldSearch
