import FieldSearch.Text.Quoted

namespace FieldSearch.Quoted

/-!
# The grammar of quoted text

A quoted text is a body between double quotes.  The body is a sequence of characters other than
backslash and double quote, which stand for themselves, and of pairs of a backslash and any
character, which stand for the second character.

* `Quoted.IsBody` is the grammar of a body together with the text that it stands for;
* `Quoted.IsBody.unescapeOr_eq` says that a body has no backslash that nothing follows;
* `Quoted.read_eq_some_iff` says that `Quoted.read` accepts exactly a body between double quotes,
  gives the text that it stands for, and leaves all that follows it.
-/

/-- The body of a quoted text, and the text that it stands for. -/
inductive IsBody : List Char → List Char → Prop
  /-- An empty body. -/
  | nil : IsBody [] []
  /-- A character that stands for itself. -/
  | plain {c : Char} {body text : List Char} (backslash : c ≠ '\\') (quote : c ≠ '"')
      (more : IsBody body text) : IsBody (c :: body) (c :: text)
  /-- A pair, which stands for its second character. -/
  | pair {c : Char} {body text : List Char} (more : IsBody body text) :
      IsBody ('\\' :: c :: body) (c :: text)

/-- What the rule takes as a body is one, and is read as the text that it stands for. -/
theorem isBody_body (cs : List Char) : IsBody (body cs) (unescape (body cs)) := by
  fun_induction body cs with
  | case1 c cs ih =>
    rw [unescape]
    exact .pair ih
  | case2 c cs hpair hc => exact .nil
  | case3 c cs hpair hc ih =>
    -- the character is neither a double quote nor a backslash with something behind it
    have hquote : c ≠ '"' := fun h => hc (.inl h)
    have hbackslash : c ≠ '\\' := fun h => hc (.inr h)
    have hhead : unescape (c :: body cs) = c :: unescape (body cs) := by
      simp [unescape, hbackslash]
    rw [hhead]
    exact .plain hbackslash hquote ih
  | case4 => exact .nil

/-- In front of a double quote, a body is taken whole. -/
theorem IsBody.body_append {b text : List Char} (h : IsBody b text) (rest : List Char) :
    body (b ++ '"' :: rest) = b := by
  induction h with
  | nil => simp [body]
  | plain backslash quote _ ih => simp [body, backslash, quote, ih]
  | pair _ ih => simp [body, ih]

/-- A body ends at the double quote that follows it. -/
theorem IsBody.afterBody_append {b text : List Char} (h : IsBody b text) (rest : List Char) :
    afterBody (b ++ '"' :: rest) = '"' :: rest := by
  induction h with
  | nil => simp [afterBody]
  | plain backslash quote _ ih => simp [afterBody, backslash, quote, ih]
  | pair _ ih => simp [afterBody, ih]

/-- The text that a body stands for, with `dangling` for a backslash that nothing follows. -/
def unescapeOr (dangling : List Char) : List Char → List Char
  | '\\' :: c :: cs => c :: unescapeOr dangling cs
  | c :: cs => if c = '\\' then dangling else c :: unescapeOr dangling cs
  | [] => []

/-- A backslash that nothing follows is read as nothing. -/
theorem unescapeOr_nil (cs : List Char) : unescapeOr [] cs = unescape cs := by
  fun_induction unescape cs <;> simp_all [unescapeOr]

/-- A body is read as the text that it stands for, whatever a backslash that nothing follows would
    be read as: there is none. -/
theorem IsBody.unescapeOr_eq {b text : List Char} (h : IsBody b text) (dangling : List Char) :
    unescapeOr dangling b = text := by
  induction h with
  | nil => rfl
  | plain backslash _ _ ih => simp [unescapeOr, backslash, ih]
  | pair _ ih => simp [unescapeOr, ih]

/-- A body is read as the text that it stands for. -/
theorem IsBody.unescape_eq {b text : List Char} (h : IsBody b text) : unescape b = text :=
  (unescapeOr_nil b).symm.trans (h.unescapeOr_eq [])

/-- The rule for quoted text accepts exactly a body between double quotes, whatever follows. -/
theorem read_eq_some_iff {cs text rest : List Char} :
    read cs = some (text, rest) ↔ ∃ b, IsBody b text ∧ cs = '"' :: (b ++ '"' :: rest) := by
  constructor
  · intro h
    unfold read at h
    split at h
    · rename_i cs
      split at h
      · rename_i tail hafter
        simp only [Option.some.injEq, Prod.mk.injEq] at h
        obtain ⟨rfl, rfl⟩ := h
        -- what is taken as the body and what is left after it make up the text
        refine ⟨body cs, isBody_body cs, ?_⟩
        rw [← hafter, body_append_afterBody]
      · exact absurd h (by simp)
    · exact absurd h (by simp)
  · rintro ⟨b, hb, rfl⟩
    simp only [read]
    rw [hb.afterBody_append, hb.body_append]
    simp [hb.unescape_eq]

/-- The quoted form of a text has a body that stands for the text. -/
theorem isBody_escape (text : List Char) : IsBody (escape text) text := by
  induction text with
  | nil => exact .nil
  | cons c cs ih =>
    rw [escape]
    by_cases h : c = '\\' ∨ c = '"'
    · rw [if_pos h]
      exact .pair ih
    · rw [if_neg h]
      rw [not_or] at h
      exact .plain h.1 h.2 ih

end FieldSearch.Quoted
