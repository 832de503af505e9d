import FieldSearch.Proofs.Search.Populated
import FieldSearch.Proofs.Sql.Vocabulary

namespace FieldSearch

open Sql

/-!
# The text of queries without empty parts

The condition of an empty node is a constant, and a list without tags is not SQL.  Neither is in the
text of a query that has no empty parts.

* `Template.HasWord` is a word in the text of a template;
* `Expr.exists_atom_of_infix` says that a word in the text of an expression without constants stands
  in one of its atoms, unless it is a connective;
* `Condition.LacksConstants` says so of `TRUE` and `FALSE` in the text of a condition;
* `CompiledQuery.PrintsNoGap` says that the text of a query has neither a constant nor an empty list
  of tags, and `CompiledQuery.IsPopulated.printsNoGap` that this is so without empty parts;
* `Extra.not_hasWord_condition` and `Library.not_hasWord_condition` conclude that the text of the
  condition has no constant at all, since the atoms of the entities have none.
-/

namespace Sql

/-! ### Constants -/

variable {b : Bool}

/-- Parentheses are no constants. -/
theorem Expr.constant_mem_enclose {bare : Bool} {s : List Symbol} :
    .constant b ∈ enclose bare s ↔ .constant b ∈ s := by
  cases bare <;> simp [enclose]

/-- A chain of expressions has no constant but those of the expressions, unless it is empty. -/
theorem Expr.constant_notMem_chain {c : Connective} {es : List Expr} (hne : es ≠ [])
    (h : ∀ e ∈ es, .constant b ∉ e.symbols) : .constant b ∉ (chain c es).symbols := by
  obtain _ | ⟨e, es⟩ := es
  · exact absurd rfl hne
  rw [chain]
  -- the chain that stands on the left of the next operator has no constant
  induction es generalizing e with
  | nil => exact h e List.mem_cons_self
  | cons e' es ih =>
    have he := h e List.mem_cons_self
    have he' := h e' (by simp)
    refine ih (.binary c e e') (List.cons_ne_nil _ _) fun x hx => ?_
    rcases List.mem_cons.1 hx with rfl | hx
    · rw [symbols, List.mem_append, List.mem_cons, constant_mem_enclose, constant_mem_enclose]
      simp [he, he']
    · exact h x (by simp [hx])

namespace Condition

/-- A condition that joins items has no constant but those of the items, unless there are none. -/
theorem constant_notMem_join {c : Connective} {items : List Condition} (hne : items ≠ [])
    (h : ∀ item ∈ items, .constant b ∉ item.symbols) : .constant b ∉ (join c items).symbols := by
  rw [symbols, expr_join]
  refine Expr.constant_notMem_chain (by simpa using hne) fun e he => ?_
  obtain ⟨item, hitem, rfl⟩ := List.mem_map.1 he
  exact h item hitem

/-- A condition that joins what becomes of the elements of a list has no constant but those of what
    becomes of them, unless the list is empty. -/
theorem constant_notMem_join_map {α : Type} {c : Connective} {f : α → Condition} {l : List α}
    (hne : l ≠ []) (h : ∀ a ∈ l, .constant b ∉ (f a).symbols) :
    .constant b ∉ (join c (l.map f)).symbols := by
  refine constant_notMem_join (by simpa using hne) fun item hitem => ?_
  obtain ⟨a, ha, rfl⟩ := List.mem_map.1 hitem
  exact h a ha

/-- An atom is no constant. -/
theorem constant_notMem_atom (a : Atom) : .constant b ∉ (atom a).symbols := by
  rintro (_ | ⟨_, h⟩)
  cases h

end Condition

section

variable {μ : Type} (criterion : μ → Atom)

/-- The condition of a term without empty nodes has no constants. -/
theorem constant_notMem_ofTerm {t : Term μ} (h : t.IsPopulated) :
    .constant b ∉ (ofTerm criterion t).symbols := by
  induction h with
  | leaf m => exact Condition.constant_notMem_atom (criterion m)
  | any ne_nil _ ih =>
    rw [ofTerm_any]
    exact Condition.constant_notMem_join_map ne_nil ih
  | all ne_nil _ ih =>
    rw [ofTerm_all]
    exact Condition.constant_notMem_join_map ne_nil ih

/-- The condition of a review filter has no constants if there is a status. -/
theorem constant_notMem_ofReview {filter : ReviewFilter} {status : ReviewStatus}
    (h : filter.statuses.contains status = true) : .constant b ∉ (ofReview filter).symbols := by
  have hne : filter.statuses.toList ≠ [] := List.ne_nil_of_mem (StatusSet.mem_toList.2 h)
  exact Condition.constant_notMem_join_map hne fun _ _ => Condition.constant_notMem_atom _

/-- The condition of a query that restricts something has no constants, if no part is empty. -/
theorem constant_notMem_ofQuery (keys : String) {q : CompiledQuery μ} (h : q.IsPopulated)
    (hrestricted : q.isUnrestricted = false) :
    .constant b ∉ (ofQuery criterion keys q).symbols := by
  refine Condition.constant_notMem_join ?_ fun item hitem => ?_
  · -- a query without parts would restrict nothing
    obtain ⟨term?, tags?, review?⟩ := q
    cases term? <;> cases tags? <;> cases review? <;> simp_all [CompiledQuery.isUnrestricted]
  · rw [List.mem_append, List.mem_append] at hitem
    rcases hitem with (hitem | hitem) | hitem
    · obtain ⟨t, ht, rfl⟩ := Option.map_eq_some_iff.1 (Option.mem_toList.1 hitem)
      exact constant_notMem_ofTerm criterion (h.term t ht)
    · obtain ⟨filter, -, rfl⟩ := Option.map_eq_some_iff.1 (Option.mem_toList.1 hitem)
      exact Condition.constant_notMem_atom _
    · obtain ⟨filter, hfilter, rfl⟩ := Option.map_eq_some_iff.1 (Option.mem_toList.1 hitem)
      obtain ⟨status, hstatus⟩ := h.exists_status filter hfilter
      exact constant_notMem_ofReview hstatus

/-- The condition that a row is the user's, is shown, and satisfies a query has no constants, if the
    query restricts something and no part of it is empty. -/
theorem constant_notMem_scoped {owner visible : Atom} (keys : String) {q : CompiledQuery μ}
    (h : q.IsPopulated) (hrestricted : q.isUnrestricted = false) :
    .constant b ∉
      (Condition.allOf [.atom owner, .atom visible, ofQuery criterion keys q]).symbols := by
  refine Condition.constant_notMem_join (List.cons_ne_nil _ _) fun item hitem => ?_
  simp only [List.mem_cons, List.not_mem_nil, or_false] at hitem
  rcases hitem with rfl | rfl | rfl
  · exact Condition.constant_notMem_atom owner
  · exact Condition.constant_notMem_atom visible
  · exact constant_notMem_ofQuery criterion keys h hrestricted

end

/-! ### Words in the text of a condition -/

/-- A word that stands where an element outside it is inserted stands on one of its sides. -/
theorem infix_append_cons {α : Type} {w l m : List α} {c : α} (hc : c ∉ w)
    (h : w <:+: l ++ c :: m) : w <:+: l ∨ w <:+: m := by
  have hbegins {v : List α} (hv : c ∉ v) (h : v <+: c :: m) : v = [] := by
    obtain _ | ⟨d, v⟩ := v
    · rfl
    obtain rfl : d = c := (List.cons_prefix_cons.1 h).1
    exact absurd List.mem_cons_self hv
  rcases List.infix_append_iff.1 h with hl | hm | ⟨w₁, w₂, rfl, hl, hm⟩
  · exact .inl hl
  · rcases List.infix_cons_iff.1 hm with hm | hm
    · rw [hbegins hc hm]
      exact .inl List.nil_infix
    · exact .inr hm
  · -- the part behind the place would begin with the element
    rw [hbegins (fun hmem => hc (List.mem_append_right w₁ hmem)) hm, List.append_nil]
    exact .inl hl.isInfix

/-- A word stands in the text of a template, with some number for its first placeholder. -/
def Template.HasWord (word : String) (t : Template) : Prop :=
  ∃ n, word.toList <:+: (t.textFrom n).toList

/-- Characters that are not what stands between atoms, nor reach beyond it. -/
structure IsForeign (w : List Char) : Prop where
  blank_notMem : ' ' ∉ w
  open_notMem : '(' ∉ w
  close_notMem : ')' ∉ w
  not_infix_connective : ∀ connective ∈ ["AND", "OR"], ¬ w <:+: connective.toList

/-- A constant is foreign to what stands between atoms. -/
theorem isForeign_of_mem_constants {word : String} (h : word ∈ ["TRUE", "FALSE"]) :
    IsForeign word.toList := by
  rcases List.mem_pair.1 h with rfl | rfl
  · exact ⟨by decide, by decide, by decide, by decide⟩
  · exact ⟨by decide, by decide, by decide, by decide⟩

namespace Expr

variable {w : List Char}

/-- A word inside parentheses stands in what they enclose. -/
theorem infix_of_enclose (hw : IsForeign w) {bare : Bool} {s : List Symbol} {n : Nat}
    (h : w <:+: (spell n (enclose bare s)).toList) : w <:+: (spell n s).toList := by
  cases bare with
  | true => exact h
  | false =>
    have htext : (spell n (enclose false s)).toList =
        [] ++ '(' :: ((spell n s).toList ++ ')' :: []) := by
      simp [enclose, spell, spell_append]
    -- the word has no parenthesis, so that it stands between the two
    rw [htext] at h
    rcases infix_append_cons hw.open_notMem h with h | h
    · rw [List.infix_nil.1 h]
      exact List.nil_infix
    rcases infix_append_cons hw.close_notMem h with h | h
    · exact h
    · rw [List.infix_nil.1 h]
      exact List.nil_infix

/-- A word beside a connective stands on one of its sides. -/
theorem infix_of_connective (hw : IsForeign w) {c : Connective} {s t : List Symbol} {n : Nat}
    (h : w <:+: (spell n (s ++ .connective c :: t)).toList) :
    w <:+: (spell n s).toList ∨ ∃ m, w <:+: (spell m t).toList := by
  -- a blank stands on both sides of the connective
  obtain ⟨name, hname, htext⟩ : ∃ name ∈ ["AND", "OR"], ∀ m,
      (spell m (.connective c :: t)).toList = ' ' :: (name.toList ++ ' ' :: (spell m t).toList) := by
    cases c with
    | and => exact ⟨"AND", by simp, fun m => by rw [spell, String.toList_append]; rfl⟩
    | or => exact ⟨"OR", by simp, fun m => by rw [spell, String.toList_append]; rfl⟩
  rw [spell_append, String.toList_append, htext] at h
  rcases infix_append_cons hw.blank_notMem h with h | h
  · exact .inl h
  rcases infix_append_cons hw.blank_notMem h with h | h
  · exact absurd h (hw.not_infix_connective name hname)
  · exact .inr ⟨_, h⟩

/-- A word in the text of an expression without constants stands in one of its atoms, if it is
    not a connective. -/
theorem exists_atom_of_infix (hw : IsForeign w) {e : Expr} (he : ∀ b, .constant b ∉ e.symbols)
    {n : Nat} (h : w <:+: (spell n e.symbols).toList) :
    ∃ a ∈ e.atoms, ∃ m, w <:+: (a.template.textFrom m).toList := by
  induction e generalizing n with
  | constant b => exact absurd List.mem_cons_self (he b)
  | atom a =>
    refine ⟨a, List.mem_singleton_self a, n, ?_⟩
    rwa [symbols, spell_eq, List.flatMap_singleton] at h
  | binary c l r ihl ihr =>
    -- the sides have no constants, and a word is looked for in each of them
    have hsides (b : Bool) : .constant b ∉ l.symbols ∧ .constant b ∉ r.symbols := by
      have hb := he b
      rw [symbols, List.mem_append, List.mem_cons, constant_mem_enclose, constant_mem_enclose,
        not_or, not_or] at hb
      exact ⟨hb.1, hb.2.2⟩
    rcases infix_of_connective hw h with h | ⟨m, h⟩
    · obtain ⟨a, ha, hinfix⟩ := ihl (fun b => (hsides b).1) (infix_of_enclose hw h)
      exact ⟨a, List.mem_append_left _ ha, hinfix⟩
    · obtain ⟨a, ha, hinfix⟩ := ihr (fun b => (hsides b).2) (infix_of_enclose hw h)
      exact ⟨a, List.mem_append_right _ ha, hinfix⟩

end Expr

/-- Nothing that is printed for the condition is a constant: where `TRUE` or `FALSE` stands in its
    text, it stands in the text of one of its atoms. -/
structure Condition.LacksConstants (c : Condition) : Prop where
  notMem_symbols : ∀ b, .constant b ∉ c.symbols
  exists_atom : ∀ word ∈ ["TRUE", "FALSE"], c.template.HasWord word →
    ∃ a ∈ c.atoms, a.template.HasWord word

/-- The text of a condition without constants among its symbols lacks them. -/
theorem Condition.LacksConstants.of_notMem {c : Condition} (h : ∀ b, .constant b ∉ c.symbols) :
    c.LacksConstants := by
  refine ⟨h, fun word hword ⟨n, hinfix⟩ => ?_⟩
  rw [← spell_symbols] at hinfix
  rw [← atoms_expr]
  exact Expr.exists_atom_of_infix (isForeign_of_mem_constants hword) h hinfix

/-! ### Letters that do not meet -/

/-- The text of a template lacks the words whose letters do not meet in its shape. -/
theorem Template.not_hasWord {t : Template} {x y : Char} (hx : OutsidePlaceholders x)
    (hy : OutsidePlaceholders y) (h : Apart x y t.shape) {word : String}
    (hword : [x, y] <:+: word.toList) : ¬ t.HasWord word := by
  rintro ⟨n, hinfix⟩
  rw [Template.toList_textFrom] at hinfix
  exact h.not_infix_number hx hy hword n hinfix

/-- A list of values begins with a place. -/
theorem head?_shape_listed {vs : List Value} (h : vs ≠ []) :
    (Template.listed vs).shape.head? = some none := by
  obtain _ | ⟨v, _ | ⟨w, vs⟩⟩ := vs
  · exact absurd rfl h
  · rfl
  · rfl

/-- In a tag membership two characters do not meet, if they meet neither in what is around its list
    of tags nor where the list begins.  At the latter place they cannot meet if there is a tag. -/
theorem Apart.tagMembership {x y : Char} (hx : x ≠ ',' ∧ x ≠ ' ') (hy : y ≠ ',' ∧ y ≠ ' ')
    {keys : String} (hkeys : IsPlain (keys ++ " @> (").toList)
    (hopening : Apart x y (TaggedKeys.opening keys)) (hclosing : Apart x y TaggedKeys.closing)
    {filter : TagFilter}
    (hmeet : filter.tags.toList ≠ [] ∨ some x ∉ (TaggedKeys.opening keys).getLast?) :
    Apart x y (tagMembership filter keys).template.shape := by
  rw [(alike_tagMembership hkeys filter).shape, TaggedKeys.shape_eq, List.append_assoc]
  have hnotMem (c : Char) (hc : c ≠ ',' ∧ c ≠ ' ') {vs : List Value} :
      some c ∉ (Template.listed vs).shape := fun hmem => by
    rcases mem_shape_listed hmem with h | h | h
    · cases h
    · exact hc.1 (Option.some.inj h)
    · exact hc.2 (Option.some.inj h)
  have hlist : Apart x y
      ((Template.listed ((TaggedKeys.ofFilter filter).tags.map .text)).shape ++
        TaggedKeys.closing) := by
    refine .append (isChain_of_notMem (hnotMem y hy)) hclosing (.inl fun hlast => ?_)
    exact hnotMem x hx (List.mem_of_mem_getLast? hlast)
  refine hopening.append hlist (hmeet.symm.imp_right fun hne => ?_)
  -- behind the parenthesis of the list stands its first place
  rw [List.head?_append, head?_shape_listed (by simpa [TaggedKeys.ofFilter] using hne)]
  simp

/-- The text of a tag membership has no empty list, if there is a tag. -/
theorem not_hasWord_tagMembership {filter : TagFilter} (hne : filter.tags.toList ≠ [])
    {keys : String} (hkeys : keys ∈ [Extra.keys, Library.keys]) :
    ¬ (tagMembership filter keys).template.HasWord "IN ()" := by
  have hopening : ∀ keys ∈ [Extra.keys, Library.keys], Apart '(' ')' (TaggedKeys.opening keys) := by
    decide +kernel
  have hclosing : Apart '(' ')' TaggedKeys.closing := by decide +kernel
  have hapart : Apart '(' ')' (tagMembership filter keys).template.shape :=
    .tagMembership (by decide) (by decide) (isPlain_keys keys hkeys) (hopening keys hkeys)
      hclosing (.inl hne)
  exact Template.not_hasWord (by decide) (by decide) hapart ⟨"IN ".toList, [], by decide⟩

end Sql

/-! ### Queries without empty parts -/

/-- Nothing that is printed for a query stands for an empty part: the text has no constants for its
    term, nor for the whole query if it restricts something, and no empty list of tags. -/
structure CompiledQuery.PrintsNoGap {μ : Type} (q : CompiledQuery μ) : Prop where
  term : ∀ t, q.term? = some t → ∀ criterion : μ → Atom, (ofTerm criterion t).LacksConstants
  query : q.isUnrestricted = false → ∀ (criterion : μ → Atom) (keys : String),
    (ofQuery criterion keys q).LacksConstants
  tags : ∀ filter, q.tags? = some filter → ∀ keys ∈ [Extra.keys, Library.keys],
    ¬ (tagMembership filter keys).template.HasWord "IN ()"

/-- A query without empty parts is printed without them. -/
theorem CompiledQuery.IsPopulated.printsNoGap {μ : Type} {q : CompiledQuery μ}
    (h : q.IsPopulated) : q.PrintsNoGap where
  term t ht criterion := .of_notMem fun _ => constant_notMem_ofTerm criterion (h.term t ht)
  query hrestricted criterion keys :=
    .of_notMem fun _ => constant_notMem_ofQuery criterion keys h hrestricted
  tags filter hfilter _ hkeys := not_hasWord_tagMembership (h.tags_ne_nil filter hfilter) hkeys

/-! ### The words of atoms -/

/-- The constants, each with two of its letters, which stand in a row nowhere else. -/
def constantLetters : List (String × Char × Char) := [("TRUE", 'R', 'U'), ("FALSE", 'F', 'A')]

/-- The list of tags stands behind a parenthesis. -/
theorem TaggedKeys.getLast?_opening (keys : String) :
    (TaggedKeys.opening keys).getLast? = some (some '(') := by
  have hlast : ("AND entry_tag.\"tag\" IN (".toList.map some).getLast? = some (some '(') := by
    decide +kernel
  simp only [TaggedKeys.opening, Template.shape_text, Template.shape_bind, Template.shape_nil,
    List.append_nil, List.getLast?_append, List.getLast?_cons, hlast]
  simp

namespace Lexicon

variable {μ φ : Type}

/-- The words of a lexicon are no constants, neither where its atoms begin nor in front of a list of
    tags. -/
structure LacksConstants (l : Lexicon φ) : Prop where
  front : ∀ w ∈ constantLetters, ∀ k ∈ l.kinds, Apart w.2.1 w.2.2 (l.front k)
  opening : ∀ w ∈ constantLetters, Apart w.2.1 w.2.2 (TaggedKeys.opening l.keys)

/-- The condition that a row is the user's, is shown, and satisfies a query, in the words of a
    lexicon. -/
def condition (l : Lexicon φ) (criterion : μ → Atom) (q : CompiledQuery μ) (user : String) :
    Condition :=
  .allOf [.atom (.comparison [.text l.owner, .bind (.text user)]), .atom l.visible,
    ofQuery criterion l.keys q]

section

variable {l : Lexicon φ} {criterion : μ → Atom} {field : μ → φ} {value : μ → String}

variable (hlacks : l.LacksConstants) (hl : l.IsClear) (h : Literal criterion field value l.lead)

include hlacks hl h

/-- An atom in the words of a lexicon without constants has none in its text. -/
theorem not_hasWord_atom (d : Demand μ) :
    ∀ w ∈ constantLetters, ¬ (l.atom criterion d).template.HasWord w.1 := by
  have hletters : ∀ w ∈ constantLetters, [w.2.1, w.2.2] <:+: w.1.toList ∧
      OutsidePlaceholders w.2.1 ∧ OutsidePlaceholders w.2.2 := by decide
  have hseparators : ∀ w ∈ constantLetters,
      (w.2.1 ≠ ',' ∧ w.2.1 ≠ ' ') ∧ (w.2.2 ≠ ',' ∧ w.2.2 ≠ ' ') := by decide
  have hparen : ∀ w ∈ constantLetters, w.2.1 ≠ '(' := by decide
  have hclosing : ∀ w ∈ constantLetters, Apart w.2.1 w.2.2 TaggedKeys.closing := by decide +kernel
  intro w hw
  obtain ⟨hword, hx, hy⟩ := hletters w hw
  have hapart : Apart w.2.1 w.2.2 (l.atom criterion d).template.shape := by
    by_cases hd : d.kind field = .tags
    · obtain ⟨filter, rfl⟩ : ∃ filter, d = .tags filter := by
        cases d with
        | tags filter => exact ⟨filter, rfl⟩
        | _ => cases hd
      refine .tagMembership (hseparators w hw).1 (hseparators w hw).2 hl.isPlain_keys
        (hlacks.opening w hw) (hclosing w hw) (.inr ?_)
      rw [TaggedKeys.getLast?_opening]
      simpa using (hparen w hw).symm
    · rw [shape_atom h hd]
      exact hlacks.front w hw _ (hl.mem_kinds _)
  exact Template.not_hasWord hx hy hapart hword

/-- The condition of a query in the words of a lexicon without constants has none in its text, if the
    query restricts something and no part of it is empty. -/
theorem not_hasWord_condition {q : CompiledQuery μ} (hq : q.IsPopulated)
    (hrestricted : q.isUnrestricted = false) (user : String) :
    ∀ word ∈ ["TRUE", "FALSE"], ¬ (l.condition criterion q user).template.HasWord word := by
  intro word hword hcondition
  have hlacks' : (l.condition criterion q user).LacksConstants :=
    .of_notMem fun _ => constant_notMem_scoped criterion l.keys hq hrestricted
  -- a constant would stand in an atom
  obtain ⟨a, ha, hatom⟩ := hlacks'.exists_atom word hword hcondition
  obtain ⟨d, rfl⟩ : ∃ d, l.atom criterion d = a := Demand.exists_of_mem_atoms ha
  obtain ⟨w, hw, rfl⟩ : ∃ w ∈ constantLetters, w.1 = word := List.mem_map.1 hword
  exact not_hasWord_atom hlacks hl h d w hw hatom

end

end Lexicon

/-- The words of conditions on extra entries are no constants. -/
theorem Extra.lacksConstants_lexicon : lexicon.LacksConstants where
  front := by decide +kernel
  opening := by decide +kernel

/-- The condition of a query on extra entries has no constant in its text, if the query restricts
    something and no part of it is empty. -/
theorem Extra.not_hasWord_condition {q : CompiledQuery Extra} (h : q.IsPopulated)
    (hrestricted : q.isUnrestricted = false) (user : String) :
    ∀ word ∈ ["TRUE", "FALSE"], ¬ (condition q user).template.HasWord word :=
  Lexicon.not_hasWord_condition lacksConstants_lexicon isClear_lexicon literal h hrestricted user

/-- The words of conditions on collections are no constants. -/
theorem Library.lacksConstants_lexicon : lexicon.LacksConstants where
  front := by decide +kernel
  opening := by decide +kernel

/-- The condition of a query on collections has no constant in its text, if the query restricts
    something and no part of it is empty. -/
theorem Library.not_hasWord_condition {q : CompiledQuery Library} (h : q.IsPopulated)
    (hrestricted : q.isUnrestricted = false) (user : String) :
    ∀ word ∈ ["TRUE", "FALSE"], ¬ (condition q user).template.HasWord word :=
  Lexicon.not_hasWord_condition lacksConstants_lexicon isClear_lexicon literal h hrestricted user

end FieldSearch
