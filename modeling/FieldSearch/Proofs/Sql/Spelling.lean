import FieldSearch.Proofs.Sql.Binding
import FieldSearch.Proofs.Sql.Reading

namespace FieldSearch.Sql

/-!
# The spelling of conditions

How symbols look in a text, word by word, and how a text with its values is taken apart into symbols
again.

* `spell` is the text of symbols, `bound` lists the values of their atoms; by
  `Condition.spell_symbols` and `Condition.bound_symbols` a condition is printed like this;
* `Template.ReadsFrom` says what a text with its values is read as: as whatever symbols are spelled
  so, over the atoms that are known;
* `IsCode` says that the known atoms can be told apart where they begin, and
  `IsCode.eq_of_spell` that a text with its values then is the spelling of one list of symbols only;
* `Condition.readsFrom_iff` concludes that what is printed for a condition is read with its value
  and with no other.
-/

/-! ### Words -/

/-- The text of symbols whose first placeholder has the number `n`. -/
def spell (n : Nat) : List Symbol → String
  | [] => ""
  | .atom (.comparison t) :: s => t.textFrom n ++ spell (n + t.values.length) s
  | .atom (.custom t) :: s => t.textFrom n ++ spell (n + t.values.length) s
  | .constant true :: s => "TRUE" ++ spell n s
  | .constant false :: s => "FALSE" ++ spell n s
  | .connective .and :: s => " AND " ++ spell n s
  | .connective .or :: s => " OR " ++ spell n s
  | .openParen :: s => "(" ++ spell n s
  | .closeParen :: s => ")" ++ spell n s

/-- The values that the atoms among symbols bind, from left to right. -/
def bound : List Symbol → List Value
  | [] => []
  | .atom (.comparison t) :: s => t.values ++ bound s
  | .atom (.custom t) :: s => t.values ++ bound s
  | _ :: s => bound s

/-- Symbols in a row have the text of their templates in a row. -/
theorem spell_eq (n : Nat) (s : List Symbol) :
    spell n s = Template.textFrom n (s.flatMap Symbol.template) := by
  induction s generalizing n with
  | nil => rfl
  | cons x s ih =>
    rw [List.flatMap_cons, Template.textFrom_append, ← ih]
    cases x with
    | atom a => cases a <;> rfl
    | constant b => cases b <;> simp [spell, Symbol.template, Template.textFrom]
    | connective c => cases c <;> simp [spell, Symbol.template, Template.textFrom]
    | openParen => simp [spell, Symbol.template, Template.textFrom]
    | closeParen => simp [spell, Symbol.template, Template.textFrom]

/-- Symbols in a row bind what their templates bind in a row. -/
theorem bound_eq (s : List Symbol) : bound s = Template.values (s.flatMap Symbol.template) := by
  induction s with
  | nil => rfl
  | cons x s ih =>
    rw [List.flatMap_cons, Template.values_append, ← ih]
    cases x with
    | atom a => cases a <;> rfl
    | constant b => cases b <;> rfl
    | connective c => cases c <;> rfl
    | openParen => rfl
    | closeParen => rfl

/-- The second of two lists of symbols counts on where the first has stopped. -/
theorem spell_append (n : Nat) (s t : List Symbol) :
    spell n (s ++ t) = spell n s ++ spell (n + (bound s).length) t := by
  rw [spell_eq, spell_eq, spell_eq, bound_eq, List.flatMap_append, Template.textFrom_append]

namespace Condition

/-- A condition is printed as its symbols are spelled. -/
theorem spell_symbols (n : Nat) (c : Condition) : spell n c.symbols = c.template.textFrom n :=
  spell_eq n c.symbols

/-- A condition binds what its symbols do. -/
theorem bound_symbols (c : Condition) : bound c.symbols = c.template.values :=
  bound_eq c.symbols

end Condition

/-- What is printed for a template, from the placeholder with the number `n` on, is read with the
    value `x`: the text, and the values that it binds, are those of symbols over `known` atoms, and
    these symbols are read so. -/
def Template.ReadsFrom (n : Nat) (v : Atom → Truth) (known : Atom → Prop) (t : Template)
    (x : Truth) : Prop :=
  ∃ s : List Symbol, (∀ a, .atom a ∈ s → known a) ∧ spell n s = t.textFrom n ∧
    bound s = t.values ∧ Reads v .disjunction s x

/-! ### Taking a text apart -/

/-- A text with numbered placeholders determines its shape, if no dollar sign stands for itself. -/
theorem number_inj {n : Nat} {s t : List (Option Char)} (hs : some '$' ∉ s) (ht : some '$' ∉ t)
    (h : number n s = number n t) : s = t := by
  induction s generalizing n t with
  | nil =>
    obtain _ | ⟨_ | c, t⟩ := t
    · rfl
    · simp [number] at h
    · simp [number] at h
  | cons x s ih =>
    have hs' := List.not_mem_of_not_mem_cons hs
    obtain _ | ⟨y, t⟩ := t
    · cases x <;> simp [number] at h
    have ht' := List.not_mem_of_not_mem_cons ht
    -- a place begins with a dollar sign, and no character of the shapes is one
    cases x with
    | none =>
      cases y with
      | none =>
        have hrest : number (n + 1) s = number (n + 1) t := by simpa [number] using h
        rw [ih hs' ht' hrest]
      | some d =>
        obtain rfl : '$' = d := (List.cons.inj h).1
        exact absurd List.mem_cons_self ht
    | some c =>
      cases y with
      | none =>
        obtain rfl : c = '$' := (List.cons.inj h).1
        exact absurd List.mem_cons_self hs
      | some d =>
        obtain ⟨rfl, hrest⟩ := List.cons.inj h
        rw [ih hs' ht' hrest]

namespace Symbol

/-- The symbols that are not atoms. -/
def signs : List Symbol :=
  [constant true, constant false, connective .and, connective .or, openParen, closeParen]

/-- A symbol is an atom or a sign. -/
theorem exists_atom_or_mem_signs (s : Symbol) : (∃ a, s = atom a) ∨ s ∈ signs := by
  cases s with
  | atom a => exact .inl ⟨a, rfl⟩
  | constant b => cases b <;> exact .inr (by decide)
  | connective c => cases c <;> exact .inr (by decide)
  | openParen => exact .inr (by decide)
  | closeParen => exact .inr (by decide)

/-- Every sign is written with at least one character. -/
theorem shape_ne_nil_of_mem_signs : ∀ s ∈ signs, s.template.shape ≠ [] := by
  decide +kernel

/-- No sign is the beginning of another one. -/
theorem eq_of_prefix_of_mem_signs :
    ∀ s ∈ signs, ∀ t ∈ signs, s.template.shape <+: t.template.shape → s = t := by
  decide +kernel

end Symbol

/-- Known atoms that can be told apart where they begin, from each other and from the signs. -/
structure IsCode (known : Atom → Prop) : Prop where
  dollar_notMem : ∀ a, known a → some '$' ∉ a.template.shape
  shape_ne_nil : ∀ a, known a → a.template.shape ≠ []
  head_ne : ∀ a, known a → ∀ s ∈ Symbol.signs, a.template.shape.head? ≠ s.template.shape.head?
  shape_eq_of_prefix : ∀ a b, known a → known b → a.template.shape <+: b.template.shape →
    a.template.shape = b.template.shape
  eq_of_alike : ∀ a b, known a → known b → a.template.Alike b.template → a = b

/-- What begins with something that is not empty has its first element. -/
theorem head?_eq_of_begins {α : Type} {l m : List α} (h : l <+: m) (hne : l ≠ []) :
    m.head? = l.head? := by
  obtain ⟨rest, rfl⟩ := h
  exact List.head?_append_of_ne_nil l hne

namespace IsCode

variable {known : Atom → Prop} (h : IsCode known)

include h

/-- No symbol prints nothing. -/
theorem shape_symbol_ne_nil {x : Symbol} (hx : ∀ a, x = .atom a → known a) :
    x.template.shape ≠ [] := by
  rcases x.exists_atom_or_mem_signs with ⟨a, rfl⟩ | hsign
  · exact h.shape_ne_nil a (hx a rfl)
  · exact Symbol.shape_ne_nil_of_mem_signs x hsign

/-- Two symbols are the same if what one prints is the beginning of what the other one prints. -/
theorem eq_of_prefix {x y : Symbol} (hx : ∀ a, x = .atom a → known a)
    (hy : ∀ a, y = .atom a → known a) (hshape : x.template.shape <+: y.template.shape)
    {vs ws : List Value} (hvalues : x.template.values ++ vs = y.template.values ++ ws) :
    x = y := by
  have hhead := head?_eq_of_begins hshape (h.shape_symbol_ne_nil hx)
  rcases x.exists_atom_or_mem_signs with ⟨a, rfl⟩ | hxsign
  · have ha := hx a rfl
    rcases y.exists_atom_or_mem_signs with ⟨b, rfl⟩ | hysign
    · -- atoms of one shape bind equally many values
      have hb := hy b rfl
      have hsame := h.shape_eq_of_prefix a b ha hb hshape
      have hlength : a.template.values.length = b.template.values.length := by
        rw [← Template.count_shape, ← Template.count_shape, hsame]
      have hequal := (List.append_inj hvalues hlength).1
      rw [h.eq_of_alike a b ha hb ⟨hsame, hequal⟩]
    · exact absurd hhead.symm (h.head_ne a ha y hysign)
  · rcases y.exists_atom_or_mem_signs with ⟨b, rfl⟩ | hysign
    · exact absurd hhead (h.head_ne b (hy b rfl) x hxsign)
    · exact Symbol.eq_of_prefix_of_mem_signs x hxsign y hysign hshape

/-- The first symbol of a text with its values is determined, whatever follows it. -/
theorem eq_of_append {x y : Symbol} (hx : ∀ a, x = .atom a → known a)
    (hy : ∀ a, y = .atom a → known a) {s t : List (Option Char)}
    (hshape : x.template.shape ++ s = y.template.shape ++ t) {vs ws : List Value}
    (hvalues : x.template.values ++ vs = y.template.values ++ ws) : x = y := by
  have hleft : x.template.shape <+: x.template.shape ++ s := List.prefix_append _ _
  have hright : y.template.shape <+: x.template.shape ++ s := hshape ▸ List.prefix_append _ _
  rcases List.prefix_or_prefix_of_prefix hleft hright with hbegins | hbegins
  · exact h.eq_of_prefix hx hy hbegins hvalues
  · exact (h.eq_of_prefix hy hx hbegins hvalues.symm).symm

/-- Symbols are determined by the shape and the values of what they print. -/
theorem eq_of_flatMap {s t : List Symbol} (hs : ∀ a, .atom a ∈ s → known a)
    (ht : ∀ a, .atom a ∈ t → known a)
    (hshape : Template.shape (s.flatMap Symbol.template) =
      Template.shape (t.flatMap Symbol.template))
    (hvalues : Template.values (s.flatMap Symbol.template) =
      Template.values (t.flatMap Symbol.template)) : s = t := by
  induction s generalizing t with
  | nil =>
    obtain _ | ⟨y, t⟩ := t
    · rfl
    rw [List.flatMap_cons, Template.shape_append] at hshape
    have hnil := (List.append_eq_nil_iff.1 hshape.symm).1
    exact absurd hnil (h.shape_symbol_ne_nil fun a ha => ht a (by simp [ha]))
  | cons x s ih =>
    have hx : ∀ a, x = .atom a → known a := fun a ha => hs a (by simp [ha])
    rw [List.flatMap_cons, Template.shape_append] at hshape
    rw [List.flatMap_cons, Template.values_append] at hvalues
    obtain _ | ⟨y, t⟩ := t
    · exact absurd (List.append_eq_nil_iff.1 hshape).1 (h.shape_symbol_ne_nil hx)
    rw [List.flatMap_cons, Template.shape_append] at hshape
    rw [List.flatMap_cons, Template.values_append] at hvalues
    -- the first symbols are the same, so that they can be taken off
    obtain rfl := h.eq_of_append hx (fun a ha => ht a (by simp [ha])) hshape hvalues
    rw [ih (fun a ha => hs a (List.mem_cons_of_mem x ha))
      (fun a ha => ht a (List.mem_cons_of_mem x ha)) (List.append_cancel_left hshape)
      (List.append_cancel_left hvalues)]

/-- What symbols print has no dollar sign of its own. -/
theorem dollar_notMem_flatMap {s : List Symbol} (hs : ∀ a, .atom a ∈ s → known a) :
    some '$' ∉ Template.shape (s.flatMap Symbol.template) := by
  rw [Template.shape, List.flatMap_assoc, List.mem_flatMap]
  rintro ⟨x, hx, hdollar⟩
  have hsigns : ∀ z ∈ Symbol.signs, some '$' ∉ z.template.shape := by decide +kernel
  rcases x.exists_atom_or_mem_signs with ⟨a, rfl⟩ | hsign
  · exact h.dollar_notMem a (hs a hx) hdollar
  · exact hsigns x hsign hdollar

/-- A text with its values is the spelling of one list of symbols only. -/
theorem eq_of_spell {n : Nat} {s t : List Symbol} (hs : ∀ a, .atom a ∈ s → known a)
    (ht : ∀ a, .atom a ∈ t → known a) (htext : spell n s = spell n t)
    (hbound : bound s = bound t) : s = t := by
  rw [spell_eq, spell_eq, ← String.toList_inj, Template.toList_textFrom,
    Template.toList_textFrom] at htext
  rw [bound_eq, bound_eq] at hbound
  exact h.eq_of_flatMap hs ht
    (number_inj (h.dollar_notMem_flatMap hs) (h.dollar_notMem_flatMap ht) htext) hbound

end IsCode

/-- What is printed for a condition over known atoms is read with its value, and with no other. -/
theorem Condition.readsFrom_iff {known : Atom → Prop} (h : IsCode known) {c : Condition}
    (hc : ∀ a ∈ c.atoms, known a) (n : Nat) (v : Atom → Truth) (x : Truth) :
    c.template.ReadsFrom n v known x ↔ x = c.truth v := by
  have hknown (a : Atom) (ha : .atom a ∈ c.symbols) : known a := by
    refine hc a ?_
    rw [← atoms_symbols]
    exact List.mem_filterMap.2 ⟨_, ha, rfl⟩
  constructor
  · -- the symbols that are read are those of the condition
    rintro ⟨s, hs, htext, hbound, hreads⟩
    rw [← spell_symbols] at htext
    rw [← bound_symbols] at hbound
    rw [h.eq_of_spell hs hknown htext hbound] at hreads
    exact (reads_symbols_iff v c x).1 hreads
  · intro hx
    exact ⟨c.symbols, hknown, c.spell_symbols n, c.bound_symbols, (reads_symbols_iff v c x).2 hx⟩

end FieldSearch.Sql
