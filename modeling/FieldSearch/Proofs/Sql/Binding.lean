import FieldSearch.Proofs.Sql.Criteria
import FieldSearch.Proofs.Sql.Structure
import FieldSearch.Proofs.Term

namespace FieldSearch.Sql

/-!
# What a condition binds

The template of a condition, from the templates of its atoms.

* `Condition.values_template` and `Condition.tidy_template` say that it binds what the atoms bind,
  from left to right, and is tidy if they are;
* `Condition.blank` forgets the values of a condition; by `Condition.shape_template_eq` conditions
  that are then equal have one shape;
* `atoms_ofTerm` and `map_ofTerm` are about the atoms of the condition of a term.
-/

/-! ### From atoms to conditions -/

/-- Whether a piece is text that can stand anywhere. -/
def Piece.IsFixed : Piece → Prop
  | text s => '$' ∉ s.toList ∧ EndsNumber s.toList.head?
  | bind _ => False

instance : DecidablePred Piece.IsFixed
  | .text s => inferInstanceAs (Decidable ('$' ∉ s.toList ∧ EndsNumber s.toList.head?))
  | .bind _ => inferInstanceAs (Decidable False)

namespace Template

/-- Fixed text is tidy. -/
theorem tidy_of_isFixed {t : Template} (h : ∀ p ∈ t, p.IsFixed) : Tidy t.shape := by
  refine Tidy.flatMap fun p hp => ?_
  cases p with
  | text s => exact Tidy.chars (h _ hp).1 (h _ hp).2
  | bind v => exact (h _ hp).elim

/-- Fixed text binds nothing. -/
theorem values_of_isFixed {t : Template} (h : ∀ p ∈ t, p.IsFixed) : t.values = [] := by
  rw [values, List.filterMap_eq_nil_iff]
  intro p hp
  cases p with
  | text s => rfl
  | bind v => exact (h _ hp).elim

/-- The template with every value forgotten, character by character. -/
def blank (t : Template) : Template :=
  t.shape.map fun
    | some c => .text (String.singleton c)
    | none => .bind (.text "")

/-- Without their values, templates of one shape are equal. -/
theorem blank_eq_of_shape_eq {s t : Template} (h : s.shape = t.shape) : s.blank = t.blank := by
  rw [blank, blank, h]

/-- Forgetting the values keeps the shape. -/
theorem shape_blank (t : Template) : t.blank.shape = t.shape := by
  rw [blank, shape, List.flatMap_map]
  refine Eq.trans (List.flatMap_congr fun x _ => ?_) (List.flatMap_singleton' t.shape)
  cases x with
  | some c => simp [Piece.shape]
  | none => rfl

end Template

namespace Atom

/-- The atom with every value forgotten. -/
def blank : Atom → Atom
  | comparison t => comparison t.blank
  | custom t => custom t.blank

/-- A comparison stays a comparison when its values are forgotten. -/
theorem isSimple_blank (a : Atom) : (Expr.atom a.blank).isSimple = (Expr.atom a).isSimple := by
  cases a <;> rfl

/-- Forgetting the values keeps the shape. -/
theorem shape_blank (a : Atom) : a.blank.template.shape = a.template.shape := by
  cases a with
  | comparison t => exact t.shape_blank
  | custom t => exact t.shape_blank

end Atom

namespace Symbol

/-- A symbol binds what its atom binds. -/
theorem values_template (s : Symbol) :
    s.template.values = s.atom?.elim [] fun a => a.template.values := by
  cases s with
  | atom a => rfl
  | constant b => cases b <;> rfl
  | connective c => cases c <;> rfl
  | openParen => rfl
  | closeParen => rfl

/-- A symbol is tidy if its atom is. -/
theorem tidy_template {s : Symbol} (h : ∀ a ∈ s.atom?, Tidy a.template.shape) :
    Tidy s.template.shape := by
  cases s with
  | atom a => exact h a rfl
  | constant b => cases b <;> exact Template.tidy_of_isFixed (by decide +kernel)
  | connective c => cases c <;> exact Template.tidy_of_isFixed (by decide +kernel)
  | openParen => exact Template.tidy_of_isFixed (by decide +kernel)
  | closeParen => exact Template.tidy_of_isFixed (by decide +kernel)

/-- Forgetting the values keeps the shape. -/
theorem shape_map_blank (s : Symbol) : (s.map Atom.blank).template.shape = s.template.shape := by
  cases s with
  | atom a => exact a.shape_blank
  | constant b => rfl
  | connective c => rfl
  | openParen => rfl
  | closeParen => rfl

end Symbol

namespace Condition

/-- The shape of a condition is that of its symbols, in their order. -/
theorem shape_template (c : Condition) :
    c.template.shape = c.symbols.flatMap fun s => s.template.shape := by
  rw [template, Template.shape, List.flatMap_assoc]
  rfl

/-- A condition binds what its atoms bind, from left to right. -/
theorem values_template (c : Condition) :
    c.template.values = c.atoms.flatMap fun a => a.template.values := by
  -- the induction is on the symbols, of which only atoms bind values
  rw [template, ← atoms_symbols]
  induction c.symbols with
  | nil => rfl
  | cons s ss ih =>
    rw [List.flatMap_cons, Template.values_append, ih, Symbol.values_template, List.filterMap_cons]
    cases s.atom? <;> rfl

/-- A condition is tidy if its atoms are. -/
theorem tidy_template {c : Condition} (h : ∀ a ∈ c.atoms, Tidy a.template.shape) :
    Tidy c.template.shape := by
  rw [shape_template]
  refine Tidy.flatMap fun s hs => Symbol.tidy_template fun a ha => h a ?_
  rw [← atoms_symbols]
  exact List.mem_filterMap.2 ⟨s, hs, ha⟩

/-- The condition with every value forgotten. -/
def blank (c : Condition) : Condition := c.map Atom.blank

/-- Forgetting the values keeps the shape. -/
theorem shape_template_blank (c : Condition) : c.blank.template.shape = c.template.shape := by
  -- comparisons stay comparisons, so that the symbols change one by one
  rw [shape_template, shape_template, blank, symbols_map Atom.isSimple_blank, List.flatMap_map]
  exact List.flatMap_congr fun s _ => s.shape_map_blank

/-- Conditions that are equal but for their values have one shape. -/
theorem shape_template_eq {c d : Condition} (h : c.blank = d.blank) :
    c.template.shape = d.template.shape := by
  rw [← shape_template_blank c, h, shape_template_blank]

end Condition

/-! ### The conditions of terms -/

section

variable {μ ν : Type}

/-- The condition of a term has an atom for each match, in their order. -/
theorem atoms_ofTerm (criterion : μ → Atom) (t : Term μ) :
    (ofTerm criterion t).atoms = t.leaves.map criterion := by
  induction t with
  | leaf m => rfl
  | any terms ih =>
    rw [ofTerm_any, Condition.atoms_join, List.flatMap_map, Term.leaves_any, List.map_flatMap]
    exact List.flatMap_congr ih
  | all terms ih =>
    rw [ofTerm_all, Condition.atoms_join, List.flatMap_map, Term.leaves_all, List.map_flatMap]
    exact List.flatMap_congr ih

/-- If the atom of a match comes from what `field` says of it, up to a change `f`, then so does the
    condition of a term. -/
theorem map_ofTerm {criterion : μ → Atom} {f : Atom → Atom} {field : μ → ν} {g : ν → Atom}
    (h : ∀ m, f (criterion m) = g (field m)) (t : Term μ) :
    (ofTerm criterion t).map f = ofTerm g (t.map field) := by
  induction t with
  -- a node is joined anew from its children, and only matches have atoms
  | leaf m => exact congrArg Condition.atom (h m)
  | any terms ih =>
    rw [ofTerm_any, Condition.map_join, Term.map_any, ofTerm_any, List.map_map, List.map_map]
    exact congrArg (Condition.join .or) (List.map_congr_left ih)
  | all terms ih =>
    rw [ofTerm_all, Condition.map_join, Term.map_all, ofTerm_all, List.map_map, List.map_map]
    exact congrArg (Condition.join .and) (List.map_congr_left ih)

end

end FieldSearch.Sql
