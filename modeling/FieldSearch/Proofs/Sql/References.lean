import FieldSearch.Proofs.Sql.Shape
import FieldSearch.Sql.Criteria

namespace FieldSearch.Sql

/-!
# Reading references back

The text of a fragment that refers to its values in their order, each once, is read as a template
with these values in their places.

* `IsPlain` is text that stands for itself where a fragment goes on outside words and quotes;
* `Legible` is a template whose text can be read back: its text is plain, and after a place it does
  not go on with the word that names the place;
* `Template.Alike` are templates with the same shape and the same values;
* `Legible.alike_template` says that a legible template and the fragment of its text are alike.
-/

namespace FragmentState

/-! ### Text without references -/

/-- Nothing is pending that may turn out to be a reference. -/
def IsSettled : FragmentState → Prop
  | dollar => False
  | reference _ => False
  | _ => True

/-- Outside words and quotes a character other than a dollar sign stands for itself. -/
theorem enter_of_ne {c : Char} (hc : c ≠ '$') :
    (enter c).1 = [.char c] ∧ (enter c).2.IsSettled := by
  rw [enter, if_neg hc]
  refine ⟨rfl, ?_⟩
  dsimp only
  split
  · exact trivial
  · split <;> exact trivial

/-- Where no reference is pending a character other than a dollar sign stands for itself. -/
theorem step_of_ne {s : FragmentState} (hs : s.IsSettled) {c : Char} (hc : c ≠ '$') :
    (s.step c).1 = [.char c] ∧ (s.step c).2.IsSettled := by
  -- a state takes the character as its own, or the character is read outside
  cases s with
  | outside => exact enter_of_ne hc
  | word =>
    rw [step]
    split
    · exact ⟨rfl, trivial⟩
    · exact enter_of_ne hc
  | quoted ending =>
    refine ⟨rfl, ?_⟩
    show IsSettled (if c = ending then closed ending else if c = '\\' then escaped ending
      else quoted ending)
    split
    · exact trivial
    · split <;> exact trivial
  | escaped ending => exact ⟨rfl, trivial⟩
  | closed ending =>
    rw [step]
    split
    · exact ⟨rfl, trivial⟩
    · exact enter_of_ne hc
  | dollar => exact hs.elim
  | reference w => exact hs.elim

/-- Text without dollar signs stands for itself. -/
theorem run_of_notMem {s : FragmentState} (hs : s.IsSettled) {cs : List Char} (h : '$' ∉ cs) :
    (s.run cs).1 = cs.map .char := by
  induction cs generalizing s with
  | nil => rfl
  | cons c cs ih =>
    obtain ⟨hc, hcs⟩ := List.ne_and_not_mem_of_not_mem_cons h
    -- no dollar sign comes, so that nothing becomes pending
    obtain ⟨hmarks, hsettled⟩ := step_of_ne hs hc.symm
    rw [run, hmarks, ih hsettled hcs]
    rfl

/-- The marks of two texts in a row are those of the first, and those of the second from where the
    first has been read to. -/
theorem marks_append (s : FragmentState) (cs ds : List Char) :
    s.marks (cs ++ ds) = (s.run cs).1 ++ (s.run cs).2.marks ds := by
  rw [marks, run_append, marks, List.append_assoc]

end FragmentState

open FragmentState

/-- Text that stands for itself between references: it has no dollar sign, does not begin with a
    digit, and leaves the words and quotes that it enters. -/
structure IsPlain (cs : List Char) : Prop where
  dollar_notMem : '$' ∉ cs
  endsNumber_head : EndsNumber cs.head?
  run_outside : (outside.run cs).2 = outside

instance (cs : List Char) : Decidable (IsPlain cs) :=
  decidable_of_iff ('$' ∉ cs ∧ EndsNumber cs.head? ∧ (outside.run cs).2 = outside)
    ⟨fun ⟨h₁, h₂, h₃⟩ => ⟨h₁, h₂, h₃⟩, fun ⟨h₁, h₂, h₃⟩ => ⟨h₁, h₂, h₃⟩⟩

namespace IsPlain

/-- Plain text is read as itself. -/
theorem run_eq {cs : List Char} (h : IsPlain cs) :
    outside.run cs = (cs.map .char, outside) :=
  Prod.ext (run_of_notMem (s := outside) trivial h.dollar_notMem) h.run_outside

/-- Plain text behind a reference is read as itself, unless it goes on with the word. -/
theorem run_reference {cs : List Char} (h : IsPlain cs) (w : List Char)
    (hhead : ∃ c ∈ cs.head?, continuesWord c = false) :
    (reference w).run cs = (.named w :: cs.map .char, outside) := by
  obtain ⟨c, hc, hword⟩ := hhead
  cases cs with
  | nil => exact absurd hc (by simp)
  | cons d cs =>
    obtain rfl : d = c := by simpa using hc
    -- the first character ends the reference, and is read as outside words
    have hstep : (reference w).step d = (.named w :: (outside.step d).1, (outside.step d).2) := by
      simp [step, hword]
    obtain ⟨hmarks, hrest⟩ := Prod.ext_iff.1 h.run_eq
    rw [run] at hmarks hrest
    rw [run, hstep]
    exact Prod.ext (congrArg (Mark.named w :: ·) hmarks) hrest

end IsPlain

/-! ### Templates that can be read back -/

/-- A template whose text can be read back, where `afterPlace` says whether it stands right after a
    place. -/
def Legible : Bool → Template → Prop
  | _, [] => True
  | afterPlace, .text s :: t =>
    IsPlain s.toList ∧
      (afterPlace = true → ∃ c ∈ s.toList.head?, continuesWord c = false) ∧ Legible false t
  | afterPlace, .bind _ :: t => afterPlace = false ∧ Legible true t

/-- The marks of a template: its characters, and a reference by number for each of its places. -/
def Template.marksFrom (n : Nat) : Template → List Mark
  | [] => []
  | .text s :: t => s.toList.map .char ++ marksFrom n t
  | .bind _ :: t => .named (Nat.toDigits 10 n) :: marksFrom (n + 1) t

/-- The text of a legible template has its marks, also where a reference is pending. -/
theorem Legible.marks_textFrom {t : Template} (n : Nat) :
    (Legible false t → outside.marks (t.textFrom n).toList = t.marksFrom n) ∧
      (Legible true t → ∀ w,
        (reference w).marks (t.textFrom n).toList = .named w :: t.marksFrom n) := by
  -- a reference ends only where the next piece begins, so that the two cases need each other
  induction t generalizing n with
  | nil => exact ⟨fun _ => rfl, fun _ _ => rfl⟩
  | cons p t ih =>
    cases p with
    | text s =>
      rw [Template.textFrom, String.toList_append]
      constructor
      · rintro ⟨hplain, -, ht⟩
        rw [marks_append, hplain.run_eq, (ih n).1 ht]
        rfl
      · rintro ⟨hplain, hhead, ht⟩ w
        rw [marks_append, hplain.run_reference w (hhead rfl), (ih n).1 ht]
        rfl
    | bind v =>
      constructor
      · rintro ⟨-, ht⟩
        have hrepr : ("$" ++ n.repr).toList = '$' :: Nat.toDigits 10 n := by
          rw [String.toList_append, Nat.toList_repr]
          rfl
        rw [Template.textFrom, String.toList_append, hrepr, marks_append, run_number,
          (ih (n + 1)).2 ht]
        rfl
      · -- two places never stand side by side
        rintro ⟨hplace, -⟩
        exact absurd hplace (by decide)

/-- Legible templates are tidy. -/
theorem Legible.tidy {afterPlace : Bool} {t : Template} (h : Legible afterPlace t) :
    Tidy t.shape := by
  induction t generalizing afterPlace with
  | nil => exact .nil
  | cons p t ih =>
    cases p with
    | text s =>
      obtain ⟨hplain, -, ht⟩ := h
      exact (Tidy.chars hplain.dollar_notMem hplain.endsNumber_head).append (ih ht)
    | bind v => exact Tidy.place.append (ih h.2)

/-! ### The template of the text of a template -/

/-- Templates with one shape and one list of values. -/
structure Template.Alike (s t : Template) : Prop where
  shape : s.shape = t.shape
  values : s.values = t.values

namespace Template

/-- Characters in front of a template are the first of its shape, and bind nothing. -/
theorem Alike.chars {s t : Template} (h : s.Alike t) (cs : List Char) :
    (cs.foldr consChar s).shape = cs.map some ++ t.shape ∧
      (cs.foldr consChar s).values = t.values := by
  induction cs with
  | nil => exact ⟨h.shape, h.values⟩
  | cons c cs ih => simp [ih]

end Template

/-- Marks that are characters are put in front of the SQL of the others. -/
theorem bindMarks_chars (values : List Value) (k : Nat) (cs : List Char) (ms : List Mark) :
    bindMarks values k (cs.map .char ++ ms) =
      cs.foldr Template.consChar (bindMarks values k ms) := by
  induction cs with
  | nil => rfl
  | cons c cs ih => rw [List.map_cons, List.cons_append, bindMarks, ih, List.foldr_cons]

/-- The references of a template are bound to its values, whatever values stand before them. -/
theorem bindMarks_marksFrom (before : List Value) (k : Nat) (t : Template) :
    (bindMarks (before ++ t.values) k (t.marksFrom (before.length + 1))).Alike t := by
  induction t generalizing before with
  | nil => exact ⟨rfl, rfl⟩
  | cons p t ih =>
    cases p with
    | text s =>
      rw [Template.marksFrom, bindMarks_chars]
      obtain ⟨hshape, hvalues⟩ := (ih before).chars s.toList
      exact ⟨hshape, hvalues⟩
    | bind v =>
      -- as many values stand before the place as its number says
      have hnamed : named? (before ++ v :: Template.values t) (Nat.toDigits 10 (before.length + 1)) =
          some v := by
        rw [named?_number, List.getElem?_append_right (Nat.le_refl _), Nat.sub_self]
        rfl
      have ht := ih (before ++ [v])
      rw [List.append_assoc, List.length_append] at ht
      rw [Template.values_bind, Template.marksFrom, bindMarks, hnamed]
      exact ⟨congrArg (none :: ·) ht.shape, congrArg (v :: ·) ht.values⟩

/-- The fragment with the text and the values of a legible template gives the template again. -/
theorem Legible.alike_template {t : Template} (h : Legible false t) :
    (Fragment.template ⟨t.text, t.values⟩).Alike t := by
  rw [Fragment.template, Template.text, (Legible.marks_textFrom 1).1 h]
  exact bindMarks_marksFrom [] 0 t

end FieldSearch.Sql
