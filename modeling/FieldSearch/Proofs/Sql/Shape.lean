import FieldSearch.Sql.Template
import Mathlib.Data.List.Chain

namespace FieldSearch.Sql

/-!
# The shape of a template

What is left of a template without its values: the characters of its text, and the places that are
open.  The text of a template comes from its shape alone.

* `Template.shape` is the shape, `number` the text with a placeholder for each place;
* `toList_textFrom` says that this is the text of the template, so that templates of one shape have
  one text, and `count_shape` that there are as many places as values;
* `placeholders` finds the placeholders of any text, `placeholders_number` says that those of a tidy
  shape are numbered in their order.
-/

/-- The shape of a piece: characters, or a place, which is `none`. -/
def Piece.shape : Piece → List (Option Char)
  | text s => s.toList.map some
  | bind _ => [none]

namespace Template

/-- The characters and the places of a template. -/
def shape (t : Template) : List (Option Char) := t.flatMap Piece.shape

/-- The shape of two templates in a row is that of the first and then that of the second. -/
@[simp] theorem shape_append (s t : Template) : shape (s ++ t) = shape s ++ shape t :=
  List.flatMap_append

/-- The empty template has the empty shape. -/
@[simp] theorem shape_nil : shape [] = [] := rfl

/-- The empty template binds no values. -/
@[simp] theorem values_nil : values [] = [] := rfl

/-- A text in front of a template adds its characters to the shape. -/
@[simp] theorem shape_text (s : String) (t : Template) :
    shape (.text s :: t) = s.toList.map some ++ shape t := rfl

/-- A value has one place, which does not depend on the value. -/
@[simp] theorem shape_bind (v : Value) (t : Template) : shape (.bind v :: t) = none :: shape t := rfl

/-- A character in front of a template is the first of its shape. -/
@[simp] theorem shape_consChar (c : Char) (t : Template) :
    shape (consChar c t) = some c :: shape t := by
  unfold consChar
  split <;> simp

end Template

/-- A shape with placeholders at its places, the first of which has the number `n`. -/
def number : Nat → List (Option Char) → List Char
  | _, [] => []
  | n, some c :: s => c :: number n s
  | n, none :: s => '$' :: Nat.toDigits 10 n ++ number (n + 1) s

/-- Characters in front of a shape stay as they are when its places are numbered. -/
theorem number_append (n : Nat) (cs : List Char) (s : List (Option Char)) :
    number n (cs.map some ++ s) = cs ++ number n s := by
  induction cs with
  | nil => rfl
  | cons c cs ih => simp [number, ih]

namespace Template

/-- The text of a template is its shape with numbered placeholders. -/
theorem toList_textFrom (n : Nat) (t : Template) : (t.textFrom n).toList = number n t.shape := by
  induction t generalizing n with
  | nil => rfl
  | cons p t ih =>
    cases p with
    | text s => rw [textFrom, String.toList_append, ih, shape_text, number_append]
    | bind v =>
      have hrepr : ("$" ++ n.repr).toList = '$' :: Nat.toDigits 10 n := by
        rw [String.toList_append, Nat.toList_repr]
        rfl
      rw [textFrom, String.toList_append, hrepr, ih, shape_bind, number]

/-- Templates of one shape have one text, whatever values they bind. -/
theorem textFrom_eq_of_shape_eq {s t : Template} (h : s.shape = t.shape) (n : Nat) :
    s.textFrom n = t.textFrom n := by
  apply String.toList_inj.1
  rw [toList_textFrom, toList_textFrom, h]

/-- A template has as many places as values. -/
theorem count_shape (t : Template) : t.shape.count none = t.values.length := by
  induction t with
  | nil => rfl
  | cons p t ih =>
    cases p with
    | text s =>
      -- the characters of a text are no places
      have hnone : none ∉ s.toList.map some := by simp
      rw [shape_text, List.count_append, List.count_eq_zero.2 hnone, ih, values_text, Nat.zero_add]
    | bind v => rw [shape_bind, List.count_cons_self, ih, values_bind, List.length_cons]

end Template

/-! ### Placeholders -/

/-- The digits after each dollar sign of a text. -/
def placeholders : List Char → List (List Char)
  | [] => []
  | c :: cs =>
    if c = '$' then cs.takeWhile Char.isDigit :: placeholders cs else placeholders cs

/-- Text without dollar signs has no placeholders. -/
theorem placeholders_append {cs : List Char} (h : '$' ∉ cs) (ds : List Char) :
    placeholders (cs ++ ds) = placeholders ds := by
  induction cs with
  | nil => rfl
  | cons c cs ih =>
    obtain ⟨hc, hcs⟩ := List.ne_and_not_mem_of_not_mem_cons h
    rw [List.cons_append, placeholders, if_neg (Ne.symm hc), ih hcs]

/-- What a text does not go on with right after a placeholder, so that its number ends there. -/
def EndsNumber (x : Option Char) : Prop := ∀ c ∈ x, c.isDigit = false

instance : DecidablePred EndsNumber
  | none => .isTrue fun _ hc => absurd hc (by simp)
  | some c => decidable_of_iff (c.isDigit = false) (by simp [EndsNumber])

/-- A shape that can be written between others, so that its placeholders are found: it has no dollar
    sign of its own, and a digit stands neither in front nor after a place. -/
structure Tidy (s : List (Option Char)) : Prop where
  dollar_notMem : some '$' ∉ s
  endsNumber_head : ∀ x ∈ s.head?, EndsNumber x
  endsNumber_next : s.IsChain fun x y => x = none → EndsNumber y

namespace Tidy

/-- The empty shape is tidy. -/
theorem nil : Tidy [] := ⟨List.not_mem_nil, by simp, .nil⟩

/-- A place is tidy. -/
theorem place : Tidy [none] := ⟨by simp, by simp [EndsNumber], .singleton none⟩

/-- Characters are tidy if there is no dollar sign and no digit in front. -/
theorem chars {cs : List Char} (hdollar : '$' ∉ cs) (hhead : EndsNumber cs.head?) :
    Tidy (cs.map some) := by
  refine ⟨by simpa using hdollar, ?_, ?_⟩
  · intro x hx
    rw [List.head?_map] at hx
    obtain ⟨c, hc, rfl⟩ := Option.map_eq_some_iff.1 hx
    intro d hd
    obtain rfl : c = d := by simpa using hd
    exact hhead c hc
  · -- among characters no place is followed by anything
    rw [List.isChain_map]
    exact (List.pairwise_of_forall fun _ _ h => by simp at h).isChain

/-- Tidy shapes in a row are tidy. -/
theorem append {s t : List (Option Char)} (hs : Tidy s) (ht : Tidy t) : Tidy (s ++ t) := by
  refine ⟨?_, ?_, ?_⟩
  · rw [List.mem_append, not_or]
    exact ⟨hs.dollar_notMem, ht.dollar_notMem⟩
  · cases s with
    | nil => exact ht.endsNumber_head
    | cons x s => exact hs.endsNumber_head
  -- where the two meet, the second does not begin with a digit
  · refine List.isChain_append.2 ⟨hs.endsNumber_next, ht.endsNumber_next, ?_⟩
    intro x _ y hy _
    exact ht.endsNumber_head y hy

/-- Any number of tidy shapes in a row are tidy. -/
theorem flatMap {α : Type} {xs : List α} {f : α → List (Option Char)} (h : ∀ x ∈ xs, Tidy (f x)) :
    Tidy (xs.flatMap f) := by
  induction xs with
  | nil => exact nil
  | cons x xs ih =>
    rw [List.flatMap_cons]
    exact (h x List.mem_cons_self).append (ih fun y hy => h y (List.mem_cons_of_mem x hy))

end Tidy

/-- The placeholders of a tidy shape are numbered in their order. -/
theorem placeholders_number (n : Nat) {s : List (Option Char)} (hdollar : some '$' ∉ s)
    (hchain : s.IsChain fun x y => x = none → EndsNumber y) :
    placeholders (number n s) = (List.range' n (s.count none)).map (Nat.toDigits 10) := by
  induction s generalizing n with
  | nil => rfl
  | cons x s ih =>
    have ih' := fun n => ih n (List.not_mem_of_not_mem_cons hdollar) hchain.tail
    cases x with
    | some c =>
      have hc : c ≠ '$' := by
        rintro rfl
        exact hdollar List.mem_cons_self
      rw [number, placeholders, if_neg hc, ih', List.count_cons_of_ne (by simp)]
    | none =>
      have digits : ∀ c ∈ Nat.toDigits 10 n, c.isDigit = true := fun c hc =>
        Nat.isDigit_of_mem_toDigits (by decide) (by decide) hc
      have hnodollar : '$' ∉ Nat.toDigits 10 n := fun h => absurd (digits '$' h) (by decide)
      -- the number ends where the shape goes on
      have hnext : (number (n + 1) s).takeWhile Char.isDigit = [] := by
        cases s with
        | nil => rfl
        | cons y s =>
          cases y with
          | none => rfl
          | some c =>
            have hc : c.isDigit = false := (List.isChain_cons_cons.1 hchain).1 rfl c rfl
            rw [number, List.takeWhile_cons, hc]
            rfl
      rw [number, List.cons_append, placeholders, if_pos rfl, placeholders_append hnodollar, ih',
        List.takeWhile_append_of_pos digits, hnext, List.append_nil, List.count_cons_self,
        List.range'_succ, List.map_cons]

end FieldSearch.Sql
