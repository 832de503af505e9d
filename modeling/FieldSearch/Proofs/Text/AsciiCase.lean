import FieldSearch.Text.Ascii
import FieldSearch.Text.CharClass
import FieldSearch.Text.Lowercase

namespace FieldSearch

/-!
# Case in ASCII texts

On a text of ASCII characters the different ways to lower-case it are one and the same.

* `forall_ascii` reduces what is said of all ASCII characters to a table of them;
* `toLowercase_of_ascii` and `foldName_of_ascii` say that an ASCII text is lower-cased, and kept as
  the name of a field, with the letters `A` to `Z` folded and nothing else changed;
* `withoutUnderscores` leaves the underscores of a name out, and `asciiFold_camelCase` says that
  camel case does so and otherwise changes only the case of letters.
-/

/-- A text of ASCII characters. -/
def IsAscii (s : String) : Prop := ∀ c ∈ s.toList, c.toNat < 0x80

/-- What holds of each of the first 128 code points holds of every ASCII character. -/
theorem forall_ascii {p : Char → Prop} (h : ∀ n < 0x80, p (Char.ofNat n)) {c : Char}
    (hc : c.toNat < 0x80) : p c := by
  have hp := h c.toNat hc
  rwa [Char.ofNat_toNat] at hp

/-- The fold of a character outside ASCII is the character itself. -/
theorem toLower_of_not_ascii {c : Char} (h : ¬ c.toNat < 0x80) : c.toLower = c := by
  have hupper : ¬ (c.val ≥ 'A'.val ∧ c.val ≤ 'Z'.val) := by
    rintro ⟨-, hle⟩
    have hc : c.toNat ≤ 0x5A := UInt32.le_iff_toNat_le.1 hle
    omega
  exact dif_neg hupper

/-- The capital of a character outside ASCII is the character itself. -/
theorem toUpper_of_not_ascii {c : Char} (h : ¬ c.toNat < 0x80) : c.toUpper = c := by
  have hlower : ¬ ('a'.val ≤ c.val ∧ c.val ≤ 'z'.val) := by
    rintro ⟨-, hle⟩
    have hc : c.toNat ≤ 0x7A := UInt32.le_iff_toNat_le.1 hle
    omega
  exact dif_neg hlower

/-! ## Folding -/

/-- A character folds to the same, whichever case it is put in before. -/
theorem toLower_toCase (c : Char) :
    c.toLower.toLower = c.toLower ∧ c.toUpper.toLower = c.toLower := by
  by_cases hc : c.toNat < 0x80
  · exact forall_ascii
      (p := fun c => c.toLower.toLower = c.toLower ∧ c.toUpper.toLower = c.toLower)
      (by decide +kernel) hc
  · rw [toLower_of_not_ascii hc, toUpper_of_not_ascii hc, toLower_of_not_ascii hc]
    exact ⟨rfl, rfl⟩

/-- Folding twice is folding once. -/
@[simp] theorem asciiFold_asciiFold (s : String) : asciiFold (asciiFold s) = asciiFold s := by
  have hfold : Char.toLower ∘ Char.toLower = Char.toLower :=
    funext fun c => (toLower_toCase c).1
  rw [asciiFold, asciiFold, String.toList_ofList, List.map_map, hfold]

/-- Folding makes ASCII characters of ASCII characters only. -/
theorem toNat_lt_of_toLower {c : Char} (h : c.toLower.toNat < 0x80) : c.toNat < 0x80 := by
  by_cases hc : c.toNat < 0x80
  · exact hc
  · rwa [toLower_of_not_ascii hc] at h

/-- A text is one of ASCII characters if what it folds to is. -/
theorem IsAscii.of_asciiFold {s : String} (h : IsAscii (asciiFold s)) : IsAscii s := by
  intro c hc
  refine toNat_lt_of_toLower (h c.toLower ?_)
  rw [asciiFold, String.toList_ofList]
  exact List.mem_map_of_mem hc

/-- An ASCII character folds to an ASCII character. -/
theorem toNat_toLower_lt {c : Char} (h : c.toNat < 0x80) : c.toLower.toNat < 0x80 :=
  forall_ascii (p := fun c => c.toLower.toNat < 0x80) (by decide +kernel) h

/-- What an ASCII text folds to is an ASCII text. -/
theorem IsAscii.asciiFold {s : String} (h : IsAscii s) : IsAscii (asciiFold s) := by
  intro c hc
  rw [FieldSearch.asciiFold, String.toList_ofList, List.mem_map] at hc
  obtain ⟨c, hc, rfl⟩ := hc
  exact toNat_toLower_lt (h c hc)

/-- The letters and digits of ASCII are ASCII characters. -/
theorem toNat_lt_of_isAlphanum {c : Char} (h : c.isAlphanum = true) : c.toNat < 0x80 := by
  delta Char.isAlphanum Char.isAlpha Char.isUpper Char.isLower Char.isDigit at h
  simp only [Bool.or_eq_true, Bool.and_eq_true, decide_eq_true_eq, ge_iff_le,
    UInt32.le_iff_toNat_le] at h
  have h : ((0x41 ≤ c.toNat ∧ c.toNat ≤ 0x5A) ∨ (0x61 ≤ c.toNat ∧ c.toNat ≤ 0x7A)) ∨
    (0x30 ≤ c.toNat ∧ c.toNat ≤ 0x39) := h
  omega

/-- Folding keeps the characters outside ASCII, and adds none. -/
theorem mem_asciiFold_iff {s : String} {c : Char} (hc : 0x80 ≤ c.toNat) :
    c ∈ (FieldSearch.asciiFold s).toList ↔ c ∈ s.toList := by
  have hfold (d : Char) : d.toLower = c ↔ d = c := by
    by_cases hd : d.toNat < 0x80
    · have hlower := toNat_toLower_lt hd
      constructor
      · rintro rfl
        omega
      · rintro rfl
        omega
    · rw [toLower_of_not_ascii hd]
  rw [FieldSearch.asciiFold, String.toList_ofList, List.mem_map]
  simp only [hfold]
  exact exists_eq_right

/-- A letter or a digit of ASCII folds to a word character. -/
theorem isWordChar_toLower {c : Char} (h : c.isAlphanum = true) : isWordChar c.toLower = true := by
  have hc := toNat_lt_of_isAlphanum h
  have hfold : c.toLower.toNat < 0x80 ∧ c.toLower.isAlphanum = c.isAlphanum :=
    forall_ascii (p := fun c => c.toLower.toNat < 0x80 ∧ c.toLower.isAlphanum = c.isAlphanum)
      (by decide +kernel) hc
  refine isWordChar_of_isAlphanumeric ?_
  rw [isAlphanumeric_of_ascii hfold.1, hfold.2, h]

/-! ## Lower-casing -/

/-- An ASCII character has one lower case character. -/
theorem lowerChar_of_ascii {c : Char} (h : c.toNat < 0x80) : lowerChar c = [c.toLower] :=
  forall_ascii (p := fun c => lowerChar c = [c.toLower]) (by decide +kernel) h

/-- The upper case characters of ASCII are its capitals. -/
theorem isUppercase_of_ascii {c : Char} (h : c.toNat < 0x80) : isUppercase c = c.isUpper :=
  forall_ascii (p := fun c => isUppercase c = c.isUpper) (by decide +kernel) h

/-- ASCII characters are lower-cased whatever stands before them. -/
theorem lowerAfter_of_ascii {cs : List Char} (h : ∀ c ∈ cs, c.toNat < 0x80) (before : List Char) :
    lowerAfter before cs = cs.map Char.toLower := by
  induction cs generalizing before with
  | nil => rfl
  | cons c cs ih =>
    obtain ⟨hc, hcs⟩ := List.forall_mem_cons.1 h
    have hsigma : c ≠ 'Σ' := by
      rintro rfl
      exact absurd hc (by decide)
    rw [lowerAfter, lowerBetween, if_neg hsigma, lowerChar_of_ascii hc, ih hcs, List.map_cons]
    rfl

/-- An ASCII text is lower-cased by folding it. -/
theorem toLowercase_of_ascii {s : String} (h : IsAscii s) : toLowercase s = asciiFold s := by
  rw [toLowercase, asciiFold, lowerAfter_of_ascii h]

/-- An ASCII text is kept as a name by folding it. -/
theorem foldName_of_ascii {s : String} (h : IsAscii s) : foldName s = asciiFold s := by
  rw [foldName]
  split
  · exact toLowercase_of_ascii h
  · rename_i hupper
    -- a text without capitals is as it is folded
    have hkept {c : Char} (hc : c.toNat < 0x80) : c.isUpper = false → c.toLower = c :=
      forall_ascii (p := fun c => c.isUpper = false → c.toLower = c) (by decide +kernel) hc
    have hlower : ∀ c ∈ s.toList, c.toLower = c := fun c hc => by
      refine hkept (h c hc) ?_
      rw [← isUppercase_of_ascii (h c hc), Bool.eq_false_iff]
      exact fun hcupper => hupper (List.any_eq_true.2 ⟨c, hc, hcupper⟩)
    rw [asciiFold, List.map_congr_left hlower, List.map_id', String.ofList_toList]

/-! ## Camel case -/

/-- A name without its underscores. -/
def withoutUnderscores (name : String) : String :=
  String.ofList (name.toList.filter fun c => c ≠ '_')

/-- Leaving underscores out leaves ASCII characters. -/
theorem IsAscii.withoutUnderscores {name : String} (h : IsAscii name) :
    IsAscii (withoutUnderscores name) := by
  intro c hc
  rw [FieldSearch.withoutUnderscores, String.toList_ofList] at hc
  exact h c (List.mem_filter.1 hc).1

/-- The characters of a folded name without underscores. -/
theorem mem_asciiFold_withoutUnderscores {name : String} {c : Char} :
    c ∈ (asciiFold (withoutUnderscores name)).toList ↔
      ∃ d ∈ name.toList, d ≠ '_' ∧ d.toLower = c := by
  simp [asciiFold, withoutUnderscores, and_assoc]

/-- Up to case, all characters but the underscores are written. -/
theorem CamelCase.map_toLower_write (cs : List Char) (previous : Option Char) (begun : Bool) :
    (write previous begun cs).map Char.toLower =
      (cs.filter fun c => c ≠ '_').map Char.toLower := by
  -- whichever case a character is written in, it folds to the same
  fun_induction write previous begun cs with
  | case1 => rfl
  | case2 previous begun cs ih => simp [ih]
  | case3 previous begun c cs hunderscore _ ih =>
    rw [List.map_cons, ih, (toLower_toCase c).2, List.filter_cons_of_pos (by simpa), List.map_cons]
  | case4 previous begun c cs hunderscore _ ih =>
    rw [List.map_cons, ih, (toLower_toCase c).1, List.filter_cons_of_pos (by simpa), List.map_cons]

/-- Camel case leaves underscores out, and otherwise changes only the case of letters. -/
theorem asciiFold_camelCase (name : String) :
    asciiFold (camelCase name) = asciiFold (withoutUnderscores name) := by
  rw [asciiFold, asciiFold, camelCase, withoutUnderscores, String.toList_ofList,
    String.toList_ofList, CamelCase.map_toLower_write]

example : camelCase "HTMLPart_of2Speech" = "htmlPartOf2Speech" := by decide +kernel

end FieldSearch
