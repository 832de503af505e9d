import FieldSearch.Text.CharClass
import FieldSearch.Text.Lowercase

namespace FieldSearch

/-!
# Titlecase letters

A letter such as `ǅ` is neither upper case nor lower case, and lower-casing changes it.  So it makes
a difference that a field name without upper case characters is kept as it is.

* `Run.inTable_of_coveredBy` is a test, decided run by run, for one table to be part of another;
* `lowerChar_eq_self` says that lower-casing changes only upper case and titlecase letters, and
  `isTitlecase_of_mem_toLowercase` that no titlecase letter is left by it;
* `foldName_eq_toLowercase_iff` says which names are kept in lower case: those with an upper case
  character, and those without titlecase letters.
-/

/-! ### Tables that are part of others -/

namespace Run

/-- The code points of a run, in ascending order. -/
def points (r : Run) : List Nat := List.range' r.first ((r.last - r.first) / r.step + 1) r.step

/-- Whether each code point of `r` is held by a run of the table.  The runs that are apart from `r`
    are not asked. -/
def coveredBy (table : List Run) (r : Run) : Bool :=
  r.points.all fun n => (table.filter fun s => !r.apart s).any (·.holds n)

/-- A run holds no other code points than those listed. -/
theorem mem_points_of_holds {r : Run} {n : Nat} (h : r.holds n = true) : n ∈ r.points := by
  obtain ⟨hfirst, hlast, hstep⟩ := (holds_iff r n).1 h
  rw [points, List.mem_range']
  -- the code point is a whole number of steps behind the first
  refine ⟨(n - r.first) / r.step, ?_, ?_⟩
  · have hdiv : (n - r.first) / r.step ≤ (r.last - r.first) / r.step :=
      Nat.div_le_div_right (Nat.sub_le_sub_right hlast r.first)
    omega
  · have hsplit := Nat.div_add_mod (n - r.first) r.step
    omega

/-- A character of a table whose runs are covered by another table is in the other table. -/
theorem inTable_of_coveredBy {t u : List Run} (h : t.all (coveredBy u) = true) {c : Char}
    (hc : inTable t c = true) : inTable u c = true := by
  obtain ⟨r, hr, hrc⟩ := (inTable_iff t c).1 hc
  -- each code point of the run is held by some run of the other table
  have hpoints := List.all_eq_true.1 (List.all_eq_true.1 h r hr) c.toNat (mem_points_of_holds hrc)
  obtain ⟨s, hs, hsc⟩ := List.any_eq_true.1 hpoints
  exact (inTable_iff u c).2 ⟨s, (List.mem_filter.1 hs).1, hsc⟩

end Run

/-! ### Titlecase letters -/

/-- The code points with the general category Lt. -/
def titlecaseTable : List Run :=
   [⟨0x1C5, 0x1C5, 1⟩, ⟨0x1C8, 0x1C8, 1⟩, ⟨0x1CB, 0x1CB, 1⟩, ⟨0x1F2, 0x1F2, 1⟩,
    ⟨0x1F88, 0x1F8F, 1⟩, ⟨0x1F98, 0x1F9F, 1⟩, ⟨0x1FA8, 0x1FAF, 1⟩, ⟨0x1FBC, 0x1FBC, 1⟩,
    ⟨0x1FCC, 0x1FCC, 1⟩, ⟨0x1FFC, 0x1FFC, 1⟩]

/-- Whether a character is a titlecase letter. -/
def isTitlecase (c : Char) : Bool := Run.inTable titlecaseTable c

/-- The code points that have a lower case form of one other character. -/
def shiftedTable : List Run := shiftTable.map (·.run)

/-- The runs of the lower case forms of `shiftedTable`, with all that lies between two of them. -/
def loweredTable : List Run :=
  shiftTable.map fun s => ⟨s.target, s.target + (s.run.last - s.run.first), 1⟩

/-- A character with a lower case form of its own is upper case or a titlecase letter. -/
theorem shiftedTable_coveredBy :
    shiftedTable.all (Run.coveredBy (titlecaseTable ++ uppercaseTable)) = true := by
  decide +kernel

/-- Titlecase letters have lower case forms. -/
theorem titlecaseTable_coveredBy : titlecaseTable.all (Run.coveredBy shiftedTable) = true := by
  decide +kernel

/-- No titlecase letter is a lower case form. -/
theorem loweredTable_apart :
    (loweredTable.all fun r => titlecaseTable.all r.apart) = true := by
  decide +kernel

/-- An ASCII character is no titlecase letter. -/
theorem toNat_of_isTitlecase {c : Char} (h : isTitlecase c = true) : 0x80 ≤ c.toNat := by
  -- every run of the table begins behind ASCII
  have habove : (titlecaseTable.all fun r => Nat.ble 0x80 r.first) = true := by decide
  obtain ⟨r, hr, hrc⟩ := (Run.inTable_iff titlecaseTable c).1 h
  have hfirst := Nat.le_of_ble_eq_true (List.all_eq_true.1 habove r hr)
  have hrange := (Run.holds_iff r c.toNat).1 hrc
  omega

/-! ### Lower-casing one character -/

/-- A character is shifted by a run of the table that holds it, if there is one. -/
theorem find?_shiftTable_eq_none_iff {c : Char} :
    shiftTable.find? (·.run.holds c.toNat) = none ↔ Run.inTable shiftedTable c = false := by
  rw [List.find?_eq_none, Run.inTable, List.any_eq_false, shiftedTable, List.forall_mem_map]

/-- What is neither upper case nor a titlecase letter is its own lower case form. -/
theorem lowerChar_eq_self {c : Char} (hupper : isUppercase c = false)
    (htitle : isTitlecase c = false) : lowerChar c = [c] := by
  have hdot : c ≠ 'İ' := by
    rintro rfl
    exact absurd hupper (by decide +kernel)
  -- a character with a lower case form of its own would have one of the two classes
  have hshift : Run.inTable shiftedTable c = false := by
    rw [Bool.eq_false_iff]
    intro hshifted
    have hcase : Run.inTable (titlecaseTable ++ uppercaseTable) c = true :=
      Run.inTable_of_coveredBy shiftedTable_coveredBy hshifted
    rw [Run.inTable, List.any_append] at hcase
    have hneither : (isTitlecase c || isUppercase c) = false := by rw [htitle, hupper]; rfl
    exact absurd (hcase.symm.trans hneither) (by decide)
  rw [lowerChar, if_neg hdot, find?_shiftTable_eq_none_iff.2 hshift]

/-- What a run of the table shifts a character to is no titlecase letter. -/
theorem isTitlecase_shifted {s : Shift} (hs : s ∈ shiftTable) {n : Nat}
    (hn : s.run.holds n = true) :
    isTitlecase (Char.ofNat (s.target + (n - s.run.first))) = false := by
  by_cases hvalid : (s.target + (n - s.run.first)).isValidChar
  · -- it is among the forms of the run, and these are apart from the titlecase letters
    have hcode : (Char.ofNat (s.target + (n - s.run.first))).toNat =
        s.target + (n - s.run.first) := by
      rw [Char.ofNat, dif_pos hvalid]
      rfl
    have hrange := (Run.holds_iff s.run n).1 hn
    refine Run.inTable_eq_false_of_apart loweredTable_apart ?_
    refine (Run.inTable_iff _ _).2 ⟨_, List.mem_map.2 ⟨s, hs, rfl⟩, ?_⟩
    rw [Run.holds_iff, hcode]
    dsimp only
    omega
  · rw [Char.ofNat, dif_neg hvalid]
    decide

/-- A lower case form has no titlecase letter. -/
theorem isTitlecase_of_mem_lowerChar {c d : Char} (h : d ∈ lowerChar c) :
    isTitlecase d = false := by
  unfold lowerChar at h
  split at h
  · obtain rfl | rfl : d = 'i' ∨ d = '\u0307' := by simpa using h
    · decide
    · decide
  · split at h
    · -- the character is shifted by a run of the table
      rename_i s hfind
      obtain rfl := List.mem_singleton.1 h
      exact isTitlecase_shifted (List.mem_of_find?_eq_some hfind)
        (by simpa using List.find?_some hfind)
    · -- the character is its own form, which a titlecase letter is not
      rename_i hfind
      obtain rfl := List.mem_singleton.1 h
      rw [Bool.eq_false_iff]
      intro htitle
      have hshifted : Run.inTable shiftedTable d = true :=
        Run.inTable_of_coveredBy titlecaseTable_coveredBy htitle
      rw [find?_shiftTable_eq_none_iff.1 hfind] at hshifted
      exact absurd hshifted (by decide)

/-! ### Lower-casing a text -/

/-- Whatever stands before it, a text has no titlecase letter once it is lower-cased. -/
theorem isTitlecase_of_mem_lowerAfter {before cs : List Char} {d : Char}
    (h : d ∈ lowerAfter before cs) : isTitlecase d = false := by
  induction cs generalizing before with
  | nil => exact absurd h List.not_mem_nil
  | cons c cs ih =>
    rw [lowerAfter, List.mem_append] at h
    rcases h with h | h
    · -- a capital sigma has two forms, neither of which is a titlecase letter
      unfold lowerBetween at h
      split at h
      · obtain rfl := List.mem_singleton.1 h
        split
        · decide
        · decide
      · exact isTitlecase_of_mem_lowerChar h
    · exact ih h

/-- A lower-cased text has no titlecase letter. -/
theorem isTitlecase_of_mem_toLowercase {s : String} {d : Char} (h : d ∈ (toLowercase s).toList) :
    isTitlecase d = false := by
  rw [toLowercase, String.toList_ofList] at h
  exact isTitlecase_of_mem_lowerAfter h

/-- Characters that are neither upper case nor titlecase letters stay as they are. -/
theorem lowerAfter_eq_self {cs : List Char} (hupper : ∀ c ∈ cs, isUppercase c = false)
    (htitle : ∀ c ∈ cs, isTitlecase c = false) (before : List Char) :
    lowerAfter before cs = cs := by
  induction cs generalizing before with
  | nil => rfl
  | cons c cs ih =>
    obtain ⟨hcupper, hcsupper⟩ := List.forall_mem_cons.1 hupper
    obtain ⟨hctitle, hcstitle⟩ := List.forall_mem_cons.1 htitle
    -- a capital sigma is upper case, so that what stands around the character is not asked
    have hsigma : c ≠ 'Σ' := by
      rintro rfl
      exact absurd hcupper (by decide +kernel)
    rw [lowerAfter, lowerBetween, if_neg hsigma, lowerChar_eq_self hcupper hctitle,
      ih hcsupper hcstitle (c :: before)]
    rfl

/-- A text without upper case characters and titlecase letters is in lower case. -/
theorem toLowercase_eq_self {s : String} (hupper : ∀ c ∈ s.toList, isUppercase c = false)
    (htitle : ∀ c ∈ s.toList, isTitlecase c = false) : toLowercase s = s := by
  rw [toLowercase, lowerAfter_eq_self hupper htitle [], String.ofList_toList]

/-! ### Names -/

/-- A name that is kept in lower case: one with an upper case character, or without titlecase
    letters. -/
def IsLowercased (s : String) : Prop :=
  (∃ c ∈ s.toList, isUppercase c = true) ∨ ∀ c ∈ s.toList, isTitlecase c = false

/-- A name is kept as its lower case form exactly if it has an upper case character or no titlecase
    letters. -/
theorem foldName_eq_toLowercase_iff {s : String} : foldName s = toLowercase s ↔ IsLowercased s := by
  by_cases hany : s.toList.any isUppercase = true
  · rw [foldName, if_pos hany]
    exact iff_of_true rfl (.inl (List.any_eq_true.1 hany))
  · rw [foldName, if_neg hany]
    -- the name is kept as it is
    have hupper : ∀ c ∈ s.toList, isUppercase c = false := by
      intro c hc
      rw [Bool.eq_false_iff]
      exact fun hcupper => hany (List.any_eq_true.2 ⟨c, hc, hcupper⟩)
    constructor
    · intro hself
      right
      intro c hc
      rw [hself] at hc
      exact isTitlecase_of_mem_toLowercase hc
    · rintro (⟨c, hc, hcupper⟩ | htitle)
      · exact absurd ((hupper c hc).symm.trans hcupper) (by decide)
      · exact (toLowercase_eq_self hupper htitle).symm

end FieldSearch
