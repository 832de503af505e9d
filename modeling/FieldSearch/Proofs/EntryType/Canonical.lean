import FieldSearch.EntryType

namespace FieldSearch.EntryType

/-!
# Canonical entry types

Reading a type brings the names of the known types into one form each, and leaves every other text
alone.

* `EntryType.Names` says that a text names a known type, up to ASCII case;
* `EntryType.Names.ofText_eq` and `EntryType.ofText_eq_other` say what a text is read as;
* `EntryType.ofText_eq_ofText_iff` says which texts are read alike, `EntryType.text_ofText_eq_iff`
  what the canonical text is, and `EntryType.ofText_text_ofText` that reading this changes nothing.
-/

/-- The text `a` is one of the names of a known type, up to ASCII case; `name` is the canonical
    one. -/
inductive Names (a : String) : EntryType → String → Prop
  | character (fold : asciiFold a ∈ ["character", "hanzi", "kanji"]) :
      Names a .character "character"
  | vocabulary (fold : asciiFold a = "vocabulary") : Names a .vocabulary "vocabulary"
  | sentence (fold : asciiFold a = "sentence") : Names a .sentence "sentence"

variable {a b name : String} {kind : EntryType}

/-! ### Names of a known type -/

/-- The canonical name is the text of the type. -/
theorem Names.text_eq (h : Names a kind name) : kind.text = name := by
  cases h <;> rfl

/-- The canonical name names its type. -/
theorem Names.self (h : Names a kind name) : Names name kind name := by
  cases h with
  | character => exact .character (by decide)
  | vocabulary => exact .vocabulary (by decide)
  | sentence => exact .sentence (by decide)

/-- A text that is read verbatim is of no known type. -/
theorem Names.ne_other (h : Names a kind name) (text : String) : kind ≠ .other text := by
  cases h <;> exact nofun

/-- A single written character is named by the texts that fold to one of its names. -/
theorem any_characterNames_iff :
    characterNames.any (sameAsciiFold a) = true ↔
      asciiFold a ∈ ["character", "hanzi", "kanji"] := by
  -- the names are given in the case that they fold to
  have hfolded : ∀ name ∈ characterNames, asciiFold name = name := by decide
  rw [List.any_eq_true]
  constructor
  · rintro ⟨name, hname, hsame⟩
    rw [sameAsciiFold_iff, hfolded name hname] at hsame
    rw [hsame]
    exact hname
  · intro h
    exact ⟨asciiFold a, h, (sameAsciiFold_iff _ _).2 (hfolded _ h).symm⟩

/-- What a text is read as depends on what it folds to, unless it is read verbatim. -/
theorem ofText_eq_ite (a : String) :
    ofText a =
      if asciiFold a ∈ ["character", "hanzi", "kanji"] then .character
      else if asciiFold a = "vocabulary" then .vocabulary
      else if asciiFold a = "sentence" then .sentence
      else .other a := by
  have hvocabulary : asciiFold "vocabulary" = "vocabulary" := by decide
  have hsentence : asciiFold "sentence" = "sentence" := by decide
  unfold ofText
  simp only [any_characterNames_iff, sameAsciiFold_iff, hvocabulary, hsentence]

/-- A text that names a known type is read as this type. -/
theorem Names.ofText_eq (h : Names a kind name) : ofText a = kind := by
  rw [ofText_eq_ite]
  cases h with
  | character fold => rw [if_pos fold]
  | vocabulary fold => simp [fold]
  | sentence fold => simp [fold]

/-- A text that names no known type is read verbatim. -/
theorem ofText_eq_other (h : ∀ kind name, ¬ Names a kind name) : ofText a = .other a := by
  rw [ofText_eq_ite, if_neg fun fold => h _ _ (.character fold),
    if_neg fun fold => h _ _ (.vocabulary fold), if_neg fun fold => h _ _ (.sentence fold)]

/-- A text is read as the known type that it names, or verbatim. -/
theorem ofText_cases (a : String) :
    (∃ name, Names a (ofText a) name) ∨
      (∀ kind name, ¬ Names a kind name) ∧ ofText a = .other a := by
  by_cases h : ∃ kind name, Names a kind name
  · obtain ⟨kind, name, hnames⟩ := h
    rw [hnames.ofText_eq]
    exact .inl ⟨name, hnames⟩
  · have hnone : ∀ kind name, ¬ Names a kind name := fun kind name hnames => h ⟨kind, name, hnames⟩
    exact .inr ⟨hnone, ofText_eq_other hnone⟩

/-! ### Reading as a normal form -/

/-- Two texts are read alike exactly if they are equal or name the same known type. -/
theorem ofText_eq_ofText_iff :
    ofText a = ofText b ↔ a = b ∨ ∃ kind name, Names a kind name ∧ Names b kind name := by
  constructor
  · intro h
    rcases ofText_cases a with ⟨name, ha⟩ | ⟨-, ha⟩ <;>
      rcases ofText_cases b with ⟨name', hb⟩ | ⟨-, hb⟩
    · -- the canonical name is that of the type that both are read as
      rw [← h] at hb
      obtain rfl : name' = name := hb.text_eq.symm.trans ha.text_eq
      exact .inr ⟨_, _, ha, hb⟩
    · exact absurd (h.trans hb) (ha.ne_other b)
    · exact absurd (h.symm.trans ha) (hb.ne_other a)
    · rw [ha, hb] at h
      exact .inl (EntryType.other.inj h)
  · rintro (rfl | ⟨kind, name, ha, hb⟩)
    · rfl
    · exact ha.ofText_eq.trans hb.ofText_eq.symm

/-- The canonical text is the canonical name of the known type that is named, or else the text as it
    is. -/
theorem text_ofText_eq_iff {text : String} :
    (ofText a).text = text ↔
      (∃ kind, Names a kind text) ∨ (∀ kind name, ¬ Names a kind name) ∧ a = text := by
  constructor
  · rintro rfl
    rcases ofText_cases a with ⟨name, ha⟩ | ⟨hnone, ha⟩
    · rw [ha.text_eq]
      exact .inl ⟨_, ha⟩
    · rw [ha]
      exact .inr ⟨hnone, rfl⟩
  · rintro (⟨kind, hnames⟩ | ⟨hnone, rfl⟩)
    · rw [hnames.ofText_eq, hnames.text_eq]
    · rw [ofText_eq_other hnone]
      rfl

/-- Reading the canonical text of what has been read changes nothing. -/
theorem ofText_text_ofText (a : String) : ofText (ofText a).text = ofText a := by
  rcases ofText_cases a with ⟨name, ha⟩ | ⟨-, ha⟩
  · -- the canonical name is one of the names of its type
    rw [ha.text_eq]
    exact ha.self.ofText_eq
  · have htext : (ofText a).text = a := by
      rw [ha]
      rfl
    rw [htext]

/-- Types that have been read are equal if their canonical texts are. -/
theorem ofText_inj_of_text (h : (ofText a).text = (ofText b).text) : ofText a = ofText b := by
  rw [← ofText_text_ofText a, h, ofText_text_ofText]

/-- Only the case of ASCII letters is folded: the Kelvin sign is no `k`. -/
example :
    [ofText "KANJI", ofText "Character", ofText "\u212Aanji", ofText "hanzi "] =
      [.character, .character, .other "\u212Aanji", .other "hanzi "] := by
  decide

end FieldSearch.EntryType
