import FieldSearch.Declaration
import Mathlib.Data.List.Nodup

namespace FieldSearch

/-!
# Settings that are understood

A list of settings is checked against a vocabulary.  What is accepted can be read without looking at
the order of the settings.

* `Vocabulary.Refuses` lists what can be wrong with settings, and `Vocabulary.accepts_iff` says that
  they are accepted if nothing is;
* `Vocabulary.eq_of_accepts` says that a word that is given only once has one setting, and
  `Vocabulary.given_iff` that a flag is given exactly if it is among the settings without a text;
* `Setting.mem_texts_iff` says which texts a word has.
-/

/-- The texts of a word are those that it is given with. -/
theorem Setting.mem_texts_iff {settings : List Setting} {word text : String} :
    text ∈ texts settings word ↔ ⟨word, some text⟩ ∈ settings := by
  rw [texts, List.mem_filterMap]
  constructor
  · rintro ⟨⟨word', text'⟩, hfiltered, rfl⟩
    obtain ⟨hmem, hword⟩ := List.mem_filter.1 hfiltered
    obtain rfl : word' = word := by simpa using hword
    exact hmem
  · intro hmem
    exact ⟨⟨word, some text⟩, List.mem_filter.2 ⟨hmem, by simp⟩, rfl⟩

/-- A word that is not among the settings has no texts. -/
theorem Setting.texts_eq_nil {settings : List Setting} {word : String}
    (h : ∀ s ∈ settings, s.word ≠ word) : texts settings word = [] := by
  rw [List.eq_nil_iff_forall_not_mem]
  exact fun text htext => h _ (mem_texts_iff.1 htext) rfl

namespace Vocabulary

/-- Settings are refused for a word that is unknown, for a flag with a text, for another word
    without one, and for a word that is repeated and must not be. -/
inductive Refuses (v : Vocabulary) (settings : List Setting) : Prop
  | unknown {s : Setting} (mem : s ∈ settings) (flag : s.word ∉ v.flags)
      (single : s.word ∉ v.single) (repeated : s.word ∉ v.repeated)
  | flagWithText {s : Setting} (mem : s ∈ settings) (flag : s.word ∈ v.flags)
      (text : s.text? ≠ none)
  | withoutText {s : Setting} (mem : s ∈ settings) (word : s.word ∈ v.single ∨ s.word ∈ v.repeated)
      (text : s.text? = none)
  | twice {word : String} (once : word ∉ v.repeated)
      (count : 2 ≤ (settings.map (·.word)).count word)

/-- The words of a vocabulary either are flags or have a text. -/
def IsUnambiguous (v : Vocabulary) : Prop :=
  ∀ word ∈ v.flags, word ∉ v.single ∧ word ∉ v.repeated

instance (v : Vocabulary) : Decidable v.IsUnambiguous :=
  List.decidableBAll (fun word => word ∉ v.single ∧ word ∉ v.repeated) v.flags

variable {v : Vocabulary} {settings : List Setting}

/-- Settings are accepted if each is understood, and no word that must not be repeated is. -/
theorem accepts_eq_true_iff :
    v.accepts settings = true ↔
      (∀ s ∈ settings, v.understands s = true) ∧
        ∀ word, word ∉ v.repeated → (settings.map (·.word)).count word ≤ 1 := by
  rw [accepts, Bool.and_eq_true, List.all_eq_true, decide_eq_true_eq, onceOnly,
    List.nodup_iff_count_le_one]
  refine and_congr_right fun _ => forall_congr' fun word => ?_
  by_cases hrepeated : word ∈ v.repeated
  · -- a word that may be repeated is not counted at all
    have hcount : ((settings.map (·.word)).filter fun word => !v.repeated.contains word).count
        word = 0 := by
      rw [List.count_eq_zero, List.mem_filter]
      simp [hrepeated]
    exact ⟨fun _ honce => absurd hrepeated honce, fun _ => by rw [hcount]; omega⟩
  · rw [List.count_filter (by simpa using hrepeated), iff_comm]
    exact ⟨fun h => h hrepeated, fun h _ => h⟩

/-- A setting is understood if it is a flag without a text, or another word with one. -/
theorem understands_iff {s : Setting} :
    v.understands s = true ↔
      (s.text? = none ∧ s.word ∈ v.flags) ∨
        (s.text? ≠ none ∧ (s.word ∈ v.single ∨ s.word ∈ v.repeated)) := by
  obtain ⟨word, text⟩ := s
  cases text <;> simp [understands]

/-- Settings are accepted exactly if they are not refused. -/
theorem accepts_iff (hv : v.IsUnambiguous) : v.accepts settings = true ↔ ¬ v.Refuses settings := by
  rw [accepts_eq_true_iff]
  constructor
  · rintro ⟨hunderstood, hcount⟩ (⟨hmem, hflag, hsingle, hrepeated⟩ | ⟨hmem, hflag, htext⟩ |
      ⟨hmem, hword, htext⟩ | ⟨honce, htwice⟩)
    · -- a word that is understood is in the vocabulary
      rcases understands_iff.1 (hunderstood _ hmem) with ⟨-, h⟩ | ⟨-, h | h⟩
      · exact hflag h
      · exact hsingle h
      · exact hrepeated h
    · rcases understands_iff.1 (hunderstood _ hmem) with ⟨h, -⟩ | ⟨-, h | h⟩
      · exact htext h
      · exact (hv _ hflag).1 h
      · exact (hv _ hflag).2 h
    · rcases understands_iff.1 (hunderstood _ hmem) with ⟨-, h⟩ | ⟨h, -⟩
      · exact hword.elim (hv _ h).1 (hv _ h).2
      · exact h htext
    · exact absurd (hcount _ honce) (by omega)
  · intro hrefuses
    refine ⟨fun s hs => understands_iff.2 ?_, fun word honce => ?_⟩
    · -- what is not a flag without a text has to be a word with one
      by_cases hflag : s.word ∈ v.flags
      · exact .inl ⟨not_not.1 fun htext => hrefuses (.flagWithText hs hflag htext), hflag⟩
      · have hword : s.word ∈ v.single ∨ s.word ∈ v.repeated := by
          by_contra hneither
          rw [not_or] at hneither
          exact hrefuses (.unknown hs hflag hneither.1 hneither.2)
        exact .inr ⟨fun htext => hrefuses (.withoutText hs hword htext), hword⟩
    · by_contra htwice
      exact hrefuses (.twice honce (by omega))

/-- Settings are not accepted exactly if they are refused. -/
theorem accepts_eq_false_iff (hv : v.IsUnambiguous) :
    v.accepts settings = false ↔ v.Refuses settings := by
  rw [← Bool.not_eq_true, accepts_iff hv, not_not]

/-- A word that must not be repeated has one setting. -/
theorem eq_of_accepts (h : v.accepts settings = true) {s t : Setting} (hs : s ∈ settings)
    (ht : t ∈ settings) (hword : s.word = t.word) (honce : s.word ∉ v.repeated) : s = t := by
  rw [accepts, Bool.and_eq_true, decide_eq_true_eq, onceOnly, List.filter_map] at h
  refine List.inj_on_of_nodup_map h.2 ?_ ?_ hword
  · exact List.mem_filter.2 ⟨hs, by simpa using honce⟩
  · exact List.mem_filter.2 ⟨ht, by simpa [← hword] using honce⟩

/-- A flag is given exactly if it is among the settings, without a text. -/
theorem given_iff (hv : v.IsUnambiguous) (h : v.accepts settings = true) {word : String}
    (hflag : word ∈ v.flags) : Setting.given settings word = true ↔ { word } ∈ settings := by
  rw [Setting.given, List.any_eq_true]
  constructor
  · rintro ⟨⟨word', text⟩, hs, hword⟩
    obtain rfl : word' = word := by simpa using hword
    rcases understands_iff.1 ((accepts_eq_true_iff.1 h).1 _ hs) with ⟨htext, -⟩ | ⟨-, hother⟩
    · obtain rfl : text = none := htext
      exact hs
    · exact absurd hother (not_or.2 (hv _ hflag))
  · intro hs
    exact ⟨_, hs, by simp⟩

end Vocabulary

/-- The settings of a type are flags. -/
theorem isUnambiguous_typeVocabulary : typeVocabulary.IsUnambiguous := by decide

/-- The settings of a variant are flags or have a text. -/
theorem isUnambiguous_variantVocabulary : variantVocabulary.IsUnambiguous := by decide

end FieldSearch
