import FieldSearch.Token

namespace FieldSearch

/-!
# Tags

The tokens with the field `tag` ask for an entry's tags.  An entry has to carry all of them; tags
without an owner and those of the user count, tags of other users do not.

* `TagSet` is a set of tags, kept as its elements in ascending order, code point by code point,
  without repetition; `TagSet.insert` adds an element, `TagSet.ofList` collects a list;
* `TagSet.mem_ofList` says that the elements stay the same, and `TagSet.ext_mem` that a set is
  determined by its elements;
* `Token.isTag` recognizes the tokens that ask for a tag;
* `TagFilter.ofTokens?` collects their values; there is no filter if all of them are empty.
-/

/-- A set of tags, by its elements in ascending order. -/
structure TagSet where
  toList : List String
  ascending : toList.Pairwise (· < ·)
deriving DecidableEq

namespace TagSet

/-- Inserts `x` before the first element that is not below it, unless it is there already. -/
def insertAscending (x : String) : List String → List String
  | [] => [x]
  | y :: ys =>
    if x < y then x :: y :: ys
    else if x = y then y :: ys
    else y :: insertAscending x ys

/-- An insertion adds the new element and keeps the others. -/
theorem mem_insertAscending {x z : String} {ys : List String} :
    z ∈ insertAscending x ys ↔ z = x ∨ z ∈ ys := by
  induction ys with
  | nil => simp [insertAscending]
  | cons y ys ih =>
    simp only [insertAscending]
    split
    · simp
    · split
      · rename_i h
        subst h
        simp
      · simp only [List.mem_cons, ih]
        grind

/-- An insertion keeps a list ascending. -/
theorem pairwise_insertAscending (x : String) {ys : List String} (h : ys.Pairwise (· < ·)) :
    (insertAscending x ys).Pairwise (· < ·) := by
  induction ys with
  | nil => simp [insertAscending]
  | cons y ys ih =>
    obtain ⟨hy, hys⟩ := List.pairwise_cons.1 h
    simp only [insertAscending]
    split
    · -- what is below the first element is below all of them
      rename_i hxy
      refine List.pairwise_cons.2 ⟨fun z hz => ?_, h⟩
      rcases List.mem_cons.1 hz with rfl | hz
      · exact hxy
      · exact String.lt_trans hxy (hy z hz)
    · split
      · exact h
      · rename_i hxy hne
        refine List.pairwise_cons.2 ⟨fun z hz => ?_, ih hys⟩
        rcases mem_insertAscending.1 hz with rfl | hz
        · exact String.not_le.1 fun hle => hne (String.le_antisymm hle (String.not_lt.1 hxy))
        · exact hy z hz

/-- The set without elements. -/
def empty : TagSet := ⟨[], .nil⟩

/-- Adds an element to a set. -/
def insert (x : String) (s : TagSet) : TagSet :=
  ⟨insertAscending x s.toList, pairwise_insertAscending x s.ascending⟩

/-- The set of the elements of a list. -/
def ofList : List String → TagSet
  | [] => empty
  | x :: xs => insert x (ofList xs)

/-- Whether a set has no elements. -/
def isEmpty (s : TagSet) : Bool := s.toList.isEmpty

/-- The number of elements of a set. -/
def size (s : TagSet) : Nat := s.toList.length

instance : Membership String TagSet := ⟨fun s x => x ∈ s.toList⟩

/-- Membership in a set is membership in its list. -/
theorem mem_iff {s : TagSet} {x : String} : x ∈ s ↔ x ∈ s.toList := Iff.rfl

/-- The elements after an insertion are the new one and the old ones. -/
@[simp] theorem mem_insert {s : TagSet} {x z : String} : z ∈ insert x s ↔ z = x ∨ z ∈ s :=
  mem_insertAscending

/-- The elements of a set are those of the list that it was collected from. -/
@[simp] theorem mem_ofList {xs : List String} {z : String} : z ∈ ofList xs ↔ z ∈ xs := by
  induction xs with
  | nil => simp [ofList, mem_iff, empty]
  | cons x xs ih => simp [ofList, ih]

/-- Two ascending lists with the same elements are equal. -/
private theorem eq_of_ascending {xs ys : List String} (hx : xs.Pairwise (· < ·))
    (hy : ys.Pairwise (· < ·)) (h : ∀ z, z ∈ xs ↔ z ∈ ys) : xs = ys := by
  induction xs generalizing ys with
  | nil =>
    cases ys with
    | nil => rfl
    | cons y ys => exact absurd ((h y).2 (by simp)) (by simp)
  | cons x xs ih =>
    cases ys with
    | nil => exact absurd ((h x).1 (by simp)) (by simp)
    | cons y ys =>
      rw [List.pairwise_cons] at hx hy
      have hxy : x = y := by
        rcases List.mem_cons.1 ((h x).1 (by simp)) with hx' | hx'
        · exact hx'
        rcases List.mem_cons.1 ((h y).2 (by simp)) with hy' | hy'
        · exact hy'.symm
        exact absurd (String.lt_trans (hx.1 y hy') (hy.1 x hx')) (String.lt_irrefl x)
      subst hxy
      -- the common first element is in neither rest
      have hrest : ∀ z, z ∈ xs ↔ z ∈ ys := by
        intro z
        have hz := h z
        simp only [List.mem_cons] at hz
        constructor
        · intro hm
          rcases hz.1 (.inr hm) with rfl | hm'
          · exact absurd (hx.1 z hm) (String.lt_irrefl z)
          · exact hm'
        · intro hm
          rcases hz.2 (.inr hm) with rfl | hm'
          · exact absurd (hy.1 z hm) (String.lt_irrefl z)
          · exact hm'
      rw [ih hx.2 hy.2 hrest]

/-- Two sets with the same elements are equal. -/
theorem ext_mem {s t : TagSet} (h : ∀ z, z ∈ s ↔ z ∈ t) : s = t := by
  cases s
  cases t
  rw [TagSet.mk.injEq]
  exact eq_of_ascending ‹_› ‹_› h

end TagSet

/-! ### Tag filters -/

/-- The tags that an entry has to carry, as seen by a user. -/
structure TagFilter where
  user : String
  tags : TagSet
deriving DecidableEq

/-- Whether a token asks for a tag. -/
def Token.isTag (t : Token) : Bool := t.hasField "tag"

/-- The tag that a token asks for. -/
def Token.tag? (t : Token) : Option String :=
  if t.isTag && !t.value.isEmpty then some t.value else none

/-- The filter for all tags that the tokens ask for. -/
def TagFilter.ofTokens? (user : String) (tokens : List Token) : Option TagFilter :=
  let tags := TagSet.ofList (tokens.filterMap Token.tag?)
  if tags.isEmpty then none else some { user, tags }

end FieldSearch
