import FieldSearch.Proofs.Sql.Statements

namespace FieldSearch.Sql

/-!
# What the text of a statement mentions

Which words stand in the text of a statement, from the shapes of its clauses.

* `infix_number` says that characters that stand together in a shape do so in its text;
* `Apart x y` says of a shape that `x` never stands right before `y`; by `Apart.not_infix_number`
  its text then has no word with the two in it;
* `Avoids x y` says so of a shape and of what comes of putting such shapes in a row;
* `TaggedKeys.shape_eq` takes the shape of a tag membership apart, around its list of tags;
* `Avoids.template` is about conditions, `Literal.avoids_scoped` about those of queries without
  review statuses, and `Select.avoids_template` about whole statements;
* `Select.Mentions` is a word in the text of a statement.
-/

/-! ### Words in a text -/

/-- The second of two shapes in a row counts on where the first has stopped. -/
theorem number_shape_append (n : Nat) (s t : List (Option Char)) :
    number n (s ++ t) = number n s ++ number (n + s.count none) t := by
  induction s generalizing n with
  | nil => rfl
  | cons x s ih =>
    cases x with
    | some c =>
      rw [List.cons_append, number, number, ih, List.cons_append,
        List.count_cons_of_ne (by simp)]
    | none =>
      rw [List.cons_append, number, number, ih, List.count_cons_self, List.append_assoc]
      congr 3
      omega

/-- Characters that stand together in a shape stand together in its text. -/
theorem infix_number {cs : List Char} {s : List (Option Char)} (h : cs.map some <:+: s) (n : Nat) :
    cs <:+: number n s := by
  obtain ⟨before, after, rfl⟩ := h
  rw [List.append_assoc, number_shape_append, number_append]
  exact List.infix_append' _ _ _

/-- A character is neither the sign of a placeholder nor a digit of its number. -/
def OutsidePlaceholders (c : Char) : Prop := c ≠ '$' ∧ c.isDigit = false

instance (c : Char) : Decidable (OutsidePlaceholders c) :=
  inferInstanceAs (Decidable (c ≠ '$' ∧ c.isDigit = false))

/-- A character outside placeholders does not stand in one. -/
theorem OutsidePlaceholders.notMem {c : Char} (h : OutsidePlaceholders c) (n : Nat) :
    c ∉ '$' :: Nat.toDigits 10 n := by
  obtain ⟨hdollar, hdigit⟩ := h
  rw [List.mem_cons, not_or]
  refine ⟨hdollar, fun hc => ?_⟩
  rw [Nat.isDigit_of_mem_toDigits (by decide) (by decide) hc] at hdigit
  cases hdigit

/-! ### Characters that do not meet -/

variable {x y : Char}

/-- In a shape `x` does not stand right before `y`. -/
def Apart (x y : Char) (s : List (Option Char)) : Prop :=
  s.IsChain fun a b => a = some x → b ≠ some y

instance (s : List (Option Char)) : Decidable (Apart x y s) :=
  inferInstanceAs (Decidable (List.IsChain _ s))

/-- In a list without `b` nothing stands right before `b`. -/
theorem isChain_of_notMem {α : Type} {a b : α} {l : List α} (h : b ∉ l) :
    l.IsChain fun u v => u = a → v ≠ b := by
  refine List.Pairwise.isChain ?_
  rw [List.pairwise_iff_forall_sublist]
  rintro u v hsub - rfl
  exact h (hsub.subset (by simp))

namespace Apart

/-- In two shapes in a row `x` does not stand right before `y`, if it does not where they meet. -/
theorem append {s t : List (Option Char)} (hs : Apart x y s) (ht : Apart x y t)
    (hmeet : some x ∉ s.getLast? ∨ some y ∉ t.head?) : Apart x y (s ++ t) := by
  refine List.isChain_append.2 ⟨hs, ht, ?_⟩
  rintro a ha b hb rfl rfl
  exact hmeet.elim (· ha) (· hb)

section

variable (hx : OutsidePlaceholders x) (hy : OutsidePlaceholders y)

include hx hy

/-- The text of a shape has no `x` right before `y` where the shape has none. -/
theorem isChain_number {s : List (Option Char)} (h : Apart x y s) (n : Nat) :
    (number n s).IsChain fun a b => a = x → b ≠ y := by
  induction s generalizing n with
  | nil => exact .nil
  | cons z s ih =>
    cases z with
    | some c =>
      rw [number, List.isChain_cons]
      refine ⟨?_, ih h.tail n⟩
      -- the text goes on with the next character, or with the sign of a placeholder
      intro b hb hc
      subst hc
      cases s with
      | nil => cases hb
      | cons z s =>
        cases z with
        | some d =>
          obtain rfl : d = b := by simpa [number] using hb
          rintro rfl
          exact (List.isChain_cons_cons.1 h).1 rfl rfl
        | none =>
          obtain rfl : '$' = b := by simpa [number] using hb
          exact hy.1.symm
    | none =>
      rw [number, List.isChain_append]
      refine ⟨isChain_of_notMem (hy.notMem n), ih h.tail (n + 1), ?_⟩
      rintro a ha b - rfl
      exact absurd (List.mem_of_mem_getLast? ha) (hx.notMem n)

/-- The text of a shape has no word in which `x` stands right before `y`. -/
theorem not_infix_number {s : List (Option Char)} (h : Apart x y s) {word : List Char}
    (hword : [x, y] <:+: word) (n : Nat) : ¬ word <:+: number n s := by
  intro hinfix
  have hchain := h.isChain_number hx hy n
  have hpair := List.IsChain.infix hchain (hword.trans hinfix)
  exact List.isChain_pair.1 hpair rfl rfl

end

end Apart

/-- In a shape `x` does not stand right before `y`, and `y` does not come first, so that shapes in a
    row keep them apart. -/
structure Avoids (x y : Char) (s : List (Option Char)) : Prop where
  head_ne : some y ∉ s.head?
  apart : Apart x y s

instance (s : List (Option Char)) : Decidable (Avoids x y s) :=
  decidable_of_iff (some y ∉ s.head? ∧ Apart x y s)
    ⟨fun ⟨h₁, h₂⟩ => ⟨h₁, h₂⟩, fun ⟨h₁, h₂⟩ => ⟨h₁, h₂⟩⟩

namespace Avoids

/-- A shape without `y` avoids it. -/
theorem of_notMem {s : List (Option Char)} (h : some y ∉ s) : Avoids x y s :=
  ⟨fun hhead => h (List.mem_of_mem_head? hhead), isChain_of_notMem h⟩

/-- Two shapes in a row avoid what each of them does. -/
theorem append {s t : List (Option Char)} (hs : Avoids x y s) (ht : Avoids x y t) :
    Avoids x y (s ++ t) := by
  refine ⟨?_, hs.apart.append ht.apart (.inr ht.head_ne)⟩
  cases s with
  | nil => exact ht.head_ne
  | cons a s => exact hs.head_ne

/-- Any number of shapes in a row avoid what each of them does. -/
theorem flatMap {α : Type} {l : List α} {f : α → List (Option Char)}
    (h : ∀ a ∈ l, Avoids x y (f a)) : Avoids x y (l.flatMap f) := by
  induction l with
  | nil => exact of_notMem List.not_mem_nil
  | cons a l ih =>
    rw [List.flatMap_cons]
    exact (h a List.mem_cons_self).append (ih fun b hb => h b (List.mem_cons_of_mem a hb))

/-! ### Clauses -/

/-- A shape without small letters avoids them. -/
theorem of_noLower (hy : y.isLower = true) {s : List (Option Char)}
    (h : s.all (·.all fun d => !d.isLower) = true) : Avoids x y s := by
  refine of_notMem fun hmem => ?_
  have hlower : (!y.isLower) = true := List.all_eq_true.1 h _ hmem
  rw [hy] at hlower
  cases hlower

/-- A condition avoids what its atoms avoid. -/
theorem template {c : Condition} (hy : y.isLower = true)
    (h : ∀ a ∈ c.atoms, Avoids x y a.template.shape) : Avoids x y c.template.shape := by
  -- between the atoms stand only capitals, blanks and parentheses
  rw [Condition.shape_template]
  refine flatMap fun s hs => ?_
  cases s with
  | atom a =>
    refine h a ?_
    rw [← Condition.atoms_symbols]
    exact List.mem_filterMap.2 ⟨_, hs, rfl⟩
  | constant b => cases b <;> exact of_noLower hy (by decide)
  | connective c => cases c <;> exact of_noLower hy (by decide)
  | openParen => exact of_noLower hy (by decide)
  | closeParen => exact of_noLower hy (by decide)

end Avoids

/-- In a list there are places, commas and blanks. -/
theorem mem_shape_listed {vs : List Value} {z : Option Char} (h : z ∈ (Template.listed vs).shape) :
    z = none ∨ z = some ',' ∨ z = some ' ' := by
  induction vs with
  | nil => cases h
  | cons v vs ih =>
    cases vs with
    | nil => exact .inl (List.mem_singleton.1 h)
    | cons w vs =>
      rw [Template.listed_cons_cons, Template.shape_bind, Template.shape_text] at h
      rcases List.mem_cons.1 h with rfl | h
      · exact .inl rfl
      · rcases List.mem_append.1 h with h | h
        · exact .inr (by simpa using h)
        · exact ih h

/-- A list avoids small letters. -/
theorem avoids_listed (hy : y.isLower = true) (vs : List Value) :
    Avoids x y (Template.listed vs).shape := by
  refine .of_notMem fun hmem => ?_
  rcases mem_shape_listed hmem with h | h | h
  · cases h
  · obtain rfl := Option.some.inj h
    exact absurd hy (by decide)
  · obtain rfl := Option.some.inj h
    exact absurd hy (by decide)

namespace TaggedKeys

/-- What stands in a tag membership in front of the list of tags. -/
def opening (keys : String) : List (Option Char) :=
  Template.shape
    [.text (keys ++ " @> ("),
     .text "SELECT array_agg(t1.\"key\") FROM (SELECT t0.\"key\" ",
     .text "FROM entry_tag, unnest(entry_tag.\"entry\") AS t0(\"key\") ",
     .text "WHERE (entry_tag.\"userId\" IS NULL OR entry_tag.\"userId\" = ", .bind (.text ""),
     .text ") ", .text "AND entry_tag.\"tag\" IN ("]

/-- What stands behind the list of tags. -/
def closing : List (Option Char) :=
  Template.shape
    [.text ") ", .text "GROUP BY t0.\"key\" HAVING COUNT(DISTINCT entry_tag.\"tag\") = ",
     .bind (.bigInt 0), .text ") t1)"]

/-- A tag membership has its list of tags between its opening and its closing. -/
theorem shape_eq (keys : String) (q : TaggedKeys) : (q.template keys).shape =
    opening keys ++ (Template.listed (q.tags.map .text)).shape ++ closing := by
  rw [template, Template.shape_append, Template.shape_append]
  rfl

end TaggedKeys

section

variable {μ φ : Type} {criterion : μ → Atom} {field : μ → φ} {value : μ → String}
  {lead : φ → String}

variable (h : Literal criterion field value lead)
  (hlead : ∀ f, Avoids x y ((lead f).toList.map some)) {keys : String} {q : CompiledQuery μ}
  (htags : ∀ filter, q.tags? = some filter → Avoids x y (tagMembership filter keys).template.shape)
  (hreview : q.review? = none)

include h hlead htags hreview

/-- The condition of a query without review statuses avoids what the criteria of its matches and the
    tag membership avoid. -/
theorem Literal.avoids_ofQuery {a : Atom} (ha : a ∈ (ofQuery criterion keys q).atoms) :
    Avoids x y a.template.shape := by
  rw [atoms_ofQuery, List.mem_append, List.mem_append] at ha
  -- an atom is that of a match or of the tags, as there is no review filter
  rcases ha with (ha | ha) | ha
  · cases hterm : q.term? with
    | none =>
      rw [hterm] at ha
      exact absurd ha List.not_mem_nil
    | some t =>
      rw [hterm] at ha
      obtain ⟨m, -, rfl⟩ := List.mem_map.1 ha
      obtain ⟨t, ht, halike⟩ := h.exists_alike m
      rw [ht, Atom.template, halike.shape, Template.shape_text]
      exact (hlead (field m)).append (.of_notMem (by simp))
  · cases hfilter : q.tags? with
    | none =>
      rw [hfilter] at ha
      exact absurd ha List.not_mem_nil
    | some filter =>
      rw [hfilter] at ha
      obtain rfl : a = tagMembership filter keys := List.mem_singleton.1 ha
      exact htags filter hfilter
  · rw [hreview] at ha
    exact absurd ha List.not_mem_nil

/-- The condition that a row is the user's, is shown, and satisfies a query without review statuses
    avoids what its parts avoid. -/
theorem Literal.avoids_scoped {owner visible : Atom} (howner : Avoids x y owner.template.shape)
    (hvisible : Avoids x y visible.template.shape) {a : Atom}
    (ha : a ∈ (Condition.allOf [.atom owner, .atom visible, ofQuery criterion keys q]).atoms) :
    Avoids x y a.template.shape := by
  rw [atoms_scoped, List.mem_cons, List.mem_cons] at ha
  rcases ha with rfl | rfl | ha
  · exact howner
  · exact hvisible
  · exact h.avoids_ofQuery hlead htags hreview ha

end

/-! ### Statements -/

namespace Select

/-- A word stands in the text of a statement. -/
def Mentions (s : Select) (word : String) : Prop := word.toList <:+: s.text.toList

/-- Whether the clauses that do not come from a query avoid two characters in a row. -/
structure FixedAvoids (s : Select) (x y : Char) : Prop where
  heading : Avoids x y s.heading.shape
  fromTable : Avoids x y s.fromTable.shape
  ordered : Avoids x y s.ordered.shape

instance (s : Select) : Decidable (s.FixedAvoids x y) :=
  decidable_of_iff
    (Avoids x y s.heading.shape ∧ Avoids x y s.fromTable.shape ∧ Avoids x y s.ordered.shape)
    ⟨fun ⟨h₁, h₂, h₃⟩ => ⟨h₁, h₂, h₃⟩, fun ⟨h₁, h₂, h₃⟩ => ⟨h₁, h₂, h₃⟩⟩

/-- A statement avoids what its clauses avoid. -/
theorem avoids_template {s : Select} {c : Condition} (hy : y.isLower = true)
    (hs : s.FixedAvoids x y) (hjoined : Avoids x y s.joined.shape) (hfilter : s.filter? = some c)
    (hatoms : ∀ a ∈ c.atoms, Avoids x y a.template.shape) : Avoids x y s.template.shape := by
  -- each clause avoids the letters, and so do the clauses in a row
  have hfiltered : Avoids x y s.filtered.shape := by
    have hwhere : Avoids x y (" WHERE ".toList.map some) := .of_noLower hy (by decide)
    rw [filtered, hfilter, Template.shape_text]
    exact hwhere.append (.template hy hatoms)
  have hpaged : Avoids x y s.paged.shape := by
    unfold paged
    cases s.page? with
    | none => exact .of_noLower hy rfl
    | some page => exact .of_noLower hy rfl
  rw [template, rows, ending]
  simp only [Template.shape_append]
  exact (hs.heading.append ((hs.fromTable.append hjoined).append hfiltered)).append
    (hs.ordered.append hpaged)

/-- A statement does not mention what it avoids. -/
theorem not_mentions {s : Select} (hx : OutsidePlaceholders x) (hy : OutsidePlaceholders y)
    (h : Avoids x y s.template.shape) {word : String} (hword : [x, y] <:+: word.toList) :
    ¬ s.Mentions word := by
  rw [Mentions, text, Template.text, Template.toList_textFrom]
  exact h.apart.not_infix_number hx hy hword 1

end Select

end FieldSearch.Sql
