import FieldSearch.Proofs.Sql.Mentions
import FieldSearch.Proofs.Sql.Spelling

namespace FieldSearch

open Sql

/-!
# The vocabulary of conditions

What the atoms of a condition can ask of a row, and that their texts are not mistaken for each other.

* `Demand` is what an atom asks, `Demand.atom` the atom;
* `Lexicon.front` is what the atoms of a kind begin with; a lexicon is clear if none of these
  beginnings is the beginning of another one (`Lexicon.IsClear`);
* `Lexicon.isCode` says that the atoms of a clear lexicon can be told apart where they begin,
  `Extra.isCode` and `Library.isCode` that this is so for both entities;
* `Demand.exists_of_mem_atoms` says that the conditions of queries have no atoms but those of
  demands.
-/

/-- What an atom of a condition asks of a row. -/
inductive Demand (μ : Type) where
  /-- The row belongs to a user. -/
  | owner (user : String)
  /-- The row is shown. -/
  | visible
  /-- The row matches. -/
  | satisfies (m : μ)
  /-- The row has all tags of a filter. -/
  | tags (filter : TagFilter)
  /-- The row has a review status. -/
  | status (s : ReviewStatus)

/-- The atom of a demand on the rows of an entity. -/
def Demand.atom {μ : Type} (ownedBy : String → Atom) (isVisible : Atom) (criterion : μ → Atom)
    (keys : String) : Demand μ → Atom
  | owner user => ownedBy user
  | visible => isVisible
  | satisfies m => criterion m
  | tags filter => tagMembership filter keys
  | status s => reviewStatus s

/-- The kind of a demand: whatever it asks, but for the values that it binds. -/
inductive DemandKind (φ : Type) where
  | owner
  | visible
  | field (f : φ)
  | tags
  | status (s : ReviewStatus)
deriving DecidableEq

/-- The kind of a demand. -/
def Demand.kind {μ φ : Type} (field : μ → φ) : Demand μ → DemandKind φ
  | owner _ => .owner
  | visible => .visible
  | satisfies m => .field (field m)
  | tags _ => .tags
  | status s => .status s

/-! ### What atoms begin with -/

/-- The words that the atoms of an entity begin with. -/
structure Lexicon (φ : Type) where
  fields : List φ
  owner : String
  visible : Atom
  lead : φ → String
  keys : String

namespace Lexicon

variable {μ φ : Type}

/-- All kinds of demands. -/
def kinds (l : Lexicon φ) : List (DemandKind φ) :=
  [.owner, .visible, .tags] ++ l.fields.map .field ++ ReviewStatus.all.map .status

/-- What the atoms of a kind begin with.  But for the tag memberships, it is all that they print. -/
def front (l : Lexicon φ) : DemandKind φ → List (Option Char)
  | .owner => Template.shape [.text l.owner, .bind (.text "")]
  | .visible => l.visible.template.shape
  | .field f => Template.shape [.text (l.lead f), .bind (.text "")]
  | .tags => Template.shape [.text (l.keys ++ " @> (")]
  | .status s => (reviewStatus s).template.shape

/-- A lexicon is clear if the kinds of its atoms are told apart by what they begin with. -/
structure IsClear (l : Lexicon φ) : Prop where
  mem_fields : ∀ f, f ∈ l.fields
  isPlain_owner : IsPlain l.owner.toList
  isFixed_visible : ∀ p ∈ l.visible.template, p.IsFixed
  isPlain_keys : IsPlain (l.keys ++ " @> (").toList
  front_ne_nil : ∀ k ∈ l.kinds, l.front k ≠ []
  head_ne : ∀ k ∈ l.kinds, ∀ s ∈ Symbol.signs, (l.front k).head? ≠ s.template.shape.head?
  eq_of_prefix : ∀ k ∈ l.kinds, ∀ k' ∈ l.kinds, l.front k <+: l.front k' → k = k'

/-- A clear lexicon has all kinds of demands. -/
theorem IsClear.mem_kinds {l : Lexicon φ} (h : l.IsClear) (k : DemandKind φ) : k ∈ l.kinds := by
  cases k with
  | owner => simp [kinds]
  | visible => simp [kinds]
  | field f => simp [kinds, h.mem_fields f]
  | tags => simp [kinds]
  | status s => cases s <;> simp [kinds, ReviewStatus.all]

/-- The atom of a demand, in the words of a lexicon. -/
def atom (l : Lexicon φ) (criterion : μ → Atom) : Demand μ → Atom :=
  Demand.atom (fun user => .comparison [.text l.owner, .bind (.text user)]) l.visible criterion
    l.keys

end Lexicon

/-! ### Telling atoms apart -/

/-- Lists of values are as long as each other if one is the beginning of the other, with something
    other than a comma behind both. -/
theorem length_eq_of_listed_prefix {c : Char} (hc : c ≠ ',') {s t : List (Option Char)}
    {vs ws : List Value}
    (h : (Template.listed vs).shape ++ some c :: s <+: (Template.listed ws).shape ++ some c :: t) :
    vs.length = ws.length := by
  have hcomma : ", ".toList.map some = [some ',', some ' '] := by decide
  -- a list goes on with a comma, and ends where there is none behind a place
  induction vs generalizing ws with
  | nil =>
    obtain _ | ⟨w, _ | ⟨w', ws⟩⟩ := ws
    · rfl
    · exact absurd (List.cons_prefix_cons.1 h).1 (by simp)
    · exact absurd (List.cons_prefix_cons.1 h).1 (by simp)
  | cons v vs ih =>
    cases vs with
    | nil =>
      obtain _ | ⟨w, _ | ⟨w', ws⟩⟩ := ws
      · exact absurd (List.cons_prefix_cons.1 h).1 (by simp)
      · rfl
      · have htail := (List.cons_prefix_cons.1 h).2
        exact absurd (Option.some.inj (List.cons_prefix_cons.1 htail).1) hc
    | cons v' vs =>
      obtain _ | ⟨w, _ | ⟨w', ws⟩⟩ := ws
      · exact absurd (List.cons_prefix_cons.1 h).1 (by simp)
      · have htail := (List.cons_prefix_cons.1 h).2
        exact absurd (Option.some.inj (List.cons_prefix_cons.1 htail).1).symm hc
      · simp only [Template.listed_cons_cons, Template.shape_bind, Template.shape_text, hcomma,
          List.cons_append, List.nil_append, List.cons_prefix_cons, true_and] at h
        exact congrArg Nat.succ (ih h)

/-- Tag memberships of one key set are for equally many tags if one is the beginning of the other. -/
theorem TaggedKeys.length_eq_of_prefix {keys : String} {q q' : TaggedKeys}
    (h : (q.template keys).shape <+: (q'.template keys).shape) : q.tags.length = q'.tags.length := by
  obtain ⟨rest, hrest⟩ : ∃ rest, TaggedKeys.closing = some ')' :: rest := ⟨_, rfl⟩
  rw [TaggedKeys.shape_eq, TaggedKeys.shape_eq, List.append_assoc, List.append_assoc,
    List.prefix_append_right_inj, hrest] at h
  have hlength := length_eq_of_listed_prefix (by decide) h
  rwa [List.length_map, List.length_map] at hlength

/-- A filter is determined by the values of its subquery. -/
theorem TagFilter.eq_of_values {f g : TagFilter}
    (h : (TaggedKeys.ofFilter f).values = (TaggedKeys.ofFilter g).values) : f = g := by
  obtain ⟨user, ⟨tags, hascending⟩⟩ := f
  obtain ⟨user', ⟨tags', hascending'⟩⟩ := g
  obtain ⟨huser, htail⟩ := List.cons.inj h
  -- behind the tags stands one more value, their number
  have htags : tags.map Value.text = tags'.map Value.text := List.append_inj_left' htail rfl
  obtain rfl : user = user' := Value.text.inj huser
  obtain rfl : tags = tags' := (List.map_inj_right fun _ _ => Value.text.inj).1 htags
  rfl

namespace Lexicon

variable {μ φ : Type} {l : Lexicon φ} {criterion : μ → Atom} {field : μ → φ} {value : μ → String}

/-- An atom other than a tag membership prints just what the atoms of its kind begin with. -/
theorem shape_atom (h : Literal criterion field value l.lead) {d : Demand μ}
    (hd : d.kind field ≠ .tags) :
    (l.atom criterion d).template.shape = l.front (d.kind field) := by
  cases d with
  | owner user => rfl
  | visible => rfl
  | satisfies m =>
    obtain ⟨t, ht, halike⟩ := h.exists_alike m
    show (criterion m).template.shape = _
    rw [ht]
    exact halike.shape
  | tags filter => exact absurd rfl hd
  | status s => rfl

/-- A tag membership prints the template of its subquery. -/
theorem alike_tags (hl : l.IsClear) (filter : TagFilter) :
    (l.atom criterion (.tags filter)).template.Alike
      ((TaggedKeys.ofFilter filter).template l.keys) :=
  alike_tagMembership hl.isPlain_keys filter

section

variable (h : Literal criterion field value l.lead) (hl : l.IsClear)

include h hl

/-- An atom begins with what the atoms of its kind begin with. -/
theorem front_begins_shape (d : Demand μ) :
    l.front (d.kind field) <+: (l.atom criterion d).template.shape := by
  by_cases hd : d.kind field = .tags
  · obtain ⟨filter, rfl⟩ : ∃ filter, d = .tags filter := by
      cases d with
      | tags filter => exact ⟨filter, rfl⟩
      | _ => cases hd
    -- the membership begins with the key set and the operator
    rw [(alike_tags hl filter).shape, TaggedKeys.template, List.append_assoc, List.cons_append,
      Template.shape_text]
    exact (List.prefix_append_right_inj _).2 List.nil_prefix
  · exact shape_atom h hd ▸ List.prefix_rfl

/-- Atoms of which one is the beginning of the other are of one kind. -/
theorem kind_eq_of_prefix {d d' : Demand μ}
    (hbegins : (l.atom criterion d).template.shape <+: (l.atom criterion d').template.shape) :
    d.kind field = d'.kind field := by
  -- both fronts are beginnings of one text, so that one of them is one of the other
  have hd := (front_begins_shape h hl d).trans hbegins
  have hd' := front_begins_shape h hl d'
  rcases List.prefix_or_prefix_of_prefix hd hd' with hfront | hfront
  · exact hl.eq_of_prefix _ (hl.mem_kinds _) _ (hl.mem_kinds _) hfront
  · exact (hl.eq_of_prefix _ (hl.mem_kinds _) _ (hl.mem_kinds _) hfront).symm

/-- No atom is a proper beginning of another one. -/
theorem shape_eq_of_prefix {d d' : Demand μ}
    (hbegins : (l.atom criterion d).template.shape <+: (l.atom criterion d').template.shape) :
    (l.atom criterion d).template.shape = (l.atom criterion d').template.shape := by
  have hkind := kind_eq_of_prefix h hl hbegins
  by_cases hd : d.kind field = .tags
  · have hd' := hkind.symm.trans hd
    cases d with
    | tags filter =>
      cases d' with
      | tags filter' =>
        rw [(alike_tags hl filter).shape, (alike_tags hl filter').shape] at hbegins ⊢
        exact TaggedKeys.shape_template l.keys (TaggedKeys.length_eq_of_prefix hbegins)
      | _ => cases hd'
    | _ => cases hd
  · rw [shape_atom h hd, shape_atom h (hkind ▸ hd), hkind]

/-- An atom is determined by what it prints and binds. -/
theorem atom_eq_of_alike
    (hcriterion : ∀ m m', field m = field m' → value m = value m' → criterion m = criterion m')
    {d d' : Demand μ}
    (halike : (l.atom criterion d).template.Alike (l.atom criterion d').template) :
    l.atom criterion d = l.atom criterion d' := by
  -- the kind is read off the text, and then the rest of the demand off the values
  have hkind : d.kind field = d'.kind field :=
    kind_eq_of_prefix h hl (halike.shape ▸ List.prefix_rfl)
  have hvalues := halike.values
  cases d with
  | owner user =>
    cases d' with
    | owner user' =>
      obtain rfl : user = user' := Value.text.inj (List.cons.inj hvalues).1
      rfl
    | _ => cases hkind
  | visible =>
    cases d' with
    | visible => rfl
    | _ => cases hkind
  | satisfies m =>
    cases d' with
    | satisfies m' =>
      have hm : (l.atom criterion (.satisfies m)).template.values = [.text (value m)] :=
        h.values_eq m
      have hm' : (l.atom criterion (.satisfies m')).template.values = [.text (value m')] :=
        h.values_eq m'
      rw [hm, hm'] at hvalues
      exact hcriterion m m' (DemandKind.field.inj hkind)
        (Value.text.inj (List.cons.inj hvalues).1)
    | _ => cases hkind
  | tags filter =>
    cases d' with
    | tags filter' =>
      rw [(alike_tags hl filter).values, (alike_tags hl filter').values,
        TaggedKeys.values_template, TaggedKeys.values_template] at hvalues
      rw [TagFilter.eq_of_values hvalues]
    | _ => cases hkind
  | status s =>
    cases d' with
    | status s' => rw [DemandKind.status.inj hkind]
    | _ => cases hkind

/-- An atom is tidy. -/
theorem tidy_atom (d : Demand μ) : Tidy (l.atom criterion d).template.shape := by
  cases d with
  | owner user =>
    have howner := hl.isPlain_owner
    exact (Tidy.chars howner.dollar_notMem howner.endsNumber_head).append .place
  | visible => exact Template.tidy_of_isFixed hl.isFixed_visible
  | satisfies m => exact h.tidy m
  | tags filter =>
    rw [(alike_tags hl filter).shape]
    exact (TaggedKeys.legible_template hl.isPlain_keys _).tidy
  | status s => exact tidy_reviewStatus s

/-- The atoms of a clear lexicon can be told apart where they begin. -/
theorem isCode
    (hcriterion : ∀ m m', field m = field m' → value m = value m' → criterion m = criterion m') :
    IsCode fun a => ∃ d, l.atom criterion d = a := by
  constructor
  · rintro _ ⟨d, rfl⟩
    exact (tidy_atom h hl d).dollar_notMem
  · rintro _ ⟨d, rfl⟩ hnil
    have hfront := front_begins_shape h hl d
    rw [hnil, List.prefix_nil] at hfront
    exact hl.front_ne_nil _ (hl.mem_kinds _) hfront
  · rintro _ ⟨d, rfl⟩ s hs
    rw [head?_eq_of_begins (front_begins_shape h hl d) (hl.front_ne_nil _ (hl.mem_kinds _))]
    exact hl.head_ne _ (hl.mem_kinds _) s hs
  · rintro _ _ ⟨d, rfl⟩ ⟨d', rfl⟩ hbegins
    exact shape_eq_of_prefix h hl hbegins
  · rintro _ _ ⟨d, rfl⟩ ⟨d', rfl⟩ halike
    exact atom_eq_of_alike h hl hcriterion halike

end

end Lexicon

/-! ### The atoms of conditions -/

/-- The condition that a row is the user's, is shown, and satisfies a query has no atoms but those of
    demands. -/
theorem Demand.exists_of_mem_atoms {μ : Type} {ownedBy : String → Atom} {isVisible : Atom}
    {criterion : μ → Atom} {keys : String} {q : CompiledQuery μ} {user : String} {a : Atom}
    (ha : a ∈ (Condition.allOf
      [.atom (ownedBy user), .atom isVisible, ofQuery criterion keys q]).atoms) :
    ∃ d : Demand μ, d.atom ownedBy isVisible criterion keys = a := by
  rw [atoms_scoped, List.mem_cons, List.mem_cons, atoms_ofQuery, List.mem_append,
    List.mem_append] at ha
  -- the query has the atoms of its term, of its tags and of its statuses
  rcases ha with rfl | rfl | (ha | ha) | ha
  · exact ⟨.owner user, rfl⟩
  · exact ⟨.visible, rfl⟩
  · cases hterm : q.term? with
    | none => simp [hterm] at ha
    | some t =>
      rw [hterm] at ha
      obtain ⟨m, -, rfl⟩ := List.mem_map.1 ha
      exact ⟨.satisfies m, rfl⟩
  · cases htags : q.tags? with
    | none => simp [htags] at ha
    | some filter =>
      rw [htags] at ha
      obtain rfl := List.mem_singleton.1 ha
      exact ⟨.tags filter, rfl⟩
  · cases hreview : q.review? with
    | none => simp [hreview] at ha
    | some filter =>
      rw [hreview] at ha
      obtain ⟨s, -, rfl⟩ := List.mem_map.1 ha
      exact ⟨.status s, rfl⟩

/-! ### Both entities -/

namespace Extra

/-- The atom of a demand on extra entries. -/
def atom : Demand Extra → Atom := Demand.atom ownedBy isVisible criterion keys

/-- A condition on extra entries can have the atom. -/
def IsAtom (a : Atom) : Prop := ∃ d, atom d = a

/-- The words of conditions on extra entries. -/
def lexicon : Lexicon ExtraField where
  fields := table.map (·.field)
  owner := (column "userId").text ++ " = "
  visible := isVisible
  lead := lead
  keys := keys

/-- The words of conditions on extra entries are clear. -/
theorem isClear_lexicon : lexicon.IsClear where
  mem_fields f := by cases f <;> decide
  isPlain_owner := by decide +kernel
  isFixed_visible := by decide +kernel
  isPlain_keys := isPlain_keys keys (by simp)
  front_ne_nil := by decide +kernel
  head_ne := by decide +kernel
  eq_of_prefix := by decide +kernel

/-- The criterion depends on the field and the value of a match only. -/
theorem criterion_congr {m m' : Extra} (hfield : m.field = m'.field) (hvalue : m.value = m'.value) :
    criterion m = criterion m' := by
  cases m <;> cases m' <;> cases hfield <;> simp_all [criterion, value]

/-- The atoms of conditions on extra entries can be told apart where they begin. -/
theorem isCode : IsCode IsAtom :=
  Lexicon.isCode literal isClear_lexicon fun _ _ => criterion_congr

end Extra

namespace Library

/-- The atom of a demand on collections. -/
def atom : Demand Library → Atom := Demand.atom ownedBy isVisible criterion keys

/-- A condition on collections can have the atom. -/
def IsAtom (a : Atom) : Prop := ∃ d, atom d = a

/-- The words of conditions on collections. -/
def lexicon : Lexicon LibraryField where
  fields := table.map (·.field)
  owner := Column.text { name := "userId" } ++ " = "
  visible := isVisible
  lead := lead
  keys := keys

/-- The words of conditions on collections are clear. -/
theorem isClear_lexicon : lexicon.IsClear where
  mem_fields f := by cases f <;> decide
  isPlain_owner := by decide +kernel
  isFixed_visible := by decide +kernel
  isPlain_keys := isPlain_keys keys (by simp)
  front_ne_nil := by decide +kernel
  head_ne := by decide +kernel
  eq_of_prefix := by decide +kernel

/-- The criterion depends on the field and the value of a match only. -/
theorem criterion_congr {m m' : Library} (hfield : m.field = m'.field)
    (hvalue : m.value = m'.value) : criterion m = criterion m' := by
  cases m <;> cases m' <;> cases hfield <;> simp_all [criterion, value]

/-- The atoms of conditions on collections can be told apart where they begin. -/
theorem isCode : IsCode IsAtom :=
  Lexicon.isCode literal isClear_lexicon fun _ _ => criterion_congr

end Library

end FieldSearch
