import FieldSearch.Extra
import FieldSearch.Library
import FieldSearch.Proofs.Sql.References

namespace FieldSearch.Sql

/-!
# The templates of the criteria

What the fragments of the criteria come to, said without references.

* `alike_fullText` and `alike_equals` are the templates of the criteria that match a value;
* `TaggedKeys.template` is that of the tag membership, by `alike_tagMembership`: it has a place for
  the user, one for each tag, and one for the number of tags.
-/

/-! ### Matches of a value -/

/-- The fragment of a plain text that goes on with its only value. -/
theorem alike_reference {lead : String} (h : IsPlain lead.toList) (v : Value) :
    (Fragment.template ⟨lead ++ "$1", [v]⟩).Alike [.text lead, .bind v] := by
  have hlegible : Legible false [.text lead, .bind v] :=
    ⟨h, fun h => absurd h (by decide), rfl, trivial⟩
  have htext : Template.text [.text lead, .bind v] = lead ++ "$1" := by
    have hone : "$" ++ Nat.repr 1 = "$1" := by rfl
    rw [Template.text, Template.textFrom, Template.textFrom, hone, Template.textFrom,
      String.append_empty]
  rw [← htext]
  exact hlegible.alike_template

/-- The full-text match of a target has the place of its value behind the operator. -/
theorem alike_fullText {target : String} (h : IsPlain (target ++ " &@ ").toList) (value : String) :
    (fullText target value).template.Alike [.text (target ++ " &@ "), .bind (.text value)] := by
  have htext : target ++ " &@ $1" = target ++ " &@ " ++ "$1" := by
    rw [String.append_assoc]
    rfl
  rw [fullText, Atom.template, htext]
  exact alike_reference h (.text value)

/-- The equality of a target has the place of its value behind the operator. -/
theorem alike_equals {target : String} (h : IsPlain (target ++ " = ").toList) (value : String) :
    (equals target value).template.Alike [.text (target ++ " = "), .bind (.text value)] := by
  have htext : target ++ " = $1" = target ++ " = " ++ "$1" := by
    rw [String.append_assoc]
    rfl
  rw [equals, Atom.template, htext]
  exact alike_reference h (.text value)

/-! ### Lists of values -/

/-- The places of values, with commas between them. -/
def Template.listed (vs : List Value) : Template := separated ", " (vs.map fun v => [.bind v])

namespace Template

/-- One value is listed alone. -/
theorem listed_singleton (v : Value) : listed [v] = [.bind v] := rfl

/-- The first of several values is listed before a comma. -/
theorem listed_cons_cons (v w : Value) (vs : List Value) :
    listed (v :: w :: vs) = .bind v :: .text ", " :: listed (w :: vs) := rfl

/-- A list binds its values. -/
@[simp] theorem values_listed (vs : List Value) : (listed vs).values = vs := by
  induction vs with
  | nil => rfl
  | cons v vs ih =>
    cases vs with
    | nil => rfl
    | cons w vs => rw [listed_cons_cons, values_bind, values_text, ih]

/-- The text of a list refers to its values in turn. -/
theorem textFrom_listed (n : Nat) (vs : List Value) :
    (listed vs).textFrom n = referenceList n vs.length := by
  induction vs generalizing n with
  | nil => rfl
  | cons v vs ih =>
    cases vs with
    | nil =>
      rw [listed_singleton, textFrom, textFrom, String.append_empty]
      exact String.intercalate_singleton.symm
    | cons w vs =>
      -- the places behind the first are numbered from the next number on
      rw [listed_cons_cons, textFrom, textFrom, ih (n + 1), ← String.append_assoc]
      exact String.intercalate_cons_cons.symm

/-- The shape of a list depends on the number of its values only. -/
theorem shape_listed {vs ws : List Value} (h : vs.length = ws.length) :
    (listed vs).shape = (listed ws).shape := by
  induction vs generalizing ws with
  | nil =>
    rw [List.length_nil] at h
    rw [List.eq_nil_of_length_eq_zero h.symm]
  | cons v vs ih =>
    obtain _ | ⟨w, ws⟩ := ws
    · simp at h
    have htail := ih (Nat.succ.inj h)
    cases vs with
    | nil =>
      obtain rfl : ws = [] := List.eq_nil_of_length_eq_zero (Nat.succ.inj h).symm
      rfl
    | cons v' vs =>
      obtain _ | ⟨w', ws⟩ := ws
      · simp at h
      rw [listed_cons_cons, listed_cons_cons, shape_bind, shape_bind, shape_text, shape_text, htail]

end Template

/-- A list can be read back in front of whatever can be read back after a place as well as without
    one. -/
theorem Legible.listed_append {t : Template} (h : Legible false t) (hafter : Legible true t)
    (vs : List Value) : Legible false (Template.listed vs ++ t) := by
  -- a comma ends the reference in front of it, and does not begin a word
  have hcomma : IsPlain ", ".toList := by decide +kernel
  induction vs with
  | nil => exact h
  | cons v vs ih =>
    cases vs with
    | nil => exact ⟨rfl, hafter⟩
    | cons w vs => exact ⟨rfl, hcomma, fun _ => ⟨',', by decide +kernel, by decide +kernel⟩, ih⟩

/-! ### The tag membership -/

/-- The tag membership of a key set, by its places. -/
def TaggedKeys.template (keys : String) (q : TaggedKeys) : Template :=
  [.text (keys ++ " @> ("),
   .text "SELECT array_agg(t1.\"key\") FROM (SELECT t0.\"key\" ",
   .text "FROM entry_tag, unnest(entry_tag.\"entry\") AS t0(\"key\") ",
   .text "WHERE (entry_tag.\"userId\" IS NULL OR entry_tag.\"userId\" = ", .bind (.text q.user),
   .text ") ", .text "AND entry_tag.\"tag\" IN ("] ++
  Template.listed (q.tags.map .text) ++
  [.text ") ", .text "GROUP BY t0.\"key\" HAVING COUNT(DISTINCT entry_tag.\"tag\") = ",
   .bind (.bigInt q.count), .text ") t1)"]

namespace TaggedKeys

/-- The places of a tag membership have the values of its subquery. -/
theorem values_template (keys : String) (q : TaggedKeys) :
    (q.template keys).values = q.values := by
  rw [template, Template.values_append, Template.values_append, Template.values_listed]
  rfl

/-- The text of the places is that of the membership, with the subquery in parentheses. -/
theorem text_template (keys : String) (q : TaggedKeys) :
    (q.template keys).text = keys ++ " @> (" ++ q.text ++ ")" := by
  -- the text is cut where the places of the user and of the number stand
  have huser : "WHERE (entry_tag.\"userId\" IS NULL OR entry_tag.\"userId\" = $1) " =
      "WHERE (entry_tag.\"userId\" IS NULL OR entry_tag.\"userId\" = " ++ ("$1" ++ ") ") := by
    simp
  have hcount : "GROUP BY t0.\"key\" HAVING COUNT(DISTINCT entry_tag.\"tag\") = $" =
      "GROUP BY t0.\"key\" HAVING COUNT(DISTINCT entry_tag.\"tag\") = " ++ "$" := by
    simp
  have hend : ") t1)" = ") t1" ++ ")" := by simp
  have hone : "$" ++ Nat.repr 1 = "$1" := by rfl
  have hnumber : 1 + (1 + q.tags.length) = q.tags.length + 2 := by omega
  unfold text template
  simp only [huser, hcount, hend, Template.text, Template.textFrom_append,
    Template.textFrom_listed, Template.textFrom, hone, hnumber, Template.values_append,
    Template.values_text, Template.values_bind, Template.values_nil, Template.values_listed,
    List.length_append, List.length_cons, List.length_nil, List.length_map, Nat.zero_add,
    String.append_assoc, String.append_empty]

/-- The text of a tag membership can be read back, if that of its key set can. -/
theorem legible_template {keys : String} (h : IsPlain (keys ++ " @> (").toList) (q : TaggedKeys) :
    Legible false (q.template keys) := by
  have hselect : IsPlain "SELECT array_agg(t1.\"key\") FROM (SELECT t0.\"key\" ".toList := by
    rw [String.toList_ofList]
    decide +kernel
  have hfrom : IsPlain "FROM entry_tag, unnest(entry_tag.\"entry\") AS t0(\"key\") ".toList := by
    rw [String.toList_ofList]
    decide +kernel
  have hwhere : IsPlain
      "WHERE (entry_tag.\"userId\" IS NULL OR entry_tag.\"userId\" = ".toList := by
    rw [String.toList_ofList]
    decide +kernel
  have hin : IsPlain "AND entry_tag.\"tag\" IN (".toList := by
    rw [String.toList_ofList]
    decide +kernel
  have hgroup : IsPlain
      "GROUP BY t0.\"key\" HAVING COUNT(DISTINCT entry_tag.\"tag\") = ".toList := by
    rw [String.toList_ofList]
    decide +kernel
  have hclose : IsPlain ") ".toList ∧ ∃ c ∈ ") ".toList.head?, continuesWord c = false := by
    rw [String.toList_ofList]
    exact ⟨by decide +kernel, ')', rfl, by decide +kernel⟩
  have hend : IsPlain ") t1)".toList ∧ ∃ c ∈ ") t1)".toList.head?, continuesWord c = false := by
    rw [String.toList_ofList]
    exact ⟨by decide +kernel, ')', rfl, by decide +kernel⟩
  -- without tags the text goes on from the parenthesis, and else from the last place
  have htail (afterPlace : Bool) : Legible afterPlace
      [.text ") ", .text "GROUP BY t0.\"key\" HAVING COUNT(DISTINCT entry_tag.\"tag\") = ",
        .bind (.bigInt q.count), .text ") t1)"] :=
    ⟨hclose.1, fun _ => hclose.2, hgroup, nofun, rfl, hend.1, fun _ => hend.2, trivial⟩
  rw [template, List.append_assoc]
  exact ⟨h, nofun, hselect, nofun, hfrom, nofun, hwhere, nofun, rfl, hclose.1, fun _ => hclose.2,
    hin, nofun, (htail false).listed_append (htail true) _⟩

/-- The shape of a tag membership depends on the number of tags only. -/
theorem shape_template (keys : String) {q q' : TaggedKeys} (h : q.tags.length = q'.tags.length) :
    (q.template keys).shape = (q'.template keys).shape := by
  -- only the list has a shape that is not the same for all subqueries
  have hlisted : (Template.listed (q.tags.map .text)).shape =
      (Template.listed (q'.tags.map .text)).shape :=
    Template.shape_listed (by rw [List.length_map, List.length_map, h])
  rw [template, template, Template.shape_append, Template.shape_append, Template.shape_append,
    Template.shape_append, hlisted]
  rfl

end TaggedKeys

/-- The key sets of both entities are plain in front of the membership. -/
theorem isPlain_keys : ∀ keys ∈ [Extra.keys, Library.keys], IsPlain (keys ++ " @> (").toList := by
  decide +kernel

/-- The tag membership has the places and the values of its subquery. -/
theorem alike_tagMembership {keys : String} (h : IsPlain (keys ++ " @> (").toList)
    (filter : TagFilter) :
    (tagMembership filter keys).template.Alike ((TaggedKeys.ofFilter filter).template keys) := by
  rw [tagMembership, Atom.template, ← TaggedKeys.text_template, ← TaggedKeys.values_template keys]
  exact (TaggedKeys.legible_template h _).alike_template

end FieldSearch.Sql
