import FieldSearch.Extra
import FieldSearch.Library
import FieldSearch.Proofs.Sql.Structure
import Mathlib.Logic.Relation

namespace FieldSearch

open Sql

/-!
# Compacted terms in SQL

Dropping a node that has exactly one child, anywhere in a term, cannot be seen in the SQL.  The
condition is another tree: the node would join one item, and it does not matter for the expression
whether that item is joined by *and* or by *or*, or stands for itself.

* `Term.CompactsOnce` replaces one subterm, at any depth, by its compacted form, and
  `Term.Compacts` does so any number of times;
* `Sql.expr_ofTerm_compact` is about the outermost node, `Sql.expr_ofTerm_compactsOnce` about a node
  at any depth, and `Sql.expr_ofTerm_compacts` about any number of them;
* `Term.PrintsLike` says that two terms have the same SQL, alone and as a part of any query.
-/

/-! ### Compacting at any depth -/

namespace Term

variable {μ : Type}

/-- One subterm is replaced by its compacted form. -/
inductive CompactsOnce : Term μ → Term μ → Prop where
  /-- It is the whole term. -/
  | here (t : Term μ) : CompactsOnce t t.compact
  /-- It is in a child of an *any of* node. -/
  | any (before after : List (Term μ)) {t t' : Term μ} (inner : CompactsOnce t t') :
      CompactsOnce (any (before ++ t :: after)) (any (before ++ t' :: after))
  /-- It is in a child of an *all of* node. -/
  | all (before after : List (Term μ)) {t t' : Term μ} (inner : CompactsOnce t t') :
      CompactsOnce (all (before ++ t :: after)) (all (before ++ t' :: after))

/-- Any number of subterms are replaced by their compacted forms, one after the other. -/
def Compacts : Term μ → Term μ → Prop := Relation.ReflTransGen CompactsOnce

end Term

/-! ### Expressions -/

namespace Sql

variable {μ : Type} (criterion : μ → Atom)

/-- An *any of* node stands for the chain of its children. -/
theorem expr_ofTerm_any (terms : List (Term μ)) :
    (ofTerm criterion (.any terms)).expr =
      .chain .or (terms.map fun t => (ofTerm criterion t).expr) := by
  rw [ofTerm_any, Condition.expr_join, List.map_map]
  rfl

/-- An *all of* node stands for the chain of its children. -/
theorem expr_ofTerm_all (terms : List (Term μ)) :
    (ofTerm criterion (.all terms)).expr =
      .chain .and (terms.map fun t => (ofTerm criterion t).expr) := by
  rw [ofTerm_all, Condition.expr_join, List.map_map]
  rfl

/-- A compacted term stands for the same expression as the term. -/
theorem expr_ofTerm_compact (t : Term μ) :
    (ofTerm criterion t.compact).expr = (ofTerm criterion t).expr := by
  unfold Term.compact
  split
  -- a chain of one expression is this expression, whatever the connective
  · rw [expr_ofTerm_any]
    rfl
  · rw [expr_ofTerm_all]
    rfl
  · rfl

/-- A term stands for the same expression after one of its subterms is compacted. -/
theorem expr_ofTerm_compactsOnce {t t' : Term μ} (h : t.CompactsOnce t') :
    (ofTerm criterion t').expr = (ofTerm criterion t).expr := by
  induction h with
  | here t => exact expr_ofTerm_compact criterion t
  | any before after _ ih =>
    rw [expr_ofTerm_any, expr_ofTerm_any]
    simp only [List.map_append, List.map_cons, ih]
  | all before after _ ih =>
    rw [expr_ofTerm_all, expr_ofTerm_all]
    simp only [List.map_append, List.map_cons, ih]

/-- A term stands for the same expression after any number of its subterms are compacted. -/
theorem expr_ofTerm_compacts {t t' : Term μ} (h : t.Compacts t') :
    (ofTerm criterion t').expr = (ofTerm criterion t).expr := by
  induction h with
  | refl => rfl
  | tail _ hstep ih => exact (expr_ofTerm_compactsOnce criterion hstep).trans ih

/-- What a query stands for depends on the expression of its term only. -/
theorem expr_ofQuery_congr {t t' : Term μ}
    (h : (ofTerm criterion t').expr = (ofTerm criterion t).expr) (keys : String)
    (tags? : Option TagFilter) (review? : Option ReviewFilter) :
    (ofQuery criterion keys { term? := some t', tags?, review? }).expr =
      (ofQuery criterion keys { term? := some t, tags?, review? }).expr := by
  rw [ofQuery, ofQuery, Condition.allOf, Condition.allOf, Condition.expr_join, Condition.expr_join]
  simp only [Option.map_some, Option.toList_some, List.map_append, List.map_cons, List.map_nil, h]

/-- Conditions that stand for one expression have one SQL. -/
theorem Condition.template_eq_of_expr_eq {c c' : Condition} (h : c.expr = c'.expr) :
    c.template = c'.template := by
  rw [template, template, symbols, symbols, h]

end Sql

/-! ### The SQL of a term -/

/-- Two terms have the same SQL, that is, the same text and the same values: alone, in the condition
    of a query with any tags and any review statuses, and in that of an owner's entries that satisfy
    such a query. -/
structure Term.PrintsLike {μ : Type} (criterion : μ → Atom)
    (condition : CompiledQuery μ → String → Condition) (t t' : Term μ) : Prop where
  term : (ofTerm criterion t').template = (ofTerm criterion t).template
  query : ∀ keys tags? review?,
    (ofQuery criterion keys { term? := some t', tags?, review? }).template =
      (ofQuery criterion keys { term? := some t, tags?, review? }).template
  owned : ∀ tags? review? user,
    (condition { term? := some t', tags?, review? } user).template =
      (condition { term? := some t, tags?, review? } user).template

/-- A compacted term has the same SQL, for a condition that asks for the owner, for something else
    and for the query. -/
theorem Term.Compacts.printsLike {μ : Type} (criterion : μ → Atom) (keys : String)
    (ownedBy : String → Atom) (visible : Atom) {t t' : Term μ} (h : t.Compacts t') :
    t.PrintsLike criterion (fun q user =>
      .allOf [.atom (ownedBy user), .atom visible, ofQuery criterion keys q]) t' := by
  have hterm := expr_ofTerm_compacts criterion h
  have hquery := expr_ofQuery_congr criterion hterm
  refine ⟨Condition.template_eq_of_expr_eq hterm, fun keys tags? review? => ?_,
    fun tags? review? user => ?_⟩
  · exact Condition.template_eq_of_expr_eq (hquery keys tags? review?)
  · apply Condition.template_eq_of_expr_eq
    rw [Condition.allOf, Condition.allOf, Condition.expr_join, Condition.expr_join]
    simp only [List.map_cons, List.map_nil, hquery]

/-- **Compacting cannot be seen in the SQL.**  If any subterms of a term are replaced by their
    compacted forms, at any depth and any number of times, the SQL stays the same, for the matches
    of both entities. -/
theorem printsLike_of_compacts :
    (∀ t t' : Term Extra, t.Compacts t' → t.PrintsLike Extra.criterion Extra.condition t') ∧
    (∀ t t' : Term Library, t.Compacts t' →
      t.PrintsLike Library.criterion Library.condition t') := by
  constructor
  · intro t t' h
    exact h.printsLike Extra.criterion Extra.keys Extra.ownedBy Extra.isVisible
  · intro t t' h
    exact h.printsLike Library.criterion Library.keys Library.ownedBy Library.isVisible

/-- An *any of* node of one match, and an *all of* node of nothing but an empty *any of* node, are
    dropped inside another node, and that is dropped, too. -/
theorem printsLike_of_compacts_nested :
    let t : Term Extra := .any [.all [.any [.leaf (.entry "水")], .all [.any []]]]
    let t' : Term Extra := .all [.leaf (.entry "水"), .any []]
    t.Compacts t' ∧ t.PrintsLike Extra.criterion Extra.condition t' ∧
      (ofTerm Extra.criterion t).template.text = "(extra.\"entry\" &@ $1) AND FALSE" := by
  intro t t'
  let water : Term Extra := .leaf (.entry "水")
  have hinner : t.CompactsOnce (.any [.all [water, .all [.any []]]]) :=
    .any [] [] (.all [] [.all [.any []]] (.here (.any [water])))
  have hempty : Term.CompactsOnce (.any [.all [water, .all [.any []]]])
      (.any [.all [water, .any []]]) :=
    .any [] [] (.all [water] [] (.here (.all [.any []])))
  have houter : Term.CompactsOnce (.any [.all [water, .any []]]) t' :=
    .here (.any [.all [water, .any []]])
  have h : t.Compacts t' := .tail (.tail (.single hinner) hempty) houter
  exact ⟨h, printsLike_of_compacts.1 t t' h, by decide +kernel⟩

end FieldSearch
