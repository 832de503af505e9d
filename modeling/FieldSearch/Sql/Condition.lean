import FieldSearch.Sql.Template

namespace FieldSearch.Sql

/-!
# Conditions

The condition of a statement is a tree of *all of* and *any of* over atomic expressions.

* `Condition` is the tree; `Condition.allOf` and `Condition.anyOf` build it, and take the item out
  of a condition that has exactly one;
* `Expr` is the expression that a condition stands for, a chain of two-sided operators;
* `Expr.symbols` writes an expression with the parentheses that it needs, `Condition.template` is
  the SQL of a condition.
-/

/-- An atomic expression. -/
inductive Atom where
  /-- The comparison of a column, which is never put in parentheses. -/
  | comparison (t : Template)
  /-- Any other expression, which is put in parentheses as an operand. -/
  | custom (t : Template)
deriving DecidableEq

/-- The SQL of an atomic expression. -/
def Atom.template : Atom → Template
  | comparison t => t
  | custom t => t

/-- How the items of a condition are joined. -/
inductive Connective where
  | and
  | or
deriving DecidableEq

/-- A condition over atomic expressions. -/
inductive Condition where
  | atom (a : Atom)
  | group (c : Connective) (items : List Condition)

namespace Condition

/-- The only item of a group that has exactly one; else the condition itself. -/
def splice : Condition → Condition
  | group _ [item] => item
  | c => c

/-- The condition that joins `items`; of an item with exactly one item that one is taken. -/
def join (c : Connective) (items : List Condition) : Condition := group c (items.map splice)

/-- The condition that all of `items` hold. -/
def allOf (items : List Condition) : Condition := join .and items

/-- The condition that one of `items` holds. -/
def anyOf (items : List Condition) : Condition := join .or items

end Condition

/-! ### Expressions -/

/-- An expression with two-sided operators. -/
inductive Expr where
  | constant (b : Bool)
  | atom (a : Atom)
  | binary (c : Connective) (l r : Expr)
deriving DecidableEq

/-- The truth value that joins nothing: true for *and*, false for *or*. -/
def Connective.unit : Connective → Bool
  | and => true
  | or => false

/-- The items joined from left to right. -/
def Expr.chain (c : Connective) : List Expr → Expr
  | [] => .constant c.unit
  | e :: es => es.foldl (.binary c) e

namespace Condition

mutual

/-- The expression that a condition stands for. -/
def expr : Condition → Expr
  | atom a => .atom a
  | group c items => .chain c (exprs items)

/-- The expressions that conditions stand for. -/
def exprs : List Condition → List Expr
  | [] => []
  | c :: cs => expr c :: exprs cs

end

/-- The expressions of conditions are those of each of them. -/
theorem exprs_eq_map (cs : List Condition) : exprs cs = cs.map expr := by
  induction cs with
  | nil => rfl
  | cons c cs ih => simp [exprs, ih]

end Condition

/-! ### Writing -/

/-- What the SQL of a condition is made of. -/
inductive Symbol where
  | atom (a : Atom)
  | constant (b : Bool)
  | connective (c : Connective)
  | openParen
  | closeParen
deriving DecidableEq

/-- The SQL of a symbol. -/
def Symbol.template : Symbol → Template
  | atom a => a.template
  | constant true => [.text "TRUE"]
  | constant false => [.text "FALSE"]
  | connective .and => [.text " AND "]
  | connective .or => [.text " OR "]
  | openParen => [.text "("]
  | closeParen => [.text ")"]

namespace Expr

/-- Whether the expression is simple: neither an operand of an operator nor a custom expression. -/
def isSimple : Expr → Bool
  | constant _ => true
  | atom (.comparison _) => true
  | _ => false

/-- Whether the expression can stand on the left of an operator as it is: it is simple, or a chain
    of the same operator. -/
def isLeftOperand (c : Connective) : Expr → Bool
  | binary c' _ _ => c' = c
  | e => e.isSimple

/-- The symbols, in parentheses unless they can stand `bare`. -/
def enclose (bare : Bool) (symbols : List Symbol) : List Symbol :=
  if bare then symbols else .openParen :: symbols ++ [.closeParen]

/-- The symbols of an expression. -/
def symbols : Expr → List Symbol
  | constant b => [.constant b]
  | atom a => [.atom a]
  | binary c l r =>
    enclose (l.isLeftOperand c) l.symbols ++ .connective c :: enclose r.isSimple r.symbols

end Expr

/-- The symbols of a condition. -/
def Condition.symbols (c : Condition) : List Symbol := c.expr.symbols

/-- The SQL of a condition. -/
def Condition.template (c : Condition) : Template := c.symbols.flatMap Symbol.template

end FieldSearch.Sql
