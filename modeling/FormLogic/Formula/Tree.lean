import FormLogic.Formula.Value

/-!
# FormLogic.Formula.Tree

Formulas as trees.

* `Expr`: the tree;
* `Expr.height`: the longest path from the root to a leaf;
* `Expr.hasChoice`, `Expr.hasArithmetic`: what kinds of node a tree holds.
-/

namespace FormLogic
namespace Formula

inductive UnaryOp where
  | neg
  | plus
  | not
deriving DecidableEq, Repr

inductive BinaryOp where
  | add
  | sub
  | mul
  | div
  | rem
  | pow
  | eq
  | ne
  | lt
  | le
  | gt
  | ge
deriving DecidableEq, Repr

def BinaryOp.isArithmetic : BinaryOp → Bool
  | .add | .sub | .mul | .div | .rem | .pow => true
  | .eq | .ne | .lt | .le | .gt | .ge => false

inductive LogicalOp where
  | and
  | or
deriving DecidableEq, Repr

inductive Expr where
  | literal (value : Value)
  | field (name : String)
  | unary (op : UnaryOp) (operand : Expr)
  | binary (op : BinaryOp) (lhs rhs : Expr)
  | logical (op : LogicalOp) (lhs rhs : Expr)
  | conditional (test yes no : Expr)
  | call (function : Function) (args : List Expr)

mutual

/-- The number of edges on the longest path from the root to a leaf. -/
def Expr.height : Expr → Nat
  | .literal _ => 0
  | .field _ => 0
  | .unary _ e => e.height + 1
  | .binary _ l r => max l.height r.height + 1
  | .logical _ l r => max l.height r.height + 1
  | .conditional t y n => max t.height (max y.height n.height) + 1
  | .call _ args => heights args

/-- One more than the greatest height in a list; zero for no trees. -/
def heights : List Expr → Nat
  | [] => 0
  | e :: es => max (e.height + 1) (heights es)

end

mutual

/-- Whether some node of the tree has the property. -/
def Expr.any (p : Expr → Bool) : Expr → Bool
  | .literal v => p (.literal v)
  | .field f => p (.field f)
  | .unary op e => p (.unary op e) || e.any p
  | .binary op l r => p (.binary op l r) || l.any p || r.any p
  | .logical op l r => p (.logical op l r) || l.any p || r.any p
  | .conditional t y n => p (.conditional t y n) || t.any p || y.any p || n.any p
  | .call f args => p (.call f args) || anyOf p args

def anyOf (p : Expr → Bool) : List Expr → Bool
  | [] => false
  | e :: es => e.any p || anyOf p es

end

/-- Whether a tree holds a conditional in either notation. -/
def Expr.hasChoice (e : Expr) : Bool :=
  e.any fun
    | .conditional .. => true
    | .call .choose _ => true
    | _ => false

/-- Whether a tree holds an arithmetic operator. -/
def Expr.hasArithmetic (e : Expr) : Bool :=
  e.any fun
    | .binary op _ _ => op.isArithmetic
    | .unary .neg _ => true
    | _ => false

end Formula
end FormLogic
