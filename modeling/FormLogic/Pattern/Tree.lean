import FormLogic.Pattern.CharSet

/-!
# FormLogic.Pattern.Tree

Patterns of text as trees.

* `Look`: conditions on a position;
* `Tree`: patterns;
* `Tree.weight`: how much room a pattern takes, roughly.
-/

namespace FormLogic
namespace Pattern

/-- Conditions on a position between characters. -/
inductive Look where
  | textStart
  | textEnd
  | lineStart
  | lineEnd
  /-- As `lineStart`, where a carriage return ends lines too. -/
  | returnStart
  /-- As `lineEnd`, where a carriage return ends lines too. -/
  | returnEnd
  | wordBoundary (word : CharSet)
  | notWordBoundary (word : CharSet)
  | wordStart (word : CharSet)
  | wordEnd (word : CharSet)
  | wordStartHalf (word : CharSet)
  | wordEndHalf (word : CharSet)
deriving DecidableEq

inductive Tree where
  | empty
  | one (set : CharSet)
  | look (condition : Look)
  | seq (a b : Tree)
  | alt (a b : Tree)
  | times (a : Tree) (least : Nat) (most : Option Nat)
deriving DecidableEq

def Tree.seqAll : List Tree → Tree
  | [] => .empty
  | [a] => a
  | a :: rest => .seq a (seqAll rest)

/-- One of several patterns, at least one. -/
def Tree.altAll (a : Tree) : List Tree → Tree
  | [] => a
  | b :: rest => .alt a (altAll b rest)

/-- How much room a set of characters takes. -/
def CharSet.weight (s : CharSet) : Nat :=
  if s.ranges = 1 then 32 else 64 + 20 * s.ranges

/-- How much room a pattern takes; repetitions take that of their copies. -/
def Tree.weight : Tree → Nat
  | .empty => 32
  | .one s => s.weight
  | .look _ => 32
  | .seq a b => a.weight + b.weight
  | .alt a b => a.weight + b.weight + 64
  | .times a least most => (a.weight + 32) * max 1 (max least (most.getD 0))

end Pattern
end FormLogic
