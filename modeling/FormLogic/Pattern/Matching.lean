import FormLogic.Pattern.Tree

/-!
# FormLogic.Pattern.Matching

Where patterns match.

* `advance`: the positions that a pattern leads to from given positions;
* `occursIn`: whether a pattern matches some part of a text.
-/

namespace FormLogic
namespace Pattern

/-- Whether the character before a position is in a set. -/
def isBefore (text : Array Char) (position : Nat) (s : Char → Bool) : Bool :=
  match position with
  | 0 => false
  | before + 1 => text[before]?.any s

/-- Whether the character behind a position is in a set. -/
def isBehind (text : Array Char) (position : Nat) (s : Char → Bool) : Bool :=
  text[position]?.any s

def Look.holds (text : Array Char) (position : Nat) : Look → Bool
  | .textStart => position == 0
  | .textEnd => position == text.size
  | .lineStart => position == 0 || isBefore text position (· == '\n')
  | .lineEnd => position == text.size || isBehind text position (· == '\n')
  | .returnStart =>
    position == 0 || isBefore text position (· == '\n') ||
      (isBefore text position (· == '\r') && !isBehind text position (· == '\n'))
  | .returnEnd =>
    position == text.size || isBehind text position (· == '\r') ||
      (isBehind text position (· == '\n') && !isBefore text position (· == '\r'))
  | .wordBoundary w => isBefore text position w.contains != isBehind text position w.contains
  | .notWordBoundary w => isBefore text position w.contains == isBehind text position w.contains
  | .wordStart w => !isBefore text position w.contains && isBehind text position w.contains
  | .wordEnd w => isBefore text position w.contains && !isBehind text position w.contains
  | .wordStartHalf w => !isBefore text position w.contains
  | .wordEndHalf w => !isBehind text position w.contains

/-- The positions behind those where a character of a set stands. -/
def advanceOne (text : Array Char) (s : CharSet) (positions : List Nat) : List Nat :=
  (positions.filter fun p => isBehind text p s.contains).map (· + 1)

/-- The positions found so far and those found from the latest of them in a number of rounds. -/
def saturate (step : List Nat → List Nat) : Nat → List Nat → List Nat → List Nat
  | 0, found, _ => found
  | n + 1, found, latest =>
    match (step latest).filter (· ∉ found) with
    | [] => found
    | fresh => saturate step n (found ++ fresh) fresh

/-- The positions that a pattern leads to. -/
def advance (text : Array Char) : Tree → List Nat → List Nat
  | .empty, positions => positions
  | .one s, positions => advanceOne text s positions
  | .look l, positions => positions.filter fun p => l.holds text p
  | .seq a b, positions => advance text b (advance text a positions)
  | .alt a b, positions =>
    let first := advance text a positions
    first ++ (advance text b positions).filter (· ∉ first)
  | .times a least most, positions =>
    let start := Nat.repeat (advance text a) least positions
    let rounds := (most.map (· - least)).getD (text.size + 1)
    saturate (advance text a) rounds start start

/-- Whether a pattern matches some part of a text. -/
def Tree.occursIn (t : Tree) (text : String) : Bool :=
  let chars := text.toList.toArray
  !(advance chars t (List.range (chars.size + 1))).isEmpty

end Pattern
end FormLogic
