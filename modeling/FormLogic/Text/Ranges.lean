/-!
# FormLogic.Text.Ranges

Sets of characters given by ranges of code points.

* `hexRows`: reads rows of hexadecimal numbers, as tables are written;
* `Ranges`: closed ranges, least first;
* `Ranges.ofLines`: reads lines such as `41-5A 5F`;
* `Ranges.contains`: membership.
-/

namespace FormLogic
namespace Text

def hexDigit? (c : Char) : Option Nat :=
  if c.isDigit then some (c.toNat - '0'.toNat)
  else if 'a' ≤ c && c ≤ 'f' then some (c.toNat - 'a'.toNat + 10)
  else if 'A' ≤ c && c ≤ 'F' then some (c.toNat - 'A'.toNat + 10)
  else none

/-- The rows read so far, the numbers of the present row and the digits of the present number. -/
structure RowReader where
  rows : List (List Nat)
  row : List Nat
  number : Nat

def RowReader.close (r : RowReader) : RowReader :=
  ⟨(r.number :: r.row).reverse :: r.rows, [], 0⟩

def RowReader.step (r : RowReader) (c : Char) : RowReader :=
  match hexDigit? c with
  | some d => { r with number := 16 * r.number + d }
  | none => if c = ' ' then r.close else { r with row := r.number :: r.row, number := 0 }

/-- Reads rows that are separated by single spaces; their numbers are separated by other
characters. -/
def hexRows (line : String) : List (List Nat) :=
  (line.toList.foldl RowReader.step ⟨[], [], 0⟩).close.rows.reverse

/-- Closed ranges of code points. -/
structure Ranges where
  ranges : List (Nat × Nat)
deriving DecidableEq, Repr

/-- The range from the first to the last number of a row. -/
def rangeOfRow? (row : List Nat) : Option (Nat × Nat) := do
  return (← row.head?, ← row.getLast?)

/-- The ranges of all lines. -/
def Ranges.ofLines (lines : List String) : Ranges :=
  ⟨(lines.flatMap hexRows).filterMap rangeOfRow?⟩

def Ranges.contains (r : Ranges) (c : Char) : Bool :=
  r.ranges.any fun range => range.1 ≤ c.toNat && c.toNat ≤ range.2

end Text
end FormLogic
