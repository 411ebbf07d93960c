import FormLogic.Number.Decimal

/-!
# FormLogic.Number.Shortest

The fewest decimal digits that read back to a float.

The reals that round to a float form an interval that reaches halfway to either neighbour; its ends
belong to it exactly when the significand is even.  `shortest` tries grids of 1, 2, … 17 digits and
takes the first one with a point in the interval: of two such points the nearer, of two equally near
ones the one that a `Tie` names.
-/

namespace FormLogic
namespace Number

/-- Which of two equally near points is taken. -/
inductive Tie where
  | upper
  /-- The one whose last digit is even. -/
  | even
deriving DecidableEq, Repr

/-- Compares `a * 10 ^ i` with `n * 2 ^ j`. -/
def compareScaled (a : Nat) (i : Int) (n : Nat) (j : Int) : Ordering :=
  compare (a * Nat.pow 10 i.toNat * Nat.pow 2 (-j).toNat)
    (n * Nat.pow 2 j.toNat * Nat.pow 10 (-i).toNat)

/-- Whether a decimal lies among the reals that round to `b`. -/
def Binary.readsBack (b : Binary) (d : Decimal) : Bool :=
  let low := if b.narrowBelow then 4 * b.significand - 1 else 4 * b.significand - 2
  let high := 4 * b.significand + 2
  let closed := b.significand % 2 == 0
  let fromLow := compareScaled d.digits d.exponent low (b.exponent - 2)
  let fromHigh := compareScaled d.digits d.exponent high (b.exponent - 2)
  (fromLow == .gt || (closed && fromLow == .eq)) && (fromHigh == .lt || (closed && fromHigh == .eq))

/-- `b / 10 ^ e`, rounded down. -/
def Binary.gridFloor (b : Binary) (e : Int) : Nat :=
  (b.significand * Nat.pow 2 b.exponent.toNat * Nat.pow 10 (-e).toNat) /
    (Nat.pow 2 (-b.exponent).toNat * Nat.pow 10 e.toNat)

/-- The point of the grid `10 ^ e` that stands for `b`, if one of the two beside `b` reads back. -/
def Binary.onGrid? (b : Binary) (tie : Tie) (e : Int) : Option Decimal :=
  let below : Decimal := ⟨b.gridFloor e, e⟩
  let above : Decimal := ⟨b.gridFloor e + 1, e⟩
  match b.readsBack below, b.readsBack above with
  | false, false => none
  | true, false => some below
  | false, true => some above
  | true, true =>
    match compareScaled (2 * below.digits + 1) e (2 * b.significand) b.exponent with
    | .gt => some below
    | .lt => some above
    | .eq => some (if tie = .even ∧ below.digits % 2 = 0 then below else above)

/-- The least `k` in a run of `fuel` from `start` on with `b < 10 ^ k`. -/
def Binary.scaleFrom (b : Binary) : Nat → Int → Int
  | 0, k => k
  | fuel + 1, k =>
    if compareScaled 1 k b.significand b.exponent == .gt then k else b.scaleFrom fuel (k + 1)

/-- The least `k` with `b < 10 ^ k`, for a quantity that is not zero. -/
def Binary.scale (b : Binary) : Int :=
  let binary : Int := b.significand.log2 + b.exponent
  b.scaleFrom 4 (binary * 30103 / 100000 - 1)

/-- Moves the zeros at the end of the digits into the exponent. -/
def Decimal.trim : Nat → Decimal → Decimal
  | 0, d => d
  | fuel + 1, d =>
    if d.digits ≠ 0 ∧ d.digits % 10 = 0 then Decimal.trim fuel ⟨d.digits / 10, d.exponent + 1⟩
    else d

/-- The decimal that equals `b`. -/
def Binary.exact (b : Binary) : Decimal :=
  if 0 ≤ b.exponent then ⟨b.significand * Nat.pow 2 b.exponent.toNat, 0⟩
  else ⟨b.significand * Nat.pow 5 (-b.exponent).toNat, b.exponent⟩

/-- The fewest digits that read back to `b`, without zeros at the end. -/
def Binary.shortest (b : Binary) (tie : Tie) : Decimal :=
  if b.significand = 0 then ⟨0, 0⟩
  else
    let k := b.scale
    let found := (List.range 17).findSome? fun n : Nat => b.onGrid? tie (k - n - 1)
    let d := found.getD b.exact
    d.trim 400

end Number
end FormLogic
