/-!
# FormLogic.Number.Binary

Finite double precision numbers as exact quantities.

* `Binary`: a sign, a natural significand and a power of two;
* `Binary.ofFloat`: the quantity that a finite float stands for;
* `nearestFloat`: the float nearest to a quotient of naturals, a half going to the even neighbour.
-/

namespace FormLogic
namespace Number

/-- The quantity `significand * 2 ^ exponent`, negated when `negative` holds. -/
structure Binary where
  negative : Bool
  significand : Nat
  exponent : Int
deriving DecidableEq, Repr

/-- The sign bit, the exponent field and the fraction field of the double format. -/
def fields (bits : UInt64) : Bool × Nat × Nat :=
  let b := bits.toNat
  (b / Nat.pow 2 63 == 1, b / Nat.pow 2 52 % Nat.pow 2 11, b % Nat.pow 2 52)

/-- The quantity of a finite float; the exponent field 0 holds the numbers without hidden bit. -/
def Binary.ofFloat (x : Float) : Binary :=
  match fields x.toBits with
  | (negative, 0, fraction) => ⟨negative, fraction, -1074⟩
  | (negative, biased, fraction) => ⟨negative, Nat.pow 2 52 + fraction, (biased : Int) - 1075⟩

/-- Below a power of two the neighbours are half as far apart as above it. -/
def Binary.narrowBelow (b : Binary) : Bool :=
  b.significand == Nat.pow 2 52 && b.exponent > -1074

/-- `num / den` rounded to a natural number, a half going to the even neighbour. -/
def roundHalfEven (num den : Nat) : Nat :=
  let q := num / den
  let twice := 2 * (num % den)
  if twice < den then q
  else if den < twice then q + 1
  else if q % 2 = 0 then q else q + 1

/-- Whether `num / den` is below `n * 2 ^ e`. -/
def quotientLt (num den n : Nat) (e : Int) : Bool :=
  num * Nat.pow 2 (-e).toNat < n * Nat.pow 2 e.toNat * den

/-- The exponent that gives the quotient a significand of 53 bits, or the least exponent. -/
def scaleOf (num den : Nat) : Int :=
  let e := (num.log2 : Int) - den.log2 - 52
  let e := if quotientLt num den (Nat.pow 2 52) e then e - 1 else e
  max e (-1074)

/-- The bits of the non-negative float nearest to `num / den`.  A significand that rounds up to
the next power of two carries into the exponent field, the largest one into infinity. -/
def nearestBits (num den : Nat) : Nat :=
  if num = 0 then 0
  else
    let e := scaleOf num den
    let q := roundHalfEven (num * Nat.pow 2 (-e).toNat) (den * Nat.pow 2 e.toNat)
    if q < Nat.pow 2 52 then q
    else min ((e + 1075).toNat * Nat.pow 2 52 + (q - Nat.pow 2 52)) (2047 * Nat.pow 2 52)

/-- The float nearest to `num / den`, with a sign. -/
def nearestFloat (negative : Bool) (num den : Nat) : Float :=
  Float.ofBits (UInt64.ofNat ((if negative then Nat.pow 2 63 else 0) + nearestBits num den))

def infinity (negative : Bool) : Float :=
  Float.ofBits (UInt64.ofNat ((if negative then Nat.pow 2 63 else 0) + 2047 * Nat.pow 2 52))

def notANumber : Float :=
  Float.ofBits (UInt64.ofNat (2047 * Nat.pow 2 52 + Nat.pow 2 51))

/-- The sign of a float, that of zero included. -/
def isNegative (x : Float) : Bool :=
  (fields x.toBits).1

end Number
end FormLogic
