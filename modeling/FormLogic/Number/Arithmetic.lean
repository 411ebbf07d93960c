import FormLogic.Number.Binary

/-!
# FormLogic.Number.Arithmetic

Operations on floats beside the four basic ones.

* `remainder`: what a truncating division leaves, computed without rounding;
* `truncate`: the integral part;
* `least`, `greatest`: of two numbers, a NaN giving way to the other one.
-/

namespace FormLogic
namespace Number

/-- The remainder of finite quantities: both are multiples of the smaller power of two, and the
remainder of those multiples is exact.  It has the sign of the dividend. -/
def Binary.remainder (a b : Binary) : Float :=
  let e := min a.exponent b.exponent
  let m := a.significand * Nat.pow 2 (a.exponent - e).toNat
  let n := b.significand * Nat.pow 2 (b.exponent - e).toNat
  nearestFloat a.negative (m % n * Nat.pow 2 e.toNat) (Nat.pow 2 (-e).toNat)

/-- What is left of `x` after taking away `y` as often as possible, toward zero. -/
def remainder (x y : Float) : Float :=
  if x.isNaN || y.isNaN || x.isInf || y == 0.0 then notANumber
  else if y.isInf then x
  else (Binary.ofFloat x).remainder (Binary.ofFloat y)

/-- The integral part. -/
def truncate (x : Float) : Float :=
  if x < 0.0 then x.ceil else x.floor

def least (x y : Float) : Float :=
  if x.isNaN then y else if y.isNaN then x else if y < x then y else x

def greatest (x y : Float) : Float :=
  if x.isNaN then y else if y.isNaN then x else if x < y then y else x

end Number
end FormLogic
