import FormLogic.Number.Shortest

/-!
# FormLogic.Number.Layout

How the shortest digits of a float are written.

* `Layout`: the decisions of a format;
* `Layout.render`: the text of a float in a format;
* `plain`, `literal`, `interchange`, `document`: the formats of this library.
-/

namespace FormLogic
namespace Number

/-- The decisions of a number format. -/
structure Layout where
  tie : Tie
  /-- Powers of ten of the leading digit that are written without an exponent; `none` for all. -/
  positional : Option (Int × Int)
  /-- Integral numbers end in `.0`. -/
  pointZero : Bool
  /-- Exponents from zero on carry a plus sign. -/
  plusSign : Bool
  notANumber : String
  infinite : String
  negativeInfinite : String
deriving DecidableEq, Repr

/-- Never an exponent, and no point without a fraction. -/
def plain : Layout := ⟨.upper, none, false, false, "NaN", "inf", "-inf"⟩

/-- Number literals: a fraction always, and an exponent outside `10 ^ -4` to `10 ^ 16`. -/
def literal : Layout := ⟨.upper, some (-4, 16), true, false, "NaN", "inf", "-inf"⟩

/-- Numbers of data interchange: a fraction always, a signed exponent outside `10 ^ -5` to
`10 ^ 16`, and null for what has no digits. -/
def interchange : Layout := ⟨.even, some (-5, 16), true, true, "null", "null", "null"⟩

/-- Numbers of YAML documents: as in data interchange, but without the plus sign, and with names for
what has no digits. -/
def document : Layout := ⟨.even, some (-5, 16), true, false, ".nan", ".inf", "-.inf"⟩

def zeros (n : Nat) : List Char := List.replicate n '0'

/-- Digits with the point where the exponent puts it: behind, among or before the digits. -/
def placePoint (pointZero : Bool) (digits : List Char) (exponent : Int) : List Char :=
  let point := digits.length + exponent
  if 0 ≤ exponent then digits ++ zeros exponent.toNat ++ (if pointZero then ['.', '0'] else [])
  else if 0 < point then digits.take point.toNat ++ '.' :: digits.drop point.toNat
  else '0' :: '.' :: zeros (-point).toNat ++ digits

/-- One digit, the others behind a point, and the power of ten of the first digit. -/
def withExponent (plusSign : Bool) (digits : List Char) (exponent : Int) : List Char :=
  let power := digits.length + exponent - 1
  let mantissa :=
    match digits with
    | first :: second :: rest => first :: '.' :: second :: rest
    | short => short
  let sign := if power < 0 then ['-'] else if plusSign then ['+'] else []
  mantissa ++ 'e' :: sign ++ Nat.toDigits 10 power.natAbs

/-- The digits of a quantity without sign. -/
def Layout.renderDecimal (layout : Layout) (d : Decimal) : List Char :=
  let digits := Nat.toDigits 10 d.digits
  let power := digits.length + d.exponent - 1
  let positional :=
    match layout.positional with
    | none => true
    | some (low, high) => d.digits = 0 || (low ≤ power && power < high)
  if positional then placePoint layout.pointZero digits d.exponent
  else withExponent layout.plusSign digits d.exponent

/-- The text of a float. -/
def Layout.render (layout : Layout) (x : Float) : String :=
  if x.isNaN then layout.notANumber
  else if x.isInf then if isNegative x then layout.negativeInfinite else layout.infinite
  else
    (if isNegative x then "-" else "") ++
      String.ofList (layout.renderDecimal ((Binary.ofFloat x).shortest layout.tie))

end Number
end FormLogic
