import FormLogic.Number.Binary

/-!
# FormLogic.Number.Decimal

Decimal text of numbers.

* `Decimal`: digits with a power of ten;
* `Decimal.toFloat`: the nearest float;
* `Decimal.read?`: digits with an optional point and an optional exponent;
* `read?`: a signed number, an infinity or a NaN.
-/

namespace FormLogic
namespace Number

/-- The quantity `digits * 10 ^ exponent`. -/
structure Decimal where
  digits : Nat
  exponent : Int
deriving DecidableEq, Repr

/-- The nearest float.  Quantities from `10 ^ 400` up are infinite and those below `10 ^ -400`
are zero in any case, so no larger power of ten is computed. -/
def Decimal.toFloat (d : Decimal) (negative : Bool) : Float :=
  if d.digits = 0 then nearestFloat negative 0 1
  else
    let magnitude := (d.digits.log2 * 30103 / 100000 : Nat) + d.exponent
    if magnitude > 400 then infinity negative
    else if magnitude < -400 then nearestFloat negative 0 1
    else
      let num := d.digits * Nat.pow 10 d.exponent.toNat
      nearestFloat negative num (Nat.pow 10 (-d.exponent).toNat)

/-- The number that a run of decimal digits denotes. -/
def natOfDigits (digits : List Char) : Nat :=
  Nat.ofDigitChars 10 digits 0

/-- The digits at the head of a text, and what follows them. -/
def spanDigits (text : List Char) : List Char × List Char :=
  (text.takeWhile Char.isDigit, text.dropWhile Char.isDigit)

/-- The exponent part: nothing, or an `e` with an optional sign and at least one digit. -/
def readExponent? : List Char → Option Int
  | [] => some 0
  | mark :: rest =>
    if mark = 'e' || mark = 'E' then
      let (negative, rest) :=
        match rest with
        | '-' :: r => (true, r)
        | '+' :: r => (false, r)
        | r => (false, r)
      match spanDigits rest with
      | ([], _) => none
      | (digits, []) => some (if negative then -(natOfDigits digits) else natOfDigits digits)
      | (_, _ :: _) => none
    else none

/-- Digits with an optional point among them, at least one digit in all, then an exponent. -/
def Decimal.read? (text : List Char) : Option Decimal :=
  let (whole, rest) := spanDigits text
  let (fraction, rest) :=
    match rest with
    | '.' :: r => spanDigits r
    | r => ([], r)
  if whole.isEmpty && fraction.isEmpty then none
  else
    match readExponent? rest with
    | some e => some ⟨natOfDigits (whole ++ fraction), e - fraction.length⟩
    | none => none

/-- A number without its sign: a name of infinity or NaN in any letter case, or a decimal. -/
def readMagnitude? (negative : Bool) (text : List Char) : Option Float :=
  match text.map Char.toLower with
  | ['i', 'n', 'f'] => some (infinity negative)
  | ['i', 'n', 'f', 'i', 'n', 'i', 't', 'y'] => some (infinity negative)
  | ['n', 'a', 'n'] => some notANumber
  | _ => (Decimal.read? text).map (·.toFloat negative)

/-- A number with an optional sign. -/
def readChars? : List Char → Option Float
  | '-' :: rest => readMagnitude? true rest
  | '+' :: rest => readMagnitude? false rest
  | text => readMagnitude? false text

/-- The float that a text denotes; the whole text has to be used. -/
def read? (text : String) : Option Float :=
  readChars? text.toList

end Number
end FormLogic
