import FormLogic.Formula.Fault
import FormLogic.Text.Blank

/-!
# FormLogic.Formula.Value

What formulas evaluate to.

* `Value`: nothing, a truth value, a number or a text;
* `Value.toNumber`, `Value.truthy`, `Value.toText`: the three coercions;
* `Value.looseEq`, `Value.compare`: equality and order across kinds.
-/

namespace FormLogic
namespace Formula

open Number Text

inductive Value where
  | null
  | bool (b : Bool)
  | number (x : Float)
  | text (s : String)
deriving DecidableEq

/-- Names other than infinity are refused: apart from the exponent mark no letter is in a number. -/
def hasForeignLetter (text : List Char) : Bool :=
  text.any fun c => c.isAlpha && c != 'e' && c != 'E'

/-- The number that a text coerces to: blank counts as zero, and blanks at the ends do not
matter. -/
def numberOfText? (s : String) : Option Float :=
  let trimmed := trimChars s.toList
  if trimmed = [] then some (nearestFloat false 0 1)
  else if trimmed = "Infinity".toList || trimmed = "+Infinity".toList then some (infinity false)
  else if trimmed = "-Infinity".toList then some (infinity true)
  else if hasForeignLetter trimmed then none
  else readChars? trimmed

/-- The text of a number in values; zero has no sign. -/
def formatNumber (x : Float) : String :=
  if x.isNaN then "NaN"
  else if x.isInf then (if isNegative x then "-Infinity" else "Infinity")
  else if x == 0.0 then "0"
  else plain.render x

def Value.isNull : Value → Bool
  | .null => true
  | _ => false

def Value.truthy : Value → Bool
  | .null => false
  | .bool b => b
  | .number x => x != 0.0 && !x.isNaN
  | .text s => !s.isEmpty

def numberOfBool (b : Bool) : Float := if b then 1.0 else 0.0

def Value.toNumber : Value → Except Fault Float
  | .null => .ok 0.0
  | .bool b => .ok (numberOfBool b)
  | .number x => .ok x
  | .text s =>
    match numberOfText? s with
    | some x => .ok x
    | none => .error (.notANumber s)

def textOfBool (b : Bool) : String := if b then "true" else "false"

/-- The text that stands for a value. -/
def Value.toText : Value → String
  | .null => "null"
  | .bool b => textOfBool b
  | .number x => formatNumber x
  | .text s => s

def numberEqText (x : Float) (s : String) : Bool :=
  match numberOfText? s with
  | some y => y == x
  | none => false

/-- The text spells the truth value in any letter case. -/
def boolEqText (b : Bool) (s : String) : Bool :=
  s.toList.map Char.toLower == (textOfBool b).toList

/-- Equality: null equals null alone, and values of two kinds are brought to one. -/
def Value.looseEq : Value → Value → Bool
  | .null, .null => true
  | .null, _ => false
  | _, .null => false
  | .bool a, .bool b => a == b
  | .number a, .number b => a == b
  | .text a, .text b => a == b
  | .number x, .text s => numberEqText x s
  | .text s, .number x => numberEqText x s
  | .bool b, .text s => boolEqText b s
  | .text s, .bool b => boolEqText b s
  | .bool b, .number x => numberOfBool b == x
  | .number x, .bool b => numberOfBool b == x

/-- The order of two numbers; none with NaN. -/
def compareNumbers (a b : Float) : Option Ordering :=
  if a < b then some .lt
  else if a == b then some .eq
  else if b < a then some .gt
  else none

/-- Two texts are ordered by their characters, all else by number. -/
def Value.compare : Value → Value → Option Ordering
  | .text a, .text b => some (Ord.compare a b)
  | a, b =>
    match a.toNumber, b.toNumber with
    | .ok x, .ok y => compareNumbers x y
    | _, _ => none

end Formula
end FormLogic
