import FormLogic.Json.Tree
import FormLogic.Number.Decimal
import FormLogic.Text.Ranges

/-!
# FormLogic.Json.Reader

Reading JSON text.

* `readText?`, `readNumber?`: texts and numbers;
* `readValue?`: a value, nested at most `depthLimit` levels;
* `Json.read?`: a whole text; members of objects are sorted by name.
-/

namespace FormLogic
namespace Json

open Number Text

def isGap (c : Char) : Bool := c == ' ' || c == '\n' || c == '\t' || c == '\r'

def skipGap (input : List Char) : List Char := input.dropWhile isGap

/-- Four hexadecimal digits. -/
def readHex4? : List Char → Option (Nat × List Char)
  | a :: b :: c :: d :: rest => do
    let a ← hexDigit? a
    let b ← hexDigit? b
    let c ← hexDigit? c
    let d ← hexDigit? d
    return (((a * 16 + b) * 16 + c) * 16 + d, rest)
  | _ => none

/-- The character behind `\u`.  A unit of the high half has to be followed by one of the low half,
and one of the low half cannot stand alone. -/
def readUnit? (input : List Char) : Option (Char × List Char) := do
  let (n, rest) ← readHex4? input
  if 0xDC00 ≤ n && n ≤ 0xDFFF then none
  else if 0xD800 ≤ n && n ≤ 0xDBFF then
    match rest with
    | '\\' :: 'u' :: rest => do
      let (m, rest) ← readHex4? rest
      if 0xDC00 ≤ m && m ≤ 0xDFFF then
        return (Char.ofNat (0x10000 + (n - 0xD800) * 1024 + (m - 0xDC00)), rest)
      else none
    | _ => none
  else return (Char.ofNat n, rest)

/-- The character behind a backslash. -/
def readEscape? : List Char → Option (Char × List Char)
  | '"' :: rest => some ('"', rest)
  | '\\' :: rest => some ('\\', rest)
  | '/' :: rest => some ('/', rest)
  | 'b' :: rest => some ('\x08', rest)
  | 'f' :: rest => some ('\x0c', rest)
  | 'n' :: rest => some ('\n', rest)
  | 'r' :: rest => some ('\r', rest)
  | 't' :: rest => some ('\t', rest)
  | 'u' :: rest => readUnit? rest
  | _ => none

/-- The characters up to the closing quote; the first argument bounds their number. -/
def readQuoted? : Nat → List Char → Option (List Char × List Char)
  | 0, _ => none
  | _ + 1, [] => none
  | n + 1, c :: rest =>
    if c = '"' then some ([], rest)
    else if c = '\\' then do
      let (e, rest) ← readEscape? rest
      let (cs, rest) ← readQuoted? n rest
      return (e :: cs, rest)
    else if c.toNat < 32 then none
    else do
      let (cs, rest) ← readQuoted? n rest
      return (c :: cs, rest)

/-- A text behind its opening quote. -/
def readText? (input : List Char) : Option (String × List Char) := do
  let (cs, rest) ← readQuoted? (input.length + 1) input
  return (String.ofList cs, rest)

/-- Appends digits to a significand as long as it fits 64 bits: the significand, the number of
digits that were used, and the digits that were not. -/
def accumulate (significand : Nat) : List Char → Nat × Nat × List Char
  | [] => (significand, 0, [])
  | d :: ds =>
    let next := 10 * significand + (d.toNat - '0'.toNat)
    if next < Nat.pow 2 64 then
      let (s, used, left) := accumulate next ds
      (s, used + 1, left)
    else (significand, 0, d :: ds)

def powerOfTen (n : Nat) : Float := Decimal.toFloat ⟨1, n⟩ false

/-- A float times a power of ten, in steps of at most `10 ^ 308`; infinity is refused.  A float
that two such steps down do not bring to zero is not needed: significands have 64 bits. -/
def scaleByTen? : Nat → Float → Int → Option Float
  | 0, x, _ => some x
  | n + 1, x, e =>
    if e.natAbs ≤ 308 then
      if 0 ≤ e then
        let y := x * powerOfTen e.natAbs
        if y.isInf then none else some y
      else some (x / powerOfTen e.natAbs)
    else if x == 0.0 then some x
    else if 0 ≤ e then none
    else scaleByTen? n (x / powerOfTen 308) (e + 308)

def signed (negative : Bool) (x : Float) : Float := if negative then -x else x

/-- A float from its significand and its power of ten. -/
def floatOf? (negative : Bool) (significand : Nat) (e : Int) : Option Json := do
  let x ← scaleByTen? 4 (nearestFloat false significand 1) e
  return .float (signed negative x)

/-- The exponent behind its mark: an optional sign and at least one digit. -/
def readPower? (input : List Char) : Option (Int × List Char) :=
  let (negative, input) :=
    match input with
    | '+' :: rest => (false, rest)
    | '-' :: rest => (true, rest)
    | rest => (false, rest)
  match spanDigits input with
  | ([], _) => none
  | (digits, rest) => some (if negative then -(natOfDigits digits) else natOfDigits digits, rest)

/-- An optional exponent behind a significand. -/
def readScaled? (negative : Bool) (significand : Nat) (e : Int) (input : List Char) :
    Option (Json × List Char) :=
  match input with
  | c :: rest =>
    if c = 'e' || c = 'E' then do
      let (p, rest) ← readPower? rest
      return (← floatOf? negative significand (e + p), rest)
    else do return (← floatOf? negative significand e, input)
  | [] => do return (← floatOf? negative significand e, [])

/-- An integer that no point or exponent follows; those that do not fit 64 bits are floats, and so
is a negative zero. -/
def integerOf (negative : Bool) (n : Nat) : Json :=
  if !negative then .int n
  else if n = 0 || Nat.pow 2 63 < n then .float (-(nearestFloat false n 1))
  else .int (-n)

/-- The part of a number behind its integral digits. -/
def readFraction? (negative : Bool) (significand : Nat) (unused : Nat) (input : List Char) :
    Option (Json × List Char) :=
  match input with
  | '.' :: rest =>
    match spanDigits rest with
    | ([], _) => none
    | (digits, rest) =>
      let (s, used, _) := accumulate significand digits
      readScaled? negative s (unused - used) rest
  | c :: _ =>
    if c = 'e' || c = 'E' || unused ≠ 0 then readScaled? negative significand unused input
    else some (integerOf negative significand, input)
  | [] =>
    if unused ≠ 0 then readScaled? negative significand unused []
    else some (integerOf negative significand, [])

/-- A number without its sign: no zero before other digits. -/
def readMagnitude? (negative : Bool) (input : List Char) : Option (Json × List Char) :=
  match spanDigits input with
  | ([], _) => none
  | ('0' :: _ :: _, _) => none
  | (digits, rest) =>
    let (s, _, left) := accumulate 0 digits
    readFraction? negative s left.length rest

def readNumber? : List Char → Option (Json × List Char)
  | '-' :: rest => readMagnitude? true rest
  | input => readMagnitude? false input

/-- A value that neither holds others nor starts with the first character of one that does. -/
def readScalar? : List Char → Option (Json × List Char)
  | 'n' :: 'u' :: 'l' :: 'l' :: rest => some (.null, rest)
  | 't' :: 'r' :: 'u' :: 'e' :: rest => some (.bool true, rest)
  | 'f' :: 'a' :: 'l' :: 's' :: 'e' :: rest => some (.bool false, rest)
  | '"' :: rest => do
    let (s, rest) ← readText? rest
    return (.text s, rest)
  | input => readNumber? input

/-- What reads one value. -/
abbrev ValueReader := List Char → Option (Json × List Char)

/-- Items up to the closing bracket, at least one of them. -/
def readItems? (item : ValueReader) : Nat → List Char → Option (List Json × List Char)
  | 0, _ => none
  | n + 1, input => do
    let (j, rest) ← item input
    match skipGap rest with
    | ',' :: rest => do
      let (js, rest) ← readItems? item n rest
      return (j :: js, rest)
    | ']' :: rest => return ([j], rest)
    | _ => none

/-- The name of a member, the colon and the value. -/
def readMember? (value : ValueReader) (input : List Char) :
    Option ((String × Json) × List Char) :=
  match skipGap input with
  | '"' :: rest => do
    let (name, rest) ← readText? rest
    match skipGap rest with
    | ':' :: rest => do
      let (j, rest) ← value rest
      return ((name, j), rest)
    | _ => none
  | _ => none

/-- Members up to the closing brace, at least one of them. -/
def readMembers? (value : ValueReader) : Nat → List Char →
    Option (List (String × Json) × List Char)
  | 0, _ => none
  | n + 1, input => do
    let (m, rest) ← readMember? value input
    match skipGap rest with
    | ',' :: rest => do
      let (ms, rest) ← readMembers? value n rest
      return (m :: ms, rest)
    | '\x7d' :: rest => return ([m], rest)
    | _ => none

/-- Values nest one level less than this. -/
def depthLimit : Nat := 128

/-- A value; the first argument is one more than the levels that may still be entered. -/
def readValue? : Nat → ValueReader
  | 0, _ => none
  | depth + 1, input =>
    match skipGap input with
    | '[' :: rest =>
      if depth = 0 then none
      else
        match skipGap rest with
        | ']' :: rest => some (.list [], rest)
        | _ => do
          let (js, rest) ← readItems? (readValue? depth) rest.length rest
          return (.list js, rest)
    | '\x7b' :: rest =>
      if depth = 0 then none
      else
        match skipGap rest with
        | '\x7d' :: rest => some (.object [], rest)
        | _ => do
          let (ms, rest) ← readMembers? (readValue? depth) rest.length rest
          return (.object (sortMembers ms), rest)
    | input => readScalar? input

/-- The tree of a text that holds one value and gaps. -/
def read? (input : String) : Option Json := do
  let (j, rest) ← readValue? depthLimit input.toList
  if skipGap rest = [] then some j else none

end Json
end FormLogic
