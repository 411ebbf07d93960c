import FormLogic.Number.Decimal
import FormLogic.Text.Blank

/-!
# FormLogic.Calendar

Days of the proleptic Gregorian calendar.

* `Date`: a day that exists, between the years `leastYear` and `greatestYear`;
* `DatePart`, `readParts?`: texts of days by their layout;
* `Date.write`: year, month and day, joined by hyphens.
-/

namespace FormLogic

def leastYear : Int := -262143

def greatestYear : Int := 262142

def isLeapYear (year : Int) : Bool :=
  year % 4 == 0 && (year % 100 != 0 || year % 400 == 0)

def daysInMonth (year : Int) (month : Nat) : Nat :=
  match month with
  | 2 => if isLeapYear year then 29 else 28
  | 4 | 6 | 9 | 11 => 30
  | _ => 31

/-- Whether there is such a day. -/
def isDay (year : Int) (month day : Nat) : Bool :=
  leastYear ≤ year && year ≤ greatestYear && 1 ≤ month && month ≤ 12 && 1 ≤ day &&
    day ≤ daysInMonth year month

structure Date where
  year : Int
  month : Nat
  day : Nat
  exists_day : isDay year month day = true
deriving DecidableEq

def Date.ofParts? (year : Int) (month day : Nat) : Option Date :=
  if h : isDay year month day = true then some ⟨year, month, day, h⟩ else none

/-- A part of a layout. -/
inductive DatePart where
  | year
  | month
  | day
  | mark (c : Char)
deriving DecidableEq, Repr

/-- The parts read so far. -/
structure DateParts where
  year : Int := 0
  month : Nat := 0
  day : Nat := 0
deriving DecidableEq, Repr

open Number Text

/-- One to `limit` digits. -/
def readCount? (limit : Nat) (text : List Char) : Option (Nat × List Char) :=
  match (text.take limit).takeWhile Char.isDigit with
  | [] => none
  | digits => some (natOfDigits digits, text.drop digits.length)

/-- Digits without limit. -/
def readLong? (text : List Char) : Option (Nat × List Char) :=
  readCount? text.length text

/-- A year has at most four digits unless a sign stands before them. -/
def readYear? : List Char → Option (Int × List Char)
  | '-' :: rest => (readLong? rest).map fun r => (-(r.1 : Int), r.2)
  | '+' :: rest => (readLong? rest).map fun r => ((r.1 : Int), r.2)
  | rest => (readCount? 4 rest).map fun r => ((r.1 : Int), r.2)

/-- Reads the parts of a layout; blanks may stand before numbers. -/
def readParts? : List DatePart → DateParts → List Char → Option DateParts
  | [], parts, [] => some parts
  | [], _, _ :: _ => none
  | .mark c :: layout, parts, text =>
    match text with
    | d :: rest => if d = c then readParts? layout parts rest else none
    | [] => none
  | .year :: layout, parts, text => do
    let (n, rest) ← readYear? (trimStartChars text)
    readParts? layout { parts with year := n } rest
  | .month :: layout, parts, text => do
    let (n, rest) ← readCount? 2 (trimStartChars text)
    readParts? layout { parts with month := n } rest
  | .day :: layout, parts, text => do
    let (n, rest) ← readCount? 2 (trimStartChars text)
    readParts? layout { parts with day := n } rest

/-- Year, month and day; day, month and year with slashes; the same with hyphens. -/
def dateLayouts : List (List DatePart) :=
  [[.year, .mark '-', .month, .mark '-', .day],
   [.day, .mark '/', .month, .mark '/', .year],
   [.day, .mark '-', .month, .mark '-', .year]]

/-- The day that a text names in a layout. -/
def Date.readAs? (layout : List DatePart) (text : List Char) : Option Date := do
  let parts ← readParts? layout {} text
  Date.ofParts? parts.year parts.month parts.day

/-- The day that a text names in the first layout that fits. -/
def Date.read? (text : List Char) : Option Date :=
  dateLayouts.findSome? fun layout => Date.readAs? layout text

/-- Digits with zeros before them up to a width. -/
def padDigits (width n : Nat) : List Char :=
  let digits := Nat.toDigits 10 n
  zeros (width - digits.length) ++ digits
where
  zeros (n : Nat) : List Char := List.replicate n '0'

/-- At least four digits, and a sign outside the years 0 to 9999. -/
def writeYear (year : Int) : List Char :=
  let digits := padDigits 4 year.natAbs
  if year < 0 then '-' :: digits else if 9999 < year then '+' :: digits else digits

def Date.write (d : Date) : List Char :=
  writeYear d.year ++ '-' :: padDigits 2 d.month ++ '-' :: padDigits 2 d.day

end FormLogic
