import FormLogic.Json.Tree
import FormLogic.Number.Decimal
import FormLogic.Number.Layout

/-!
# FormLogic.Yaml.Writer

YAML documents of JSON trees.

* `Style`, `styleOf`: how a text is written so that it is read back as a text;
* `writeScalar`: texts in the four styles;
* `write`: a whole document, one member or item a line.
-/

namespace FormLogic
namespace Yaml

open Number

/-- How a text is written. -/
inductive Style where
  | plain
  | single
  | double
  /-- Line by line below an indicator. -/
  | literal
deriving DecidableEq, Repr

def isBreak (c : Char) : Bool :=
  c == '\n' || c == '\r' || c == '\u0085' || c == '\u2028' || c == '\u2029'

/-- Characters that may stand in a document as they are. -/
def isPrintable (c : Char) : Bool :=
  let n := c.toNat
  c == '\n' || (0x20 ≤ n && n ≤ 0x7E) || (0xA0 ≤ n && n ≤ 0xFFFD && n != 0xFEFF) || 0x10000 ≤ n

/-- Whether nothing, a blank or a break stands here. -/
def endsWord (rest : List Char) : Bool :=
  match rest with
  | [] => true
  | c :: _ => c == ' ' || c == '\t' || c == '\x00' || isBreak c

/-- Signs that mean something at the head of a text. -/
def isIndicator (c : Char) : Bool :=
  ['#', ',', '[', ']', '\x7b', '\x7d', '&', '*', '!', '|', '>', '\'', '"', '%', '@',
    '\x60'].contains c

/-- Whether a colon that ends a word or a comment stands behind the head. -/
def hasInnerIndicator : Char → List Char → Bool
  | _, [] => false
  | before, c :: rest =>
    (c == ':' && endsWord rest) || (c == '#' && endsWord [before]) || hasInnerIndicator c rest

/-- Whether a plain text would be taken for something else. -/
def hasIndicator (text : List Char) : Bool :=
  match text with
  | [] => false
  | c :: rest =>
    text.take 3 == ['-', '-', '-'] || text.take 3 == ['.', '.', '.'] || isIndicator c ||
      ((c == '?' || c == ':' || c == '-') && endsWord rest) || hasInnerIndicator c rest

/-- Whether some character with the first property is followed by one with the second. -/
def hasPair (p q : Char → Bool) : List Char → Bool
  | a :: b :: rest => (p a && q b) || hasPair p q (b :: rest)
  | _ => false

def isSpace (c : Char) : Bool := c == ' '

/-- Digits behind a mark of their base, below a bound. -/
def isBased (mark : Char) (base bound : Nat) (text : List Char) : Bool :=
  match text with
  | '0' :: m :: digits =>
    m == mark && !digits.isEmpty &&
      digits.all (fun c => ((digitValue? c).any (· < base))) &&
      (digits.foldl (fun n c => n * base + (digitValue? c).getD 0) 0) < bound
  | _ => false
where
  digitValue? (c : Char) : Option Nat :=
    if c.isDigit then some (c.toNat - '0'.toNat)
    else if 'a' ≤ c && c ≤ 'f' then some (c.toNat - 'a'.toNat + 10)
    else if 'A' ≤ c && c ≤ 'F' then some (c.toNat - 'A'.toNat + 10)
    else none

def isBasedInteger (bound : Nat) (text : List Char) : Bool :=
  isBased 'x' 16 bound text || isBased 'o' 8 bound text || isBased 'b' 2 bound text

/-- Whether a text has the form of a number. -/
def isNumeric (text : List Char) : Bool :=
  let signed := text.head? == some '+' || text.head? == some '-'
  let unsigned := if signed then text.tail else text
  if signed && (unsigned.head? == some '+' || unsigned.head? == some '-') then false
  else
    (if text.head? == some '-' then isBasedInteger (Nat.pow 2 127 + 1) unsigned
      else isBasedInteger (Nat.pow 2 128) unsigned) ||
    (readChars? text).any (·.isFinite) ||
    [".inf", ".Inf", ".INF"].any (·.toList == unsigned) ||
    [".nan", ".NaN", ".NAN"].any (·.toList == text)

/-- Whether a plain text would be read as a value of another kind. -/
def isTyped (text : List Char) : Bool :=
  text.isEmpty ||
    ["null", "Null", "NULL", "~", "true", "True", "TRUE", "false", "False", "FALSE"].any
      (·.toList == text) ||
    isNumeric text

/-- Whether a text keeps its form in single quotes. -/
def fitsSingle (text : List Char) : Bool :=
  text.all isPrintable && !hasPair isBreak isSpace text && !hasPair isSpace isBreak text

def fitsPlain (text : List Char) : Bool :=
  fitsSingle text && !text.any isBreak && !hasIndicator text &&
    text.head? != some ' ' && text.getLast? != some ' '

/-- Whether a text keeps its form line by line. -/
def fitsLiteral (text : List Char) : Bool :=
  text.all isPrintable && !hasPair isSpace isBreak text && text.getLast? != some ' '

/-- How a text is written. -/
def styleOf (text : List Char) : Style :=
  if text.contains '\n' then if fitsLiteral text then .literal else .double
  else if !isTyped text && fitsPlain text then .plain
  else if fitsSingle text then .single
  else .double

def pad (n : Nat) : List Char := List.replicate n ' '

/-- A number of hexadecimal digits. -/
def hexDigits (width n : Nat) : List Char :=
  let digits := (Nat.toDigits 16 n).map Char.toUpper
  List.replicate (width - digits.length) '0' ++ digits

def escapeDouble (c : Char) : List Char :=
  if c = '"' then ['\\', '"']
  else if c = '\\' then ['\\', '\\']
  else if isPrintable c && !isBreak c then [c]
  else
    match c.toNat with
    | 0x00 => ['\\', '0']
    | 0x07 => ['\\', 'a']
    | 0x08 => ['\\', 'b']
    | 0x09 => ['\\', 't']
    | 0x0A => ['\\', 'n']
    | 0x0B => ['\\', 'v']
    | 0x0C => ['\\', 'f']
    | 0x0D => ['\\', 'r']
    | 0x1B => ['\\', 'e']
    | 0x85 => ['\\', 'N']
    | 0x2028 => ['\\', 'L']
    | 0x2029 => ['\\', 'P']
    | n =>
      if n ≤ 0xFF then '\\' :: 'x' :: hexDigits 2 n
      else if n ≤ 0xFFFF then '\\' :: 'u' :: hexDigits 4 n
      else '\\' :: 'U' :: hexDigits 8 n

/-- Quotes are doubled, and what follows a break is indented. -/
def singleChars (indent : Nat) (afterBreak : Bool) : List Char → List Char
  | [] => []
  | c :: rest =>
    (if afterBreak && !isBreak c then pad indent else []) ++
      (if c = '\'' then ['\'', '\''] else [c]) ++ singleChars indent (isBreak c) rest

/-- Lines, those that are not empty indented. -/
def literalChars (indent : Nat) (afterBreak : Bool) : List Char → List Char
  | [] => []
  | c :: rest =>
    (if afterBreak && !isBreak c then pad indent else []) ++
      c :: literalChars indent (isBreak c) rest

/-- What the head of a text in lines says about its ends: a hint if it starts with a blank, and
whether breaks at the end are dropped or kept. -/
def literalHead (text : List Char) : List Char :=
  (if text.head?.any (fun c => isSpace c || isBreak c) then ['2'] else []) ++
    match text.reverse with
    | [] => ['-']
    | [c] => if isBreak c then ['+'] else ['-']
    | c :: d :: _ => if !isBreak c then ['-'] else if isBreak d then ['+'] else []

/-- A text; what it needs below its first line is indented. -/
def writeText (indent : Nat) (text : List Char) : List Char :=
  match styleOf text with
  | .plain => text
  | .single => '\'' :: singleChars indent false text ++ ['\'']
  | .double => '"' :: text.flatMap escapeDouble ++ ['"']
  | .literal => '|' :: literalHead text ++ '\n' :: literalChars indent true text

/-- A value that has no lines of its own. -/
def writeScalar (indent : Nat) : Json → List Char
  | .null => "null".toList
  | .bool true => "true".toList
  | .bool false => "false".toList
  | .int i => (toString i).toList
  | .float x => (document.render x).toList
  | .text s => writeText indent s.toList
  | .list _ => ['[', ']']
  | .object _ => ['\x7b', '\x7d']

/-- Ends a line, unless it has ended. -/
def endLine (line : List Char) : List Char :=
  if line.getLast? = some '\n' then line else line ++ ['\n']

/-- Names on one line of at most 128 bytes, which need no mark in front. -/
def isShortName (name : String) : Bool :=
  !name.toList.any isBreak && name.utf8ByteSize ≤ 128

/-- The name of a member and its colon. -/
def writeName (column : Nat) (name : String) : List Char :=
  if isShortName name then writeText (column + 2) name.toList ++ [':']
  else '?' :: ' ' :: endLine (writeText (column + 2) name.toList) ++ pad column ++ [':']

mutual

/-- What stands behind a dash; the column behind the dash is given. -/
def writeItem (column : Nat) : Json → List Char
  | .list (j :: js) => (writeItems column (j :: js)).drop column
  | .object (m :: ms) => (writeMembers column (m :: ms)).drop column
  | j => endLine (writeScalar column j)

/-- What stands behind the colon of a short name; the column of the name is given. -/
def writeMember (column : Nat) : Json → List Char
  | .list (j :: js) => '\n' :: writeItems column (j :: js)
  | .object (m :: ms) => '\n' :: writeMembers (column + 2) (m :: ms)
  | j => ' ' :: endLine (writeScalar (column + 2) j)

/-- The items of a list; the column of their dashes is given. -/
def writeItems (column : Nat) : List Json → List Char
  | [] => []
  | j :: js => pad column ++ '-' :: ' ' :: writeItem (column + 2) j ++ writeItems column js

/-- The members of an object.  What stands behind the colon of a long name stands there as behind a
dash. -/
def writeMembers (column : Nat) : List (String × Json) → List Char
  | [] => []
  | (name, j) :: ms =>
    pad column ++ writeName column name ++
      (if isShortName name then writeMember column j else ' ' :: writeItem (column + 2) j) ++
      writeMembers column ms

end

/-- The document of a tree. -/
def write (j : Json) : String := String.ofList (writeItem 0 j)

end Yaml
end FormLogic
