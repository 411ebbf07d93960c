import FormLogic.Json.Tree
import FormLogic.Number.Layout

/-!
# FormLogic.Json.Writer

The text of a JSON tree.

* `Json.write`: without blanks;
* `Json.writeIndented`: one member or item a line, indented by two spaces a level.
-/

namespace FormLogic
namespace Json

def hexChar (n : Nat) : Char := Nat.digitChar n

/-- Quotes, backslashes and control characters are escaped. -/
def escapeChar (c : Char) : List Char :=
  if c = '"' then ['\\', '"']
  else if c = '\\' then ['\\', '\\']
  else if c = '\n' then ['\\', 'n']
  else if c = '\r' then ['\\', 'r']
  else if c = '\t' then ['\\', 't']
  else if c = '\x08' then ['\\', 'b']
  else if c = '\x0c' then ['\\', 'f']
  else if c.toNat < 32 then ['\\', 'u', '0', '0', hexChar (c.toNat / 16), hexChar (c.toNat % 16)]
  else [c]

def writeText (s : String) : List Char :=
  '"' :: s.toList.flatMap escapeChar ++ ['"']

def writeBool (b : Bool) : List Char :=
  if b then ['t', 'r', 'u', 'e'] else ['f', 'a', 'l', 's', 'e']

def writeInt (i : Int) : List Char :=
  if i < 0 then '-' :: Nat.toDigits 10 i.natAbs else Nat.toDigits 10 i.natAbs

def writeFloat (x : Float) : List Char :=
  (Number.interchange.render x).toList

mutual

/-- The text of a tree without blanks. -/
def writeChars : Json → List Char
  | .null => ['n', 'u', 'l', 'l']
  | .bool b => writeBool b
  | .int i => writeInt i
  | .float x => writeFloat x
  | .text s => writeText s
  | .list [] => ['[', ']']
  | .list (j :: js) => '[' :: writeChars j ++ writeItems js ++ [']']
  | .object [] => ['\x7b', '\x7d']
  | .object ((name, j) :: ms) =>
    '\x7b' :: writeText name ++ ':' :: writeChars j ++ writeMembers ms ++ ['\x7d']

/-- Further items, each behind a comma. -/
def writeItems : List Json → List Char
  | [] => []
  | j :: js => ',' :: writeChars j ++ writeItems js

/-- Further members, each behind a comma. -/
def writeMembers : List (String × Json) → List Char
  | [] => []
  | (name, j) :: ms => ',' :: writeText name ++ ':' :: writeChars j ++ writeMembers ms

end

def write (j : Json) : String := String.ofList (writeChars j)

/-- A line break and the indentation of a level. -/
def breakLine (level : Nat) : List Char := '\n' :: List.replicate (2 * level) ' '

mutual

def writeIndentedChars (level : Nat) : Json → List Char
  | .list [] => ['[', ']']
  | .list (j :: js) =>
    '[' :: breakLine (level + 1) ++ writeIndentedChars (level + 1) j ++
      writeIndentedItems (level + 1) js ++ breakLine level ++ [']']
  | .object [] => ['\x7b', '\x7d']
  | .object ((name, j) :: ms) =>
    '\x7b' :: breakLine (level + 1) ++ writeText name ++ ':' :: ' ' ::
      writeIndentedChars (level + 1) j ++ writeIndentedMembers (level + 1) ms ++
      breakLine level ++ ['\x7d']
  | .null => ['n', 'u', 'l', 'l']
  | .bool b => writeBool b
  | .int i => writeInt i
  | .float x => writeFloat x
  | .text s => writeText s

def writeIndentedItems (level : Nat) : List Json → List Char
  | [] => []
  | j :: js => ',' :: breakLine level ++ writeIndentedChars level j ++ writeIndentedItems level js

def writeIndentedMembers (level : Nat) : List (String × Json) → List Char
  | [] => []
  | (name, j) :: ms =>
    ',' :: breakLine level ++ writeText name ++ ':' :: ' ' :: writeIndentedChars level j ++
      writeIndentedMembers level ms

end

/-- The text of a tree with one member or item a line. -/
def writeIndented (j : Json) : String := String.ofList (writeIndentedChars 0 j)

end Json
end FormLogic
