import FormLogic.Calendar
import FormLogic.Json.Codec
import FormLogic.Json.Reader
import FormLogic.Json.Writer
import FormLogic.Number.Layout
import FormLogic.Schema.Field

/-!
# FormLogic.TypedValue

The texts of fields as values of their types.

* `TypedValue`: a value;
* `FieldType.decode`: the value that a text denotes, none for the empty text;
* `TypedValue.encode`: the text that is kept for a value.
-/

namespace FormLogic

open Number Text

inductive TypedValue where
  | text (s : String)
  | integer (i : Int)
  | decimal (x : Float)
  | date (d : Date)
  | boolean (b : Bool)
  | list (items : List String)
deriving DecidableEq

/-- A text that does not fit a type. -/
structure Unreadable where
  raw : String
  expected : String
deriving DecidableEq, Repr

def Unreadable.message (u : Unreadable) : String :=
  "`" ++ u.raw ++ "` is not a valid " ++ u.expected

/-- A run of digits that is not empty. -/
def readDigits? (input : List Char) : Option Nat :=
  if input ≠ [] && input.all Char.isDigit then some (natOfDigits input) else none

/-- An integer of 64 bits with an optional sign. -/
def readInteger? (input : List Char) : Option Int := do
  let i : Int ←
    match input with
    | '-' :: rest => (readDigits? rest).map fun n => -(n : Int)
    | '+' :: rest => (readDigits? rest).map fun n => (n : Int)
    | rest => (readDigits? rest).map fun n => (n : Int)
  if -Int.pow 2 63 ≤ i ∧ i < Int.pow 2 63 then some i else none

/-- A number other than the infinities and NaN. -/
def readFinite? (input : List Char) : Option Float :=
  (readChars? input).filter (·.isFinite)

/-- The truth value that a word in lower case stands for. -/
def boolOfWord? (word : List Char) : Option Bool :=
  if ["true", "1", "y", "yes"].any (·.toList == word) then some true
  else if ["false", "0", "n", "no"].any (·.toList == word) then some false
  else none

/-- A JSON list of texts. -/
def readList? (input : List Char) : Option (List String) := do
  let j ← Json.read? (String.ofList input)
  ((Json.Codec.list Json.Codec.text).decode j).toOption

/-- The value of a type that a trimmed text denotes. -/
def FieldType.read? (type : FieldType) (raw : String) (trimmed : List Char) : Option TypedValue :=
  match type with
  | .integer => (readInteger? trimmed).map .integer
  | .decimal => (readFinite? trimmed).map .decimal
  | .date | .dob => (Date.read? trimmed).map .date
  | .boolean => (boolOfWord? (trimmed.map Char.toLower)).map .boolean
  | .list =>
    if trimmed.head? = some '[' then (readList? trimmed).map .list else some (.list [raw])
  | .string | .phone | .email | .other => some (.text raw)

/-- What messages call the values of a type. -/
def FieldType.noun : FieldType → String
  | .integer => "integer"
  | .decimal => "decimal"
  | .date | .dob => "date"
  | .boolean => "boolean"
  | .list => "list"
  | .string | .phone | .email | .other => "text"

/-- The value that a text denotes; the empty text denotes none. -/
def FieldType.decode (type : FieldType) (raw : String) : Except Unreadable (Option TypedValue) :=
  if raw.isEmpty then .ok none
  else
    match type.read? raw (trimChars raw.toList) with
    | some v => .ok (some v)
    | none => .error ⟨raw, type.noun⟩

/-- The text that is kept for a value; a list of one item is kept as the item. -/
def TypedValue.encode : TypedValue → String
  | .text s => s
  | .integer i => String.ofList (Json.writeInt i)
  | .decimal x => plain.render x
  | .date d => String.ofList d.write
  | .boolean b => if b then "true" else "false"
  | .list [item] => item
  | .list items => (Json.ofTexts items).write

end FormLogic
