import FormLogic.Json.Tree
import FormLogic.Number.Layout
import FormLogic.Text.Quoted

/-!
# FormLogic.Json.Codec

Typed values as JSON.

* `Misfit`: why a tree does not fit a type;
* `Codec`: how values of a type are written as trees and read from them;
* `Slot`, `Codec.record`: records by the slots of their members;
* `Codec.tag`: enumerations by the names of their members.
-/

namespace FormLogic
namespace Json

/-- Why a tree does not fit a type. -/
inductive Misfit where
  | wrongType (found : String) (expected : String)
  | wrongValue (found : String) (expected : String)
  | missing (name : String)
  | repeated (name : String)
  | unknownTag (name : String) (known : List String)
  | wrongLength (found : Nat) (expected : String)
  | noAlternative (type : String)
deriving DecidableEq, Repr

def joinTags (names : List String) : String :=
  ", ".intercalate (names.map fun name => "`" ++ name ++ "`")

/-- The choices that an unknown tag is set against. -/
def describeTags : List String → String
  | [] => "there are no variants"
  | [a] => "expected `" ++ a ++ "`"
  | [a, b] => "expected `" ++ a ++ "` or `" ++ b ++ "`"
  | names => "expected one of " ++ joinTags names

def Misfit.message : Misfit → String
  | .wrongType found expected => "invalid type: " ++ found ++ ", expected " ++ expected
  | .wrongValue found expected => "invalid value: " ++ found ++ ", expected " ++ expected
  | .missing name => "missing field `" ++ name ++ "`"
  | .repeated name => "duplicate field `" ++ name ++ "`"
  | .unknownTag name known => "unknown variant `" ++ name ++ "`, " ++ describeTags known
  | .wrongLength found expected =>
    "invalid length " ++ toString found ++ ", expected " ++ expected
  | .noAlternative type => "data did not match any variant of untagged enum " ++ type

/-- A tree as messages name it. -/
def describe : Json → String
  | .null => "null"
  | .bool true => "boolean `true`"
  | .bool false => "boolean `false`"
  | .int i => "integer `" ++ toString i ++ "`"
  | .float x => "floating point `" ++ Number.interchange.render x ++ "`"
  | .text s => "string " ++ Text.quoted s
  | .list _ => "sequence"
  | .object _ => "map"

def unfit {α : Type} (j : Json) (expected : String) : Except Misfit α :=
  .error (.wrongType j.describe expected)

/-- How values of a type are written as trees and read from them. -/
structure Codec (α : Type) where
  encode : α → Json
  decode : Json → Except Misfit α

namespace Codec

def text : Codec String where
  encode := .text
  decode
    | .text s => .ok s
    | j => j.unfit "a string"

def bool : Codec Bool where
  encode := .bool
  decode
    | .bool b => .ok b
    | j => j.unfit "a boolean"

/-- Integers within bounds. -/
def intIn (low high : Int) (type : String) : Codec Int where
  encode := .int
  decode
    | .int i =>
      if low ≤ i ∧ i ≤ high then .ok i else .error (.wrongValue (Json.int i).describe type)
    | j => j.unfit type

/-- Signed integers of 64 bits. -/
def int : Codec Int := intIn (-Int.pow 2 63) (Int.pow 2 63 - 1) "i64"

/-- Unsigned integers of 64 bits. -/
def natOfType (type : String) : Codec Nat where
  encode n := .int n
  decode j := do return ((← (intIn 0 (Int.pow 2 64 - 1) type).decode j).toNat)

def size : Codec Nat := natOfType "usize"

def capacity : Codec Nat := natOfType "u64"

/-- Floats, as which integers are read too. -/
def float : Codec Float where
  encode x := if x.isFinite then .float x else .null
  decode
    | .float x => .ok x
    | .int i => .ok (Number.nearestFloat (i < 0) i.natAbs 1)
    | j => j.unfit "f64"

/-- Null stands for nothing. -/
def option {α : Type} (c : Codec α) : Codec (Option α) where
  encode
    | some a => c.encode a
    | none => .null
  decode
    | .null => .ok none
    | j => do return some (← c.decode j)

def decodeItems {α : Type} (c : Codec α) : List Json → Except Misfit (List α)
  | [] => .ok []
  | j :: js => do
    let a ← c.decode j
    let as ← decodeItems c js
    return a :: as

def list {α : Type} (c : Codec α) : Codec (List α) where
  encode as := .list (as.map c.encode)
  decode
    | .list js => decodeItems c js
    | j => j.unfit "a sequence"

def decodeMembers {α : Type} (c : Codec α) (d : Dict α) :
    List (String × Json) → Except Misfit (Dict α)
  | [] => .ok d
  | (name, j) :: ms => do
    let a ← c.decode j
    decodeMembers c (d.insert name a) ms

def dict {α : Type} (c : Codec α) : Codec (Dict α) where
  encode d := .object (d.toList.map fun p => (p.1, c.encode p.2))
  decode
    | .object ms => decodeMembers c ∅ ms
    | j => j.unfit "a map"

def nameSet : Codec NameSet where
  encode s := ofTexts s.toList
  decode j := do return NameSet.ofNames (← (list text).decode j)

/-- The member of an enumeration that a name stands for, or the one for all other names. -/
def tagOf {α : Type} (tags : List (String × α)) (other : Option α) (name : String) :
    Except Misfit α :=
  match tags.lookup name, other with
  | some a, _ => .ok a
  | none, some a => .ok a
  | none, none => .error (.unknownTag name (tags.map (·.1)))

/-- Enumerations are written by name; an object with the name as its only member and null as its
value is read too. -/
def tag {α : Type} (nameOf : α → String) (tags : List (String × α)) (other : Option α) :
    Codec α where
  encode a := .text (nameOf a)
  decode
    | .text name => tagOf tags other name
    | .object [(name, j)] => do
      let a ← tagOf tags other name
      match j with
      | .null => return a
      | j => j.unfit "unit"
    | .object _ => .error (.wrongValue "map" "map with a single key")
    | j => j.unfit "string or map"

end Codec

/-- A member of a record: its name, whether it has to be there, and how it is written and read. -/
structure Slot (R : Type) where
  name : String
  required : Bool
  encode : R → Json
  decode : Json → R → Except Misfit R

/-- A member that may be left out. -/
def Slot.optional {R α : Type} (name : String) (c : Codec α) (get : R → α) (set : R → α → R) :
    Slot R where
  name := name
  required := false
  encode r := c.encode (get r)
  decode j r := do return set r (← c.decode j)

/-- A member that has to be there. -/
def Slot.needed {R α : Type} (name : String) (c : Codec α) (get : R → α) (set : R → α → R) :
    Slot R :=
  { Slot.optional name c get set with required := true }

/-- Reads members in their order; those without a slot do not matter. -/
def decodeSlots {R : Type} (slots : List (Slot R)) :
    List (String × Json) → R → Except Misfit R
  | [], r => .ok r
  | (name, j) :: ms, r =>
    match slots.find? (·.name == name) with
    | none => decodeSlots slots ms r
    | some slot => do decodeSlots slots ms (← slot.decode j r)

/-- The first slot that has to be there and is not. -/
def missingSlot? {R : Type} (slots : List (Slot R)) (ms : List (String × Json)) :
    Option (Slot R) :=
  slots.find? fun slot => slot.required && !(ms.any fun m => m.1 == slot.name)

/-- Reads items into slots by position; slots without items stay as they are if they may. -/
def decodePositions {R : Type} (expected : String) (found : Nat) :
    List (Slot R) → List Json → R → Except Misfit R
  | [], [], r => .ok r
  | [], _ :: _, _ => .error (.wrongLength found "fewer elements in array")
  | slot :: slots, [], r =>
    match (slot :: slots).findIdx? (·.required) with
    | some i => .error (.wrongLength (found + i) expected)
    | none => .ok r
  | slot :: slots, j :: js, r => do
    decodePositions expected found slots js (← slot.decode j r)

/-- Records are written as objects with all their slots, and read from objects or from lists of
their members in order. -/
def Codec.record {R : Type} (type : String) (slots : List (Slot R)) (start : R) : Codec R where
  encode r := .object (slots.map fun slot => (slot.name, slot.encode r))
  decode
    | .object ms => do
      let r ← decodeSlots slots ms start
      match missingSlot? slots ms with
      | some slot => throw (.missing slot.name)
      | none => return r
    | .list js =>
      decodePositions ("struct " ++ type ++ " with " ++ toString slots.length ++ " elements")
        js.length slots js start
    | j => j.unfit ("struct " ++ type)

end Json
end FormLogic
