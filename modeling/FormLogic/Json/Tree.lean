import FormLogic.Dict

/-!
# FormLogic.Json.Tree

JSON as trees.

* `Json`: the tree; numbers are integers or floats, as they are written;
* `Json.find?`: a member of an object;
* `sortMembers`: members by name, the later of two with one name.
-/

namespace FormLogic

inductive Json where
  | null
  | bool (b : Bool)
  | int (i : Int)
  | float (x : Float)
  | text (s : String)
  | list (items : List Json)
  | object (members : List (String × Json))

namespace Json

/-- The member of an object with this name. -/
def find? (name : String) : Json → Option Json
  | .object members => members.lookup name
  | _ => none

/-- Members in the order of their names; of two with one name the later one stays. -/
def sortMembers (members : List (String × Json)) : List (String × Json) :=
  (Dict.ofPairs members).toList

def ofOption {α : Type} (f : α → Json) : Option α → Json
  | some a => f a
  | none => .null

def ofTexts (texts : List String) : Json := .list (texts.map .text)

def ofDict {α : Type} (f : α → Json) (d : Dict α) : Json :=
  .object (d.toList.map fun p => (p.1, f p.2))

end Json
end FormLogic
