import FormLogic.Json.Tree

/-!
# FormLogic.Session.Event

What happens in a session.

* `Event`: an entry of the session's record;
* `Notice`: what a listener is told about a change.
-/

namespace FormLogic

inductive Event where
  /-- A field was edited, and other fields were derived anew. -/
  | valueChanged (field value : String) (derived : List String)
  | blurred (field : String) (errors : Nat)
  | validated (valid : Bool) (failing : Nat)
  | reset
deriving DecidableEq, Repr

/-- What a listener is told: the edit and the values behind it. -/
structure Notice where
  listener : String
  field : String
  value : String
  values : Dict String
deriving DecidableEq

namespace Wire

open Json

def event : Event → Json
  | .valueChanged field value derived =>
    .object [("event", .text "value_changed"), ("field", .text field), ("value", .text value),
      ("derived", ofTexts derived)]
  | .blurred field errors =>
    .object [("event", .text "blurred"), ("field", .text field), ("errors", .int errors)]
  | .validated valid failing =>
    .object [("event", .text "validated"), ("valid", .bool valid), ("failing", .int failing)]
  | .reset => .object [("event", .text "reset")]

end Wire
end FormLogic
