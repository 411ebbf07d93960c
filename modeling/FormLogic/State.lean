import FormLogic.Dict
import FormLogic.Json.Stream

/-!
# FormLogic.State

What a session knows about its fields.

* `Flags`: which fields are visible, disabled, read-only and mandatory;
* `FormState`: values, errors, touched fields and flags;
* `FormState.isVisible` and its like: flags with the neutral answer for fields that have none;
* `FormState.ofText`: states from JSON text.
-/

namespace FormLogic

/-- Flags by field. -/
structure Flags where
  visibility : Dict Bool := ∅
  disabled : Dict Bool := ∅
  readonly : Dict Bool := ∅
  mandatory : Dict Bool := ∅
deriving DecidableEq

structure FormState where
  values : Dict String := ∅
  errors : Dict (List String) := ∅
  touched : NameSet := ∅
  flags : Flags := {}
deriving DecidableEq

/-- Whether a field has a value that is not empty. -/
def hasText (values : Dict String) (field : String) : Bool :=
  values[field]?.any (!·.isEmpty)

namespace FormState

def value? (s : FormState) (field : String) : Option String := s.values[field]?

def hasValue (s : FormState) (field : String) : Bool := hasText s.values field

/-- Fields are visible unless they are hidden. -/
def isVisible (s : FormState) (field : String) : Bool := s.flags.visibility[field]?.getD true

def isDisabled (s : FormState) (field : String) : Bool := s.flags.disabled[field]?.getD false

def isReadonly (s : FormState) (field : String) : Bool := s.flags.readonly[field]?.getD false

def isMandatory (s : FormState) (field : String) : Bool := s.flags.mandatory[field]?.getD false

def fieldErrors (s : FormState) (field : String) : List String := s.errors[field]?.getD []

/-- Replaces all flags. -/
def restoreFlags (s : FormState) (flags : Flags) : FormState := { s with flags := flags }

def setValue (s : FormState) (field value : String) : FormState :=
  { s with values := s.values.insert field value }

end FormState

namespace Wire

open Json Codec

def boolDict : Codec (Dict Bool) := dict bool

def flags : Codec Flags := record "UiFlags" [
  .needed "visibility" boolDict (·.visibility) fun f x => { f with visibility := x },
  .needed "disabled" boolDict (·.disabled) fun f x => { f with disabled := x },
  .needed "readonly" boolDict (·.readonly) fun f x => { f with readonly := x },
  .needed "mandatory" boolDict (·.mandatory) fun f x => { f with mandatory := x }] {}

def formState : Codec FormState := record "FormState" [
  .needed "values" (dict text) (·.values) fun s x => { s with values := x },
  .needed "errors" (dict (list text)) (·.errors) fun s x => { s with errors := x },
  .needed "touched" nameSet (·.touched) fun s x => { s with touched := x },
  .needed "visibility" boolDict (·.flags.visibility)
    fun s x => { s with flags := { s.flags with visibility := x } },
  .needed "disabled" boolDict (·.flags.disabled)
    fun s x => { s with flags := { s.flags with disabled := x } },
  .needed "readonly" boolDict (·.flags.readonly)
    fun s x => { s with flags := { s.flags with readonly := x } },
  .needed "mandatory" boolDict (·.flags.mandatory)
    fun s x => { s with flags := { s.flags with mandatory := x } }] {}

def boolStream : Stream (Dict Bool) := .dict .bool

/-- States as they are read from text. -/
def formStateStream : Stream FormState := .record "FormState" [
  .of "values" (.dict .text) fun s x => { s with values := x },
  .of "errors" (.dict (.list .text)) fun s x => { s with errors := x },
  .of "touched" (.list .text) fun s x => { s with touched := NameSet.ofNames x },
  .of "visibility" boolStream fun s x => { s with flags := { s.flags with visibility := x } },
  .of "disabled" boolStream fun s x => { s with flags := { s.flags with disabled := x } },
  .of "readonly" boolStream fun s x => { s with flags := { s.flags with readonly := x } },
  .of "mandatory" boolStream fun s x => { s with flags := { s.flags with mandatory := x } }] {}

end Wire

/-- A state from its text. -/
def FormState.ofText (input : String) : Except Json.TextMisfit FormState :=
  Wire.formStateStream.run input

end FormLogic
