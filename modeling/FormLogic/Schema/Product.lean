import FormLogic.Schema.Rule

/-!
# FormLogic.Schema.Product

Products: descriptive data, fields, tables and rules.
-/

namespace FormLogic

structure ProductMaster where
  product : Int := 0
  name : String := ""
  kind : String := ""
  description : Option String := none
  lob : String := ""
  sublob : String := ""
  company : String := ""
  status : String := ""
deriving DecidableEq, Repr

structure Rider where
  product : Int := 0
  name : String := ""
  kind : String := ""
  shortForm : String := ""
  lob : String := ""
  sublob : String := ""
  status : String := ""
deriving DecidableEq, Repr

structure Version where
  id : Int := 0
  change : String := ""
  effectiveFrom : Option String := none
  effectiveTo : Option String := none
  status : String := ""
deriving DecidableEq, Repr

structure Product where
  id : Int := 0
  name : String := ""
  master : Option ProductMaster := none
  riders : List Rider := []
  versions : List Version := []
  fields : List Field := []
  choices : List Choice := []
  tables : Tables := ∅
  fieldRules : List FieldRule := []
  valueRules : List ValueRule := []
deriving DecidableEq

/-- A product as a service answers with it. -/
structure Envelope where
  statusCode : Int := 0
  statusMessage : String := ""
  response : Product := {}
deriving DecidableEq

end FormLogic
