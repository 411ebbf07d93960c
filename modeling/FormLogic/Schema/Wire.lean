import FormLogic.Json.Codec
import FormLogic.Json.Reader
import FormLogic.Json.Writer
import FormLogic.Schema.Product

/-!
# FormLogic.Schema.Wire

Products as JSON: the names of all members, and which of them have to be there.
-/

namespace FormLogic
namespace Wire

open Json Codec

def fieldTypeName : FieldType → String
  | .string => "String"
  | .integer => "Integer"
  | .decimal => "Decimal"
  | .dob => "DOB"
  | .date => "Date"
  | .list => "List"
  | .boolean => "Boolean"
  | .phone => "Phone"
  | .email => "Email"
  | .other => "Other"

def namedBy {α : Type} (nameOf : α → String) (all : List α) : List (String × α) :=
  all.map fun a => (nameOf a, a)

/-- Names that no type has stand for `other`. -/
def fieldType : Codec FieldType :=
  tag fieldTypeName
    (namedBy fieldTypeName
      [.string, .integer, .decimal, .dob, .date, .list, .boolean, .phone, .email])
    (some .other)

def uiBehaviorName : UiBehavior → String
  | .shown => "SHOW"
  | .hidden => "HIDE"
  | .readonly => "READONLY"
  | .disabled => "DISABLED"

def uiBehavior : Codec UiBehavior :=
  tag uiBehaviorName (namedBy uiBehaviorName [.shown, .hidden, .readonly, .disabled]) none

def directionName : Direction → String
  | .input => "Input"
  | .output => "Output"
  | .both => "Both"

def direction : Codec Direction :=
  tag directionName (namedBy directionName [.input, .output, .both]) none

def actionName : Action → String
  | .show => "show"
  | .hide => "hide"
  | .enable => "enable"
  | .disable => "disable"
  | .readonly => "readonly"
  | .mandatory => "mandatory"
  | .optional => "optional"

def action : Codec Action :=
  tag actionName
    (namedBy actionName [.show, .hide, .enable, .disable, .readonly, .mandatory, .optional]) none

def choice : Codec Choice := record "FieldOption" [
  .optional "keywordvalueid" text (·.id) fun c x => { c with id := x },
  .optional "keyword" text (·.keyword) fun c x => { c with keyword := x },
  .optional "keyworddisplay" text (·.display) fun c x => { c with display := x },
  .needed "keywordvalue" text (·.value) fun c x => { c with value := x },
  .optional "defaultselected" bool (·.selected) fun c x => { c with selected := x },
  .optional "keyvalsequence" int (·.sequence) fun c x => { c with sequence := x },
  .optional "transactioncode" text (·.transaction) fun c x => { c with transaction := x },
  .optional "calcstep" text (·.step) fun c x => { c with step := x }] {}

def sourceMetadata : Codec SourceMetadata := record "DataSourceMetadata" [
  .optional "lookup" (option text) (·.lookup) fun m x => { m with lookup := x },
  .optional "keywordvalue" (option text) (·.valueColumn) fun m x => { m with valueColumn := x },
  .optional "keyworddisplay" (option text) (·.displayColumn)
    fun m x => { m with displayColumn := x }] {}

def sourceSpec : Codec SourceSpec := record "DataSourceSpec" [
  .needed "fieldvaluecode" text (·.table) fun s x => { s with table := x },
  .optional "fieldvaluesourcetype" text (·.kind) fun s x => { s with kind := x },
  .optional "fieldvaluemetadata" (option sourceMetadata) (·.metadata)
    fun s x => { s with metadata := x }] {}

/-- An entry is a source if it fits one, an option otherwise. -/
def valueEntry : Codec ValueEntry where
  encode
    | .source spec => sourceSpec.encode spec
    | .choice c => choice.encode c
  decode j :=
    match sourceSpec.decode j with
    | .ok spec => .ok (.source spec)
    | .error _ =>
      match choice.decode j with
      | .ok c => .ok (.choice c)
      | .error _ => .error (.noAlternative "FieldValueEntry")

def field : Codec Field := record "FieldDefinition" [
  .optional "keywordid" text (·.id) fun f x => { f with id := x },
  .needed "keyword" text (·.keyword) fun f x => { f with keyword := x },
  .optional "keywordcaption" text (·.caption) fun f x => { f with caption := x },
  .optional "keywordtype" fieldType (·.type) fun f x => { f with type := x },
  .optional "keyworddatatype" text (·.dataType) fun f x => { f with dataType := x },
  .optional "keywordsection" text (·.sectionName) fun f x => { f with sectionName := x },
  .optional "defaultvalue" (option text) (·.default) fun f x => { f with default := x },
  .optional "ismandatory" bool (·.mandatory) fun f x => { f with mandatory := x },
  .optional "inputoroutput" direction (·.direction) fun f x => { f with direction := x },
  .optional "defaultuibehavior" uiBehavior (·.behavior) fun f x => { f with behavior := x },
  .optional "keyminvalue" (option float) (·.least) fun f x => { f with least := x },
  .optional "keymaxvalue" (option float) (·.greatest) fun f x => { f with greatest := x },
  .optional "minlength" (option size) (·.shortest) fun f x => { f with shortest := x },
  .optional "maxlength" (option size) (·.longest) fun f x => { f with longest := x },
  .optional "regex" (option text) (·.pattern) fun f x => { f with pattern := x },
  .optional "lookupccondition" (option text) (·.lookup) fun f x => { f with lookup := x },
  .optional "addlcondition" (option text) (·.condition) fun f x => { f with condition := x },
  .optional "validationcondition" (option text) (·.validationCondition)
    fun f x => { f with validationCondition := x },
  .optional "keysequence" (option int) (·.sequence) fun f x => { f with sequence := x },
  .optional "parentkeyword" (option text) (·.parent) fun f x => { f with parent := x },
  .optional "lob" text (·.lob) fun f x => { f with lob := x },
  .optional "sublob" text (·.sublob) fun f x => { f with sublob := x },
  .optional "productid" int (·.product) fun f x => { f with product := x },
  .optional "transactioncode" text (·.transaction) fun f x => { f with transaction := x },
  .optional "calcstep" text (·.step) fun f x => { f with step := x },
  .optional "chkfieldsource" bool (·.sourced) fun f x => { f with sourced := x },
  .optional "fieldvaluedata" (list valueEntry) (·.values) fun f x => { f with values := x }] {}

def fieldRule : Codec FieldRule := record "FieldDependency" [
  .optional "keydependentid" text (·.id) fun r x => { r with id := x },
  .needed "changedkeyword" text (·.trigger) fun r x => { r with trigger := x },
  .optional "changedkeywordvalue" (option text) (·.triggerValue)
    fun r x => { r with triggerValue := x },
  .needed "actionedkeyword" text (·.target) fun r x => { r with target := x },
  .needed "actiontotake" action (·.action) fun r x => { r with action := x },
  .optional "expression" (option text) (·.gate) fun r x => { r with gate := x },
  .optional "operatortype" (option text) (·.operator) fun r x => { r with operator := x },
  .optional "transactioncode" text (·.transaction) fun r x => { r with transaction := x },
  .optional "calcstep" text (·.step) fun r x => { r with step := x }] {}

def valueRule : Codec ValueRule := record "ValueDependency" [
  .optional "keyvaluedependentid" text (·.id) fun r x => { r with id := x },
  .needed "changedkeyword" text (·.trigger) fun r x => { r with trigger := x },
  .optional "changedkeywordvalue" text (·.triggerValue) fun r x => { r with triggerValue := x },
  .needed "actionedkeyword" text (·.target) fun r x => { r with target := x },
  .optional "actionedkeywordvalue" text (·.targetValue) fun r x => { r with targetValue := x },
  .needed "actiontotake" action (·.action) fun r x => { r with action := x },
  .optional "expression" (option text) (·.gate) fun r x => { r with gate := x },
  .optional "operatortype" (option text) (·.operator) fun r x => { r with operator := x },
  .optional "transactioncode" text (·.transaction) fun r x => { r with transaction := x },
  .optional "calcstep" text (·.step) fun r x => { r with step := x }] {}

def productMaster : Codec ProductMaster := record "ProductMaster" [
  .optional "productid" int (·.product) fun m x => { m with product := x },
  .optional "productname" text (·.name) fun m x => { m with name := x },
  .optional "prodtype" text (·.kind) fun m x => { m with kind := x },
  .optional "description" (option text) (·.description) fun m x => { m with description := x },
  .optional "lob" text (·.lob) fun m x => { m with lob := x },
  .optional "sublob" text (·.sublob) fun m x => { m with sublob := x },
  .optional "companycode" text (·.company) fun m x => { m with company := x },
  .optional "status" text (·.status) fun m x => { m with status := x }] {}

def rider : Codec Rider := record "Rider" [
  .optional "productid" int (·.product) fun r x => { r with product := x },
  .optional "productname" text (·.name) fun r x => { r with name := x },
  .optional "prodtype" text (·.kind) fun r x => { r with kind := x },
  .optional "shortform" text (·.shortForm) fun r x => { r with shortForm := x },
  .optional "lob" text (·.lob) fun r x => { r with lob := x },
  .optional "sublob" text (·.sublob) fun r x => { r with sublob := x },
  .optional "status" text (·.status) fun r x => { r with status := x }] {}

def version : Codec Version := record "ProductVersion" [
  .optional "versionid" int (·.id) fun v x => { v with id := x },
  .optional "versionchangetype" text (·.change) fun v x => { v with change := x },
  .optional "fromeffectivedate" (option text) (·.effectiveFrom)
    fun v x => { v with effectiveFrom := x },
  .optional "toeffectivedate" (option text) (·.effectiveTo) fun v x => { v with effectiveTo := x },
  .optional "versionstatus" text (·.status) fun v x => { v with status := x }] {}

def tables : Codec Tables := dict (list (dict text))

def product : Codec Product := record "ProductSchema" [
  .optional "productid" int (·.id) fun p x => { p with id := x },
  .optional "productname" text (·.name) fun p x => { p with name := x },
  .optional "productmaster" (option productMaster) (·.master) fun p x => { p with master := x },
  .optional "riders" (list rider) (·.riders) fun p x => { p with riders := x },
  .optional "productversion" (list version) (·.versions) fun p x => { p with versions := x },
  .optional "productkeyword" (list field) (·.fields) fun p x => { p with fields := x },
  .optional "productkeywordvalue" (list choice) (·.choices) fun p x => { p with choices := x },
  .optional "productkeyworddatasource" tables (·.tables) fun p x => { p with tables := x },
  .optional "productkeyworddependency" (list fieldRule) (·.fieldRules)
    fun p x => { p with fieldRules := x },
  .optional "productkeyworddependencyvalue" (list valueRule) (·.valueRules)
    fun p x => { p with valueRules := x }] {}

def envelope : Codec Envelope := record "SchemaEnvelope" [
  .optional "statusCode" int (·.statusCode) fun e x => { e with statusCode := x },
  .optional "statusMsg" text (·.statusMessage) fun e x => { e with statusMessage := x },
  .needed "response" product (·.response) fun e x => { e with response := x }] {}

end Wire

/-- Why a text is no product. -/
inductive TextFault where
  | malformed
  | misfit (why : Json.Misfit)
deriving DecidableEq, Repr

/-- A product from a tree; one that stands in an envelope is taken out of it. -/
def Product.ofJson (j : Json) : Except Json.Misfit Product :=
  match j.find? "response" with
  | some _ => do return (← Wire.envelope.decode j).response
  | none => Wire.product.decode j

/-- A product from the text of a tree. -/
def Product.ofText (input : String) : Except TextFault Product :=
  match Json.read? input with
  | none => .error .malformed
  | some j => (Product.ofJson j).mapError .misfit

end FormLogic
