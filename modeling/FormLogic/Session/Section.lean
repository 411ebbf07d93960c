import FormLogic.Session.Offer
import FormLogic.Text.Case
import FormLogic.Text.Words

/-!
# FormLogic.Session.Section

Forms as they are shown.

* `Entry`: a field with its value, flags, options and messages;
* `Section`: fields under one title;
* `sectionTitle`: the title of a section's name;
* `Form.sections`: all sections of a form.
-/

namespace FormLogic

open Formula Text

structure Entry where
  field : Field
  value : Option String
  visible : Bool
  disabled : Bool
  readonly : Bool
  mandatory : Bool
  options : List Choice
  errors : List String
deriving DecidableEq

structure Section where
  name : String
  title : String
  visible : Bool
  entries : List Entry
deriving DecidableEq

/-- A word with its first character in upper case and the others in lower case. -/
def titleWord (word : List Char) : List Char :=
  match lowerText word with
  | [] => []
  | first :: rest => upperChars first ++ rest

/-- The title of a section: the words of its name, without the word `SECTION` at the end. -/
def sectionTitle (name : String) : String :=
  let spaced := name.toList.map fun c => if c = '_' then ' ' else c
  let parts := words (withoutSuffix "SECTION".toList spaced)
  " ".intercalate (parts.map fun word => String.ofList (titleWord word))

/-- The name of the section that a field belongs to. -/
def Field.sectionKey (f : Field) : String :=
  if allBlank f.sectionName then "DEFAULT" else trim f.sectionName

/-- Where a field stands in its section; those without a number stand behind all others. -/
def Field.position (f : Field) : Int := f.sequence.getD (Int.pow 2 63 - 1)

def Section.ofEntries (name : String) (entries : List Entry) : Section where
  name := name
  title := sectionTitle name
  visible := entries.any (·.visible)
  entries := entries.mergeSort fun a b => a.field.position ≤ b.field.position

/-- Adds an entry behind the others of its section. -/
def addEntry (groups : Dict (List Entry)) (e : Entry) : Dict (List Entry) :=
  groups.insert e.field.sectionKey (groups[e.field.sectionKey]?.getD [] ++ [e])

/-- Sections in the order of their names. -/
def groupEntries (entries : List Entry) : List Section :=
  (entries.foldl addEntry ∅).toList.map fun g => Section.ofEntries g.1 g.2

namespace Form

def entry (form : Form) (s : FormState) (f : Field) (memo : Memo) : Metered (Entry × Memo) := do
  let (options, memo) ← form.options f.keyword s.values memo
  return ({
    field := f
    value := s.value? f.keyword
    visible := s.isVisible f.keyword
    disabled := s.isDisabled f.keyword
    readonly := s.isReadonly f.keyword
    mandatory := s.isMandatory f.keyword
    options := options
    errors := s.fieldErrors f.keyword }, memo)

def entries (form : Form) (s : FormState) : List Field → Memo → Metered (List Entry × Memo)
  | [], memo => pure ([], memo)
  | f :: fs, memo => do
    let (e, memo) ← form.entry s f memo
    let (es, memo) ← form.entries s fs memo
    return (e :: es, memo)

/-- The sections of a form, in the order of their names. -/
def sections (form : Form) (s : FormState) (memo : Memo) : Metered (List Section × Memo) := do
  let (entries, memo) ← form.entries s form.fields memo
  return (groupEntries entries, memo)

end Form
end FormLogic
