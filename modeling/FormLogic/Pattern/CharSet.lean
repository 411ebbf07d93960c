import FormLogic.Text.Case
import FormLogic.Text.Category
import FormLogic.Text.Script

/-!
# FormLogic.Pattern.CharSet

The sets of characters that patterns speak of.

* `CharSet`: sets built from ranges and tables;
* `CharSet.contains`: membership;
* `CharSet.ofClassName?`, `CharSet.ofProperty?`: sets by name.
-/

namespace FormLogic
namespace Pattern

open Text

inductive CharSet where
  | range (low high : Nat)
  | tables (all : List Ranges)
  | union (a b : CharSet)
  | inter (a b : CharSet)
  | complement (a : CharSet)
  /-- Closed under differences of case. -/
  | caseless (a : CharSet)
deriving DecidableEq

namespace CharSet

def contains : CharSet → Char → Bool
  | range low high, c => low ≤ c.toNat && c.toNat ≤ high
  | tables all, c => inTables all c
  | union a b, c => a.contains c || b.contains c
  | inter a b, c => a.contains c && b.contains c
  | complement a, c => !a.contains c
  | caseless a, c => (caseVariants c).any a.contains

def nothing : CharSet := tables []

def everything : CharSet := complement nothing

def single (c : Char) : CharSet := range c.toNat c.toNat

def ascii : CharSet := range 0 0x7F

def ofTable (r : Ranges) : CharSet := tables [r]

def difference (a b : CharSet) : CharSet := inter a (complement b)

def unionAll (sets : List CharSet) : CharSet :=
  match sets with
  | [] => nothing
  | [a] => a
  | a :: rest => union a (unionAll rest)

/-- How many ranges a set is made of, roughly; a complement counts a few more. -/
def ranges : CharSet → Nat
  | range _ _ => 1
  | tables all => (all.map (·.ranges.length)).foldr (· + ·) 0
  | union a b => a.ranges + b.ranges
  | inter a b => a.ranges + b.ranges
  | complement a => a.ranges + 20
  | caseless a => 2 * a.ranges

/-- Whether some character behind the first 128, but among the first 256, is in the set. -/
def leavesAscii (s : CharSet) : Bool :=
  (List.range 128).any fun n => s.contains (Char.ofNat (128 + n))

def decimalDigits : Ranges := Category.decimalNumber.ranges

def blanks : Ranges := Ranges.ofLines ["9-D 20 85 A0 1680 2000-200A 2028-2029 202F 205F 3000"]

def asciiDigits : Ranges := Ranges.ofLines ["30-39"]

def asciiBlanks : Ranges := Ranges.ofLines ["9-D 20"]

def asciiWord : Ranges := Ranges.ofLines ["30-39 41-5A 5F 61-7A"]

/-- Classes that stand in brackets with colons. -/
def asciiClasses : List (String × Ranges) :=
  [("alnum", Ranges.ofLines ["30-39 41-5A 61-7A"]),
    ("alpha", Ranges.ofLines ["41-5A 61-7A"]),
    ("ascii", Ranges.ofLines ["0-7F"]),
    ("blank", Ranges.ofLines ["9 20"]),
    ("cntrl", Ranges.ofLines ["0-1F 7F"]),
    ("digit", asciiDigits),
    ("graph", Ranges.ofLines ["21-7E"]),
    ("lower", Ranges.ofLines ["61-7A"]),
    ("print", Ranges.ofLines ["20-7E"]),
    ("punct", Ranges.ofLines ["21-2F 3A-40 5B-60 7B-7E"]),
    ("space", asciiBlanks),
    ("upper", Ranges.ofLines ["41-5A"]),
    ("word", asciiWord),
    ("xdigit", Ranges.ofLines ["30-39 41-46 61-66"])]

def ofClassName? (name : String) : Option CharSet :=
  (asciiClasses.lookup name).map ofTable

/-- A name in lower case without gaps, and without the word `is` in front. -/
def plainName (name : List Char) : String :=
  let kept := (name.filter fun c => c.toNat < 128 && c != ' ' && c != '_' && c != '-').map
    Char.toLower
  match kept with
  | ['i', 's', 'c'] => "isc"
  | 'i' :: 's' :: rest => String.ofList rest
  | rest => String.ofList rest

/-- The names of general categories, of groups of them, and the categories they stand for. -/
def categoryNames : List (List String × List Category) :=
  [(["lu", "uppercaseletter"], [.uppercaseLetter]),
    (["ll", "lowercaseletter"], [.lowercaseLetter]),
    (["lt", "titlecaseletter"], [.titlecaseLetter]),
    (["lc", "casedletter"], [.uppercaseLetter, .lowercaseLetter, .titlecaseLetter]),
    (["lm", "modifierletter"], [.modifierLetter]),
    (["lo", "otherletter"], [.otherLetter]),
    (["l", "letter"], letters),
    (["mn", "nonspacingmark"], [.nonspacingMark]),
    (["mc", "spacingmark"], [.spacingMark]),
    (["me", "enclosingmark"], [.enclosingMark]),
    (["m", "mark", "combiningmark"], marks),
    (["nd", "decimalnumber", "digit"], [.decimalNumber]),
    (["nl", "letternumber"], [.letterNumber]),
    (["no", "othernumber"], [.otherNumber]),
    (["n", "number"], numbers),
    (["pc", "connectorpunctuation"], [.connectorPunctuation]),
    (["pd", "dashpunctuation"], [.dashPunctuation]),
    (["ps", "openpunctuation"], [.openPunctuation]),
    (["pe", "closepunctuation"], [.closePunctuation]),
    (["pi", "initialpunctuation"], [.initialPunctuation]),
    (["pf", "finalpunctuation"], [.finalPunctuation]),
    (["po", "otherpunctuation"], [.otherPunctuation]),
    (["p", "punctuation", "punct"], punctuation),
    (["sm", "mathsymbol"], [.mathSymbol]),
    (["sc", "currencysymbol"], [.currencySymbol]),
    (["sk", "modifiersymbol"], [.modifierSymbol]),
    (["so", "othersymbol"], [.otherSymbol]),
    (["s", "symbol"], symbols),
    (["zs", "spaceseparator"], [.spaceSeparator]),
    (["zl", "lineseparator"], [.lineSeparator]),
    (["zp", "paragraphseparator"], [.paragraphSeparator]),
    (["z", "separator"], separators),
    (["cc", "control", "cntrl"], [.control]),
    (["cf", "format"], [.format]),
    (["cs", "surrogate"], []),
    (["co", "privateuse"], [.privateUse])]

/-- All categories of characters that are assigned. -/
def assignedCategories : List Category :=
  letters ++ marks ++ numbers ++ punctuation ++ symbols ++ separators ++
    [.control, .format, .privateUse]

def assigned : CharSet := tables (tablesOf assignedCategories)

def valueOf? {α : Type} (rows : List (List String × α)) (name : String) : Option α :=
  (rows.find? (·.1.contains name)).map (·.2)

def ofCategory? (name : String) : Option CharSet :=
  if name = "any" then some everything
  else if name = "ascii" then some ascii
  else if name = "assigned" then some assigned
  else if name = "cn" || name = "unassigned" then some (complement assigned)
  else if name = "c" || name = "other" then
    some (union (complement assigned) (tables (tablesOf [.control, .format, .privateUse])))
  else (valueOf? categoryNames name).map fun categories => tables (tablesOf categories)

def ofScript? (name : String) : Option CharSet :=
  (Script.find? name).map fun s => ofTable s.ranges

/-- Properties that are no categories. -/
def propertyNames : List (List String × CharSet) :=
  [(["alphabetic", "alpha"], tables alphabeticTables),
    (["uppercase", "upper"], tables uppercaseTables),
    (["lowercase", "lower"], tables lowercaseTables),
    (["cased"], tables casedTables),
    (["caseignorable", "ci"], tables caseIgnorableTables),
    (["whitespace", "wspace", "space"], ofTable blanks),
    (["joincontrol", "joinc"], ofTable joiners),
    (["asciihexdigit", "ahex"], ofTable (Ranges.ofLines ["30-39 41-46 61-66"])),
    (["hexdigit", "hex"],
      ofTable (Ranges.ofLines ["30-39 41-46 61-66 FF10-FF19 FF21-FF26 FF41-FF46"]))]

/-- The set of a property or category or script. -/
def ofName? (name : List Char) : Option CharSet :=
  let name := plainName name
  (valueOf? propertyNames name).or ((ofCategory? name).or (ofScript? name))

/-- The set of a property that has a value. -/
def ofNameAndValue? (name value : List Char) : Option CharSet :=
  let name := plainName name
  if name = "gc" || name = "generalcategory" then ofCategory? (plainName value)
  else if name = "sc" || name = "script" || name = "scx" || name = "scriptextensions" then
    ofScript? (plainName value)
  else none

/-- The set that stands in braces: a name, or a name and a value; the flag tells whether the sign
between them excludes the value. -/
def ofProperty? (text : List Char) : Option (CharSet × Bool) :=
  let name := text.takeWhile fun c => c != '=' && c != ':' && c != '!'
  match text.dropWhile fun c => c != '=' && c != ':' && c != '!' with
  | '!' :: '=' :: value => (ofNameAndValue? name value).map (·, true)
  | '=' :: value => (ofNameAndValue? name value).map (·, false)
  | ':' :: value => (ofNameAndValue? name value).map (·, false)
  | [] => (ofName? name).map (·, false)
  | _ => none

end CharSet
end Pattern
end FormLogic
