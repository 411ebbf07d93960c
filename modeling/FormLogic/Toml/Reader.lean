import FormLogic.Calendar
import FormLogic.Number.Decimal
import FormLogic.Text.Ranges
import FormLogic.Toml.Tree

/-!
# FormLogic.Toml.Reader

Reading TOML documents.

* `readKeyPath?`: keys, joined by dots;
* `readString?`, `readNumber?`, `readMoment?`: scalars;
* `readValue?`: values, nested at most `depthLimit` levels;
* `Toml.read?`: a document, line by line.
-/

namespace FormLogic
namespace Toml

open Number Text

/-- What reads something from the head of a text. -/
abbrev Reads (α : Type) := List Char → Option (α × List Char)

def isInlineBlank (c : Char) : Bool := c == ' ' || c == '\t'

def skipInline (input : List Char) : List Char := input.dropWhile isInlineBlank

/-- Characters of comments and quoted texts: no control character but the tab. -/
def isPlain (c : Char) : Bool := c == '\t' || (0x20 ≤ c.toNat && c.toNat != 0x7F)

/-- A line break, which the end of the text does not stand for. -/
def readBreak? : List Char → Option (List Char)
  | '\n' :: rest => some rest
  | '\r' :: '\n' :: rest => some rest
  | _ => none

def skipComment (input : List Char) : List Char :=
  match input with
  | '#' :: rest => rest.dropWhile isPlain
  | rest => rest

/-- Blanks, comments and line breaks; the first argument bounds the lines. -/
def skipLines : Nat → List Char → List Char
  | 0, input => input
  | n + 1, input =>
    let rest := skipComment (skipInline input)
    match readBreak? rest with
    | some rest => skipLines n rest
    | none => rest

def skipAll (input : List Char) : List Char := skipLines (input.length + 1) input

/-- A code point in hexadecimal digits, as many as `n`. -/
def readCodePoint? (n : Nat) : Reads Char := fun input => do
  let digits ← (input.take n).mapM hexDigit?
  if digits.length ≠ n then none
  else
    let code := digits.foldl (fun a d => 16 * a + d) 0
    if code.isValidChar then some (Char.ofNat code, input.drop n) else none

/-- The character behind a backslash. -/
def readEscape? : Reads Char
  | 'b' :: rest => some ('\x08', rest)
  | 't' :: rest => some ('\t', rest)
  | 'n' :: rest => some ('\n', rest)
  | 'f' :: rest => some ('\x0c', rest)
  | 'r' :: rest => some ('\r', rest)
  | '"' :: rest => some ('"', rest)
  | '\\' :: rest => some ('\\', rest)
  | 'u' :: rest => readCodePoint? 4 rest
  | 'U' :: rest => readCodePoint? 8 rest
  | _ => none

/-- A text between double quotes on one line, behind the first quote. -/
def readBasic? : Nat → Reads (List Char)
  | 0, _ => none
  | _ + 1, [] => none
  | n + 1, c :: rest =>
    if c = '"' then some ([], rest)
    else if c = '\\' then do
      let (e, rest) ← readEscape? rest
      let (cs, rest) ← readBasic? n rest
      return (e :: cs, rest)
    else if isPlain c then do
      let (cs, rest) ← readBasic? n rest
      return (c :: cs, rest)
    else none

/-- A text between single quotes on one line, behind the first quote. -/
def readLiteral? : Reads (List Char) := fun input =>
  let content := input.takeWhile fun c => c != '\'' && isPlain c
  match input.drop content.length with
  | '\'' :: rest => some (content, rest)
  | _ => none

/-- A run of quotes in a text of several lines: fewer than three belong to it; of three to five
the last three end it. -/
def closingQuotes? (quote : Char) (input : List Char) : Option (List Char × List Char) :=
  let n := (input.takeWhile (· == quote)).length
  if n < 3 then none
  else
    let kept := min (n - 3) 2
    some (List.replicate kept quote, input.drop (kept + 3))

/-- Behind a backslash at the end of a line, the blanks before the next character do not count. -/
def foldLine? (input : List Char) : Option (List Char) :=
  match readBreak? (skipInline input) with
  | some rest => some (rest.dropWhile fun c => isInlineBlank c || c == '\n' || c == '\r')
  | none => none

/-- A text of several lines, with escapes if asked for, behind the opening quotes. -/
def readLong? (quote : Char) (escapes : Bool) : Nat → Reads (List Char)
  | 0, _ => none
  | n + 1, input =>
    match closingQuotes? quote input, readBreak? input, input with
    | some (content, rest), _, _ => some (content, rest)
    | none, some rest, _ => do
      let (cs, rest) ← readLong? quote escapes n rest
      return ('\n' :: cs, rest)
    | none, none, [] => none
    | none, none, c :: rest =>
      if escapes && c = '\\' then
        match foldLine? rest with
        | some rest => readLong? quote escapes n rest
        | none => do
          let (e, rest) ← readEscape? rest
          let (cs, rest) ← readLong? quote escapes n rest
          return (e :: cs, rest)
      else if isPlain c then do
        let (cs, rest) ← readLong? quote escapes n rest
        return (c :: cs, rest)
      else none

/-- The line break right behind the opening quotes does not count. -/
def dropFirstBreak (input : List Char) : List Char := (readBreak? input).getD input

def readString? : Reads (List Char)
  | '"' :: '"' :: '"' :: rest => readLong? '"' true (rest.length + 1) (dropFirstBreak rest)
  | '\'' :: '\'' :: '\'' :: rest => readLong? '\'' false (rest.length + 1) (dropFirstBreak rest)
  | '"' :: rest => readBasic? (rest.length + 1) rest
  | '\'' :: rest => readLiteral? rest
  | _ => none

def isBareKey (c : Char) : Bool := c.isAlphanum || c == '_' || c == '-'

def readKey? : Reads String := fun input =>
  match input with
  | '"' :: rest => (readBasic? (rest.length + 1) rest).map fun r => (String.ofList r.1, r.2)
  | '\'' :: rest => (readLiteral? rest).map fun r => (String.ofList r.1, r.2)
  | rest =>
    match rest.takeWhile isBareKey with
    | [] => none
    | name => some (String.ofList name, rest.dropWhile isBareKey)

/-- Keys joined by dots, with blanks around them. -/
def readKeys? : Nat → Reads (List String)
  | 0, _ => none
  | n + 1, input => do
    let (name, rest) ← readKey? (skipInline input)
    match skipInline rest with
    | '.' :: rest => do
      let (names, rest) ← readKeys? n rest
      return (name :: names, rest)
    | rest => return ([name], rest)

def readKeyPath? : Reads (List String) := fun input => readKeys? (input.length + 1) input

/-- Digits of a base with single underscores between them; the digits are kept. -/
def readGrouped? (isDigit : Char → Bool) : Reads (List Char) := fun input =>
  let run := input.takeWhile fun c => isDigit c || c == '_'
  let rest := input.drop run.length
  let groups := (String.ofList run).splitOn "_"
  if groups.any (·.isEmpty) then none else some (groups.flatMap (·.toList), rest)

/-- An integer written in a base. -/
def readBase? (base : Nat) : Reads Toml := fun input => do
  let isDigit (c : Char) : Bool := (hexDigit? c).any (· < base)
  let (digits, rest) ← readGrouped? isDigit input
  let n := digits.foldl (fun a c => base * a + (hexDigit? c).getD 0) 0
  if n < Nat.pow 2 63 then some (.int n, rest) else none

/-- Decimal digits without a needless zero before them. -/
def readWhole? : Reads (List Char) := fun input => do
  let (digits, rest) ← readGrouped? Char.isDigit input
  match digits with
  | '0' :: _ :: _ => none
  | digits => some (digits, rest)

def readSign : List Char → Bool × List Char
  | '-' :: rest => (true, rest)
  | '+' :: rest => (false, rest)
  | rest => (false, rest)

/-- The exponent behind its mark. -/
def readPower? : Reads Int := fun input => do
  let (negative, rest) := readSign input
  let (digits, rest) ← readGrouped? Char.isDigit rest
  let n : Int := natOfDigits digits
  return (if negative then -n else n, rest)

/-- What stands behind the whole part of a float. -/
def readFraction? (negative : Bool) (whole : List Char) : Reads Toml := fun input =>
  let finish (fraction : List Char) (power : Int) : Toml :=
    .float (Decimal.toFloat ⟨natOfDigits (whole ++ fraction), power - fraction.length⟩ negative)
  let isMark (c : Char) : Bool := c == 'e' || c == 'E'
  let withPower (fraction input : List Char) : Option (Toml × List Char) :=
    match input with
    | c :: rest =>
      if isMark c then do
        let (p, rest) ← readPower? rest
        return (finish fraction p, rest)
      else some (finish fraction 0, input)
    | [] => some (finish fraction 0, [])
  match input with
  | '.' :: rest => do
    let (fraction, rest) ← readGrouped? Char.isDigit rest
    withPower fraction rest
  | c :: _ => if isMark c then withPower [] input else none
  | [] => none

/-- A decimal number with its sign: a float if a fraction or an exponent follows. -/
def readDecimal? : Reads Toml := fun input => do
  let (negative, rest) := readSign input
  match rest with
  | 'i' :: 'n' :: 'f' :: rest => some (.float (infinity negative), rest)
  | 'n' :: 'a' :: 'n' :: rest => some (.float notANumber, rest)
  | rest => do
    let (whole, rest) ← readWhole? rest
    match rest with
    | c :: _ =>
      if c = '.' || c = 'e' || c = 'E' then readFraction? negative whole rest
      else integer negative whole rest
    | [] => integer negative whole rest
where
  integer (negative : Bool) (whole rest : List Char) : Option (Toml × List Char) :=
    let n : Int := natOfDigits whole
    let i := if negative then -n else n
    if -Int.pow 2 63 ≤ i ∧ i < Int.pow 2 63 then some (.int i, rest) else none

def readNumber? : Reads Toml
  | '0' :: 'x' :: rest => readBase? 16 rest
  | '0' :: 'o' :: rest => readBase? 8 rest
  | '0' :: 'b' :: rest => readBase? 2 rest
  | input => readDecimal? input

/-- A number of exactly `width` digits between bounds. -/
def readField? (width low high : Nat) : Reads Nat := fun input =>
  let digits := input.take width
  let n := natOfDigits digits
  if digits.length = width && digits.all Char.isDigit && low ≤ n && n ≤ high then
    some (n, input.drop width)
  else none

def readMark? (c : Char) : List Char → Option (List Char)
  | d :: rest => if d = c then some rest else none
  | [] => none

def readDay? (input : List Char) : Option (List Char) := do
  let (year, rest) ← readField? 4 0 9999 input
  let rest ← readMark? '-' rest
  let (month, rest) ← readField? 2 1 12 rest
  let rest ← readMark? '-' rest
  let (_, rest) ← readField? 2 1 (daysInMonth year month) rest
  return rest

/-- Digits of a second behind the point. -/
def readSubsecond? (input : List Char) : Option (List Char) :=
  match input with
  | '.' :: rest =>
    match rest.takeWhile Char.isDigit with
    | [] => none
    | _ => some (rest.dropWhile Char.isDigit)
  | rest => some rest

def readTime? (input : List Char) : Option (List Char) := do
  let (_, rest) ← readField? 2 0 23 input
  let rest ← readMark? ':' rest
  let (_, rest) ← readField? 2 0 59 rest
  let rest ← readMark? ':' rest
  let (_, rest) ← readField? 2 0 60 rest
  readSubsecond? rest

/-- The distance from universal time, if there is one. -/
def readOffset? (input : List Char) : Option (List Char) :=
  let clock (rest : List Char) : Option (List Char) := do
    let (_, rest) ← readField? 2 0 23 rest
    let rest ← readMark? ':' rest
    let (_, rest) ← readField? 2 0 59 rest
    return rest
  match input with
  | 'Z' :: rest => some rest
  | 'z' :: rest => some rest
  | '+' :: rest => clock rest
  | '-' :: rest => clock rest
  | rest => some rest

/-- A day, a day with a time, or a time. -/
def readMoment? : Reads Toml := fun input => do
  let rest ←
    match readDay? input with
    | none => readTime? input
    | some rest =>
      match rest with
      | c :: after =>
        if c = 'T' || c = 't' then do readOffset? (← readTime? after)
        else if c = ' ' then
          match readTime? after with
          | some rest => readOffset? rest
          | none => some (c :: after)
        else some (c :: after)
      | [] => some []
  return (.moment (String.ofList (input.take (input.length - rest.length))), rest)

def readScalar? : Reads Toml
  | 't' :: 'r' :: 'u' :: 'e' :: rest => some (.bool true, rest)
  | 'f' :: 'a' :: 'l' :: 's' :: 'e' :: rest => some (.bool false, rest)
  | '"' :: rest => (readString? ('"' :: rest)).map fun r => (.text (String.ofList r.1), r.2)
  | '\'' :: rest => (readString? ('\'' :: rest)).map fun r => (.text (String.ofList r.1), r.2)
  | input => (readMoment? input).or (readNumber? input)

/-- Items of a list up to its bracket; a comma may stand behind the last one. -/
def readItems? (value : Reads Toml) : Nat → Reads (List Toml)
  | 0, _ => none
  | n + 1, input =>
    match skipAll input with
    | ']' :: rest => some ([], rest)
    | rest => do
      let (v, rest) ← value rest
      match skipAll rest with
      | ',' :: rest => do
        let (vs, rest) ← readItems? value n rest
        return (v :: vs, rest)
      | ']' :: rest => return ([v], rest)
      | _ => none

/-- A key path, an equals sign and a value. -/
def readAssignment? (value : Reads Toml) : Reads (List String × Toml) := fun input => do
  let (path, rest) ← readKeyPath? input
  match rest with
  | '=' :: rest => do
    let (v, rest) ← value (skipInline rest)
    return ((path, v), rest)
  | _ => none

/-- Assignments up to the closing brace, at least one of them, all on one line. -/
def readInline? (value : Reads Toml) : Nat → Draft.Entries → Reads Draft.Entries
  | 0, _, _ => none
  | n + 1, entries, input => do
    let ((path, v), rest) ← readAssignment? value input
    let entries ← assign? [] path v entries
    match skipInline rest with
    | ',' :: rest => readInline? value n entries rest
    | '\x7d' :: rest => return (entries, rest)
    | _ => none

/-- Values nest less than this. -/
def depthLimit : Nat := 80

def readValue? : Nat → Reads Toml
  | 0, _ => none
  | depth + 1, input =>
    match input with
    | '[' :: rest =>
      (readItems? (readValue? depth) (rest.length + 1) rest).map fun r => (.list r.1, r.2)
    | '\x7b' :: rest =>
      match skipInline rest with
      | '\x7d' :: rest => some (.table [], rest)
      | rest =>
        (readInline? (readValue? depth) (rest.length + 1) [] rest).map fun r =>
          (.table (closeEntries r.1), r.2)
    | input => readScalar? input

/-- The document so far, and the path of the present header. -/
structure Reading where
  root : Draft.Entries
  header : List String

/-- A header or an assignment. -/
def readStatement? (r : Reading) : Reads Reading
  | '[' :: '[' :: rest => do
    let (path, rest) ← readKeyPath? rest
    let root ← append? path r.root
    match rest with
    | ']' :: ']' :: rest => return (⟨root, path⟩, rest)
    | _ => none
  | '[' :: rest => do
    let (path, rest) ← readKeyPath? rest
    let root ← open? path r.root
    match rest with
    | ']' :: rest => return (⟨root, path⟩, rest)
    | _ => none
  | input => do
    let ((path, v), rest) ← readAssignment? (readValue? depthLimit) input
    let root ← assign? r.header path v r.root
    return ({ r with root := root }, rest)

/-- Lines to the end of the text; the first argument bounds their number. -/
def readDocument? : Nat → Reading → List Char → Option Reading
  | 0, _, _ => none
  | n + 1, r, input =>
    match skipAll input with
    | [] => some r
    | rest => do
      let (r, rest) ← readStatement? r rest
      match skipComment (skipInline rest) with
      | [] => some r
      | rest => readDocument? n r (← readBreak? rest)

/-- The table of a document; a byte order mark may stand before it. -/
def read? (document : String) : Option Toml := do
  let input :=
    match document.toList with
    | '\ufeff' :: rest => rest
    | input => input
  let r ← readDocument? (input.length + 1) ⟨[], []⟩ input
  return .table (closeEntries r.root)

end Toml
end FormLogic
