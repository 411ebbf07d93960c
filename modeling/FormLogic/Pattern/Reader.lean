import FormLogic.Number.Decimal
import FormLogic.Pattern.Tree
import FormLogic.Text.Blank

/-!
# FormLogic.Pattern.Reader

Reading patterns.

* `Mode`: the flags that bear on how a pattern is read;
* `readEscape?`: what a backslash introduces;
* `readSet?`: a class in brackets, with nested classes and operators between them;
* `readBranches?`: the branches of a group;
* `read?`: a whole pattern, which may neither nest nor grow beyond bounds.
-/

namespace FormLogic
namespace Pattern

open Number Text

/-- The flags that hold at a place of a pattern. -/
structure Mode where
  caseless : Bool := false
  multiline : Bool := false
  dotAll : Bool := false
  returns : Bool := false
  spaced : Bool := false
  unicode : Bool := true
deriving DecidableEq, Repr

/-- Sets the flag of a letter. -/
def Mode.set (m : Mode) (flag : Char × Bool) : Mode :=
  match flag.1 with
  | 'i' => { m with caseless := flag.2 }
  | 'm' => { m with multiline := flag.2 }
  | 's' => { m with dotAll := flag.2 }
  | 'R' => { m with returns := flag.2 }
  | 'x' => { m with spaced := flag.2 }
  | 'u' => { m with unicode := flag.2 }
  | _ => m

/-- Blanks and comments, which run to the end of their lines, are left out. -/
def skipSpaced (inComment : Bool) : List Char → List Char
  | [] => []
  | c :: rest =>
    if inComment then skipSpaced (c ≠ '\n') rest
    else if isBlank c then skipSpaced false rest
    else if c = '#' then skipSpaced true rest
    else c :: rest

/-- The input up to the next character that counts. -/
def Mode.skip (m : Mode) (input : List Char) : List Char :=
  if m.spaced then skipSpaced false input else input

/-- What stands for itself, a set or a condition. -/
inductive Atom where
  | char (c : Char)
  | set (s : CharSet)
  | look (l : Look)

/-- Up to a number of hexadecimal digits. -/
def readHexDigits? (m : Mode) : Nat → Nat → List Char → Option (Nat × List Char)
  | 0, value, input => some (value, input)
  | _ + 1, _, [] => none
  | n + 1, value, c :: rest => do
    let d ← hexDigit? c
    readHexDigits? m n (16 * value + d) (m.skip rest)

/-- Hexadecimal digits up to a closing brace; the first argument bounds their number. -/
def readBracedHex? (m : Mode) : Nat → Nat → List Char → Option (Nat × List Char)
  | 0, _, _ => none
  | _ + 1, _, [] => none
  | n + 1, value, c :: rest =>
    if c = '\x7d' then some (value, m.skip rest)
    else do
      let d ← hexDigit? c
      readBracedHex? m n (16 * value + d) (m.skip rest)

def charOfCode? (n : Nat) : Option Char :=
  if n < 0xD800 ∨ 0xDFFF < n ∧ n < 0x110000 then some (Char.ofNat n) else none

/-- The character of a code point in hexadecimal, in braces or with a fixed number of digits. -/
def readCode? (m : Mode) (digits : Nat) (input : List Char) : Option (Char × List Char) := do
  match m.skip input with
  | '\x7b' :: rest =>
    match m.skip rest with
    | '\x7d' :: _ => none
    | rest => do
      let (n, rest) ← readBracedHex? m (rest.length + 1) 0 rest
      return (← charOfCode? n, rest)
  | rest => do
    let (n, rest) ← readHexDigits? m digits 0 rest
    return (← charOfCode? n, rest)

/-- In a mode without Unicode, a code in two digits is a byte, and a byte is no character. -/
def readByteCode? (m : Mode) (input : List Char) : Option (Char × List Char) := do
  let (c, rest) ← readCode? m 2 input
  if !m.unicode && 0x7F < c.toNat && c.toNat ≤ 0xFF then none else some (c, rest)

/-- The text up to a closing brace. -/
def readBraced? (m : Mode) : Nat → List Char → Option (List Char × List Char)
  | 0, _ => none
  | _ + 1, [] => none
  | n + 1, c :: rest =>
    if c = '\x7d' then some ([], rest)
    else do
      let (cs, rest) ← readBraced? m n (m.skip rest)
      return (c :: cs, rest)

/-- Closes a set under case if case does not matter, then excludes it if it is negated. -/
def Mode.finish (m : Mode) (negated : Bool) (s : CharSet) : CharSet :=
  let s := if m.caseless then .caseless s else s
  let s := if m.unicode then s else .inter .ascii s
  if negated then .complement s else s

/-- The set of a property, by one letter or in braces. -/
def readProperty? (m : Mode) (negated : Bool) (input : List Char) :
    Option (CharSet × List Char) := do
  if !m.unicode then none
  else
    match m.skip input with
    | [] => none
    | '\x7b' :: rest => do
      let (name, rest) ← readBraced? m (rest.length + 1) (m.skip rest)
      let (s, excluded) ← CharSet.ofProperty? name
      return (m.finish (negated != excluded) s, rest)
    | c :: rest =>
      if c = '\\' then none
      else do
        let s ← CharSet.ofName? [c]
        return (m.finish negated s, m.skip rest)

def Mode.digits (m : Mode) : CharSet :=
  .ofTable (if m.unicode then CharSet.decimalDigits else CharSet.asciiDigits)

def Mode.blanks (m : Mode) : CharSet :=
  .ofTable (if m.unicode then CharSet.blanks else CharSet.asciiBlanks)

def Mode.word (m : Mode) : CharSet :=
  if m.unicode then .tables wordTables else .ofTable CharSet.asciiWord

/-- Characters that a backslash makes stand for themselves. -/
def isEscapable (c : Char) : Bool :=
  c.toNat < 128 && !c.isAlphanum && c != '<' && c != '>'

def isBoundaryName (c : Char) : Bool := c.isAlpha || c == '-'

/-- The letters and hyphens that come first. -/
def readBoundaryName (m : Mode) : Nat → List Char → List Char × List Char
  | 0, input => ([], input)
  | _ + 1, [] => ([], [])
  | n + 1, c :: rest =>
    if isBoundaryName c then
      let (cs, rest) := readBoundaryName m n (m.skip rest)
      (c :: cs, rest)
    else ([], c :: rest)

/-- The condition of a named word boundary. -/
def Mode.namedBoundary? (m : Mode) (name : String) : Option Look :=
  match name with
  | "start" => some (.wordStart m.word)
  | "end" => some (.wordEnd m.word)
  | "start-half" => some (.wordStartHalf m.word)
  | "end-half" => some (.wordEndHalf m.word)
  | _ => none

/-- A word boundary; a name in braces tells which kind, but a count in braces does not belong to
it. -/
def readBoundary? (m : Mode) (input : List Char) : Option (Look × List Char) :=
  match input with
  | '\x7b' :: rest =>
    match m.skip rest with
    | [] => none
    | c :: more =>
      if isBoundaryName c then
        let (name, after) := readBoundaryName m (more.length + 2) (c :: more)
        match after with
        | '\x7d' :: after => do return (← m.namedBoundary? (String.ofList name), after)
        | _ => none
      else some (.wordBoundary m.word, input)
  | _ => some (.wordBoundary m.word, input)

/-- What stands behind a backslash. -/
def readEscape? (m : Mode) : List Char → Option (Atom × List Char)
  | [] => none
  | c :: rest =>
    match c with
    | 'x' => (readByteCode? m rest).map fun r => (.char r.1, r.2)
    | 'u' => (readCode? m 4 rest).map fun r => (.char r.1, r.2)
    | 'U' => (readCode? m 8 rest).map fun r => (.char r.1, r.2)
    | 'p' => (readProperty? m false rest).map fun r => (.set r.1, r.2)
    | 'P' => (readProperty? m true rest).map fun r => (.set r.1, r.2)
    | 'd' => some (.set m.digits, rest)
    | 'D' => some (.set (.complement m.digits), rest)
    | 's' => some (.set m.blanks, rest)
    | 'S' => some (.set (.complement m.blanks), rest)
    | 'w' => some (.set m.word, rest)
    | 'W' => some (.set (.complement m.word), rest)
    | 'a' => some (.char '\x07', rest)
    | 'f' => some (.char '\x0c', rest)
    | 't' => some (.char '\t', rest)
    | 'n' => some (.char '\n', rest)
    | 'r' => some (.char '\r', rest)
    | 'v' => some (.char '\x0b', rest)
    | 'A' => some (.look .textStart, rest)
    | 'z' => some (.look .textEnd, rest)
    | 'b' => (readBoundary? m rest).map fun r => (.look r.1, r.2)
    | 'B' => some (.look (.notWordBoundary m.word), rest)
    | '<' => some (.look (.wordStart m.word), rest)
    | '>' => some (.look (.wordEnd m.word), rest)
    | c => if isEscapable c then some (.char c, rest) else none

/-! ### Classes in brackets -/

/-- A part of a pattern, and how deep it nests. -/
structure Nested (α : Type) where
  part : α
  depth : Nat

def deepest {α : Type} (parts : List (Nested α)) : Nat :=
  parts.foldl (fun d p => max d p.depth) 0

/-- The union of the items of a class. -/
def uniteItems : List (Nested CharSet) → Nested CharSet
  | [item] => item
  | [] => ⟨.nothing, 0⟩
  | items => ⟨.unionAll (items.map (·.part)), deepest items + 1⟩

/-- Operators between the parts of a class. -/
inductive SetOp where
  | inter
  | difference
  | symmetric

def SetOp.apply (op : SetOp) (a b : CharSet) : CharSet :=
  match op with
  | .inter => .inter a b
  | .difference => .difference a b
  | .symmetric => .union (.difference a b) (.difference b a)

/-- Joins the operand in front of the present one, if there is one. -/
def joinOperands (m : Mode) (left : Option (SetOp × Nested CharSet)) (right : Nested CharSet) :
    Nested CharSet :=
  match left with
  | none => right
  | some (op, l) => ⟨op.apply (m.finish false l.part) (m.finish false right.part),
      max l.depth right.depth + 1⟩

/-- A character that is written as it is or by an escape. -/
def readSetAtom? (m : Mode) : List Char → Option (Atom × List Char)
  | '\\' :: rest => readEscape? m rest
  | c :: rest => some (.char c, rest)
  | [] => none

def Mode.literal? (m : Mode) (c : Char) : Option CharSet :=
  if !m.unicode && 0x7F < c.toNat then none else some (.single c)

def Mode.range? (m : Mode) (low high : Char) : Option CharSet :=
  if high < low ∨ (!m.unicode && 0x7F < high.toNat) then none
  else some (.range low.toNat high.toNat)

def Mode.atomSet? (m : Mode) : Atom → Option CharSet
  | .char c => m.literal? c
  | .set s => some s
  | .look _ => none

/-- The character behind a hyphen. -/
def peekBehindHyphen (m : Mode) (rest : List Char) : Option Char :=
  if m.spaced then
    match rest.dropWhile isBlank with
    | '#' :: comment => (comment.dropWhile isBlank).head?
    | rest => rest.head?
  else rest.head?

/-- An item of a class: a range, a character or a set. -/
def readItem? (m : Mode) (input : List Char) : Option (CharSet × List Char) := do
  let (first, rest) ← readSetAtom? m input
  match m.skip rest with
  | '-' :: behind =>
    let next := peekBehindHyphen m behind
    if next = some ']' || next = some '-' then return (← m.atomSet? first, '-' :: behind)
    else do
      let (last, rest) ← readSetAtom? m (m.skip behind)
      match first, last with
      | .char low, .char high => return (← m.range? low high, rest)
      | _, _ => none
  | rest => return (← m.atomSet? first, rest)

/-- A class by name, between brackets with colons, behind the opening bracket. -/
def readNamedClass? (m : Mode) (input : List Char) : Option (CharSet × List Char) :=
  match input with
  | ':' :: rest =>
    let (negated, rest) :=
      match rest with
      | '^' :: rest => (true, rest)
      | rest => (false, rest)
    match rest.dropWhile (· ≠ ':') with
    | ':' :: ']' :: after => do
      let s ← CharSet.ofClassName? (String.ofList (rest.takeWhile (· ≠ ':')))
      return (m.finish negated s, after)
    | _ => none
  | _ => none

/-- Hyphens that come first stand for themselves. -/
def readHyphens (m : Mode) : Nat → List Char → List (Nested CharSet) × List Char
  | 0, input => ([], input)
  | n + 1, '-' :: rest =>
    let (items, rest) := readHyphens m n (m.skip rest)
    (⟨.single '-', 0⟩ :: items, rest)
  | _ + 1, input => ([], input)

/-- Whether a class is negated, its first items, and the rest.  Hyphens may come first, or else a
closing bracket that stands for itself. -/
def openSet (m : Mode) (input : List Char) : Bool × List (Nested CharSet) × List Char :=
  let input := m.skip input
  let (negated, input) :=
    match input with
    | '^' :: rest => (true, m.skip rest)
    | rest => (false, rest)
  match readHyphens m (input.length + 1) input with
  | ([], ']' :: rest) => (negated, [⟨.single ']', 0⟩], m.skip rest)
  | (items, rest) => (negated, items, rest)

/-- The items of a class up to its closing bracket.  The first argument bounds their number, the
operand in front and the items so far follow. -/
def readItems? (m : Mode) : Nat → Option (SetOp × Nested CharSet) → List (Nested CharSet) →
    List Char → Option (Nested CharSet × List Char)
  | 0, _, _, _ => none
  | n + 1, left, items, input =>
    let operand : Unit → Nested CharSet := fun _ => joinOperands m left (uniteItems items)
    match m.skip input with
    | [] => none
    | '[' :: rest =>
      match readNamedClass? m rest with
      | some (s, rest) => readItems? m n left (items ++ [⟨s, 0⟩]) rest
      | none =>
        let (negated, first, rest) := openSet m rest
        match readItems? m n none first rest with
        | none => none
        | some (inner, rest) =>
          readItems? m n left (items ++ [⟨m.finish negated inner.part, inner.depth + 1⟩]) rest
    | ']' :: rest => some (operand (), rest)
    | '&' :: '&' :: rest => readItems? m n (some (.inter, operand ())) [] rest
    | '-' :: '-' :: rest => readItems? m n (some (.difference, operand ())) [] rest
    | '~' :: '~' :: rest => readItems? m n (some (.symmetric, operand ())) [] rest
    | input => do
      let (s, rest) ← readItem? m input
      readItems? m n left (items ++ [⟨s, 0⟩]) rest

/-- A set as a pattern.  Without Unicode it may not reach beyond the first 128 characters. -/
def Mode.setTree? (m : Mode) (s : CharSet) : Option Tree :=
  if !m.unicode && s.leavesAscii then none else some (.one s)

/-- A class behind its opening bracket. -/
def readSet? (m : Mode) (input : List Char) : Option (Nested Tree × List Char) := do
  let (negated, first, rest) := openSet m input
  let (inner, rest) ← readItems? m (rest.length + 1) none first rest
  return (⟨← m.setTree? (m.finish negated inner.part), inner.depth + 1⟩, rest)

/-! ### Groups and repetitions -/

/-- The place where reading has arrived: the flags, the names of groups so far and the rest. -/
structure Place where
  mode : Mode
  names : List (List Char)
  rest : List Char

/-- The place where this rest is left. -/
def Place.goTo (p : Place) (rest : List Char) : Place := { p with rest := rest }

/-- Parts that follow each other, the latest first; flags leave an empty place. -/
abbrev Parts := List (Option (Nested Tree))

def joinParts (parts : Parts) : Nested Tree :=
  match parts with
  | [] => ⟨.empty, 0⟩
  | [some part] => part
  | parts =>
    let present := parts.reverse.filterMap id
    ⟨.seqAll (present.map (·.part)), deepest present + (if parts.length < 2 then 0 else 1)⟩

/-- Branches, the latest first. -/
def joinBranches (last : Nested Tree) : List (Nested Tree) → Nested Tree
  | [] => last
  | first :: others =>
    let branches := (last :: first :: others).reverse
    match branches.map (·.part) with
    | [] => last
    | t :: ts => ⟨.altAll t ts, deepest branches + 1⟩

/-- What the head of a group says. -/
inductive GroupHead where
  | flags (mode : Mode)
  | inner (mode : Mode) (name : Option (List Char))

/-- Flags up to the colon or parenthesis behind them. -/
def readFlags? (negated dangling : Bool) (flags : List (Char × Bool)) :
    List Char → Option (List (Char × Bool) × List Char)
  | [] => none
  | c :: rest =>
    if c = ':' || c = ')' then if dangling then none else some (flags, c :: rest)
    else if c = '-' then if negated then none else readFlags? true true flags rest
    else if c ∈ ['i', 'm', 's', 'U', 'u', 'R', 'x'] && !flags.any (·.1 == c) then
      readFlags? negated false (flags ++ [(c, !negated)]) rest
    else none

def isNameStart (c : Char) : Bool := c == '_' || isAlphabetic c

def isNamePart (c : Char) : Bool :=
  c == '_' || c == '.' || c == '[' || c == ']' || isAlphabetic c || isNumeric c

/-- The name of a group, behind the angle bracket. -/
def readGroupName? (names : List (List Char)) (input : List Char) :
    Option (List Char × List Char) :=
  match input.takeWhile (· ≠ '>'), input.dropWhile (· ≠ '>') with
  | first :: others, '>' :: rest =>
    if isNameStart first && others.all isNamePart && first :: others ∉ names then
      some (first :: others, rest)
    else none
  | _, _ => none

/-- The head of a group, behind its parenthesis. -/
def readGroupHead? (m : Mode) (names : List (List Char)) (input : List Char) :
    Option (GroupHead × List Char) :=
  match input with
  | '?' :: 'P' :: '<' :: rest | '?' :: '<' :: rest => do
    let (name, rest) ← readGroupName? names rest
    return (.inner m (some name), rest)
  | '?' :: rest => do
    let (flags, rest) ← readFlags? false false [] rest
    let mode := flags.foldl Mode.set m
    match rest with
    | ':' :: rest => return (.inner mode none, rest)
    | _ :: rest => if flags.isEmpty then none else return (.flags mode, rest)
    | [] => none
  | rest => some (.inner m none, rest)

/-- A decimal number below 2^32 with blanks around it. -/
def readCount? (m : Mode) (input : List Char) : Option (Nat × List Char) :=
  let input := input.dropWhile isBlank
  let rec digits : Nat → List Char → List Char × List Char
    | 0, input => ([], input)
    | _ + 1, [] => ([], [])
    | n + 1, c :: rest =>
      if c.isDigit then
        let (ds, rest) := digits n (m.skip rest)
        (c :: ds, rest)
      else ([], c :: rest)
  match digits (input.length + 1) input with
  | ([], _) => none
  | (ds, rest) =>
    if natOfDigits ds < Nat.pow 2 32 then
      some (natOfDigits ds, m.skip (rest.dropWhile isBlank))
    else none

/-- The bounds of a repetition behind the opening brace. -/
def readBounds? (m : Mode) (input : List Char) : Option ((Nat × Option Nat) × List Char) := do
  let (least, rest) ← readCount? m (m.skip input)
  match rest with
  | '\x7d' :: rest => return ((least, some least), m.skip rest)
  | ',' :: rest =>
    match m.skip rest with
    | '\x7d' :: rest => return ((least, none), m.skip rest)
    | rest => do
      let (most, rest) ← readCount? m rest
      match rest with
      | '\x7d' :: rest => if most < least then none else return ((least, some most), m.skip rest)
      | _ => none
  | _ => none

/-- A question mark behind a repetition makes it lazy, which does not matter. -/
def skipLazy : List Char → List Char
  | '?' :: rest => rest
  | rest => rest

/-- Repeats the latest part; flags cannot be repeated. -/
def repeatLatest? (parts : Parts) (least : Nat) (most : Option Nat) : Option Parts :=
  match parts with
  | some p :: others => some (some ⟨.times p.part least most, p.depth + 1⟩ :: others)
  | _ => none

/-- A character as a pattern. -/
def Mode.charTree (m : Mode) (c : Char) : Tree :=
  if m.caseless && (m.unicode || c.toNat < 128) then .one (m.finish false (.single c))
  else .one (.single c)

/-- Any character, or any but those that end a line. -/
def Mode.dotTree? (m : Mode) : Option Tree :=
  if !m.unicode then none
  else if m.dotAll then some (.one .everything)
  else if m.returns then
    some (.one (.complement (.union (.single '\n') (.single '\r'))))
  else some (.one (.complement (.single '\n')))

def Mode.startLook (m : Mode) : Look :=
  if !m.multiline then .textStart else if m.returns then .returnStart else .lineStart

def Mode.endLook (m : Mode) : Look :=
  if !m.multiline then .textEnd else if m.returns then .returnEnd else .lineEnd

def Mode.atomTree? (m : Mode) : Atom → Option Tree
  | .char c => some (m.charTree c)
  | .set s => m.setTree? s
  | .look l => some (.look l)

/-- A part that is neither a group nor a class nor a repetition. -/
def readPrimitive? (m : Mode) : List Char → Option (Tree × List Char)
  | [] => none
  | c :: rest =>
    match c with
    | '\\' => do
      let (a, rest) ← readEscape? m rest
      return (← m.atomTree? a, rest)
    | '.' => m.dotTree?.map (·, rest)
    | '^' => some (.look m.startLook, rest)
    | '$' => some (.look m.endLook, rest)
    | c => some (m.charTree c, rest)

/-- The branches of a group up to its end.  The first argument bounds the number of parts; the
parts of the present branch and the branches before it follow, the latest first. -/
def readBranches? : Nat → Place → Parts → List (Nested Tree) → Option (Nested Tree × Place)
  | 0, _, _, _ => none
  | n + 1, place, parts, branches =>
    let m := place.mode
    match m.skip place.rest with
    | [] => some (joinBranches (joinParts parts) branches, place.goTo [])
    | ')' :: rest => some (joinBranches (joinParts parts) branches, place.goTo (')' :: rest))
    | '|' :: rest => readBranches? n (place.goTo rest) [] (joinParts parts :: branches)
    | '(' :: rest =>
      match readGroupHead? m place.names (m.skip rest) with
      | none => none
      | some (.flags mode, rest) =>
        readBranches? n { place.goTo rest with mode := mode } (none :: parts) branches
      | some (.inner mode name, rest) =>
        match readBranches? n ⟨mode, name.toList ++ place.names, rest⟩ [] [] with
        | some (inner, ⟨_, names, ')' :: rest⟩) =>
          readBranches? n ⟨m, names, rest⟩ (some ⟨inner.part, inner.depth + 1⟩ :: parts) branches
        | _ => none
    | '[' :: rest => do
      let (s, rest) ← readSet? m rest
      readBranches? n (place.goTo rest) (some s :: parts) branches
    | '?' :: rest => do
      readBranches? n (place.goTo (skipLazy rest)) (← repeatLatest? parts 0 (some 1)) branches
    | '*' :: rest => do
      readBranches? n (place.goTo (skipLazy rest)) (← repeatLatest? parts 0 none) branches
    | '+' :: rest => do
      readBranches? n (place.goTo (skipLazy rest)) (← repeatLatest? parts 1 none) branches
    | '\x7b' :: rest => do
      let (bounds, rest) ← readBounds? m rest
      readBranches? n (place.goTo (skipLazy rest))
        (← repeatLatest? parts bounds.1 bounds.2) branches
    | input => do
      let (t, rest) ← readPrimitive? m input
      readBranches? n (place.goTo rest) (some ⟨t, 0⟩ :: parts) branches

/-- Patterns nest at most this deep. -/
def depthLimit : Nat := 250

/-- Patterns take at most this much room. -/
def weightLimit : Nat := 10 * Nat.pow 2 20

/-- The pattern that a text stands for. -/
def read? (text : String) : Option Tree := do
  let input := text.toList
  match ← readBranches? (input.length + 1) ⟨{}, [], input⟩ [] [] with
  | (t, ⟨_, _, []⟩) =>
    if t.depth ≤ depthLimit && t.part.weight ≤ weightLimit then some t.part else none
  | _ => none

end Pattern
end FormLogic
