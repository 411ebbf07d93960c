import FormLogic.Json.Codec
import FormLogic.Json.Reader

/-!
# FormLogic.Json.Stream

Typed values read from JSON text in the order of the text.

* `Stream`: what reads a value of a type from the rest of a text;
* `Stream.text`, `Stream.bool`, `Stream.list`, `Stream.dict`, `Stream.record`: streams of types;
* `Stream.run`: reads a whole text; a misfit is reported with its line and column.
-/

namespace FormLogic
namespace Json

/-- Why a text has no value of a type; a misfit is met in front of a rest of the text. -/
inductive StreamFault where
  | malformed
  | misfit (why : Misfit) (rest : List Char)
deriving DecidableEq, Repr

/-- What reads a value from the rest of a text. -/
abbrev Stream (α : Type) := List Char → Except StreamFault (α × List Char)

/-- Why a value is not what is expected.  Lists and objects are left unread. -/
def unfitAt (expected : String) (input : List Char) : StreamFault :=
  match input with
  | '[' :: _ => .misfit (.wrongType "sequence" expected) input
  | '\x7b' :: _ => .misfit (.wrongType "map" expected) input
  | _ =>
    match readScalar? input with
    | some (j, rest) => .misfit (.wrongType j.describe expected) rest
    | none => .malformed

/-- The rest behind a closing sign, if that comes next. -/
def skipClosing (sign : Char) (input : List Char) : List Char :=
  match skipGap input with
  | c :: rest => if c = sign then rest else c :: rest
  | [] => []

namespace Stream

def ofOption {α : Type} : Option (α × List Char) → Except StreamFault (α × List Char)
  | some r => .ok r
  | none => .error .malformed

/-- Any value. -/
def value : Stream Json := fun input => ofOption (readValue? depthLimit input)

def text : Stream String := fun input =>
  match skipGap input with
  | '"' :: rest => ofOption (readText? rest)
  | input => .error (unfitAt "a string" input)

def bool : Stream Bool := fun input =>
  match skipGap input with
  | 't' :: 'r' :: 'u' :: 'e' :: rest => .ok (true, rest)
  | 'f' :: 'a' :: 'l' :: 's' :: 'e' :: rest => .ok (false, rest)
  | input => .error (unfitAt "a boolean" input)

/-- Further items of a list up to its end; the first argument bounds their number. -/
def items {α : Type} (item : Stream α) : Nat → Stream (List α)
  | 0, _ => .error .malformed
  | n + 1, input =>
    match skipGap input with
    | ']' :: rest => .ok ([], rest)
    | ',' :: rest => do
      let (a, rest) ← item rest
      let (as, rest) ← items item n rest
      return (a :: as, rest)
    | _ => .error .malformed

def list {α : Type} (item : Stream α) : Stream (List α) := fun input =>
  match skipGap input with
  | '[' :: rest =>
    match skipGap rest with
    | ']' :: rest => .ok ([], rest)
    | _ => do
      let (a, rest) ← item rest
      let (as, rest) ← items item (rest.length + 1) rest
      return (a :: as, rest)
  | input => .error (unfitAt "a sequence" input)

/-- The name of a member. -/
def name : Stream String := fun input =>
  match skipGap input with
  | '"' :: rest => ofOption (readText? rest)
  | _ => .error .malformed

/-- What follows the colon behind a name. -/
def behindColon {α : Type} (value : Stream α) : Stream α := fun input =>
  match skipGap input with
  | ':' :: rest => value rest
  | _ => .error .malformed

/-- Further members of an object up to its end; the first argument bounds their number.  What reads
a member is given what has been read before it. -/
def members {σ : Type} (member : σ → Stream σ) : Nat → σ → Stream σ
  | 0, _, _ => .error .malformed
  | n + 1, acc, input =>
    match skipGap input with
    | '\x7d' :: rest => .ok (acc, rest)
    | ',' :: rest => do
      let (acc, rest) ← member acc rest
      members member n acc rest
    | _ => .error .malformed

/-- The members of an object behind its opening brace. -/
def object {σ : Type} (member : σ → Stream σ) (start : σ) : Stream σ := fun input =>
  match skipGap input with
  | '\x7d' :: rest => .ok (start, rest)
  | _ => do
    let (acc, rest) ← member start input
    members member (rest.length + 1) acc rest

def dict {α : Type} (value : Stream α) : Stream (Dict α) := fun input =>
  match skipGap input with
  | '\x7b' :: rest =>
    object (fun d input => do
      let (key, rest) ← name input
      let (a, rest) ← behindColon value rest
      return (d.insert key a, rest)) ∅ rest
  | input => .error (unfitAt "a map" input)

/-- A member of a record, which has to be there: its name, and how it is read into the record. -/
structure Part (R : Type) where
  name : String
  read : R → Stream R

def Part.of {R α : Type} (name : String) (value : Stream α) (set : R → α → R) : Part R where
  name := name
  read r input := do
    let (a, rest) ← value input
    return (set r a, rest)

/-- Reads a member into a record, once; members without a part do not matter. -/
def member {R : Type} (parts : List (Part R)) (acc : R × List String) :
    Stream (R × List String) := fun input => do
  let (key, rest) ← name input
  match parts.find? (·.name == key) with
  | none =>
    let (_, rest) ← behindColon value rest
    return (acc, rest)
  | some p =>
    if key ∈ acc.2 then .error (.misfit (.repeated key) (skipClosing '\x7d' rest))
    else
      let (r, rest) ← behindColon (p.read acc.1) rest
      return ((r, key :: acc.2), rest)

/-- Reads the parts of a record from a list. -/
def positions {R : Type} (expected : String) (index : Nat) : List (Part R) → R → Stream R
  | [], r, input =>
    match skipGap input with
    | ']' :: rest => .ok (r, rest)
    | _ => .error .malformed
  | p :: parts, r, input =>
    match skipGap input with
    | ']' :: rest => .error (.misfit (.wrongLength index expected) rest)
    | input => do
      let rest ←
        if index = 0 then pure input
        else
          match input with
          | ',' :: rest =>
            if (skipGap rest).head? = some ']' then throw .malformed else pure rest
          | _ => throw .malformed
      let (r, rest) ← p.read r rest
      positions expected (index + 1) parts r rest

/-- A record: an object with all of its parts, or a list of them in order. -/
def record {R : Type} (type : String) (parts : List (Part R)) (start : R) : Stream R :=
  fun input =>
    match skipGap input with
    | '\x7b' :: rest => do
      let ((r, seen), rest) ← object (member parts) (start, []) rest
      match parts.find? (·.name ∉ seen) with
      | some p => .error (.misfit (.missing p.name) rest)
      | none => return (r, rest)
    | '[' :: rest =>
      positions ("struct " ++ type ++ " with " ++ toString parts.length ++ " elements") 0 parts
        start rest
    | input => .error (unfitAt ("struct " ++ type) input)

end Stream

/-- Why a text does not fit a type, and where that is seen. -/
inductive TextMisfit where
  | malformed
  | misfit (why : Misfit) (line column : Nat)
deriving DecidableEq, Repr

/-- The line and the column behind a part of a text; columns are counted in bytes from zero. -/
def placeBehind (read : List Char) : Nat × Nat :=
  let lastLine := (read.reverse.takeWhile (· ≠ '\n')).reverse
  (read.count '\n' + 1, (lastLine.map Char.utf8Size).foldr (· + ·) 0)

/-- What is said about a misfit; texts that are malformed are not described. -/
def TextMisfit.message? : TextMisfit → Option String
  | .malformed => none
  | .misfit why line column =>
    some (why.message ++ " at line " ++ toString line ++ " column " ++ toString column)

/-- Reads a whole text. -/
def Stream.run {α : Type} (stream : Stream α) (input : String) : Except TextMisfit α :=
  let chars := input.toList
  match stream chars with
  | .ok (a, rest) => if skipGap rest = [] then .ok a else .error .malformed
  | .error .malformed => .error .malformed
  | .error (.misfit why rest) =>
    let (line, column) := placeBehind (chars.take (chars.length - rest.length))
    .error (.misfit why line column)

end Json
end FormLogic
