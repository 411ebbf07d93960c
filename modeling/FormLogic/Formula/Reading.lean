import FormLogic.Formula.Lexeme
import FormLogic.Formula.Tree

/-!
# FormLogic.Formula.Reading

Reading tokens into a tree, loosest operators first:

* `conditional`: `test ? yes : no`, grouping to the right;
* `disjunction`, `conjunction`: `or ||` and `and &&`, grouping to the left;
* `negation`: `not !`;
* `comparison`, `additive`, `multiplicative`: grouping to the left;
* `signed`: `-` and `+` before an operand;
* `power`: `^`, grouping to the right;
* `primary`: literals, fields, calls and parentheses.

Nesting is bounded by `maxDepth`.  A parenthesis, an argument, a branch, a sign and every further
operand of a chain count as one level each, so a rule that may nest takes the levels that are left
as its recursion argument and none of them is ever short: the cursor counts the same levels.
-/

namespace FormLogic
namespace Formula

/-- The tokens that are left, the present depth, and the position of the last token of all. -/
structure Cursor where
  depth : Nat
  rest : List Lexeme
  last : Nat
deriving DecidableEq

/-- What a part of the grammar reads from a cursor. -/
abbrev Rule := Cursor → Except Fault (Expr × Cursor)

namespace Cursor

def peek? (c : Cursor) : Option Token :=
  c.rest.head?.map (·.token)

def advance (c : Cursor) : Cursor :=
  { c with rest := c.rest.tail }

/-- The position of the next token, of the last one at the end. -/
def position (c : Cursor) : Nat :=
  match c.rest with
  | [] => c.last
  | t :: _ => t.position

def tooDeep (c : Cursor) : Fault :=
  .misplaced c.position .tooDeep

def descend (c : Cursor) : Except Fault Cursor :=
  if c.depth < maxDepth then .ok { c with depth := c.depth + 1 } else .error c.tooDeep

def ascend (c : Cursor) : Cursor :=
  { c with depth := c.depth - 1 }

/-- Reads one token that has to be there. -/
def expect (c : Cursor) (token : Token) (what : Expected) : Except Fault Cursor :=
  match c.rest with
  | [] => .error .unexpectedEnd
  | t :: _ =>
    if t.token = token then .ok c.advance
    else .error (.misplaced t.position (.expected what t.token))

end Cursor

/-- One more than the deepest level, so that no recursion over levels ends before the depth does. -/
def levels : Nat := maxDepth + 1

/-- A word in lower case; letters outside the first 128 characters stay. -/
def lowerWord (name : String) : String :=
  String.ofList (name.toList.map Char.toLower)

/-- Reads further operands as long as operators of this level follow. -/
def chainTail (operand : Rule) (join? : Token → Option (Expr → Expr → Expr)) :
    Nat → Expr → Cursor → Except Fault (Expr × Cursor)
  | 0, _, c => .error c.tooDeep
  | n + 1, lhs, c =>
    match c.peek?.bind join? with
    | none => .ok (lhs, c)
    | some join => do
      let c ← c.advance.descend
      let (rhs, c) ← operand c
      chainTail operand join? n (join lhs rhs) c

/-- Operands joined by the operators of one level, grouped to the left.  Each further operand is
one level deeper than the one before; the depth at the end is that at the start. -/
def chain (operand : Rule) (join? : Token → Option (Expr → Expr → Expr)) : Rule := fun c => do
  let (lhs, after) ← operand c
  let (e, after) ← chainTail operand join? levels lhs after
  return (e, { after with depth := c.depth })

def orJoin? : Token → Option (Expr → Expr → Expr)
  | .or => some (.logical .or)
  | .word w => if lowerWord w = "or" then some (.logical .or) else none
  | _ => none

def andJoin? : Token → Option (Expr → Expr → Expr)
  | .and => some (.logical .and)
  | .word w => if lowerWord w = "and" then some (.logical .and) else none
  | _ => none

def comparisonJoin? : Token → Option (Expr → Expr → Expr)
  | .eq => some (.binary .eq)
  | .ne => some (.binary .ne)
  | .lt => some (.binary .lt)
  | .le => some (.binary .le)
  | .gt => some (.binary .gt)
  | .ge => some (.binary .ge)
  | _ => none

def additiveJoin? : Token → Option (Expr → Expr → Expr)
  | .plus => some (.binary .add)
  | .minus => some (.binary .sub)
  | _ => none

def multiplicativeJoin? : Token → Option (Expr → Expr → Expr)
  | .star => some (.binary .mul)
  | .slash => some (.binary .div)
  | .percent => some (.binary .rem)
  | _ => none

def isNegationSign : Token → Bool
  | .bang => true
  | .word w => lowerWord w = "not"
  | _ => false

def sign? : Token → Option UnaryOp
  | .minus => some .neg
  | .plus => some .plus
  | _ => none

/-- The constant that a word in lower case names. -/
def constant? (name : String) : Option Value :=
  if name = "true" then some (.bool true)
  else if name = "false" then some (.bool false)
  else if name = "null" then some .null
  else none

/-- Arguments up to the closing parenthesis, at least one of them. -/
def argumentsTail (inner : Rule) : Nat → List Expr → Cursor → Except Fault (List Expr × Cursor)
  | 0, _, _ => .error .unexpectedEnd
  | n + 1, done, c => do
    let (arg, c) ← inner c
    if c.peek? = some .comma then argumentsTail inner n (done ++ [arg]) c.advance
    else
      let c ← c.expect .close .commaOrClose
      return (done ++ [arg], c)

/-- The arguments of a call, behind the opening parenthesis. -/
def arguments (inner : Rule) (c : Cursor) : Except Fault (List Expr × Cursor) :=
  if c.peek? = some .close then .ok ([], c.advance)
  else argumentsTail inner (c.rest.length + 1) [] c

/-- A constant or a call, behind its name. -/
def named (inner : Rule) (name : String) : Rule := fun c =>
  match constant? (lowerWord name) with
  | some v => .ok (.literal v, c)
  | none =>
    if c.peek? ≠ some .open then .error (.unknownWord name)
    else
      match Function.ofName? (lowerWord name) with
      | none => .error (.unknownFunction name)
      | some f => do
        let (args, c) ← arguments inner c.advance
        if f.admits args.length then return (.call f args, c)
        else throw (.arity f args.length)

def primary (inner : Rule) : Rule := fun c =>
  match c.rest with
  | [] => .error .unexpectedEnd
  | t :: _ =>
    match t.token with
    | .number x => .ok (.literal (.number x), c.advance)
    | .text s => .ok (.literal (.text s), c.advance)
    | .field name => .ok (.field name, c.advance)
    | .open => do
      let (e, c) ← inner c.advance
      let c ← c.expect .close .close
      return (e, c)
    | .word name => named inner name c.advance
    | other => .error (.misplaced t.position (.unexpected other))

/-- A primary, raised to what `exponent` reads if a caret follows. -/
def power (inner exponent : Rule) : Rule := fun c => do
  let (base, c) ← primary inner c
  if c.peek? = some .caret then
    let c ← c.advance.descend
    let (e, c) ← exponent c
    return (.binary .pow base e, c.ascend)
  else return (base, c)

/-- Signs before a power; the exponent of the power may have signs of its own. -/
def signed (inner : Rule) : Nat → Rule
  | 0, c => .error c.tooDeep
  | n + 1, c =>
    match c.peek?.bind sign? with
    | some op => do
      let c ← c.advance.descend
      let (e, c) ← signed inner n c
      return (.unary op e, c.ascend)
    | none => power inner (signed inner n) c

def multiplicative (inner : Rule) : Rule := chain (signed inner levels) multiplicativeJoin?

def additive (inner : Rule) : Rule := chain (multiplicative inner) additiveJoin?

def comparison (inner : Rule) : Rule := chain (additive inner) comparisonJoin?

def negation (inner : Rule) : Nat → Rule
  | 0, c => .error c.tooDeep
  | n + 1, c =>
    if c.peek?.any isNegationSign then do
      let c ← c.advance.descend
      let (e, c) ← negation inner n c
      return (.unary .not e, c.ascend)
    else comparison inner c

def conjunction (inner : Rule) : Rule := chain (negation inner levels) andJoin?

def disjunction (inner : Rule) : Rule := chain (conjunction inner) orJoin?

/-- A disjunction, with two branches if a question mark follows. -/
def branching (inner : Rule) : Rule := fun c => do
  let (test, c) ← disjunction inner c
  if c.peek? = some .question then
    let (yes, c) ← inner c.advance
    let c ← c.expect .colon .colon
    let (no, c) ← inner c
    return (.conditional test yes no, c)
  else return (test, c)

def conditional : Nat → Rule
  | 0, c => .error c.tooDeep
  | n + 1, c => do
    let c ← c.descend
    let (e, c) ← branching (conditional n) c
    return (e, c.ascend)

/-- The tree of a whole list of tokens. -/
def parseTokens (tokens : List Lexeme) : Except Fault Expr := do
  let last := (tokens.getLast?.map (·.position)).getD 0
  let (e, c) ← conditional levels ⟨0, tokens, last⟩
  match c.rest with
  | [] => return e
  | t :: _ => throw (.misplaced t.position (.leftover t.token))

/-- The tree of a formula. -/
def parse (source : String) : Except Fault Expr := do
  parseTokens (← tokenize source)

end Formula
end FormLogic
