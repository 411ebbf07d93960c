import FormLogic.Dict
import FormLogic.Formula.Tree
import FormLogic.Number.Arithmetic

/-!
# FormLogic.Formula.Evaluation

The value of a tree.

* `Context`: the values that fields read as, one of them possibly replaced by a candidate;
* `eval`: the value of a tree in a context; operands are evaluated from the left, and `and`, `or`,
  conditionals and `if` evaluate only what they need.
-/

namespace FormLogic
namespace Formula

open Number

/-- Field values, and a candidate that stands in for one of them. -/
structure Context where
  values : Dict String
  candidate : Option (String × String)

def Context.ofValues (values : Dict String) : Context := ⟨values, none⟩

/-- The same values with `field` reading as `value`. -/
def Context.with (c : Context) (field value : String) : Context :=
  { c with candidate := some (field, value) }

/-- What a field reads as. -/
def Context.get? (c : Context) (field : String) : Option String :=
  match c.candidate with
  | some (name, value) => if name = field then some value else c.values[field]?
  | none => c.values[field]?

def Context.read (c : Context) (field : String) : Value :=
  match c.get? field with
  | some s => .text s
  | none => .null

def unaryValue (op : UnaryOp) (v : Value) : Except Fault Value :=
  match op with
  | .neg => do return .number (-(← v.toNumber))
  | .plus => do return .number (← v.toNumber)
  | .not => .ok (.bool (!v.truthy))

def arithmetic (op : BinaryOp) (a b : Float) : Float :=
  match op with
  | .add => a + b
  | .sub => a - b
  | .mul => a * b
  | .div => a / b
  | .rem => remainder a b
  | _ => a ^ b

def binaryValue (op : BinaryOp) (l r : Value) : Except Fault Value :=
  match op with
  | .eq => .ok (.bool (l.looseEq r))
  | .ne => .ok (.bool (!l.looseEq r))
  | .lt => .ok (.bool (l.compare r == some .lt))
  | .le => .ok (.bool (l.compare r == some .lt || l.compare r == some .eq))
  | .gt => .ok (.bool (l.compare r == some .gt))
  | .ge => .ok (.bool (l.compare r == some .gt || l.compare r == some .eq))
  | op => do
    let a ← l.toNumber
    let b ← r.toNumber
    return .number (arithmetic op a b)

/-- The number of the first argument, zero without arguments. -/
def firstNumber : List Value → Except Fault Float
  | [] => .ok 0.0
  | v :: _ => v.toNumber

/-- Folds the numbers of the arguments from the left, NaN without arguments. -/
def foldNumbers (op : Float → Float → Float) : List Value → Except Fault Float
  | [] => .ok notANumber
  | v :: vs => do
    vs.foldlM (fun acc w => do return op acc (← w.toNumber)) (← v.toNumber)

/-- Rounds to a number of decimal places, halves going up. -/
def roundTo (x places : Float) : Float :=
  let factor := (10.0 : Float) ^ truncate places
  (x * factor + 0.5).floor / factor

def lengthOf : List Value → Nat
  | [] => 0
  | v :: _ => if v.isNull then 0 else v.toText.length

/-- The value of a call whose arguments have been evaluated. -/
def callValue (f : Function) (args : List Value) : Except Fault Value :=
  match f with
  | .min => do return .number (← foldNumbers least args)
  | .max => do return .number (← foldNumbers greatest args)
  | .abs => do return .number (← firstNumber args).abs
  | .floor => do return .number (← firstNumber args).floor
  | .ceil => do return .number (← firstNumber args).ceil
  | .round => do
    let x ← firstNumber args
    let places ← firstNumber args.tail
    return .number (roundTo x places)
  | .length => .ok (.number (Float.ofNat (lengthOf args)))
  | .concat => .ok (.text (String.join ((args.filter (!·.isNull)).map Value.toText)))
  | .choose => .ok .null

mutual

/-- The value of a tree. -/
def eval (c : Context) : Expr → Except Fault Value
  | .literal v => .ok v
  | .field name => .ok (c.read name)
  | .unary op e => do unaryValue op (← eval c e)
  | .binary op l r => do
    let a ← eval c l
    let b ← eval c r
    binaryValue op a b
  | .logical .and l r => do
    if (← eval c l).truthy then return .bool (← eval c r).truthy else return .bool false
  | .logical .or l r => do
    if (← eval c l).truthy then return .bool true else return .bool (← eval c r).truthy
  | .conditional t y n => do
    if (← eval c t).truthy then eval c y else eval c n
  | .call .choose [t, y, n] => do
    if (← eval c t).truthy then eval c y else eval c n
  | .call .choose args => .error (.arity .choose args.length)
  | .call f args => do callValue f (← evalAll c args)

/-- The values of arguments, from the left. -/
def evalAll (c : Context) : List Expr → Except Fault (List Value)
  | [] => .ok []
  | e :: es => do
    let v ← eval c e
    let vs ← evalAll c es
    return v :: vs

end

end Formula
end FormLogic
