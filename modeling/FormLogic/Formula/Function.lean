/-!
# FormLogic.Formula.Function

The functions that formulas can call, their names and how many arguments they take.
-/

namespace FormLogic
namespace Formula

inductive Function where
  | min
  | max
  | abs
  | round
  | floor
  | ceil
  | length
  | concat
  | choose
deriving DecidableEq, Repr

/-- The function that a name in lower case stands for. -/
def Function.ofName? (name : String) : Option Function :=
  if name = "min" then some .min
  else if name = "max" then some .max
  else if name = "abs" then some .abs
  else if name = "round" then some .round
  else if name = "floor" then some .floor
  else if name = "ceil" then some .ceil
  else if name = "len" then some .length
  else if name = "length" then some .length
  else if name = "concat" then some .concat
  else if name = "if" then some .choose
  else none

def Function.name : Function → String
  | .min => "min"
  | .max => "max"
  | .abs => "abs"
  | .round => "round"
  | .floor => "floor"
  | .ceil => "ceil"
  | .length => "len"
  | .concat => "concat"
  | .choose => "if"

/-- Whether a function takes `n` arguments. -/
def Function.admits : Function → Nat → Bool
  | .min, n | .max, n | .concat, n => 1 ≤ n
  | .abs, n | .floor, n | .ceil, n | .length, n => n == 1
  | .round, n => n == 1 || n == 2
  | .choose, n => n == 3

/-- The admissible numbers of arguments in words. -/
def Function.arity : Function → String
  | .min | .max | .concat => "at least 1"
  | .abs | .floor | .ceil | .length => "1"
  | .round => "1 or 2"
  | .choose => "3"

end Formula
end FormLogic
