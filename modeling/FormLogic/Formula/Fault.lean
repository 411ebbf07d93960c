import FormLogic.Formula.Function
import FormLogic.Formula.Token

/-!
# FormLogic.Formula.Fault

Why a formula has no value.

* `Misplaced`: what is wrong at a token;
* `Fault`: all causes, with their messages.
-/

namespace FormLogic
namespace Formula

/-- The deepest nesting that is read. -/
def maxDepth : Nat := 256

/-- What the reader waits for when it meets another token. -/
inductive Expected where
  | colon
  | close
  | commaOrClose
deriving DecidableEq, Repr

def Expected.describe : Expected → String
  | .colon => "`:`"
  | .close => "`)`"
  | .commaOrClose => "`,` or `)`"

inductive Misplaced where
  | malformedNumber (digits : String)
  | expected (what : Expected) (found : Token)
  | unexpected (found : Token)
  | leftover (found : Token)
  | tooDeep
deriving DecidableEq

def Misplaced.message : Misplaced → String
  | .malformedNumber digits => "malformed number `" ++ digits ++ "`"
  | .expected what found => "expected " ++ what.describe ++ ", found " ++ found.describe
  | .unexpected found => "unexpected " ++ found.describe
  | .leftover found => "unexpected " ++ found.describe ++ " after complete expression"
  | .tooDeep => "expression nests deeper than " ++ toString maxDepth ++ " levels"

inductive Fault where
  /-- No token starts with this character. -/
  | strayCharacter (position : Nat) (found : Char)
  | unterminatedText (position : Nat)
  | misplaced (position : Nat) (what : Misplaced)
  | unexpectedEnd
  | unknownWord (name : String)
  | unknownFunction (name : String)
  | arity (function : Function) (found : Nat)
  | notANumber (text : String)
deriving DecidableEq

def Fault.message : Fault → String
  | .strayCharacter position found =>
    "unexpected character `" ++ String.singleton found ++ "` at " ++ toString position
  | .unterminatedText position => "unterminated string starting at " ++ toString position
  | .misplaced position what => "syntax error at " ++ toString position ++ ": " ++ what.message
  | .unexpectedEnd => "unexpected end of expression"
  | .unknownWord name =>
    "unknown identifier `" ++ name ++ "` (field references need an `@` prefix)"
  | .unknownFunction name => "unknown function `" ++ name ++ "`"
  | .arity function found =>
    "function `" ++ function.name ++ "` expects " ++ function.arity ++ " argument(s), got " ++
      toString found
  | .notANumber text => "`" ++ text ++ "` is not a number"

end Formula
end FormLogic
