import FormLogic.Number.Layout
import FormLogic.Text.Quoted

/-!
# FormLogic.Formula.Token

* `Token`: the words of a formula;
* `Lexeme`: a token with the byte offset where it starts;
* `Token.describe`: the token as messages name it.
-/

namespace FormLogic
namespace Formula

inductive Token where
  | number (value : Float)
  | text (content : String)
  | field (name : String)
  | word (name : String)
  | plus
  | minus
  | star
  | slash
  | percent
  | caret
  | eq
  | ne
  | lt
  | le
  | gt
  | ge
  | and
  | or
  | bang
  | question
  | colon
  | open
  | close
  | comma
deriving DecidableEq

/-- A token and the byte offset of its first character. -/
structure Lexeme where
  position : Nat
  token : Token
deriving DecidableEq

/-- The kind of a token. -/
def Token.kind : Token → String
  | .number _ => "Number"
  | .text _ => "Str"
  | .field _ => "Field"
  | .word _ => "Ident"
  | .plus => "Plus"
  | .minus => "Minus"
  | .star => "Star"
  | .slash => "Slash"
  | .percent => "Percent"
  | .caret => "Caret"
  | .eq => "EqEq"
  | .ne => "NotEq"
  | .lt => "Lt"
  | .le => "Le"
  | .gt => "Gt"
  | .ge => "Ge"
  | .and => "AndAnd"
  | .or => "OrOr"
  | .bang => "Bang"
  | .question => "Question"
  | .colon => "Colon"
  | .open => "LParen"
  | .close => "RParen"
  | .comma => "Comma"

/-- The kind of a token, and what it holds in parentheses. -/
def Token.describe (t : Token) : String :=
  match t with
  | .number x => t.kind ++ "(" ++ Number.literal.render x ++ ")"
  | .text s | .field s | .word s => t.kind ++ "(" ++ Text.quoted s ++ ")"
  | _ => t.kind

end Formula
end FormLogic
