import FormLogic.Formula.Lexeme

/-!
# FormLogic.Formula.References

The fields that a text refers to.  The text is only searched for signs of fields that a name
follows, so a formula that cannot be read has references too.
-/

namespace FormLogic
namespace Formula

/-- The names behind field signs, in the order of the text. -/
def mentions : List Char → List (List Char)
  | [] => []
  | [_] => []
  | sign :: c :: rest =>
    if sign = '@' && isWordStart c then
      (c :: rest.takeWhile isWordPart) :: mentions (rest.dropWhile isWordPart)
    else mentions (c :: rest)
termination_by text => text.length
decreasing_by
  · have := length_dropWhile_le isWordPart rest; simp; omega
  · simp

/-- The fields a text refers to, each once, in the order of their first mention. -/
def references (text : String) : List String :=
  ((mentions text.toList).map String.ofList).eraseDups

end Formula
end FormLogic
