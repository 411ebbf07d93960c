import FormLogic.Text.Blank

/-!
# FormLogic.Text.Words

Cutting texts into parts.

* `splitWhere`: the parts between characters with a property;
* `words`: the parts between blanks;
* `withoutSuffix`: a text without what it ends with.
-/

namespace FormLogic
namespace Text

/-- A character put before the first part. -/
def consFirst (c : Char) : List (List Char) → List (List Char)
  | [] => [[c]]
  | part :: parts => (c :: part) :: parts

/-- The parts between the characters that have a property; there is one more of them. -/
def splitWhere (p : Char → Bool) : List Char → List (List Char)
  | [] => [[]]
  | c :: rest => if p c then [] :: splitWhere p rest else consFirst c (splitWhere p rest)

/-- The parts between blanks that are not empty. -/
def words (text : List Char) : List (List Char) :=
  (splitWhere isBlank text).filter (· ≠ [])

/-- A text without a suffix, if it ends with that. -/
def withoutSuffix (suffix text : List Char) : List Char :=
  if suffix.isSuffixOf text then text.take (text.length - suffix.length) else text

end Text
end FormLogic
