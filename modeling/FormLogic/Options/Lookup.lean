import FormLogic.Text.Words

/-!
# FormLogic.Options.Lookup

Which rows of a table are wanted.

* `Predicate`: a column and the expectation on its cells;
* `splitConjunction`: the parts between the words `and`;
* `readLookup`: the predicates of a lookup such as `country = 'IN' and state = @STATE`.
-/

namespace FormLogic

open Text

/-- What is expected of the cells of a column. -/
structure Predicate where
  column : String
  value : String
deriving DecidableEq, Repr

/-- Why a part of a lookup is no predicate. -/
inductive LookupFault where
  | noEquals (part : String)
  | incomplete (part : String)
deriving DecidableEq, Repr

def LookupFault.message : LookupFault → String
  | .noEquals part => "data source error: lookup predicate `" ++ part ++ "` has no `=`"
  | .incomplete part => "data source error: lookup predicate `" ++ part ++ "` is incomplete"

/-- The rest behind the word `and` in any letter case. -/
def afterAnd? : List Char → Option (List Char)
  | a :: n :: d :: rest =>
    if [a, n, d].map Char.toLower = ['a', 'n', 'd'] then some rest else none
  | _ => none

/-- The rest behind an `and` with blanks around it, blanks included. -/
def afterConjunction? (text : List Char) : Option (List Char) :=
  if text.head?.any isBlank then
    match afterAnd? (trimStartChars text) with
    | some rest => if rest.head?.any isBlank then some (trimStartChars rest) else none
    | none => none
  else none

theorem length_trimStartChars_le (text : List Char) :
    (trimStartChars text).length ≤ text.length :=
  (List.dropWhile_suffix _).length_le

theorem length_afterAnd? {text rest : List Char} (h : afterAnd? text = some rest) :
    rest.length < text.length := by
  unfold afterAnd? at h
  split at h
  · split at h
    · cases h; simp only [List.length_cons]; omega
    · cases h
  · cases h

theorem length_afterConjunction? {text rest : List Char}
    (h : afterConjunction? text = some rest) : rest.length < text.length := by
  unfold afterConjunction? at h
  split at h
  · split at h
    · rename_i found hfound
      split at h
      · cases h
        have := length_afterAnd? hfound
        have := length_trimStartChars_le text
        have := length_trimStartChars_le found
        omega
      · cases h
    · cases h
  · cases h

/-- The parts between conjunctions. -/
def splitConjunction : List Char → List (List Char)
  | [] => [[]]
  | c :: text =>
    match _h : afterConjunction? (c :: text) with
    | some rest => [] :: splitConjunction rest
    | none => consFirst c (splitConjunction text)
termination_by text => text.length
decreasing_by
  · exact length_afterConjunction? _h
  · simp

/-- The sides of the first equals sign; more of them right behind it do not matter. -/
def splitEquals? (part : List Char) : Option (List Char × List Char) :=
  match part.dropWhile (· ≠ '=') with
  | [] => none
  | _ :: value => some (part.takeWhile (· ≠ '='), value.dropWhile (· = '='))

def readPredicate (part : List Char) : Except LookupFault Predicate :=
  match splitEquals? part with
  | none => .error (.noEquals (String.ofList (trimChars part)))
  | some (column, value) =>
    let column := trimChars column
    let value := trimChars value
    if column = [] ∨ value = [] then .error (.incomplete (String.ofList (trimChars part)))
    else .ok ⟨String.ofList column, String.ofList value⟩

def readPredicates : List (List Char) → Except LookupFault (List Predicate)
  | [] => .ok []
  | part :: parts => do
    let p ← readPredicate part
    let ps ← readPredicates parts
    return p :: ps

/-- The predicates of a lookup; blank parts do not matter. -/
def readLookup (condition : String) : Except LookupFault (List Predicate) :=
  readPredicates
    ((splitConjunction (trimChars condition.toList)).filter fun part => !part.all isBlank)

end FormLogic
