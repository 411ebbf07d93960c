import Std.Data.ExtTreeMap
import Std.Data.ExtTreeSet

/-!
# FormLogic.Dict

Dictionaries keyed by names.  Keys are met in the order of their code points, and two dictionaries
with the same entries are equal.
-/

namespace FormLogic

/-- A dictionary from names to `α`. -/
abbrev Dict (α : Type) := Std.ExtTreeMap String α

instance {α : Type} [DecidableEq α] : DecidableEq (Dict α) :=
  inferInstanceAs (DecidableEq (Std.ExtTreeMap String α))

/-- A set of names. -/
abbrev NameSet := Std.ExtTreeSet String

/-- The later of two entries with one key stays. -/
def Dict.ofPairs {α : Type} (pairs : List (String × α)) : Dict α :=
  pairs.foldl (fun d p => d.insert p.1 p.2) ∅

def NameSet.ofNames (names : List String) : NameSet :=
  names.foldl (fun s n => s.insert n) ∅

end FormLogic
