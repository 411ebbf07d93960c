import FormLogic.Dict

/-!
# FormLogic.Rules.Order

Ordering names after what they depend on.

* `Edges`: the names that each name depends on;
* `Walk.visit`: a depth-first walk that finishes a name after its dependencies;
* `orderOf`: every name once, and the cycles that the walk met.

A cycle is met where the walk comes back to a name on its own path; it is the part of the path from
there on, closed by the name itself.  Cycles do not stop the walk, so their names are ordered too.
-/

namespace FormLogic

/-- The names that each name depends on. -/
abbrev Edges := Dict NameSet

/-- Dependencies of a name in the order of names. -/
def Edges.dependencies (edges : Edges) (name : String) : List String :=
  (edges[name]?.map (·.toList)).getD []

/-- The finished names, the latest first, and the cycles met, the latest first. -/
structure Walk where
  finished : List String := []
  cycles : List (List String) := []
deriving DecidableEq, Repr

/-- The part of a path from a name on, closed by the name; the path's latest name stands first. -/
def closeCycle (path : List String) (name : String) : List String :=
  name :: (path.takeWhile (· ≠ name)).reverse ++ [name]

/-- Visits a name below a path.  The first argument bounds the length of paths. -/
def Walk.visit (edges : Edges) : Nat → List String → Walk → String → Walk
  | 0, _, walk, _ => walk
  | depth + 1, path, walk, name =>
    if name ∈ walk.finished then walk
    else if name ∈ path then { walk with cycles := closeCycle path name :: walk.cycles }
    else
      let walk := (edges.dependencies name).foldl (Walk.visit edges depth (name :: path)) walk
      { walk with finished := name :: walk.finished }

/-- A path holds no name twice, and every name on it but the latest has dependencies. -/
def Edges.depth (edges : Edges) : Nat := edges.size + 2

def Edges.walk (edges : Edges) : Walk :=
  edges.keys.foldl (Walk.visit edges edges.depth []) {}

/-- Names in an order in which dependencies come first, and cycles. -/
structure Ordered where
  order : List String
  cycles : List (List String)
deriving DecidableEq, Repr

/-- The order of all names, and the cycles among them. -/
def orderOf (edges : Edges) : Ordered :=
  ⟨edges.walk.finished.reverse, edges.walk.cycles.reverse⟩

end FormLogic
