import FormLogic.Formula.Evaluation
import FormLogic.Formula.Reading
import FormLogic.Formula.References

/-!
# FormLogic.Formula.Evaluator

Evaluating texts, with a memo of what has been read.

* `Parsed`: what reading a text yields;
* `evaluate`: the value of a text and the fields it refers to;
* `Evaluator`: a memo of parsed texts and its counters;
* `Metered`: a computation that asks an evaluator, and its result without a memo;
* `Evaluator.run`: its result with each question answered by an evaluator.
-/

namespace FormLogic
namespace Formula

/-- What reading a text yields. -/
structure Parsed where
  raw : String
  tree : Except Fault Expr
  references : List String
  hasChoice : Bool
  hasArithmetic : Bool

/-- A blank text is the constant null. -/
def readTree (raw : String) : Except Fault Expr :=
  if Text.allBlank raw then .ok (.literal .null) else parse raw

def Parsed.ofText (raw : String) : Parsed :=
  let tree := readTree raw
  match tree with
  | .ok e => ⟨raw, tree, Formula.references raw, e.hasChoice, e.hasArithmetic⟩
  | .error _ => ⟨raw, tree, Formula.references raw, false, false⟩

def Parsed.isValid (p : Parsed) : Bool :=
  match p.tree with
  | .ok _ => true
  | .error _ => false

/-- A value and the fields that its formula refers to. -/
structure Evaluation where
  value : Value
  dependencies : List String
deriving DecidableEq

abbrev Outcome := Except Fault Evaluation

def Outcome.truthy : Outcome → Bool
  | .ok r => r.value.truthy
  | .error _ => false

def Outcome.failed : Outcome → Bool
  | .ok _ => false
  | .error _ => true

def Parsed.evaluate (p : Parsed) (c : Context) : Outcome := do
  let e ← p.tree
  let v ← eval c e
  return ⟨v, p.references⟩

/-- The value of a text in a context. -/
def evaluate (text : String) (c : Context) : Outcome :=
  (Parsed.ofText text).evaluate c

/-- How many parsed texts an evaluator keeps. -/
inductive CachePolicy where
  | unbounded
  | bounded (capacity : Nat)
deriving DecidableEq, Repr

/-- A memo of parsed texts, and how often it was used. -/
structure Evaluator where
  policy : CachePolicy
  memo : Dict Parsed
  evaluations : Nat
  hits : Nat
  failures : Nat

namespace Evaluator

def ofPolicy (policy : CachePolicy) : Evaluator := ⟨policy, ∅, 0, 0, 0⟩

/-- Whether one more text is kept. -/
def hasRoom (ev : Evaluator) : Bool :=
  match ev.policy with
  | .unbounded => true
  | .bounded capacity => ev.memo.size < capacity

/-- What reading a text yields, from the memo if it is there. -/
def read (ev : Evaluator) (text : String) : Parsed × Evaluator :=
  match ev.memo[text]? with
  | some parsed => (parsed, { ev with hits := ev.hits + 1 })
  | none =>
    let parsed := Parsed.ofText text
    (parsed, if ev.hasRoom then { ev with memo := ev.memo.insert text parsed } else ev)

def count (ev : Evaluator) (failed : Bool) : Evaluator :=
  { ev with
    evaluations := ev.evaluations + 1
    failures := if failed then ev.failures + 1 else ev.failures }

def evaluate (ev : Evaluator) (text : String) (c : Context) : Outcome × Evaluator :=
  let (parsed, ev) := ev.read text
  let outcome := parsed.evaluate c
  (outcome, ev.count outcome.failed)

/-- A condition; what fails does not hold. -/
def holds (ev : Evaluator) (text : String) (c : Context) : Bool × Evaluator :=
  let (outcome, ev) := ev.evaluate text c
  (outcome.truthy, ev)

/-- One of two values by a condition; a condition that fails is passed on. -/
def choose (ev : Evaluator) (condition : String) (yes no : Value) (c : Context) :
    Outcome × Evaluator :=
  let (outcome, ev) := ev.evaluate condition c
  (outcome.map fun r => { r with value := if r.value.truthy then yes else no }, ev)

/-- The values of named texts in one context, in the order of the names. -/
def evaluateAll (ev : Evaluator) (texts : List (String × String)) (c : Context) :
    List (String × Outcome) × Evaluator :=
  match texts with
  | [] => ([], ev)
  | (name, text) :: rest =>
    let (outcome, ev) := ev.evaluate text c
    let (outcomes, ev) := ev.evaluateAll rest c
    ((name, outcome) :: outcomes, ev)

def dependencies (ev : Evaluator) (text : String) : List String × Evaluator :=
  let (parsed, ev) := ev.read text
  (parsed.references, ev)

def isValid (ev : Evaluator) (text : String) : Bool × Evaluator :=
  let (parsed, ev) := ev.read text
  (parsed.isValid, ev)

/-- Forgets the parsed texts; the counters stay. -/
def clear (ev : Evaluator) : Evaluator := { ev with memo := ∅ }

end Evaluator

/-- A computation that asks an evaluator for values of texts and for the fields that texts refer to,
and goes on with what it is answered. -/
inductive Metered (α : Type) where
  | done (a : α)
  | evaluating (text : String) (c : Context) (next : Outcome → Metered α)
  | tracing (text : String) (next : List String → Metered α)

namespace Metered

variable {α β : Type}

def bind : Metered α → (α → Metered β) → Metered β
  | .done a, f => f a
  | .evaluating text c next, f => .evaluating text c fun outcome => (next outcome).bind f
  | .tracing text next, f => .tracing text fun found => (next found).bind f

instance : Monad Metered where
  pure := .done
  bind := bind

/-- The value of a text. -/
def evaluate (text : String) (c : Context) : Metered Outcome := .evaluating text c pure

/-- A condition; what fails does not hold. -/
def holds (text : String) (c : Context) : Metered Bool := do
  return (← evaluate text c).truthy

/-- The fields that a text refers to. -/
def dependencies (text : String) : Metered (List String) := .tracing text pure

/-- The result if every text is read anew. -/
def value : Metered α → α
  | .done a => a
  | .evaluating text c next => (next (Formula.evaluate text c)).value
  | .tracing text next => (next (references text)).value

@[simp] theorem value_pure (a : α) : (pure a : Metered α).value = a := rfl

@[simp] theorem value_evaluate (text : String) (c : Context) :
    (evaluate text c).value = Formula.evaluate text c := rfl

@[simp] theorem value_dependencies (text : String) :
    (dependencies text).value = references text := rfl

@[simp] theorem value_bind (x : Metered α) (f : α → Metered β) :
    (x >>= f).value = (f x.value).value := by
  induction x with
  | done a => rfl
  | evaluating text c next ih => exact ih (Formula.evaluate text c)
  | tracing text next ih => exact ih (references text)

@[simp] theorem value_holds (text : String) (c : Context) :
    (holds text c).value = (Formula.evaluate text c).truthy := rfl

/-- The results for all elements, in their order. -/
def forEach (f : α → Metered β) : List α → Metered (List β)
  | [] => pure []
  | a :: as => do
    let b ← f a
    let bs ← forEach f as
    return b :: bs

@[simp] theorem value_forEach (f : α → Metered β) (as : List α) :
    (forEach f as).value = as.map fun a => (f a).value := by
  induction as with
  | nil => rfl
  | cons a as ih => simp [forEach, ih]

/-- Goes through the elements in their order, from a first result to the last one. -/
def fold (f : β → α → Metered β) : β → List α → Metered β
  | b, [] => pure b
  | b, a :: as => do fold f (← f b a) as

@[simp] theorem value_fold (f : β → α → Metered β) (b : β) (as : List α) :
    (fold f b as).value = as.foldl (fun b a => (f b a).value) b := by
  induction as generalizing b with
  | nil => rfl
  | cons a as ih => simp [fold, ih]

/-- The elements that have the property, in their order. -/
def filter (p : α → Metered Bool) : List α → Metered (List α)
  | [] => pure []
  | a :: as => do
    let keep ← p a
    let rest ← filter p as
    return if keep then a :: rest else rest

@[simp] theorem value_filter (p : α → Metered Bool) (as : List α) :
    (filter p as).value = as.filter fun a => (p a).value := by
  induction as with
  | nil => rfl
  | cons a as ih => simp [filter, ih, List.filter_cons]

/-- Whether some element has the property; none behind the first such one is asked. -/
def any (p : α → Metered Bool) : List α → Metered Bool
  | [] => pure false
  | a :: as => do
    if ← p a then return true else any p as

@[simp] theorem value_any (p : α → Metered Bool) (as : List α) :
    (any p as).value = as.any fun a => (p a).value := by
  induction as with
  | nil => rfl
  | cons a as ih =>
    simp only [any, value_bind, List.any_cons]
    cases (p a).value <;> simp [ih]

end Metered

/-- The result of a computation whose questions the evaluator answers, one after another. -/
def Evaluator.run {α : Type} (ev : Evaluator) : Metered α → α × Evaluator
  | .done a => (a, ev)
  | .evaluating text c next =>
    let (outcome, ev) := ev.evaluate text c
    ev.run (next outcome)
  | .tracing text next =>
    let (found, ev) := ev.dependencies text
    ev.run (next found)

section

variable {α : Type} (ev : Evaluator) (text : String)

theorem Evaluator.run_evaluating (c : Context) (next : Outcome → Metered α) :
    ev.run (.evaluating text c next) =
      (ev.evaluate text c).2.run (next (ev.evaluate text c).1) := rfl

theorem Evaluator.run_tracing (next : List String → Metered α) :
    ev.run (.tracing text next) = (ev.dependencies text).2.run (next (ev.dependencies text).1) :=
  rfl

end

end Formula
end FormLogic
