import FormLogic.Session.Form

/-!
# FormLogic.Session.Offer

The options that fields offer.

* `Memo`: lists of options with the values they were drawn for;
* `Form.rawOptions`: the options of a field before rules are applied;
* `Form.options`: the options that a field offers.
-/

namespace FormLogic

open Formula

/-- By sourced field, the values that its options depend on and the options drawn for them. -/
abbrev Memo := Dict (List (Option String) × List Choice)

/-- Keeps the first option of each value that was not seen. -/
def firstPerValue (seen : List String) : List Choice → List Choice
  | [] => []
  | c :: cs =>
    if c.value ∈ seen then firstPerValue seen cs else c :: firstPerValue (c.value :: seen) cs

/-- In the order of sequence numbers, equal ones in the order given. -/
def sortBySequence (choices : List Choice) : List Choice :=
  choices.mergeSort fun a b => a.sequence ≤ b.sequence

namespace Form

/-- The values that the options of a sourced field depend on. -/
def sourceKey (form : Form) (f : Field) (values : Dict String) : List (Option String) :=
  (f.sourceReferences form.tables).map fun name => values[name]?

/-- The options of a sourced field, drawn anew unless they are kept for the same values. -/
def sourcedOptions (form : Form) (f : Field) (values : Dict String) (memo : Memo) :
    Metered (List Choice × Memo) :=
  let key := form.sourceKey f values
  match memo[f.keyword]?.filter (·.1 = key) with
  | some kept => pure (kept.2, memo)
  | none => do
    let choices ← f.drawOptions form.tables values
    return (choices, memo.insert f.keyword (key, choices))

/-- The options of a field before rules are applied. -/
def rawOptions (form : Form) (f : Field) (values : Dict String) (memo : Memo) :
    Metered (List Choice × Memo) :=
  if f.source?.isSome then form.sourcedOptions f values memo else pure (f.choices, memo)

/-- The options that a field offers: those that no rule withholds, each value once, in the order of
sequence numbers. -/
def options (form : Form) (field : String) (values : Dict String) (memo : Memo) :
    Metered (List Choice × Memo) :=
  match form.field? field with
  | none => pure ([], memo)
  | some f => do
    let (raw, memo) ← form.rawOptions f values memo
    let offered ← Metered.filter (fun c => form.resolver.offers field c.value values) raw
    return (sortBySequence (firstPerValue [] offered), memo)

end Form
end FormLogic
