import FormLogic.Proofs.Dict
import FormLogic.Proofs.Formula.References

/-!
# FormLogic.Proofs.Formula.Memo

An evaluator answers as if it had no memo.

* `Call`: what an evaluator can be asked; `Evaluator.afterAll`: the evaluator behind some calls;
* `Evaluator.Faithful`: the memo holds for each text what reading the text yields;
* `Faithful.afterAll`: every evaluator is faithful, whatever it was asked before;
* `Faithful.run_fst`, `Faithful.run`: what a computation makes of a faithful evaluator;
* `evaluate_reads_references`: contexts that agree on the references of a text give it one outcome,
  at any two evaluators.
-/

namespace FormLogic
namespace Formula

/-- What an evaluator can be asked. -/
inductive Call where
  | read (text : String)
  | evaluate (text : String) (c : Context)
  | holds (text : String) (c : Context)
  | choose (condition : String) (yes no : Value) (c : Context)
  | evaluateAll (texts : List (String × String)) (c : Context)
  | dependencies (text : String)
  | isValid (text : String)
  | clear

namespace Evaluator

/-- The evaluator behind a call. -/
def after (ev : Evaluator) : Call → Evaluator
  | .read text => (ev.read text).2
  | .evaluate text c => (ev.evaluate text c).2
  | .holds text c => (ev.holds text c).2
  | .choose condition yes no c => (ev.choose condition yes no c).2
  | .evaluateAll texts c => (ev.evaluateAll texts c).2
  | .dependencies text => (ev.dependencies text).2
  | .isValid text => (ev.isValid text).2
  | .clear => ev.clear

def afterAll (ev : Evaluator) (calls : List Call) : Evaluator :=
  calls.foldl after ev

/-- The memo holds for each text what reading the text yields. -/
def Faithful (ev : Evaluator) : Prop :=
  ∀ ⦃text parsed⦄, ev.memo[text]? = some parsed → parsed = Parsed.ofText text

theorem faithful_ofPolicy (policy : CachePolicy) : (ofPolicy policy).Faithful := by
  intro text parsed h
  simp [ofPolicy] at h

variable {ev : Evaluator}

theorem Faithful.read_fst (h : ev.Faithful) (text : String) :
    (ev.read text).1 = Parsed.ofText text := by
  unfold read
  split
  · rename_i parsed hparsed; exact h hparsed
  · rfl

theorem Faithful.read (h : ev.Faithful) (text : String) : (ev.read text).2.Faithful := by
  unfold Evaluator.read
  split
  · exact h
  · intro other parsed hother
    by_cases hroom : ev.hasRoom = true
    · simp only [hroom, if_true, Dict.getElem?_insert] at hother
      split at hother
      · rename_i heq
        cases hother
        rw [heq]
      · exact h hother
    · simp only [hroom, Bool.false_eq_true, if_false] at hother
      exact h hother

/-- Counting leaves the memo as it is. -/
theorem Faithful.count (h : ev.Faithful) (failed : Bool) : (ev.count failed).Faithful := h

theorem Faithful.evaluate_fst (h : ev.Faithful) (text : String) (c : Context) :
    (ev.evaluate text c).1 = Formula.evaluate text c := by
  simp [Evaluator.evaluate, Formula.evaluate, h.read_fst]

theorem Faithful.evaluate (h : ev.Faithful) (text : String) (c : Context) :
    (ev.evaluate text c).2.Faithful :=
  (h.read text).count _

theorem Faithful.dependencies_fst (h : ev.Faithful) (text : String) :
    (ev.dependencies text).1 = references text := by
  simp [Evaluator.dependencies, h.read_fst, Parsed.ofText_references]

theorem Faithful.dependencies (h : ev.Faithful) (text : String) :
    (ev.dependencies text).2.Faithful :=
  h.read text

theorem Faithful.evaluateAll (h : ev.Faithful) (texts : List (String × String)) (c : Context) :
    (ev.evaluateAll texts c).2.Faithful := by
  induction texts generalizing ev with
  | nil => exact h
  | cons t texts ih => exact ih (h.evaluate t.2 c)

theorem Faithful.after (h : ev.Faithful) (call : Call) : (ev.after call).Faithful := by
  cases call with
  | read text => exact h.read text
  | evaluate text c => exact h.evaluate text c
  | holds text c => exact h.evaluate text c
  | choose condition yes no c => exact h.evaluate condition c
  | evaluateAll texts c => exact h.evaluateAll texts c
  | dependencies text => exact h.read text
  | isValid text => exact h.read text
  | clear =>
    intro text parsed hparsed
    simp [Evaluator.after, clear] at hparsed

theorem Faithful.afterAll (h : ev.Faithful) (calls : List Call) : (ev.afterAll calls).Faithful := by
  induction calls generalizing ev with
  | nil => exact h
  | cons call calls ih => exact ih (h.after call)

/-! ## Computations -/

variable {α : Type}

/-- A computation has the result that it has without a memo, whatever the evaluator has kept. -/
theorem Faithful.run_fst (h : ev.Faithful) (m : Metered α) : (ev.run m).1 = m.value := by
  -- each question is asked of the evaluator that the questions before it leave
  induction m generalizing ev with
  | done a => rfl
  | evaluating text c next ih =>
    rw [run_evaluating, h.evaluate_fst]
    exact ih (Formula.evaluate text c) (h.evaluate text c)
  | tracing text next ih =>
    rw [run_tracing, h.dependencies_fst]
    exact ih (references text) (h.dependencies text)

theorem Faithful.run (h : ev.Faithful) (m : Metered α) : (ev.run m).2.Faithful := by
  induction m generalizing ev with
  | done a => exact h
  | evaluating text c next ih => exact ih _ (h.evaluate text c)
  | tracing text next ih => exact ih _ (h.dependencies text)

end Evaluator

open Evaluator in
/-- Two evaluators, each behind any calls, give a text one outcome in contexts that agree on its
references, be it a value or a fault; the text may be malformed.  A value comes with exactly the
references. -/
theorem evaluate_reads_references (policy₁ policy₂ : CachePolicy) (calls₁ calls₂ : List Call)
    (text : String) (c d : Context) (h : ∀ name ∈ references text, c.get? name = d.get? name) :
    (((ofPolicy policy₁).afterAll calls₁).evaluate text c).1 =
        (((ofPolicy policy₂).afterAll calls₂).evaluate text d).1 ∧
      ∀ r, (((ofPolicy policy₁).afterAll calls₁).evaluate text c).1 = .ok r →
        r.dependencies = references text := by
  have h₁ := ((faithful_ofPolicy policy₁).afterAll calls₁).evaluate_fst text c
  have h₂ := ((faithful_ofPolicy policy₂).afterAll calls₂).evaluate_fst text d
  rw [h₁, h₂]
  exact ⟨evaluate_congr h, fun r hr => dependencies_of_evaluate hr⟩

/-- A candidate for `A` reads like a value of `A`, and a text in quotes is no reference. -/
theorem evaluate_reads_references_candidate :
    references "@A > 0 ? @B : '@'" = ["A", "B"] ∧
      (((Evaluator.ofPolicy .unbounded).afterAll [.read "@A", .clear]).evaluate
          "@A > 0 ? @B : '@'" (.ofValues (Dict.ofPairs [("A", "1"), ("D", "9")]))).1 =
        (((Evaluator.ofPolicy (.bounded 1)).afterAll []).evaluate "@A > 0 ? @B : '@'"
          ((Context.ofValues (Dict.ofPairs [("A", "2")])).with "A" "1")).1 := by
  have hrefs : references "@A > 0 ? @B : '@'" = ["A", "B"] := by decide +kernel
  refine ⟨hrefs, (evaluate_reads_references _ _ _ _ _ _ _ ?_).1⟩
  rw [hrefs]
  decide

end Formula
end FormLogic
