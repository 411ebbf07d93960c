import FormLogic.Proofs.Formula.References
import FormLogic.Proofs.Validation.Verdict

/-!
# FormLogic.Proofs.Validation.Candidate

A value validated as a candidate, and validated again once it is stored.

* `Check.value_fails_setValue`: a check fails alike, since formulas read the candidate in place of
  the field;
* `ValidationRule.applies`: whether the gate of a rule lets it apply;
* `applies_setValue`: storing a value turns only gates that refer to the field;
* `candidate_validated`: the failing rules are the same exactly if no gate turns in front of a
  failing check;
* `candidate_behind_own_gate`: a gate on the field itself is read before the candidate is there.
-/

namespace FormLogic

open Formula

variable {s : FormState} {field value : String}

/-- With a candidate for it, a field reads the same before and after the candidate is stored. -/
theorem get?_candidate (values : Dict String) (field value name : String) :
    ((Context.ofValues values).with field value).get? name =
      ((Context.ofValues (values.insert field value)).with field value).get? name := by
  simp only [Context.get?, Context.with, Context.ofValues]
  split
  · rfl
  · rename_i hname
    rw [Dict.getElem?_insert, if_neg hname]

/-- A check looks at the stored values through the candidate only. -/
theorem Check.value_fails_setValue (check : Check) (field value : String) (s : FormState) :
    (check.fails field (some value) s).value =
      (check.fails field (some value) (s.setValue field value)).value := by
  cases check with
  | formula text =>
    have heval : evaluate text ((Context.ofValues s.values).with field value) =
        evaluate text ((Context.ofValues (s.setValue field value).values).with field value) :=
      evaluate_congr fun name _ => get?_candidate s.values field value name
    simp only [fails, Metered.value_bind, Metered.value_holds, Option.getD_some, heval]
  | _ => rfl

/-! ## Gates -/

/-- Whether a rule has no gate or one that holds. -/
def ValidationRule.applies (r : ValidationRule) (values : Dict String) : Bool :=
  r.condition.all fun gate => (evaluate gate (.ofValues values)).truthy

theorem ValidationRule.value_fails (r : ValidationRule) (field : String) (value : Option String)
    (s : FormState) : (r.fails field value s).value =
      (r.applies s.values && (r.check.fails field value s).value) := by
  unfold fails applies
  cases r.condition with
  | none => rfl
  | some gate =>
    rw [Metered.value_bind, Metered.value_holds, Option.all_some]
    cases (evaluate gate (.ofValues s.values)).truthy <;> rfl

/-- A gate that turns when a value is stored refers to the field, which had another value. -/
theorem ValidationRule.exists_of_turns {r : ValidationRule}
    (h : r.applies s.values ≠ r.applies (s.setValue field value).values) :
    ∃ gate, r.condition = some gate ∧ field ∈ references gate ∧ s.values[field]? ≠ some value := by
  cases hgate : r.condition with
  | none =>
    refine absurd ?_ h
    rw [applies, applies, hgate, Option.all_none, Option.all_none]
  | some gate =>
    refine ⟨gate, rfl, ?_⟩
    by_contra hout
    refine h ?_
    have hsame : ∀ name ∈ references gate, (Context.ofValues s.values).get? name =
        (Context.ofValues (s.setValue field value).values).get? name := by
      intro name hname
      change s.values[name]? = (s.values.insert field value)[name]?
      rw [Dict.getElem?_insert]
      split
      · rename_i hfield
        subst hfield
        exact not_not.1 fun hvalue => hout ⟨hname, hvalue⟩
      · rfl
    rw [applies, applies, hgate, Option.all_some, Option.all_some, evaluate_congr hsame]

/-! ## Messages -/

/-- The rules that a value fails. -/
def failing (field : String) (value : Option String) (rules : List ValidationRule)
    (s : FormState) : List ValidationRule :=
  rules.filter fun r => (r.fails field value s).value

theorem value_validateField_eq_failing (field : String) (value : Option String)
    (rules : List ValidationRule) (s : FormState) :
    (validateField field value rules s).value = (failing field value rules s).map (·.message) :=
  value_validateField field value rules s

/-- A rule is failed alike exactly if its check passes or its gate does not turn. -/
theorem ValidationRule.value_fails_setValue_iff (r : ValidationRule) (field value : String)
    (s : FormState) :
    (r.fails field (some value) s).value =
        (r.fails field (some value) (s.setValue field value)).value ↔
      ((r.check.fails field (some value) s).value = true →
        r.applies s.values = r.applies (s.setValue field value).values) := by
  rw [value_fails, value_fails, ← Check.value_fails_setValue]
  cases (r.check.fails field (some value) s).value <;> simp

theorem filter_eq_filter_iff {α : Type} {p q : α → Bool} {l : List α} :
    l.filter p = l.filter q ↔ ∀ x ∈ l, p x = q x := by
  constructor
  · intro h x hx
    have hmem : x ∈ l.filter p ↔ x ∈ l.filter q := by rw [h]
    rw [List.mem_filter, List.mem_filter] at hmem
    exact Bool.eq_iff_iff.2 (by simpa [hx] using hmem)
  · exact List.filter_congr

/-- A candidate fails the same rules as it does once it is stored, exactly if the gate of no rule
turns whose check it fails; then the messages are the same too.  The gates that turn are some of
those that refer to the field. -/
theorem candidate_validated (field value : String) (rules : List ValidationRule) (s : FormState) :
    let stored := s.setValue field value
    (failing field (some value) rules s = failing field (some value) rules stored ↔
      ∀ r ∈ rules, (r.check.fails field (some value) s).value = true →
        r.applies s.values = r.applies stored.values) ∧
    ((∀ r ∈ rules, (r.check.fails field (some value) s).value = true →
        r.applies s.values = r.applies stored.values) →
      (validateField field (some value) rules s).value =
        (validateField field (some value) rules stored).value) ∧
    ∀ r ∈ rules, r.applies s.values ≠ r.applies stored.values →
      ∃ gate, r.condition = some gate ∧ field ∈ references gate ∧
        s.values[field]? ≠ some value := by
  intro stored
  have hfailing : failing field (some value) rules s = failing field (some value) rules stored ↔
      ∀ r ∈ rules, (r.check.fails field (some value) s).value = true →
        r.applies s.values = r.applies stored.values :=
    filter_eq_filter_iff.trans
      (forall₂_congr fun r _ => r.value_fails_setValue_iff field value s)
  refine ⟨hfailing, fun h => ?_, fun r _ => ValidationRule.exists_of_turns⟩
  rw [value_validateField_eq_failing, value_validateField_eq_failing, hfailing.2 h]

/-- The sum is held against the premium, and the limit on it applies to sums in full mode; the gate
that refers to the sum itself holds of either sum. -/
theorem candidate_validated_sum :
    let rules : List ValidationRule :=
      [⟨.formula "@SUM >= @PREMIUM * 10", "SUM is too small", some "@SUM > 0"⟩,
        ⟨.greatest 100, "SUM is too large", some "@MODE == 'FULL'"⟩]
    let s : FormState := {
      values := Dict.ofPairs [("MODE", "FULL"), ("PREMIUM", "1000"), ("SUM", "1")] }
    let stored := s.setValue "SUM" "500"
    (∀ r ∈ rules, (r.check.fails "SUM" (some "500") s).value = true →
      r.applies s.values = r.applies stored.values) ∧
    (validateField "SUM" (some "500") rules s).value = ["SUM is too small", "SUM is too large"] ∧
    (validateField "SUM" (some "500") rules stored).value =
      ["SUM is too small", "SUM is too large"] := by
  intro rules s stored
  have hgates : ∀ r ∈ rules, (r.check.fails "SUM" (some "500") s).value = true →
      r.applies s.values = r.applies stored.values := by decide +kernel
  have hbefore : (validateField "SUM" (some "500") rules s).value =
      ["SUM is too small", "SUM is too large"] := by decide +kernel
  exact ⟨hgates, hbefore,
    ((candidate_validated "SUM" "500" rules s).2.1 hgates).symm.trans hbefore⟩

/-- An amount that is too small goes unnoticed as a candidate: the condition of the field is read
without it, and does not hold. -/
theorem candidate_behind_own_gate :
    let amount : Field := {
      keyword := "AMOUNT", least := some 100, validationCondition := some "@AMOUNT > 0" }
    let stored := ({} : FormState).setValue "AMOUNT" "5"
    (validateField "AMOUNT" (some "5") amount.rules {}).value = [] ∧
      (validateField "AMOUNT" (some "5") amount.rules stored).value =
        ["AMOUNT must be at least 100"] := by
  decide +kernel

end FormLogic
