import FormLogic.Proofs.Rules.Reads

/-!
# FormLogic.Proofs.Rules.Update

The laws of updates.

* `Resolver.Complete`: an edit affects all fields whose flags it can turn, and none without rules;
* `Resolver.entry_update`: an update stores what the rules give the fields that it affects, for the
  values after it, and leaves what is stored for all others;
* `Resolver.value_update_update`: of two updates of one field the later stays;
* `Resolver.value_update_comm`: updates of two fields can be made in either order where they are
  complete;
* `update_laws`: both, for the rules of a resolver.

Two updates of one field affect the same fields, so the later one sets all that the former has set.
Of two updates of different fields the former may set flags that the later one leaves; these are
right for the values after both because their rules do not look at the later field.
-/

namespace FormLogic

namespace Resolver

variable {r : Resolver} {s : FormState} {f g v w : String}

/-- An edit affects all fields whose flags it can turn, and none without rules. -/
structure Complete (r : Resolver) : Prop where
  kept : ∀ {field other : String}, other ∉ r.graph.affected field →
    ∀ (v : Dict String) (value : String),
      r.flagsOf other (v.insert field value) = r.flagsOf other v
  ruled : ∀ {field other : String}, other ∈ r.graph.affected field → other ∈ r.graph.ruled

/-- Rules without gates that refer to their own target make a complete graph. -/
theorem complete_ofRules {fieldRules : List FieldRule} {valueRules : List ValueRule}
    (defaults : Flags) (hf : ∀ r ∈ fieldRules, ¬ r.SelfGated)
    (hv : ∀ r ∈ valueRules, ¬ r.SelfGated) :
    Complete ⟨Graph.ofRules fieldRules valueRules, defaults⟩ :=
  ⟨fun h _ _ => flagsOf_insert defaults h hf hv, Graph.ruled_of_mem_affected⟩

/-- An update stores what the rules give the fields that it affects, for the values after it. -/
theorem entry_update (r : Resolver) (f v : String) (s : FormState) (t : String) :
    (r.update f v s).value.flags.entry t =
      if t ∈ r.graph.affected f then (r.flagsOf t (s.values.insert f v)).stored
      else s.flags.entry t :=
  entry_recalculate r _ _ t

theorem errors_update (r : Resolver) (f v : String) (s : FormState) :
    (r.update f v s).value.errors = s.errors := by
  rw [update, value_recalculate]
  rfl

theorem touched_update (r : Resolver) (f v : String) (s : FormState) :
    (r.update f v s).value.touched = s.touched := by
  rw [update, value_recalculate]
  rfl

/-- Updates change values and flags only, so these tell two states behind updates apart. -/
theorem value_update_ext {s s' : FormState} {f g v w : String} (he : s.errors = s'.errors)
    (ht : s.touched = s'.touched) (hv : s.values.insert f v = s'.values.insert g w)
    (hf : ∀ t, (r.update f v s).value.flags.entry t = (r.update g w s').value.flags.entry t) :
    (r.update f v s).value = (r.update g w s').value := by
  rw [FormState.mk.injEq]
  refine ⟨?_, ?_, ?_, Flags.ext_entry hf⟩
  · rw [values_update, values_update, hv]
  · rw [errors_update, errors_update, he]
  · rw [touched_update, touched_update, ht]

/-- Of two updates of one field the later stays. -/
theorem value_update_update (r : Resolver) (f v w : String) (s : FormState) :
    (r.update f w (r.update f v s).value).value = (r.update f w s).value := by
  have hvalues : (r.update f v s).value.values.insert f w = s.values.insert f w := by
    rw [values_update, Dict.insert_insert_self]
  refine value_update_ext (errors_update r f v s) (touched_update r f v s) hvalues fun t => ?_
  rw [entry_update, entry_update, entry_update, hvalues]
  split <;> rfl

/-- The flags of a field behind two updates are those that its rules give it for the values behind
both, if one of the updates affects it. -/
theorem entry_update_update (hr : r.Complete) (t : String) :
    (r.update g w (r.update f v s).value).value.flags.entry t =
      if t ∈ r.graph.affected f ∨ t ∈ r.graph.affected g then
        (r.flagsOf t ((s.values.insert f v).insert g w)).stored
      else s.flags.entry t := by
  rw [entry_update, entry_update, values_update]
  by_cases hg : t ∈ r.graph.affected g
  · rw [if_pos hg, if_pos (.inr hg)]
  · rw [if_neg hg, hr.kept hg]
    simp only [hg, or_false]

/-- Updates of two fields can be made in either order, if they affect all fields whose flags they can
turn. -/
theorem value_update_comm (hr : r.Complete) (hne : f ≠ g) :
    (r.update g w (r.update f v s).value).value = (r.update f v (r.update g w s).value).value := by
  have hvalues : (r.update f v s).value.values.insert g w =
      (r.update g w s).value.values.insert f v := by
    rw [values_update, values_update, Dict.insert_comm _ hne]
  refine value_update_ext ?_ ?_ hvalues fun t => ?_
  · rw [errors_update, errors_update]
  · rw [touched_update, touched_update]
  · rw [entry_update_update hr, entry_update_update hr, Dict.insert_comm _ hne]
    simp only [or_comm]

end Resolver

/-- Of two updates of one field the later stays, whatever the rules; so an update made twice is made
once.  Without rules that are gated by their own target, updates of two fields can be made in either
order. -/
theorem update_laws (fieldRules : List FieldRule) (valueRules : List ValueRule)
    (defaults : Flags) (s : FormState) :
    let r : Resolver := { (Resolver.ofRules fieldRules valueRules).value with defaults }
    (∀ f v₁ v₂, (r.update f v₂ (r.update f v₁ s).value).value = (r.update f v₂ s).value) ∧
    ((∀ rule ∈ fieldRules, ¬ rule.SelfGated) → (∀ rule ∈ valueRules, ¬ rule.SelfGated) →
      ∀ f g v w, f ≠ g →
        (r.update g w (r.update f v s).value).value =
          (r.update f v (r.update g w s).value).value) := by
  rw [Resolver.value_ofRules]
  intro r
  refine ⟨fun f v₁ v₂ => Resolver.value_update_update r f v₁ v₂ s, ?_⟩
  intro hfield hvalue f g v w hne
  exact Resolver.value_update_comm (Resolver.complete_ofRules defaults hfield hvalue) hne

/-- `A` and `B` bear on `T` and on each other; their updates commute, and the flags of `T` are up to
both. -/
theorem update_laws_shared :
    let rules : List FieldRule :=
      [{ trigger := "A", target := "T", action := .hide, gate := "@A == 'x' and @B == 'y'" },
        { trigger := "A", target := "B", action := .mandatory },
        { trigger := "B", target := "A", action := .readonly }]
    let r : Resolver := { (Resolver.ofRules rules []).value with defaults := {} }
    (∀ rule ∈ rules, ¬ rule.SelfGated) ∧
      (r.update "B" "y" (r.update "A" "x" {}).value).value =
        (r.update "A" "x" (r.update "B" "y" {}).value).value ∧
      (r.update "B" "y" (r.update "A" "x" {}).value).value.flags.visibility["T"]? = some false := by
  intro rules r
  have hgates : ∀ rule ∈ rules, ¬ rule.SelfGated := by decide +kernel
  have hcomm := (update_laws rules [] {} {}).2 hgates (by simp) "A" "B" "x" "y" (by decide)
  exact ⟨hgates, hcomm, by decide +kernel⟩

end FormLogic
