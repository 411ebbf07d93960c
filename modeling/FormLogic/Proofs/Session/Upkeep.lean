import FormLogic.Proofs.Rules.Update
import FormLogic.Proofs.Session.Cascade

/-!
# FormLogic.Proofs.Session.Upkeep

Flags that are brought up to date edit by edit are those of a full recalculation.

* `Resolver.UpToDate`: what holds of the flags of a state between edits;
* `UpToDate.update`: one edit keeps it; `upToDate_change`: a change with its cascade keeps it;
* `upToDate_performAll`: a session without resets keeps it;
* `flags_upToDate`: what that means for rules and fields of the product.
-/

namespace FormLogic

open Formula

namespace Resolver

variable {r : Resolver} {s t : FormState}

/-- Fields with rules have the flags that their rules give them, and all others those that hold
without rules. -/
structure UpToDate (r : Resolver) (s : FormState) : Prop where
  ruled : ∀ field ∈ r.graph.ruled, s.flags.Has field (r.flagsOf field s.values)
  others : ∀ field ∉ r.graph.ruled, ∀ x, r.defaults.Has field x → s.flags.Has field x

/-- Values and flags are all that matters. -/
theorem UpToDate.congr (h : r.UpToDate s) (hv : t.values = s.values) (hf : t.flags = s.flags) :
    r.UpToDate t := by
  refine ⟨fun field hfield => ?_, fun field hfield x hx => ?_⟩
  · rw [hv, hf]
    exact h.ruled field hfield
  · rw [hf]
    exact h.others field hfield x hx

theorem upToDate_recalculateAll (h : s.flags = r.defaults) :
    r.UpToDate (r.recalculateAll s).value := by
  refine ⟨fun field hfield => ?_, fun field hfield x hx => ?_⟩
  · rw [values_recalculateAll]
    exact has_recalculate hfield
  · rw [← h] at hx
    exact (recalculate_frame hfield).2 hx

/-- An edit keeps the flags up to date: those of the fields that it affects are set anew, and those
of all others are right as they are. -/
theorem UpToDate.update (hr : r.Complete) (h : r.UpToDate s) (field value : String) :
    r.UpToDate (r.update field value s).value := by
  refine ⟨fun other hother => ?_, fun other hother x hx => ?_⟩
  · by_cases haff : other ∈ r.graph.affected field
    · rw [values_update]
      exact has_recalculate haff
    · rw [values_update, hr.kept haff]
      exact (recalculate_frame haff).2 (h.ruled other hother)
  · have haff : other ∉ r.graph.affected field := fun hin => hother (hr.ruled hin)
    exact (recalculate_frame haff).2 (h.others other hother x hx)

/-- Recalculation finds nothing to change. -/
theorem UpToDate.recalculateAll_eq_self (h : r.UpToDate s) :
    (r.recalculateAll s).value = s :=
  recalculate_eq_self h.ruled

end Resolver

/-! ## Sessions -/

namespace Form

variable {form : Form} {s : FormState}

theorem upToDate_start (form : Form) (values : Dict String) :
    form.resolver.UpToDate (form.start values).value := by
  rw [start, Metered.value_bind]
  exact Resolver.upToDate_recalculateAll rfl

theorem upToDate_change (hr : form.resolver.Complete) (h : form.resolver.UpToDate s)
    (field value : String) : form.resolver.UpToDate (form.change field value s).value.1 := by
  have hcascade : form.resolver.UpToDate (form.cascade (form.defaults.downstream field)
      (form.resolver.update field value s).value).value.1 :=
    cascade_induction (h.update hr field value) fun _ name value hs => hs.update hr name value
  rw [value_change]
  exact hcascade.congr rfl rfl

end Form

namespace Session

theorem upToDate_perform {s : Session} (hev : s.evaluator.Faithful)
    (hr : s.form.resolver.Complete) (h : s.form.resolver.UpToDate s.state) {a : Interaction} (ha : a ≠ .reset) :
    s.form.resolver.UpToDate (s.perform a).state := by
  rcases state_perform hev a with ⟨field, value, -, hstate⟩ | ⟨hreset, -⟩ | ⟨hvalues, hflags⟩
  · rw [hstate]
    exact Form.upToDate_change hr h field value
  · exact absurd hreset ha
  · exact h.congr hvalues hflags

/-- The flags of a session without resets are up to date. -/
theorem upToDate_performAll {s : Session} (hev : s.evaluator.Faithful)
    (hr : s.form.resolver.Complete) (h : s.form.resolver.UpToDate s.state) {acts : List Interaction} (hacts : .reset ∉ acts) :
    s.form.resolver.UpToDate (s.performAll acts).state := by
  have hboth : (s.performAll acts).form = s.form ∧
      s.form.resolver.UpToDate (s.performAll acts).state := by
    refine performAll_faithful (P := fun t => t.form = s.form ∧ s.form.resolver.UpToDate t.state)
      hev ⟨rfl, h⟩ fun t hev ht a ha => ?_
    obtain ⟨hform, ht⟩ := ht
    have hne : a ≠ .reset := fun heq => hacts (heq ▸ ha)
    rw [← hform] at hr ht ⊢
    exact ⟨t.form_perform a, upToDate_perform hev hr ht hne⟩
  exact hboth.2

end Session

/-- Some rule of the product in the context of the options has the target. -/
def Product.Ruled (p : Product) (o : SessionOptions) (target : String) : Prop :=
  (∃ r ∈ p.fieldRules, r.inContext o.transactionCode o.stepCode ∧ r.target = target) ∨
    ∃ r ∈ p.valueRules, r.inContext o.transactionCode o.stepCode ∧ r.target = target

theorem Session.mem_ruled_start (p : Product) (o : SessionOptions) (target : String) :
    target ∈ (Session.start p o).form.resolver.graph.ruled ↔ p.Ruled o target := by
  have hgraph : (Session.start p o).form.resolver.graph = Graph.ofRules
      (p.fieldRules.filter (·.inContext o.transactionCode o.stepCode))
      (p.valueRules.filter (·.inContext o.transactionCode o.stepCode)) := by
    rw [form_start, Form.value_ofProduct]
  rw [hgraph, Graph.mem_ruled, Graph.fieldRulesOn_ofRules, Graph.valueRulesOn_ofRules,
    Product.Ruled]
  simp [List.filter_eq_nil_iff, and_comm]

/-- Without rules the resolver of a session holds the flags that the product's fields declare. -/
theorem Session.has_defaults_start {p : Product} (hunique : p.UniqueKeywords) (o : SessionOptions)
    {f : Field} (hf : f ∈ p.fields) (hcontext : f.inContext o.transactionCode o.stepCode) :
    (Session.start p o).form.resolver.defaults.Has f.keyword f.declaredFlags := by
  obtain ⟨values, hin⟩ := Product.exists_mem_fieldsIn hf hcontext
  rw [form_start, Form.value_ofProduct]
  exact Flags.has_ofFields (f := { f with values := values })
    (hunique.fieldsIn o.transactionCode o.stepCode) hin

/-- In a session without resets, on a product without rules that are gated by their own target,
recalculation never finds anything to change: fields with rules have the flags that the rules give
them for the current values, and fields without have the flags that they declare. -/
theorem flags_upToDate (p : Product) (hunique : p.UniqueKeywords) (o : SessionOptions)
    (hfield : ∀ r ∈ p.fieldRules, r.inContext o.transactionCode o.stepCode → ¬ r.SelfGated)
    (hvalue : ∀ r ∈ p.valueRules, r.inContext o.transactionCode o.stepCode → ¬ r.SelfGated)
    (acts : List Interaction) (hacts : .reset ∉ acts) :
    let s := (Session.start p o).performAll acts
    (s.form.resolver.recalculateAll s.state).value = s.state ∧
    (∀ target, p.Ruled o target →
      s.state.flags.Has target (s.form.resolver.flagsOf target s.state.values)) ∧
    ∀ f ∈ p.fields, f.inContext o.transactionCode o.stepCode → ¬ p.Ruled o f.keyword →
      s.state.flags.Has f.keyword f.declaredFlags := by
  intro s
  have hcomplete : (Session.start p o).form.resolver.Complete := by
    rw [Session.form_start, Form.value_ofProduct]
    exact Resolver.complete_ofRules _
      (fun r hr => hfield r (List.mem_filter.1 hr).1 (List.mem_filter.1 hr).2)
      (fun r hr => hvalue r (List.mem_filter.1 hr).1 (List.mem_filter.1 hr).2)
  have hstart : (Session.start p o).form.resolver.UpToDate (Session.start p o).state := by
    rw [Session.state_start]
    exact Form.upToDate_start _ o.values
  have hs := Session.upToDate_performAll (Session.faithful_start p o) hcomplete hstart hacts
  have hform : s.form = (Session.start p o).form := Session.form_performAll _ acts
  rw [hform]
  refine ⟨hs.recalculateAll_eq_self, fun target htarget => ?_, fun f hf hcontext hruled => ?_⟩
  · exact hs.ruled target ((Session.mem_ruled_start p o target).2 htarget)
  · refine hs.others f.keyword (fun hin => ?_) _ (Session.has_defaults_start hunique o hf hcontext)
    exact hruled ((Session.mem_ruled_start p o f.keyword).1 hin)

/-- An edit of the name is passed on to the code, and the code's new value hides the note. -/
theorem flags_upToDate_passed_on :
    let p : Product := {
      fields := [{ keyword := "NAME" }, { keyword := "CODE", default := "@NAME" },
        { keyword := "NOTE", mandatory := true }]
      fieldRules := [
        { trigger := "CODE", target := "NOTE", action := .hide, gate := "@CODE == 'x'" }] }
    let o : SessionOptions := { transaction := "", step := "" }
    let s := (Session.start p o).performAll [.change "NAME" "x", .validate, .blur "NAME"]
    (s.form.resolver.recalculateAll s.state).value = s.state ∧
      s.state.flags.Has "NOTE" ⟨false, false, false, true⟩ ∧
      s.state.flags.Has "NAME" ⟨true, false, false, false⟩ := by
  intro p o s
  have hs : s = (Session.start p o).performAll [.change "NAME" "x", .validate, .blur "NAME"] := rfl
  have hall := flags_upToDate p (by decide) o (by decide +kernel) (by decide)
    [.change "NAME" "x", .validate, .blur "NAME"] (by decide)
  rw [← hs] at hall
  obtain ⟨hsame, hruled, hfree⟩ := hall
  have hnote := hruled "NOTE" (.inl ⟨_, List.mem_singleton_self _, by decide, rfl⟩)
  have hflags : s.form.resolver.flagsOf "NOTE" s.state.values = ⟨false, false, false, true⟩ := by
    decide +kernel
  have hname := hfree { keyword := "NAME" } (by simp [p]) (by decide) (by simp [p, Product.Ruled])
  exact ⟨hsame, hflags ▸ hnote, hname⟩

end FormLogic
