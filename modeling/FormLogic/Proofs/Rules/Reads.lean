import FormLogic.Proofs.Formula.References
import FormLogic.Proofs.Rules.Flags
import FormLogic.Proofs.Rules.Graph

/-!
# FormLogic.Proofs.Rules.Reads

What the flags of a field depend on.

* `FieldRule.reads`, `ValueRule.reads`: the fields that a rule looks at;
* `triggered_congr`: a rule matches alike for values that agree on what it reads;
* `flagsOf_congr`: a field has the same flags where all rules on it match alike;
* `SelfGated`: a rule whose gate refers to its own target;
* `flagsOf_insert`: without such rules an edit leaves the flags of fields that it does not affect;
* `affected_complete_but_own_gates`: with such rules it does so unless it turns an own gate of the
  edited field.

The graph links what a rule reads to its target, with one exception: a gate's reference to the
target itself.  So the exception is all that an edit can miss.
-/

namespace FormLogic

open Formula

/-- The fields that a gate refers to. -/
def gateReferences (gate : Option String) : List String := (gate.map references).getD []

/-- The fields that a rule looks at to see whether it matches. -/
def FieldRule.reads (r : FieldRule) : List String := r.trigger :: gateReferences r.gate?

def ValueRule.reads (r : ValueRule) : List String := r.trigger :: gateReferences r.gate?

/-- The gate of the rule refers to the rule's target. -/
def FieldRule.SelfGated (r : FieldRule) : Prop := r.target ∈ gateReferences r.gate?

def ValueRule.SelfGated (r : ValueRule) : Prop := r.target ∈ gateReferences r.gate?

instance (r : FieldRule) : Decidable r.SelfGated := inferInstanceAs (Decidable (_ ∈ _))

instance (r : ValueRule) : Decidable r.SelfGated := inferInstanceAs (Decidable (_ ∈ _))

variable {v w : Dict String}

theorem hasText_congr {field : String} (h : v[field]? = w[field]?) :
    hasText v field = hasText w field := by
  rw [hasText, hasText, h]

/-- A trigger fires alike for values that agree on what it reads. -/
theorem triggered_congr {trigger : String} {expected gate : Option String}
    (h : ∀ n ∈ trigger :: gateReferences gate, v[n]? = w[n]?) :
    (triggered trigger expected gate v).value = (triggered trigger expected gate w).value := by
  cases gate with
  | some formula =>
    have heval : evaluate formula (.ofValues v) = evaluate formula (.ofValues w) :=
      evaluate_congr fun n hn => h n (List.mem_cons_of_mem trigger hn)
    simp only [triggered, Metered.value_holds, heval]
  | none => simp [triggered, h trigger List.mem_cons_self]

theorem FieldRule.matches_congr {r : FieldRule} (h : ∀ n ∈ r.reads, v[n]? = w[n]?) :
    (r.matches v).value = (r.matches w).value :=
  triggered_congr h

theorem ValueRule.matches_congr {r : ValueRule} (h : ∀ n ∈ r.reads, v[n]? = w[n]?) :
    (r.matches v).value = (r.matches w).value :=
  triggered_congr h

theorem mem_influences {trigger target n : String} {gate : Option String}
    (h : n ∈ trigger :: gateReferences gate) (hn : n = target → target ∉ gateReferences gate) :
    n ∈ influences trigger gate target := by
  unfold influences
  rcases List.mem_cons.1 h with rfl | hgate
  · exact List.mem_cons_self
  · refine List.mem_cons_of_mem _ (List.mem_filter.2 ⟨hgate, ?_⟩)
    rw [decide_eq_true_eq]
    rintro rfl
    exact hn rfl hgate

namespace Resolver

/-- All rules on a field match alike for two kinds of values, and so do their triggers. -/
structure MatchAlike (r : Resolver) (field : String) (v w : Dict String) : Prop where
  triggers : ∀ rule ∈ r.graph.fieldRulesOn field, hasText v rule.trigger = hasText w rule.trigger
  fieldRules : ∀ rule ∈ r.graph.fieldRulesOn field, (rule.matches v).value = (rule.matches w).value
  valueRules : ∀ rule ∈ r.graph.valueRulesOn field, (rule.matches v).value = (rule.matches w).value

theorem visibilityBy_congr {rules : List FieldRule} (default anyCounts anyMatches : Bool)
    (ht : ∀ rule ∈ rules, hasText v rule.trigger = hasText w rule.trigger)
    (hm : ∀ rule ∈ rules, (rule.matches v).value = (rule.matches w).value) :
    (visibilityBy v default rules anyCounts anyMatches).value =
      (visibilityBy w default rules anyCounts anyMatches).value := by
  induction rules generalizing anyCounts anyMatches with
  | nil => rfl
  | cons rule rules ih =>
    have ih' := fun c m => ih c m (fun x hx => ht x (List.mem_cons_of_mem rule hx))
      fun x hx => hm x (List.mem_cons_of_mem rule hx)
    have htrigger := ht rule List.mem_cons_self
    have hmatch := hm rule List.mem_cons_self
    unfold visibilityBy
    split
    · rw [Metered.value_bind, Metered.value_bind, hmatch]
      split
      · rfl
      · exact ih' _ _
    · rw [htrigger]
      split
      · rw [Metered.value_bind, Metered.value_bind, hmatch]
        exact ih' _ _
      · exact ih' _ _
    · exact ih' _ _

theorem any_matches_congr {α : Type} {rules : List α} {p : α → Bool}
    {fires : α → Dict String → Metered Bool}
    (h : ∀ rule ∈ rules, (fires rule v).value = (fires rule w).value) :
    (Metered.any (fires · v) (rules.filter p)).value =
      (Metered.any (fires · w) (rules.filter p)).value := by
  rw [Metered.value_any, Metered.value_any, Bool.eq_iff_iff, List.any_eq_true, List.any_eq_true]
  have hin : ∀ rule ∈ rules.filter p, (fires rule v).value = (fires rule w).value :=
    fun rule hrule => h rule (List.mem_filter.1 hrule).1
  constructor
  · rintro ⟨rule, hrule, hfires⟩
    exact ⟨rule, hrule, hin rule hrule ▸ hfires⟩
  · rintro ⟨rule, hrule, hfires⟩
    exact ⟨rule, hrule, (hin rule hrule).symm ▸ hfires⟩

/-- A field has the same flags where all rules on it match alike. -/
theorem flagsOf_congr {r : Resolver} {field : String} (h : r.MatchAlike field v w) :
    r.flagsOf field v = r.flagsOf field w :=
  flagsOf_ext rfl (visibilityBy_congr _ _ _ h.triggers h.fieldRules)
    (fun _ => any_matches_congr h.fieldRules) (any_matches_congr h.valueRules)

end Resolver

/-! ## Edits -/

section

variable {fieldRules : List FieldRule} {valueRules : List ValueRule} {f t x : String}

theorem FieldRule.affected_of_mem_sources {r : FieldRule} (hr : r ∈ fieldRules)
    (hf : f ∈ r.sources) : r.target ∈ (Graph.ofRules fieldRules valueRules).affected f :=
  Graph.successors_subset_affected f
    ((Graph.mem_successors _ _ _ _).2 (.inl ⟨r, hr, hf, rfl⟩))

theorem ValueRule.affected_of_mem_sources {r : ValueRule} (hr : r ∈ valueRules)
    (hf : f ∈ r.sources) : r.target ∈ (Graph.ofRules fieldRules valueRules).affected f :=
  Graph.successors_subset_affected f
    ((Graph.mem_successors _ _ _ _).2 (.inr ⟨r, hr, hf, rfl⟩))

theorem getElem?_insert_of_not_mem {names : List String} (h : f ∉ names) :
    ∀ n ∈ names, (v.insert f x)[n]? = v[n]? := by
  intro n hn
  rw [Dict.getElem?_insert, if_neg]
  rintro rfl
  exact h hn

/-- An edit that does not affect the target of a rule makes no difference to the rule, unless the
target is what is edited and the rule is gated by it. -/
theorem FieldRule.matches_insert {r : FieldRule} (hr : r ∈ fieldRules)
    (ht : r.target ∉ (Graph.ofRules fieldRules valueRules).affected f)
    (hself : f = r.target → ¬ r.SelfGated) :
    (r.matches (v.insert f x)).value = (r.matches v).value :=
  matches_congr (getElem?_insert_of_not_mem fun hf =>
    ht (affected_of_mem_sources hr (mem_influences hf hself)))

theorem ValueRule.matches_insert {r : ValueRule} (hr : r ∈ valueRules)
    (ht : r.target ∉ (Graph.ofRules fieldRules valueRules).affected f)
    (hself : f = r.target → ¬ r.SelfGated) :
    (r.matches (v.insert f x)).value = (r.matches v).value :=
  matches_congr (getElem?_insert_of_not_mem fun hf =>
    ht (affected_of_mem_sources hr (mem_influences hf hself)))

namespace Resolver

/-- The rules on a field that an edit does not affect match alike before and after it, if those
that the edited field gates itself do. -/
theorem matchAlike_insert (defaults : Flags)
    (ht : t ∉ (Graph.ofRules fieldRules valueRules).affected f)
    (hf : ∀ r ∈ fieldRules, r.target = t → f = t → r.SelfGated →
      (r.matches (v.insert f x)).value = (r.matches v).value)
    (hv : ∀ r ∈ valueRules, r.target = t → f = t → r.SelfGated →
      (r.matches (v.insert f x)).value = (r.matches v).value) :
    MatchAlike ⟨Graph.ofRules fieldRules valueRules, defaults⟩ t (v.insert f x) v := by
  refine ⟨fun r hr => ?_, fun r hr => ?_, fun r hr => ?_⟩
  · rw [Graph.fieldRulesOn_ofRules, List.mem_filter, decide_eq_true_eq] at hr
    obtain ⟨hr, rfl⟩ := hr
    have htrigger : f ∉ [r.trigger] := by
      rw [List.mem_singleton]
      rintro rfl
      exact ht (FieldRule.affected_of_mem_sources hr List.mem_cons_self)
    exact hasText_congr (getElem?_insert_of_not_mem htrigger _ List.mem_cons_self)
  · rw [Graph.fieldRulesOn_ofRules, List.mem_filter, decide_eq_true_eq] at hr
    obtain ⟨hr, rfl⟩ := hr
    by_cases hself : f = r.target ∧ r.SelfGated
    · exact hf r hr rfl hself.1 hself.2
    · exact FieldRule.matches_insert hr ht fun h hg => hself ⟨h, hg⟩
  · rw [Graph.valueRulesOn_ofRules, List.mem_filter, decide_eq_true_eq] at hr
    obtain ⟨hr, rfl⟩ := hr
    by_cases hself : f = r.target ∧ r.SelfGated
    · exact hv r hr rfl hself.1 hself.2
    · exact ValueRule.matches_insert hr ht fun h hg => hself ⟨h, hg⟩

/-- Without gates that refer to their own target, an edit leaves the flags of all fields that it
does not affect. -/
theorem flagsOf_insert (defaults : Flags)
    (ht : t ∉ (Graph.ofRules fieldRules valueRules).affected f)
    (hf : ∀ r ∈ fieldRules, ¬ r.SelfGated) (hv : ∀ r ∈ valueRules, ¬ r.SelfGated) :
    flagsOf ⟨Graph.ofRules fieldRules valueRules, defaults⟩ t (v.insert f x) =
      flagsOf ⟨Graph.ofRules fieldRules valueRules, defaults⟩ t v :=
  flagsOf_congr (matchAlike_insert defaults ht (fun r hr _ _ hg => absurd hg (hf r hr))
    fun r hr _ _ hg => absurd hg (hv r hr))

end Resolver

end

/-- Some rule on `t` looks at `f`. -/
def RuleReads (fieldRules : List FieldRule) (valueRules : List ValueRule) (t f : String) : Prop :=
  (∃ r ∈ fieldRules, r.target = t ∧ f ∈ r.reads) ∨ ∃ r ∈ valueRules, r.target = t ∧ f ∈ r.reads

/-- Some rule on `t` is gated by `t`. -/
def GatesItself (fieldRules : List FieldRule) (valueRules : List ValueRule) (t : String) : Prop :=
  (∃ r ∈ fieldRules, r.target = t ∧ r.SelfGated) ∨ ∃ r ∈ valueRules, r.target = t ∧ r.SelfGated

/-- Some rule on `t` that is gated by `t` matches for one of two kinds of values only. -/
def OwnGateTurns (fieldRules : List FieldRule) (valueRules : List ValueRule) (t : String)
    (v w : Dict String) : Prop :=
  (∃ r ∈ fieldRules, r.target = t ∧ r.SelfGated ∧ (r.matches v).value ≠ (r.matches w).value) ∨
    ∃ r ∈ valueRules, r.target = t ∧ r.SelfGated ∧ (r.matches v).value ≠ (r.matches w).value

theorem RuleReads.affected {fieldRules : List FieldRule} {valueRules : List ValueRule}
    {t f : String} (h : RuleReads fieldRules valueRules t f)
    (hself : f = t → ¬ GatesItself fieldRules valueRules t) :
    t ∈ (Graph.ofRules fieldRules valueRules).affected f := by
  rcases h with ⟨r, hr, rfl, hf⟩ | ⟨r, hr, rfl, hf⟩
  · refine FieldRule.affected_of_mem_sources hr (mem_influences hf fun hft hg => ?_)
    exact hself hft (.inl ⟨r, hr, rfl, hg⟩)
  · refine ValueRule.affected_of_mem_sources hr (mem_influences hf fun hft hg => ?_)
    exact hself hft (.inr ⟨r, hr, rfl, hg⟩)

theorem GatesItself.ruleReads {fieldRules : List FieldRule} {valueRules : List ValueRule}
    {t : String} (h : GatesItself fieldRules valueRules t) :
    RuleReads fieldRules valueRules t t := by
  rcases h with ⟨r, hr, rfl, hg⟩ | ⟨r, hr, rfl, hg⟩
  · exact .inl ⟨r, hr, rfl, List.mem_cons_of_mem _ hg⟩
  · exact .inr ⟨r, hr, rfl, List.mem_cons_of_mem _ hg⟩

/-- An own gate that turns makes a rule on the field match for one kind of values only. -/
theorem OwnGateTurns.not_matchAlike {fieldRules : List FieldRule} {valueRules : List ValueRule}
    {defaults : Flags} {t : String} {v w : Dict String}
    (h : OwnGateTurns fieldRules valueRules t v w) :
    ¬ Resolver.MatchAlike ⟨Graph.ofRules fieldRules valueRules, defaults⟩ t v w := by
  intro halike
  rcases h with ⟨r, hr, rfl, -, hne⟩ | ⟨r, hr, rfl, -, hne⟩
  · refine hne (halike.fieldRules r ?_)
    rw [Graph.fieldRulesOn_ofRules]
    exact List.mem_filter.2 ⟨hr, by simp⟩
  · refine hne (halike.valueRules r ?_)
    rw [Graph.valueRulesOn_ofRules]
    exact List.mem_filter.2 ⟨hr, by simp⟩

/-- The affected fields are complete but for own gates: all that the rules on `t` look at affects
`t`, exactly if `t` affects itself wherever it gates a rule on itself.  An edit that does not affect
`t` leaves the rules on `t` as they match, exactly if it does not edit `t` and turn an own gate of
`t` by that; the flags of `t` are left then. -/
theorem affected_complete_but_own_gates (fieldRules : List FieldRule)
    (valueRules : List ValueRule) (t : String) :
    ((∀ f, RuleReads fieldRules valueRules t f →
        t ∈ (Graph.ofRules fieldRules valueRules).affected f) ↔
      (GatesItself fieldRules valueRules t →
        t ∈ (Graph.ofRules fieldRules valueRules).affected t)) ∧
    ∀ (defaults : Flags) (s : FormState) (f x : String),
      let r : Resolver := { (Resolver.ofRules fieldRules valueRules).value with defaults }
      let s' := s.setValue f x
      let turns := f = t ∧ OwnGateTurns fieldRules valueRules t s'.values s.values
      t ∉ r.graph.affected f →
        (r.MatchAlike t s'.values s.values ↔ ¬ turns) ∧
        (¬ turns → r.flagsOf t s'.values = r.flagsOf t s.values) := by
  rw [Resolver.value_ofRules]
  refine ⟨⟨fun h hg => h t hg.ruleReads, fun h f hf => ?_⟩, ?_⟩
  · by_cases hg : GatesItself fieldRules valueRules t
    · by_cases hft : f = t
      · exact hft ▸ h hg
      · exact hf.affected fun hft' => absurd hft' hft
    · exact hf.affected fun _ => hg
  · intro defaults s f x r s' turns ht
    have halike : ¬ turns → r.MatchAlike t s'.values s.values := by
      intro hturns
      refine Resolver.matchAlike_insert defaults ht ?_ ?_
      · intro rule hrule htarget hft hg
        refine Classical.byContradiction fun hne => ?_
        exact hturns ⟨hft, .inl ⟨rule, hrule, htarget, hg, hne⟩⟩
      · intro rule hrule htarget hft hg
        refine Classical.byContradiction fun hne => ?_
        exact hturns ⟨hft, .inr ⟨rule, hrule, htarget, hg, hne⟩⟩
    have hnot : r.MatchAlike t s'.values s.values → ¬ turns :=
      fun hmatch hturns => hturns.2.not_matchAlike hmatch
    exact ⟨⟨hnot, halike⟩, fun hturns => Resolver.flagsOf_congr (halike hturns)⟩

/-- An edit of `B` leaves the flags of `T`, which are up to `A` alone. -/
theorem affected_complete_but_own_gates_bystander :
    let rule : FieldRule := { trigger := "A", target := "T", action := .hide, gate := "@A == 'x'" }
    let r : Resolver := { (Resolver.ofRules [rule] []).value with defaults := {} }
    "T" ∉ r.graph.affected "B" ∧
      r.flagsOf "T" (FormState.setValue {} "B" "x").values = r.flagsOf "T" ∅ := by
  intro rule r
  have ht : "T" ∉ r.graph.affected "B" := by decide +kernel
  refine ⟨ht, ?_⟩
  have hkept := (affected_complete_but_own_gates [rule] [] "T").2 {} {} "B" "x" ht
  exact hkept.2 fun h => absurd h.1 (by decide)

/-- A field that gates a rule on itself has other flags after its edit, yet the edit affects no
field. -/
theorem affected_incomplete_own_gate :
    ¬ ∀ (fieldRules : List FieldRule) (valueRules : List ValueRule) (defaults : Flags)
      (s : FormState) (f x t : String),
      let r : Resolver := { (Resolver.ofRules fieldRules valueRules).value with defaults }
      t ∉ r.graph.affected f → r.flagsOf t (s.setValue f x).values = r.flagsOf t s.values := by
  intro h
  let rule : FieldRule := { trigger := "A", target := "T", action := .hide, gate := "@T == 'x'" }
  have heq := h [rule] [] {} {} "T" "x" "T" (by decide +kernel)
  revert heq
  decide +kernel

end FormLogic
