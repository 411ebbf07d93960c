import FormLogic.Proofs.Rules.Nodes
import FormLogic.Proofs.Rules.Flags

/-!
# FormLogic.Proofs.Rules.Reordering

Rules in another order make the same graph and give the same flags.

* `Graph.Rearranged g g'`: graphs that differ at most in the order of the rules on each node;
* `Rearranged.edgesOf_eq`, `Rearranged.affected_eq`, `Rearranged.ruled_eq`: what is the same of
  them;
* `FieldRule.Hides`, `FieldRule.Counts`: the rules that decide whether a field is visible;
* `value_visibilityBy`: visibility without the order in which rules are met;
* `reordered_rules_agree`: the graph, the flags and the states of a resolver.

Visibility is decided by the first rule that hides and matches, so one has to know that all of them
decide alike.
-/

namespace FormLogic

open Formula

/-! ## Graphs -/

namespace Graph

/-- Graphs that differ at most in the order of the rules on each node. -/
structure Rearranged (g g' : Graph) : Prop where
  mem_nodes : ∀ x, x ∈ g.nodes ↔ x ∈ g'.nodes
  affects : ∀ x, (Nodes.node g.nodes x).affects = (Nodes.node g'.nodes x).affects
  dependsOn : ∀ x, (Nodes.node g.nodes x).dependsOn = (Nodes.node g'.nodes x).dependsOn
  fieldRules : ∀ x, (g.fieldRulesOn x).Perm (g'.fieldRulesOn x)
  valueRules : ∀ x, (g.valueRulesOn x).Perm (g'.valueRulesOn x)

theorem rearranged_ofRules {fieldRules fieldRules' : List FieldRule}
    {valueRules valueRules' : List ValueRule} (hf : fieldRules.Perm fieldRules')
    (hv : valueRules.Perm valueRules') :
    Rearranged (ofRules fieldRules valueRules) (ofRules fieldRules' valueRules') := by
  have hlinks : ∀ a b, RuleLinks fieldRules valueRules a b ↔
      RuleLinks fieldRules' valueRules' a b := by
    intro a b
    simp only [RuleLinks, hf.mem_iff, hv.mem_iff]
  refine ⟨fun x => ?_, fun x => ?_, fun x => ?_, fun x => ?_, fun x => ?_⟩
  · simp only [Graph.mem_nodes, hf.mem_iff, hv.mem_iff]
  · refine Std.ExtTreeSet.ext_mem fun b => ?_
    rw [mem_affects, mem_affects, hlinks]
  · refine Std.ExtTreeSet.ext_mem fun a => ?_
    rw [mem_dependsOn, mem_dependsOn, hlinks]
  · rw [fieldRulesOn_ofRules, fieldRulesOn_ofRules]
    exact hf.filter _
  · rw [valueRulesOn_ofRules, valueRulesOn_ofRules]
    exact hv.filter _

theorem getElem?_edgesOf (nodes : Nodes) (x : String) :
    (edgesOf nodes)[x]? = if x ∈ nodes then some (Nodes.node nodes x).dependsOn else none := by
  rw [edgesOf, Std.ExtTreeMap.getElem?_map]
  unfold Nodes.node
  split
  · rename_i h
    obtain ⟨n, hn⟩ := Option.isSome_iff_exists.1 (Std.ExtTreeMap.isSome_getElem?_iff_mem.2 h)
    rw [hn]
    rfl
  · rename_i h
    rw [Std.ExtTreeMap.getElem?_eq_none h]
    rfl

theorem reach_congr {g g' : Graph} (h : ∀ a, g.successors a = g'.successors a) (depth : Nat)
    (found : List String) (field : String) :
    g.reach depth found field = g'.reach depth found field := by
  induction depth generalizing found field with
  | zero => rfl
  | succ depth ih => simp only [reach, h, ih]

/-- The fields that have rules, by the rules on them. -/
theorem ruled_eq (g : Graph) : g.ruled = g.nodes.keys.filter
    fun x => !(g.fieldRulesOn x).isEmpty || !(g.valueRulesOn x).isEmpty := by
  rw [ruled, ← Std.ExtTreeMap.map_fst_toList_eq_keys, List.filter_map]
  refine congrArg (List.map Prod.fst) (List.filter_congr fun e he => ?_)
  have hget : g.nodes[e.1]? = some e.2 := Std.ExtTreeMap.mem_toList_iff_getElem?_eq_some.1 he
  simp [Node.hasRules, fieldRulesOn, valueRulesOn, node?, hget]

namespace Rearranged

variable {g g' : Graph}

theorem edgesOf_eq (h : Rearranged g g') : edgesOf g.nodes = edgesOf g'.nodes := by
  refine Std.ExtTreeMap.ext_getElem? fun {x} => ?_
  simp only [getElem?_edgesOf, h.mem_nodes, h.dependsOn]

theorem keys_eq (h : Rearranged g g') : g.nodes.keys = g'.nodes.keys := by
  have hkeys := congrArg Std.ExtTreeMap.keys h.edgesOf_eq
  rwa [edgesOf, edgesOf, Std.ExtTreeMap.keys_map, Std.ExtTreeMap.keys_map] at hkeys

theorem successors_eq (h : Rearranged g g') (a : String) : g.successors a = g'.successors a := by
  rw [Graph.successors_eq, Graph.successors_eq, h.affects]

theorem affected_eq (h : Rearranged g g') (f : String) : g.affected f = g'.affected f := by
  have hsize : g.nodes.size = g'.nodes.size := by
    rw [← Std.ExtTreeMap.length_keys, h.keys_eq, Std.ExtTreeMap.length_keys]
  rw [affected, affected, hsize]
  exact reach_congr h.successors_eq _ _ _

theorem ruled_eq (h : Rearranged g g') : g.ruled = g'.ruled := by
  rw [Graph.ruled_eq, Graph.ruled_eq, h.keys_eq]
  refine List.filter_congr fun x _ => ?_
  rw [(h.fieldRules x).isEmpty_eq, (h.valueRules x).isEmpty_eq]

end Rearranged
end Graph

/-! ## Flags -/

/-- The rule hides the field. -/
def FieldRule.Hides (r : FieldRule) (field : String) (values : Dict String) : Prop :=
  r.target = field ∧ r.action = .hide ∧ (r.matches values).value = true

/-- The rule can show the field, and its trigger has a value. -/
def FieldRule.Counts (r : FieldRule) (field : String) (values : Dict String) : Prop :=
  r.target = field ∧ r.action = .show ∧ hasText values r.trigger = true

instance (r : FieldRule) (field : String) (values : Dict String) :
    Decidable (r.Hides field values) := inferInstanceAs (Decidable (_ ∧ _))

instance (r : FieldRule) (field : String) (values : Dict String) :
    Decidable (r.Counts field values) := inferInstanceAs (Decidable (_ ∧ _))

namespace Resolver

/-- Visibility without the order in which rules are met. -/
theorem value_visibilityBy (values : Dict String) (default : Bool) (rules : List FieldRule)
    (anyCounts anyMatches : Bool) :
    (visibilityBy values default rules anyCounts anyMatches).value =
      if rules.any fun r => r.action == .hide && (r.matches values).value then false
      else if anyCounts || rules.any fun r => r.action == .show && hasText values r.trigger then
        anyMatches || rules.any fun r =>
          r.action == .show && hasText values r.trigger && (r.matches values).value
      else default := by
  induction rules generalizing anyCounts anyMatches with
  | nil => simp [visibilityBy]
  | cons r rules ih =>
    unfold visibilityBy
    split
    · rename_i hhide
      rw [Metered.value_bind]
      cases hmatch : (r.matches values).value <;> simp [hhide, hmatch, ih]
    · rename_i hshow
      cases htext : hasText values r.trigger with
      | false => simp [hshow, htext, ih]
      | true => cases hmatch : (r.matches values).value <;> simp [hshow, htext, hmatch, ih]
    · rename_i hhide hshow
      rw [ih, List.any_cons, List.any_cons, List.any_cons, beq_eq_false_iff_ne.2 hhide,
        beq_eq_false_iff_ne.2 hshow]
      simp only [Bool.false_and, Bool.false_or]

/-- A field is hidden if some rule hides it.  Otherwise, if some rules count, one of them has to
match; and if none do, the field is as it is without rules. -/
theorem value_visibility {fieldRules : List FieldRule} {r : Resolver} {field : String}
    (hr : r.graph.fieldRulesOn field = fieldRules.filter (·.target = field))
    (values : Dict String) :
    (r.visibility field values).value =
      if ∃ rule ∈ fieldRules, rule.Hides field values then false
      else if ∃ rule ∈ fieldRules, rule.Counts field values then
        decide (∃ rule ∈ fieldRules, rule.Counts field values ∧ (rule.matches values).value = true)
      else r.defaults.visibility[field]?.getD true := by
  rw [visibility, hr, value_visibilityBy]
  simp only [List.any_filter, Bool.false_or]
  have hany : ∀ {P : FieldRule → Prop} [DecidablePred P] {p : FieldRule → Bool},
      (∀ rule, p rule = true ↔ P rule) →
        fieldRules.any p = decide (∃ rule ∈ fieldRules, P rule) := by
    intro P _ p hp
    rw [Bool.eq_iff_iff, List.any_eq_true, decide_eq_true_eq]
    simp only [hp]
  rw [hany (P := (·.Hides field values)), hany (P := (·.Counts field values)),
    hany (P := fun rule => rule.Counts field values ∧ (rule.matches values).value = true)]
  · simp only [decide_eq_true_eq]
  all_goals
    intro rule
    simp [FieldRule.Hides, FieldRule.Counts, and_assoc]

/-- The flags of a field do not depend on the order of the rules on it. -/
theorem flagsOf_perm {g g' : Graph} (h : g.Rearranged g') (defaults : Flags) (field : String)
    (values : Dict String) :
    flagsOf ⟨g, defaults⟩ field values = flagsOf ⟨g', defaults⟩ field values := by
  refine flagsOf_ext rfl ?_ (fun action => ?_) ?_
  · unfold visibility
    simp only [value_visibilityBy, (h.fieldRules field).any_eq]
  · unfold anyMatch
    rw [Metered.value_any, Metered.value_any, ((h.fieldRules field).filter _).any_eq]
  · rw [Metered.value_any, Metered.value_any, ((h.valueRules field).filter _).any_eq]

/-- Recalculation does not depend on the order of rules. -/
theorem recalculate_perm {g g' : Graph} (h : g.Rearranged g') (defaults : Flags)
    (fields : List String) (s : FormState) :
    (recalculate ⟨g, defaults⟩ fields s).value = (recalculate ⟨g', defaults⟩ fields s).value := by
  rw [value_recalculate, value_recalculate]
  simp only [flagsOf_perm h]

end Resolver

/-- Rules of both kinds can be given in any order: the graph has the same nodes and links, the same
order and cycles, and the same affected fields; fields have the same flags, and states become the
same by updates and recalculations.  A field is hidden if a rule hides it.  Otherwise, if rules that
show it have a trigger with a value, one of them has to match; and if none do, the field is as it is
without rules, visible unless it is said to be hidden. -/
theorem reordered_rules_agree {fieldRules fieldRules' : List FieldRule}
    {valueRules valueRules' : List ValueRule} (hf : fieldRules.Perm fieldRules')
    (hv : valueRules.Perm valueRules') (defaults : Flags) :
    let r : Resolver := { (Resolver.ofRules fieldRules valueRules).value with defaults }
    let r' : Resolver := { (Resolver.ofRules fieldRules' valueRules').value with defaults }
    Graph.edgesOf r.graph.nodes = Graph.edgesOf r'.graph.nodes ∧
    (∀ a t, r.graph.Affects a t ↔ r'.graph.Affects a t) ∧
    r.graph.ordered = r'.graph.ordered ∧
    (∀ f, r.graph.affected f = r'.graph.affected f) ∧
    (∀ t values, r.flagsOf t values = r'.flagsOf t values ∧
      (r.flagsOf t values).visible =
        if ∃ rule ∈ fieldRules, rule.Hides t values then false
        else if ∃ rule ∈ fieldRules, rule.Counts t values then
          decide (∃ rule ∈ fieldRules, rule.Counts t values ∧ (rule.matches values).value = true)
        else defaults.visibility[t]?.getD true) ∧
    ∀ s : FormState, (∀ f v, (r.update f v s).value = (r'.update f v s).value) ∧
      (r.recalculateAll s).value = (r'.recalculateAll s).value := by
  rw [Resolver.value_ofRules, Resolver.value_ofRules]
  intro r r'
  have h : r.graph.Rearranged r'.graph := Graph.rearranged_ofRules hf hv
  refine ⟨h.edgesOf_eq, fun a t => ?_, congrArg orderOf h.edgesOf_eq, h.affected_eq,
    fun t values => ⟨Resolver.flagsOf_perm h defaults t values, ?_⟩, fun s => ⟨fun f v => ?_, ?_⟩⟩
  · rw [Graph.affects_iff, Graph.affects_iff, h.affects]
  · exact Resolver.value_visibility (Graph.fieldRulesOn_ofRules fieldRules valueRules t) values
  · rw [Resolver.update, Resolver.update, h.affected_eq]
    exact Resolver.recalculate_perm h defaults _ _
  · rw [Resolver.recalculateAll, Resolver.recalculateAll, h.ruled_eq]
    exact Resolver.recalculate_perm h defaults _ s

/-- One rule hides `T`, one that counts shows it, one does not count.  The last rule goes first, and
`T` is hidden all the same. -/
theorem reordered_rules_agree_hidden :
    let first : FieldRule := { trigger := "A", target := "T", action := .show }
    let second : FieldRule := { trigger := "B", target := "T", action := .show }
    let last : FieldRule := { trigger := "A", target := "T", action := .hide, gate := "@A == 'x'" }
    let r : Resolver := { (Resolver.ofRules [first, second, last] []).value with defaults := {} }
    let r' : Resolver := { (Resolver.ofRules [last, first, second] []).value with defaults := {} }
    [first, second, last].Perm [last, first, second] ∧
      (r.update "A" "x" {}).value = (r'.update "A" "x" {}).value ∧
      (r'.update "A" "x" {}).value.flags.visibility["T"]? = some false ∧
      (r'.update "A" "y" {}).value.flags.visibility["T"]? = some true := by
  intro first second last r r'
  have hperm : [first, second, last].Perm [last, first, second] := by decide
  have hall := reordered_rules_agree hperm (List.Perm.refl []) {}
  exact ⟨hperm, (hall.2.2.2.2.2 {}).1 "A" "x", by decide +kernel, by decide +kernel⟩

end FormLogic
