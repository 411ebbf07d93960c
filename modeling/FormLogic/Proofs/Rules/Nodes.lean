import FormLogic.Proofs.Rules.Cycles
import FormLogic.Proofs.Rules.Reads

/-!
# FormLogic.Proofs.Rules.Nodes

A graph has what its rules say, and nothing else.

* `RuleMentions fieldRules valueRules x`: some rule has `x` as its trigger, as its target or in its
  gate;
* `RuleBears fieldRules valueRules a t`: some rule on `t` has `a` as its trigger, or in its gate
  where `a` is not `t`;
* `Graph.Affects`, `Graph.DependsOn`: the links that are stored with their source and with their
  target;
* `order_perm_keys`: the order holds all nodes, each once;
* `graph_of_rules`: nodes, links, rules, order and affected fields of a graph.
-/

namespace FormLogic

variable {fieldRules : List FieldRule} {valueRules : List ValueRule} {a t x : String}

/-- The trigger of a rule bears on its target, and so do the other fields in its gate. -/
theorem mem_influences_iff {trigger target : String} {gate : Option String} :
    a ∈ influences trigger gate target ↔
      trigger = a ∨ a ∈ gateReferences gate ∧ a ≠ target := by
  rw [influences, List.mem_cons, List.mem_filter, decide_eq_true_eq, eq_comm]
  rfl

/-- Some rule has the field as its trigger, as its target or in its gate. -/
def RuleMentions (fieldRules : List FieldRule) (valueRules : List ValueRule) (x : String) : Prop :=
  (∃ r ∈ fieldRules, r.trigger = x ∨ r.target = x ∨ x ∈ gateReferences r.gate?) ∨
    ∃ r ∈ valueRules, r.trigger = x ∨ r.target = x ∨ x ∈ gateReferences r.gate?

/-- Some rule on `t` has `a` as its trigger, or in its gate where `a` is not `t`. -/
def RuleBears (fieldRules : List FieldRule) (valueRules : List ValueRule) (a t : String) : Prop :=
  (∃ r ∈ fieldRules, r.target = t ∧ (r.trigger = a ∨ a ∈ gateReferences r.gate? ∧ a ≠ t)) ∨
    ∃ r ∈ valueRules, r.target = t ∧ (r.trigger = a ∨ a ∈ gateReferences r.gate? ∧ a ≠ t)

instance : Decidable (RuleBears fieldRules valueRules a t) := inferInstanceAs (Decidable (_ ∨ _))

theorem ruleLinks_iff_ruleBears :
    RuleLinks fieldRules valueRules a t ↔ RuleBears fieldRules valueRules a t := by
  have hone : ∀ {trigger target : String} {gate : Option String},
      a ∈ influences trigger gate target ∧ target = t ↔
        target = t ∧ (trigger = a ∨ a ∈ gateReferences gate ∧ a ≠ t) := by
    intro trigger target gate
    rw [mem_influences_iff, and_comm]
    exact and_congr_right fun h => by rw [h]
  unfold RuleLinks RuleBears FieldRule.sources ValueRule.sources
  simp only [hone]

namespace Graph

/-- The link is stored with its source. -/
def Affects (g : Graph) (a t : String) : Prop := ∃ n, g.node? a = some n ∧ t ∈ n.affects

/-- The link is stored with its target. -/
def DependsOn (g : Graph) (t a : String) : Prop := ∃ n, g.node? t = some n ∧ a ∈ n.dependsOn

theorem node_eq {g : Graph} {n : Node} (h : g.node? x = some n) : Nodes.node g.nodes x = n := by
  have hget : g.nodes[x]? = some n := h
  rw [Nodes.node, hget, Option.getD_some]

theorem affects_iff {g : Graph} : g.Affects a t ↔ t ∈ (Nodes.node g.nodes a).affects := by
  unfold Affects node? Nodes.node
  cases g.nodes[a]? <;> simp

theorem dependsOn_iff {g : Graph} : g.DependsOn t a ↔ a ∈ (Nodes.node g.nodes t).dependsOn := by
  unfold DependsOn node? Nodes.node
  cases g.nodes[t]? <;> simp

theorem mem_nodes_iff_ruleMentions :
    x ∈ (ofRules fieldRules valueRules).nodes ↔ RuleMentions fieldRules valueRules x := by
  have hone : ∀ {trigger target : String} {gate : Option String},
      x ∈ influences trigger gate target ∨ target = x ↔
        trigger = x ∨ target = x ∨ x ∈ gateReferences gate := by
    intro trigger target gate
    rw [mem_influences_iff]
    by_cases h : target = x
    · simp [h]
    · simp [h, Ne.symm h]
  rw [mem_nodes]
  unfold RuleMentions FieldRule.sources ValueRule.sources
  simp only [hone]

/-- Both ends of a link have nodes. -/
theorem mem_nodes_of_ruleLinks (h : RuleLinks fieldRules valueRules a t) :
    a ∈ (ofRules fieldRules valueRules).nodes := by
  rw [mem_nodes]
  exact h.imp (fun ⟨r, hr, ha, _⟩ => ⟨r, hr, .inl ha⟩) fun ⟨r, hr, ha, _⟩ => ⟨r, hr, .inl ha⟩

/-! ## The order -/

theorem mem_dependencies_edgesOf {nodes : Nodes} :
    a ∈ (edgesOf nodes).dependencies t ↔ a ∈ (Nodes.node nodes t).dependsOn := by
  unfold Edges.dependencies edgesOf Nodes.node
  rw [Std.ExtTreeMap.getElem?_map]
  cases nodes[t]? <;> simp

/-- The order holds all nodes, each once. -/
theorem order_perm_keys :
    (ofRules fieldRules valueRules).ordered.order.Perm
      (ofRules fieldRules valueRules).nodes.keys := by
  have horder : ∀ x, x ∈ (ofRules fieldRules valueRules).ordered.order ↔
      x ∈ (ofRules fieldRules valueRules).nodes.keys ∨
        ∃ n, RuleLinks fieldRules valueRules x n := by
    intro x
    refine Edges.mem_order.trans (or_congr ?_ (exists_congr fun n => ?_))
    · rw [edgesOf, Std.ExtTreeMap.keys_map]
      rfl
    · exact mem_dependencies_edgesOf.trans (mem_dependsOn fieldRules valueRules x n)
  refine (List.perm_ext_iff_of_nodup Edges.order_nodup Std.ExtTreeMap.nodup_keys).2 fun x => ?_
  refine (horder x).trans (or_iff_left_of_imp ?_)
  rintro ⟨n, hn⟩
  exact Std.ExtTreeMap.mem_keys.2 (mem_nodes_of_ruleLinks hn)

theorem target_of_mem_affected {f : String}
    (h : x ∈ (ofRules fieldRules valueRules).affected f) :
    (∃ r ∈ fieldRules, r.target = x) ∨ ∃ r ∈ valueRules, r.target = x := by
  have hruled := ruled_of_mem_affected h
  rw [mem_ruled, fieldRulesOn_ofRules, valueRulesOn_ofRules] at hruled
  simpa [List.filter_eq_nil_iff] using hruled

end Graph

/-- The graph of rules has nodes for the fields that rules mention, and no others.  A link leads
from each field that bears on another to that other; it is stored at both ends.  A node bears the
name of its field and has the rules on it, in their order.  The order holds all nodes, each once.
Whatever is edited, fields without rules are not affected. -/
theorem graph_of_rules (fieldRules : List FieldRule) (valueRules : List ValueRule) :
    let g := Graph.ofRules fieldRules valueRules
    (∀ x, x ∈ g.nodes.keys ↔ RuleMentions fieldRules valueRules x) ∧
    (∀ a t, g.Affects a t ↔ g.DependsOn t a) ∧
    (∀ a t, g.Affects a t ↔ RuleBears fieldRules valueRules a t) ∧
    (∀ x n, g.node? x = some n → n.field = x ∧ n.fieldRules = fieldRules.filter (·.target = x) ∧
      n.valueRules = valueRules.filter (·.target = x)) ∧
    g.ordered.order.Perm g.nodes.keys ∧
    ∀ f, ∀ x ∈ g.affected f,
      (∃ r ∈ fieldRules, r.target = x) ∨ ∃ r ∈ valueRules, r.target = x := by
  intro g
  have haffects : ∀ a t, g.Affects a t ↔ RuleLinks fieldRules valueRules a t :=
    fun a t => Graph.affects_iff.trans (Graph.mem_affects fieldRules valueRules a t)
  have hdependsOn : ∀ a t, g.DependsOn t a ↔ RuleLinks fieldRules valueRules a t :=
    fun a t => Graph.dependsOn_iff.trans (Graph.mem_dependsOn fieldRules valueRules a t)
  refine ⟨fun x => ?_, fun a t => (haffects a t).trans (hdependsOn a t).symm,
    fun a t => (haffects a t).trans ruleLinks_iff_ruleBears, fun x n hn => ?_,
    Graph.order_perm_keys, fun f x hx => Graph.target_of_mem_affected hx⟩
  · rw [Std.ExtTreeMap.mem_keys]
    exact Graph.mem_nodes_iff_ruleMentions
  · obtain rfl := Graph.node_eq hn
    refine ⟨Graph.field_ofRules fieldRules valueRules x, ?_, ?_⟩
    · rw [← Graph.fieldRulesOn_eq, Graph.fieldRulesOn_ofRules]
    · rw [← Graph.valueRulesOn_eq, Graph.valueRulesOn_ofRules]

/-- `B` has two rules, one of which it triggers and gates itself.  The gate on `A` cannot be read,
but it refers to `D`, so an edit of `D` reaches `A`, and `B` through it. -/
theorem graph_of_rules_overlap :
    let fieldRules : List FieldRule :=
      [{ trigger := "A", target := "B" }, { trigger := "B", target := "B", gate := "@C > @B" }]
    let valueRules : List ValueRule := [{ trigger := "C", target := "A", gate := "@D ==" }]
    let g := Graph.ofRules fieldRules valueRules
    g.nodes.keys = ["A", "B", "C", "D"] ∧ g.DependsOn "A" "D" ∧
      (∃ n, g.node? "B" = some n ∧ n.fieldRules = fieldRules) ∧
      g.affected "D" = ["A", "B"] ∧
      ∀ x ∈ ["A", "B"], (∃ r ∈ fieldRules, r.target = x) ∨ ∃ r ∈ valueRules, r.target = x := by
  intro fieldRules valueRules g
  obtain ⟨-, hboth, hbears, hnode, -, hruled⟩ := graph_of_rules fieldRules valueRules
  have hdepends : g.DependsOn "A" "D" :=
    (hboth "D" "A").1 ((hbears "D" "A").2 (by decide +kernel))
  have haffected : g.affected "D" = ["A", "B"] := by decide +kernel
  have hsome : (g.node? "B").isSome = true := by decide +kernel
  obtain ⟨n, hn⟩ := Option.isSome_iff_exists.1 hsome
  refine ⟨by decide +kernel, hdepends, ⟨n, hn, (hnode "B" n hn).2.1⟩, haffected, fun x hx => ?_⟩
  exact hruled "D" x (haffected ▸ hx)

end FormLogic
