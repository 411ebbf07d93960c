import FormLogic.Proofs.Dict
import FormLogic.Rules.Graph

/-!
# FormLogic.Proofs.Rules.Graph

The graph of a set of rules, read off the rules.

* `RuleLinks fieldRules valueRules a b`: some rule on `b` has `a` as its trigger or in its gate;
* `Nodes.Unlinked view`: a view of nodes that does not show their links;
* `mem_nodes`: the fields that have nodes;
* `mem_affects`, `mem_dependsOn`: the links of the graph, seen from either end;
* `mem_successors`: the successors of a field in the graph are the fields it is linked to;
* `fieldRulesOn_ofRules`, `valueRulesOn_ofRules`: the graph keeps the rules on each field, in order;
* `mem_ruled`: the fields that have rules;
* `successors_subset_affected`, `ruled_of_mem_affected`: what a change can reach lies between the
  successors and the fields that have rules.
-/

namespace FormLogic

/-- The fields that bear on the target of a rule. -/
def FieldRule.sources (r : FieldRule) : List String := influences r.trigger r.gate? r.target

/-- The fields that bear on the target of a rule. -/
def ValueRule.sources (r : ValueRule) : List String := influences r.trigger r.gate? r.target

/-- Some rule lets `a` bear on `b`. -/
def RuleLinks (fieldRules : List FieldRule) (valueRules : List ValueRule) (a b : String) : Prop :=
  (∃ r ∈ fieldRules, a ∈ r.sources ∧ r.target = b) ∨ ∃ r ∈ valueRules, a ∈ r.sources ∧ r.target = b

namespace Nodes

/-- The node of a field; fields that no rule mentions have an empty one. -/
def node (nodes : Nodes) (field : String) : Node := nodes[field]?.getD { field := field }

theorem node_empty (field : String) : node ∅ field = { field := field } := by
  simp [node]

theorem node_update (nodes : Nodes) (k field : String) (f : Node → Node) :
    node (update nodes k f) field = if k = field then f (node nodes k) else node nodes field := by
  unfold node update
  rw [Dict.getElem?_insert]
  split
  · rename_i h; subst h; rfl
  · rfl

theorem mem_update (nodes : Nodes) (k a : String) (f : Node → Node) :
    a ∈ update nodes k f ↔ k = a ∨ a ∈ nodes :=
  Dict.mem_insert

/-! ## Links -/

/-- What an update leaves alone. -/
theorem view_update {β : Type} (view : Node → β) {f : Node → Node} (hf : ∀ n, view (f n) = view n)
    (nodes : Nodes) (k a : String) : view (node (update nodes k f) a) = view (node nodes a) := by
  rw [node_update]
  split
  · rename_i h
    rw [hf, h]
  · rfl

/-- A view of nodes that does not show their links. -/
structure Unlinked {β : Type} (view : Node → β) : Prop where
  affects : ∀ n x, view { n with affects := x } = view n
  dependsOn : ∀ n x, view { n with dependsOn := x } = view n

theorem unlinked_field : Unlinked Node.field := ⟨fun _ _ => rfl, fun _ _ => rfl⟩

theorem unlinked_fieldRules : Unlinked Node.fieldRules := ⟨fun _ _ => rfl, fun _ _ => rfl⟩

theorem unlinked_valueRules : Unlinked Node.valueRules := ⟨fun _ _ => rfl, fun _ _ => rfl⟩

theorem Unlinked.linkAll {β : Type} {view : Node → β} (h : Unlinked view) (nodes : Nodes)
    (sources : List String) (a t : String) :
    view (node (linkAll nodes sources t) a) = view (node nodes a) := by
  induction sources generalizing nodes with
  | nil => rfl
  | cons s sources ih =>
    refine (ih (link nodes s t)).trans ?_
    rw [link, view_update view fun n => h.dependsOn n _, view_update view fun n => h.affects n _]

theorem mem_linkAll (nodes : Nodes) (sources : List String) (a t : String) :
    t = a ∨ a ∈ linkAll nodes sources t ↔ a ∈ sources ∨ t = a ∨ a ∈ nodes := by
  induction sources generalizing nodes with
  | nil => simp [linkAll]
  | cons s sources ih =>
    have hs := ih (link nodes s t)
    rw [link, mem_update, mem_update] at hs
    rw [linkAll, List.foldl_cons, ← linkAll, link, hs, List.mem_cons, eq_comm (a := a) (b := s)]
    grind

theorem mem_affects_link (nodes : Nodes) (a b s t : String) :
    b ∈ (node (link nodes s t) a).affects ↔ a = s ∧ b = t ∨ b ∈ (node nodes a).affects := by
  -- the second half of a link changes no `affects`
  have hsecond : (node (link nodes s t) a).affects =
      (node (update nodes s fun n => { n with affects := n.affects.insert t }) a).affects :=
    view_update Node.affects (by intro n; rfl) _ t a
  rw [hsecond, node_update]
  split
  · rename_i h
    subst h
    rw [NameSet.mem_insert]
    simp
  · rename_i h
    simp [Ne.symm h]

theorem mem_dependsOn_link (nodes : Nodes) (a b s t : String) :
    a ∈ (node (link nodes s t) b).dependsOn ↔ a = s ∧ b = t ∨ a ∈ (node nodes b).dependsOn := by
  -- the first half of a link changes no `dependsOn`
  have hfirst : ∀ x, (node (update nodes s fun n => { n with affects := n.affects.insert t })
      x).dependsOn = (node nodes x).dependsOn :=
    view_update Node.dependsOn (by intro n; rfl) nodes s
  rw [link, node_update]
  split
  · rename_i h
    subst h
    rw [NameSet.mem_insert, hfirst]
    simp
  · rename_i h
    rw [hfirst]
    simp [Ne.symm h]

theorem mem_affects_linkAll (nodes : Nodes) (sources : List String) (a b t : String) :
    b ∈ (node (linkAll nodes sources t) a).affects ↔
      a ∈ sources ∧ b = t ∨ b ∈ (node nodes a).affects := by
  induction sources generalizing nodes with
  | nil => simp [linkAll]
  | cons s sources ih =>
    have hs := ih (link nodes s t)
    rw [mem_affects_link] at hs
    rw [linkAll, List.foldl_cons, ← linkAll, hs, List.mem_cons, or_and_right, or_left_comm,
      or_assoc]

theorem mem_dependsOn_linkAll (nodes : Nodes) (sources : List String) (a b t : String) :
    a ∈ (node (linkAll nodes sources t) b).dependsOn ↔
      a ∈ sources ∧ b = t ∨ a ∈ (node nodes b).dependsOn := by
  induction sources generalizing nodes with
  | nil => simp [linkAll]
  | cons s sources ih =>
    have hs := ih (link nodes s t)
    rw [mem_dependsOn_link] at hs
    rw [linkAll, List.foldl_cons, ← linkAll, hs, List.mem_cons, or_and_right, or_left_comm,
      or_assoc]

/-! ## Adding rules -/

section

variable {α β : Type} {keep : Node → Node} (nodes : Nodes) (sources : List String) (a b t : String)

theorem mem_attach : a ∈ attach nodes sources t keep ↔ (a ∈ sources ∨ t = a) ∨ a ∈ nodes := by
  rw [attach, mem_update, mem_linkAll, or_assoc]

theorem mem_affects_attach (hkeep : ∀ n, (keep n).affects = n.affects) :
    b ∈ (node (attach nodes sources t keep) a).affects ↔
      a ∈ sources ∧ b = t ∨ b ∈ (node nodes a).affects := by
  rw [attach, view_update Node.affects hkeep, mem_affects_linkAll]

theorem mem_dependsOn_attach (hkeep : ∀ n, (keep n).dependsOn = n.dependsOn) :
    a ∈ (node (attach nodes sources t keep) b).dependsOn ↔
      a ∈ sources ∧ b = t ∨ a ∈ (node nodes b).dependsOn := by
  rw [attach, view_update Node.dependsOn hkeep, mem_dependsOn_linkAll]

theorem Unlinked.attach {view : Node → β} (h : Unlinked view)
    (hkeep : ∀ n, view (keep n) = view n) :
    view (node (attach nodes sources t keep) a) = view (node nodes a) := by
  rw [Nodes.attach, view_update view hkeep, h.linkAll]

/-- The node of the target keeps the rule behind those it has. -/
theorem Unlinked.attach_append {view : Node → List α} (h : Unlinked view) {r : α}
    (target : α → String) (hkeep : ∀ n, view (keep n) = view n ++ [r]) :
    view (node (Nodes.attach nodes sources (target r) keep) a) =
      view (node nodes a) ++ [r].filter (target · = a) := by
  rw [Nodes.attach, node_update]
  split
  · rename_i ht
    simp [hkeep, h.linkAll, ht]
  · rename_i ht
    simp [h.linkAll, ht]

end

section

variable {β : Type} {view : Node → β} (h : Unlinked view)

include h

theorem Unlinked.addFieldRule (hkeep : ∀ n rules, view { n with fieldRules := rules } = view n)
    (nodes : Nodes) (r : FieldRule) (a : String) :
    view (node (addFieldRule nodes r) a) = view (node nodes a) :=
  h.attach nodes r.sources a r.target fun n => hkeep n _

theorem Unlinked.addValueRule (hkeep : ∀ n rules, view { n with valueRules := rules } = view n)
    (nodes : Nodes) (r : ValueRule) (a : String) :
    view (node (addValueRule nodes r) a) = view (node nodes a) :=
  h.attach nodes r.sources a r.target fun n => hkeep n _

end

section

variable {α β : Type} {add : Nodes → α → Nodes}

/-- What each rule of some kind brings about holds behind all rules if one of them is of this kind,
or if it did before. -/
theorem foldl_add_iff {V : Nodes → Prop} {P : α → Prop}
    (hadd : ∀ nodes r, V (add nodes r) ↔ P r ∨ V nodes) (rules : List α) (nodes : Nodes) :
    V (rules.foldl add nodes) ↔ (∃ r ∈ rules, P r) ∨ V nodes := by
  induction rules generalizing nodes with
  | nil => simp
  | cons r rules ih =>
    rw [List.foldl_cons, ih, hadd]
    simp only [List.mem_cons, exists_eq_or_imp]
    rw [or_left_comm, or_assoc]

theorem view_foldl_add (view : Node → β)
    (hadd : ∀ nodes r a, view (node (add nodes r) a) = view (node nodes a)) (rules : List α)
    (nodes : Nodes) (a : String) :
    view (node (rules.foldl add nodes) a) = view (node nodes a) :=
  List.foldlRecOn (motive := fun n => view (node n a) = view (node nodes a)) rules add rfl
    fun n hn r _ => (hadd n r a).trans hn

/-- A node that keeps each rule on it keeps all of them, in their order. -/
theorem foldl_add_append (view : Node → List α) (target : α → String)
    (hadd : ∀ nodes r a, view (node (add nodes r) a) =
      view (node nodes a) ++ [r].filter (target · = a)) (rules : List α) (nodes : Nodes)
    (a : String) :
    view (node (rules.foldl add nodes) a) =
      view (node nodes a) ++ rules.filter (target · = a) := by
  induction rules generalizing nodes with
  | nil => simp
  | cons r rules ih =>
    rw [List.foldl_cons, ih, hadd, List.append_assoc, ← List.filter_append, List.singleton_append]

end

end Nodes

namespace Graph

section

variable (fieldRules : List FieldRule) (valueRules : List ValueRule) (a b : String)

/-- What each rule can bring about holds of the graph exactly if some rule does. -/
theorem ofRules_iff (V : Nodes → Prop) {P : FieldRule → Prop} {Q : ValueRule → Prop}
    (hfield : ∀ nodes r, V (Nodes.addFieldRule nodes r) ↔ P r ∨ V nodes)
    (hvalue : ∀ nodes r, V (Nodes.addValueRule nodes r) ↔ Q r ∨ V nodes) (hempty : ¬ V ∅) :
    V (ofRules fieldRules valueRules).nodes ↔
      (∃ r ∈ fieldRules, P r) ∨ ∃ r ∈ valueRules, Q r := by
  have hnodes := Nodes.foldl_add_iff hvalue valueRules (fieldRules.foldl Nodes.addFieldRule ∅)
  rw [Nodes.foldl_add_iff hfield, or_iff_left hempty, or_comm] at hnodes
  exact hnodes

/-- A field affects the fields that some rule links it to, and no others. -/
theorem mem_affects : b ∈ (Nodes.node (ofRules fieldRules valueRules).nodes a).affects ↔
    RuleLinks fieldRules valueRules a b := by
  refine ofRules_iff fieldRules valueRules (fun nodes => b ∈ (Nodes.node nodes a).affects)
    (fun nodes r => ?_) (fun nodes r => ?_) (by simp [Nodes.node_empty])
  · rw [eq_comm (a := r.target)]
    exact Nodes.mem_affects_attach nodes _ a b _ fun _ => rfl
  · rw [eq_comm (a := r.target)]
    exact Nodes.mem_affects_attach nodes _ a b _ fun _ => rfl

/-- Seen from its target, a link is the same. -/
theorem mem_dependsOn : a ∈ (Nodes.node (ofRules fieldRules valueRules).nodes b).dependsOn ↔
    RuleLinks fieldRules valueRules a b := by
  refine ofRules_iff fieldRules valueRules (fun nodes => a ∈ (Nodes.node nodes b).dependsOn)
    (fun nodes r => ?_) (fun nodes r => ?_) (by simp [Nodes.node_empty])
  · rw [eq_comm (a := r.target)]
    exact Nodes.mem_dependsOn_attach nodes _ a b _ fun _ => rfl
  · rw [eq_comm (a := r.target)]
    exact Nodes.mem_dependsOn_attach nodes _ a b _ fun _ => rfl

/-- There are nodes for the sources and the targets of rules, and no others. -/
theorem mem_nodes : a ∈ (ofRules fieldRules valueRules).nodes ↔
    (∃ r ∈ fieldRules, a ∈ r.sources ∨ r.target = a) ∨
      ∃ r ∈ valueRules, a ∈ r.sources ∨ r.target = a :=
  ofRules_iff fieldRules valueRules (a ∈ ·) (fun nodes _ => Nodes.mem_attach nodes _ a _)
    (fun nodes _ => Nodes.mem_attach nodes _ a _) Std.ExtTreeMap.not_mem_empty

theorem successors_eq (g : Graph) (a : String) :
    g.successors a = (Nodes.node g.nodes a).affects.toList := by
  unfold successors node? Nodes.node
  cases g.nodes[a]? <;> simp

theorem fieldRulesOn_eq (g : Graph) (a : String) :
    g.fieldRulesOn a = (Nodes.node g.nodes a).fieldRules := by
  unfold fieldRulesOn node? Nodes.node
  cases g.nodes[a]? <;> rfl

theorem valueRulesOn_eq (g : Graph) (a : String) :
    g.valueRulesOn a = (Nodes.node g.nodes a).valueRules := by
  unfold valueRulesOn node? Nodes.node
  cases g.nodes[a]? <;> rfl

theorem mem_successors :
    b ∈ (ofRules fieldRules valueRules).successors a ↔ RuleLinks fieldRules valueRules a b := by
  rw [successors_eq, Std.ExtTreeSet.mem_toList, mem_affects]

theorem field_ofRules : (Nodes.node (ofRules fieldRules valueRules).nodes a).field = a := by
  rw [ofRules,
    Nodes.view_foldl_add Node.field (Nodes.unlinked_field.addValueRule fun _ _ => rfl),
    Nodes.view_foldl_add Node.field (Nodes.unlinked_field.addFieldRule fun _ _ => rfl),
    Nodes.node_empty]

/-- The graph keeps the rules on a field in their order. -/
theorem fieldRulesOn_ofRules :
    (ofRules fieldRules valueRules).fieldRulesOn a = fieldRules.filter (·.target = a) := by
  have hadd : ∀ nodes r a, (Nodes.node (Nodes.addFieldRule nodes r) a).fieldRules =
      (Nodes.node nodes a).fieldRules ++ [r].filter (·.target = a) := fun nodes r a =>
    Nodes.unlinked_fieldRules.attach_append nodes r.sources a FieldRule.target fun _ => rfl
  rw [fieldRulesOn_eq, ofRules, Nodes.view_foldl_add Node.fieldRules
    (Nodes.unlinked_fieldRules.addValueRule fun _ _ => rfl),
    Nodes.foldl_add_append Node.fieldRules FieldRule.target hadd, Nodes.node_empty, List.nil_append]

theorem valueRulesOn_ofRules :
    (ofRules fieldRules valueRules).valueRulesOn a = valueRules.filter (·.target = a) := by
  have hadd : ∀ nodes r a, (Nodes.node (Nodes.addValueRule nodes r) a).valueRules =
      (Nodes.node nodes a).valueRules ++ [r].filter (·.target = a) := fun nodes r a =>
    Nodes.unlinked_valueRules.attach_append nodes r.sources a ValueRule.target fun _ => rfl
  rw [valueRulesOn_eq, ofRules, Nodes.foldl_add_append Node.valueRules ValueRule.target hadd,
    Nodes.view_foldl_add Node.valueRules
      (Nodes.unlinked_valueRules.addFieldRule fun _ _ => rfl), Nodes.node_empty, List.nil_append]

end

/-! ## What a change can reach -/

variable {g : Graph}

theorem mem_ruled {field : String} :
    field ∈ g.ruled ↔ g.fieldRulesOn field ≠ [] ∨ g.valueRulesOn field ≠ [] := by
  have hentry : field ∈ g.ruled ↔ ∃ n, g.nodes[field]? = some n ∧ n.hasRules = true := by
    simp [ruled, Std.ExtTreeMap.mem_toList_iff_getElem?_eq_some]
  rw [hentry]
  unfold fieldRulesOn valueRulesOn node?
  cases g.nodes[field]? with
  | none => simp
  | some n => simp [Node.hasRules]

theorem subset_foldl {step : List String → String → List String}
    (hgrow : ∀ found n, found ⊆ step found n) (names found : List String) :
    found ⊆ names.foldl step found := by
  induction names generalizing found with
  | nil => exact fun _ hx => hx
  | cons n names ih => exact fun x hx => ih (step found n) (hgrow found n hx)

theorem mem_foldl_of_mem {step : List String → String → List String}
    (hgrow : ∀ found n, found ⊆ step found n) (hin : ∀ found n, n ∈ step found n)
    {names : List String} {n : String} (hn : n ∈ names) (found : List String) :
    n ∈ names.foldl step found := by
  induction names generalizing found with
  | nil => cases hn
  | cons m names ih =>
    rcases List.mem_cons.1 hn with rfl | hn
    · exact subset_foldl hgrow names _ (hin found n)
    · exact ih hn _

theorem subset_reach (depth : Nat) (found : List String) (field : String) :
    found ⊆ g.reach depth found field := by
  induction depth generalizing found field with
  | zero => exact fun _ hx => hx
  | succ depth ih =>
    refine subset_foldl (fun found next x hx => ?_) _ _
    split
    · exact hx
    · exact ih _ _ (List.mem_append_left _ hx)

/-- What a field affects directly is reached, however deep chains may go. -/
theorem successors_subset_reach (depth : Nat) (found : List String) (field : String) :
    g.successors field ⊆ g.reach (depth + 1) found field := by
  intro next hnext
  refine mem_foldl_of_mem (fun found next x hx => ?_) (fun found next => ?_) hnext found
  · split
    · exact hx
    · exact subset_reach _ _ _ (List.mem_append_left _ hx)
  · split
    · assumption
    · exact subset_reach _ _ _ (by simp)

theorem successors_subset_affected (field : String) : g.successors field ⊆ g.affected field :=
  successors_subset_reach _ _ _

/-- What is reached anew is affected directly by some field. -/
theorem mem_successors_of_mem_reach {depth : Nat} {found : List String} {field x : String}
    (h : x ∈ g.reach depth found field) : x ∈ found ∨ ∃ a, x ∈ g.successors a := by
  induction depth generalizing found field with
  | zero => exact .inl h
  | succ depth ih =>
    have hfold : ∀ names, names ⊆ g.successors field → ∀ found,
        x ∈ names.foldl (fun found next =>
          if next ∈ found then found else g.reach depth (found ++ [next]) next) found →
        x ∈ found ∨ ∃ a, x ∈ g.successors a := by
      intro names
      induction names with
      | nil => exact fun _ _ h => .inl h
      | cons n names ihn =>
        intro hsub found h
        rcases ihn (fun y hy => hsub (List.mem_cons_of_mem n hy)) _ h with h | h
        · simp only at h
          split at h
          · exact .inl h
          · rcases ih h with h | h
            · rcases List.mem_append.1 h with h | h
              · exact .inl h
              · rw [List.mem_singleton.1 h]
                exact .inr ⟨field, hsub List.mem_cons_self⟩
            · exact .inr h
        · exact .inr h
    exact hfold _ (fun _ hy => hy) found h

/-- Only fields that have rules are affected. -/
theorem ruled_of_mem_affected {fieldRules : List FieldRule} {valueRules : List ValueRule}
    {field x : String} (h : x ∈ (ofRules fieldRules valueRules).affected field) :
    x ∈ (ofRules fieldRules valueRules).ruled := by
  rw [mem_ruled, fieldRulesOn_ofRules, valueRulesOn_ofRules]
  rcases mem_successors_of_mem_reach h with h | ⟨a, h⟩
  · cases h
  · rcases (mem_successors fieldRules valueRules a x).1 h with ⟨r, hr, -, ht⟩ | ⟨r, hr, -, ht⟩
    · exact .inl (List.ne_nil_of_mem (List.mem_filter.2 ⟨hr, by simpa using ht⟩))
    · exact .inr (List.ne_nil_of_mem (List.mem_filter.2 ⟨hr, by simpa using ht⟩))

end Graph
end FormLogic
