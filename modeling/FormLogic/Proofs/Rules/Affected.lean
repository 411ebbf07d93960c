import FormLogic.Proofs.Rules.Nodes

/-!
# FormLogic.Proofs.Rules.Affected

What a change can reach is the transitive closure of what fields affect directly.

* `Graph.Trail`: fields found one behind another, each affected by the start or by one before it;
* `trail_reach`: the search extends trails; so nothing is found twice, and nothing out of reach;
* `Graph.Settled`: what has been found anew has all that it affects found with it;
* `settled_reach`: the search settles what it finds, if its bound exceeds the nodes not found yet;
* `reach_depth`: from there on the bound does not matter;
* `affected_exact`: the affected fields are those at the end of a path, in an order of discovery.

A search may meet fields that are found but whose own search is still under way.  They are in the
list that it starts from, so `Settled` asks nothing of them; the searches they belong to do.
-/

namespace FormLogic
namespace Graph

open Relation

variable {g : Graph} {start field next x : String} {found found' found'' : List String}
  {depth : Nat}

theorem mem_successors_iff : x ∈ g.successors field ↔ g.Affects field x := by
  rw [successors_eq, Std.ExtTreeSet.mem_toList, affects_iff]

/-- A field found already stays as it is; another is added with what can be reached from it. -/
def enter (g : Graph) (depth : Nat) (found : List String) (next : String) : List String :=
  if next ∈ found then found else g.reach depth (found ++ [next]) next

theorem reach_succ (g : Graph) (depth : Nat) (found : List String) (field : String) :
    g.reach (depth + 1) found field = (g.successors field).foldl (g.enter depth) found :=
  rfl

theorem subset_enter (g : Graph) (depth : Nat) (found : List String) (next : String) :
    found ⊆ g.enter depth found next := by
  intro x hx
  unfold enter
  split
  · exact hx
  · exact subset_reach depth _ next (List.mem_append_left _ hx)

/-! ## Trails -/

/-- Fields found one behind another from the start on. -/
inductive Trail (g : Graph) (start : String) : List String → Prop
  | nil : Trail g start []
  | snoc {found : List String} {a b : String} (h : Trail g start found)
      (ha : a ∈ start :: found) (hb : g.Affects a b) (hnew : b ∉ found) :
      Trail g start (found ++ [b])

theorem Trail.nodup (h : Trail g start found) : found.Nodup := by
  induction h with
  | nil => exact List.nodup_nil
  | snoc _ _ _ hnew ih =>
    refine List.nodup_append.2 ⟨ih, List.nodup_singleton _, fun x hx y hy hxy => hnew ?_⟩
    rw [← List.mem_singleton.1 hy, ← hxy]
    exact hx

/-- Each field of a trail is affected directly by the start or by a field before it. -/
theorem Trail.mem_before (h : Trail g start found) {before after : List String}
    (heq : found = before ++ x :: after) : ∃ a ∈ start :: before, g.Affects a x := by
  induction h generalizing after with
  | nil => simp at heq
  | @snoc found a b _ ha hb _ ih =>
    rcases after.eq_nil_or_concat with rfl | ⟨after, last, rfl⟩
    · obtain ⟨rfl, hbx⟩ := List.append_inj' heq rfl
      cases hbx
      exact ⟨a, ha, hb⟩
    · rw [List.concat_eq_append, ← List.cons_append, ← List.append_assoc] at heq
      exact ih (List.append_inj' heq rfl).1

/-- A path leads from the start to each field of a trail. -/
theorem Trail.transGen (h : Trail g start found) (hx : x ∈ found) :
    TransGen g.Affects start x := by
  induction h generalizing x with
  | nil => cases hx
  | @snoc found a b _ ha hb _ ih =>
    rcases List.mem_append.1 hx with hx | hx
    · exact ih hx
    · rw [List.mem_singleton.1 hx]
      rcases List.mem_cons.1 ha with rfl | ha
      · exact .single hb
      · exact (ih ha).tail hb

/-- A search from a field of a trail extends the trail. -/
theorem trail_reach (h : Trail g start found) (hfield : field ∈ start :: found) :
    Trail g start (g.reach depth found field) := by
  induction depth generalizing found field with
  | zero => exact h
  | succ depth ih =>
    rw [reach_succ]
    -- the field stays where its successors can refer to it
    refine (List.foldlRecOn (motive := fun l => Trail g start l ∧ field ∈ start :: l)
      (g.successors field) (g.enter depth) ⟨h, hfield⟩ ?_).1
    rintro l ⟨hl, hin⟩ next hnext
    refine ⟨?_, List.cons_subset_cons start (subset_enter g depth l next) hin⟩
    unfold enter
    split
    · exact hl
    · rename_i hnew
      exact ih (hl.snoc hin (mem_successors_iff.1 hnext) hnew) (by simp)

theorem trail_affected (g : Graph) (field : String) : Trail g field (g.affected field) :=
  trail_reach .nil List.mem_cons_self

/-! ## What is found has all that it affects found with it -/

/-- What has been found from `found` on has all that it affects directly in `found'`. -/
structure Settled (g : Graph) (found found' : List String) : Prop where
  subset : found ⊆ found'
  successors : ∀ x ∈ found', x ∉ found → g.successors x ⊆ found'

theorem Settled.refl (g : Graph) (found : List String) : g.Settled found found :=
  ⟨fun _ hx => hx, fun _ hx hnew => absurd hx hnew⟩

theorem Settled.trans (h₁ : g.Settled found found') (h₂ : g.Settled found' found'') :
    g.Settled found found'' := by
  refine ⟨List.Subset.trans h₁.subset h₂.subset, fun x hx hnew => ?_⟩
  by_cases hmid : x ∈ found'
  · exact List.Subset.trans (h₁.successors x hmid hnew) h₂.subset
  · exact h₂.successors x hx hmid

/-- The number of nodes that have not been found. -/
def unfound (g : Graph) (found : List String) : Nat :=
  (g.nodes.keys.filter (· ∉ found)).length

theorem unfound_le (h : found ⊆ found') : g.unfound found' ≤ g.unfound found := by
  refine (List.monotone_filter_right _ fun x hx => ?_).length_le
  simp only [decide_eq_true_eq] at hx ⊢
  exact fun hin => hx (h hin)

theorem unfound_lt (hnode : next ∈ g.nodes) (hnew : next ∉ found) :
    g.unfound (found ++ [next]) < g.unfound found := by
  have hsplit : g.nodes.keys.filter (· ∉ found ++ [next]) =
      (g.nodes.keys.filter (· ∉ found)).filter (· ≠ next) := by
    rw [List.filter_filter]
    exact List.filter_congr fun x _ => by simp [and_comm]
  rw [unfound, hsplit]
  refine List.length_filter_lt_length_iff_exists.2 ⟨next, ?_, by simp⟩
  exact List.mem_filter.2 ⟨Std.ExtTreeMap.mem_keys.2 hnode, by simpa using hnew⟩

/-- A field without a node affects no other. -/
theorem successors_of_not_mem (h : field ∉ g.nodes) : g.successors field = [] := by
  rw [successors, node?, Std.ExtTreeMap.getElem?_eq_none h]
  rfl

theorem reach_of_not_mem (h : field ∉ g.nodes) (depth : Nat) (found : List String) :
    g.reach depth found field = found := by
  cases depth with
  | zero => rfl
  | succ depth => rw [reach_succ, successors_of_not_mem h, List.foldl_nil]

/-- A field that is entered is found and settled, if searches from nodes are. -/
theorem settled_enter
    (ih : ∀ {found field}, g.unfound found < depth →
      g.Settled found (g.reach depth found field) ∧
        g.successors field ⊆ g.reach depth found field)
    (hdepth : g.unfound found ≤ depth) (next : String) :
    g.Settled found (g.enter depth found next) ∧ next ∈ g.enter depth found next := by
  unfold enter
  split
  · rename_i hin
    exact ⟨.refl g found, hin⟩
  rename_i hnew
  have hadded : found ++ [next] ⊆ g.reach depth (found ++ [next]) next := subset_reach _ _ _
  have hsucc : g.successors next ⊆ g.reach depth (found ++ [next]) next ∧
      g.Settled (found ++ [next]) (g.reach depth (found ++ [next]) next) := by
    by_cases hnode : next ∈ g.nodes
    · exact (ih (Nat.lt_of_lt_of_le (unfound_lt hnode hnew) hdepth)).symm
    · rw [reach_of_not_mem hnode, successors_of_not_mem hnode]
      exact ⟨List.nil_subset _, .refl g _⟩
  refine ⟨⟨fun x hx => hadded (List.mem_append_left _ hx), fun x hx hout => ?_⟩,
    hadded (by simp)⟩
  by_cases hx' : x = next
  · rw [hx']
    exact hsucc.1
  · exact hsucc.2.successors x hx (by simp [hout, hx'])

theorem settled_foldl {visit : List String → String → List String} {names : List String}
    {P : List String → Prop} (hP : ∀ {found found'}, found ⊆ found' → P found → P found')
    (hvisit : ∀ {found}, P found → ∀ next,
      g.Settled found (visit found next) ∧ next ∈ visit found next)
    (h : P found) :
    g.Settled found (names.foldl visit found) ∧ names ⊆ names.foldl visit found := by
  induction names generalizing found with
  | nil => exact ⟨.refl g found, List.nil_subset _⟩
  | cons next names ih =>
    obtain ⟨hsettled, hin⟩ := hvisit h next
    obtain ⟨hrest, hnames⟩ := ih (hP hsettled.subset h)
    exact ⟨hsettled.trans hrest, List.cons_subset.2 ⟨hrest.subset hin, hnames⟩⟩

/-- A search settles what it finds and finds what its field affects directly. -/
theorem settled_reach (hdepth : g.unfound found < depth) :
    g.Settled found (g.reach depth found field) ∧
      g.successors field ⊆ g.reach depth found field := by
  induction depth generalizing found field with
  | zero => exact absurd hdepth (Nat.not_lt_zero _)
  | succ depth ih =>
    rw [reach_succ]
    exact settled_foldl (P := fun found => g.unfound found ≤ depth)
      (fun hsub h => (unfound_le hsub).trans h) (fun h next => settled_enter ih h next)
      (Nat.le_of_lt_succ hdepth)

theorem unfound_nil (g : Graph) : g.unfound [] = g.nodes.size := by
  simp [unfound]

/-- All fields at the end of a path are affected. -/
theorem mem_affected_of_transGen (h : TransGen g.Affects field x) : x ∈ g.affected field := by
  have hdepth : g.unfound [] < g.nodes.size + 1 := by
    rw [unfound_nil]
    exact Nat.lt_succ_self _
  obtain ⟨hsettled, hsucc⟩ : g.Settled [] (g.affected field) ∧
      g.successors field ⊆ g.affected field := settled_reach hdepth
  induction h with
  | single h => exact hsucc (mem_successors_iff.2 h)
  | tail _ h ih => exact hsettled.successors _ ih List.not_mem_nil (mem_successors_iff.2 h)

/-! ## The bound -/

theorem enter_depth
    (ih : ∀ {found field}, g.unfound found < depth →
      g.reach (depth + 1) found field = g.reach depth found field)
    (hdepth : g.unfound found ≤ depth) (next : String) :
    g.enter (depth + 1) found next = g.enter depth found next := by
  unfold enter
  split
  · rfl
  · rename_i hnew
    by_cases hnode : next ∈ g.nodes
    · exact ih (Nat.lt_of_lt_of_le (unfound_lt hnode hnew) hdepth)
    · rw [reach_of_not_mem hnode, reach_of_not_mem hnode]

/-- One more step of a bound that exceeds the nodes not found makes no difference. -/
theorem reach_depth_succ (hdepth : g.unfound found < depth) :
    g.reach (depth + 1) found field = g.reach depth found field := by
  induction depth generalizing found field with
  | zero => exact absurd hdepth (Nat.not_lt_zero _)
  | succ depth ih =>
    rw [reach_succ, reach_succ g depth]
    have hle := Nat.le_of_lt_succ hdepth
    clear hdepth
    induction g.successors field generalizing found with
    | nil => rfl
    | cons next names ihn =>
      rw [List.foldl_cons, List.foldl_cons, enter_depth ih hle]
      exact ihn ((unfound_le (subset_enter g depth found next)).trans hle)

theorem reach_depth (hdepth : g.nodes.size < depth) :
    g.reach depth [] field = g.affected field := by
  induction depth, hdepth using Nat.le_induction with
  | base => rfl
  | succ depth hle ih =>
    rw [reach_depth_succ (by rw [unfound_nil]; exact hle), ih]

/-- The affected fields of a graph.  No search goes on for longer than the bound on the length of
chains lets it, so a higher bound finds the same.  No field is found twice.  A field is found
exactly if a path of one or more links leads to it, so a field affects itself exactly if it is on a
cycle.  Each field found is affected directly by the changed field or by one found before it. -/
theorem affected_exact (g : Graph) (field : String) :
    (∀ depth, g.nodes.size < depth → g.reach depth [] field = g.affected field) ∧
    (g.affected field).Nodup ∧
    (∀ t, t ∈ g.affected field ↔ TransGen g.Affects field t) ∧
    ∀ before t after, g.affected field = before ++ t :: after →
      ∃ a ∈ field :: before, g.Affects a t := by
  have htrail := trail_affected g field
  exact ⟨fun depth => reach_depth, htrail.nodup,
    fun t => ⟨htrail.transGen, mem_affected_of_transGen⟩,
    fun before t after => htrail.mem_before⟩

/-- `B` and `C` affect each other; `C` also affects `D`, which has two ways to it.  `A` is on no
cycle, so it is not among the fields that it affects. -/
theorem affected_exact_loop :
    let g := Graph.ofRules [{ trigger := "A", target := "B" }, { trigger := "B", target := "C" },
      { trigger := "C", target := "B" }, { trigger := "C", target := "D" },
      { trigger := "A", target := "D" }] []
    g.affected "A" = ["B", "C", "D"] ∧ g.affected "B" = ["C", "B", "D"] ∧
      TransGen g.Affects "B" "B" ∧ ¬ TransGen g.Affects "A" "A" ∧
      g.reach 5 [] "B" = g.affected "B" ∧ ∃ a ∈ ["B", "C", "B"], g.Affects a "D" := by
  intro g
  have hA : g.affected "A" = ["B", "C", "D"] := by decide +kernel
  have hB : g.affected "B" = ["C", "B", "D"] := by decide +kernel
  obtain ⟨-, -, hpathA, -⟩ := affected_exact g "A"
  obtain ⟨hbound, -, hpathB, hled⟩ := affected_exact g "B"
  refine ⟨hA, hB, (hpathB "B").1 (by rw [hB]; decide), fun h => ?_, hbound 5 (by decide +kernel),
    hled ["C", "B"] "D" [] hB⟩
  have hin := (hpathA "A").2 h
  rw [hA] at hin
  revert hin
  decide

end Graph
end FormLogic
