import FormLogic.Proofs.Dict
import FormLogic.Proofs.Formula.References
import FormLogic.Proofs.Rules.Order
import FormLogic.Proofs.Session.Fields
import FormLogic.Session.Default

/-!
# FormLogic.Proofs.Session.Default

What defaults read, and what a change spreads to.

* `Field.defaultReferences`, `DefaultReads`: the fields that a default refers to;
* `evaluateDefault_congr`: a default yields the same for values that agree on what it reads;
* `mem_dependencies_defaultEdges`: the edges of defaults are what they read, themselves aside;
* `mem_downstream`: a change spreads to the fields whose defaults read it, be it through others;
* `order_pairwise_defaults`: a field is derived behind what its default reads, but for cycles.

The fields found grow in rounds.  `Spreads` is what holds of them after each round, and there are
rounds enough for the last one to find nothing new.
-/

namespace FormLogic

open Formula Relation

/-- The fields that the default of a field refers to. -/
def Field.defaultReferences (f : Field) : List String := (f.defaultText?.map references).getD []

/-- The default of the field `g` refers to `d`. -/
def DefaultReads (fields : List Field) (g d : String) : Prop :=
  ∃ f ∈ fields, f.keyword = g ∧ d ∈ f.defaultReferences

/-- A default yields the same for values that agree on what it refers to. -/
theorem Field.evaluateDefault_congr {f : Field} {v w : Dict String}
    (h : ∀ d ∈ f.defaultReferences, v[d]? = w[d]?) :
    (f.evaluateDefault v).value = (f.evaluateDefault w).value := by
  unfold evaluateDefault
  cases htext : f.defaultText? with
  | none => rfl
  | some text =>
    have heval : evaluate text (.ofValues v) = evaluate text (.ofValues w) :=
      evaluate_congr fun d hd => h d (by simpa [defaultReferences, htext] using hd)
    simp only [Metered.value_bind, Metered.value_evaluate, heval]

/-! ## Edges -/

section

variable {fields : List Field} {f : Field} {g d : String}

theorem addDefaultEdges_frame (h : f.keyword ≠ g) (edges : Edges) :
    (addDefaultEdges edges f)[g]? = edges[g]? := by
  unfold addDefaultEdges
  split
  · rw [Dict.getElem?_insert, if_neg h]
  · rfl

theorem getElem?_addDefaultEdges {edges : Edges} (h : edges[f.keyword]? = none) :
    (addDefaultEdges edges f)[f.keyword]? = f.defaultText?.map fun text =>
      NameSet.ofNames ((references text).filter (· ≠ f.keyword)) := by
  unfold addDefaultEdges
  split
  · rename_i text htext
    rw [Dict.getElem?_insert, if_pos rfl, htext, Option.map_some]
  · rename_i htext
    rw [h, htext, Option.map_none]

theorem foldl_addDefaultEdges_frame (h : g ∉ fields.map (·.keyword)) (edges : Edges) :
    (fields.foldl addDefaultEdges edges)[g]? = edges[g]? := by
  induction fields generalizing edges with
  | nil => rfl
  | cons f fields ih =>
    rw [List.map_cons, List.mem_cons, not_or] at h
    obtain ⟨hf, hfields⟩ := h
    rw [List.foldl_cons, ih hfields, addDefaultEdges_frame (Ne.symm hf)]

theorem getElem?_defaultEdges (hunique : (fields.map (·.keyword)).Nodup) (hf : f ∈ fields) :
    (defaultEdges fields)[f.keyword]? = f.defaultText?.map fun text =>
      NameSet.ofNames ((references text).filter (· ≠ f.keyword)) := by
  obtain ⟨before, after, rfl, hbefore, hafter⟩ := Form.exists_append_of_mem hunique hf
  rw [defaultEdges, List.foldl_append, List.foldl_cons, foldl_addDefaultEdges_frame hafter]
  refine getElem?_addDefaultEdges ?_
  rw [foldl_addDefaultEdges_frame hbefore]
  exact Std.ExtTreeMap.getElem?_empty

theorem defaultReads_iff (hunique : (fields.map (·.keyword)).Nodup) (hf : f ∈ fields) :
    DefaultReads fields f.keyword d ↔ d ∈ f.defaultReferences := by
  constructor
  · rintro ⟨g, hg, hkeyword, hd⟩
    rwa [Form.eq_of_keyword_eq hunique hg hf hkeyword] at hd
  · exact fun hd => ⟨f, hf, rfl, hd⟩

/-- The edges lead from each field to those that its default reads, itself aside. -/
theorem mem_dependencies_defaultEdges (hunique : (fields.map (·.keyword)).Nodup) :
    d ∈ (defaultEdges fields).dependencies g ↔ d ≠ g ∧ DefaultReads fields g d := by
  by_cases hg : g ∈ fields.map (·.keyword)
  · obtain ⟨f, hf, rfl⟩ := List.mem_map.1 hg
    rw [defaultReads_iff hunique hf, Edges.dependencies, getElem?_defaultEdges hunique hf,
      Field.defaultReferences]
    cases f.defaultText? with
    | none => simp
    | some text => simp [NameSet.mem_ofNames, and_comm]
  · have hnone : (defaultEdges fields)[g]? = none := by
      rw [defaultEdges, foldl_addDefaultEdges_frame hg]
      simp
    rw [Edges.dependencies, hnone]
    constructor
    · intro hd
      cases hd
    · rintro ⟨-, f, hf, rfl, -⟩
      exact absurd (List.mem_map_of_mem hf) hg

/-- If no default reads itself, be it through others, then the edges have no cycles. -/
theorem acyclic_defaultEdges (hunique : (fields.map (·.keyword)).Nodup)
    (h : ∀ g, ¬ TransGen (DefaultReads fields) g g) : (defaultEdges fields).Acyclic := by
  intro g hg
  have hle : (fun a b => b ∈ (defaultEdges fields).dependencies a) ≤ DefaultReads fields :=
    fun a b hb => ((mem_dependencies_defaultEdges hunique).1 hb).2
  exact h g (TransGen.mono hle g g hg)

end

/-- Defaults that read only fields of lower rank form no cycles. -/
theorem acyclic_of_rank {fields : List Field} (rank : String → Nat)
    (h : ∀ f ∈ fields, ∀ d ∈ f.defaultReferences, rank d < rank f.keyword) (g : String) :
    ¬ TransGen (DefaultReads fields) g g := by
  have hrank : ∀ a b, TransGen (DefaultReads fields) a b → rank b < rank a := by
    intro a b hab
    induction hab with
    | single hb =>
      obtain ⟨f, hf, rfl, hd⟩ := hb
      exact h f hf _ hd
    | tail _ hc ih =>
      obtain ⟨f, hf, rfl, hd⟩ := hc
      exact (h f hf _ hd).trans ih
  intro hg
  exact Nat.lt_irrefl _ (hrank g g hg)

/-! ## What a change spreads to -/

namespace Defaults

variable {d : Defaults} {changed g h : String} {found names : List String}

theorem mem_mentioning :
    h ∈ d.mentioning names ↔ ∃ n ∈ names, n ∈ d.edges.dependencies h := by
  have hentry : h ∈ d.mentioning names ↔
      ∃ set, d.edges[h]? = some set ∧ ∃ n ∈ names, n ∈ set := by
    simp [mentioning, Std.ExtTreeMap.mem_toList_iff_getElem?_eq_some]
  rw [hentry]
  unfold Edges.dependencies
  cases d.edges[h]? with
  | none => simp
  | some set => simp

theorem nodup_mentioning (d : Defaults) (names : List String) : (d.mentioning names).Nodup := by
  have hkeys : (d.edges.toList.map (·.1)).Nodup := by
    rw [Std.ExtTreeMap.map_fst_toList_eq_keys]
    exact Std.ExtTreeMap.nodup_keys
  exact hkeys.sublist ((List.filter_sublist).map _)

/-- What holds of the fields found after each round. -/
structure Spreads (d : Defaults) (changed : String) (found : List String) : Prop where
  nodup : found.Nodup
  apart : changed ∉ found
  reached : ∀ g ∈ found, TransGen (fun a b => a ∈ d.edges.dependencies b) changed g

/-- Nothing new is mentioned by a default that mentions the changed field or what is found. -/
def Closed (d : Defaults) (changed : String) (found : List String) : Prop :=
  ∀ g ∈ changed :: found, ∀ h, g ∈ d.edges.dependencies h → h ≠ changed → h ∈ found

theorem Spreads.keys (hs : d.Spreads changed found) : found ⊆ d.edges.keys := by
  intro g hg
  obtain ⟨a, -, ha⟩ := TransGen.tail'_iff.1 (hs.reached g hg)
  exact Edges.contains_of_mem_dependencies ha

/-- Fields that mention what is found are reached from the changed field themselves. -/
theorem Spreads.append (hs : d.Spreads changed found) :
    d.Spreads changed (found ++ (d.mentioning (changed :: found)).filter
      fun f => f ≠ changed && f ∉ found) := by
  have hfresh : ∀ g ∈ (d.mentioning (changed :: found)).filter (fun f => f ≠ changed && f ∉ found),
      (∃ a ∈ changed :: found, a ∈ d.edges.dependencies g) ∧ g ≠ changed ∧ g ∉ found := by
    intro g hg
    rw [List.mem_filter, mem_mentioning] at hg
    simpa using hg
  refine ⟨List.nodup_append.2 ⟨hs.nodup, (d.nodup_mentioning _).filter _, ?_⟩, ?_, ?_⟩
  · rintro a ha b hb rfl
    exact (hfresh a hb).2.2 ha
  · rw [List.mem_append, not_or]
    exact ⟨hs.apart, fun h => (hfresh changed h).2.1 rfl⟩
  · intro g hg
    rcases List.mem_append.1 hg with hg | hg
    · exact hs.reached g hg
    · obtain ⟨⟨a, ha, hdep⟩, -⟩ := hfresh g hg
      rcases List.mem_cons.1 ha with rfl | ha
      · exact .single hdep
      · exact (hs.reached a ha).tail hdep

/-- Rounds as many as there are fields left are enough. -/
theorem spread_spec {n : Nat} (hs : d.Spreads changed found)
    (hn : d.edges.size ≤ found.length + n) :
    d.Spreads changed (d.spread changed n found) ∧
      d.Closed changed (d.spread changed n found) := by
  induction n generalizing found with
  | zero =>
    refine ⟨hs, fun g _ h hdep _ => ?_⟩
    have hsub := List.subperm_of_subset hs.nodup hs.keys
    have hperm := hsub.perm_of_length_le (by rw [Std.ExtTreeMap.length_keys]; omega)
    exact hperm.mem_iff.2 (Edges.contains_of_mem_dependencies hdep)
  | succ n ih =>
    unfold spread
    split
    · rename_i hnone
      refine ⟨hs, fun g hg h hdep hne => ?_⟩
      have hnot := List.filter_eq_nil_iff.1 hnone h (mem_mentioning.2 ⟨g, hg, hdep⟩)
      simpa [hne] using hnot
    · rename_i hsome
      refine ih hs.append ?_
      have hpos := List.length_pos_iff.2 hsome
      rw [List.length_append]
      omega

theorem Closed.mem_of_transGen (hc : d.Closed changed found)
    (h : TransGen (fun a b => a ∈ d.edges.dependencies b) changed g) (hne : g ≠ changed) :
    g ∈ found := by
  have hall : g = changed ∨ g ∈ found := by
    clear hne
    induction h with
    | @single b hb =>
      by_cases hbc : b = changed
      · exact .inl hbc
      · exact .inr (hc changed List.mem_cons_self b hb hbc)
    | @tail b c _ hdep ih =>
      by_cases hcc : c = changed
      · exact .inl hcc
      · exact .inr (hc b (List.mem_cons.2 ih) c hdep hcc)
  exact hall.resolve_left hne

section

variable {fields : List Field}

theorem transGen_reads (hunique : (fields.map (·.keyword)).Nodup) (hne : g ≠ changed) :
    TransGen (fun a b => a ∈ (defaultEdges fields).dependencies b) changed g ↔
      TransGen (fun a b => DefaultReads fields b a) changed g := by
  constructor
  · have hle : (fun a b => a ∈ (defaultEdges fields).dependencies b) ≤
        fun a b => DefaultReads fields b a :=
      fun a b hb => ((mem_dependencies_defaultEdges hunique).1 hb).2
    exact TransGen.mono hle changed g
  · -- a default that reads its own field makes a step that leads nowhere
    intro h
    have hall : changed = g ∨
        TransGen (fun a b => a ∈ (defaultEdges fields).dependencies b) changed g := by
      clear hne
      induction h with
      | @single b hb =>
        by_cases hbc : changed = b
        · exact .inl hbc
        · exact .inr (.single ((mem_dependencies_defaultEdges hunique).2 ⟨hbc, hb⟩))
      | @tail b c _ hc ih =>
        by_cases hbc : b = c
        · exact hbc ▸ ih
        · have hdep := (mem_dependencies_defaultEdges hunique).2 ⟨hbc, hc⟩
          rcases ih with rfl | ih
          · exact .inr (.single hdep)
          · exact .inr (ih.tail hdep)
    exact hall.resolve_left (Ne.symm hne)

/-- A change spreads to the other fields whose defaults read it, be it through others. -/
theorem mem_downstream (hunique : (fields.map (·.keyword)).Nodup) :
    g ∈ (ofFields fields).downstream changed ↔
      g ≠ changed ∧ TransGen (fun a b => DefaultReads fields b a) changed g := by
  have hstart : (ofFields fields).Spreads changed [] := ⟨.nil, by simp, by simp⟩
  obtain ⟨hs, hc⟩ := spread_spec (n := (defaultEdges fields).size) hstart (by simp [ofFields])
  rw [downstream, List.mem_filter, decide_eq_true_eq]
  constructor
  · rintro ⟨-, hg⟩
    have hne : g ≠ changed := fun h => hs.apart (h ▸ hg)
    exact ⟨hne, (transGen_reads hunique hne).1 (hs.reached g hg)⟩
  · rintro ⟨hne, h⟩
    have hg := hc.mem_of_transGen ((transGen_reads hunique hne).2 h) hne
    have hkey := hs.keys hg
    refine ⟨List.mem_filter.2 ⟨Edges.mem_order_of_mem_keys hkey, ?_⟩, hg⟩
    exact Std.ExtTreeMap.contains_iff_mem.2 (Std.ExtTreeMap.mem_keys.1 hkey)

/-! ## The order of derivation -/

/-- No field is derived twice, and one that is derived before a field that its default reads closes
a cycle with it. -/
theorem order_pairwise_defaults (hunique : (fields.map (·.keyword)).Nodup) :
    (ofFields fields).order.Pairwise fun g h =>
      g ≠ h ∧ (DefaultReads fields g h → Closes (ofFields fields).cycles g h) := by
  have hordered := Edges.order_nodup.and (@Edges.order_pairwise (defaultEdges fields))
  refine (hordered.imp ?_).sublist List.filter_sublist
  rintro g h ⟨hne, hcloses⟩
  exact ⟨hne, fun hreads =>
    hcloses ((mem_dependencies_defaultEdges hunique).2 ⟨Ne.symm hne, hreads⟩)⟩

theorem downstream_sublist (d : Defaults) (changed : String) :
    (d.downstream changed).Sublist d.order :=
  List.filter_sublist

/-- Without cycles no field is derived before one that its default reads. -/
theorem not_closes_of_acyclic (hunique : (fields.map (·.keyword)).Nodup)
    (ha : ∀ g, ¬ TransGen (DefaultReads fields) g g) : ¬ Closes (ofFields fields).cycles g h := by
  rintro ⟨cycle, hcycle, -⟩
  have hnil := (acyclic_defaultEdges hunique ha).cycles_eq_nil
    (fun _ => Edges.isCycle_of_mem_cycles)
  rw [ofFields, hnil] at hcycle
  cases hcycle

end

end Defaults
end FormLogic
