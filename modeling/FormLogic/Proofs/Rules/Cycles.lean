import FormLogic.Proofs.Dict
import FormLogic.Proofs.Rules.Order

/-!
# FormLogic.Proofs.Rules.Cycles

The walk reports cycles exactly where there are some, and each closing step once.

* `EndApart c c'`: no step is the last one of both cycles;
* `Walk.ClosesOnce path w`: no step closes two cycles of the walk, and the steps that close one come
  from names that are finished or on the path;
* `Walk.Closings path names w w'`: the closing steps that visits of `names` from a path can add;
* `visit_closings`: one visit; `walk_closings`: the whole walk;
* `acyclic_of_cycles_eq_nil`: a walk without cycles has seen a graph without cycles;
* `cycles_exact`: all that the cycles say about a graph.

A visit is expanded when its name is neither finished nor on the path, so no step from the name has
closed a cycle before.  Its dependencies are met once each, and what is expanded below them has other
names.  So the walk meets no step twice.
-/

namespace FormLogic

/-- No step is the last one of both cycles. -/
def EndApart (c c' : List String) : Prop :=
  ∀ n d, [n, d] <:+ c → ¬ [n, d] <:+ c'

/-- The step that closes a cycle comes from the latest name of the path. -/
theorem eq_of_suffix_closeCycle {path : List String} {name n d : String} (hname : name ∈ path)
    (h : [n, d] <:+ closeCycle path name) : n ∈ path.head? ∧ d = name := by
  obtain ⟨m, hm⟩ : ∃ m, m ∈ path.head? := by
    cases path with
    | nil => cases hname
    | cons m path => exact ⟨m, rfl⟩
  have hcloses : Closes [closeCycle path name] m name := Edges.closes_closeCycle hm hname
  obtain ⟨cycle, hcycle, hend⟩ := hcloses
  rw [List.mem_singleton.1 hcycle] at hend
  have hsame := (List.suffix_of_suffix_length_le h hend (Nat.le_refl 2)).eq_of_length rfl
  cases hsame
  exact ⟨hm, rfl⟩

theorem closes_cons {cycle : List String} {cycles : List (List String)} {n d : String} :
    Closes (cycle :: cycles) n d ↔ [n, d] <:+ cycle ∨ Closes cycles n d := by
  simp [Closes]

namespace Walk

variable {edges : Edges} {path names more : List String} {name : String} {w w' w'' : Walk}

/-- No step closes two cycles, and the steps that close one come from names that are finished or on
the path. -/
structure ClosesOnce (path : List String) (w : Walk) : Prop where
  apart : w.cycles.Pairwise EndApart
  origin : ∀ ⦃n d⦄, Closes w.cycles n d → n ∈ w.finished ∨ n ∈ path

/-- What visits of `names` from a path make of a walk: the steps that close a cycle afterwards did
so before, or lead from the latest name of the path to one of `names`, or come from names that the
walk had not come to. -/
structure Closings (path names : List String) (w w' : Walk) : Prop where
  once : w'.ClosesOnce path
  finished : w.finished ⊆ w'.finished
  steps : ∀ ⦃n d⦄, Closes w'.cycles n d →
    Closes w.cycles n d ∨ (n ∈ path.head? ∧ d ∈ names) ∨ (n ∉ path ∧ n ∉ w.finished)

theorem ClosesOnce.closings (h : w.ClosesOnce path) : Closings path names w w :=
  ⟨h, fun _ hx => hx, fun _ _ hc => .inl hc⟩

theorem Closings.trans (h₁ : Closings path names w w') (h₂ : Closings path more w' w'') :
    Closings path (names ++ more) w w'' := by
  refine ⟨h₂.once, fun x hx => h₂.finished (h₁.finished hx), fun n d hc => ?_⟩
  rcases h₂.steps hc with hc | ⟨hn, hd⟩ | ⟨hn, hf⟩
  · rcases h₁.steps hc with hc | ⟨hn, hd⟩ | hnew
    · exact .inl hc
    · exact .inr (.inl ⟨hn, List.mem_append_left more hd⟩)
    · exact .inr (.inr hnew)
  · exact .inr (.inl ⟨hn, List.mem_append_right names hd⟩)
  · exact .inr (.inr ⟨hn, fun hx => hf (h₁.finished hx)⟩)

/-- Different names are visited one after another: no visit uses up the step to a later one. -/
theorem foldl_closings {visit : Walk → String → Walk}
    (hvisit : ∀ w, w.ClosesOnce path → ∀ d ∈ names, (∀ n ∈ path.head?, ¬ Closes w.cycles n d) →
      Closings path [d] w (visit w d))
    (hw : w.ClosesOnce path) (hnodup : names.Nodup)
    (hnew : ∀ d ∈ names, ∀ n ∈ path.head?, ¬ Closes w.cycles n d) :
    Closings path names w (names.foldl visit w) := by
  induction names generalizing w with
  | nil => exact hw.closings
  | cons d names ih =>
    obtain ⟨hd, hnodup⟩ := List.nodup_cons.1 hnodup
    have hfirst := hvisit w hw d List.mem_cons_self (hnew d List.mem_cons_self)
    refine hfirst.trans (ih (fun w hw x hx => hvisit w hw x (List.mem_cons_of_mem d hx))
      hfirst.once hnodup fun x hx n hn hc => ?_)
    rcases hfirst.steps hc with hc | ⟨-, hxd⟩ | ⟨hpath, -⟩
    · exact hnew x (List.mem_cons_of_mem d hx) n hn hc
    · rw [List.mem_singleton.1 hxd] at hx
      exact hd hx
    · exact hpath (List.mem_of_mem_head? hn)

/-- A name on the path closes a cycle, by a step that closed none before. -/
theorem ClosesOnce.close (h : w.ClosesOnce path) (hname : name ∈ path)
    (hnew : ∀ n ∈ path.head?, ¬ Closes w.cycles n name) :
    Closings path [name] w { w with cycles := closeCycle path name :: w.cycles } := by
  refine ⟨⟨List.pairwise_cons.2 ⟨fun cycle hcycle n d hend hend' => ?_, h.apart⟩,
    fun n d hc => ?_⟩, fun _ hx => hx, fun n d hc => ?_⟩
  · obtain ⟨hn, rfl⟩ := eq_of_suffix_closeCycle hname hend
    exact hnew n hn ⟨cycle, hcycle, hend'⟩
  · rcases closes_cons.1 hc with hend | hc
    · exact .inr (List.mem_of_mem_head? (eq_of_suffix_closeCycle hname hend).1)
    · exact h.origin hc
  · rcases closes_cons.1 hc with hend | hc
    · obtain ⟨hn, rfl⟩ := eq_of_suffix_closeCycle hname hend
      exact .inr (.inl ⟨hn, List.mem_singleton_self d⟩)
    · exact .inl hc

/-- The steps from a name that is expanded are new, and so are those from names below it. -/
theorem Closings.finish (h : Closings (name :: path) names w w') (hf : name ∉ w.finished)
    (hpath : name ∉ path) :
    Closings path more w { w' with finished := name :: w'.finished } := by
  refine ⟨⟨h.once.apart, fun n d hc => ?_⟩, fun x hx => List.mem_cons_of_mem name (h.finished hx),
    fun n d hc => ?_⟩
  · rcases h.once.origin hc with hn | hn
    · exact .inl (List.mem_cons_of_mem name hn)
    · rcases List.mem_cons.1 hn with rfl | hn
      · exact .inl List.mem_cons_self
      · exact .inr hn
  · rcases h.steps hc with hc | ⟨hn, -⟩ | ⟨hn, hnf⟩
    · exact .inl hc
    · rw [List.head?_cons, Option.mem_some_iff] at hn
      exact .inr (.inr ⟨hn ▸ hpath, hn ▸ hf⟩)
    · exact .inr (.inr ⟨fun hx => hn (List.mem_cons_of_mem name hx), hnf⟩)

theorem dependencies_nodup (edges : Edges) (name : String) : (edges.dependencies name).Nodup := by
  unfold Edges.dependencies
  cases edges[name]? with
  | none => exact List.nodup_nil
  | some names => exact NameSet.nodup_toList

theorem visit_closings {depth : Nat} (hw : w.ClosesOnce path)
    (hnew : ∀ n ∈ path.head?, ¬ Closes w.cycles n name) :
    Closings path [name] w (visit edges depth path w name) := by
  induction depth generalizing path name w with
  | zero => exact hw.closings
  | succ depth ih =>
    unfold visit
    split
    · exact hw.closings
    split
    · rename_i hmem
      exact hw.close hmem hnew
    · rename_i hf hpath
      refine Closings.finish (foldl_closings (fun w hw d _ hnew => ih hw hnew) ⟨hw.apart, ?_⟩
        (dependencies_nodup edges name) ?_) hf hpath
      · exact fun n d hc => (hw.origin hc).imp_right fun hn => List.mem_cons_of_mem name hn
      · intro d _ n hn hc
        rw [List.head?_cons, Option.mem_some_iff] at hn
        rcases hw.origin hc with hx | hx
        · exact hf (hn ▸ hx)
        · exact hpath (hn ▸ hx)

end Walk

namespace Edges

variable {edges : Edges}

theorem walk_closings : Walk.Closings [] edges.keys {} edges.walk :=
  Walk.foldl_closings (fun _ hw _ _ hnew => Walk.visit_closings hw hnew)
    ⟨.nil, by simp [Closes]⟩ Std.ExtTreeMap.nodup_keys (by simp)

/-- No step is the last one of two cycles. -/
theorem cycles_endApart : (orderOf edges).cycles.Pairwise EndApart := by
  refine List.pairwise_reverse.2 (walk_closings.once.apart.imp fun h n d hend hend' => ?_)
  exact h n d hend' hend

/-- Without cycles, a dependency has a smaller place in the order than the name that has it. -/
theorem idxOf_lt_of_cycles_eq_nil (h : (orderOf edges).cycles = []) {n d : String}
    (hd : d ∈ edges.dependencies n) :
    (orderOf edges).order.idxOf d < (orderOf edges).order.idxOf n := by
  have hkey := mem_order_of_mem_keys (contains_of_mem_dependencies hd)
  obtain ⟨early, late, hsplit⟩ := List.append_of_mem hkey
  have hbefore : d ∈ early := mem_before_of_cycles_eq_nil h hsplit hd
  have hn : n ∉ early := by
    intro hn
    exact (List.nodup_append.1 (hsplit ▸ order_nodup)).2.2 n hn n List.mem_cons_self rfl
  rw [hsplit, List.idxOf_append_of_mem hbefore, List.idxOf_append_of_notMem hn,
    List.idxOf_cons_self, Nat.add_zero]
  exact List.idxOf_lt_length_of_mem hbefore

theorem acyclic_of_cycles_eq_nil (h : (orderOf edges).cycles = []) : edges.Acyclic := by
  have hless : ∀ a b, Relation.TransGen (fun a b => b ∈ edges.dependencies a) a b →
      (orderOf edges).order.idxOf b < (orderOf edges).order.idxOf a := by
    intro a b hab
    induction hab with
    | single hd => exact idxOf_lt_of_cycles_eq_nil h hd
    | tail _ hd ih => exact (idxOf_lt_of_cycles_eq_nil h hd).trans ih
  exact fun name hname => Nat.lt_irrefl _ (hless name name hname)

/-- A cycle has at least two names and ends with its first one; the names before the last are
different, and each is followed by one of its dependencies.  No step closes two cycles.  There are
no cycles exactly if no name depends on itself, be it through others. -/
theorem cycles_exact (edges : Edges) :
    let o := orderOf edges
    (∀ cycle ∈ o.cycles, 2 ≤ cycle.length ∧ cycle.head? = cycle.getLast? ∧
      cycle.dropLast.Nodup ∧ cycle.IsChain fun a b => b ∈ edges.dependencies a) ∧
    o.cycles.Pairwise (fun c c' => ∀ n d, [n, d] <:+ c → ¬ [n, d] <:+ c') ∧
    (o.cycles = [] ↔
      ∀ name, ¬ Relation.TransGen (fun a b => b ∈ edges.dependencies a) name name) := by
  intro o
  refine ⟨fun cycle hcycle => ?_, cycles_endApart, acyclic_of_cycles_eq_nil, fun hacyclic => ?_⟩
  · have hc := isCycle_of_mem_cycles hcycle
    obtain ⟨name, rest, rfl, hnodup⟩ := hc.closed
    refine ⟨by simp, ?_, ?_, hc.steps⟩
    · rw [List.getLast?_concat, List.cons_append, List.head?_cons]
    · rwa [List.dropLast_concat]
  · exact Acyclic.cycles_eq_nil hacyclic fun _ => isCycle_of_mem_cycles

/-- A loop and a cycle of two names are both met from `A`. -/
example : (orderOf (Dict.ofPairs [("A", NameSet.ofNames ["A", "B"]),
    ("B", NameSet.ofNames ["A"])])).cycles = [["A", "A"], ["A", "B", "A"]] := by
  decide +kernel

end Edges
end FormLogic
