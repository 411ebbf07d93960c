import FormLogic.Rules.Order
import Mathlib.Data.List.Chain
import Mathlib.Data.List.Nodup
import Mathlib.Data.List.Perm.Subperm
import Mathlib.Logic.Relation

/-!
# FormLogic.Proofs.Rules.Order

The walk puts every name behind its dependencies, but for steps that close a reported cycle.

* `IsCycle edges cycle`: a closed path along dependencies that meets no other name twice;
* `Closes cycles n d`: some cycle ends with the step from `n` to its dependency `d`;
* `Walk.Sound`: what holds of a walk at all times;
* `PathTo edges path name`: the path that a visit of `name` starts from;
* `visit_visited`: one visit; `walk_visited`: the whole walk;
* `order_pairwise`: a name that stands before one of its dependencies closes a cycle with it;
* `mem_before_of_cycles_eq_nil`: in an order without cycles dependencies come first;
* `mem_order`: the order holds the names that are mentioned, and no others;
* `order_behind_dependencies`: all that the order and the cycles say about a graph.
-/

namespace FormLogic

/-- Some cycle ends with the step from `n` to `d`. -/
def Closes (cycles : List (List String)) (n d : String) : Prop :=
  ∃ cycle ∈ cycles, [n, d] <:+ cycle

theorem Closes.mono {cycles more : List (List String)} {n d : String}
    (h : Closes cycles n d) (hs : cycles <:+ more) : Closes more n d := by
  obtain ⟨cycle, hc, hend⟩ := h
  exact ⟨cycle, hs.subset hc, hend⟩

namespace Edges

variable {edges : Edges}

/-- A closed path along dependencies that meets no name twice before it closes. -/
structure IsCycle (edges : Edges) (cycle : List String) : Prop where
  steps : cycle.IsChain fun a b => b ∈ edges.dependencies a
  closed : ∃ name rest, cycle = name :: rest ++ [name] ∧ (name :: rest).Nodup

/-- No name depends on itself, be it through others. -/
def Acyclic (edges : Edges) : Prop :=
  ∀ name, ¬ Relation.TransGen (fun a b => b ∈ edges.dependencies a) name name

theorem contains_of_mem_dependencies {n d : String} (h : d ∈ edges.dependencies n) :
    n ∈ edges.keys := by
  rw [Std.ExtTreeMap.mem_keys]
  unfold dependencies at h
  cases hn : edges[n]? with
  | none => simp [hn] at h
  | some names =>
    exact Std.ExtTreeMap.mem_iff_isSome_getElem?.2 (by simp [hn])

/-- A cycle leads from its name back to it. -/
theorem IsCycle.transGen {cycle : List String} (h : edges.IsCycle cycle) :
    ∃ name, Relation.TransGen (fun a b => b ∈ edges.dependencies a) name name := by
  obtain ⟨name, rest, rfl, -⟩ := h.closed
  have hchain := h.steps
  refine ⟨name, ?_⟩
  rw [List.cons_append] at hchain
  have hpairs := List.isChain_iff_pairwise.1
    (hchain.imp fun a b hab => Relation.TransGen.single hab)
  exact (List.pairwise_cons.1 hpairs).1 name (by simp)

/-- The name at which a cycle closes has dependencies. -/
theorem IsCycle.mem_keys {cycle : List String} {n d : String} (h : edges.IsCycle cycle)
    (hend : [n, d] <:+ cycle) : d ∈ edges.keys := by
  obtain ⟨name, rest, rfl, -⟩ := h.closed
  have hchain := h.steps
  obtain ⟨fore, hfore⟩ := hend
  have hlast : d = name := by
    have hboth := congrArg List.getLast? hfore
    rw [List.getLast?_append, List.getLast?_concat] at hboth
    exact Option.some.inj hboth
  subst hlast
  rw [List.cons_append] at hchain
  cases rest with
  | nil => exact contains_of_mem_dependencies (List.isChain_cons_cons.1 hchain).1
  | cons next rest => exact contains_of_mem_dependencies (List.isChain_cons_cons.1 hchain).1

theorem Acyclic.cycles_eq_nil {cycles : List (List String)} (ha : edges.Acyclic)
    (hc : ∀ cycle ∈ cycles, edges.IsCycle cycle) : cycles = [] := by
  rw [List.eq_nil_iff_forall_not_mem]
  intro cycle hcycle
  obtain ⟨name, hname⟩ := (hc cycle hcycle).transGen
  exact ha name hname

/-! ## Paths -/

/-- The names that a visit of `name` comes through, the latest first: each is a dependency of the
one before it. -/
structure PathTo (edges : Edges) (path : List String) (name : String) : Prop where
  steps : (name :: path).IsChain fun a b => a ∈ edges.dependencies b
  nodup : path.Nodup

theorem PathTo.root (name : String) : edges.PathTo [] name :=
  ⟨.singleton name, List.nodup_nil⟩

theorem PathTo.cons {path : List String} {name d : String} (h : edges.PathTo path name)
    (hn : name ∉ path) (hd : d ∈ edges.dependencies name) : edges.PathTo (name :: path) d :=
  ⟨List.isChain_cons_cons.2 ⟨hd, h.steps⟩, List.nodup_cons.2 ⟨hn, h.nodup⟩⟩

theorem mem_keys_of_chain {name : String} {path : List String}
    (h : (name :: path).IsChain fun a b => a ∈ edges.dependencies b) :
    ∀ x ∈ path, x ∈ edges.keys := by
  induction path generalizing name with
  | nil => simp
  | cons n path ih =>
    obtain ⟨hn, hrest⟩ := List.isChain_cons_cons.1 h
    intro x hx
    rcases List.mem_cons.1 hx with rfl | hx
    · exact contains_of_mem_dependencies hn
    · exact ih hrest x hx

/-- No path is longer than there are names with dependencies. -/
theorem PathTo.length_le {path : List String} {name : String} (h : edges.PathTo path name) :
    path.length ≤ edges.size := by
  rw [← Std.ExtTreeMap.length_keys]
  exact (List.subperm_of_subset h.nodup (mem_keys_of_chain h.steps)).length_le

theorem closeCycle_append {fore : List String} {name : String} (hfore : name ∉ fore)
    (aft : List String) :
    closeCycle (fore ++ name :: aft) name = name :: fore.reverse ++ [name] := by
  have hall : ∀ x ∈ fore, decide (x ≠ name) = true := by
    intro x hx
    rw [decide_eq_true_eq]
    rintro rfl
    exact hfore hx
  have htake : (fore ++ name :: aft).takeWhile (· ≠ name) = fore := by
    rw [List.takeWhile_append_of_pos hall]
    simp
  rw [closeCycle, htake]

/-- A name on the path to itself closes a cycle. -/
theorem PathTo.isCycle {path : List String} {name : String} (h : edges.PathTo path name)
    (hn : name ∈ path) : edges.IsCycle (closeCycle path name) := by
  obtain ⟨fore, aft, rfl, hfore⟩ := List.eq_append_cons_of_mem hn
  rw [closeCycle_append hfore]
  refine ⟨?_, name, fore.reverse, rfl, ?_⟩
  · -- the cycle is the path up to the name, walked backwards
    have hchain : (name :: fore ++ [name]).IsChain fun a b => a ∈ edges.dependencies b :=
      h.steps.prefix ⟨aft, by simp⟩
    rw [← List.isChain_reverse] at hchain
    simpa using hchain
  · have hnodup := (List.nodup_append.1 h.nodup).1
    rw [List.nodup_cons, List.mem_reverse, List.nodup_reverse]
    exact ⟨hfore, hnodup⟩

/-- The cycle ends with the step from the latest name of the path. -/
theorem closes_closeCycle {path : List String} {n name : String} {cycles : List (List String)}
    (hn : n ∈ path.head?) (hname : name ∈ path) :
    Closes (closeCycle path name :: cycles) n name := by
  refine ⟨_, List.mem_cons_self, ?_⟩
  obtain ⟨fore, aft, rfl, hfore⟩ := List.eq_append_cons_of_mem hname
  rw [closeCycle_append hfore]
  cases fore with
  | nil =>
    simp only [List.nil_append, List.head?_cons, Option.mem_some_iff] at hn
    simp [hn]
  | cons m fore =>
    simp only [List.cons_append, List.head?_cons, Option.mem_some_iff] at hn
    subst hn
    exact ⟨name :: fore.reverse, by simp⟩

end Edges

/-! ## Visits -/

namespace Walk

open Edges

variable {edges : Edges} {path : List String} {name : String} {w w' w'' : Walk}

/-- What holds of a walk at all times.  The finished names stand with the latest first, so what was
finished before a name stands behind it. -/
structure Sound (edges : Edges) (w : Walk) : Prop where
  nodup : w.finished.Nodup
  before : ∀ ⦃late n early⦄, w.finished = late ++ n :: early →
    ∀ d ∈ edges.dependencies n, d ∈ early ∨ Closes w.cycles n d
  cycles : ∀ cycle ∈ w.cycles, edges.IsCycle cycle

/-- What visits of `names` from a path make of a walk. -/
structure Visited (edges : Edges) (path names : List String) (w w' : Walk) : Prop where
  sound : w'.Sound edges
  finished : w.finished <:+ w'.finished
  cycles : w.cycles <:+ w'.cycles
  apart : ∀ x ∈ path, x ∉ w'.finished
  reached : ∀ d ∈ names, d ∈ w'.finished ∨ ∃ n ∈ path.head?, Closes w'.cycles n d

theorem Visited.refl (hw : w.Sound edges) (ha : ∀ x ∈ path, x ∉ w.finished) :
    Visited edges path [] w w :=
  ⟨hw, List.suffix_refl _, List.suffix_refl _, ha, by simp⟩

theorem Visited.trans {names more : List String} (h₁ : Visited edges path names w w')
    (h₂ : Visited edges path more w' w'') : Visited edges path (names ++ more) w w'' := by
  refine ⟨h₂.sound, h₁.finished.trans h₂.finished, h₁.cycles.trans h₂.cycles, h₂.apart, ?_⟩
  intro d hd
  rcases List.mem_append.1 hd with hd | hd
  · rcases h₁.reached d hd with hf | ⟨n, hn, hc⟩
    · exact .inl (h₂.finished.subset hf)
    · exact .inr ⟨n, hn, hc.mono h₂.cycles⟩
  · exact h₂.reached d hd

theorem foldl_visited {visit : Walk → String → Walk} {names : List String}
    (hvisit : ∀ w, w.Sound edges → (∀ x ∈ path, x ∉ w.finished) → ∀ d ∈ names,
      Visited edges path [d] w (visit w d))
    (hw : w.Sound edges) (ha : ∀ x ∈ path, x ∉ w.finished) :
    Visited edges path names w (names.foldl visit w) := by
  induction names generalizing w with
  | nil => exact .refl hw ha
  | cons d names ih =>
    have hd := hvisit w hw ha d List.mem_cons_self
    have hrest := ih (fun w hw ha x hx => hvisit w hw ha x (List.mem_cons_of_mem d hx))
      hd.sound hd.apart
    exact hd.trans hrest

/-- A name is finished when all its dependencies have been visited. -/
theorem Visited.finish (h : Visited edges (name :: path) (edges.dependencies name) w w')
    (hpath : name ∉ path) :
    Visited edges path [name] w { w' with finished := name :: w'.finished } := by
  have hname : name ∉ w'.finished := h.apart name List.mem_cons_self
  refine ⟨⟨List.nodup_cons.2 ⟨hname, h.sound.nodup⟩, ?_, h.sound.cycles⟩,
    h.finished.trans (List.suffix_cons name _), h.cycles, ?_, ?_⟩
  · intro late n early hsplit d hd
    cases late with
    | nil =>
      obtain ⟨rfl, rfl⟩ := List.cons.inj hsplit
      rcases h.reached d hd with hf | ⟨n, hn, hc⟩
      · exact .inl hf
      · rw [List.head?_cons, Option.mem_some_iff] at hn
        exact .inr (hn ▸ hc)
    | cons m late => exact h.sound.before (List.cons.inj hsplit).2 d hd
  · intro x hx hmem
    rcases List.mem_cons.1 hmem with rfl | hmem
    · exact hpath hx
    · exact h.apart x (List.mem_cons_of_mem name hx) hmem
  · simp

/-- A visit below a path, with depth enough for all paths, keeps the walk sound. -/
theorem visit_visited {depth : Nat} (hw : w.Sound edges) (hp : edges.PathTo path name)
    (ha : ∀ x ∈ path, x ∉ w.finished) (hd : edges.depth ≤ path.length + depth) :
    Visited edges path [name] w (visit edges depth path w name) := by
  induction depth generalizing path name w with
  | zero =>
    have hle := hp.length_le
    simp only [Edges.depth] at hd
    omega
  | succ depth ih =>
    unfold visit
    split
    · rename_i hf
      exact ⟨hw, List.suffix_refl _, List.suffix_refl _, ha, by simp [hf]⟩
    split
    · rename_i hf hmem
      obtain ⟨n, hn⟩ : ∃ n, n ∈ path.head? := by
        cases path with
        | nil => cases hmem
        | cons n path => exact ⟨n, rfl⟩
      have hclosed : Closes (closeCycle path name :: w.cycles) n name :=
        closes_closeCycle hn hmem
      refine ⟨⟨hw.nodup, ?_, ?_⟩, List.suffix_refl _, List.suffix_cons _ _, ha, ?_⟩
      · intro late m early hsplit d hd
        exact (hw.before hsplit d hd).imp_right fun h => h.mono (List.suffix_cons _ _)
      · intro cycle hcycle
        rcases List.mem_cons.1 hcycle with rfl | hcycle
        · exact hp.isCycle hmem
        · exact hw.cycles cycle hcycle
      · intro d hd
        rw [List.mem_singleton.1 hd]
        exact .inr ⟨n, hn, hclosed⟩
    · rename_i hf hmem
      have hapart : ∀ x ∈ name :: path, x ∉ w.finished := List.forall_mem_cons.2 ⟨hf, ha⟩
      refine Visited.finish (foldl_visited (fun w hw ha d hdep => ?_) hw hapart) hmem
      exact ih hw (hp.cons hmem hdep) ha (by simp only [List.length_cons]; omega)

theorem mem_finished_foldl {visit : Walk → String → Walk} {names : List String} {x : String}
    {P : Prop}
    (hvisit : ∀ w, ∀ d ∈ names, x ∈ (visit w d).finished → x ∈ w.finished ∨ P)
    (h : x ∈ (names.foldl visit w).finished) : x ∈ w.finished ∨ P := by
  induction names generalizing w with
  | nil => exact .inl h
  | cons d names ih =>
    rcases ih (fun w y hy => hvisit w y (List.mem_cons_of_mem d hy)) h with hx | hx
    · exact hvisit w d List.mem_cons_self hx
    · exact .inr hx

/-- A visit finishes the name itself, dependencies, and nothing else. -/
theorem mem_finished_visit {depth : Nat} {x : String}
    (h : x ∈ (visit edges depth path w name).finished) :
    x ∈ w.finished ∨ x = name ∨ ∃ n, x ∈ edges.dependencies n := by
  induction depth generalizing path w name with
  | zero => exact .inl h
  | succ depth ih =>
    unfold visit at h
    split at h
    · exact .inl h
    split at h
    · exact .inl h
    · rcases List.mem_cons.1 h with rfl | h
      · exact .inr (.inl rfl)
      · refine (mem_finished_foldl (fun w d hd hx => ?_) h).imp_right .inr
        rcases ih hx with hx | rfl | hx
        · exact .inl hx
        · exact .inr ⟨name, hd⟩
        · exact .inr hx

end Walk

namespace Edges

variable {edges : Edges}

theorem walk_visited : Walk.Visited edges [] edges.keys {} edges.walk :=
  Walk.foldl_visited
    (fun _ hw _ d _ => Walk.visit_visited hw (.root d) (by simp) (by simp))
    ⟨by simp, by simp, by simp⟩ (by simp)

/-! ## The order -/

theorem order_nodup : (orderOf edges).order.Nodup :=
  List.nodup_reverse.2 walk_visited.sound.nodup

/-- Every name that has dependencies is in the order. -/
theorem mem_order_of_mem_keys {name : String} (h : name ∈ edges.keys) :
    name ∈ (orderOf edges).order := by
  refine List.mem_reverse.2 ((walk_visited.reached name h).resolve_right ?_)
  simp

/-- A dependency of a name stands before the name, unless the step to it closes a cycle. -/
theorem mem_before_or_closes {early late : List String} {n d : String}
    (h : (orderOf edges).order = early ++ n :: late) (hd : d ∈ edges.dependencies n) :
    d ∈ early ∨ Closes (orderOf edges).cycles n d := by
  have hsplit : edges.walk.finished = late.reverse ++ n :: early.reverse := by
    have hrev := congrArg List.reverse h
    simpa [orderOf] using hrev
  rcases walk_visited.sound.before hsplit d hd with hin | ⟨cycle, hc, hend⟩
  · exact .inl (List.mem_reverse.1 hin)
  · exact .inr ⟨cycle, List.mem_reverse.2 hc, hend⟩

theorem isCycle_of_mem_cycles {cycle : List String} (h : cycle ∈ (orderOf edges).cycles) :
    edges.IsCycle cycle :=
  walk_visited.sound.cycles cycle (List.mem_reverse.1 h)

/-- A name that stands before one of its dependencies closes a cycle with it. -/
theorem order_pairwise : (orderOf edges).order.Pairwise fun n d =>
    d ∈ edges.dependencies n → Closes (orderOf edges).cycles n d := by
  have hall : ∀ late early, (orderOf edges).order = early ++ late →
      late.Pairwise fun n d => d ∈ edges.dependencies n → Closes (orderOf edges).cycles n d := by
    intro late
    induction late with
    | nil => exact fun _ _ => .nil
    | cons n late ih =>
      intro early hsplit
      refine .cons (fun d hd hdep => ?_) (ih (early ++ [n]) (by simp [hsplit]))
      refine (mem_before_or_closes hsplit hdep).resolve_left fun hbefore => ?_
      have hnodup := hsplit ▸ order_nodup
      exact (List.nodup_append.1 hnodup).2.2 d hbefore d (List.mem_cons_of_mem n hd) rfl
  exact hall _ [] rfl

/-- In an order without cycles dependencies come first. -/
theorem mem_before_of_cycles_eq_nil (hnone : (orderOf edges).cycles = [])
    {early late : List String} {n d : String}
    (h : (orderOf edges).order = early ++ n :: late) (hd : d ∈ edges.dependencies n) :
    d ∈ early := by
  rcases mem_before_or_closes h hd with hin | ⟨cycle, hc, -⟩
  · exact hin
  · rw [hnone] at hc
    cases hc

theorem mem_finished_walk {x : String} (h : x ∈ edges.walk.finished) :
    x ∈ edges.keys ∨ ∃ n, x ∈ edges.dependencies n := by
  refine (Walk.mem_finished_foldl (fun w name hname hx => ?_) h).resolve_left List.not_mem_nil
  rcases Walk.mem_finished_visit hx with hx | rfl | hx
  · exact .inl hx
  · exact .inr (.inl hname)
  · exact .inr (.inr hx)

/-- The order holds the names that have dependencies or are some, and no others. -/
theorem mem_order {x : String} :
    x ∈ (orderOf edges).order ↔ x ∈ edges.keys ∨ ∃ n, x ∈ edges.dependencies n := by
  constructor
  · intro h
    exact mem_finished_walk (List.mem_reverse.1 h)
  · rintro (h | ⟨n, hn⟩)
    · exact mem_order_of_mem_keys h
    · have hkey := mem_order_of_mem_keys (contains_of_mem_dependencies hn)
      obtain ⟨early, late, hsplit⟩ := List.append_of_mem hkey
      rcases mem_before_or_closes hsplit hn with hx | ⟨cycle, hcycle, hend⟩
      · rw [hsplit]
        exact List.mem_append_left _ hx
      · exact mem_order_of_mem_keys ((isCycle_of_mem_cycles hcycle).mem_keys hend)

theorem sublist_of_mem_before {early late : List String} {n d : String} (hd : d ∈ early) :
    [d, n].Sublist (early ++ n :: late) := by
  have hsingle : [d].Sublist early := List.singleton_sublist.2 hd
  have hrest : [n].Sublist (n :: late) := List.singleton_sublist.2 List.mem_cons_self
  exact hsingle.append hrest

/-- A dependency stands before the name that has it, or else the step to it closes a cycle. -/
theorem sublist_or_closes {n d : String} (hd : d ∈ edges.dependencies n) :
    [d, n].Sublist (orderOf edges).order ∨ Closes (orderOf edges).cycles n d := by
  have hkey := mem_order_of_mem_keys (contains_of_mem_dependencies hd)
  obtain ⟨early, late, hsplit⟩ := List.append_of_mem hkey
  rcases mem_before_or_closes hsplit hd with hbefore | hcloses
  · rw [hsplit]
    exact .inl (sublist_of_mem_before hbefore)
  · exact .inr hcloses

/-- The order holds every name that has dependencies or is one, each once, and no others.  A name
stands behind each of its dependencies, or else the step to it is the last one of some cycle.  So
without cycles all names stand behind their dependencies. -/
theorem order_behind_dependencies (edges : Edges) :
    let o := orderOf edges
    o.order.Nodup ∧
    (∀ x, x ∈ o.order ↔ x ∈ edges.keys ∨ ∃ n, x ∈ edges.dependencies n) ∧
    (∀ n d, d ∈ edges.dependencies n →
      [d, n].Sublist o.order ∨ ∃ cycle ∈ o.cycles, [n, d] <:+ cycle) ∧
    (o.cycles = [] → ∀ n d, d ∈ edges.dependencies n → [d, n].Sublist o.order) := by
  intro o
  refine ⟨order_nodup, fun x => mem_order, fun n d hd => sublist_or_closes hd, ?_⟩
  intro hnone n d hd
  rcases sublist_or_closes hd with hbefore | ⟨cycle, hcycle, -⟩
  · exact hbefore
  · have hin : cycle ∈ o.cycles := hcycle
    rw [hnone] at hin
    cases hin

/-- Of three names on two cycles, one of them a loop, the first stands before its dependency, and
that step closes a cycle. -/
theorem order_behind_dependencies_loop :
    let edges : Edges := Dict.ofPairs [("A", NameSet.ofNames ["B", "X"]),
      ("B", NameSet.ofNames ["A", "B"])]
    (orderOf edges).order = ["B", "X", "A"] ∧ "A" ∈ edges.dependencies "B" ∧
      ([("A" : String), "B"].Sublist (orderOf edges).order ∨
        ∃ cycle ∈ (orderOf edges).cycles, ["B", "A"] <:+ cycle) := by
  intro edges
  have hdep : "A" ∈ edges.dependencies "B" := by decide +kernel
  exact ⟨by decide +kernel, hdep, (order_behind_dependencies edges).2.2.1 "B" "A" hdep⟩

end Edges
end FormLogic
