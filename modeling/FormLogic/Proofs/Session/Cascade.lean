import FormLogic.Proofs.Rules.Flags
import FormLogic.Proofs.Session.Default
import FormLogic.Proofs.Session.Run

/-!
# FormLogic.Proofs.Session.Cascade

What a change does to values.

* `Form.defaultOf`: the text that the default of a keyword's field yields;
* `cascade_cons`: one step of a cascade;
* `cascade_frame`, `mem_derived`: a cascade writes the fields that it reports, and no others;
* `InOrder`, `cascade_settles`: in an order in which no default reads a later field, every field ends
  up with what its default yields;
* `WellKeyed`: what a form has when the keywords of its product are unique;
* `change_stores_and_settles`: a change in any session.

A default is evaluated while later fields are still to be derived.  It yields the same in the end
because none of these is among the fields that it reads.
-/

namespace FormLogic

open Formula Relation

namespace Form

variable {form : Form} {names : List String} {name : String} {s : FormState}

/-- The text that the default of a keyword's field yields. -/
def defaultOf (form : Form) (keyword : String) (values : Dict String) : Option String :=
  (form.field? keyword).bind fun f => (f.evaluateDefault values).value

theorem defaultOf_congr {v w : Dict String}
    (h : ∀ d, DefaultReads form.fields name d → v[d]? = w[d]?) :
    form.defaultOf name v = form.defaultOf name w := by
  unfold defaultOf
  cases hf : form.field? name with
  | none => rfl
  | some f =>
    obtain ⟨hmem, hname⟩ := mem_of_field? hf
    exact f.evaluateDefault_congr fun d hd => h d ⟨f, hmem, hname, hd⟩

/-- The state behind one step of a cascade, and whether the field is derived anew. -/
def deriveOne (form : Form) (name : String) (s : FormState) : FormState × Bool :=
  match form.defaultOf name s.values with
  | none => (s, false)
  | some value =>
    if s.value? name = some value then (s, false)
    else ((form.resolver.update name value s).value, true)

/-- One step of a cascade. -/
theorem cascade_cons (form : Form) (name : String) (names : List String) (s : FormState) :
    (form.cascade (name :: names) s).value =
      let rest := (form.cascade names (form.deriveOne name s).1).value
      (rest.1, if (form.deriveOne name s).2 then name :: rest.2 else rest.2) := by
  rw [cascade]
  unfold deriveOne defaultOf
  cases form.field? name with
  | none => rfl
  | some f =>
    rw [Metered.value_bind, Option.bind_some]
    cases (f.evaluateDefault s.values).value with
    | none => rfl
    | some value =>
      by_cases heq : s.value? name = some value
      · simp only [heq, if_true]
        rfl
      · simp only [heq, if_false, Metered.value_bind, Metered.value_pure, if_true]

theorem deriveOne_frame {d : String} (h : d ≠ name) :
    (form.deriveOne name s).1.values[d]? = s.values[d]? := by
  unfold deriveOne
  split
  · rfl
  · split
    · rfl
    · rw [Resolver.values_update, Dict.getElem?_insert, if_neg (Ne.symm h)]

/-- A field is derived anew exactly if that changes its value. -/
theorem deriveOne_derived :
    (form.deriveOne name s).2 = true ↔
      (form.deriveOne name s).1.values[name]? ≠ s.values[name]? := by
  unfold deriveOne
  split
  · simp
  · rename_i value _
    by_cases heq : s.value? name = some value
    · simp [heq]
    · have hne : s.values[name]? ≠ some value := heq
      simp [heq, Resolver.values_update, Ne.symm hne]

theorem deriveOne_value {value : String} (h : form.defaultOf name s.values = some value) :
    (form.deriveOne name s).1.values[name]? = some value := by
  unfold deriveOne
  rw [h]
  by_cases heq : s.value? name = some value
  · simp only [heq, if_true]
    exact heq
  · simp [heq, Resolver.values_update]

/-! ## Many steps -/

/-- What every step keeps holds behind a cascade. -/
theorem cascade_induction {P : FormState → Prop} (hs : P s)
    (hstep : ∀ s name value, P s → P (form.resolver.update name value s).value) :
    P (form.cascade names s).value.1 := by
  induction names generalizing s with
  | nil => exact hs
  | cons name names ih =>
    rw [cascade_cons]
    refine ih ?_
    unfold deriveOne
    split
    · exact hs
    · split
      · exact hs
      · exact hstep s name _ hs

/-- A cascade leaves the values of other fields. -/
theorem cascade_frame {d : String} (h : d ∉ names) :
    (form.cascade names s).value.1.values[d]? = s.values[d]? := by
  induction names generalizing s with
  | nil => rfl
  | cons name names ih =>
    rw [List.mem_cons, not_or] at h
    obtain ⟨hname, hnames⟩ := h
    rw [cascade_cons]
    exact (ih hnames).trans (deriveOne_frame hname)

theorem derived_sublist (form : Form) (names : List String) (s : FormState) :
    (form.cascade names s).value.2.Sublist names := by
  induction names generalizing s with
  | nil => exact .slnil
  | cons name names ih =>
    rw [cascade_cons]
    split
    · exact (ih _).cons_cons name
    · exact (ih _).cons name

/-- A cascade reports the fields whose values it changes. -/
theorem mem_derived {d : String} (hnodup : names.Nodup) :
    d ∈ (form.cascade names s).value.2 ↔
      (form.cascade names s).value.1.values[d]? ≠ s.values[d]? := by
  induction names generalizing s with
  | nil => simp [cascade]
  | cons name names ih =>
    obtain ⟨hname, hnodup⟩ := List.nodup_cons.1 hnodup
    have hrest := ih hnodup (s := (form.deriveOne name s).1)
    have hnot : name ∉ (form.cascade names (form.deriveOne name s).1).value.2 :=
      fun h => hname ((derived_sublist form names _).subset h)
    rw [cascade_cons]
    by_cases hd : d = name
    · subst hd
      rw [cascade_frame hname, ← deriveOne_derived]
      cases (form.deriveOne d s).2 <;> simp [hnot]
    · rw [← @deriveOne_frame form name s d hd, ← hrest]
      cases (form.deriveOne name s).2 <;> simp [hd]

/-- An order in which no default reads its own field or a later one. -/
inductive InOrder (form : Form) : List String → Prop
  | nil : InOrder form []
  | cons {name : String} {names : List String} (fresh : name ∉ names)
      (reads : ∀ d, DefaultReads form.fields name d → d ∉ name :: names)
      (rest : InOrder form names) : InOrder form (name :: names)

/-- In such an order every field ends up with what its default yields in the end. -/
theorem cascade_settles {g w : String} (horder : form.InOrder names) (hg : g ∈ names)
    (hw : form.defaultOf g (form.cascade names s).value.1.values = some w) :
    (form.cascade names s).value.1.values[g]? = some w := by
  induction horder generalizing s with
  | nil => cases hg
  | @cons name names hname hreads _ ih =>
    by_cases hgn : g = name
    · subst hgn
      have hnow : form.defaultOf g s.values = some w :=
        (defaultOf_congr fun d hd => (cascade_frame (hreads d hd)).symm).trans hw
      rw [cascade_cons]
      exact (cascade_frame hname).trans (deriveOne_value hnow)
    · have hin : g ∈ names := (List.mem_cons.1 hg).resolve_left hgn
      rw [cascade_cons] at hw ⊢
      exact ih hin hw

/-! ## Changes -/

theorem change_derived_sublist (form : Form) (field value : String) (s : FormState) :
    (form.change field value s).value.2.Sublist (form.defaults.downstream field) := by
  rw [value_change]
  exact derived_sublist form _ _

/-- A change leaves the fields that it does not spread to. -/
theorem change_frame {field value g : String} (hg : g ≠ field)
    (hnot : g ∉ form.defaults.downstream field) :
    (form.change field value s).value.1.values[g]? = s.values[g]? := by
  rw [value_change]
  refine (cascade_frame hnot).trans ?_
  rw [Resolver.values_update, Dict.getElem?_insert, if_neg (Ne.symm hg)]

/-- A form's fields have a keyword each, and its defaults are theirs. -/
structure WellKeyed (form : Form) : Prop where
  unique : (form.fields.map (·.keyword)).Nodup
  defaults : form.defaults = Defaults.ofFields form.fields

namespace WellKeyed

variable {field value g w : String}

theorem mem_downstream (h : form.WellKeyed) :
    g ∈ form.defaults.downstream field ↔
      g ≠ field ∧ TransGen (fun a b => DefaultReads form.fields b a) field g := by
  rw [h.defaults]
  exact Defaults.mem_downstream h.unique

theorem order_pairwise (h : form.WellKeyed) : form.defaults.order.Pairwise fun a b =>
    a ≠ b ∧ (DefaultReads form.fields a b → Closes form.defaults.cycles a b) := by
  rw [h.defaults]
  exact Defaults.order_pairwise_defaults h.unique

theorem downstream_pairwise (h : form.WellKeyed) (field : String) :
    (form.defaults.downstream field).Pairwise fun a b =>
      a ≠ b ∧ (DefaultReads form.fields a b → Closes form.defaults.cycles a b) :=
  h.order_pairwise.sublist (form.defaults.downstream_sublist field)

/-- Without cycles no field is derived before one that its default reads. -/
theorem inOrder (h : form.WellKeyed) (ha : ∀ g, ¬ TransGen (DefaultReads form.fields) g g)
    (hsub : names.Sublist form.defaults.order) : form.InOrder names := by
  induction names with
  | nil => exact .nil
  | cons name names ih =>
    obtain ⟨hlater, -⟩ := List.pairwise_cons.1 (h.order_pairwise.sublist hsub)
    refine .cons (fun hin => (hlater name hin).1 rfl) (fun d hd hmem => ?_)
      (ih ((List.sublist_cons_self name names).trans hsub))
    rcases List.mem_cons.1 hmem with rfl | hmem
    · exact ha d (.single hd)
    · have hcloses := (hlater d hmem).2 hd
      rw [h.defaults] at hcloses
      exact Defaults.not_closes_of_acyclic h.unique ha hcloses

/-- The edited field is not derived. -/
theorem not_mem_downstream_self (h : form.WellKeyed) : field ∉ form.defaults.downstream field := by
  rw [h.mem_downstream]
  exact fun hself => hself.1 rfl

theorem values_change_self (h : form.WellKeyed) (field value : String) (s : FormState) :
    (form.change field value s).value.1.values[field]? = some value := by
  rw [value_change]
  refine (cascade_frame h.not_mem_downstream_self).trans ?_
  rw [Resolver.values_update, Dict.getElem?_insert, if_pos rfl]

/-- A change reports the other fields whose values it changes. -/
theorem mem_change_derived (h : form.WellKeyed) :
    g ∈ (form.change field value s).value.2 ↔
      g ≠ field ∧ (form.change field value s).value.1.values[g]? ≠ s.values[g]? := by
  by_cases hg : g = field
  · subst hg
    have hnot : g ∉ (form.change g value s).value.2 :=
      fun hin => h.not_mem_downstream_self ((change_derived_sublist form g value s).subset hin)
    exact ⟨fun hin => absurd hin hnot, fun hne => absurd rfl hne.1⟩
  · have hnodup := (h.downstream_pairwise field).imp And.left
    have hbefore : (form.resolver.update field value s).value.values[g]? = s.values[g]? := by
      rw [Resolver.values_update, Dict.getElem?_insert, if_neg (Ne.symm hg)]
    rw [value_change, and_iff_right hg, ← hbefore]
    exact mem_derived hnodup

/-- Without cycles, a field that a change spreads to ends up with what its default yields. -/
theorem change_settles (h : form.WellKeyed)
    (ha : ∀ g, ¬ TransGen (DefaultReads form.fields) g g)
    (hg : g ∈ form.defaults.downstream field)
    (hw : form.defaultOf g (form.change field value s).value.1.values = some w) :
    (form.change field value s).value.1.values[g]? = some w := by
  rw [value_change] at hw ⊢
  exact cascade_settles (h.inOrder ha (form.defaults.downstream_sublist field)) hg hw

end WellKeyed
end Form

/-! ## Sessions -/

theorem Session.wellKeyed {p : Product} (h : p.UniqueKeywords) (o : SessionOptions)
    (acts : List Interaction) : ((start p o).performAll acts).form.WellKeyed := by
  rw [form_performAll, form_start, Form.value_ofProduct]
  exact ⟨h.fieldsIn o.transactionCode o.stepCode, rfl⟩

/-- A change in any session stores the value, whatever defaults there are.  It reports each other
field whose value it changes, once and in the order of derivation; a field reported before one that
its default reads closes a cycle with it.  If no default reads its own field, be it through others,
then all fields that the change spreads to end up with what their defaults yield in the end. -/
theorem change_stores_and_settles (p : Product) (hunique : p.UniqueKeywords) (o : SessionOptions)
    (acts : List Interaction) (f v : String) :
    let s := (Session.start p o).performAll acts
    let s' := s.change f v
    s'.state.values[f]? = some v ∧
    (∃ derived, s'.events = s.events ++ [.valueChanged f v derived] ∧
      derived.Nodup ∧
      (∀ g, g ∈ derived ↔ g ≠ f ∧ s'.state.values[g]? ≠ s.state.values[g]?) ∧
      derived.Sublist s.form.defaults.order ∧
      derived.Pairwise fun g h =>
        DefaultReads s.form.fields g h → Closes s.form.defaults.cycles g h) ∧
    ((∀ g, ¬ TransGen (DefaultReads s.form.fields) g g) → ∀ g w, g ≠ f →
      TransGen (fun a b => DefaultReads s.form.fields b a) f g →
      s.form.defaultOf g s'.state.values = some w → s'.state.values[g]? = some w) := by
  intro s s'
  have hform : s.form.WellKeyed := Session.wellKeyed hunique o acts
  have hev : s.evaluator.Faithful := Session.evaluator_faithful p o acts
  have hstate : s'.state = (s.form.change f v s.state).value.1 := Session.state_change hev f v
  rw [hstate]
  refine ⟨hform.values_change_self f v s.state,
    ⟨(s.form.change f v s.state).value.2, Session.events_change hev f v, ?_⟩,
    fun ha g w hne hreach hw => ?_⟩
  · have hsub := (Form.change_derived_sublist s.form f v s.state).trans
      (s.form.defaults.downstream_sublist f)
    have hpairs := hform.order_pairwise.sublist hsub
    exact ⟨hpairs.imp And.left, fun g => hform.mem_change_derived, hsub, hpairs.imp And.right⟩
  · exact hform.change_settles ha (hform.mem_downstream.2 ⟨hne, hreach⟩) hw

/-- A change of the age passes through the term to the cover. -/
theorem change_stores_and_settles_chain :
    let p : Product := { fields := [{ keyword := "AGE" }, { keyword := "TERM", default := "@AGE" },
      { keyword := "COVER", default := "@TERM" }] }
    let o : SessionOptions := { transaction := "", step := "" }
    let s := (Session.start p o).performAll [.change "AGE" "1", .blur "TERM"]
    p.UniqueKeywords ∧ (∀ g, ¬ TransGen (DefaultReads s.form.fields) g g) ∧
      (s.change "AGE" "2").state.values["AGE"]? = some "2" ∧
      (s.change "AGE" "2").state.values["COVER"]? = some "2" := by
  intro p o s
  have hunique : p.UniqueKeywords := by decide
  have hfields : s.form.fields = p.fields := by decide +kernel
  have ha : ∀ g, ¬ TransGen (DefaultReads s.form.fields) g g := by
    rw [hfields]
    exact acyclic_of_rank String.length (by decide +kernel)
  have hterm : DefaultReads s.form.fields "TERM" "AGE" :=
    ⟨{ keyword := "TERM", default := "@AGE" }, by simp [hfields, p], rfl, by decide +kernel⟩
  have hcover : DefaultReads s.form.fields "COVER" "TERM" :=
    ⟨{ keyword := "COVER", default := "@TERM" }, by simp [hfields, p], rfl, by decide +kernel⟩
  have hreach : TransGen (fun a b => DefaultReads s.form.fields b a) "AGE" "COVER" :=
    .tail (.single hterm) hcover
  have hs : s = (Session.start p o).performAll [.change "AGE" "1", .blur "TERM"] := rfl
  have hall := change_stores_and_settles p hunique o [.change "AGE" "1", .blur "TERM"] "AGE" "2"
  rw [← hs] at hall
  obtain ⟨hage, -, hsettled⟩ := hall
  have hw : s.form.defaultOf "COVER" (s.change "AGE" "2").state.values = some "2" := by
    decide +kernel
  exact ⟨hunique, ha, hage, hsettled ha "COVER" "2" (by decide) hreach hw⟩

end FormLogic
