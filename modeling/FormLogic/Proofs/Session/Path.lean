import FormLogic.Proofs.Session.Start

/-!
# FormLogic.Proofs.Session.Path

Values that were changed one after another, and the same values given at first.

* `Form.Carried`: what holds of values behind changes, in terms of what would have been given;
* `Carried.change`, `carried_changes`: one change keeps it, and so do many;
* `Field.AsAtFirst`: a field with a default holds its selected choice, or else nothing if its default
  yields nothing;
* `changes_agree_with_start`: changes lead to the values of a first state exactly if all fields with
  defaults are so;
* `changes_agree_with_start_lapsed`: a default that ceases to yield anything leaves what it yielded,
  and a selected choice is lost to a default.

The changed fields have no defaults.  So a field with a default is either reached by a change, and
then settled by it, or all that its default reads is as it was.
-/

namespace FormLogic

open Formula Relation

/-- A field with a default holds the choice that is selected at first, or else nothing if its
default yields nothing. -/
def Field.AsAtFirst (f : Field) (values : Dict String) : Prop :=
  match f.selected? with
  | some choice => values[f.keyword]? = some choice
  | none => (f.evaluateDefault values).value = none → values[f.keyword]? = none

instance (f : Field) (values : Dict String) : Decidable (f.AsAtFirst values) :=
  match h : f.selected? with
  | some choice =>
    decidable_of_iff (values[f.keyword]? = some choice) (by simp only [Field.AsAtFirst, h])
  | none =>
    decidable_of_iff ((f.evaluateDefault values).value = none → values[f.keyword]? = none)
      (by simp only [Field.AsAtFirst, h])

namespace Form

variable {form : Form} {given : Dict String} {s : FormState} {field value : String}

/-- Fields without defaults hold what would have been given or is selected at first.  Those without
a selected choice hold what their defaults yield. -/
structure Carried (form : Form) (given values : Dict String) : Prop where
  plain : ∀ k, ¬ form.HasDefault k → values[k]? = given[k]?.or (form.selectedOf k)
  settled : ∀ k w, form.selectedOf k = none → form.defaultOf k values = some w →
    values[k]? = some w

theorem WellKeyed.carried_start (h : form.WellKeyed)
    (ha : ∀ g, ¬ TransGen (DefaultReads form.fields) g g)
    (hgiven : ∀ k, form.HasDefault k → given[k]? = none) :
    form.Carried given (form.start given).value.values := by
  refine ⟨fun k hk => ?_, fun k w hselected hw => ?_⟩
  · rw [h.values_start ha, firstValue, defaultOf_eq_none hk, Option.or_none]
  · rw [h.values_start ha, firstValue, hgiven k (hasDefault_of_defaultOf hw), hselected, hw,
      Option.none_or, Option.none_or]

/-- A change keeps it, with the new value among those that would have been given. -/
theorem Carried.change (hc : form.Carried given s.values) (h : form.WellKeyed)
    (ha : ∀ g, ¬ TransGen (DefaultReads form.fields) g g) (hfield : ¬ form.HasDefault field) :
    form.Carried (given.insert field value) (form.change field value s).value.1.values := by
  refine ⟨fun k hk => ?_, fun k w hselected hw => ?_⟩
  · rw [Dict.getElem?_insert]
    by_cases hkf : k = field
    · subst hkf
      rw [h.values_change_self, if_pos rfl, Option.some_or]
    · have hnot : k ∉ form.defaults.downstream field := by
        intro hin
        obtain ⟨a, -, hreads⟩ := TransGen.tail'_iff.1 (h.mem_downstream.1 hin).2
        exact hk (hasDefault_of_reads hreads)
      rw [if_neg (Ne.symm hkf), change_frame hkf hnot]
      exact hc.plain k hk
  · have hkf : k ≠ field := by
      rintro rfl
      exact hfield (hasDefault_of_defaultOf hw)
    by_cases hin : k ∈ form.defaults.downstream field
    · exact h.change_settles ha hin hw
    · -- the change spreads to nothing that the default of `k` reads
      have hreads : ∀ d, DefaultReads form.fields k d →
          (form.change field value s).value.1.values[d]? = s.values[d]? := by
        intro d hd
        have hdf : d ≠ field := by
          rintro rfl
          exact hin (h.mem_downstream.2 ⟨hkf, .single hd⟩)
        refine change_frame hdf fun hdin => hin (h.mem_downstream.2 ⟨hkf, ?_⟩)
        exact (h.mem_downstream.1 hdin).2.tail hd
      rw [defaultOf_congr hreads] at hw
      rw [change_frame hkf hin]
      exact hc.settled k w hselected hw

/-- Many changes keep it. -/
theorem carried_changes {edits : List (String × String)} {t : Session}
    (hev : t.evaluator.Faithful) (ht : t.form = form) (h : form.WellKeyed) (ha : ∀ g, ¬ TransGen (DefaultReads form.fields) g g)
    (hedits : ∀ e ∈ edits, ¬ form.HasDefault e.1) (hc : form.Carried given t.state.values) :
    form.Carried (given.insertAll edits)
      (t.performAll (edits.map fun e => .change e.1 e.2)).state.values := by
  induction edits generalizing t given with
  | nil => exact hc
  | cons e edits ih =>
    refine ih (Session.faithful_perform hev (.change e.1 e.2)) ((t.form_change e.1 e.2).trans ht)
      (fun e he => hedits e (List.mem_cons_of_mem _ he)) ?_
    have hstate : (t.perform (.change e.1 e.2)).state =
        (form.change e.1 e.2 t.state).value.1 := ht ▸ Session.state_change hev e.1 e.2
    rw [hstate]
    exact hc.change h ha (hedits e List.mem_cons_self)

/-- A field with a default has what the values of a first state have for it exactly if it is as at
first. -/
theorem Carried.eq_firstValue_iff {values : Dict String} (hc : form.Carried given values)
    (h : form.WellKeyed) (hgiven : ∀ k, form.HasDefault k → given[k]? = none) {f : Field}
    (hf : f ∈ form.fields) (hdefault : f.defaultText?.isSome) :
    values[f.keyword]? = form.firstValue given values f.keyword ↔ f.AsAtFirst values := by
  have hnone := hgiven f.keyword ⟨f, hf, rfl, hdefault⟩
  have hyields : form.defaultOf f.keyword values = (f.evaluateDefault values).value := by
    rw [defaultOf, field?_eq_some h.unique hf, Option.bind_some]
  have hselected := selectedOf_keyword h.unique hf
  rw [firstValue, hnone, Option.none_or, hselected, hyields, Field.AsAtFirst]
  cases hchoice : f.selected? with
  | some choice => rw [Option.some_or]
  | none =>
    rw [Option.none_or]
    cases hw : (f.evaluateDefault values).value with
    | none => simp
    | some w =>
      have hsettled := hc.settled f.keyword w (hselected.trans hchoice) (hyields.trans hw)
      simp [hsettled]

theorem Carried.eq_firstValue {values : Dict String} (hc : form.Carried given values)
    (h : form.WellKeyed) (hgiven : ∀ k, form.HasDefault k → given[k]? = none) {k : String}
    (hfirst : ∀ f ∈ form.fields, f.defaultText?.isSome → f.keyword = k → f.AsAtFirst values) :
    values[k]? = form.firstValue given values k := by
  by_cases hk : form.HasDefault k
  · obtain ⟨f, hf, rfl, hdefault⟩ := hk
    exact (hc.eq_firstValue_iff h hgiven hf hdefault).2 (hfirst f hf hdefault rfl)
  · rw [hc.plain k hk, firstValue, defaultOf_eq_none hk, Option.or_none]

end Form

/-- Fields without defaults are changed, and none with a default is given a value.  The changes lead
to the values of a first state that is given the new values exactly if all fields with defaults are
as at first.  Where only some are, a keyword has the value of that state if its field and all that
its default reads, be it through others, are as at first. -/
theorem changes_agree_with_start (p : Product) (hunique : p.UniqueKeywords) (o : SessionOptions)
    (edits : List (String × String)) :
    let form := (Session.start p o).form
    let values := ((Session.start p o).performAll
      (edits.map fun e => .change e.1 e.2)).state.values
    let first := (Session.start p { o with values := o.values.insertAll edits }).state.values
    (∀ g, ¬ TransGen (DefaultReads form.fields) g g) →
    (∀ f ∈ form.fields, f.defaultText?.isSome →
      o.values[f.keyword]? = none ∧ ∀ e ∈ edits, e.1 ≠ f.keyword) →
    (values = first ↔ ∀ f ∈ form.fields, f.defaultText?.isSome → f.AsAtFirst values) ∧
    ∀ k, (∀ f ∈ form.fields, f.defaultText?.isSome →
        ReflTransGen (DefaultReads form.fields) k f.keyword → f.AsAtFirst values) →
      values[k]? = first[k]? := by
  intro form values first ha hplain
  have h : form.WellKeyed := Session.wellKeyed hunique o []
  have hgiven : ∀ k, form.HasDefault k → o.values[k]? = none := by
    rintro k ⟨f, hf, rfl, hdefault⟩
    exact (hplain f hf hdefault).1
  have hedits : ∀ e ∈ edits, ¬ form.HasDefault e.1 := by
    rintro e he ⟨f, hf, hkeyword, hdefault⟩
    exact (hplain f hf hdefault).2 e he hkeyword.symm
  have hc : form.Carried (o.values.insertAll edits) values :=
    Form.carried_changes (Session.faithful_start p o) rfl h ha hedits
      (Session.state_start p o ▸ h.carried_start ha hgiven)
  -- the new values make no difference to the form
  have hform : (Session.start p { o with values := o.values.insertAll edits }).form = form :=
    (Session.form_start _ _).trans (Session.form_start p o).symm
  have hfirst : first = (form.start (o.values.insertAll edits)).value.values := by
    rw [← hform]
    exact congrArg (·.values) (Session.state_start _ _)
  rw [hfirst]
  have hnew : ∀ k, form.HasDefault k → (o.values.insertAll edits)[k]? = none := by
    intro k hk
    rw [Dict.insertAll_frame (fun e he hkeyword => hedits e he (hkeyword ▸ hk))]
    exact hgiven k hk
  have hagree : ∀ k, (∀ f ∈ form.fields, f.defaultText?.isSome →
      ReflTransGen (DefaultReads form.fields) k f.keyword → f.AsAtFirst values) →
      values[k]? = (form.start (o.values.insertAll edits)).value.values[k]? := by
    intro k hk
    refine h.eq_values_start ha (C := ReflTransGen (DefaultReads form.fields) k)
      (fun a b hka hab => hka.tail hab) (fun d hkd => ?_) .refl
    refine hc.eq_firstValue h hnew fun f hf hdefault hkeyword => hk f hf hdefault ?_
    rw [hkeyword]
    exact hkd
  refine ⟨⟨fun heq f hf hdefault => ?_, fun hall => ?_⟩, hagree⟩
  · refine (hc.eq_firstValue_iff h hnew hf hdefault).1 ?_
    rw [heq]
    exact h.values_start ha _ _
  · refine Std.ExtTreeMap.ext_getElem? fun {k} => hagree k fun f hf hdefault _ => hall f hf hdefault

/-- A sum that was derived three times is the one that the last rate gives at first. -/
theorem changes_agree_with_start_sum :
    let p : Product := { fields := [{ keyword := "RATE" },
      { keyword := "PREMIUM", default := "@RATE * 10" }] }
    let o : SessionOptions := {
      transaction := "", step := "", values := Dict.ofPairs [("RATE", "1")] }
    let edits := [("RATE", "2"), ("RATE", "3")]
    let form := (Session.start p o).form
    let values := ((Session.start p o).performAll
      (edits.map fun e => .change e.1 e.2)).state.values
    p.UniqueKeywords ∧ (∀ g, ¬ TransGen (DefaultReads form.fields) g g) ∧
      values["PREMIUM"]? = some "30" ∧
      values = (Session.start p { o with values := o.values.insertAll edits }).state.values := by
  intro p o edits form values
  have hunique : p.UniqueKeywords := by decide
  have hfields : form.fields = p.fields := by decide +kernel
  have ha : ∀ g, ¬ TransGen (DefaultReads form.fields) g g := by
    rw [hfields]
    exact acyclic_of_rank String.length (by decide +kernel)
  have hplain : ∀ f ∈ form.fields, f.defaultText?.isSome →
      o.values[f.keyword]? = none ∧ ∀ e ∈ edits, e.1 ≠ f.keyword := by
    rw [hfields]
    decide +kernel
  have hfirst : ∀ f ∈ form.fields, f.defaultText?.isSome → f.AsAtFirst values := by
    rw [hfields]
    decide +kernel
  exact ⟨hunique, ha, by decide +kernel,
    (changes_agree_with_start p hunique o edits ha hplain).1.2 hfirst⟩

/-- The gross amount stays behind when its default ceases to yield anything, and the plan loses the
choice that is selected for it at first. -/
theorem changes_agree_with_start_lapsed :
    let p : Product := { fields := [{ keyword := "NET" },
      { keyword := "GROSS", default := "@NET > 0 ? @NET : null" },
      { keyword := "PLAN", default := "@NET", type := .list,
        values := [.choice { value := "basic", selected := true }] }] }
    let o : SessionOptions := {
      transaction := "", step := "", values := Dict.ofPairs [("NET", "1")] }
    let form := (Session.start p o).form
    let values := ((Session.start p o).performAll [.change "NET" "0"]).state.values
    let first := (Session.start p { o with values := o.values.insert "NET" "0" }).state.values
    p.UniqueKeywords ∧ (∀ g, ¬ TransGen (DefaultReads form.fields) g g) ∧
      (∀ f ∈ form.fields, f.defaultText?.isSome →
        o.values[f.keyword]? = none ∧ "NET" ≠ f.keyword) ∧
      values["GROSS"]? = some "1" ∧ first["GROSS"]? = none ∧
      values["PLAN"]? = some "0" ∧ first["PLAN"]? = some "basic" := by
  intro p o form values first
  have hfields : form.fields = p.fields := by decide +kernel
  have ha : ∀ g, ¬ TransGen (DefaultReads form.fields) g g := by
    rw [hfields]
    exact acyclic_of_rank String.length (by decide +kernel)
  refine ⟨by decide, ha, ?_, by decide +kernel⟩
  rw [hfields]
  decide +kernel

end FormLogic
