import FormLogic.Proofs.Session.Cascade

/-!
# FormLogic.Proofs.Session.Overwrite

Which values a change can overwrite.

* `cascade_overwrites`: a field that a cascade overwrites reads a field that the cascade overwrites
  too, or gets what its default yielded before the cascade;
* `change_overwrites`: what a change overwrites, in any session;
* `change_overwrites_edited`: a field that was edited is overwritten though no value that its
  default reads has changed.

Which defaults are derived anew is settled before any of them is evaluated.  A field between the
changed one and a later one may well come out with the value it has, and the later field is derived
nevertheless.
-/

namespace FormLogic

open Formula Relation

namespace Form

variable {form : Form} {names : List String} {name : String} {s : FormState}

theorem deriveOne_overwrites (h : (form.deriveOne name s).1.values[name]? ≠ s.values[name]?) :
    ∃ w, form.defaultOf name s.values = some w ∧
      (form.deriveOne name s).1.values[name]? = some w := by
  cases hw : form.defaultOf name s.values with
  | none =>
    rw [deriveOne, hw] at h
    exact absurd rfl h
  | some w => exact ⟨w, rfl, deriveOne_value hw⟩

/-- A field that a cascade overwrites reads another field that the cascade overwrites, or gets what
its default yielded before the cascade. -/
theorem cascade_overwrites {g : String} (hnodup : names.Nodup)
    (h : (form.cascade names s).value.1.values[g]? ≠ s.values[g]?) :
    (∃ d, d ≠ g ∧ DefaultReads form.fields g d ∧
        (form.cascade names s).value.1.values[d]? ≠ s.values[d]?) ∨
      ∃ w, form.defaultOf g s.values = some w ∧
        (form.cascade names s).value.1.values[g]? = some w := by
  induction names generalizing s with
  | nil => exact absurd rfl h
  | cons name names ih =>
    obtain ⟨hname, hnodup⟩ := List.nodup_cons.1 hnodup
    have hframe : (form.cascade names (form.deriveOne name s).1).value.1.values[name]? =
        (form.deriveOne name s).1.values[name]? := cascade_frame hname
    rw [cascade_cons] at h ⊢
    dsimp only at h ⊢
    by_cases hg : g = name
    · subst hg
      rw [hframe] at h ⊢
      exact .inr (deriveOne_overwrites h)
    · rw [← @deriveOne_frame form name s g hg] at h
      rcases ih hnodup h with ⟨d, hdg, hreads, hd⟩ | ⟨w, hw, hval⟩
      · have hdn : d ≠ name := by
          rintro rfl
          exact hd hframe
        rw [deriveOne_frame hdn] at hd
        exact .inl ⟨d, hdg, hreads, hd⟩
      · -- the default of `g` is evaluated behind this step, which matters only if it reads `name`
        by_cases hstep : DefaultReads form.fields g name ∧
            (form.deriveOne name s).1.values[name]? ≠ s.values[name]?
        · refine .inl ⟨name, Ne.symm hg, hstep.1, ?_⟩
          rw [hframe]
          exact hstep.2
        · refine .inr ⟨w, ?_, hval⟩
          rw [← hw]
          refine defaultOf_congr fun d hd => ?_
          by_cases hdn : d = name
          · subst hdn
            exact (not_not.1 fun hne => hstep ⟨hd, Ne.symm hne⟩)
          · exact (deriveOne_frame hdn).symm

/-- A field that a change overwrites is one that the change spreads to.  Its default reads the
changed field or another field that is overwritten, or the field gets what its default yielded
before the change. -/
theorem WellKeyed.overwrite_cause (hform : form.WellKeyed) {field value g : String}
    (hg : g ≠ field)
    (h : (form.change field value s).value.1.values[g]? ≠ s.values[g]?) :
    TransGen (fun a b => DefaultReads form.fields b a) field g ∧
      (DefaultReads form.fields g field ∨
        (∃ d, d ≠ field ∧ d ≠ g ∧ DefaultReads form.fields g d ∧
          (form.change field value s).value.1.values[d]? ≠ s.values[d]?) ∨
        ∃ w, form.defaultOf g s.values = some w ∧
          (form.change field value s).value.1.values[g]? = some w) := by
  have hderived := (change_derived_sublist form field value s).subset
    (hform.mem_change_derived.2 ⟨hg, h⟩)
  refine ⟨(hform.mem_downstream.1 hderived).2, ?_⟩
  by_cases hreads : DefaultReads form.fields g field
  · exact .inl hreads
  have hbefore : ∀ d, d ≠ field →
      (form.resolver.update field value s).value.values[d]? = s.values[d]? := by
    intro d hd
    rw [Resolver.values_update, Dict.getElem?_insert, if_neg (Ne.symm hd)]
  have hnodup := (hform.downstream_pairwise field).imp And.left
  rw [value_change] at h ⊢
  dsimp only at h ⊢
  rw [← hbefore g hg] at h
  rcases cascade_overwrites hnodup h with ⟨d, hdg, hd, hne⟩ | ⟨w, hw, hval⟩
  · have hdf : d ≠ field := by
      rintro rfl
      exact hreads hd
    rw [hbefore d hdf] at hne
    exact .inr (.inl ⟨d, hdf, hdg, hd, hne⟩)
  · refine .inr (.inr ⟨w, ?_, hval⟩)
    rw [← hw]
    refine defaultOf_congr fun d hd => (hbefore d ?_).symm
    rintro rfl
    exact hreads hd

end Form

/-- A change in any session overwrites no other fields than those whose defaults refer to the
changed one, be it through others.  Such a default refers to the changed field itself or to another
field whose value differs, or the field did not hold what its default yields and now does. -/
theorem change_overwrites (p : Product) (hunique : p.UniqueKeywords) (o : SessionOptions)
    (acts : List Interaction) (f v : String) :
    let s := (Session.start p o).performAll acts
    let s' := s.change f v
    ∀ g, g ≠ f → s'.state.values[g]? ≠ s.state.values[g]? →
      TransGen (fun a b => DefaultReads s.form.fields b a) f g ∧
      (DefaultReads s.form.fields g f ∨
        (∃ d, d ≠ f ∧ d ≠ g ∧ DefaultReads s.form.fields g d ∧
          s'.state.values[d]? ≠ s.state.values[d]?) ∨
        ∃ w, s.form.defaultOf g s.state.values = some w ∧ s.state.values[g]? ≠ some w ∧
          s'.state.values[g]? = some w) := by
  intro s s' g hg h
  have hform : s.form.WellKeyed := Session.wellKeyed hunique o acts
  have hev : s.evaluator.Faithful := Session.evaluator_faithful p o acts
  have hstate : s'.state = (s.form.change f v s.state).value.1 := Session.state_change hev f v
  rw [hstate] at h ⊢
  obtain ⟨hspread, hcause⟩ := hform.overwrite_cause hg h
  refine ⟨hspread, hcause.imp_right (Or.imp_right ?_)⟩
  rintro ⟨w, hw, hval⟩
  exact ⟨w, hw, fun hold => h (hval.trans hold.symm), hval⟩

/-- A name that is left blank changes the group, and the group changes the label. -/
theorem change_overwrites_label :
    let p : Product := { fields := [{ keyword := "NAME" },
      { keyword := "GROUP", default := "@NAME == '' ? 'none' : 'some'" },
      { keyword := "LABEL", default := "@GROUP" }] }
    let o : SessionOptions := { transaction := "", step := "" }
    let s := (Session.start p o).performAll [.change "NAME" "a"]
    p.UniqueKeywords ∧
      (s.change "NAME" "").state.values["LABEL"]? ≠ s.state.values["LABEL"]? ∧
      TransGen (fun a b => DefaultReads s.form.fields b a) "NAME" "LABEL" := by
  intro p o s
  have hunique : p.UniqueKeywords := by decide
  have hs : s = (Session.start p o).performAll [.change "NAME" "a"] := rfl
  have hall := change_overwrites p hunique o [.change "NAME" "a"] "NAME" ""
  rw [← hs] at hall
  have hdiffers : (s.change "NAME" "").state.values["LABEL"]? ≠ s.state.values["LABEL"]? := by
    decide +kernel
  exact ⟨hunique, hdiffers, (hall "LABEL" (by decide) hdiffers).1⟩

/-- The label was edited, and a change of the name leaves the group, which is all that the default
of the label reads.  The label is overwritten nevertheless. -/
theorem change_overwrites_edited :
    let p : Product := { fields := [{ keyword := "NAME" },
      { keyword := "GROUP", default := "@NAME == '' ? 'none' : 'some'" },
      { keyword := "LABEL", default := "@GROUP" }] }
    let o : SessionOptions := {
      transaction := "", step := "", values := Dict.ofPairs [("NAME", "a")] }
    let s := (Session.start p o).performAll [.change "LABEL" "mine"]
    let s' := s.change "NAME" "b"
    p.UniqueKeywords ∧ s.state.values["LABEL"]? = some "mine" ∧
      s'.state.values["LABEL"]? = some "some" ∧ ¬ DefaultReads s.form.fields "LABEL" "NAME" ∧
      ∀ d, DefaultReads s.form.fields "LABEL" d →
        s'.state.values[d]? = s.state.values[d]? := by
  intro p o s s'
  have hfields : s.form.fields = p.fields := by decide +kernel
  have hreads : ∀ d, DefaultReads s.form.fields "LABEL" d → d = "GROUP" := by
    rintro d ⟨f, hf, hkeyword, hd⟩
    have hall : ∀ f ∈ s.form.fields, f.keyword = "LABEL" → f.defaultReferences = ["GROUP"] := by
      rw [hfields]
      decide +kernel
    rw [hall f hf hkeyword] at hd
    exact List.mem_singleton.1 hd
  obtain ⟨hmine, hsome, hgroup⟩ : s.state.values["LABEL"]? = some "mine" ∧
      s'.state.values["LABEL"]? = some "some" ∧
      s'.state.values["GROUP"]? = s.state.values["GROUP"]? := by
    decide +kernel
  refine ⟨by decide, hmine, hsome, fun h => ?_, fun d hd => ?_⟩
  · exact absurd (hreads "NAME" h) (by decide)
  · rw [hreads d hd]
    exact hgroup

end FormLogic
