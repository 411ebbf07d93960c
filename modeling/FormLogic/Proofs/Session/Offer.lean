import FormLogic.Proofs.Options.Source
import FormLogic.Proofs.Session.Fields
import FormLogic.Proofs.Session.Run

/-!
# FormLogic.Proofs.Session.Offer

The memo of drawn options never shows.

* `Form.Keeps`: a list that is kept for some values is the one that is drawn for them;
* `Form.freshOptions`, `Form.freshEntry`: what a field offers and shows without a memo;
* `sourcedOptions_spec`, `options_spec`, `entries_spec`: each answer is the one without a memo, and
  what is kept behind it is right again;
* `keeps_performAll`: what a session keeps is right, whatever has been done with it;
* `options_never_outdated`: what that means for the options that a session shows.
-/

namespace FormLogic

open Formula

namespace Form

/-- Lists that are kept for some values are those that are drawn for them. -/
def Keeps (form : Form) (memo : Memo) : Prop :=
  ∀ ⦃keyword f key choices⦄, form.field? keyword = some f → memo[keyword]? = some (key, choices) →
    ∀ values, form.sourceKey f values = key → (f.drawOptions form.tables values).value = choices

/-- The choices of a list that a field offers, each value once, in the order of sequence numbers. -/
def offered (form : Form) (field : String) (values : Dict String) (raw : List Choice) :
    List Choice :=
  sortBySequence (firstPerValue []
    (raw.filter fun c => (form.resolver.offers field c.value values).value))

/-- The options that a field offers if none are kept. -/
def freshOptions (form : Form) (field : String) (values : Dict String) : List Choice :=
  match form.field? field with
  | none => []
  | some f => form.offered field values
      (if f.source?.isSome then (f.drawOptions form.tables values).value else f.choices)

/-- What is shown of a field if no options are kept. -/
def freshEntry (form : Form) (s : FormState) (f : Field) : Entry where
  field := f
  value := s.value? f.keyword
  visible := s.isVisible f.keyword
  disabled := s.isDisabled f.keyword
  readonly := s.isReadonly f.keyword
  mandatory := s.isMandatory f.keyword
  options := form.freshOptions f.keyword s.values
  errors := s.fieldErrors f.keyword

variable {form : Form} {memo : Memo} {keyword : String} {f : Field} {values : Dict String}

theorem keeps_empty (form : Form) : form.Keeps ∅ := by
  intro keyword f key choices _ h
  simp at h

/-- Values with one key give one list. -/
theorem drawOptions_of_sourceKey {v w : Dict String} (h : form.sourceKey f v = form.sourceKey f w) :
    (f.drawOptions form.tables v).value = (f.drawOptions form.tables w).value :=
  Field.drawOptions_congr fun d hd => List.map_inj_left.1 h d hd

/-- A list that is drawn is kept under the values that it has been drawn for. -/
theorem Keeps.insert (hm : form.Keeps memo) (hf : form.field? keyword = some f)
    (values : Dict String) :
    form.Keeps (memo.insert f.keyword
      (form.sourceKey f values, (f.drawOptions form.tables values).value)) := by
  intro other g key choices hg h
  obtain ⟨-, rfl⟩ := mem_of_field? hf
  rw [Dict.getElem?_insert] at h
  split at h
  · rename_i heq
    cases h
    obtain rfl : g = f := by
      rw [← heq, hf] at hg
      exact (Option.some.inj hg).symm
    exact fun v hv => drawOptions_of_sourceKey hv
  · exact hm hg h

/-! ## One answer -/

/-- The options of a sourced field are those drawn anew, be they kept or not. -/
theorem sourcedOptions_spec (hm : form.Keeps memo) (hf : form.field? keyword = some f)
    (values : Dict String) :
    (form.sourcedOptions f values memo).value.1 = (f.drawOptions form.tables values).value ∧
      form.Keeps (form.sourcedOptions f values memo).value.2 := by
  unfold sourcedOptions
  simp only
  split
  · rename_i kept hkept
    obtain ⟨hmemo, hkey⟩ := Option.filter_eq_some_iff.1 hkept
    obtain ⟨-, rfl⟩ := mem_of_field? hf
    have hdrawn := hm hf hmemo values (of_decide_eq_true hkey).symm
    exact ⟨hdrawn.symm, hm⟩
  · rw [Metered.value_bind, Metered.value_pure]
    exact ⟨rfl, hm.insert hf values⟩

theorem rawOptions_spec (hm : form.Keeps memo) (hf : form.field? keyword = some f)
    (values : Dict String) :
    (form.rawOptions f values memo).value.1 =
        (if f.source?.isSome then (f.drawOptions form.tables values).value else f.choices) ∧
      form.Keeps (form.rawOptions f values memo).value.2 := by
  unfold rawOptions
  split
  · exact sourcedOptions_spec hm hf values
  · exact ⟨rfl, hm⟩

theorem options_spec (hm : form.Keeps memo) (keyword : String) (values : Dict String) :
    (form.options keyword values memo).value.1 = form.freshOptions keyword values ∧
      form.Keeps (form.options keyword values memo).value.2 := by
  unfold options freshOptions
  cases hf : form.field? keyword with
  | none => exact ⟨rfl, hm⟩
  | some f =>
    obtain ⟨hraw, hkeeps⟩ := rawOptions_spec hm hf values
    simp only [Metered.value_bind, Metered.value_pure, Metered.value_filter, hraw, offered]
    exact ⟨trivial, hkeeps⟩

theorem entry_spec (hm : form.Keeps memo) (s : FormState) (f : Field) :
    (form.entry s f memo).value.1 = form.freshEntry s f ∧
      form.Keeps (form.entry s f memo).value.2 := by
  obtain ⟨hoptions, hkeeps⟩ := options_spec hm f.keyword s.values
  simp only [entry, freshEntry, Metered.value_bind, Metered.value_pure, hoptions]
  exact ⟨trivial, hkeeps⟩

theorem entries_spec (hm : form.Keeps memo) (s : FormState) (fields : List Field) :
    (form.entries s fields memo).value.1 = fields.map (form.freshEntry s) ∧
      form.Keeps (form.entries s fields memo).value.2 := by
  induction fields generalizing memo with
  | nil => exact ⟨rfl, hm⟩
  | cons f fields ih =>
    obtain ⟨hentry, hkeeps⟩ := entry_spec hm s f
    obtain ⟨hentries, hkeeps⟩ := ih hkeeps
    simp only [entries, Metered.value_bind, Metered.value_pure, hentry, hentries, List.map_cons]
    exact ⟨trivial, hkeeps⟩

theorem sections_spec (hm : form.Keeps memo) (s : FormState) :
    (form.sections s memo).value.1 = groupEntries (form.fields.map (form.freshEntry s)) ∧
      form.Keeps (form.sections s memo).value.2 := by
  obtain ⟨hentries, hkeeps⟩ := entries_spec hm s form.fields
  simp only [sections, Metered.value_bind, Metered.value_pure, hentries]
  exact ⟨trivial, hkeeps⟩

end Form

/-! ## Sessions -/

namespace Session

@[simp] theorem memo_notify (s : Session) (field value : String) :
    (s.notify field value).memo = s.memo := by
  obtain ⟨notices, hnotices⟩ := s.notify_eq field value
  rw [hnotices]

theorem memo_change (s : Session) (field value : String) :
    (s.change field value).memo = s.memo :=
  memo_notify _ field value

theorem keeps_start (p : Product) (o : SessionOptions) :
    (start p o).form.Keeps (start p o).memo :=
  Form.keeps_empty _

/-- Changes and validation leave what is kept, a reset forgets it, and a question answers from it
or adds to it. -/
theorem keeps_perform {s : Session} (hev : s.evaluator.Faithful) (hs : s.form.Keeps s.memo)
    (a : Interaction) : s.form.Keeps (s.perform a).memo := by
  cases a with
  | change field value =>
    rw [perform, memo_change]
    exact hs
  | fieldOptions field =>
    rw [perform, memo_fieldOptions hev]
    exact (Form.options_spec hs field s.state.values).2
  | sections =>
    rw [perform, memo_sections hev]
    exact (Form.sections_spec hs s.state).2
  | reset => exact Form.keeps_empty s.form
  | _ => exact hs

theorem keeps_performAll (p : Product) (o : SessionOptions) (acts : List Interaction) :
    ((start p o).performAll acts).form.Keeps ((start p o).performAll acts).memo := by
  refine performAll_faithful (P := fun t => t.form.Keeps t.memo) (faithful_start p o)
    (keeps_start p o) fun t hev ht a _ => ?_
  rw [t.form_perform a]
  exact keeps_perform hev ht a

end Session

/-- Whatever has been done with a session, the options of a sourced field are those that are drawn
anew for the current values, and so are all options that a field offers and that sections show. -/
theorem options_never_outdated (p : Product) (o : SessionOptions) (acts : List Interaction) :
    let s := (Session.start p o).performAll acts
    (∀ keyword f, s.form.field? keyword = some f →
      (s.form.sourcedOptions f s.state.values s.memo).value.1 =
        (f.drawOptions s.form.tables s.state.values).value) ∧
    (∀ keyword, (s.fieldOptions keyword).1 = s.form.freshOptions keyword s.state.values) ∧
    s.sections.1 = groupEntries (s.form.fields.map (s.form.freshEntry s.state)) := by
  intro s
  have hev : s.evaluator.Faithful := Session.evaluator_faithful p o acts
  have hs : s.form.Keeps s.memo := Session.keeps_performAll p o acts
  refine ⟨fun keyword f hf => ?_, fun keyword => ?_, ?_⟩
  · exact (Form.sourcedOptions_spec hs hf s.state.values).1
  · rw [Session.fieldOptions_fst hev]
    exact (Form.options_spec hs keyword s.state.values).1
  · rw [Session.sections_fst hev]
    exact (Form.sections_spec hs s.state).1

/-- The cities of a state are kept, and drawn anew when the state has changed. -/
theorem options_never_outdated_city :
    let cities : List Row := [Dict.ofPairs [("state", "DELHI"), ("value", "D1")],
      Dict.ofPairs [("state", "MUMBAI"), ("value", "M1")]]
    let city : Field := { keyword := "CITY", sourced := true, values := [.source
      { table := "CITIES", metadata := some { lookup := "state = @STATE" } }] }
    let p : Product := {
      fields := [{ keyword := "STATE" }, city], tables := Dict.ofPairs [("CITIES", cities)] }
    let o : SessionOptions := {
      transaction := "", step := "", values := Dict.ofPairs [("STATE", "DELHI")] }
    let s := (Session.start p o).performAll [.fieldOptions "CITY", .change "STATE" "MUMBAI"]
    (s.memo["CITY"]?.map fun kept => kept.2.map (·.value)) = some ["D1"] ∧
      s.form.field? "CITY" = some city ∧
      (s.form.sourcedOptions city s.state.values s.memo).value.1.map (·.value) = ["M1"] := by
  intro cities city p o s
  have hs : s = (Session.start p o).performAll
    [.fieldOptions "CITY", .change "STATE" "MUMBAI"] := rfl
  have hall := options_never_outdated p o [.fieldOptions "CITY", .change "STATE" "MUMBAI"]
  rw [← hs] at hall
  obtain ⟨hsourced, -, -⟩ := hall
  have hcity : s.form.field? "CITY" = some city := by decide +kernel
  refine ⟨by decide +kernel, hcity, ?_⟩
  rw [hsourced "CITY" city hcity]
  decide +kernel

end FormLogic
