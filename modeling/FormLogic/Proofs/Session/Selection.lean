import FormLogic.Proofs.Session.Offer

/-!
# FormLogic.Proofs.Session.Selection

Which options a field offers, and in which order.

* `Choice.FirstIn raw c`: the option `c` is in the list, and none before it has its value;
* `firstPerValue_filter`: a rule looks at the value of an option only, so it does not matter whether
  rules are applied before or after later options of one value are dropped;
* `filter_mergeSort`: a list that is sorted by numbers keeps the order of those with one number;
* `sortBySequence_pairwise`: options with equal sequence numbers stay in their order;
* `options_selected`: exactly which options a session shows for a field.
-/

namespace FormLogic

open Formula

/-- The option is in the list, and none before it has its value. -/
def Choice.FirstIn (raw : List Choice) (c : Choice) : Prop :=
  ∃ before after, raw = before ++ c :: after ∧ ∀ b ∈ before, b.value ≠ c.value

instance (raw : List Choice) (c : Choice) : Decidable (c.FirstIn raw) :=
  decidable_of_iff (raw.find? (·.value = c.value) = some c) (by
    simp [List.find?_eq_some_iff_append, Choice.FirstIn])

variable {raw : List Choice} {c d : Choice}

theorem Choice.not_firstIn_nil : ¬ FirstIn [] c := by
  rintro ⟨before, after, h, -⟩
  simp at h

theorem Choice.firstIn_cons :
    FirstIn (d :: raw) c ↔ c = d ∨ c.value ≠ d.value ∧ FirstIn raw c := by
  constructor
  · rintro ⟨before, after, h, hbefore⟩
    cases before with
    | nil => exact .inl (List.cons.inj h).1.symm
    | cons b before =>
      obtain ⟨rfl, rfl⟩ := List.cons.inj h
      refine .inr ⟨Ne.symm (hbefore d (by simp)), before, after, rfl, ?_⟩
      intro b hb
      exact hbefore b (by simp [hb])
  · rintro (rfl | ⟨hne, before, after, rfl, hbefore⟩)
    · exact ⟨[], raw, rfl, by simp⟩
    · refine ⟨d :: before, after, rfl, ?_⟩
      intro b hb
      rcases List.mem_cons.1 hb with rfl | hb
      · exact Ne.symm hne
      · exact hbefore b hb

/-! ## One option for each value -/

theorem firstPerValue_eq_filter (seen : List String) (raw : List Choice) :
    firstPerValue seen raw = (firstPerValue [] raw).filter (·.value ∉ seen) := by
  induction raw generalizing seen with
  | nil => rfl
  | cons c raw ih =>
    have hfirst : firstPerValue [] (c :: raw) = c :: firstPerValue [c.value] raw := by
      simp [firstPerValue]
    rw [hfirst, List.filter_cons, ih [c.value], List.filter_filter]
    by_cases hc : c.value ∈ seen
    · rw [firstPerValue, if_pos hc, if_neg (by simpa using hc), ih seen]
      refine List.filter_congr ?_
      intro d _
      by_cases hd : d.value ∈ seen
      · simp [hd]
      · have hne : d.value ≠ c.value := by
          intro heq
          exact hd (heq ▸ hc)
        simp [hd, hne]
    · rw [firstPerValue, if_neg hc, if_pos (by simpa using hc), ih (c.value :: seen)]
      refine congrArg (c :: ·) (List.filter_congr ?_)
      intro d _
      by_cases hd : d.value = c.value <;> simp [hd]

theorem firstPerValue_cons (c : Choice) (raw : List Choice) :
    firstPerValue [] (c :: raw) = c :: (firstPerValue [] raw).filter (·.value ≠ c.value) := by
  have hseen := firstPerValue_eq_filter [c.value] raw
  simp only [List.mem_singleton] at hseen
  simp [firstPerValue, hseen]

/-- Rules look at the values of options only, so they may be applied before or after the later
options of a value are dropped. -/
theorem firstPerValue_filter (p : String → Bool) (raw : List Choice) :
    firstPerValue [] (raw.filter (p ·.value)) = (firstPerValue [] raw).filter (p ·.value) := by
  induction raw with
  | nil => rfl
  | cons c raw ih =>
    rw [firstPerValue_cons, List.filter_cons, List.filter_cons]
    by_cases hc : p c.value = true
    · rw [if_pos hc, if_pos hc, firstPerValue_cons, ih, List.filter_filter, List.filter_filter]
      simp only [Bool.and_comm]
    · -- all options that share the value of `c` are withheld as well
      rw [if_neg hc, if_neg hc, ih, List.filter_filter]
      refine List.filter_congr ?_
      intro d _
      by_cases hd : d.value = c.value
      · simp [hd, hc]
      · simp [hd]

theorem mem_firstPerValue : c ∈ firstPerValue [] raw ↔ c.FirstIn raw := by
  induction raw with
  | nil =>
    constructor
    · intro h
      cases h
    · intro h
      exact absurd h Choice.not_firstIn_nil
  | cons d raw ih =>
    rw [firstPerValue_cons, List.mem_cons, List.mem_filter, ih, Choice.firstIn_cons, and_comm]
    simp

theorem pairwise_firstPerValue (raw : List Choice) :
    (firstPerValue [] raw).Pairwise fun a b => a.value ≠ b.value ∧ raw.idxOf a < raw.idxOf b := by
  induction raw with
  | nil => exact .nil
  | cons c raw ih =>
    rw [firstPerValue_cons]
    refine .cons ?_ ?_
    · intro b hb
      obtain ⟨-, hb⟩ := List.mem_filter.1 hb
      have hvalue : c.value ≠ b.value := by simpa using Ne.symm (of_decide_eq_true hb)
      have hne : c ≠ b := by
        rintro rfl
        exact hvalue rfl
      rw [List.idxOf_cons_self, List.idxOf_cons_ne raw hne]
      exact ⟨hvalue, Nat.succ_pos _⟩
    · refine (ih.filter _).imp_of_mem ?_
      intro a b ha hb hab
      -- what is left has other values than `c`, so it stands one place further in the longer list
      have hbehind : ∀ x ∈ (firstPerValue [] raw).filter (·.value ≠ c.value),
          (c :: raw).idxOf x = raw.idxOf x + 1 := by
        intro x hx
        obtain ⟨-, hx⟩ := List.mem_filter.1 hx
        refine List.idxOf_cons_ne raw ?_
        rintro rfl
        simp at hx
      rw [hbehind a ha, hbehind b hb]
      exact ⟨hab.1, Nat.succ_lt_succ hab.2⟩

/-! ## The order -/

section

variable {α : Type}

theorem decide_le_trans (key : α → Int) (a b c : α) : decide (key a ≤ key b) = true →
    decide (key b ≤ key c) = true → decide (key a ≤ key c) = true := by
  simp only [decide_eq_true_eq]
  exact Int.le_trans

theorem decide_le_total (key : α → Int) (a b : α) :
    (decide (key a ≤ key b) || decide (key b ≤ key a)) = true := by
  simp only [Bool.or_eq_true, decide_eq_true_eq]
  exact Int.le_total (key a) (key b)

theorem ordered_mergeSort (key : α → Int) (l : List α) :
    (l.mergeSort fun a b => key a ≤ key b).Pairwise fun a b => key a ≤ key b :=
  (List.pairwise_mergeSort (decide_le_trans key) (decide_le_total key) l).imp of_decide_eq_true

/-- A list that is sorted by numbers keeps those with one number in their order. -/
theorem filter_mergeSort (key : α → Int) (l : List α) (n : Int) :
    (l.mergeSort fun a b => key a ≤ key b).filter (key · = n) = l.filter (key · = n) := by
  have hsorted : (l.filter (key · = n)).Pairwise fun a b => decide (key a ≤ key b) = true := by
    refine List.pairwise_of_forall_mem_list fun a ha b hb => ?_
    have ha := (List.mem_filter.1 ha).2
    have hb := (List.mem_filter.1 hb).2
    simp only [decide_eq_true_eq] at ha hb ⊢
    omega
  have hsub := (List.sublist_mergeSort (decide_le_trans key) (decide_le_total key) hsorted
    List.filter_sublist).filter (key · = n)
  rw [List.filter_filter] at hsub
  simp only [Bool.and_self] at hsub
  refine (hsub.eq_of_length ?_).symm
  exact (((List.mergeSort_perm l _).filter _).length_eq).symm

end

theorem mem_sortBySequence : c ∈ sortBySequence raw ↔ c ∈ raw := List.mem_mergeSort

/-- Options with equal sequence numbers stay in their order. -/
theorem sortBySequence_pairwise {R : Choice → Choice → Prop} (h : raw.Pairwise R) :
    (sortBySequence raw).Pairwise fun a b =>
      a.sequence < b.sequence ∨ a.sequence = b.sequence ∧ R a b := by
  refine List.pairwise_of_forall_sublist fun {a b} hab => ?_
  have hle := (ordered_mergeSort Choice.sequence raw).forall_sublist hab
  rcases Int.lt_or_eq_of_le hle with hlt | heq
  · exact .inl hlt
  · -- the two are among those with their number, which stand as they stood before
    have hsame := hab.filter (·.sequence = b.sequence)
    rw [sortBySequence, filter_mergeSort Choice.sequence] at hsame
    simp only [heq, List.filter_cons, decide_true, if_true, List.filter_nil] at hsame
    exact .inr ⟨heq, h.forall_sublist (hsame.trans List.filter_sublist)⟩

/-! ## What is shown -/

namespace Form

variable {form : Form} {field : String} {values : Dict String}

/-- An option is offered if no rule withholds its value and none before it has that value. -/
theorem mem_offered : c ∈ form.offered field values raw ↔
    (form.resolver.offers field c.value values).value = true ∧ c.FirstIn raw := by
  rw [offered, mem_sortBySequence,
    firstPerValue_filter (fun v => (form.resolver.offers field v values).value), List.mem_filter,
    mem_firstPerValue, and_comm]

theorem pairwise_offered : (form.offered field values raw).Pairwise fun a b =>
    a.sequence < b.sequence ∨ a.sequence = b.sequence ∧ raw.idxOf a < raw.idxOf b := by
  rw [offered, firstPerValue_filter (fun v => (form.resolver.offers field v values).value)]
  refine sortBySequence_pairwise ?_
  exact ((pairwise_firstPerValue raw).imp And.right).filter _

theorem nodup_offered : ((form.offered field values raw).map (·.value)).Nodup := by
  have hkept := (pairwise_firstPerValue raw).filter
    fun c => (form.resolver.offers field c.value values).value
  rw [offered, firstPerValue_filter (fun v => (form.resolver.offers field v values).value),
    sortBySequence]
  refine ((List.mergeSort_perm _ _).map _).nodup_iff.2 ?_
  exact List.pairwise_map.2 (hkept.imp And.left)

end Form

/-- Whatever has been done with a session, the options that a field shows are exactly those of its
table, or of its own, that no rule withholds for the current values and that no option before them
shares its value with.  No value is shown twice, and options stand in the order of their sequence
numbers, those with equal ones in the order of the table or of the field. -/
theorem options_selected (p : Product) (o : SessionOptions) (acts : List Interaction) :
    let s := (Session.start p o).performAll acts
    ∀ keyword f, s.form.field? keyword = some f →
      let raw :=
        if f.source?.isSome then (f.drawOptions s.form.tables s.state.values).value else f.choices
      let shown := (s.fieldOptions keyword).1
      (shown.map (·.value)).Nodup ∧
        (shown.Pairwise fun a b =>
          a.sequence < b.sequence ∨ a.sequence = b.sequence ∧ raw.idxOf a < raw.idxOf b) ∧
        ∀ c, c ∈ shown ↔
          (s.form.resolver.offers keyword c.value s.state.values).value = true ∧ c.FirstIn raw := by
  intro s keyword f hf raw shown
  have hev : s.evaluator.Faithful := Session.evaluator_faithful p o acts
  have hkeeps : s.form.Keeps s.memo := Session.keeps_performAll p o acts
  have hshown : shown = s.form.offered keyword s.state.values raw := by
    obtain ⟨hfresh, -⟩ := Form.options_spec hkeeps keyword s.state.values
    rw [Form.freshOptions, hf] at hfresh
    exact (Session.fieldOptions_fst hev keyword).trans hfresh
  rw [hshown]
  exact ⟨Form.nodup_offered, Form.pairwise_offered, fun c => Form.mem_offered⟩

/-- Of two options for one value the first stays, and an option is gone once a rule hides it. -/
theorem options_selected_hidden :
    let first : Choice := { value := "A", display := "first", sequence := 2 }
    let second : Choice := { value := "A", display := "second" }
    let elderly : Choice := { value := "E", sequence := 1 }
    let plan : Field := {
      keyword := "PLAN", values := [.choice first, .choice second, .choice elderly] }
    let p : Product := {
      fields := [{ keyword := "AGE" }, plan]
      valueRules := [{
        trigger := "AGE", triggerValue := "70", target := "PLAN", targetValue := "E",
        action := .hide }] }
    let s := (Session.start p { transaction := "", step := "" }).performAll
      [.fieldOptions "PLAN", .change "AGE" "70"]
    s.form.field? "PLAN" = some plan ∧
      first ∈ (s.fieldOptions "PLAN").1 ∧ second ∉ (s.fieldOptions "PLAN").1 ∧
      elderly ∉ (s.fieldOptions "PLAN").1 := by
  intro first second elderly plan p s
  have hplan : s.form.field? "PLAN" = some plan := by decide +kernel
  obtain ⟨-, -, hexact⟩ := options_selected p { transaction := "", step := "" }
    [.fieldOptions "PLAN", .change "AGE" "70"] "PLAN" plan hplan
  refine ⟨hplan, ?_, ?_, ?_⟩
  · rw [hexact]
    decide +kernel
  · rw [hexact]
    decide +kernel
  · rw [hexact]
    decide +kernel

end FormLogic
