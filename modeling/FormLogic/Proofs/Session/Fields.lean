import FormLogic.Proofs.Rules.Flags
import FormLogic.Session.Form
import Mathlib.Data.List.Nodup

/-!
# FormLogic.Proofs.Session.Fields

The fields of a form, found by their keywords.

* `Product.UniqueKeywords`: no two fields share a keyword; a form's fields do not either then;
* `map_attachChoices`: fields that are given choices stay as they are otherwise;
* `field?_eq_some`: the field of a keyword is the only one that has it;
* `Field.declaredFlags`, `has_ofFields`: the flags that hold for a field without rules;
* `keyed_ofFields`: exactly the fields have them.
-/

namespace FormLogic

open Formula

/-- No two fields of the product have one keyword. -/
def Product.UniqueKeywords (p : Product) : Prop := (p.fields.map (·.keyword)).Nodup

instance (p : Product) : Decidable p.UniqueKeywords := inferInstanceAs (Decidable (List.Nodup _))

/-- The flags that a field declares. -/
def Field.declaredFlags (f : Field) : FieldFlags where
  visible := f.behavior != .hidden
  disabled := f.behavior == .disabled
  readonly := f.behavior == .readonly
  mandatory := f.mandatory

/-- Choices are all that fields are given. -/
theorem map_attachChoices {β : Type} {g : Field → β}
    (hg : ∀ f values, g { f with values := values } = g f) (choices : List Choice)
    (served : List String) (fields : List Field) :
    (attachChoices choices served fields).map g = fields.map g := by
  induction fields generalizing served with
  | nil => rfl
  | cons f fields ih =>
    rw [attachChoices]
    split
    · rw [List.map_cons, List.map_cons, ih]
    · split
      · rw [List.map_cons, List.map_cons, ih]
      · rw [List.map_cons, List.map_cons, ih, hg]

theorem Product.map_fieldsIn {β : Type} {g : Field → β}
    (hg : ∀ f values, g { f with values := values } = g f) (p : Product)
    (transaction step : String) :
    (p.fieldsIn transaction step).map g =
      (p.fields.filter (·.inContext transaction step)).map g :=
  map_attachChoices hg _ _ _

/-- A field of the context is among the fields of a form, with what it offers there. -/
theorem Product.exists_mem_fieldsIn {p : Product} {transaction step : String} {f : Field}
    (hf : f ∈ p.fields) (hcontext : f.inContext transaction step) :
    ∃ values, { f with values := values } ∈ p.fieldsIn transaction step := by
  have hkept := p.map_fieldsIn (g := fun f => { f with values := [] }) (fun _ _ => rfl)
    transaction step
  have hmem : { f with values := [] } ∈ (p.fieldsIn transaction step).map
      fun f => { f with values := [] } := by
    rw [hkept]
    exact List.mem_map_of_mem (List.mem_filter.2 ⟨hf, hcontext⟩)
  obtain ⟨g, hg, heq⟩ := List.mem_map.1 hmem
  have hsame : { f with values := g.values } = g :=
    congrArg (fun h : Field => { h with values := g.values }) heq.symm
  exact ⟨g.values, hsame ▸ hg⟩

theorem Product.UniqueKeywords.fieldsIn {p : Product} (h : p.UniqueKeywords)
    (transaction step : String) :
    ((p.fieldsIn transaction step).map (·.keyword)).Nodup := by
  rw [p.map_fieldsIn fun _ _ => rfl]
  have hsub := (List.filter_sublist (p := (·.inContext transaction step)) (l := p.fields))
  exact h.sublist (hsub.map _)

namespace Form

variable {form : Form} {keyword : String} {f : Field}

theorem mem_of_field? (h : form.field? keyword = some f) :
    f ∈ form.fields ∧ f.keyword = keyword := by
  unfold field? at h
  have hmem := List.mem_of_find?_eq_some h
  have hkeyword := List.find?_some h
  exact ⟨List.mem_reverse.1 hmem, eq_of_beq hkeyword⟩

theorem eq_of_keyword_eq {fields : List Field} {g : Field}
    (hunique : (fields.map (·.keyword)).Nodup) (hf : f ∈ fields) (hg : g ∈ fields)
    (h : f.keyword = g.keyword) : f = g :=
  List.inj_on_of_nodup_map hunique hf hg h

/-- No field before or after a field has its keyword. -/
theorem exists_append_of_mem {fields : List Field} (hunique : (fields.map (·.keyword)).Nodup)
    (hf : f ∈ fields) : ∃ before after, fields = before ++ f :: after ∧
      f.keyword ∉ before.map (·.keyword) ∧ f.keyword ∉ after.map (·.keyword) := by
  obtain ⟨before, after, rfl⟩ := List.append_of_mem hf
  rw [List.map_append, List.map_cons, List.nodup_append] at hunique
  obtain ⟨-, hrest, hapart⟩ := hunique
  exact ⟨before, after, rfl, fun h => hapart _ h _ List.mem_cons_self rfl,
    (List.nodup_cons.1 hrest).1⟩

/-- A field is the one of its keyword. -/
theorem field?_eq_some (hunique : (form.fields.map (·.keyword)).Nodup) (hf : f ∈ form.fields) :
    form.field? f.keyword = some f := by
  cases hfind : form.field? f.keyword with
  | none =>
    unfold field? at hfind
    have hnone := List.find?_eq_none.1 hfind f (List.mem_reverse.2 hf)
    exact absurd (beq_self_eq_true f.keyword) hnone
  | some g =>
    obtain ⟨hg, hkeyword⟩ := mem_of_field? hfind
    rw [eq_of_keyword_eq hunique hg hf hkeyword]

end Form

/-! ## Declared flags -/

theorem Flags.addField_eq (flags : Flags) (f : Field) :
    flags.addField f = flags.insert f.keyword f.declaredFlags := rfl

theorem Flags.keyed_ofFields (fields : List Field) :
    (ofFields fields).Keyed fun k => ∃ f ∈ fields, f.keyword = k :=
  (keyed_empty.foldl_insert Field.keyword Field.declaredFlags fields).congr (by simp)

theorem Flags.foldl_addField_frame {fields : List Field} {keyword : String} {x : FieldFlags}
    (h : keyword ∉ fields.map (·.keyword)) (flags : Flags) :
    (fields.foldl addField flags).Has keyword x ↔ flags.Has keyword x := by
  induction fields generalizing flags with
  | nil => rfl
  | cons f fields ih =>
    rw [List.map_cons, List.mem_cons, not_or] at h
    obtain ⟨hf, hfields⟩ := h
    rw [List.foldl_cons, ih hfields, addField_eq]
    exact has_insert_of_ne (Ne.symm hf)

/-- Without rules the declared flags of a field hold. -/
theorem Flags.has_ofFields {fields : List Field} (hunique : (fields.map (·.keyword)).Nodup)
    {f : Field} (hf : f ∈ fields) : (Flags.ofFields fields).Has f.keyword f.declaredFlags := by
  obtain ⟨before, after, rfl, -, hlast⟩ := Form.exists_append_of_mem hunique hf
  rw [ofFields, List.foldl_append, List.foldl_cons, foldl_addField_frame hlast, addField_eq]
  exact has_insert_self

end FormLogic
