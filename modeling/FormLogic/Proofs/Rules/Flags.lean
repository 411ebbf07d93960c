import FormLogic.Proofs.Dict
import FormLogic.Rules.Resolver

/-!
# FormLogic.Proofs.Rules.Flags

How a resolver writes flags.

* `FieldFlags`, `Resolver.flagsOf`: the four flags of one field, as the rules give them for values;
* `Flags.Has`: all four flags are stored for a field;
* `Flags.entry flags field`: what is stored for a field, of each kind of flag;
* `Flags.ext_entry`: flags that store the same for all fields are equal;
* `Flags.Keyed`: which fields have flags, the same for each kind;
* `Resolver.flagsOf_ext`: what the flags of a field depend on;
* `entry_recalculate`: what is stored behind a recalculation;
* `keyed_recalculate`: recalculated fields have flags besides those that had some;
* `has_recalculate`: a recalculated field has the flags that the rules give it;
* `recalculate_frame`: a field that is not recalculated keeps its flags;
* `recalculate_eq_self`: where the stored flags are right, recalculation changes nothing.
-/

namespace FormLogic

open Formula

/-- The flags of one field. -/
structure FieldFlags where
  visible : Bool
  disabled : Bool
  readonly : Bool
  mandatory : Bool
deriving DecidableEq, Repr

/-- What is stored for a field, of each kind of flag. -/
structure StoredFlags where
  visible : Option Bool
  disabled : Option Bool
  readonly : Option Bool
  mandatory : Option Bool
deriving DecidableEq, Repr

def FieldFlags.stored (x : FieldFlags) : StoredFlags :=
  ⟨some x.visible, some x.disabled, some x.readonly, some x.mandatory⟩

/-- The flags that the rules give a field for some values. -/
def Resolver.flagsOf (r : Resolver) (field : String) (values : Dict String) : FieldFlags where
  visible := (r.visibility field values).value
  disabled := (r.disabled field values).value
  readonly := (r.readonly field values).value
  mandatory := (r.mandatory field values).value

namespace Flags

def insert (flags : Flags) (field : String) (x : FieldFlags) : Flags where
  visibility := flags.visibility.insert field x.visible
  disabled := flags.disabled.insert field x.disabled
  readonly := flags.readonly.insert field x.readonly
  mandatory := flags.mandatory.insert field x.mandatory

/-- All four flags are stored for a field, and they are these. -/
structure Has (flags : Flags) (field : String) (x : FieldFlags) : Prop where
  visible : flags.visibility[field]? = some x.visible
  disabled : flags.disabled[field]? = some x.disabled
  readonly : flags.readonly[field]? = some x.readonly
  mandatory : flags.mandatory[field]? = some x.mandatory

def entry (flags : Flags) (field : String) : StoredFlags where
  visible := flags.visibility[field]?
  disabled := flags.disabled[field]?
  readonly := flags.readonly[field]?
  mandatory := flags.mandatory[field]?

variable {flags : Flags} {field other : String} {x y : FieldFlags}

theorem has_iff_entry : flags.Has field x ↔ flags.entry field = x.stored := by
  rw [entry, FieldFlags.stored, StoredFlags.mk.injEq]
  exact ⟨fun h => ⟨h.visible, h.disabled, h.readonly, h.mandatory⟩,
    fun ⟨hv, hd, hr, hm⟩ => ⟨hv, hd, hr, hm⟩⟩

theorem entry_insert (flags : Flags) (field other : String) (x : FieldFlags) :
    (flags.insert field x).entry other = if field = other then x.stored else flags.entry other := by
  simp only [entry, insert, Dict.getElem?_insert]
  split <;> rfl

/-- Flags that store the same for all fields are equal. -/
theorem ext_entry {a b : Flags} (h : ∀ field, a.entry field = b.entry field) : a = b := by
  have hparts := fun field => StoredFlags.mk.inj (h field)
  have hv : a.visibility = b.visibility := Std.ExtTreeMap.ext_getElem? fun {f} => (hparts f).1
  have hd : a.disabled = b.disabled := Std.ExtTreeMap.ext_getElem? fun {f} => (hparts f).2.1
  have hr : a.readonly = b.readonly := Std.ExtTreeMap.ext_getElem? fun {f} => (hparts f).2.2.1
  have hm : a.mandatory = b.mandatory := Std.ExtTreeMap.ext_getElem? fun {f} => (hparts f).2.2.2
  cases a
  cases b
  rw [Flags.mk.injEq]
  exact ⟨hv, hd, hr, hm⟩

theorem has_insert_self : (flags.insert field x).Has field x := by
  rw [has_iff_entry, entry_insert, if_pos rfl]

theorem has_insert_of_ne (h : field ≠ other) :
    (flags.insert field x).Has other y ↔ flags.Has other y := by
  rw [has_iff_entry, has_iff_entry, entry_insert, if_neg h]

theorem Has.insert_eq_self (h : flags.Has field x) : flags.insert field x = flags := by
  unfold insert
  rw [Dict.insert_eq_self h.visible, Dict.insert_eq_self h.disabled,
    Dict.insert_eq_self h.readonly, Dict.insert_eq_self h.mandatory]

/-- Each kind of flag is stored for these fields, and for no others. -/
structure Keyed (flags : Flags) (K : String → Prop) : Prop where
  visibility : ∀ k, k ∈ flags.visibility ↔ K k
  disabled : ∀ k, k ∈ flags.disabled ↔ K k
  readonly : ∀ k, k ∈ flags.readonly ↔ K k
  mandatory : ∀ k, k ∈ flags.mandatory ↔ K k

variable {K L : String → Prop}

theorem keyed_empty : Keyed {} fun _ => False :=
  ⟨by simp, by simp, by simp, by simp⟩

theorem Keyed.congr (h : flags.Keyed K) (hsame : ∀ k, K k ↔ L k) : flags.Keyed L :=
  funext (fun k => propext (hsame k)) ▸ h

theorem Keyed.insert (h : flags.Keyed K) (field : String) (x : FieldFlags) :
    (flags.insert field x).Keyed fun k => field = k ∨ K k where
  visibility k := Dict.mem_insert.trans (or_congr_right (h.visibility k))
  disabled k := Dict.mem_insert.trans (or_congr_right (h.disabled k))
  readonly k := Dict.mem_insert.trans (or_congr_right (h.readonly k))
  mandatory k := Dict.mem_insert.trans (or_congr_right (h.mandatory k))

theorem Keyed.foldl_insert {α : Type} (h : flags.Keyed K) (key : α → String) (x : α → FieldFlags)
    (as : List α) : (as.foldl (fun flags a => flags.insert (key a) (x a)) flags).Keyed
      fun k => (∃ a ∈ as, key a = k) ∨ K k := by
  induction as generalizing flags K with
  | nil => exact h.congr (by simp)
  | cons a as ih => exact (ih (h.insert (key a) (x a))).congr (by simp [or_assoc, or_left_comm])

end Flags

namespace Resolver

variable {r r' : Resolver} {s : FormState} {field : String}

/-- Flags depend on whether the field is visible, on the actions of its rules that match, and on
the flags that hold without rules. -/
theorem flagsOf_ext {v w : Dict String} (hdefaults : r.defaults = r'.defaults)
    (hvisible : (r.visibility field v).value = (r'.visibility field w).value)
    (hmatch : ∀ action,
      (r.anyMatch field action v).value = (r'.anyMatch field action w).value)
    (hvalue : (Metered.any (ValueRule.matches · v)
        ((r.graph.valueRulesOn field).filter (·.action == .disable))).value =
      (Metered.any (ValueRule.matches · w)
        ((r'.graph.valueRulesOn field).filter (·.action == .disable))).value) :
    r.flagsOf field v = r'.flagsOf field w := by
  unfold flagsOf disabled readonly mandatory
  rw [FieldFlags.mk.injEq, hdefaults]
  refine ⟨hvisible, ?_, ?_, ?_⟩
  · rw [Metered.value_bind, Metered.value_bind, hmatch]
    split
    · rfl
    rw [Metered.value_bind, Metered.value_bind, hvalue]
    split
    · rfl
    rw [Metered.value_bind, Metered.value_bind, hmatch]
  · rw [Metered.value_bind, Metered.value_bind, hmatch]
  · rw [Metered.value_bind, Metered.value_bind, hmatch]
    split
    · rfl
    rw [Metered.value_bind, Metered.value_bind, hmatch]

theorem value_applyFlags (r : Resolver) (s : FormState) (field : String) :
    (r.applyFlags s field).value =
      { s with flags := s.flags.insert field (r.flagsOf field s.values) } := by
  simp only [applyFlags, Metered.value_bind, Metered.value_pure]
  rfl

/-- Recalculation changes flags only. -/
theorem value_recalculate (r : Resolver) (fields : List String) (s : FormState) :
    (r.recalculate fields s).value = { s with
      flags := fields.foldl (fun flags f => flags.insert f (r.flagsOf f s.values)) s.flags } := by
  induction fields generalizing s with
  | nil => rfl
  | cons f fields ih => rw [recalculate, Metered.value_bind, ih, value_applyFlags, List.foldl_cons]

/-- A recalculation stores what the rules give the fields, and leaves what is stored for others. -/
theorem entry_recalculate (r : Resolver) (fields : List String) (s : FormState) (other : String) :
    (r.recalculate fields s).value.flags.entry other =
      if other ∈ fields then (r.flagsOf other s.values).stored else s.flags.entry other := by
  rw [value_recalculate]
  generalize s.flags = flags
  induction fields generalizing flags with
  | nil => simp
  | cons f fields ih =>
    rw [List.foldl_cons, ih, Flags.entry_insert]
    by_cases hin : other ∈ fields
    · simp [hin]
    · by_cases hf : f = other
      · simp [hf]
      · simp [hin, hf, Ne.symm hf]

/-- The fields that are recalculated have flags besides those that had some. -/
theorem keyed_recalculate {K : String → Prop} (h : s.flags.Keyed K) (fields : List String) :
    (r.recalculate fields s).value.flags.Keyed fun k => k ∈ fields ∨ K k := by
  rw [value_recalculate]
  exact (h.foldl_insert id (r.flagsOf · s.values) fields).congr (by simp)

theorem recalculate_frame {fields : List String} (h : field ∉ fields) {x : FieldFlags} :
    (r.recalculate fields s).value.flags.Has field x ↔ s.flags.Has field x := by
  rw [Flags.has_iff_entry, Flags.has_iff_entry, entry_recalculate, if_neg h]

/-- A recalculated field has the flags that the rules give it. -/
theorem has_recalculate {fields : List String} (h : field ∈ fields) :
    (r.recalculate fields s).value.flags.Has field (r.flagsOf field s.values) := by
  rw [Flags.has_iff_entry, entry_recalculate, if_pos h]

/-- Where the stored flags are those that the rules give, recalculation changes nothing. -/
theorem recalculate_eq_self {fields : List String}
    (h : ∀ f ∈ fields, s.flags.Has f (r.flagsOf f s.values)) :
    (r.recalculate fields s).value = s := by
  induction fields with
  | nil => rfl
  | cons f fields ih =>
    rw [recalculate, Metered.value_bind, value_applyFlags,
      (h f List.mem_cons_self).insert_eq_self]
    exact ih fun g hg => h g (List.mem_cons_of_mem f hg)

theorem values_update (r : Resolver) (field value : String) (s : FormState) :
    (r.update field value s).value.values = s.values.insert field value := by
  rw [update, value_recalculate]
  rfl

theorem values_recalculateAll (r : Resolver) (s : FormState) :
    (r.recalculateAll s).value.values = s.values := by
  rw [recalculateAll, value_recalculate]

end Resolver
end FormLogic
