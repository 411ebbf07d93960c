import Mathlib
import FormLogic.Json.Codec
import FormLogic.Proofs.Dict
import FormLogic.Proofs.Json.Tree

/-!
# FormLogic.Proofs.Json.Codec

Values that are restored from what is written of them.

* `Codec.Restores`: a codec restores a value, through text and with sorted members;
* `restores_text` to `restores_tag`: each codec restores what its parts restore;
* `Slot.Copies`: what is read from a slot of a record is a part of this record;
* `restores_record`: a record is restored by slots that do not get in each other's way;
* `decode_record_of_missing`: nothing is read where a slot that has to be there is not.
-/

namespace FormLogic
namespace Json

/-- The codec writes a legible tree and, once the members are in order, reads the value again. -/
structure Codec.Restores {α : Type} (c : Codec α) (d : Nat) (a : α) : Prop where
  legible : Legible d (c.encode a)
  decode_sorted : c.decode (c.encode a).sorted = .ok a

section Simple

variable {d : Nat}

theorem restores_text (s : String) : Codec.text.Restores d s :=
  ⟨.text s, by rw [Codec.text, sorted]⟩

theorem restores_bool (b : Bool) : Codec.bool.Restores d b :=
  ⟨.bool b, by rw [Codec.bool, sorted]⟩

theorem restores_int {i : Int} (h : -Int.pow 2 63 ≤ i ∧ i ≤ Int.pow 2 63 - 1) :
    Codec.int.Restores d i := by
  have hhigh : i < Int.pow 2 64 := by
    rw [int_two_pow_63] at h
    rw [int_two_pow_64]
    omega
  refine ⟨.int h.1 hhigh, ?_⟩
  rw [Codec.int, Codec.intIn, sorted]
  exact if_pos h

theorem restores_size {n : Nat} (h : n < Nat.pow 2 64) : Codec.size.Restores d n := by
  have hbounds : (0 : Int) ≤ n ∧ (n : Int) ≤ Int.pow 2 64 - 1 := by
    rw [nat_two_pow_64] at h
    rw [int_two_pow_64]
    omega
  have hlow : -Int.pow 2 63 ≤ (n : Int) := by
    rw [int_two_pow_63]
    omega
  refine ⟨.int hlow (Int.lt_of_le_sub_one hbounds.2), ?_⟩
  rw [Codec.size, Codec.natOfType, sorted, Codec.intIn]
  simp only [if_pos hbounds]
  rfl

theorem encode_float {x : Float} (hfinite : x.isFinite = true) :
    Codec.float.encode x = .float x := if_pos hfinite

theorem restores_float {x : Float} (hfinite : x.isFinite = true) (hx : ReadsBack x) :
    Codec.float.Restores d x := by
  refine ⟨encode_float hfinite ▸ .float hx, ?_⟩
  rw [encode_float hfinite, sorted]
  rfl

theorem restores_tag {α : Type} {nameOf : α → String} {tags : List (String × α)}
    {other : Option α} {a : α} (h : Codec.tagOf tags other (nameOf a) = .ok a) :
    (Codec.tag nameOf tags other).Restores d a :=
  ⟨.text _, by rw [Codec.tag, sorted]; exact h⟩

end Simple

section Composed

variable {α : Type} {c : Codec α} {d : Nat}

theorem sorted_ne_null {j : Json} (h : j ≠ .null) : j.sorted ≠ .null := by
  cases j with
  | null => exact absurd rfl h
  | _ => simp [sorted]

/-- Nothing is restored from null, so something must not be written as null. -/
theorem restores_option {o : Option α} (h : ∀ a ∈ o, c.Restores d a)
    (hnull : ∀ a ∈ o, c.encode a ≠ .null) : (Codec.option c).Restores d o := by
  cases o with
  | none => exact ⟨.null, by rw [Codec.option, sorted]⟩
  | some a =>
    refine ⟨(h a rfl).legible, ?_⟩
    have hdecode : ∀ j : Json, j ≠ .null →
        (Codec.option c).decode j = (do return some (← c.decode j)) := by
      intro j hj
      cases j with
      | null => exact absurd rfl hj
      | _ => rfl
    change (Codec.option c).decode (c.encode a).sorted = _
    rw [hdecode _ (sorted_ne_null (hnull a rfl)), (h a rfl).decode_sorted]
    rfl

theorem restores_list {as : List α} (h : ∀ a ∈ as, c.Restores d a) :
    (Codec.list c).Restores (d + 1) as := by
  have hitems : Codec.decodeItems c ((as.map c.encode).map sorted) = .ok as := by
    induction as with
    | nil => rfl
    | cons a as ih =>
      rw [List.map_cons, List.map_cons, Codec.decodeItems, (h a (by simp)).decode_sorted,
        ih fun b hb => h b (List.mem_cons_of_mem a hb)]
      rfl
  refine ⟨.list ?_, ?_⟩
  · intro j hj
    obtain ⟨a, ha, rfl⟩ := List.mem_map.1 hj
    exact (h a ha).legible
  · rw [Codec.list, sorted_list]
    exact hitems

/-- Sorted members of different names are the same members in some order. -/
theorem exists_sortMembers_map {β : Type} {bs : List β} (member : β → String × Json)
    (hnodup : (bs.map fun b => (member b).1).Nodup) :
    ∃ bs' : List β, bs'.Perm bs ∧ sortMembers (bs.map member) = bs'.map member := by
  have hperm : (sortMembers (bs.map member)).Perm (bs.map member) :=
    Dict.toList_ofPairs_perm (by rwa [List.map_map])
  have hcomp := List.eq_map_comp_perm member
  obtain ⟨bs', hmap, hbs⟩ : Relation.Comp (fun x y => x = List.map member y) List.Perm
      (sortMembers (bs.map member)) bs := by
    rw [hcomp]
    exact hperm
  exact ⟨bs', hbs, hmap⟩

theorem restores_dict {m : Dict α} (h : ∀ p ∈ m.toList, c.Restores d p.2) :
    (Codec.dict c).Restores (d + 1) m := by
  have hmembers : ∀ pairs : List (String × α), (∀ p ∈ pairs, p ∈ m.toList) → ∀ m' : Dict α,
      Codec.decodeMembers c m' (pairs.map fun p => (p.1, (c.encode p.2).sorted)) =
        .ok (m'.insertAll pairs) := by
    intro pairs
    induction pairs with
    | nil => exact fun _ _ => rfl
    | cons p pairs ih =>
      intro hpairs m'
      rw [List.map_cons, Codec.decodeMembers, (h p (hpairs p (by simp))).decode_sorted]
      exact ih (fun q hq => hpairs q (List.mem_cons_of_mem p hq)) _
  refine ⟨.object ?_, ?_⟩
  · intro entry hentry
    obtain ⟨p, hp, rfl⟩ := List.mem_map.1 hentry
    exact (h p hp).legible
  · obtain ⟨pairs, hperm, hsort⟩ := exists_sortMembers_map
      (fun p : String × α => (p.1, (c.encode p.2).sorted)) (m.nodup_keys_toList)
    change (Codec.dict c).decode
      (Json.object (m.toList.map fun p => (p.1, c.encode p.2))).sorted = _
    rw [sorted_object, List.map_map, Function.comp_def, hsort]
    change Codec.decodeMembers c ∅ _ = _
    rw [hmembers pairs (fun p hp => hperm.mem_iff.1 hp)]
    exact congrArg _ (Dict.ofPairs_of_perm hperm)

end Composed

/-! ### Records -/

section Records

variable {R : Type} {d : Nat} {r : R}

/-- What is written of a slot of `r` is legible, and is read again by putting this part of `r`
into whatever has been read so far. -/
structure Slot.Copies (d : Nat) (r : R) (slot : Slot R) (put : R → R) : Prop where
  legible : Legible d (slot.encode r)
  decode_sorted : ∀ s, slot.decode (slot.encode r).sorted s = .ok (put s)

section

variable {α : Type} {c : Codec α} {get : R → α} {set : R → α → R} {name : String}

theorem Slot.Copies.optional (h : c.Restores d (get r)) :
    Slot.Copies d r (.optional name c get set) fun s => set s (get r) := by
  refine ⟨h.legible, fun s => ?_⟩
  change (do return set s (← c.decode (c.encode (get r)).sorted)) = _
  rw [h.decode_sorted]
  rfl

theorem Slot.Copies.needed (h : c.Restores d (get r)) :
    Slot.Copies d r (.needed name c get set) fun s => set s (get r) :=
  have hoptional : Slot.Copies d r (.optional name c get set) _ := .optional h
  ⟨hoptional.legible, hoptional.decode_sorted⟩

end

variable {slots : List (Slot R)}

theorem find?_slot (hnames : (slots.map (·.name)).Nodup) {slot : Slot R} (h : slot ∈ slots) :
    slots.find? (·.name == slot.name) = some slot := by
  rw [List.find?_eq_some_iff_append]
  obtain ⟨before, after, rfl⟩ := List.append_of_mem h
  refine ⟨beq_self_eq_true _, before, after, rfl, fun other hother => ?_⟩
  rw [List.map_append, List.map_cons, List.nodup_append] at hnames
  have hne := hnames.2.2 _ (List.mem_map_of_mem hother) _ List.mem_cons_self
  simpa using hne

/-- Members of a record that is written, each with what it does to the record that is read. -/
theorem decodeSlots_copies (hnames : (slots.map (·.name)).Nodup)
    {copies : List (Slot R × (R → R))}
    (hcopies : ∀ t ∈ copies, t.1 ∈ slots ∧ Slot.Copies d r t.1 t.2) (s : R) :
    decodeSlots slots (copies.map fun t => (t.1.name, (t.1.encode r).sorted)) s =
      .ok (copies.foldl (fun s t => t.2 s) s) := by
  induction copies generalizing s with
  | nil => rfl
  | cons t copies ih =>
    obtain ⟨hmem, hcopy⟩ := hcopies t (by simp)
    rw [List.map_cons, decodeSlots, find?_slot hnames hmem]
    simp only [hcopy.decode_sorted]
    exact ih (fun t' ht' => hcopies t' (List.mem_cons_of_mem t ht')) _

variable {type : String} {start : R} {ms : List (String × Json)}

theorem sorted_record :
    ((Codec.record type slots start).encode r).sorted =
      .object (sortMembers (slots.map fun slot => (slot.name, (slot.encode r).sorted))) := by
  change (Json.object (slots.map fun slot => (slot.name, slot.encode r))).sorted = _
  rw [sorted_object, List.map_map]
  rfl

/-- A record that is written has a member for each slot, also once the members are in order. -/
theorem exists_sorted_record (type : String) (start r : R) (hnames : (slots.map (·.name)).Nodup) :
    ∃ ms, ((Codec.record type slots start).encode r).sorted = .object ms ∧
      (ms.map (·.1)).Perm (slots.map (·.name)) := by
  obtain ⟨slots', hperm, hsort⟩ := exists_sortMembers_map
    (fun slot : Slot R => (slot.name, (slot.encode r).sorted)) hnames
  refine ⟨_, sorted_record, ?_⟩
  rw [hsort, List.map_map]
  exact hperm.map _

theorem decode_record :
    (Codec.record type slots start).decode (.object ms) =
      match decodeSlots slots ms start, missingSlot? slots ms with
      | .ok _, some slot => .error (.missing slot.name)
      | .ok r, none => .ok r
      | .error why, _ => .error why := by
  change (decodeSlots slots ms start).bind _ = _
  cases decodeSlots slots ms start with
  | error why => rfl
  | ok r =>
    rw [Except.bind]
    cases missingSlot? slots ms <;> rfl

theorem missingSlot?_eq_none (h : ∀ slot ∈ slots, slot.name ∈ ms.map (·.1)) :
    missingSlot? slots ms = none := by
  refine List.find?_eq_none.2 fun slot hslot => ?_
  obtain ⟨m, hm, hname⟩ := List.mem_map.1 (h slot hslot)
  have hany : ms.any (fun m => m.1 == slot.name) = true :=
    List.any_eq_true.2 ⟨m, hm, beq_iff_eq.2 hname⟩
  simp [hany]

/-- Nothing is read if a slot is missing that has to be there. -/
theorem decode_record_of_missing {slot : Slot R} (hslot : slot ∈ slots)
    (hrequired : slot.required = true) (hmissing : slot.name ∉ ms.map (·.1)) :
    ∃ why, (Codec.record type slots start).decode (.object ms) = .error why := by
  rw [decode_record]
  cases decodeSlots slots ms start with
  | error why => exact ⟨why, rfl⟩
  | ok r =>
    cases hfind : missingSlot? slots ms with
    | some other => exact ⟨.missing other.name, rfl⟩
    | none =>
      have hfound := List.find?_eq_none.1 hfind slot hslot
      have hany : ms.any (fun m => m.1 == slot.name) = true := by simpa [hrequired] using hfound
      obtain ⟨m, hm, hname⟩ := List.any_eq_true.1 hany
      exact absurd (List.mem_map.2 ⟨m, hm, beq_iff_eq.1 hname⟩) hmissing

/-- A record is not read as one of a kind that has to have a slot which the record does not have. -/
theorem decode_record_of_other {S : Type} {type' : String} {slots' : List (Slot S)} {start' : S}
    {s : S} (hnames : (slots'.map (·.name)).Nodup) {slot : Slot R} (hslot : slot ∈ slots)
    (hrequired : slot.required = true) (hother : slot.name ∉ slots'.map (·.name)) :
    ∃ why, (Codec.record type slots start).decode
      ((Codec.record type' slots' start').encode s).sorted = .error why := by
  obtain ⟨ms, htree, hperm⟩ := exists_sorted_record type' start' s hnames
  rw [htree]
  exact decode_record_of_missing hslot hrequired (mt hperm.mem_iff.1 hother)

theorem find?_record_eq_none (hnames : (slots.map (·.name)).Nodup) {name : String}
    (hname : name ∉ slots.map (·.name)) :
    ((Codec.record type slots start).encode r).sorted.find? name = none := by
  obtain ⟨ms, htree, hperm⟩ := exists_sorted_record type start r hnames
  rw [htree, find?, List.lookup_eq_none_iff]
  intro m hm
  have hne : name ≠ m.1 := by
    rintro rfl
    exact hname (hperm.mem_iff.1 (List.mem_map_of_mem hm))
  simpa using hne

theorem isSome_find?_record (hnames : (slots.map (·.name)).Nodup) {name : String}
    (hname : name ∈ slots.map (·.name)) :
    (((Codec.record type slots start).encode r).sorted.find? name).isSome = true := by
  obtain ⟨ms, htree, hperm⟩ := exists_sorted_record type start r hnames
  obtain ⟨m, hm, rfl⟩ := List.mem_map.1 (hperm.mem_iff.2 hname)
  rw [htree, find?, List.lookup_isSome_iff]
  exact ⟨m, hm, beq_self_eq_true _⟩

/-- What becomes of `s` by any two of the functions, the later one first. -/
def laterFirst : List (R → R) → R → List R
  | [], _ => []
  | f :: fs, s => fs.map (fun g => f (g s)) ++ laterFirst fs s

/-- What becomes of `s` by any two of the functions, the earlier one first. -/
def earlierFirst : List (R → R) → R → List R
  | [], _ => []
  | f :: fs, s => fs.map (fun g => g (f s)) ++ earlierFirst fs s

/-- For updates of different fields of a structure both lists are equal by definition. -/
theorem pairwise_commute {puts : List (R → R)} (h : ∀ s, laterFirst puts s = earlierFirst puts s) :
    puts.Pairwise Function.Commute := by
  induction puts with
  | nil => exact .nil
  | cons f fs ih =>
    have hsplit := fun s => List.append_inj (h s) (by simp)
    refine .cons (fun g hg s => ?_) (ih fun s => (hsplit s).2)
    exact List.map_inj_left.1 (hsplit s).1 g hg

/-- Slots whose puts can be made in any order restore the record that all puts together yield. -/
theorem restores_record {puts : List (R → R)} (hnames : (slots.map (·.name)).Nodup)
    (hslots : List.Forall₂ (Slot.Copies d r) slots puts)
    (hcommute : puts.Pairwise Function.Commute)
    (hall : puts.foldl (fun s put => put s) start = r) :
    (Codec.record type slots start).Restores (d + 1) r := by
  obtain ⟨hlength, hcopies⟩ := List.forall₂_iff_zip.1 hslots
  obtain ⟨entries, hentries⟩ : ∃ entries, entries = slots.zip puts := ⟨_, rfl⟩
  rw [← hentries] at hcopies
  have hfst : entries.map Prod.fst = slots := by rw [hentries, List.map_fst_zip hlength.le]
  have hsnd : entries.map Prod.snd = puts := by rw [hentries, List.map_snd_zip hlength.ge]
  refine ⟨.object fun m hm => ?_, ?_⟩
  · obtain ⟨slot, hslot, rfl⟩ := List.mem_map.1 hm
    rw [← hfst] at hslot
    obtain ⟨t, ht, rfl⟩ := List.mem_map.1 hslot
    exact (hcopies ht).legible
  · -- Each member keeps its slot and its put when the members are sorted.
    obtain ⟨entries', hperm, hsort⟩ : ∃ entries' : List (Slot R × (R → R)),
        entries'.Perm entries ∧
          sortMembers (entries.map fun t => (t.1.name, (t.1.encode r).sorted)) =
            entries'.map fun t => (t.1.name, (t.1.encode r).sorted) :=
      exists_sortMembers_map _ (by rwa [← hfst, List.map_map] at hnames)
    have hmembers : sortMembers (slots.map fun slot => (slot.name, (slot.encode r).sorted)) =
        entries'.map fun t => (t.1.name, (t.1.encode r).sorted) := by
      rw [← hsort, ← hfst, List.map_map]
      rfl
    have hread : decodeSlots slots (entries'.map fun t => (t.1.name, (t.1.encode r).sorted)) start =
        .ok (entries'.foldl (fun s t => t.2 s) start) :=
      decodeSlots_copies (d := d) hnames (fun t ht =>
        ⟨hfst ▸ List.mem_map_of_mem (hperm.mem_iff.1 ht), hcopies (hperm.mem_iff.1 ht)⟩) start
    have hpairs : entries.Pairwise fun t u => Function.Commute t.2 u.2 := by
      rwa [← hsnd, List.pairwise_map] at hcommute
    -- The puts commute, so they end at the same record as in the order of the slots.
    have hfold : entries'.foldl (fun s t => t.2 s) start = r := by
      have : Std.Symm fun t u : Slot R × (R → R) => Function.Commute t.2 u.2 :=
        ⟨fun _ _ h => h.symm⟩
      have hall' := List.Pairwise.forall_of_forall (fun t _ => .refl t.2) hpairs
      rw [← hall, ← hsnd, List.foldl_map]
      exact hperm.foldl_eq' (fun t ht u hu s =>
        hall' (hperm.mem_iff.1 hu) (hperm.mem_iff.1 ht) s) start
    have hmissing : missingSlot? slots
        (entries'.map fun t => (t.1.name, (t.1.encode r).sorted)) = none := by
      refine missingSlot?_eq_none fun slot hslot => ?_
      rw [← hfst] at hslot
      obtain ⟨t, ht, rfl⟩ := List.mem_map.1 hslot
      rw [List.map_map]
      exact List.mem_map.2 ⟨t, hperm.mem_iff.2 ht, rfl⟩
    rw [sorted_record, hmembers, decode_record, hread, hmissing, hfold]

end Records

end Json
end FormLogic
