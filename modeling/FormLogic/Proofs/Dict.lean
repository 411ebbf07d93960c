import FormLogic.Dict

/-!
# FormLogic.Proofs.Dict

Reading dictionaries and sets of names after a change, with equality of names in place of their
comparison.

* `Dict.fill`: a dictionary with an entry for a key that may be missing;
* `Dict.insertAll`: a dictionary behind entries, one after another.
-/

namespace FormLogic

variable {α : Type}

theorem Dict.getElem?_insert (d : Dict α) (k a : String) (v : α) :
    (d.insert k v)[a]? = if k = a then some v else d[a]? := by
  rw [Std.ExtTreeMap.getElem?_insert]
  simp only [Std.LawfulEqCmp.compare_eq_iff_eq]

theorem Dict.mem_insert {d : Dict α} {k a : String} {v : α} :
    a ∈ d.insert k v ↔ k = a ∨ a ∈ d := by
  rw [Std.ExtTreeMap.mem_insert, Std.LawfulEqCmp.compare_eq_iff_eq]

theorem Dict.getElem?_erase (d : Dict α) (k a : String) :
    (d.erase k)[a]? = if k = a then none else d[a]? := by
  rw [Std.ExtTreeMap.getElem?_erase]
  simp only [Std.LawfulEqCmp.compare_eq_iff_eq]

/-- Inserting what is there already changes nothing. -/
theorem Dict.insert_eq_self {d : Dict α} {k : String} {v : α} (h : d[k]? = some v) :
    d.insert k v = d := by
  refine Std.ExtTreeMap.ext_getElem? fun {a} => ?_
  rw [getElem?_insert]
  split
  · rename_i hk
    rw [← hk, h]
  · rfl

/-- Of two insertions of one key the later stays. -/
theorem Dict.insert_insert_self (d : Dict α) (k : String) (v w : α) :
    (d.insert k v).insert k w = d.insert k w := by
  refine Std.ExtTreeMap.ext_getElem? fun {a} => ?_
  rw [getElem?_insert, getElem?_insert, getElem?_insert]
  split <;> rfl

/-- Insertions of two keys can be made in either order. -/
theorem Dict.insert_comm (d : Dict α) {k l : String} (h : k ≠ l) (v w : α) :
    (d.insert k v).insert l w = (d.insert l w).insert k v := by
  refine Std.ExtTreeMap.ext_getElem? fun {a} => ?_
  simp only [getElem?_insert]
  by_cases hk : k = a
  · rw [if_pos hk, if_pos hk, if_neg fun hl => h (hk.trans hl.symm)]
  · rw [if_neg hk, if_neg hk]

/-- The dictionary with an entry for the key, if it has none and there is one. -/
def Dict.fill (d : Dict α) (k : String) (v : Option α) : Dict α :=
  if d.contains k then d
  else
    match v with
    | none => d
    | some v => d.insert k v

theorem Dict.getElem?_fill (d : Dict α) (k a : String) (v : Option α) :
    (d.fill k v)[a]? = d[a]?.or (if k = a then v else none) := by
  have hcontains : d.contains k = d[k]?.isSome := Std.ExtTreeMap.contains_eq_isSome_getElem?
  unfold fill
  by_cases hk : k = a
  · subst hk
    cases hd : d[k]? with
    | some x => simp [hcontains, hd]
    | none => cases v <;> simp [hcontains, hd]
  · rw [if_neg hk, Option.or_none]
    split
    · rfl
    · cases v with
      | none => rfl
      | some v => rw [getElem?_insert, if_neg hk]

/-- Nothing is taken away. -/
theorem Dict.mem_fill {d : Dict α} {k a : String} {v : Option α} (h : a ∈ d) : a ∈ d.fill k v := by
  unfold fill
  split
  · exact h
  · cases v with
    | none => exact h
    | some v => exact mem_insert.2 (.inr h)

theorem Dict.fill_frame {d : Dict α} {k a : String} {v : Option α} (h : a ≠ k) :
    (d.fill k v)[a]? = d[a]? := by
  rw [getElem?_fill, if_neg (Ne.symm h), Option.or_none]

/-- The dictionary behind entries, one after another. -/
def Dict.insertAll (d : Dict α) (pairs : List (String × α)) : Dict α :=
  pairs.foldl (fun d p => d.insert p.1 p.2) d

theorem Dict.insertAll_frame {pairs : List (String × α)} {k : String}
    (h : ∀ p ∈ pairs, p.1 ≠ k) (d : Dict α) : (d.insertAll pairs)[k]? = d[k]? := by
  induction pairs generalizing d with
  | nil => rfl
  | cons p pairs ih =>
    refine (ih (fun q hq => h q (List.mem_cons_of_mem p hq)) (d.insert p.1 p.2)).trans ?_
    rw [getElem?_insert, if_neg (h p List.mem_cons_self)]

/-- Entries that are made from names stand under these names, however often each of them occurs. -/
theorem Dict.getElem?_insertAll_filterMap (g : String → Option α) (names : List String)
    (d : Dict α) (k : String) :
    (d.insertAll (names.filterMap fun n => (g n).map fun v => (n, v)))[k]? =
      (if k ∈ names then g k else none).or d[k]? := by
  induction names generalizing d with
  | nil => simp [insertAll]
  | cons n names ih =>
    cases hn : g n with
    | none =>
      rw [List.filterMap_cons_none (by rw [hn]; rfl), ih]
      by_cases hk : k = n
      · simp [hk, hn]
      · simp [hk]
    | some v =>
      rw [List.filterMap_cons_some (by rw [hn]; rfl)]
      refine (ih (d.insert n v)).trans ?_
      rw [getElem?_insert]
      by_cases hk : k = n
      · subst hk
        rw [if_pos rfl, if_pos List.mem_cons_self, hn]
        split <;> rfl
      · simp [hk, Ne.symm hk]

theorem Dict.getElem?_ofPairs_of_not_mem {pairs : List (String × α)} {k : String}
    (h : k ∉ pairs.map (·.1)) : (Dict.ofPairs pairs)[k]? = none := by
  have hapart : ∀ p ∈ pairs, p.1 ≠ k := by
    intro p hp hkey
    exact h (List.mem_map.2 ⟨p, hp, hkey⟩)
  exact (Dict.insertAll_frame hapart ∅).trans Std.ExtTreeMap.getElem?_empty

/-- Entries with different keys are all there. -/
theorem Dict.getElem?_ofPairs {pairs : List (String × α)} (hnodup : (pairs.map (·.1)).Nodup)
    {k : String} {v : α} : (Dict.ofPairs pairs)[k]? = some v ↔ (k, v) ∈ pairs := by
  by_cases hk : k ∈ pairs.map (·.1)
  · obtain ⟨⟨a, x⟩, hin, hkey⟩ := List.mem_map.1 hk
    dsimp only at hkey
    subst hkey
    obtain ⟨before, after, rfl⟩ := List.append_of_mem hin
    rw [List.map_append, List.map_cons, List.nodup_append] at hnodup
    obtain ⟨-, hrest, hapart⟩ := hnodup
    have hafter : ∀ p ∈ after, p.1 ≠ a := by
      intro p hp hkey
      exact (List.nodup_cons.1 hrest).1 (List.mem_map.2 ⟨p, hp, hkey⟩)
    have hbefore : ∀ p ∈ before, p.1 ≠ a := by
      intro p hp
      exact hapart _ (List.mem_map_of_mem hp) _ List.mem_cons_self
    have hget : (Dict.ofPairs (before ++ (a, x) :: after))[a]? = some x := by
      rw [ofPairs, List.foldl_append, List.foldl_cons]
      refine (Dict.insertAll_frame hafter _).trans ?_
      rw [getElem?_insert, if_pos rfl]
    rw [hget]
    constructor
    · rintro h
      cases h
      exact List.mem_append_right _ List.mem_cons_self
    · intro h
      rcases List.mem_append.1 h with h | h
      · exact absurd rfl (hbefore _ h)
      · rcases List.mem_cons.1 h with h | h
        · rw [(Prod.mk.inj h).2]
        · exact absurd rfl (hafter _ h)
  · rw [getElem?_ofPairs_of_not_mem hk]
    constructor
    · intro h
      cases h
    · intro h
      exact absurd (List.mem_map_of_mem h) hk

theorem Dict.nodup_keys_toList (d : Dict α) : (d.toList.map (·.1)).Nodup :=
  List.pairwise_map.2 (Std.ExtTreeMap.distinct_keys_toList.imp fun h => by simpa using h)

/-- Entries with different keys come out as they went in, but for their order. -/
theorem Dict.toList_ofPairs_perm {pairs : List (String × α)} (h : (pairs.map (·.1)).Nodup) :
    (Dict.ofPairs pairs).toList.Perm pairs := by
  have hnodup : ∀ l : List (String × α), (l.map (·.1)).Nodup → l.Nodup :=
    fun l hl => List.Pairwise.of_map _ (fun a b hne heq => hne (congrArg Prod.fst heq)) hl
  refine (List.perm_ext_iff_of_nodup (hnodup _ (nodup_keys_toList _)) (hnodup _ h)).2 fun p => ?_
  rw [← Dict.getElem?_ofPairs h, Std.ExtTreeMap.mem_toList_iff_getElem?_eq_some]

/-- A dictionary can be built from its entries in any order. -/
theorem Dict.ofPairs_of_perm {d : Dict α} {pairs : List (String × α)}
    (h : pairs.Perm d.toList) : Dict.ofPairs pairs = d := by
  have hnodup : (pairs.map (·.1)).Nodup := (h.map _).nodup_iff.2 d.nodup_keys_toList
  refine Std.ExtTreeMap.ext_getElem? fun {k} => Option.ext fun v => ?_
  rw [getElem?_ofPairs hnodup, h.mem_iff, Std.ExtTreeMap.mem_toList_iff_getElem?_eq_some]

theorem NameSet.mem_insert {s : NameSet} {a b : String} : a ∈ s.insert b ↔ a = b ∨ a ∈ s := by
  rw [Std.ExtTreeSet.mem_insert, Std.LawfulEqCmp.compare_eq_iff_eq, eq_comm]

theorem NameSet.nodup_toList {s : NameSet} : s.toList.Nodup :=
  Std.ExtTreeSet.distinct_toList.imp fun h => by simpa using h

theorem NameSet.mem_ofNames {names : List String} {a : String} :
    a ∈ NameSet.ofNames names ↔ a ∈ names := by
  have hfold : ∀ s : NameSet, a ∈ names.foldl (fun s n => s.insert n) s ↔ a ∈ names ∨ a ∈ s := by
    induction names with
    | nil => simp
    | cons n names ih =>
      intro s
      rw [List.foldl_cons, ih, mem_insert, List.mem_cons, or_left_comm, or_assoc]
  rw [ofNames, hfold]
  simp

end FormLogic
