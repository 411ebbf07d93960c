import FormLogic.Options.Source
import FormLogic.Proofs.Formula.References
import Mathlib.Data.List.Basic

/-!
# FormLogic.Proofs.Options.Lookup

The formulas of a lookup are cut from its text where no name is cut in two.

* `Apart text`: no name goes on into the text;
* `CutFrom text part`: the part stands in the text, and no name at its end goes on behind it;
* `CutFrom.references`: what a part refers to, the whole text refers to as well;
* `cutFrom_of_readLookup`, `cutFrom_unquote`: the values of predicates, with quotes or without, are
  such parts of the lookup.
-/

namespace FormLogic

open Formula Text

/-- No name goes on into the text. -/
def Apart (text : List Char) : Prop := ∀ c ∈ text.head?, isWordPart c = false

/-- The part stands in the text, and no name at its end goes on behind it. -/
def CutFrom (text part : List Char) : Prop :=
  ∃ before after, text = before ++ part ++ after ∧ Apart after

theorem isWordPart_of_isBlank {c : Char} (h : isBlank c = true) : isWordPart c = false := by
  cases hpart : isWordPart c with
  | false => rfl
  | true =>
    delta isWordPart Char.isAlphanum Char.isAlpha Char.isUpper Char.isLower Char.isDigit at hpart
    simp only [Bool.or_eq_true, Bool.and_eq_true, decide_eq_true_eq, beq_iff_eq,
      UInt32.le_iff_toNat_le, ge_iff_le] at hpart
    simp only [isBlank, Bool.or_eq_true, Bool.and_eq_true, decide_eq_true_eq, beq_iff_eq] at h
    rcases hpart with hrange | rfl
    · change (65 ≤ c.toNat ∧ c.toNat ≤ 90 ∨ 97 ≤ c.toNat ∧ c.toNat ≤ 122) ∨
        48 ≤ c.toNat ∧ c.toNat ≤ 57 at hrange
      omega
    · revert h
      decide

section

variable {text part whole : List Char}

theorem apart_nil : Apart [] := by
  intro c hc
  cases hc

theorem apart_of_forall (h : ∀ c ∈ text, isWordPart c = false) : Apart text :=
  fun c hc => h c (List.mem_of_mem_head? hc)

theorem apart_of_isBlank (h : text.head?.any isBlank = true) : Apart text := by
  intro c hc
  rw [Option.mem_def.1 hc] at h
  exact isWordPart_of_isBlank h

theorem Apart.append {more : List Char} (h : Apart text) (hm : Apart more) :
    Apart (text ++ more) := by
  cases text with
  | nil => exact hm
  | cons c text => exact h

/-- A name at the end of a text stays as it is if what is put behind it is apart. -/
theorem Apart.takeWhile {more : List Char} (h : Apart more) (text : List Char) :
    (text ++ more).takeWhile isWordPart = text.takeWhile isWordPart := by
  induction text with
  | nil =>
    cases more with
    | nil => rfl
    | cons c more => simp [h c rfl]
  | cons c text ih =>
    by_cases hc : isWordPart c = true
    · simp [hc, ih]
    · simp [hc]

theorem CutFrom.trans (hw : CutFrom whole text) (h : CutFrom text part) : CutFrom whole part := by
  obtain ⟨before, after, rfl, hafter⟩ := hw
  obtain ⟨start, rest, rfl, hrest⟩ := h
  exact ⟨before ++ start, rest ++ after, by simp [List.append_assoc], hrest.append hafter⟩

theorem cutFrom_of_suffix (h : part <:+ text) : CutFrom text part := by
  obtain ⟨before, rfl⟩ := h
  exact ⟨before, [], by simp, apart_nil⟩

theorem cutFrom_append {after : List Char} (h : Apart after) : CutFrom (part ++ after) part :=
  ⟨[], after, by simp, h⟩

/-- What a part mentions, the whole text mentions as well. -/
theorem CutFrom.mentions (h : CutFrom text part) : ∀ name ∈ mentions part, name ∈ mentions text := by
  obtain ⟨before, after, rfl, hafter⟩ := h
  intro name hname
  obtain ⟨start, c, rest, rfl, hc, rfl⟩ := exists_of_mem_mentions hname
  have hfound := mem_mentions hc (before ++ start) (rest ++ after)
  rw [hafter.takeWhile] at hfound
  simpa [List.append_assoc] using hfound

end

/-- What a part refers to, the whole text refers to as well. -/
theorem CutFrom.references {text part : String} (h : CutFrom text.toList part.toList) :
    ∀ name ∈ references part, name ∈ references text := by
  intro name hname
  rw [mem_references, List.mem_map] at hname ⊢
  obtain ⟨found, hfound, rfl⟩ := hname
  exact ⟨found, h.mentions found hfound, rfl⟩

/-! ## Predicates -/

section

variable {text part rest : List Char}

theorem cutFrom_trimChars (text : List Char) : CutFrom text (trimChars text) := by
  have hstart : CutFrom text (trimStartChars text) := cutFrom_of_suffix (List.dropWhile_suffix _)
  refine hstart.trans ?_
  unfold trimChars
  generalize trimStartChars text = text
  have hsplit : text =
      trimEndChars text ++ (text.reverse.takeWhile isBlank).reverse := by
    rw [trimEndChars, ← List.reverse_append, List.takeWhile_append_dropWhile, List.reverse_reverse]
  have hafter : Apart (text.reverse.takeWhile isBlank).reverse := by
    refine apart_of_forall fun c hc => ?_
    exact isWordPart_of_isBlank (List.all_eq_true.1 List.all_takeWhile c (List.mem_reverse.1 hc))
  have hcut : CutFrom (trimEndChars text ++ _) (trimEndChars text) := cutFrom_append hafter
  rwa [← hsplit] at hcut

/-- The rest behind a conjunction is the end of the text, and the text starts with a blank. -/
theorem suffix_of_afterConjunction (h : afterConjunction? text = some rest) :
    rest <:+ text ∧ text.head?.any isBlank = true := by
  unfold afterConjunction? at h
  split at h
  · rename_i hblank
    split at h
    · rename_i found hfound
      split at h
      · cases h
        refine ⟨?_, hblank⟩
        have hand : found <:+ trimStartChars text := by
          unfold afterAnd? at hfound
          split at hfound
          · rename_i a n d tail heq
            split at hfound
            · cases hfound
              rw [heq]
              exact ⟨[a, n, d], rfl⟩
            · cases hfound
          · cases hfound
        exact ((List.dropWhile_suffix _).trans hand).trans (List.dropWhile_suffix _)
      · cases h
    · cases h
  · cases h

/-- The first part ends where no name goes on, and all others stand behind it. -/
theorem splitConjunction_eq (text : List Char) : ∃ first parts after,
    splitConjunction text = first :: parts ∧ text = first ++ after ∧ Apart after ∧
      ∀ part ∈ parts, CutFrom after part := by
  fun_induction splitConjunction text with
  | case1 => exact ⟨[], [], [], rfl, rfl, apart_nil, by simp⟩
  | case2 c text rest hrest ih =>
    obtain ⟨first, parts, after, hsplit, rfl, hafter, hparts⟩ := ih
    obtain ⟨hsuffix, hblank⟩ := suffix_of_afterConjunction hrest
    refine ⟨[], _, c :: text, rfl, rfl, apart_of_isBlank hblank, fun part hpart => ?_⟩
    have hcut : CutFrom (first ++ after) part := by
      rw [hsplit] at hpart
      rcases List.mem_cons.1 hpart with rfl | hpart
      · exact cutFrom_append hafter
      · exact (cutFrom_of_suffix (List.suffix_append _ _)).trans (hparts part hpart)
    exact (cutFrom_of_suffix hsuffix).trans hcut
  | case3 c text _ ih =>
    obtain ⟨first, parts, after, hsplit, rfl, hafter, hparts⟩ := ih
    exact ⟨c :: first, parts, after, by rw [hsplit]; rfl, rfl, hafter, hparts⟩

theorem cutFrom_of_mem_splitConjunction (h : part ∈ splitConjunction text) :
    CutFrom text part := by
  obtain ⟨first, parts, after, hsplit, rfl, hafter, hparts⟩ := splitConjunction_eq text
  rw [hsplit] at h
  rcases List.mem_cons.1 h with rfl | h
  · exact cutFrom_append hafter
  · exact (cutFrom_of_suffix (List.suffix_append _ _)).trans (hparts part h)

theorem cutFrom_of_readPredicate {p : Predicate} (h : readPredicate part = .ok p) :
    CutFrom part p.value.toList := by
  unfold readPredicate at h
  split at h
  · cases h
  · rename_i column value hsplit
    simp only at h
    split at h
    · cases h
    · cases h
      rw [String.toList_ofList]
      refine CutFrom.trans (cutFrom_of_suffix ?_) (cutFrom_trimChars value)
      unfold splitEquals? at hsplit
      split at hsplit
      · cases hsplit
      · rename_i sign tail htail
        cases hsplit
        have hbehind : tail <:+ part :=
          (List.suffix_cons sign tail).trans (htail ▸ List.dropWhile_suffix _)
        exact (List.dropWhile_suffix _).trans hbehind

theorem exists_of_mem_readPredicates {parts : List (List Char)} {ps : List Predicate}
    (h : readPredicates parts = .ok ps) {p : Predicate} (hp : p ∈ ps) :
    ∃ part ∈ parts, readPredicate part = .ok p := by
  induction parts generalizing ps with
  | nil => cases h; cases hp
  | cons part parts ih =>
    obtain ⟨q, hq, h⟩ := bind_eq_ok.1 h
    obtain ⟨qs, hqs, h⟩ := bind_eq_ok.1 h
    cases h
    rcases List.mem_cons.1 hp with rfl | hp
    · exact ⟨part, List.mem_cons_self, hq⟩
    · obtain ⟨found, hmem, hfound⟩ := ih hqs hp
      exact ⟨found, List.mem_cons_of_mem part hmem, hfound⟩

/-- Without a lookup nothing is expected. -/
theorem readLookup_empty : readLookup "" = .ok [] := by
  have hnone : (splitConjunction (trimChars "".toList)).filter (fun part => !part.all isBlank) =
      [] := by
    refine List.filter_eq_nil_iff.2 fun part hpart => ?_
    obtain ⟨before, after, hempty, -⟩ : CutFrom [] part := cutFrom_of_mem_splitConjunction hpart
    obtain ⟨⟨-, rfl⟩, -⟩ : (before = [] ∧ part = []) ∧ after = [] := by
      simpa [and_assoc] using hempty.symm
    simp
  rw [readLookup, hnone]
  rfl

/-- The values of predicates are cut from the lookup. -/
theorem cutFrom_of_readLookup {condition : String} {ps : List Predicate}
    (h : readLookup condition = .ok ps) {p : Predicate} (hp : p ∈ ps) :
    CutFrom condition.toList p.value.toList := by
  obtain ⟨part, hpart, hread⟩ := exists_of_mem_readPredicates h hp
  have hsplit := cutFrom_of_mem_splitConjunction (List.mem_filter.1 hpart).1
  exact ((cutFrom_trimChars _).trans hsplit).trans (cutFrom_of_readPredicate hread)

theorem cutFrom_of_unquoteWith {quote : Char} {inner : List Char}
    (hquote : isWordPart quote = false) (h : unquoteWith? quote text = some inner) :
    CutFrom text inner := by
  unfold unquoteWith? at h
  split at h
  · rename_i first rest
    split at h
    · rename_i hends
      obtain ⟨rfl, hlast⟩ := hends
      cases h
      have hrest : rest.dropLast ++ [first] = rest := List.dropLast_append_getLast? _ hlast
      refine ⟨[first], [first], by simp [hrest], fun c hc => ?_⟩
      cases hc
      exact hquote
    · cases h
  · cases h

theorem cutFrom_unquote (text : String) : CutFrom text.toList (unquote text).toList := by
  unfold unquote
  split
  · rename_i inner hinner
    rw [String.toList_ofList]
    exact cutFrom_of_unquoteWith (by decide) hinner
  · split
    · rename_i inner hinner
      rw [String.toList_ofList]
      exact cutFrom_of_unquoteWith (by decide) hinner
    · exact cutFrom_of_suffix (List.suffix_refl _)

end

end FormLogic
