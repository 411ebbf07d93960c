import Mathlib
import FormLogic.Proofs.Options.Lookup

/-!
# FormLogic.Proofs.Options.Conjunction

Lookups are cut at their conjunctions and nowhere else.

* `IsConjunction text`: the word `and` in any letter case between blanks;
* `afterConjunction_eq_some`: what is cut off as a conjunction;
* `splitConjunction_append`, `splitConjunction_of_some`: the parts before and behind one;
* `HasAnd text`: the text holds the word `and`, between blanks or at one of its ends;
* `Spelled ps text`: the text spells the predicates out, one after another;
* `readLookup_spelled`: then these are the predicates that are read from it.

The blanks around a conjunction are cut off with it, so an `and` at the end of a value would be
taken for the conjunction behind it.  That is why `HasAnd` admits the ends of a text in place of
blanks.
-/

namespace FormLogic

open Formula Text

/-- The word `and` in any letter case. -/
def IsAnd (word : List Char) : Prop := word.map Char.toLower = ['a', 'n', 'd']

instance (word : List Char) : Decidable (IsAnd word) := inferInstanceAs (Decidable (_ = _))

/-- The word `and` between blanks, the blanks included. -/
def IsConjunction (text : List Char) : Prop :=
  ∃ before word after, text = before ++ word ++ after ∧ IsAnd word ∧
    before ≠ [] ∧ (∀ c ∈ before, isBlank c = true) ∧ after ≠ [] ∧ ∀ c ∈ after, isBlank c = true

variable {text rest word : List Char}

theorem IsAnd.ne_nil (h : IsAnd word) : word ≠ [] := by
  rintro rfl
  cases h

theorem IsAnd.length_eq (h : IsAnd word) : word.length = 3 := by
  have hlength := congrArg List.length h
  simpa using hlength

theorem IsAnd.isWordPart (h : IsAnd word) {c : Char} (hc : c ∈ word) : isWordPart c = true := by
  have hlower : c.toLower ∈ ['a', 'n', 'd'] := by
    rw [← h]
    exact List.mem_map_of_mem hc
  have halpha : c.isAlpha = true := by
    rw [← Char.isAlpha_toLower_eq_isAlpha]
    simp only [List.mem_cons, List.not_mem_nil, or_false] at hlower
    rcases hlower with h | h | h <;> rw [h] <;> rfl
  simp [Formula.isWordPart, Char.isAlphanum, halpha]

theorem IsAnd.isBlank (h : IsAnd word) {c : Char} (hc : c ∈ word) : Text.isBlank c = false := by
  by_contra hblank
  have hpart := isWordPart_of_isBlank (by simpa using hblank)
  rw [h.isWordPart hc] at hpart
  cases hpart

theorem IsConjunction.head? {conjunction : List Char} (h : IsConjunction conjunction)
    (more : List Char) : ∀ c ∈ (conjunction ++ more).head?, isBlank c = true := by
  obtain ⟨before, word, after, rfl, -, hne, hblank, -⟩ := h
  intro c hc
  rw [List.append_assoc, List.append_assoc, List.head?_append_of_ne_nil before hne] at hc
  exact hblank c (List.mem_of_mem_head? hc)

/-! ## Cutting -/

theorem afterAnd_eq_some :
    afterAnd? text = some rest ↔ ∃ word, IsAnd word ∧ text = word ++ rest := by
  constructor
  · intro h
    unfold afterAnd? at h
    split at h
    · rename_i a n d tail
      split at h
      · rename_i hand
        cases h
        exact ⟨[a, n, d], hand, rfl⟩
      · cases h
    · cases h
  · rintro ⟨word, hword, rfl⟩
    match word, hword.length_eq with
    | [a, n, d], _ => exact if_pos hword

/-- What starts with a blank is blanks, at least one, and a text that starts with none. -/
theorem exists_blanks (h : text.head?.any isBlank = true) :
    ∃ blanks, blanks ≠ [] ∧ (∀ c ∈ blanks, isBlank c = true) ∧
      text = blanks ++ trimStartChars text := by
  refine ⟨text.takeWhile isBlank, ?_, List.all_eq_true.1 List.all_takeWhile,
    List.takeWhile_append_dropWhile.symm⟩
  cases text with
  | nil => cases h
  | cons c text =>
    have hc : isBlank c = true := h
    simp [hc]

theorem any_isBlank_head? {blanks : List Char} (hne : blanks ≠ [])
    (h : ∀ c ∈ blanks, isBlank c = true) (rest : List Char) :
    (blanks ++ rest).head?.any isBlank = true := by
  cases blanks with
  | nil => exact absurd rfl hne
  | cons c blanks => exact h c (by simp)

theorem afterConjunction_of_isConjunction {conjunction : List Char}
    (h : IsConjunction conjunction) (hrest : ∀ c ∈ rest.head?, isBlank c = false) :
    afterConjunction? (conjunction ++ rest) = some rest := by
  obtain ⟨before, word, after, rfl, hword, hbefore, hblank, hafter, hblank'⟩ := h
  have htext : before ++ word ++ after ++ rest = before ++ (word ++ (after ++ rest)) := by simp
  have hhead : ∀ c ∈ (word ++ (after ++ rest)).head?, isBlank c = false := by
    intro c hc
    rw [List.head?_append_of_ne_nil word hword.ne_nil] at hc
    exact hword.isBlank (List.mem_of_mem_head? hc)
  have hand : afterAnd? (word ++ (after ++ rest)) = some (after ++ rest) :=
    afterAnd_eq_some.2 ⟨word, hword, rfl⟩
  rw [htext, afterConjunction?, if_pos (any_isBlank_head? hbefore hblank _),
    trimStartChars_blanks hblank hhead, hand]
  simp only
  rw [if_pos (any_isBlank_head? hafter hblank' rest), trimStartChars_blanks hblank' hrest]

/-- A conjunction in front of a text is cut off with all blanks around it, and nothing else is. -/
theorem afterConjunction_eq_some : afterConjunction? text = some rest ↔
    ∃ conjunction, IsConjunction conjunction ∧ text = conjunction ++ rest ∧
      ∀ c ∈ rest.head?, isBlank c = false := by
  constructor
  · intro h
    unfold afterConjunction? at h
    split at h
    · rename_i hblank
      split at h
      · rename_i found hfound
        split at h
        · rename_i hbehind
          cases h
          obtain ⟨word, hword, htrim⟩ := afterAnd_eq_some.1 hfound
          obtain ⟨before, hbefore, hbefore', htext⟩ := exists_blanks hblank
          obtain ⟨after, hafter, hafter', hrest⟩ := exists_blanks hbehind
          refine ⟨before ++ word ++ after,
            ⟨before, word, after, rfl, hword, hbefore, hbefore', hafter, hafter'⟩, ?_, ?_⟩
          · rw [List.append_assoc, ← hrest, List.append_assoc, ← htrim, ← htext]
          · intro c hc
            exact isBlank_of_head?_trimStartChars hc
        · cases h
      · cases h
    · cases h
  · rintro ⟨conjunction, hconjunction, rfl, hrest⟩
    exact afterConjunction_of_isConjunction hconjunction hrest

theorem splitConjunction_nil (h : text = []) : splitConjunction text = [[]] := by
  fun_cases splitConjunction text with
  | case1 => rfl
  | case2 => cases h
  | case3 => cases h

theorem splitConjunction_cons {c : Char} (htext : text = c :: rest)
    (h : afterConjunction? text = none) :
    splitConjunction text = consFirst c (splitConjunction rest) := by
  fun_cases splitConjunction text with
  | case1 => cases htext
  | case2 d more found hfound =>
    rw [hfound] at h
    cases h
  | case3 =>
    cases htext
    rfl

/-- Behind a conjunction a new part starts. -/
theorem splitConjunction_of_some (h : afterConjunction? text = some rest) :
    splitConjunction text = [] :: splitConjunction rest := by
  fun_cases splitConjunction text with
  | case1 => cases h
  | case2 c more found hfound =>
    rw [hfound] at h
    cases h
    rfl
  | case3 c more hnone =>
    rw [hnone] at h
    cases h

/-- Up to where a conjunction starts, all belongs to the first part. -/
theorem splitConjunction_append {first : List Char} {parts : List (List Char)}
    (h : ∀ tail, tail ≠ [] → tail <:+ text → afterConjunction? (tail ++ rest) = none)
    (hrest : splitConjunction rest = first :: parts) :
    splitConjunction (text ++ rest) = (text ++ first) :: parts := by
  induction text with
  | nil => exact hrest
  | cons c text ih =>
    have htext : splitConjunction (text ++ rest) = (text ++ first) :: parts := by
      refine ih ?_
      intro tail hne htail
      exact h tail hne (htail.trans (List.suffix_cons c text))
    have hnone := h (c :: text) (by simp) (List.suffix_refl _)
    rw [splitConjunction_cons List.cons_append hnone, htext]
    rfl

/-- A text in which no conjunction starts is one part. -/
theorem splitConjunction_eq_singleton
    (h : ∀ tail, tail ≠ [] → tail <:+ text → afterConjunction? tail = none) :
    splitConjunction text = [text] := by
  have hnone : ∀ tail, tail ≠ [] → tail <:+ text → afterConjunction? (tail ++ []) = none := by
    intro tail hne htail
    rw [List.append_nil]
    exact h tail hne htail
  have hwhole := splitConjunction_append hnone (splitConjunction_nil rfl)
  rwa [List.append_nil] at hwhole

/-! ## Texts with the word in them -/

/-- The text holds the word `and` with a blank, or an end of the text, on either side. -/
def HasAnd (text : List Char) : Prop :=
  ∃ before word after, text = before ++ word ++ after ∧ IsAnd word ∧
    (∀ c ∈ before.getLast?, isBlank c = true) ∧ ∀ c ∈ after.head?, isBlank c = true

theorem hasAnd_iff : HasAnd text ↔ ∃ i < text.length, IsAnd ((text.drop i).take 3) ∧
    (text.take i).getLast?.all isBlank = true ∧ (text.drop (i + 3)).head?.all isBlank = true := by
  simp only [Option.all_eq_true]
  constructor
  · rintro ⟨before, word, after, rfl, hword, hbefore, hafter⟩
    have hlength := hword.length_eq
    have hbehind : (before ++ word ++ after).drop (before.length + 3) = after := by
      rw [← hlength, ← List.length_append, List.drop_left]
    refine ⟨before.length, by simp [hlength], ?_⟩
    rw [hbehind, List.append_assoc, List.drop_left, List.take_left, ← hlength, List.take_left]
    exact ⟨hword, hbefore, hafter⟩
  · rintro ⟨i, -, hword, hbefore, hafter⟩
    refine ⟨text.take i, (text.drop i).take 3, text.drop (i + 3), ?_, hword, hbefore, hafter⟩
    rw [List.append_assoc, ← List.drop_drop, List.take_append_drop, List.take_append_drop]

instance (text : List Char) : Decidable (HasAnd text) := decidable_of_iff _ hasAnd_iff.symm

/-- Characters that stand together stand before or behind a character that is none of them. -/
theorem infix_of_append_cons {l r before part after : List Char} {c : Char} (hc : c ∉ part)
    (h : l ++ c :: r = before ++ part ++ after) :
    (∃ between, l = before ++ part ++ between ∧ after = between ++ c :: r) ∨
      ∃ between, r = between ++ part ++ after ∧ before = l ++ c :: between := by
  rw [List.append_assoc, List.append_eq_append_iff] at h
  rcases h with ⟨as, rfl, h⟩ | ⟨cs, rfl, h⟩
  · cases as with
    | nil =>
      cases part with
      | nil => exact .inl ⟨[], by simp, by simpa using h.symm⟩
      | cons d part => exact absurd (List.cons.inj h).1 (by rintro rfl; simp at hc)
    | cons d as =>
      obtain ⟨rfl, rfl⟩ := List.cons.inj h
      exact .inr ⟨as, by simp, rfl⟩
  · rw [List.append_eq_append_iff] at h
    rcases h with ⟨as, rfl, h⟩ | ⟨ds, rfl, h⟩
    · exact .inl ⟨as, by simp, h⟩
    · cases ds with
      | nil => exact .inl ⟨[], by simp, by simpa using h.symm⟩
      | cons d ds => exact absurd (List.cons.inj h).1 (by rintro rfl; simp at hc)

theorem not_hasAnd_nil : ¬ HasAnd [] := by
  rintro ⟨before, word, after, h, hword, -⟩
  simp only [List.nil_eq, List.append_eq_nil_iff] at h
  exact hword.ne_nil h.1.2

theorem HasAnd.of_append_cons {l r : List Char} {c : Char} (hc : isWordPart c = false)
    (h : HasAnd (l ++ c :: r)) : HasAnd l ∨ HasAnd r := by
  obtain ⟨before, word, after, heq, hword, hbefore, hafter⟩ := h
  have hout : c ∉ word := by
    intro hin
    rw [hword.isWordPart hin] at hc
    cases hc
  rcases infix_of_append_cons hout heq with ⟨between, rfl, rfl⟩ | ⟨between, rfl, rfl⟩
  · refine .inl ⟨before, word, between, rfl, hword, hbefore, ?_⟩
    intro d hd
    refine hafter d ?_
    rw [List.head?_append, Option.mem_def.1 hd]
    rfl
  · refine .inr ⟨between, word, after, rfl, hword, ?_, hafter⟩
    intro d hd
    refine hbefore d ?_
    rw [List.getLast?_append, List.getLast?_cons, Option.mem_def.1 hd]
    rfl

/-- Where characters of no word stand between two texts, the word stands in one of them. -/
theorem HasAnd.of_append {l r gap : List Char} (hne : gap ≠ [])
    (hgap : ∀ c ∈ gap, isWordPart c = false) (h : HasAnd (l ++ gap ++ r)) :
    HasAnd l ∨ HasAnd r := by
  induction gap generalizing l with
  | nil => exact absurd rfl hne
  | cons c gap ih =>
    rw [List.append_assoc, List.cons_append] at h
    rcases h.of_append_cons (hgap c (by simp)) with h | h
    · exact .inl h
    · by_cases hmore : gap = []
      · subst hmore
        exact .inr h
      · have hrest := ih (l := []) hmore (fun d hd => hgap d (by simp [hd])) (by simpa using h)
        exact .inr (hrest.resolve_left not_hasAnd_nil)

/-- In a text without the word, that ends with no blank, no conjunction starts. -/
theorem afterConjunction_eq_none {tail : List Char} (hand : ¬ HasAnd text)
    (hlast : ∀ c ∈ text.getLast?, isBlank c = false) (hne : tail ≠ []) (htail : tail <:+ text)
    (hrest : ∀ c ∈ rest.head?, isBlank c = true) : afterConjunction? (tail ++ rest) = none := by
  rw [Option.eq_none_iff_forall_not_mem]
  intro found hfound
  obtain ⟨_, ⟨before, word, after, rfl, hword, hbefore, hblank, hafter, hblank'⟩, heq, -⟩ :=
    afterConjunction_eq_some.1 hfound
  obtain ⟨front, rfl⟩ := htail
  have hfront : ∀ c ∈ (front ++ before).getLast?, isBlank c = true := by
    intro c hc
    rw [List.getLast?_append_of_ne_nil front hbefore] at hc
    exact hblank c (List.mem_of_getLast? hc)
  rw [List.append_assoc, List.append_assoc, List.append_eq_append_iff] at heq
  rcases heq with ⟨as, rfl, -⟩ | ⟨cs, rfl, heq⟩
  · -- the last character of the text would be one of the blanks before the word
    have hend := hlast (tail.getLast hne) (by
      rw [List.getLast?_append_of_ne_nil front hne, List.getLast?_eq_some_getLast hne]
      rfl)
    rw [hblank _ (List.mem_append_left as (List.getLast_mem hne))] at hend
    cases hend
  · rw [List.append_eq_append_iff] at heq
    rcases heq with ⟨as, rfl, heq⟩ | ⟨ds, rfl, heq⟩
    · refine hand ⟨front ++ before, word, as, by simp, hword, hfront, ?_⟩
      intro c hc
      have hhead : c ∈ (after ++ found).head? := by
        rw [heq, List.head?_append, Option.mem_def.1 hc]
        rfl
      rw [List.head?_append_of_ne_nil after hafter] at hhead
      exact hblank' c (List.mem_of_mem_head? hhead)
    · cases ds with
      | nil => exact hand ⟨front ++ before, cs, [], by simp, by simpa using hword, hfront, by simp⟩
      | cons d ds =>
        -- the word would go on behind the text, where there is a blank
        have hblanks := hrest d (by simp [heq])
        rw [hword.isBlank (by simp)] at hblanks
        cases hblanks

/-! ## Predicates that are spelled out -/

/-- Not empty, and without blanks at its ends. -/
structure IsTrimmed (text : List Char) : Prop where
  ne_nil : text ≠ []
  head : ∀ c ∈ text.head?, isBlank c = false
  last : ∀ c ∈ text.getLast?, isBlank c = false

instance (text : List Char) : Decidable (IsTrimmed text) :=
  decidable_of_iff (text ≠ [] ∧ text.head?.all (!isBlank ·) = true ∧
      text.getLast?.all (!isBlank ·) = true) (by
    simp only [Option.all_eq_true, Bool.not_eq_true']
    exact ⟨fun ⟨hne, hhead, hlast⟩ => ⟨hne, hhead, hlast⟩, fun h => ⟨h.ne_nil, h.head, h.last⟩⟩)

theorem IsTrimmed.trimChars_append {blanks : List Char} (h : IsTrimmed text)
    (hblanks : ∀ c ∈ blanks, isBlank c = true) : trimChars (text ++ blanks) = text :=
  trimChars_surrounded (List.forall_mem_nil _) hblanks h.ne_nil h.head h.last

theorem IsTrimmed.trimChars_blanks {blanks : List Char} (h : IsTrimmed text)
    (hblanks : ∀ c ∈ blanks, isBlank c = true) : trimChars (blanks ++ text) = text := by
  have htrim := trimChars_surrounded hblanks (List.forall_mem_nil _) h.ne_nil h.head h.last
  rwa [List.append_nil] at htrim

/-- A column and a value that can be written next to an equals sign. -/
structure Predicate.Readable (p : Predicate) : Prop where
  column : IsTrimmed p.column.toList
  value : IsTrimmed p.value.toList
  not_mem_column : '=' ∉ p.column.toList
  not_head_value : '=' ∉ p.value.toList.head?

/-- A column and a value that can be written next to an equals sign and to conjunctions. -/
structure Predicate.Plain (p : Predicate) : Prop extends p.Readable where
  not_hasAnd_column : ¬ HasAnd p.column.toList
  not_hasAnd_value : ¬ HasAnd p.value.toList

instance (p : Predicate) : Decidable p.Plain :=
  decidable_of_iff (IsTrimmed p.column.toList ∧ IsTrimmed p.value.toList ∧
      '=' ∉ p.column.toList ∧ '=' ∉ p.value.toList.head? ∧ ¬ HasAnd p.column.toList ∧
      ¬ HasAnd p.value.toList)
    ⟨fun ⟨h₁, h₂, h₃, h₄, h₅, h₆⟩ => ⟨⟨h₁, h₂, h₃, h₄⟩, h₅, h₆⟩,
      fun h => ⟨h.column, h.value, h.not_mem_column, h.not_head_value, h.not_hasAnd_column,
        h.not_hasAnd_value⟩⟩

/-- The text is the column and the value, with one equals sign or more between them, and blanks. -/
def Predicate.Spelled (p : Predicate) (text : List Char) : Prop :=
  ∃ before n after, (∀ c ∈ before, isBlank c = true) ∧ (∀ c ∈ after, isBlank c = true) ∧
    text = p.column.toList ++ before ++ List.replicate (n + 1) '=' ++ after ++ p.value.toList

/-- The text spells the predicates out, with conjunctions between them. -/
inductive Spelled : List Predicate → List Char → Prop
  | one {p text} : p.Spelled text → Spelled [p] text
  | more {p ps text conjunction rest} : p.Spelled text → IsConjunction conjunction →
    Spelled ps rest → Spelled (p :: ps) (text ++ conjunction ++ rest)

section

variable {p : Predicate} {ps : List Predicate}

theorem Predicate.Spelled.head? (h : p.Spelled text) (hp : p.Readable) (more : List Char) :
    ∀ c ∈ (text ++ more).head?, isBlank c = false := by
  obtain ⟨before, n, after, -, -, rfl⟩ := h
  intro c hc
  simp only [List.append_assoc] at hc
  rw [List.head?_append_of_ne_nil _ hp.column.ne_nil] at hc
  exact hp.column.head c hc

theorem Predicate.Spelled.getLast? (h : p.Spelled text) (hp : p.Readable) (front : List Char) :
    ∀ c ∈ (front ++ text).getLast?, isBlank c = false := by
  obtain ⟨before, n, after, -, -, rfl⟩ := h
  intro c hc
  rw [← List.append_assoc, List.getLast?_append_of_ne_nil _ hp.value.ne_nil] at hc
  exact hp.value.last c hc

/-- Around the equals sign there is no place for the word. -/
theorem Predicate.Spelled.not_hasAnd (h : p.Spelled text) (hp : p.Plain) : ¬ HasAnd text := by
  obtain ⟨before, n, after, hbefore, hafter, rfl⟩ := h
  intro hand
  have hgap : ∀ c ∈ before ++ List.replicate (n + 1) '=' ++ after, isWordPart c = false := by
    intro c hc
    rw [List.mem_append, List.mem_append] at hc
    rcases hc with (hc | hc) | hc
    · exact isWordPart_of_isBlank (hbefore c hc)
    · rw [List.eq_of_mem_replicate hc]
      rfl
    · exact isWordPart_of_isBlank (hafter c hc)
  have hsplit := HasAnd.of_append (l := p.column.toList) (r := p.value.toList) (by simp) hgap
    (by simpa [List.append_assoc] using hand)
  exact hsplit.elim hp.not_hasAnd_column hp.not_hasAnd_value

/-- The first equals sign stands behind the column, and none is left in front of the value. -/
theorem splitEquals_spelled (h : p.Spelled text) (hp : p.Readable) :
    ∃ column value, splitEquals? text = some (column, value) ∧
      trimChars column = p.column.toList ∧ trimChars value = p.value.toList := by
  obtain ⟨before, n, after, hbefore, hafter, rfl⟩ := h
  have hblank : ∀ c, isBlank c = true → c ≠ '=' := by
    rintro c hc rfl
    cases hc
  have hcolumn : ∀ c ∈ p.column.toList ++ before, decide (c ≠ '=') = true := by
    intro c hc
    rw [decide_eq_true_eq]
    rcases List.mem_append.1 hc with hc | hc
    · rintro rfl
      exact hp.not_mem_column hc
    · exact hblank c (hbefore c hc)
  have hsigns : ∀ c ∈ List.replicate n '=', decide (c = '=') = true := by
    intro c hc
    simp [List.eq_of_mem_replicate hc]
  have hvalue : (after ++ p.value.toList).dropWhile (· = '=') = after ++ p.value.toList := by
    cases after with
    | nil =>
      have hhead := hp.not_head_value
      rw [List.nil_append]
      cases hv : p.value.toList with
      | nil => rfl
      | cons c value =>
        rw [hv] at hhead
        exact List.dropWhile_cons_of_neg (by simpa [eq_comm] using hhead)
    | cons c after => exact List.dropWhile_cons_of_neg (by simp [hblank c (hafter c (by simp))])
  have htext : p.column.toList ++ before ++ List.replicate (n + 1) '=' ++ after ++ p.value.toList =
      (p.column.toList ++ before) ++
        '=' :: (List.replicate n '=' ++ (after ++ p.value.toList)) := by
    simp [List.replicate_succ]
  refine ⟨p.column.toList ++ before, after ++ p.value.toList, ?_,
    hp.column.trimChars_append hbefore, hp.value.trimChars_blanks hafter⟩
  rw [htext, splitEquals?, List.dropWhile_append_of_pos hcolumn,
    List.takeWhile_append_of_pos hcolumn]
  simp only [ne_eq, decide_not, decide_true, Bool.not_true, Bool.false_eq_true, not_false_eq_true,
    List.dropWhile_cons_of_neg, List.takeWhile_cons_of_neg, List.append_nil]
  rw [List.dropWhile_append_of_pos hsigns, hvalue]

theorem readPredicate_spelled (h : p.Spelled text) (hp : p.Readable) :
    readPredicate text = .ok p := by
  obtain ⟨column, value, hsplit, hcolumn, hvalue⟩ := splitEquals_spelled h hp
  rw [readPredicate, hsplit]
  simp only [hcolumn, hvalue]
  rw [if_neg (by simp [hp.column.ne_nil, hp.value.ne_nil])]
  simp

theorem Spelled.head? (h : Spelled ps text) (hps : ∀ p ∈ ps, p.Plain) :
    ∀ c ∈ text.head?, isBlank c = false := by
  cases h with
  | one hp => simpa using hp.head? (hps _ (by simp)).toReadable []
  | more hp _ _ =>
    rw [List.append_assoc]
    exact hp.head? (hps _ (by simp)).toReadable _

theorem Spelled.getLast? (h : Spelled ps text) (hps : ∀ p ∈ ps, p.Plain) (front : List Char) :
    ∀ c ∈ (front ++ text).getLast?, isBlank c = false := by
  induction h generalizing front with
  | one hp => exact hp.getLast? (hps _ (by simp)).toReadable front
  | more _ _ _ ih =>
    rw [← List.append_assoc]
    exact ih (fun q hq => hps q (by simp [hq])) _

/-- The parts of a text that spells predicates out are what each of them is spelled as. -/
theorem Spelled.splitConjunction (h : Spelled ps text) (hps : ∀ p ∈ ps, p.Plain) :
    List.Forall₂ Predicate.Spelled ps (FormLogic.splitConjunction text) := by
  induction h with
  | @one p text hp =>
    have hplain := hps p List.mem_cons_self
    have hwhole : FormLogic.splitConjunction text = [text] := by
      refine splitConjunction_eq_singleton fun tail hne htail => ?_
      have hnone := @afterConjunction_eq_none _ [] _ (hp.not_hasAnd hplain)
        (hp.getLast? hplain.toReadable []) hne htail nofun
      rwa [List.append_nil] at hnone
    rw [hwhole]
    exact .cons hp .nil
  | @more p ps text conjunction rest hp hconjunction hrest ih =>
    have hplain := hps p List.mem_cons_self
    have hmore : ∀ q ∈ ps, q.Plain := by
      intro q hq
      exact hps q (List.mem_cons_of_mem p hq)
    have hbehind := splitConjunction_of_some
      (afterConjunction_of_isConjunction hconjunction (hrest.head? hmore))
    have hwhole := splitConjunction_append
      (fun tail hne htail => afterConjunction_eq_none (hp.not_hasAnd hplain)
        (hp.getLast? hplain.toReadable []) hne htail (hconjunction.head? rest)) hbehind
    rw [List.append_assoc, hwhole, List.append_nil]
    exact .cons hp (ih hmore)

/-- A part that spells a predicate out is read as it, whatever the other parts are. -/
theorem readPredicates_cons_spelled {parts : List (List Char)} (h : p.Spelled text)
    (hp : p.Readable) :
    readPredicates ((text :: parts).filter fun part => !part.all isBlank) =
      (readPredicates (parts.filter fun part => !part.all isBlank)).map (p :: ·) := by
  have hfilled : text.all isBlank = false := by
    obtain ⟨before, n, after, -, -, rfl⟩ := h
    exact List.all_eq_false.2 ⟨'=', by simp, by decide⟩
  rw [List.filter_cons, if_pos (by simp [hfilled]), readPredicates, readPredicate_spelled h hp]
  cases readPredicates (parts.filter fun part => !part.all isBlank) <;> rfl

theorem readPredicates_spelled {parts : List (List Char)} (hps : ∀ p ∈ ps, p.Plain)
    (h : List.Forall₂ Predicate.Spelled ps parts) :
    readPredicates (parts.filter fun part => !part.all isBlank) = .ok ps := by
  induction h with
  | nil => rfl
  | @cons p part ps parts hp _ ih =>
    rw [readPredicates_cons_spelled hp (hps p (by simp)).toReadable,
      ih fun q hq => hps q (by simp [hq])]
    rfl

end

/-- A text that spells predicates out, be it with several equals signs in a row, with `and` in any
letter case or with any blanks around them, is read as these predicates. -/
theorem readLookup_spelled {ps : List Predicate} {condition : String} (hps : ∀ p ∈ ps, p.Plain)
    (h : Spelled ps condition.toList) : readLookup condition = .ok ps := by
  have htrim : trimChars condition.toList = condition.toList :=
    trimChars_eq_self (h.head? hps) (h.getLast? hps [])
  rw [readLookup, htrim]
  exact readPredicates_spelled hps (h.splitConjunction hps)

/-- Letters of the word inside of others, or next to an equals sign, are no conjunction. -/
theorem readLookup_spelled_band :
    let ps : List Predicate := [⟨"band", "@A"⟩, ⟨"x y", "a=and-b"⟩]
    (∀ p ∈ ps, p.Plain) ∧ Spelled ps "band=@A\u00a0aNd\t x y  ==a=and-b".toList ∧
      readLookup "band=@A\u00a0aNd\t x y  ==a=and-b" = .ok ps := by
  intro ps
  have hps : ∀ p ∈ ps, p.Plain := by decide +kernel
  have hspelled : Spelled ps "band=@A\u00a0aNd\t x y  ==a=and-b".toList := by
    have hconjunction : IsConjunction "\u00a0aNd\t ".toList :=
      ⟨['\u00a0'], "aNd".toList, ['\t', ' '], by decide, by decide, by decide,
        List.all_eq_true.1 (by decide), by decide, List.all_eq_true.1 (by decide)⟩
    have hband : Predicate.Spelled ⟨"band", "@A"⟩ "band=@A".toList :=
      ⟨[], 0, [], by simp, by simp, by decide⟩
    have hxy : Predicate.Spelled ⟨"x y", "a=and-b"⟩ "x y  ==a=and-b".toList :=
      ⟨[' ', ' '], 1, [], List.all_eq_true.1 (by decide), by simp, by decide⟩
    have htext : "band=@A\u00a0aNd\t x y  ==a=and-b".toList =
        "band=@A".toList ++ "\u00a0aNd\t ".toList ++ "x y  ==a=and-b".toList := by decide +kernel
    rw [htext]
    exact .more hband hconjunction (.one hxy)
  exact ⟨hps, hspelled, readLookup_spelled hps hspelled⟩

end FormLogic
