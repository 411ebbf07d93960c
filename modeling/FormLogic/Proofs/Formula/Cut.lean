import FormLogic.Formula.Lexeme
import FormLogic.Proofs.Number.Digits

/-!
# FormLogic.Proofs.Formula.Cut

What a token looks at.

* `firstToken_eq_ok_iff`: a token is cut off in just the ways of `Cuts`;
* `Seam rest next`: `next` is the start of `rest`, and goes on, if at all, with a spacer;
* `firstToken_seam`: with `next` in place of `rest` behind it, the token is cut off as before;
* `TokenFault.Starts`, `starts_of_firstToken`: where no token is cut off, the fault names the
  character that stands there.
-/

namespace FormLogic
namespace Formula

open Text

variable {c d : Char} {text rest next raw : List Char} {cut : Cut}

/-! ## The kinds of tokens -/

def operatorStarts : List Char := "+-*/%^=<>!?:(),&|".toList

/-- The characters that operators start with start no other token. -/
theorem firstToken_operator (h : c ∈ operatorStarts) (text : List Char) :
    firstToken c text = operatorToken c text := by
  have hnone : operatorStarts.all (fun c => !isNumberPart c && !isWordStart c &&
      c != '\'' && c != '"' && c != '@') = true := by decide
  have hc := List.all_eq_true.1 hnone c h
  simp only [Bool.and_eq_true, Bool.not_eq_true', bne_iff_ne] at hc
  obtain ⟨⟨⟨⟨hnumber, hword⟩, hsingle⟩, hdouble⟩, hsign⟩ := hc
  rw [firstToken, if_neg (by simp [hnumber]), if_neg (by simp [hsingle, hdouble]), if_neg hsign,
    if_neg (by simp [hword])]

theorem mem_operators_of_double {t : Token} (h : doubleOperator? c d = some t) :
    c ∈ operatorStarts := by
  unfold doubleOperator? at h
  split at h <;> first | decide | cases h

theorem mem_operators_of_single {t : Token} (h : singleOperator? c = some t) :
    c ∈ operatorStarts := by
  unfold singleOperator? at h
  split at h <;> first | decide | cases h

theorem isNumberPart_of_isWordStart (h : isWordStart c = true) : isNumberPart c = false := by
  cases hn : isNumberPart c
  · rfl
  rw [isNumberPart, Bool.or_eq_true, beq_iff_eq] at hn
  rcases hn with hdigit | rfl
  · rw [isWordStart, Number.isAlpha_of_isDigit hdigit, Bool.false_or, beq_iff_eq] at h
    subst h
    cases hdigit
  · cases h

theorem Cuts.firstToken (h : Cuts c text cut) : firstToken c text = .ok cut := by
  cases h with
  | number hc hspan hread => simp [Formula.firstToken, hc, numberToken, hspan, hread]
  | text hquote hspan =>
    have hc : isNumberPart c = false := by rcases hquote with rfl | rfl <;> decide
    simp [Formula.firstToken, hc, hquote, textToken, hspan]
  | field hc text =>
    rw [Formula.firstToken, if_neg (by decide), if_neg (by decide), if_pos rfl, fieldToken,
      if_pos hc]
  | word hc text =>
    have hnumber := isNumberPart_of_isWordStart hc
    have hother : c ≠ '\'' ∧ c ≠ '"' ∧ c ≠ '@' := by
      refine ⟨?_, ?_, ?_⟩ <;> rintro rfl <;> cases hc
    simp [Formula.firstToken, hc, hnumber, hother]
  | double ht rest =>
    rw [firstToken_operator (mem_operators_of_double ht), operatorToken, ht]
  | single ht hrest =>
    rw [firstToken_operator (mem_operators_of_single ht)]
    cases text with
    | nil => rw [operatorToken, singleToken, ht]
    | cons d text => rw [operatorToken, hrest d rfl, singleToken, ht]

theorem firstToken_eq_ok_iff : firstToken c text = .ok cut ↔ Cuts c text cut :=
  ⟨cuts_of_firstToken, Cuts.firstToken⟩

/-! ## What may stand behind a token -/

/-- What the five spacers have in common. -/
theorem eq_true_of_isSpacer {p : Char → Bool} (h : " \t\n\x0c\r".toList.all p = true)
    (hc : isSpacer c = true) : p c = true := by
  simp only [isSpacer, Bool.or_eq_true, beq_iff_eq] at hc
  refine List.all_eq_true.1 h c ?_
  rcases hc with (((rfl | rfl) | rfl) | rfl) | rfl <;> decide

/-- The first text goes on with anything where the second ends or goes on with a spacer. -/
inductive Seam : List Char → List Char → Prop
  | stop (rest : List Char) : Seam rest []
  | spacer {c : Char} (hc : isSpacer c = true) (rest next : List Char) : Seam rest (c :: next)
  | cons (c : Char) {rest next : List Char} (h : Seam rest next) : Seam (c :: rest) (c :: next)

namespace Seam

theorem append (before : List Char) (h : Seam rest next) :
    Seam (before ++ rest) (before ++ next) := by
  induction before with
  | nil => exact h
  | cons c _ ih => exact .cons c ih

theorem of_prefix (h : next <+: rest) : Seam rest next := by
  obtain ⟨tail, rfl⟩ := h
  simpa using (stop tail).append next

theorem of_spacers {blanks : List Char} (h : ∀ c ∈ blanks, isSpacer c = true)
    (rest : List Char) : Seam rest blanks := by
  cases blanks with
  | nil => exact .stop rest
  | cons c blanks => exact .spacer (h c (by simp)) rest blanks

/-- What holds of the head of the first text, and of spacers, holds of the head of the second. -/
theorem head? {p : Char → Bool} (h : Seam rest next)
    (hspacer : " \t\n\x0c\r".toList.all (fun c => !p c) = true)
    (hrest : ∀ c ∈ rest.head?, p c = false) : ∀ c ∈ next.head?, p c = false := by
  cases h with
  | stop => nofun
  | spacer hc =>
    rintro _ ⟨⟩
    simpa using eq_true_of_isSpacer hspacer hc
  | cons => exact hrest

end Seam

theorem head?_dropWhile {p : Char → Bool} (text : List Char) :
    ∀ c ∈ (text.dropWhile p).head?, p c = false := by
  intro c hc
  have hnot := List.head?_dropWhile_not p text
  rw [hc] at hnot
  exact hnot

theorem span_append {p : Char → Bool} {before tail : List Char} (hbefore : ∀ c ∈ before, p c = true)
    (htail : ∀ c ∈ tail.head?, p c = false) :
    (before ++ tail).takeWhile p = before ∧ (before ++ tail).dropWhile p = tail := by
  rw [List.takeWhile_append_of_pos hbefore, List.dropWhile_append_of_pos hbefore]
  cases tail with
  | nil => simp
  | cons c tail => simp [htail c rfl]

/-- A run of characters ends where it ended. -/
theorem span_seam {p : Char → Bool} (hspacer : " \t\n\x0c\r".toList.all (fun c => !p c) = true)
    (h : Seam (text.dropWhile p) next) :
    (text.takeWhile p ++ next).takeWhile p = text.takeWhile p ∧
      (text.takeWhile p ++ next).dropWhile p = next :=
  span_append (fun _ hc => List.mem_takeWhile_imp hc) (h.head? hspacer (head?_dropWhile text))

/-! ### Numbers -/

theorem spanSign_cons (c : Char) (text : List Char) :
    spanSign (c :: text) = if c = '+' ∨ c = '-' then ([c], text) else ([], c :: text) := by
  unfold spanSign
  split <;> simp_all

theorem spanSign_seam (h : Seam rest next)
    (hrest : ∀ c ∈ (spanSign rest).2.head?, c.isDigit = false) :
    ∀ c ∈ (spanSign next).2.head?, c.isDigit = false := by
  cases h with
  | stop => nofun
  | @spacer c hc rest next =>
    have hsign := eq_true_of_isSpacer (p := fun c => c != '+' && c != '-' && !c.isDigit)
      (by decide) hc
    simp only [Bool.and_eq_true, bne_iff_ne, Bool.not_eq_true'] at hsign
    rw [spanSign_cons, if_neg (by simp [hsign])]
    rintro _ ⟨⟩
    exact hsign.2
  | @cons c rest next h =>
    rw [spanSign_cons] at hrest ⊢
    by_cases hsign : c = '+' ∨ c = '-'
    · rw [if_pos hsign] at hrest ⊢
      exact h.head? (by decide) hrest
    · rw [if_neg hsign] at hrest ⊢
      exact hrest

theorem spanSign_append_digit (hd : d.isDigit = true) (text tail : List Char) :
    spanSign ((spanSign text).1 ++ d :: tail) = ((spanSign text).1, d :: tail) := by
  fun_cases spanSign text with
  | case1 => rfl
  | case2 => rfl
  | case3 =>
    rw [List.nil_append, spanSign_cons, if_neg]
    rintro (rfl | rfl) <;> cases hd

theorem takeWhile_eq_nil_iff_head? {p : Char → Bool} :
    text.takeWhile p = [] ↔ ∀ c ∈ text.head?, p c = false := by
  cases text <;> simp

/-- No exponent appears where none was. -/
theorem spanExponent_seam_of_nil (hspan : (spanExponent rest).1 = []) (h : Seam rest next) :
    spanExponent next = ([], next) := by
  cases h with
  | stop => rfl
  | @spacer c hc rest next =>
    have hmark := eq_true_of_isSpacer (p := fun c => c != 'e' && c != 'E') (by decide) hc
    rw [spanExponent, if_neg (by simpa using hmark)]
  | @cons c rest next h =>
    rw [spanExponent] at hspan ⊢
    split at hspan
    · rename_i hmark
      rw [if_pos hmark]
      split at hspan
      · rename_i hnone
        have hnext := spanSign_seam h (takeWhile_eq_nil_iff_head?.1 hnone)
        rw [takeWhile_eq_nil_iff_head?.2 hnext]
      · cases hspan
    · rename_i hmark
      rw [if_neg hmark]

theorem spanExponent_seam (h : Seam (spanExponent text).2 next) :
    spanExponent ((spanExponent text).1 ++ next) = ((spanExponent text).1, next) := by
  by_cases hnil : (spanExponent text).1 = []
  · have happ := spanExponent_append text
    rw [hnil, List.nil_append] at happ
    rw [happ] at h
    rw [hnil, List.nil_append, spanExponent_seam_of_nil hnil h]
  revert h hnil
  fun_cases spanExponent text with
  | case1 => exact fun _ hnil => (hnil rfl).elim
  | case2 => exact fun _ hnil => (hnil rfl).elim
  | case3 mark tail hmark d ds hd =>
    intro h _
    have hdigit : d.isDigit = true := List.mem_takeWhile_imp (hd ▸ List.mem_cons_self)
    have hdigits := span_seam (by decide) h
    rw [hd, List.cons_append] at hdigits
    simp only [List.cons_append, List.append_assoc]
    rw [spanExponent, if_pos hmark, spanSign_append_digit hdigit]
    simp only [hdigits, List.cons_append]
  | case4 => exact fun _ hnil => (hnil rfl).elim

theorem spanNumber_seam (h : Seam (spanNumber text).2 next) :
    spanNumber ((spanNumber text).1 ++ next) = ((spanNumber text).1, next) := by
  have hexponent := spanExponent_seam h
  have htail := h.append (spanExponent (text.dropWhile isNumberPart)).1
  simp only [spanNumber, spanExponent_append] at htail hexponent ⊢
  obtain ⟨htake, hdrop⟩ := span_seam (by decide) htail
  rw [List.append_assoc, htake, hdrop, hexponent]

/-! ### Tokens -/

theorem spanQuoted_seam {quote : Char} (hquote : quote ≠ '\\')
    (h : spanQuoted quote text = some (raw, rest)) (next : List Char) :
    spanQuoted quote (raw ++ quote :: next) = some (raw, next) := by
  fun_induction spanQuoted quote text generalizing raw with
  | case1 => cases h
  | case2 => cases h
  | case3 e tail ih =>
    obtain ⟨r, hr, he⟩ := Option.map_eq_some_iff.1 h
    cases he
    simp [spanQuoted, ih hr]
  | case4 =>
    cases h
    rw [List.nil_append, spanQuoted.eq_def]
    simp [hquote]
  | case5 c tail hc hne ih =>
    obtain ⟨r, hr, he⟩ := Option.map_eq_some_iff.1 h
    cases he
    rw [List.cons_append, spanQuoted.eq_def]
    simp [hc, hne, ih hr]

theorem doubleOperator?_of_isSpacer (hd : isSpacer d = true) : doubleOperator? c d = none := by
  have hnone := eq_true_of_isSpacer (p := fun d => d != '=' && d != '>' && d != '&' && d != '|')
    (by decide) hd
  unfold doubleOperator?
  split <;> first | rfl | cases hnone

/-- What is cut off does not depend on what follows it, up to the first spacer there. -/
theorem Cuts.seam (h : Cuts c text cut) (hnext : Seam cut.rest next) :
    ∃ raw, cut.raw = c :: raw ∧ Cuts c (raw ++ next) { cut with rest := next } := by
  cases h with
  | @number c text raw rest x hc hspan hread =>
    obtain ⟨tail, htail⟩ := exists_cons_of_spanNumber hc hspan
    have hagain := @spanNumber_seam (c :: text) next (by rwa [hspan])
    rw [hspan, htail] at hagain
    subst htail
    exact ⟨tail, rfl, .number hc hagain hread⟩
  | @text _ _ raw rest hquote hspan =>
    have hne : c ≠ '\\' := by rcases hquote with rfl | rfl <;> decide
    have hagain := spanQuoted_seam hne hspan next
    refine ⟨raw ++ [c], rfl, .text hquote ?_⟩
    rwa [List.append_assoc]
  | field hc text =>
    have hagain := Cuts.field hc (text.takeWhile isWordPart ++ next)
    obtain ⟨htake, hdrop⟩ := span_seam (by decide) hnext
    rw [htake, hdrop] at hagain
    exact ⟨_, rfl, hagain⟩
  | word hc text =>
    have hagain := Cuts.word hc (text.takeWhile isWordPart ++ next)
    obtain ⟨htake, hdrop⟩ := span_seam (by decide) hnext
    rw [wordToken, htake, hdrop] at hagain
    exact ⟨_, rfl, hagain⟩
  | double ht rest => exact ⟨[_], rfl, .double ht next⟩
  | single ht hrest =>
    refine ⟨[], rfl, .single ht fun d hd => ?_⟩
    cases hnext with
    | stop => cases hd
    | spacer hspacer =>
      cases hd
      exact doubleOperator?_of_isSpacer hspacer
    | cons => exact hrest d hd

/-- The token does not change with what follows it, up to the first spacer there. -/
theorem firstToken_seam (h : firstToken c text = .ok cut) (hnext : Seam cut.rest next) :
    ∃ raw, cut.raw = c :: raw ∧ firstToken c (raw ++ next) = .ok { cut with rest := next } := by
  obtain ⟨raw, hraw, hcuts⟩ := (firstToken_eq_ok_iff.1 h).seam hnext
  exact ⟨raw, hraw, firstToken_eq_ok_iff.2 hcuts⟩

/-! ## Where no token starts -/

/-- A fault of a token that starts with the character `c`. -/
def TokenFault.Starts (c : Char) : TokenFault → Prop
  | .stray found => found = c
  | .unterminated => c = '\'' ∨ c = '"'
  | .malformedNumber _ => isNumberPart c = true

theorem starts_of_firstToken {fault : TokenFault} (h : firstToken c text = .error fault) :
    fault.Starts c := by
  have single : ∀ {text}, singleToken c text = .error fault → fault.Starts c := by
    intro text h
    unfold singleToken at h
    split at h
    · cases h
    · cases h; rfl
  unfold firstToken at h
  split at h
  · rename_i hc
    simp only [numberToken] at h
    split at h
    · cases h
    · cases h; exact hc
  split at h
  · rename_i hquote
    unfold textToken at h
    split at h
    · cases h
    · cases h; simpa [TokenFault.Starts] using hquote
  split at h
  · unfold fieldToken at h
    split at h
    · cases h; rfl
    split at h
    · cases h
    · cases h; rfl
  split at h
  · cases h
  unfold operatorToken at h
  split at h
  · exact single h
  split at h
  · cases h
  · exact single h

end Formula
end FormLogic
