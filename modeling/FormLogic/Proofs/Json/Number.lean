import FormLogic.Json.Reader
import FormLogic.Json.Writer
import FormLogic.Proofs.Number.Digits

/-!
# FormLogic.Proofs.Json.Number

Numbers in JSON.

* `EndsNumber`: what follows a number is no part of it;
* `readNumber?_append`: a number that is read from a whole text is read in front of such a text too;
* `readNumber?_writeInt`: an integer of 64 bits is read back;
* `ReadsBack`: a float is read back.
-/

namespace FormLogic
namespace Json

open Number

/-- The text does not go on with what a number could contain. -/
def EndsNumber (rest : List Char) : Prop :=
  ∀ c ∈ rest.head?, c.isDigit = false ∧ c ≠ '.' ∧ c ≠ 'e' ∧ c ≠ 'E'

/-- The number text of the float is read as the same float.  Long number texts may be read as a
neighbour, since they are scaled by powers of ten that are rounded. -/
def ReadsBack (x : Float) : Prop :=
  readNumber? (writeFloat x) = some (.float x, [])

/-! ### In front of other text -/

section Append

variable {input rest : List Char} {negative : Bool} {j : Json}

theorem EndsNumber.not_isDigit (h : EndsNumber rest) : ∀ c ∈ rest.head?, c.isDigit = false :=
  fun c hc => (h c hc).1

theorem spanDigits_append_of_ends (input : List Char) (h : EndsNumber rest) :
    spanDigits (input ++ rest) = ((spanDigits input).1, (spanDigits input).2 ++ rest) := by
  have hdigits : ∀ c ∈ (spanDigits input).1, c.isDigit = true := by
    intro c hc
    exact List.mem_takeWhile_imp hc
  have hbehind : ∀ c ∈ ((spanDigits input).2 ++ rest).head?, c.isDigit = false := by
    intro c hc
    cases htail : (spanDigits input).2 with
    | nil => exact h.not_isDigit c (by simpa [htail] using hc)
    | cons d tail =>
      have hd : c = d := by simpa [htail, eq_comm] using hc
      have hhead := List.head?_dropWhile_not Char.isDigit input
      rw [show input.dropWhile Char.isDigit = d :: tail from htail] at hhead
      simpa [hd] using hhead
  have hsplit : (spanDigits input).1 ++ (spanDigits input).2 = input :=
    List.takeWhile_append_dropWhile
  conv_lhs => rw [← hsplit, List.append_assoc]
  exact spanDigits_append _ hdigits hbehind

theorem readPower?_plain (h : ∀ c ∈ input.head?, c ≠ '+' ∧ c ≠ '-') :
    readPower? input = readPower? ('+' :: input) := by
  cases input with
  | nil => rfl
  | cons c input =>
    obtain ⟨hplus, hminus⟩ := h c rfl
    simp [readPower?, hplus, hminus]

theorem readPower?_append (hrest : EndsNumber rest) {p : Int}
    (h : readPower? input = some (p, [])) : readPower? (input ++ rest) = some (p, rest) := by
  -- Behind either sign the same digits are read.
  have hsigned : ∀ sign ∈ ['+', '-'], ∀ body, readPower? (sign :: body) = some (p, []) →
      readPower? (sign :: (body ++ rest)) = some (p, rest) := by
    intro sign hsign body hbody
    have hspan := spanDigits_append_of_ends body hrest
    generalize hbehind : body ++ rest = behind at hspan ⊢
    rcases List.mem_pair.1 hsign with rfl | rfl
    all_goals
      rw [readPower?] at hbody ⊢
      simp only [hspan] at hbody ⊢
      generalize spanDigits body = span at hbody ⊢
      obtain ⟨digits, tail⟩ := span
      cases digits with
      | nil => cases hbody
      | cons d digits =>
        obtain ⟨rfl, rfl⟩ := Prod.mk.inj (Option.some.inj hbody)
        rfl
  cases input with
  | nil => cases h
  | cons c input =>
    rw [List.cons_append]
    by_cases hsign : c ∈ ['+', '-']
    · exact hsigned c hsign input h
    · have hplain : ∀ body : List Char, ∀ d ∈ (c :: body).head?, d ≠ '+' ∧ d ≠ '-' := by
        rintro body d ⟨⟩
        simpa using hsign
      -- Without a sign the text is read as if it had a plus.
      rw [readPower?_plain (hplain _)] at h ⊢
      exact hsigned '+' (by simp) (c :: input) h

theorem readScaled?_append (hrest : EndsNumber rest) {significand : Nat} {e : Int}
    (h : readScaled? negative significand e input = some (j, [])) :
    readScaled? negative significand e (input ++ rest) = some (j, rest) := by
  cases input with
  | nil =>
    obtain ⟨k, hk, hj⟩ := Option.bind_eq_some_iff.1 h
    cases hj
    rw [List.nil_append, readScaled?.eq_def]
    cases rest with
    | nil => simp [hk]
    | cons c rest =>
      obtain ⟨-, -, hlower, hupper⟩ := hrest c rfl
      simp [hlower, hupper, hk]
  | cons c input =>
    rw [List.cons_append]
    unfold readScaled? at h ⊢
    simp only at h ⊢
    by_cases hmark : (c = 'e' || c = 'E') = true
    · rw [if_pos hmark] at h ⊢
      obtain ⟨⟨p, tail⟩, hpower, h⟩ := Option.bind_eq_some_iff.1 h
      obtain ⟨k, hk, hj⟩ := Option.bind_eq_some_iff.1 h
      cases hj
      simp [readPower?_append hrest hpower, hk]
    · rw [if_neg hmark] at h
      obtain ⟨k, hk, hj⟩ := Option.bind_eq_some_iff.1 h
      cases hj

theorem readFraction?_append (hrest : EndsNumber rest) {significand unused : Nat}
    (h : readFraction? negative significand unused input = some (j, [])) :
    readFraction? negative significand unused (input ++ rest) = some (j, rest) := by
  cases input with
  | nil =>
    rw [List.nil_append]
    cases rest with
    | nil => exact h
    | cons c rest =>
      obtain ⟨-, hpoint, hlower, hupper⟩ := hrest c rfl
      have hscaled : readScaled? negative significand unused [] = some (j, []) →
          readScaled? negative significand unused (c :: rest) = some (j, c :: rest) :=
        readScaled?_append hrest
      unfold readFraction? at h ⊢
      split
      · rename_i heq
        exact absurd (List.cons.inj heq).1 hpoint
      · rename_i heq
        obtain ⟨rfl, -⟩ := List.cons.inj heq
        simp only [hlower, hupper] at h ⊢
        by_cases hunused : unused ≠ 0
        · rw [if_pos hunused] at h
          rw [if_pos (by simp [hunused])]
          exact hscaled h
        · rw [if_neg hunused] at h
          rw [if_neg (by simp [hunused])]
          cases h
          rfl
      · cases ‹c :: rest = []›
  | cons c input =>
    rw [List.cons_append]
    unfold readFraction? at h ⊢
    by_cases hpoint : c = '.'
    · subst hpoint
      simp only [spanDigits_append_of_ends input hrest] at h ⊢
      generalize spanDigits input = span at h ⊢
      obtain ⟨digits, tail⟩ := span
      cases digits with
      | nil => cases h
      | cons d digits => exact readScaled?_append hrest h
    · simp only at h ⊢
      by_cases hmark : (c = 'e' || c = 'E' || unused ≠ 0) = true
      · rw [if_pos hmark] at h ⊢
        exact readScaled?_append hrest h
      · rw [if_neg hmark] at h
        cases h

/-- Digits without a leading zero, and then what follows them. -/
theorem readMagnitude?_eq {digits tail : List Char} (hspan : spanDigits input = (digits, tail))
    (hne : digits ≠ []) (hzero : ∀ d ds, digits ≠ '0' :: d :: ds) :
    Json.readMagnitude? negative input =
      readFraction? negative (accumulate 0 digits).1 (accumulate 0 digits).2.2.length tail := by
  rw [Json.readMagnitude?, hspan]
  split
  · exact absurd (Prod.mk.inj ‹_›).1 hne
  · exact absurd (Prod.mk.inj ‹_›).1 (hzero _ _)
  · obtain ⟨rfl, rfl⟩ := Prod.mk.inj ‹_›
    rfl

theorem readMagnitude?_append (hrest : EndsNumber rest)
    (h : Json.readMagnitude? negative input = some (j, [])) :
    Json.readMagnitude? negative (input ++ rest) = some (j, rest) := by
  obtain ⟨digits, tail, hspan⟩ : ∃ digits tail, spanDigits input = (digits, tail) := ⟨_, _, rfl⟩
  have hspan' := spanDigits_append_of_ends input hrest
  rw [hspan] at hspan'
  have hne : digits ≠ [] := by
    rintro rfl
    rw [Json.readMagnitude?, hspan] at h
    cases h
  have hzero : ∀ d ds, digits ≠ '0' :: d :: ds := by
    rintro d ds rfl
    rw [Json.readMagnitude?, hspan] at h
    cases h
  rw [readMagnitude?_eq hspan hne hzero] at h
  rw [readMagnitude?_eq hspan' hne hzero]
  exact readFraction?_append hrest h

theorem readNumber?_eq (h : ∀ c ∈ input.head?, c ≠ '-') :
    readNumber? input = Json.readMagnitude? false input := by
  unfold readNumber?
  split
  · exact absurd rfl (h _ rfl)
  · rfl

/-- What is read as a number from a whole text is read so in front of what ends numbers. -/
theorem readNumber?_append (hrest : EndsNumber rest) (h : readNumber? input = some (j, [])) :
    readNumber? (input ++ rest) = some (j, rest) := by
  cases input with
  | nil => cases h
  | cons c input =>
    rw [List.cons_append]
    by_cases hminus : c = '-'
    · subst hminus
      exact readMagnitude?_append hrest h
    · have hplain : ∀ body : List Char, ∀ d ∈ (c :: body).head?, d ≠ '-' := by
        rintro body d ⟨⟩
        exact hminus
      rw [readNumber?_eq (hplain _)] at h ⊢
      exact readMagnitude?_append hrest h

theorem head?_of_readNumber? (h : (readNumber? input).isSome) :
    ∃ c ∈ input.head?, c = '-' ∨ c.isDigit = true := by
  cases input with
  | nil => cases h
  | cons c input =>
    refine ⟨c, rfl, or_iff_not_imp_left.2 fun hminus => ?_⟩
    by_contra hdigit
    rw [readNumber?_eq (by rintro d ⟨⟩; exact hminus), Json.readMagnitude?] at h
    have hspan : spanDigits (c :: input) = ([], c :: input) := by simp [spanDigits, hdigit]
    rw [hspan] at h
    cases h

end Append

/-! ### Integers -/

theorem int_two_pow_63 : Int.pow 2 63 = 9223372036854775808 := rfl

theorem int_two_pow_64 : Int.pow 2 64 = 18446744073709551616 := rfl

theorem nat_two_pow_63 : Nat.pow 2 63 = 9223372036854775808 := rfl

theorem nat_two_pow_64 : Nat.pow 2 64 = 18446744073709551616 := rfl

/-- Digits are used up as long as their number fits. -/
theorem accumulate_eq {digits : List Char} {n : Nat}
    (h : Nat.ofDigitChars 10 digits n < Nat.pow 2 64) :
    accumulate n digits = (Nat.ofDigitChars 10 digits n, digits.length, []) := by
  induction digits generalizing n with
  | nil => rfl
  | cons d digits ih =>
    rw [Nat.ofDigitChars_cons] at h ⊢
    have hle : ∀ m, m ≤ Nat.ofDigitChars 10 digits m := by
      intro m
      rw [Nat.ofDigitChars_eq_ofDigitChars_zero]
      exact Nat.le_add_right_of_le (Nat.le_mul_of_pos_left m (by positivity))
    rw [accumulate, if_pos ((hle _).trans_lt h), ih h]
    rfl

/-- There is no leading zero. -/
theorem toDigits_ne_zero_cons (n : Nat) (d : Char) (ds : List Char) :
    Nat.toDigits 10 n ≠ '0' :: d :: ds := by
  -- All digits but the last are those of the quotient by ten, which is not zero here.
  induction n using Nat.strongRecOn generalizing d ds with
  | ind n ih =>
    intro h
    rw [Nat.toDigits_eq_if (by decide)] at h
    split at h
    · exact List.cons_ne_nil d ds (List.cons.inj h).2.symm
    · have hvalue := natOfDigits_toDigits (n / 10)
      rcases hquotient : Nat.toDigits 10 (n / 10) with _ | ⟨c, _ | ⟨d', ds'⟩⟩
      · exact Nat.toDigits_ne_nil hquotient
      · rw [hquotient] at h hvalue
        obtain ⟨rfl, -⟩ := List.cons.inj h
        change 0 = n / 10 at hvalue
        omega
      · rw [hquotient] at h
        obtain ⟨rfl, -⟩ := List.cons.inj h
        exact ih (n / 10) (by omega) d' ds' hquotient

theorem readMagnitude?_toDigits (negative : Bool) {n : Nat} (hn : n < Nat.pow 2 64) :
    Json.readMagnitude? negative (Nat.toDigits 10 n) = some (integerOf negative n, []) := by
  have hspan : spanDigits (Nat.toDigits 10 n ++ []) = (Nat.toDigits 10 n, []) :=
    spanDigits_append [] (fun c => isDigit_of_mem_toDigits) (by simp)
  rw [List.append_nil] at hspan
  have hvalue : Nat.ofDigitChars 10 (Nat.toDigits 10 n) 0 = n := natOfDigits_toDigits n
  have haccumulate : accumulate 0 (Nat.toDigits 10 n) = _ := accumulate_eq (by rwa [hvalue])
  rw [readMagnitude?_eq hspan Nat.toDigits_ne_nil (toDigits_ne_zero_cons n), haccumulate, hvalue]
  rfl

/-- An integer is read back, if it has 64 bits with a sign or without. -/
theorem readNumber?_writeInt {i : Int} (hlow : -Int.pow 2 63 ≤ i) (hhigh : i < Int.pow 2 64) :
    readNumber? (writeInt i) = some (.int i, []) := by
  rw [int_two_pow_63] at hlow
  rw [int_two_pow_64] at hhigh
  have hn : i.natAbs < Nat.pow 2 64 := by
    rw [nat_two_pow_64]
    omega
  by_cases hi : i < 0
  · have hmagnitude := readMagnitude?_toDigits true hn
    have hsmall : ¬(decide (i.natAbs = 0) || decide (Nat.pow 2 63 < i.natAbs)) = true := by
      rw [Bool.or_eq_true, decide_eq_true_eq, decide_eq_true_eq, nat_two_pow_63]
      omega
    rw [integerOf, if_neg (by decide), if_neg hsmall, show -(i.natAbs : Int) = i by omega]
      at hmagnitude
    rw [writeInt, if_pos hi]
    exact hmagnitude
  · have hdigit : ∀ c ∈ (Nat.toDigits 10 i.natAbs).head?, c ≠ '-' := by
      rintro c hc rfl
      have hminus := isDigit_of_mem_toDigits (List.mem_of_mem_head? hc)
      cases hminus
    have hmagnitude := readMagnitude?_toDigits false hn
    rw [integerOf, if_pos (by decide), show (i.natAbs : Int) = i by omega] at hmagnitude
    rw [writeInt, if_neg hi, readNumber?_eq hdigit]
    exact hmagnitude

end Json
end FormLogic
