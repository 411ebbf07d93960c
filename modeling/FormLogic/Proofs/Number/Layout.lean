import FormLogic.Proofs.Number.Digits
import FormLogic.Proofs.Number.Shortest

/-!
# FormLogic.Proofs.Number.Layout

Numbers written without an exponent are read back unchanged.

* `IsPlainText`: digits with at most one point among them, the first character a digit;
* `placePoint_isPlainText`: a decimal is written in that way;
* `Decimal.read?_placePoint`: reading it gives its value;
* `IsSignedText`: such a text behind a minus sign, or without one;
* `readChars?_plain`: every finite float is read back from its plain text.
-/

namespace FormLogic
namespace Number

open Text

/-! ### Texts without an exponent -/

/-- Digits, and more digits behind a point if there is one. -/
inductive IsPlainText : List Char → Decimal → Prop
  | whole (whole : List Char) (hne : whole ≠ []) (hwhole : ∀ c ∈ whole, c.isDigit = true) :
    IsPlainText whole ⟨natOfDigits whole, 0⟩
  | point (whole fraction : List Char) (hne : whole ≠ []) (hwhole : ∀ c ∈ whole, c.isDigit = true)
      (hfraction : ∀ c ∈ fraction, c.isDigit = true) :
    IsPlainText (whole ++ '.' :: fraction)
      ⟨natOfDigits (whole ++ fraction), -(fraction.length : ℤ)⟩

section PlainText

variable {text : List Char} {d : Decimal}

/-- The characters of such a text. -/
theorem IsPlainText.isDigit_or_point (h : IsPlainText text d) :
    ∀ c ∈ text, c.isDigit = true ∨ c = '.' := by
  intro c hc
  cases h with
  | whole _ _ hwhole => exact .inl (hwhole c hc)
  | point whole fraction _ hwhole hfraction =>
    rcases List.mem_append.1 hc with h | h
    · exact .inl (hwhole c h)
    · rcases List.mem_cons.1 h with rfl | h
      · exact .inr rfl
      · exact .inl (hfraction c h)

/-- It starts with a digit. -/
theorem IsPlainText.exists_cons (h : IsPlainText text d) :
    ∃ c rest, text = c :: rest ∧ c.isDigit = true := by
  cases h with
  | whole _ hne hwhole =>
    obtain ⟨c, rest, rfl⟩ := List.exists_cons_of_ne_nil hne
    exact ⟨c, rest, rfl, hwhole c (by simp)⟩
  | point whole fraction hne hwhole =>
    obtain ⟨c, rest, rfl⟩ := List.exists_cons_of_ne_nil hne
    exact ⟨c, rest ++ '.' :: fraction, rfl, hwhole c (by simp)⟩

/-- It is read as its decimal. -/
theorem IsPlainText.read?_eq (h : IsPlainText text d) : Decimal.read? text = some d := by
  cases h with
  | whole _ hne hwhole =>
    have hspan := spanDigits_append [] hwhole (by simp)
    rw [List.append_nil] at hspan
    simp [Decimal.read?, hspan, hne, readExponent?]
  | point whole fraction hne hwhole hfraction =>
    have hspan := spanDigits_append ('.' :: fraction) hwhole (by simp)
    have hspan' := spanDigits_append [] hfraction (by simp)
    rw [List.append_nil] at hspan'
    simp [Decimal.read?, hspan, hspan', hne, readExponent?]

/-- Such a text is not one of the names of numbers. -/
theorem IsPlainText.readMagnitude?_eq (h : IsPlainText text d) (negative : Bool) :
    readMagnitude? negative text = some (d.toFloat negative) := by
  obtain ⟨c, rest, htext, hc⟩ := h.exists_cons
  have hread := h.read?_eq
  have hlower : text.map Char.toLower = c :: rest.map Char.toLower := by
    rw [htext, List.map_cons, toLower_of_isDigit hc]
  unfold readMagnitude?
  rw [hlower]
  split
  · rename_i heq; rw [(List.cons.inj heq).1] at hc; cases hc
  · rename_i heq; rw [(List.cons.inj heq).1] at hc; cases hc
  · rename_i heq; rw [(List.cons.inj heq).1] at hc; cases hc
  · rw [hread]; rfl

theorem IsPlainText.readChars?_eq (h : IsPlainText text d) :
    readChars? text = some (d.toFloat false) := by
  obtain ⟨c, rest, rfl, hc⟩ := h.exists_cons
  unfold readChars?
  split
  · rename_i heq; cases heq; cases hc
  · rename_i heq; cases heq; cases hc
  · exact h.readMagnitude?_eq false

end PlainText

/-- A decimal is written as such a text, with its value kept. -/
theorem placePoint_isPlainText (n : ℕ) (e : ℤ) :
    ∃ d : Decimal, IsPlainText (placePoint false (Nat.toDigits 10 n) e) d ∧
      d.toRat = Decimal.toRat ⟨n, e⟩ ∧ min e 0 ≤ d.exponent := by
  have hdigits : ∀ c ∈ Nat.toDigits 10 n, c.isDigit = true := fun c => isDigit_of_mem_toDigits
  have hne : Nat.toDigits 10 n ≠ [] := Nat.toDigits_ne_nil
  have hvalue := natOfDigits_toDigits n
  generalize Nat.toDigits 10 n = digits at *
  unfold placePoint
  split
  · -- zeros behind the digits
    rename_i he
    obtain ⟨k, rfl⟩ := Int.eq_ofNat_of_zero_le he
    have hall : ∀ c ∈ digits ++ zeros k, c.isDigit = true := by
      intro c hc
      rcases List.mem_append.1 hc with h | h
      · exact hdigits c h
      · exact isDigit_of_mem_zeros h
    refine ⟨_, by simpa using IsPlainText.whole _ (by simp [hne]) hall, ?_, by simp⟩
    simp [Decimal.toRat, natOfDigits_append_zeros, hvalue]
  rename_i he
  simp only
  split
  · -- the point among the digits
    rename_i hpoint
    refine ⟨_, IsPlainText.point _ _ ?_ (fun c hc => hdigits c (List.mem_of_mem_take hc))
      (fun c hc => hdigits c (List.mem_of_mem_drop hc)), ?_, ?_⟩
    · rw [← List.length_pos_iff, List.length_take]
      have := List.length_pos_iff.2 hne
      omega
    · rw [List.take_append_drop, hvalue, List.length_drop]
      congr 2
      omega
    · simp only [List.length_drop]
      omega
  · -- zeros before the digits
    rename_i hpoint
    have hall : ∀ c ∈ zeros (-(digits.length + e)).toNat ++ digits, c.isDigit = true := by
      intro c hc
      rcases List.mem_append.1 hc with h | h
      · exact isDigit_of_mem_zeros h
      · exact hdigits c h
    have hlength : (zeros (-(digits.length + e)).toNat ++ digits).length = -e := by
      rw [List.length_append, zeros, List.length_replicate]
      omega
    refine ⟨_, IsPlainText.point ['0'] (zeros (-(digits.length + e)).toNat ++ digits) (by simp)
      (by simp) hall, ?_, ?_⟩
    · rw [hlength, neg_neg]
      congr 2
      exact (natOfDigits_zeros_append 1 _).trans ((natOfDigits_zeros_append _ _).trans hvalue)
    · simp only [hlength]
      omega

/-! ### Texts with a sign -/

/-- A minus sign, or none, before digits that denote `d`. -/
def IsSignedText (negative : Bool) (d : Decimal) (text : List Char) : Prop :=
  ∃ digits, IsPlainText digits d ∧ text = (if negative then ['-'] else []) ++ digits

section Signed

variable {negative : Bool} {d : Decimal} {text : List Char}

theorem IsSignedText.mem (h : IsSignedText negative d text) :
    ∀ c ∈ text, c.isDigit = true ∨ c = '.' ∨ c = '-' := by
  obtain ⟨digits, hplain, rfl⟩ := h
  intro c hc
  rcases List.mem_append.1 hc with hsign | hdigit
  · cases negative
    · cases hsign
    · exact .inr (.inr (List.mem_singleton.1 hsign))
  · rcases hplain.isDigit_or_point c hdigit with h | h
    · exact .inl h
    · exact .inr (.inl h)

theorem IsSignedText.isBlank_eq (h : IsSignedText negative d text) :
    ∀ c ∈ text, isBlank c = false := by
  intro c hc
  rcases h.mem c hc with hdigit | rfl | rfl
  · exact isBlank_of_isDigit hdigit
  · rfl
  · rfl

theorem IsSignedText.ne_nil (h : IsSignedText negative d text) : text ≠ [] := by
  obtain ⟨digits, hplain, rfl⟩ := h
  obtain ⟨c, rest, rfl, -⟩ := hplain.exists_cons
  simp

theorem IsSignedText.readChars?_eq (h : IsSignedText negative d text) :
    readChars? text = some (d.toFloat negative) := by
  obtain ⟨digits, hplain, rfl⟩ := h
  cases negative
  · exact hplain.readChars?_eq
  · exact hplain.readMagnitude?_eq true

end Signed

/-! ### Floats -/

/-- The plain text of a finite float: a sign if it is negative, and digits that denote it. -/
theorem render_isSignedText {x : Float} (h : x.isFinite = true) :
    ∃ d, IsSignedText (isNegative x) d (plain.render x).toList ∧ d.toFloat (isNegative x) = x := by
  have hb := Binary.ofFloat_fits h
  obtain ⟨d, hplain, hvalue, hexp⟩ := placePoint_isPlainText
    ((Binary.ofFloat x).shortest .upper).digits ((Binary.ofFloat x).shortest .upper).exponent
  refine ⟨d, ⟨_, hplain, ?_⟩, ?_⟩
  · rw [Layout.render, isNaN_of_isFinite h, isInf_of_isFinite h, if_neg (by simp),
      if_neg (by simp), String.toList_append, String.toList_ofList]
    congr 1
    split <;> rfl
  · rw [← Binary.negative_ofFloat, Binary.toFloat_shortest hb hvalue ?_, Binary.toFloat_ofFloat x]
    have := Binary.le_shortest_exponent hb .upper
    omega

/-- Every finite float is read back from its plain text. -/
theorem readChars?_plain {x : Float} (h : x.isFinite = true) :
    readChars? (plain.render x).toList = some x := by
  obtain ⟨d, htext, hfloat⟩ := render_isSignedText h
  rw [htext.readChars?_eq, hfloat]

end Number
end FormLogic
