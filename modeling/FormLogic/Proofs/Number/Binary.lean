import Mathlib
import FormLogic.Number.Binary

/-!
# FormLogic.Proofs.Number.Binary

Finite floats and their quantities are the same thing.

The floating point model keeps a word and gives operations on what `unpack` makes of it.  Here the
word is cut into its three fields instead (`fields`), and a finite float is known by the quantity
that the fields stand for:

* `HasFields.unpack_eq`: what `unpack` makes of a word, told from its fields;
* `toBits_ofBits`: a word other than a NaN is not changed on the way to a float;
* `Binary.Fits`, `ofFloat_fits`: the quantities that finite floats have;
* `toFloat_ofFloat`: the quantity determines the float;
* `neg_ofBits`, `beq_self`, `beq_zero`: sign and equality in these terms.
-/

namespace FormLogic
namespace Number

open Float.Model (Format)
open Float.Model.UnpackedFloat
open Float.Model (UnpackedFloat)

/-! ### Fields of a word -/

/-- The fraction field of the double format. -/
def fractionField (w : BitVec 64) : BitVec 52 := @unpackMantissa Format.binary64 w

/-- The exponent field. -/
def exponentField (w : BitVec 64) : BitVec 11 := @unpackExponent Format.binary64 w

/-- The sign field. -/
def signField (w : BitVec 64) : BitVec 1 := @unpackSign Format.binary64 w

theorem toNat_fractionField (w : BitVec 64) : (fractionField w).toNat = w.toNat % 2 ^ 52 := by
  simp [fractionField, unpackMantissa]

theorem toNat_exponentField (w : BitVec 64) :
    (exponentField w).toNat = w.toNat / 2 ^ 52 % 2 ^ 11 := by
  simp [exponentField, unpackExponent, Nat.shiftRight_eq_div_pow]

theorem toNat_signField (w : BitVec 64) : (signField w).toNat = w.toNat / 2 ^ 63 := by
  have hw := w.isLt
  simp only [signField, unpackSign, BitVec.toNat_cast, BitVec.extractLsb_toNat,
    Nat.shiftRight_eq_div_pow]
  omega

/-- The sign of the floating point model. -/
def signOf (negative : Bool) : Sign := if negative then .negative else .positive

/-- The word with these three fields. -/
def wordOf (negative : Bool) (exponent fraction : Nat) : Nat :=
  (if negative then 2 ^ 63 else 0) + exponent * 2 ^ 52 + fraction

/-- The word `w` has these three fields. -/
structure HasFields (w : Nat) (negative : Bool) (exponent fraction : Nat) : Prop where
  exponent_lt : exponent < 2 ^ 11
  fraction_lt : fraction < 2 ^ 52
  eq_word : w = wordOf negative exponent fraction

section Fields

variable {w : Nat} {v : BitVec 64} {s : Bool} {e f : Nat}

theorem HasFields.lt (h : HasFields w s e f) : w < 2 ^ 64 := by
  have he := h.exponent_lt
  have hf := h.fraction_lt
  rw [h.eq_word, wordOf]
  split <;> omega

theorem HasFields.sign (h : HasFields w s e f) :
    w / 2 ^ 63 = if s then 1 else 0 := by
  have he := h.exponent_lt
  have hf := h.fraction_lt
  rw [h.eq_word, wordOf]
  split <;> omega

theorem HasFields.exponent (h : HasFields w s e f) :
    w / 2 ^ 52 % 2 ^ 11 = e := by
  have he := h.exponent_lt
  have hf := h.fraction_lt
  rw [h.eq_word, wordOf]
  split <;> omega

theorem HasFields.fraction (h : HasFields w s e f) :
    w % 2 ^ 52 = f := by
  have hf := h.fraction_lt
  rw [h.eq_word, wordOf]
  split <;> omega

/-- Every word has fields. -/
theorem hasFields (w : UInt64) :
    HasFields w.toNat (fields w).1 (fields w).2.1 (fields w).2.2 := by
  refine ⟨Nat.mod_lt _ (Nat.two_pow_pos _), Nat.mod_lt _ (Nat.two_pow_pos _), ?_⟩
  have hw := w.toNat_lt
  simp only [wordOf, fields, Nat.pow_eq, beq_iff_eq]
  split <;> omega

/-- It has no other fields. -/
theorem HasFields.fields_eq {w : UInt64} (h : HasFields w.toNat s e f) :
    fields w = (s, e, f) := by
  simp only [fields, Nat.pow_eq, h.sign, h.exponent, h.fraction]
  cases s <;> rfl

theorem HasFields.signOf_eq (h : HasFields v.toNat s e f) :
    Sign.ofBitVec (signField v) = signOf s := by
  have hs : (signField v).toNat = if s then 1 else 0 := by rw [toNat_signField, h.sign]
  cases s
  · have h0 : signField v = 0#1 := BitVec.eq_of_toNat_eq hs
    simp [h0, Sign.ofBitVec, signOf]
  · have h1 : signField v = 1#1 := BitVec.eq_of_toNat_eq hs
    simp [h1, Sign.ofBitVec, signOf]

theorem HasFields.toNat_exponentField_eq (h : HasFields v.toNat s e f) :
    (exponentField v).toNat = e := by
  rw [toNat_exponentField, h.exponent]

theorem HasFields.toNat_fractionField_eq (h : HasFields v.toNat s e f) :
    (fractionField v).toNat = f := by
  rw [toNat_fractionField, h.fraction]

theorem HasFields.exponentField_eq_iff (h : HasFields v.toNat s e f) :
    exponentField v = -1#11 ↔ e = 2047 := by
  rw [← BitVec.toNat_inj, h.toNat_exponentField_eq]
  rfl

theorem HasFields.fractionField_eq_iff (h : HasFields v.toNat s e f) :
    fractionField v = 0#52 ↔ f = 0 := by
  rw [← BitVec.toNat_inj, h.toNat_fractionField_eq]
  rfl

/-- What the floating point model makes of three fields. -/
def unpackFields (negative : Bool) (exponent fraction : Nat) : UnpackedFloat :=
  if exponent = 2047 then
    if fraction = 0 then .infinity (signOf negative) else .notANumber
  else if exponent = 0 then
    if h : 0 < fraction then .finite (signOf negative) fraction (-1074) h
    else .zero (signOf negative)
  else .finite (signOf negative) (2 ^ 52 + fraction) ((exponent : Int) - 1075) (by omega)

/-- What it makes of a word. -/
theorem HasFields.unpack_eq (h : HasFields v.toNat s e f) :
    unpack Format.binary64 v = unpackFields s e f := by
  have hexp := h.toNat_exponentField_eq
  have hfrac := h.toNat_fractionField_eq
  have hsub : exponentField v = 0#11 ↔ e = 0 := by
    rw [← BitVec.toNat_inj, hexp]; rfl
  have hnormal : (1#1 ++ fractionField v).toNat = 2 ^ 52 + f := by
    rw [BitVec.toNat_append, ← Nat.shiftLeft_add_eq_or_of_lt (fractionField v).isLt, hfrac]
    rfl
  unfold unpackFields
  change (if exponentField v = -1#11 then
      if fractionField v = 0#52 then .infinity (Sign.ofBitVec (signField v)) else .notANumber
    else if exponentField v = 0#11 then
      if hm : fractionField v = 0#52 then .zero (Sign.ofBitVec (signField v))
      else .finite (Sign.ofBitVec (signField v)) (fractionField v).toNat
        (((exponentField v).toNat : Int) - 1075 + 1) _
    else .finite (Sign.ofBitVec (signField v)) (1#1 ++ fractionField v).toNat
      (((exponentField v).toNat : Int) - 1075) _ : UnpackedFloat) = _
  simp only [h.signOf_eq, hexp, hfrac, hnormal, hsub, h.exponentField_eq_iff,
    h.fractionField_eq_iff]
  split
  · rfl
  split
  · rename_i he
    subst he
    by_cases hf : f = 0
    · simp [hf]
    · rw [dif_neg hf, dif_pos (by omega)]; rfl
  · rfl

/-- A word other than a NaN is packed as it was unpacked. -/
theorem HasFields.pack_unpack_eq (h : HasFields v.toNat s e f) (hnan : e ≠ 2047 ∨ f = 0) :
    pack Format.binary64 (unpack Format.binary64 v) = v := by
  have hbits : @isNaNBits Format.binary64 v = false := by
    refine decide_eq_false fun ⟨hexp, hfrac⟩ => ?_
    rcases hnan with he | hf
    · exact he (h.exponentField_eq_iff.1 hexp)
    · exact hfrac (h.fractionField_eq_iff.2 hf)
  have hpack := @pack_unpack Format.binary64 v (by decide)
  rwa [hbits] at hpack

end Fields

/-! ### Words of floats -/

/-- A word other than a NaN is kept as it is. -/
theorem toBits_ofBits {w : UInt64} {s : Bool} {e f : Nat} (h : HasFields w.toNat s e f)
    (hnan : e ≠ 2047 ∨ f = 0) : (Float.ofBits w).toBits = w :=
  UInt64.toBitVec_inj.1 (HasFields.pack_unpack_eq (v := w.toBitVec) h hnan)

/-- What the floating point model makes of a float. -/
theorem unpack_toModel {x : Float} {s : Bool} {e f : Nat} (h : HasFields x.toBits.toNat s e f) :
    x.toModel.unpack = unpackFields s e f :=
  HasFields.unpack_eq (v := x.toBits.toBitVec) h

/-- A float is made of its fields. -/
theorem eq_ofBits {x : Float} {s : Bool} {e f : Nat} (h : HasFields x.toBits.toNat s e f) :
    x = Float.ofBits (UInt64.ofNat (wordOf s e f)) := by
  rw [← h.eq_word, UInt64.ofNat_toNat, Float.ofBits_toBits]

theorem hasFields_ofNat {e f : Nat} (s : Bool) (he : e < 2 ^ 11) (hf : f < 2 ^ 52) :
    HasFields (UInt64.ofNat (wordOf s e f)).toNat s e f :=
  ⟨he, hf, UInt64.toNat_ofNat_of_lt (HasFields.mk he hf rfl).lt⟩

theorem hasFields_ofBits {e f : Nat} (s : Bool) (he : e < 2 ^ 11) (hf : f < 2 ^ 52)
    (hnan : e ≠ 2047 ∨ f = 0) :
    HasFields (Float.ofBits (UInt64.ofNat (wordOf s e f))).toBits.toNat s e f := by
  have hw := hasFields_ofNat s he hf
  rw [toBits_ofBits hw hnan]
  exact hw

/-- Negating a float changes its sign field alone. -/
theorem neg_ofBits {e f : Nat} (s : Bool) (he : e < 2 ^ 11) (hf : f < 2 ^ 52)
    (hnan : e ≠ 2047 ∨ f = 0) :
    -Float.ofBits (UInt64.ofNat (wordOf s e f)) =
      Float.ofBits (UInt64.ofNat (wordOf (!s) e f)) := by
  have hneg : (unpackFields s e f).neg = unpackFields (!s) e f := by
    unfold unpackFields
    repeat' split
    all_goals cases s <;> rfl
  have hother : HasFields (UInt64.ofNat (wordOf (!s) e f)).toBitVec.toNat (!s) e f :=
    hasFields_ofNat (!s) he hf
  apply Float.toBits_inj.1
  apply UInt64.toBitVec_inj.1
  change pack Format.binary64 (Float.toModel _).unpack.neg = pack Format.binary64 (unpack _ _)
  rw [unpack_toModel (hasFields_ofBits s he hf hnan), hneg, ← hother.unpack_eq]

theorem isFinite_eq {x : Float} {s : Bool} {e f : Nat} (h : HasFields x.toBits.toNat s e f) :
    x.isFinite = decide (e ≠ 2047) := by
  have hunpack : x.isFinite = (unpackFields s e f).isFinite :=
    congrArg UnpackedFloat.isFinite (unpack_toModel h)
  rw [hunpack, unpackFields]
  repeat' split
  all_goals simp_all [UnpackedFloat.isFinite]

theorem isInf_eq {x : Float} {s : Bool} {e f : Nat} (h : HasFields x.toBits.toNat s e f) :
    x.isInf = decide (e = 2047 ∧ f = 0) := by
  have hunpack : x.isInf = (unpackFields s e f).isInf :=
    congrArg UnpackedFloat.isInf (unpack_toModel h)
  rw [hunpack, unpackFields]
  repeat' split
  all_goals simp_all [UnpackedFloat.isInf]

theorem isNaN_eq {x : Float} {s : Bool} {e f : Nat} (h : HasFields x.toBits.toNat s e f) :
    x.isNaN = decide (e = 2047 ∧ f ≠ 0) := by
  have hunpack : x.isNaN = (unpackFields s e f).isNaN :=
    congrArg UnpackedFloat.isNaN (unpack_toModel h)
  rw [hunpack, unpackFields]
  repeat' split
  all_goals simp_all [UnpackedFloat.isNaN]

/-- Every float is finite, infinite or a NaN. -/
theorem isFinite_of_not_isNaN {x : Float} (hnan : x.isNaN = false) (hinf : x.isInf = false) :
    x.isFinite = true := by
  have h := hasFields x.toBits
  rw [isNaN_eq h] at hnan
  rw [isInf_eq h] at hinf
  rw [isFinite_eq h]
  simp only [decide_eq_false_iff_not, decide_eq_true_eq] at hnan hinf ⊢
  omega

theorem isNaN_of_isFinite {x : Float} (h : x.isFinite = true) : x.isNaN = false := by
  have hw := hasFields x.toBits
  rw [isFinite_eq hw, decide_eq_true_eq] at h
  rw [isNaN_eq hw, decide_eq_false_iff_not]
  exact fun hnan => h hnan.1

theorem isInf_of_isFinite {x : Float} (h : x.isFinite = true) : x.isInf = false := by
  have hw := hasFields x.toBits
  rw [isFinite_eq hw, decide_eq_true_eq] at h
  rw [isInf_eq hw, decide_eq_false_iff_not]
  exact fun hinf => h hinf.1

/-- There is one infinity of either sign. -/
theorem eq_infinity {x : Float} (hinf : x.isInf = true) : x = infinity (isNegative x) := by
  have h := hasFields x.toBits
  rw [isInf_eq h] at hinf
  obtain ⟨he, hf⟩ := of_decide_eq_true hinf
  have hx := eq_ofBits h
  rw [he, hf, wordOf, Nat.add_zero] at hx
  simp only [infinity, Nat.pow_eq]
  exact hx

/-! ### Quantities -/

/-- The quantities of finite floats: a significand of 53 bits, of fewer bits only when the exponent
is the least one. -/
structure Binary.Fits (b : Binary) : Prop where
  significand_lt : b.significand < 2 ^ 53
  least_le : -1074 ≤ b.exponent
  le_greatest : b.exponent ≤ 971
  normal : 2 ^ 52 ≤ b.significand ∨ b.exponent = -1074

/-- The word of a quantity, but for its sign. -/
def Binary.magnitudeWord (b : Binary) : Nat :=
  if b.significand < 2 ^ 52 then b.significand
  else (b.exponent + 1075).toNat * 2 ^ 52 + (b.significand - 2 ^ 52)

/-- The float of a quantity. -/
def Binary.toFloat (b : Binary) : Float :=
  Float.ofBits (UInt64.ofNat ((if b.negative then 2 ^ 63 else 0) + b.magnitudeWord))

/-- The quantity that three fields stand for. -/
def Binary.ofFields (negative : Bool) (exponent fraction : Nat) : Binary :=
  if exponent = 0 then ⟨negative, fraction, -1074⟩
  else ⟨negative, 2 ^ 52 + fraction, (exponent : Int) - 1075⟩

namespace Binary

variable {x : Float} {s : Bool} {e f : Nat}

theorem ofFloat_eq (h : HasFields x.toBits.toNat s e f) : ofFloat x = ofFields s e f := by
  simp only [ofFloat, ofFields, h.fields_eq]
  cases e <;> rfl

theorem ofFields_fits (he : e < 2047) (hf : f < 2 ^ 52) : (ofFields s e f).Fits := by
  unfold ofFields
  split
  · exact ⟨by simp only; omega, by simp, by simp, .inr rfl⟩
  · exact ⟨by simp only; omega, by simp only; omega, by simp only; omega, .inl (by simp)⟩

theorem toFloat_ofFields (hf : f < 2 ^ 52) :
    (ofFields s e f).toFloat = Float.ofBits (UInt64.ofNat (wordOf s e f)) := by
  have hnegative : (ofFields s e f).negative = s := by unfold ofFields; split <;> rfl
  have hword : (ofFields s e f).magnitudeWord = e * 2 ^ 52 + f := by
    unfold magnitudeWord ofFields
    cases e with
    | zero =>
      rw [if_pos rfl, if_pos hf]
      simp only
      omega
    | succ e =>
      rw [if_neg (Nat.succ_ne_zero e), if_neg (by simp only; omega)]
      simp only
      omega
  rw [toFloat, hnegative, hword, wordOf, Nat.add_assoc]

/-- A finite float has a quantity that fits. -/
theorem ofFloat_fits (h : x.isFinite = true) : (ofFloat x).Fits := by
  have hw := hasFields x.toBits
  rw [isFinite_eq hw, decide_eq_true_eq] at h
  rw [ofFloat_eq hw]
  exact ofFields_fits (by have := hw.exponent_lt; omega) hw.fraction_lt

/-- The quantity of a float determines it. -/
theorem toFloat_ofFloat (x : Float) : (ofFloat x).toFloat = x := by
  have hw := hasFields x.toBits
  rw [ofFloat_eq hw, toFloat_ofFields hw.fraction_lt, ← eq_ofBits hw]

theorem negative_ofFloat (x : Float) : (ofFloat x).negative = isNegative x := by
  rw [ofFloat_eq (hasFields x.toBits), ofFields]
  split <;> rfl

end Binary

/-! ### Equality -/

/-- A number equals itself. -/
theorem beq_self {x : Float} (h : x.isNaN = false) : (x == x) = true := by
  rw [Float.isNaN_eq_decide_eq_nan, decide_eq_false_iff_not] at h
  exact Float.beq_self_iff.2 h

/-- What equals the zero is equal to the zero that is read back. -/
theorem beq_zero {x : Float} (h : (x == 0.0) = true) : (nearestFloat false 0 1 == x) = true := by
  have hzero : nearestFloat false 0 1 = 0.0 := by decide +kernel
  rw [hzero]
  exact BEq.symm h

end Number
end FormLogic
