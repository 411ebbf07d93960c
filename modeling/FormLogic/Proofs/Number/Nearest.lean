import FormLogic.Number.Decimal
import FormLogic.Proofs.Number.Binary

/-!
# FormLogic.Proofs.Number.Nearest

Rounding a decimal to a float, told with rational numbers.

* `Binary.Rounds`: the rationals nearer to a quantity than to any other float, with the ends of the
  interval when the significand is even;
* `scaleOf_spec`: the exponent that is chosen gives a significand of 53 bits or is the least one;
* `nearestBits_eq`: a quotient rounds to the quantity in whose interval it lies;
* `Decimal.toFloat_eq`: so does a decimal, whatever its digits are.
-/

namespace FormLogic
namespace Number

theorem two_zpow_pos (e : ℤ) : (0 : ℚ) < 2 ^ e := zpow_pos (by norm_num) e

theorem ten_zpow_pos (e : ℤ) : (0 : ℚ) < 10 ^ e := zpow_pos (by norm_num) e

theorem two_zpow_le {e t : ℤ} (h : e ≤ t) : (2 : ℚ) ^ e ≤ 2 ^ t :=
  zpow_le_zpow_right₀ (by norm_num) h

theorem two_zpow_add (e : ℤ) (n : ℕ) : (2 : ℚ) ^ (e + n) = 2 ^ n * 2 ^ e := by
  rw [zpow_add₀ (by norm_num), zpow_natCast, mul_comm]

/-- One exponent further down is half as much. -/
theorem two_zpow_pred (e : ℤ) : (2 : ℚ) ^ e = 2 * 2 ^ (e - 1) := by
  rw [← zpow_one_add₀ two_ne_zero, add_sub_cancel]

/-- A power with an integral exponent as a quotient of two naturals, one of which is 1. -/
theorem zpow_eq_div (base : ℕ) (hbase : base ≠ 0) (e : ℤ) :
    (base : ℚ) ^ e = ((base ^ e.toNat : ℕ) : ℚ) / ((base ^ (-e).toNat : ℕ) : ℚ) := by
  have hb : (base : ℚ) ≠ 0 := Nat.cast_ne_zero.2 hbase
  have he : e = (e.toNat : ℤ) - ((-e).toNat : ℤ) := by omega
  conv_lhs => rw [he, zpow_sub₀ hb, zpow_natCast, zpow_natCast]
  push_cast
  rfl

/-! ### Scaled quotients -/

/-- What is divided when a quotient is measured in units of `2 ^ e`. -/
theorem scaled_quotient (num den : ℕ) (e : ℤ) :
    ((num * 2 ^ (-e).toNat : ℕ) : ℚ) / ((den * 2 ^ e.toNat : ℕ) : ℚ) =
      (num : ℚ) / den / 2 ^ e := by
  have hpow := zpow_eq_div 2 two_ne_zero e
  rw [Nat.cast_two] at hpow
  rw [hpow]
  push_cast
  field_simp

theorem quotientLt_iff {num den n : ℕ} {e : ℤ} (hden : 0 < den) :
    quotientLt num den n e = true ↔ (num : ℚ) / den < n * 2 ^ e := by
  have hd : (0 : ℚ) < den := Nat.cast_pos.2 hden
  have hpow := zpow_eq_div 2 two_ne_zero e
  rw [Nat.cast_two] at hpow
  have hq : (0 : ℚ) < ((2 ^ (-e).toNat : ℕ) : ℚ) := by positivity
  rw [hpow, div_lt_iff₀ hd, mul_div_assoc', div_mul_eq_mul_div, lt_div_iff₀ hq, quotientLt,
    decide_eq_true_eq, Nat.pow_eq]
  exact_mod_cast Iff.rfl

/-- The powers of two beside a quotient, from the lengths of its parts. -/
theorem quotient_between {num den : ℕ} (hnum : 0 < num) (hden : 0 < den) :
    (2 : ℚ) ^ ((num.log2 : ℤ) - den.log2 - 1) < num / den ∧
      (num : ℚ) / den < 2 ^ ((num.log2 : ℤ) - den.log2 + 1) := by
  have hd : (0 : ℚ) < den := Nat.cast_pos.2 hden
  have hlength : ∀ {n : ℕ}, 0 < n →
      (2 : ℚ) ^ (n.log2 : ℤ) ≤ n ∧ (n : ℚ) < 2 ^ ((n.log2 : ℤ) + 1) := by
    intro n hn
    rw [← Nat.cast_succ, zpow_natCast, zpow_natCast]
    exact ⟨by exact_mod_cast Nat.log2_self_le hn.ne', by exact_mod_cast Nat.lt_log2_self⟩
  obtain ⟨hnlow, hnhigh⟩ := hlength hnum
  obtain ⟨hdlow, hdhigh⟩ := hlength hden
  constructor
  · rw [lt_div_iff₀ hd]
    calc (2 : ℚ) ^ ((num.log2 : ℤ) - den.log2 - 1) * den
        < 2 ^ ((num.log2 : ℤ) - den.log2 - 1) * 2 ^ ((den.log2 : ℤ) + 1) :=
          mul_lt_mul_of_pos_left hdhigh (two_zpow_pos _)
      _ = 2 ^ (num.log2 : ℤ) := by rw [← zpow_add₀ two_ne_zero]; congr 1; ring
      _ ≤ num := hnlow
  · rw [div_lt_iff₀ hd]
    calc (num : ℚ) < 2 ^ ((num.log2 : ℤ) + 1) := hnhigh
      _ = 2 ^ ((num.log2 : ℤ) - den.log2 + 1) * 2 ^ (den.log2 : ℤ) := by
          rw [← zpow_add₀ two_ne_zero]; congr 1; ring
      _ ≤ 2 ^ ((num.log2 : ℤ) - den.log2 + 1) * den :=
          mul_le_mul_of_nonneg_left hdlow (two_zpow_pos _).le

/-- The exponent of a quotient: the significand has at most 53 bits, and fewer only under the least
exponent. -/
theorem scaleOf_spec {num den : ℕ} (hnum : 0 < num) (hden : 0 < den) :
    -1074 ≤ scaleOf num den ∧ (num : ℚ) / den < 2 ^ 53 * 2 ^ scaleOf num den ∧
      (scaleOf num den = -1074 ∨ 2 ^ 52 * 2 ^ scaleOf num den ≤ (num : ℚ) / den) := by
  obtain ⟨hlow, hhigh⟩ := quotient_between hnum hden
  obtain ⟨e, hscale, hlt, hge⟩ : ∃ e, scaleOf num den = max e (-1074) ∧
      (num : ℚ) / den < 2 ^ 53 * 2 ^ e ∧ 2 ^ 52 * 2 ^ e ≤ (num : ℚ) / den := by
    simp only [scaleOf]
    have hexp : ∀ z : ℤ, (2 : ℚ) ^ 53 * 2 ^ (z - 52) = 2 ^ (z + 1) := by
      intro z
      rw [← two_zpow_add]; congr 1; push_cast; ring
    have hexp' : ∀ z : ℤ, (2 : ℚ) ^ 52 * 2 ^ (z - 52 - 1) = 2 ^ (z - 1) := by
      intro z
      rw [← two_zpow_add]; congr 1; push_cast; ring
    have hhalf : ∀ z : ℤ, (2 : ℚ) ^ 53 * 2 ^ (z - 1) = 2 ^ 52 * 2 ^ z := by
      intro z
      rw [← two_zpow_add, ← two_zpow_add]; congr 1; push_cast; ring
    by_cases hbelow : quotientLt num den (Nat.pow 2 52) ((num.log2 : ℤ) - den.log2 - 52) = true
    · refine ⟨_, by rw [if_pos hbelow], ?_, ?_⟩
      · rw [quotientLt_iff hden, Nat.pow_eq, Nat.cast_pow, Nat.cast_two] at hbelow
        rw [hhalf]
        exact hbelow
      · rw [hexp']
        exact hlow.le
    · refine ⟨_, by rw [if_neg hbelow], ?_, ?_⟩
      · rw [hexp]
        exact hhigh
      · rw [quotientLt_iff hden, Nat.pow_eq, Nat.cast_pow, Nat.cast_two, not_lt] at hbelow
        exact hbelow
  rw [hscale]
  refine ⟨le_max_right _ _, ?_, ?_⟩
  · have hmono := two_zpow_le (le_max_left e (-1074))
    linarith
  · rcases le_total e (-1074) with h | h
    · exact .inl (max_eq_right h)
    · exact .inr (by rw [max_eq_left h]; exact hge)

/-! ### Rounding to a natural number -/

/-- A quotient rounds to the natural number within a half of it, to an odd one only when it is
nearer than that. -/
theorem roundHalfEven_eq {a d n : ℕ} (hd : 0 < d) (hlow : (n : ℚ) - 1 / 2 ≤ a / d)
    (hhigh : (a : ℚ) / d ≤ n + 1 / 2)
    (hodd : n % 2 = 1 → (n : ℚ) - 1 / 2 < a / d ∧ (a : ℚ) / d < n + 1 / 2) :
    roundHalfEven a d = n := by
  have hdq : (0 : ℚ) < d := Nat.cast_pos.2 hd
  rw [le_div_iff₀ hdq] at hlow
  rw [div_le_iff₀ hdq] at hhigh
  rw [lt_div_iff₀ hdq, div_lt_iff₀ hdq] at hodd
  have hlow' : 2 * (n * d) ≤ 2 * a + d := by
    have : (2 * (n * d) : ℚ) ≤ 2 * a + d := by linarith
    exact_mod_cast this
  have hhigh' : 2 * a ≤ 2 * (n * d) + d := by
    have : (2 * a : ℚ) ≤ 2 * (n * d) + d := by linarith
    exact_mod_cast this
  have hodd' : n % 2 = 1 → 2 * (n * d) < 2 * a + d ∧ 2 * a < 2 * (n * d) + d := by
    intro hn
    obtain ⟨hl, hh⟩ := hodd hn
    have h1 : (2 * (n * d) : ℚ) < 2 * a + d := by linarith
    have h2 : (2 * a : ℚ) < 2 * (n * d) + d := by linarith
    exact ⟨by exact_mod_cast h1, by exact_mod_cast h2⟩
  have hdiv := Nat.div_add_mod' a d
  have hmod := Nat.mod_lt a hd
  have hle : a / d ≤ n := by
    by_contra hlt
    have := Nat.mul_le_mul_right d (show n + 1 ≤ a / d by omega)
    rw [Nat.add_mul] at this
    omega
  have hge : n ≤ a / d + 1 := by
    by_contra hlt
    have := Nat.mul_le_mul_right d (show a / d + 2 ≤ n by omega)
    rw [Nat.add_mul] at this
    omega
  unfold roundHalfEven
  rcases Nat.lt_or_ge (a / d) n with hup | hdown
  · have hn : n = a / d + 1 := by omega
    rw [hn, Nat.add_mul] at hlow' hodd'
    simp only
    split
    · omega
    split
    · exact hn.symm
    split <;> omega
  · have hn : n = a / d := by omega
    rw [hn] at hhigh' hodd'
    simp only
    split
    · exact hn.symm
    split
    · omega
    split <;> omega

/-! ### The interval of a quantity -/

/-- The rational number of a quantity, but for its sign. -/
def Binary.toRat (b : Binary) : ℚ := b.significand * 2 ^ b.exponent

/-- The lower end of the interval that rounds to a quantity. -/
def Binary.lower (b : Binary) : ℚ :=
  (b.significand - if b.narrowBelow then 1 / 4 else 1 / 2) * 2 ^ b.exponent

/-- Its upper end. -/
def Binary.upper (b : Binary) : ℚ := (b.significand + 1 / 2) * 2 ^ b.exponent

/-- The rational number `v` rounds to the quantity `b`. -/
structure Binary.Rounds (b : Binary) (v : ℚ) : Prop where
  lower_le : b.lower ≤ v
  le_upper : v ≤ b.upper
  inside : b.significand % 2 = 1 → b.lower < v ∧ v < b.upper

namespace Binary

variable {b : Binary} {v : ℚ} {e : ℤ}

/-- The lower end is half a unit away, or less. -/
theorem half_le_lower (b : Binary) : (b.significand - 1 / 2) * 2 ^ b.exponent ≤ b.lower := by
  refine mul_le_mul_of_nonneg_right ?_ (two_zpow_pos _).le
  split <;> linarith

theorem lower_pos (hpos : 0 < b.significand) : 0 < b.lower := by
  refine lt_of_lt_of_le (mul_pos ?_ (two_zpow_pos _)) b.half_le_lower
  have : (1 : ℚ) ≤ b.significand := by exact_mod_cast hpos
  linarith

/-- No interval reaches below half the least float. -/
theorem le_lower (hb : b.Fits) (hpos : 0 < b.significand) : 1 / 2 ^ 1075 ≤ b.lower := by
  refine le_trans ?_ b.half_le_lower
  have hsig : (1 : ℚ) ≤ b.significand := by exact_mod_cast hpos
  calc (1 : ℚ) / 2 ^ 1075 = 1 / 2 * 2 ^ (-1074 : ℤ) := by
        rw [show (-1074 : ℤ) = -((1074 : ℕ) : ℤ) by norm_num, zpow_neg, zpow_natCast,
          show (1075 : ℕ) = 1074 + 1 by norm_num, pow_succ, one_div, one_div, mul_inv, mul_comm]
    _ ≤ (b.significand - 1 / 2) * 2 ^ b.exponent :=
        mul_le_mul (by linarith) (two_zpow_le hb.least_le) (two_zpow_pos _).le (by linarith)

/-- No interval reaches above twice the greatest power of two. -/
theorem upper_le (hb : b.Fits) : b.upper ≤ 2 ^ 1024 := by
  have hsig : (b.significand : ℚ) + 1 ≤ 2 ^ 53 := by exact_mod_cast hb.significand_lt
  calc b.upper ≤ 2 ^ 53 * 2 ^ (971 : ℤ) :=
        mul_le_mul (by linarith) (two_zpow_le hb.le_greatest) (two_zpow_pos _).le (by positivity)
    _ = 2 ^ 1024 := by
        rw [show (971 : ℤ) = ((971 : ℕ) : ℤ) by norm_num, zpow_natCast, ← pow_add]

/-- The exponent chosen for a number in the interval of `b` is that of `b`, or the next smaller one
below the least significand. -/
theorem Rounds.exponent_cases (h : b.Rounds v) (hb : b.Fits) (hleast : -1074 ≤ e)
    (hlt : v < 2 ^ 53 * 2 ^ e) (hge : e = -1074 ∨ 2 ^ 52 * 2 ^ e ≤ v) :
    e = b.exponent ∨ e = b.exponent - 1 ∧ b.significand = 2 ^ 52 ∧ b.narrowBelow = true := by
  have hu := two_zpow_pos b.exponent
  have hlow := b.half_le_lower.trans h.lower_le
  have hhigh := h.le_upper
  rw [upper] at hhigh
  rcases lt_trichotomy e b.exponent with hlt' | heq | hgt
  · have hstep := two_zpow_pred b.exponent
    have hmono := two_zpow_le (show e ≤ b.exponent - 1 by omega)
    have hnormal : 2 ^ 52 ≤ b.significand := by
      rcases hb.normal with hn | hn
      · exact hn
      · omega
    have hsig : b.significand = 2 ^ 52 := by
      by_contra hne
      have hm : (2 ^ 52 + 1 : ℚ) ≤ b.significand := by
        exact_mod_cast (show 2 ^ 52 + 1 ≤ b.significand by omega)
      have := mul_le_mul_of_nonneg_right hm hu.le
      linarith
    have hnarrow : b.narrowBelow = true := by
      simp only [narrowBelow, hsig, Nat.pow_eq, Bool.and_eq_true, beq_iff_eq, decide_eq_true_eq,
        true_and]
      omega
    refine .inr ⟨?_, hsig, hnarrow⟩
    by_contra hne
    have hmono' := two_zpow_le (show e ≤ b.exponent - 1 - 1 by omega)
    have hstep' := two_zpow_pred (b.exponent - 1)
    rw [hsig] at hlow
    push_cast at hlow
    linarith
  · exact .inl heq
  · exfalso
    have hge' := hge.resolve_left (by have := hb.least_le; omega)
    have hmono := two_zpow_le (show b.exponent + (1 : ℕ) ≤ e by push_cast; omega)
    rw [two_zpow_add] at hmono
    have hm : (b.significand : ℚ) ≤ 2 ^ 53 - 1 := by
      have := hb.significand_lt
      have hcast : (b.significand : ℚ) + 1 ≤ 2 ^ 53 := by exact_mod_cast this
      linarith
    have := mul_le_mul_of_nonneg_right hm hu.le
    linarith

/-- Measured with the exponent of `b`, a quotient in its interval rounds to its significand. -/
theorem Rounds.roundHalfEven_eq {num den : ℕ} (h : b.Rounds (num / den)) (hden : 0 < den) :
    roundHalfEven (num * 2 ^ (-b.exponent).toNat) (den * 2 ^ b.exponent.toNat) =
      b.significand := by
  have hu := two_zpow_pos b.exponent
  apply Number.roundHalfEven_eq (Nat.mul_pos hden (Nat.two_pow_pos _)) <;> rw [scaled_quotient]
  · rw [le_div_iff₀ hu]
    exact b.half_le_lower.trans h.lower_le
  · rw [div_le_iff₀ hu]
    exact h.le_upper
  · intro hodd
    rw [lt_div_iff₀ hu, div_lt_iff₀ hu]
    exact ⟨b.half_le_lower.trans_lt (h.inside hodd).1, (h.inside hodd).2⟩

/-- Measured with the next smaller exponent, it rounds up to the least significand of `b`. -/
theorem Rounds.roundHalfEven_narrow {num den : ℕ} (h : b.Rounds (num / den)) (hden : 0 < den)
    (he : e = b.exponent - 1) (hsig : b.significand = 2 ^ 52) (hnarrow : b.narrowBelow = true)
    (hlt : (num : ℚ) / den < 2 ^ 53 * 2 ^ e) :
    roundHalfEven (num * 2 ^ (-e).toNat) (den * 2 ^ e.toNat) = 2 ^ 53 := by
  have hu := two_zpow_pos e
  have hstep : (2 : ℚ) ^ b.exponent = 2 * 2 ^ e := by
    rw [he, ← two_zpow_pred]
  apply Number.roundHalfEven_eq (Nat.mul_pos hden (Nat.two_pow_pos _))
  · rw [scaled_quotient, le_div_iff₀ hu]
    have hlow := h.lower_le
    rw [lower, hsig, hnarrow, if_pos rfl, hstep] at hlow
    push_cast at hlow ⊢
    linarith
  · rw [scaled_quotient, div_le_iff₀ hu]
    push_cast
    linarith
  · intro hodd
    omega

end Binary

/-- A quotient rounds to the quantity in whose interval it lies. -/
theorem nearestBits_eq {b : Binary} {num den : ℕ} (hb : b.Fits) (hpos : 0 < b.significand)
    (hden : 0 < den) (h : b.Rounds (num / den)) : nearestBits num den = b.magnitudeWord := by
  have hnum : 0 < num := by
    rcases Nat.eq_zero_or_pos num with h0 | h0
    · have := (Binary.lower_pos hpos).trans_le h.lower_le
      rw [h0] at this
      simp at this
    · exact h0
  obtain ⟨hleast, hlt, hge⟩ := scaleOf_spec hnum hden
  have hcases := h.exponent_cases hb hleast hlt hge
  have hgreatest := hb.le_greatest
  simp only [nearestBits, if_neg hnum.ne', Nat.pow_eq]
  generalize scaleOf num den = e at *
  rcases hcases with rfl | ⟨he, hsig, hnarrow⟩
  · rw [h.roundHalfEven_eq hden, Binary.magnitudeWord]
    split
    · rfl
    · have hsignificand := hb.significand_lt
      omega
  · rw [h.roundHalfEven_narrow hden he hsig hnarrow hlt, Binary.magnitudeWord, hsig]
    have hfits := hb.least_le
    rw [if_neg (by decide), if_neg (by decide)]
    omega

/-- Rounding overflows into infinity and no further. -/
theorem nearestBits_le (num den : ℕ) : nearestBits num den ≤ 2047 * 2 ^ 52 := by
  unfold nearestBits
  split
  · omega
  · simp only [Nat.pow_eq]
    split
    · omega
    · exact min_le_right _ _

/-- A sign can be set before rounding or afterwards. -/
theorem neg_nearestFloat (num den : ℕ) :
    -nearestFloat false num den = nearestFloat true num den := by
  have hle := nearestBits_le num den
  have hneg := neg_ofBits (e := nearestBits num den / 2 ^ 52) (f := nearestBits num den % 2 ^ 52)
    false (by omega) (Nat.mod_lt _ (by decide)) (by omega)
  have hword : ∀ s, wordOf s (nearestBits num den / 2 ^ 52) (nearestBits num den % 2 ^ 52) =
      (if s then 2 ^ 63 else 0) + nearestBits num den := by
    intro s
    rw [wordOf, add_assoc, Nat.div_add_mod']
  rw [hword, hword] at hneg
  exact hneg

/-! ### Decimals -/

/-- The rational number of a decimal. -/
def Decimal.toRat (d : Decimal) : ℚ := d.digits * 10 ^ d.exponent

namespace Decimal

variable {d : Decimal} {b : Binary}

/-- A decimal as a quotient of naturals. -/
theorem toRat_eq_div (d : Decimal) :
    d.toRat =
      ((d.digits * 10 ^ d.exponent.toNat : ℕ) : ℚ) / ((10 ^ (-d.exponent).toNat : ℕ) : ℚ) := by
  have hpow := zpow_eq_div 10 (by decide) d.exponent
  rw [Nat.cast_ofNat] at hpow
  rw [toRat, hpow, mul_div_assoc', ← Nat.cast_mul]

/-- The length of the digits, measured in binary, tells the power of ten up to the bounds between
which decimals are rounded at all.  The factor `30103 / 100000` stands for the logarithm of 2, so
the digits must not be too many: there are no more than the exponent needs. -/
theorem magnitude_between {low high : ℕ} (hdigits : d.digits ≠ 0) (hexp : -1074 ≤ d.exponent)
    (hlow : 1 / 2 ^ low ≤ d.toRat) (hhigh : d.toRat ≤ 2 ^ high) (hl : low ≤ 1075)
    (hh : high ≤ 1024) :
    -400 ≤ ((d.digits.log2 * 30103 / 100000 : ℕ) : ℤ) + d.exponent ∧
      ((d.digits.log2 * 30103 / 100000 : ℕ) : ℤ) + d.exponent ≤ 400 := by
  have hlog := Nat.log2_self_le hdigits
  have hlog' : d.digits < 2 ^ (d.digits.log2 + 1) := Nat.lt_log2_self
  rw [toRat_eq_div] at hlow hhigh
  generalize d.digits.log2 = n at *
  have hden : (0 : ℚ) < ((10 ^ (-d.exponent).toNat : ℕ) : ℚ) := by positivity
  rw [div_le_iff₀ hden] at hhigh
  rw [div_le_div_iff₀ (by positivity) hden, one_mul] at hlow
  have hlow' : 10 ^ (-d.exponent).toNat ≤ d.digits * 10 ^ d.exponent.toNat * 2 ^ low := by
    exact_mod_cast hlow
  have hhigh' : d.digits * 10 ^ d.exponent.toNat ≤ 2 ^ high * 10 ^ (-d.exponent).toNat := by
    exact_mod_cast hhigh
  clear hlow hhigh hden
  rcases Int.le_total 0 d.exponent with hk | hk
  · -- no fraction: two to the third is less than ten
    obtain ⟨k, hk'⟩ := Int.eq_ofNat_of_zero_le hk
    rw [hk', Int.toNat_neg_natCast, Int.toNat_natCast, pow_zero, mul_one] at hhigh'
    have hpow : 2 ^ (n + 3 * k) ≤ 2 ^ high := by
      calc 2 ^ (n + 3 * k) = 2 ^ n * (2 ^ 3) ^ k := by rw [pow_add, pow_mul]
        _ ≤ d.digits * 10 ^ k := Nat.mul_le_mul hlog (Nat.pow_le_pow_left (by decide) k)
        _ ≤ 2 ^ high := hhigh'
    have := (Nat.pow_le_pow_iff_right (by decide)).1 hpow
    omega
  · -- a fraction: ten to the third is less than two to the tenth, and two to the thirteenth is
    -- less than ten to the fourth
    obtain ⟨j, hj⟩ := Int.eq_ofNat_of_zero_le (show 0 ≤ -d.exponent by omega)
    have hone : 10 ^ d.exponent.toNat = 1 := by
      rw [show d.exponent.toNat = 0 by omega, pow_zero]
    rw [hj, Int.toNat_natCast, hone, mul_one] at hlow' hhigh'
    have hupper : 2 ^ (3 * n) ≤ 2 ^ (high * 3 + 10 * j) := by
      calc 2 ^ (3 * n) = (2 ^ n) ^ 3 := by rw [mul_comm, pow_mul]
        _ ≤ (2 ^ high * 10 ^ j) ^ 3 := Nat.pow_le_pow_left (hlog.trans hhigh') 3
        _ = 2 ^ (high * 3) * (10 ^ 3) ^ j := by
            rw [mul_pow, ← pow_mul, ← pow_mul, mul_comm j 3, pow_mul 10]
        _ ≤ 2 ^ (high * 3) * (2 ^ 10) ^ j :=
            Nat.mul_le_mul_left _ (Nat.pow_le_pow_left (by decide) j)
        _ = 2 ^ (high * 3 + 10 * j) := by rw [pow_add, pow_mul 2 10]
    have hlower : 2 ^ (13 * j) ≤ 2 ^ (4 * (n + 1 + low)) := by
      calc 2 ^ (13 * j) = (2 ^ 13) ^ j := by rw [pow_mul]
        _ ≤ (10 ^ 4) ^ j := Nat.pow_le_pow_left (by decide) j
        _ = (10 ^ j) ^ 4 := by rw [← pow_mul, mul_comm, pow_mul]
        _ ≤ (2 ^ (n + 1) * 2 ^ low) ^ 4 :=
            Nat.pow_le_pow_left (hlow'.trans (Nat.mul_le_mul_right _ hlog'.le)) 4
        _ = 2 ^ (4 * (n + 1 + low)) := by rw [← pow_add, ← pow_mul, mul_comm]
    have h1 := (Nat.pow_le_pow_iff_right (by decide)).1 hupper
    have h2 := (Nat.pow_le_pow_iff_right (by decide)).1 hlower
    omega

/-- A decimal rounds to the quantity in whose interval it lies. -/
theorem toFloat_eq (hb : b.Fits) (hpos : 0 < b.significand) (hexp : -1074 ≤ d.exponent)
    (h : b.Rounds d.toRat) : d.toFloat b.negative = b.toFloat := by
  have hlowpos := (Binary.lower_pos hpos).trans_le h.lower_le
  have hdigits : d.digits ≠ 0 := by
    intro h0
    rw [toRat, h0, Nat.cast_zero, zero_mul] at hlowpos
    exact lt_irrefl _ hlowpos
  obtain ⟨hleast, hgreatest⟩ := magnitude_between hdigits hexp
    ((Binary.le_lower hb hpos).trans h.lower_le) (h.le_upper.trans (Binary.upper_le hb))
    le_rfl le_rfl
  rw [toRat_eq_div] at h
  have hbits := nearestBits_eq hb hpos (Nat.pow_pos (by decide)) h
  simp only [toFloat, if_neg hdigits, Nat.pow_eq]
  rw [if_neg (by omega), if_neg (by omega), nearestFloat, hbits]
  rfl

theorem neg_toFloat (d : Decimal) : -d.toFloat false = d.toFloat true := by
  unfold toFloat
  simp only
  split
  · exact neg_nearestFloat 0 1
  split
  · exact neg_ofBits false (e := 2047) (f := 0) (by decide) (by decide) (.inr rfl)
  split
  · exact neg_nearestFloat 0 1
  · exact neg_nearestFloat _ _

/-- Without digits other than zero a decimal is a zero of its sign. -/
theorem toFloat_zero (hzero : d.digits = 0) (negative : Bool) :
    d.toFloat negative = Binary.toFloat ⟨negative, 0, -1074⟩ := by
  rw [toFloat, if_pos hzero]
  rfl

end Decimal

end Number
end FormLogic
