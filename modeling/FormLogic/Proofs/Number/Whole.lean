import FormLogic.Proofs.Number.Layout

/-!
# FormLogic.Proofs.Number.Whole

Natural numbers of at most 53 binary digits as floats.

* `Binary.ofNat`: such a number with its significand filled up to 53 digits;
* `Binary.toFloat_ofNat`, `Binary.ofFloat_ofNat`: it is the quantity of the nearest float;
* `Binary.shortest_ofNat`: its shortest digits have no fraction and denote the number;
* `render_ofNat`: so the plain text of the float is digits of the number behind the sign.

The search for the shortest digits tries coarse grids first.  The grid of the natural numbers is
among those it tries, and has the number itself, so nothing finer is taken; and the reals that round
to the number reach at most a half to either side, so a coarser grid has no other point among them.
-/

namespace FormLogic
namespace Number

/-! ### Significands of 53 digits -/

/-- A natural number as a quantity whose significand has 53 binary digits. -/
def Binary.ofNat (negative : Bool) (n : ℕ) : Binary :=
  ⟨negative, n * 2 ^ (52 - n.log2), n.log2 - 52⟩

namespace Binary

variable {n : ℕ} {b : Binary} {d : Decimal} {tie : Tie} {k : ℤ}

theorem hasFields_toFloat (hb : b.Fits) (hnormal : 2 ^ 52 ≤ b.significand) :
    HasFields b.toFloat.toBits.toNat b.negative (b.exponent + 1075).toNat
      (b.significand - 2 ^ 52) := by
  have hlt := hb.significand_lt
  have hleast := hb.least_le
  have hgreatest := hb.le_greatest
  have hword : b.toFloat = Float.ofBits (UInt64.ofNat
      (wordOf b.negative (b.exponent + 1075).toNat (b.significand - 2 ^ 52))) := by
    rw [toFloat, magnitudeWord, if_neg (show ¬ b.significand < 2 ^ 52 by omega), wordOf,
      Nat.add_assoc]
  rw [hword]
  exact hasFields_ofBits b.negative (by omega) (by omega) (.inl (by omega))

theorem ofFloat_toFloat (hb : b.Fits) (hnormal : 2 ^ 52 ≤ b.significand) :
    ofFloat b.toFloat = b := by
  have hleast := hb.least_le
  rw [ofFloat_eq (hasFields_toFloat hb hnormal), ofFields, if_neg (by omega),
    Nat.add_sub_cancel' hnormal, Int.toNat_of_nonneg (by omega), Int.add_sub_cancel]

theorem isFinite_toFloat (hb : b.Fits) (hnormal : 2 ^ 52 ≤ b.significand) :
    b.toFloat.isFinite = true := by
  have hgreatest := hb.le_greatest
  rw [isFinite_eq (hasFields_toFloat hb hnormal)]
  exact decide_eq_true (by omega)

theorem log2_le (hpos : 0 < n) (hn : n < 2 ^ 53) : n.log2 ≤ 52 :=
  Nat.le_of_lt_succ ((Nat.log2_lt hpos.ne').2 hn)

theorem le_significand_ofNat (negative : Bool) (hpos : 0 < n) (hn : n < 2 ^ 53) :
    2 ^ 52 ≤ (ofNat negative n).significand ∧ (ofNat negative n).significand < 2 ^ 53 := by
  have hlog := log2_le hpos hn
  have hscale : 0 < 2 ^ (52 - n.log2) := Nat.two_pow_pos _
  constructor
  · calc 2 ^ 52 = 2 ^ n.log2 * 2 ^ (52 - n.log2) := by rw [← pow_add, Nat.add_sub_cancel' hlog]
      _ ≤ n * 2 ^ (52 - n.log2) := Nat.mul_le_mul_right _ (Nat.log2_self_le hpos.ne')
  · calc n * 2 ^ (52 - n.log2) < 2 ^ (n.log2 + 1) * 2 ^ (52 - n.log2) :=
          Nat.mul_lt_mul_of_pos_right Nat.lt_log2_self hscale
      _ = 2 ^ 53 := by rw [← pow_add]; congr 1; omega

theorem ofNat_fits (negative : Bool) (hpos : 0 < n) (hn : n < 2 ^ 53) :
    (ofNat negative n).Fits := by
  have hlog := log2_le hpos hn
  obtain ⟨hle, hlt⟩ := le_significand_ofNat negative hpos hn
  exact ⟨hlt, by simp only [ofNat]; omega, by simp only [ofNat]; omega, .inl hle⟩

theorem toRat_ofNat (negative : Bool) (hpos : 0 < n) (hn : n < 2 ^ 53) :
    (ofNat negative n).toRat = n := by
  obtain ⟨j, hj⟩ := Nat.exists_eq_add_of_le (log2_le hpos hn)
  have hexp : (n.log2 : ℤ) - 52 = -(j : ℤ) := by omega
  have hscale : 52 - n.log2 = j := by omega
  simp only [toRat, ofNat, hscale, hexp, zpow_neg, zpow_natCast]
  push_cast
  field_simp

/-- A natural number of at most 53 binary digits is a float without rounding. -/
theorem toFloat_ofNat (negative : Bool) (hpos : 0 < n) (hn : n < 2 ^ 53) :
    nearestFloat negative n 1 = (ofNat negative n).toFloat := by
  have hrounds := (ofNat negative n).rounds_toRat
  rw [toRat_ofNat negative hpos hn] at hrounds
  have hsig := (le_significand_ofNat negative hpos hn).1
  have hbits : nearestBits n 1 = _ := nearestBits_eq (ofNat_fits negative hpos hn) (by omega)
    one_pos (by rwa [Nat.cast_one, div_one])
  rw [nearestFloat, hbits]
  rfl

theorem ofFloat_ofNat (negative : Bool) (hpos : 0 < n) (hn : n < 2 ^ 53) :
    ofFloat (nearestFloat negative n 1) = ofNat negative n := by
  rw [toFloat_ofNat negative hpos hn]
  exact ofFloat_toFloat (ofNat_fits negative hpos hn) (le_significand_ofNat negative hpos hn).1

/-! ### Their shortest digits -/

/-- The power of ten above a quantity from 1 to `10 ^ 17` is at least 1 and at most 17, if it is
searched for from about there. -/
theorem scaleFrom_between (hone : 1 ≤ b.toRat) (hlt : b.toRat < 10 ^ (17 : ℤ)) {fuel : ℕ}
    (hfuel : 1 ≤ k + fuel) (hk : k ≤ 17) :
    1 ≤ b.scaleFrom fuel k ∧ b.scaleFrom fuel k ≤ 17 := by
  induction fuel generalizing k with
  | zero => exact ⟨by rw [scaleFrom]; simpa using hfuel, by rwa [scaleFrom]⟩
  | succ fuel ih =>
    have habove : (compareScaled 1 k b.significand b.exponent == .gt) = true ↔
        b.toRat < 10 ^ k := by
      rw [compareScaled_eq, Nat.cast_one, one_mul, beq_iff_eq, compare_gt_iff_gt]
      rfl
    rw [scaleFrom]
    split
    · rename_i h
      rw [habove] at h
      refine ⟨?_, hk⟩
      by_contra hzero
      have hsmall : (10 : ℚ) ^ k ≤ 10 ^ (0 : ℤ) := zpow_le_zpow_right₀ (by norm_num) (by omega)
      rw [zpow_zero] at hsmall
      linarith
    · rename_i h
      rw [habove] at h
      refine ih (by push_cast at hfuel ⊢; omega) ?_
      by_contra hlarge
      have hmono : (10 : ℚ) ^ (17 : ℤ) ≤ 10 ^ k := zpow_le_zpow_right₀ (by norm_num) (by omega)
      linarith

theorem scale_ofNat (negative : Bool) (hpos : 0 < n) (hn : n < 2 ^ 53) :
    1 ≤ (ofNat negative n).scale ∧ (ofNat negative n).scale ≤ 17 := by
  obtain ⟨hle, hlt⟩ := le_significand_ofNat negative hpos hn
  have hlog := log2_le hpos hn
  have hsig : (ofNat negative n).significand.log2 = 52 :=
    (Nat.log2_eq_iff (by omega)).2 ⟨hle, hlt⟩
  have hrat := toRat_ofNat negative hpos hn
  have hone : (1 : ℚ) ≤ n := by exact_mod_cast hpos
  have hlarge : (n : ℚ) < 10 ^ (17 : ℤ) := by
    have : (n : ℚ) < 2 ^ 53 := by exact_mod_cast hn
    norm_num at this ⊢
    linarith
  have hexp : (ofNat negative n).exponent = n.log2 - 52 := rfl
  simp only [scale, hsig, hexp]
  exact scaleFrom_between (hrat ▸ hone) (hrat ▸ hlarge) (by omega) (by omega)

/-- The grid of the natural numbers has the number itself. -/
theorem isSome_onGrid?_ofNat (negative : Bool) (tie : Tie) (hpos : 0 < n) (hn : n < 2 ^ 53) :
    ((ofNat negative n).onGrid? tie 0).isSome := by
  have hlog := log2_le hpos hn
  have hfloor : (ofNat negative n).gridFloor 0 = n := by
    have hup : (n.log2 - 52 : ℤ).toNat = 0 := by omega
    have hdown : (-(n.log2 - 52 : ℤ)).toNat = 52 - n.log2 := by omega
    simp only [gridFloor, ofNat, hup, hdown, Nat.pow_eq, neg_zero, Int.toNat_zero, pow_zero,
      mul_one]
    exact Nat.mul_div_cancel _ (Nat.two_pow_pos _)
  have hsig := (le_significand_ofNat negative hpos hn).1
  have hreads : (ofNat negative n).readsBack ⟨n, 0⟩ = true := by
    rw [readsBack_iff (by omega), Decimal.toRat, zpow_zero, mul_one,
      ← toRat_ofNat negative hpos hn]
    exact rounds_toRat _
  simp only [onGrid?, hfloor, hreads]
  split
  · rename_i h _; cases h
  · rfl
  · rename_i h _; cases h
  · split <;> rfl

/-- A decimal without fraction that rounds to the number is the number. -/
theorem toRat_of_rounds_ofNat {negative : Bool} (hpos : 0 < n) (hn : n < 2 ^ 53)
    (hexp : 0 ≤ d.exponent) (h : (ofNat negative n).Rounds d.toRat) : d.toRat = n := by
  have hunit : (2 : ℚ) ^ (ofNat negative n).exponent ≤ 1 := by
    have hlog := log2_le hpos hn
    have hmono := two_zpow_le (show (ofNat negative n).exponent ≤ 0 by simp only [ofNat]; omega)
    rwa [zpow_zero] at hmono
  obtain ⟨e, he⟩ := Int.eq_ofNat_of_zero_le hexp
  have hwhole : d.toRat = ((d.digits * 10 ^ e : ℕ) : ℚ) := by
    rw [Decimal.toRat, he, zpow_natCast]
    push_cast
    rfl
  have hrat := toRat_ofNat negative hpos hn
  rw [toRat] at hrat
  have hlow := (half_le_lower _).trans h.lower_le
  have hhigh := h.le_upper
  rw [upper, add_mul, hrat] at hhigh
  rw [sub_mul, hrat] at hlow
  rw [hwhole] at hlow hhigh ⊢
  generalize d.digits * 10 ^ e = m at *
  have hle : m < n + 1 := by
    have : (m : ℚ) < n + 1 := by linarith
    exact_mod_cast this
  have hge : n < m + 1 := by
    have : (n : ℚ) < m + 1 := by linarith
    exact_mod_cast this
  rw [show m = n by omega]

/-- The shortest digits of the number have no fraction and denote the number. -/
theorem shortest_ofNat (negative : Bool) (hpos : 0 < n) (hn : n < 2 ^ 53) (tie : Tie) :
    0 ≤ ((ofNat negative n).shortest tie).exponent ∧
      ((ofNat negative n).shortest tie).toRat = n := by
  have hsig := (le_significand_ofNat negative hpos hn).1
  obtain ⟨hlow, hhigh⟩ := scale_ofNat negative hpos hn
  have hgrid := isSome_onGrid?_ofNat negative tie hpos hn
  have hrounds := shortest_rounds (ofNat_fits negative hpos hn) (by omega) tie
  suffices hexp : 0 ≤ ((ofNat negative n).shortest tie).exponent from
    ⟨hexp, toRat_of_rounds_ofNat hpos hn hexp hrounds⟩
  rw [shortest, if_neg (by omega)]
  refine le_trans ?_ (Decimal.le_trim_exponent _ _)
  obtain ⟨i, hi⟩ := Int.eq_ofNat_of_zero_le (show 0 ≤ (ofNat negative n).scale - 1 by omega)
  -- the grid of the natural numbers is the one with the index `i`
  have hsplit : List.range 17 = List.range (i + 1) ++ (List.range (16 - i)).map (i + 1 + ·) := by
    rw [show 17 = (i + 1) + (16 - i) by omega, List.range_add]
  have hsome : ((List.range (i + 1)).findSome? fun m : ℕ =>
      (ofNat negative n).onGrid? tie ((ofNat negative n).scale - m - 1)).isSome := by
    rw [List.findSome?_isSome_iff]
    refine ⟨i, by simp, ?_⟩
    rw [show (ofNat negative n).scale - (i : ℤ) - 1 = 0 by omega]
    exact hgrid
  obtain ⟨d', hd'⟩ := Option.isSome_iff_exists.1 hsome
  obtain ⟨m, hm, honGrid⟩ := List.exists_of_findSome?_eq_some hd'
  simp only [hsplit, List.findSome?_append, hd', Option.some_or, Option.getD_some]
  rw [(readsBack_of_onGrid? honGrid).2]
  have := List.mem_range.1 hm
  omega

end Binary

/-! ### Their texts -/

theorem isFinite_nearestFloat (negative : Bool) {n : ℕ} (hpos : 0 < n) (hn : n < 2 ^ 53) :
    (nearestFloat negative n 1).isFinite = true := by
  rw [Binary.toFloat_ofNat negative hpos hn]
  exact Binary.isFinite_toFloat (Binary.ofNat_fits negative hpos hn)
    (Binary.le_significand_ofNat negative hpos hn).1

theorem nearestFloat_ne_zero (negative : Bool) {n : ℕ} (hpos : 0 < n) (hn : n < 2 ^ 53) :
    (nearestFloat negative n 1 == 0.0) = false := by
  rw [← Bool.not_eq_true]
  intro hzero
  have hsig := (Binary.le_significand_ofNat negative hpos hn).1
  rw [← Binary.ofFloat_ofNat negative hpos hn] at hsig
  have hplus : (Binary.ofFloat 0.0).significand = 0 := by decide +kernel
  have hplus' : (Binary.ofFloat 0).significand = 0 := by decide +kernel
  have hminus : (Binary.ofFloat (-0)).significand = 0 := by decide +kernel
  obtain ⟨-, -, heq | ⟨heq, -⟩ | ⟨heq, -⟩⟩ := Float.beq_iff_ne_nan_and_eq.1 hzero <;>
    rw [heq] at hsig <;> omega

/-- The plain text of the float nearest to a natural number of at most 53 binary digits: digits that
denote the number, behind a sign if it is negative. -/
theorem render_ofNat (negative : Bool) {n : ℕ} (hpos : 0 < n) (hn : n < 2 ^ 53) :
    ∃ digits, digits ≠ [] ∧ (∀ c ∈ digits, c.isDigit = true) ∧ natOfDigits digits = n ∧
      (plain.render (nearestFloat negative n 1)).toList =
        (if negative then ['-'] else []) ++ digits := by
  have hquantity := Binary.ofFloat_ofNat negative hpos hn
  obtain ⟨hexp, hrat⟩ := Binary.shortest_ofNat negative hpos hn .upper
  have hfinite := isFinite_nearestFloat negative hpos hn
  have hnegative : isNegative (nearestFloat negative n 1) = negative := by
    rw [← Binary.negative_ofFloat, hquantity]
    rfl
  obtain ⟨k, hk⟩ := Int.eq_ofNat_of_zero_le hexp
  refine ⟨Nat.toDigits 10 ((Binary.ofNat negative n).shortest .upper).digits ++ zeros k,
    by simp [Nat.toDigits_ne_nil], fun c hc => ?_, ?_, ?_⟩
  · rcases List.mem_append.1 hc with hc | hc
    · exact isDigit_of_mem_toDigits hc
    · exact isDigit_of_mem_zeros hc
  · rw [natOfDigits_append_zeros, natOfDigits_toDigits]
    rw [Decimal.toRat, hk, zpow_natCast] at hrat
    exact_mod_cast hrat
  · rw [Layout.render, isNaN_of_isFinite hfinite, isInf_of_isFinite hfinite, if_neg (by simp),
      if_neg (by simp), String.toList_append, String.toList_ofList, hquantity, hnegative,
      Layout.renderDecimal, plain, placePoint, if_pos hexp, hk]
    cases negative <;> simp

end Number
end FormLogic
