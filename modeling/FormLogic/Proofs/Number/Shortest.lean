import FormLogic.Number.Shortest
import FormLogic.Proofs.Number.Nearest

/-!
# FormLogic.Proofs.Number.Shortest

The shortest digits of a float denote it.

* `compareScaled_eq`: the comparison without fractions is that of rational numbers;
* `Binary.readsBack_iff`: the test of the search is `Binary.Rounds`;
* `Binary.shortest_rounds`: what the search finds rounds to the float again, whichever of two
  equally near points is taken;
* `Binary.toFloat_shortest`: so the digits denote the float.
-/

namespace FormLogic
namespace Number

theorem compareScaled_eq (a : ℕ) (i : ℤ) (n : ℕ) (j : ℤ) :
    compareScaled a i n j = compare ((a : ℚ) * 10 ^ i) (n * 2 ^ j) := by
  have htwo := zpow_eq_div 2 two_ne_zero j
  have hten := zpow_eq_div 10 (by decide) i
  rw [Nat.cast_two] at htwo
  rw [Nat.cast_ofNat] at hten
  obtain ⟨scale, hscale⟩ : ∃ scale : ℚ,
      scale = ((2 ^ (-j).toNat : ℕ) : ℚ) * ((10 ^ (-i).toNat : ℕ) : ℚ) := ⟨_, rfl⟩
  have hpos : 0 < scale := by rw [hscale]; positivity
  have hleft : ((a * 10 ^ i.toNat * 2 ^ (-j).toNat : ℕ) : ℚ) = a * 10 ^ i * scale := by
    rw [hten, hscale]; push_cast; field_simp
  have hright : ((n * 2 ^ j.toNat * 10 ^ (-i).toNat : ℕ) : ℚ) = n * 2 ^ j * scale := by
    rw [htwo, hscale]; push_cast; field_simp
  simp only [compareScaled, Nat.pow_eq]
  generalize a * 10 ^ i.toNat * 2 ^ (-j).toNat = p at hleft
  generalize n * 2 ^ j.toNat * 10 ^ (-i).toNat = q at hright
  rcases lt_trichotomy ((a : ℚ) * 10 ^ i) (n * 2 ^ j) with h | h | h
  · rw [compare_lt_iff_lt.2 h, Nat.compare_eq_lt, ← Nat.cast_lt (α := ℚ), hleft, hright]
    exact mul_lt_mul_of_pos_right h hpos
  · rw [compare_eq_iff_eq.2 h, Nat.compare_eq_eq, ← Nat.cast_inj (R := ℚ), hleft, hright, h]
  · rw [compare_gt_iff_gt.2 h, Nat.compare_eq_gt, ← Nat.cast_lt (α := ℚ), hleft, hright]
    exact mul_lt_mul_of_pos_right h hpos

/-- The test for being above a bound, which itself passes when the interval is closed. -/
theorem above_iff {x y : ℚ} {closed : Bool} :
    (compare x y == .gt || closed && compare x y == .eq) = true ↔
      y ≤ x ∧ (closed = false → y < x) := by
  rcases lt_trichotomy x y with h | h | h
  · rw [compare_lt_iff_lt.2 h]; cases closed <;> simp [h.not_ge]
  · rw [compare_eq_iff_eq.2 h]; cases closed <;> simp [h]
  · rw [compare_gt_iff_gt.2 h]; cases closed <;> simp [h, h.le]

theorem below_iff {x y : ℚ} {closed : Bool} :
    (compare x y == .lt || closed && compare x y == .eq) = true ↔
      x ≤ y ∧ (closed = false → x < y) := by
  rcases lt_trichotomy x y with h | h | h
  · rw [compare_lt_iff_lt.2 h]; cases closed <;> simp [h, h.le]
  · rw [compare_eq_iff_eq.2 h]; cases closed <;> simp [h]
  · rw [compare_gt_iff_gt.2 h]; cases closed <;> simp [h.not_ge]

namespace Decimal

theorem trim_toRat (fuel : ℕ) (d : Decimal) : (d.trim fuel).toRat = d.toRat := by
  induction fuel generalizing d with
  | zero => rfl
  | succ fuel ih =>
    rw [trim]
    split
    · rename_i h
      have hdigits : (d.digits : ℚ) = (d.digits / 10 : ℕ) * 10 := by
        exact_mod_cast (Nat.div_mul_cancel (Nat.dvd_of_mod_eq_zero h.2)).symm
      rw [ih, toRat, toRat, hdigits, zpow_add_one₀ (by norm_num)]
      ring
    · rfl

theorem le_trim_exponent (fuel : ℕ) (d : Decimal) : d.exponent ≤ (d.trim fuel).exponent := by
  induction fuel generalizing d with
  | zero => exact le_rfl
  | succ fuel ih =>
    rw [trim]
    split
    · exact (ih _).trans' (by simp)
    · exact le_rfl

end Decimal

namespace Binary

variable {b : Binary} {d : Decimal} {tie : Tie} {e : ℤ}

theorem quarter_unit (b : Binary) : (2 : ℚ) ^ b.exponent = 4 * 2 ^ (b.exponent - 2) := by
  conv_lhs => rw [show b.exponent = b.exponent - 2 + (2 : ℕ) by simp, two_zpow_add]
  norm_num

/-- The test of the search on a decimal is a statement about its value. -/
theorem readsBack_iff (hpos : 0 < b.significand) : b.readsBack d = true ↔ b.Rounds d.toRat := by
  have hlow : ((if b.narrowBelow then 4 * b.significand - 1 else 4 * b.significand - 2 : ℕ) : ℚ) *
      2 ^ (b.exponent - 2) = b.lower := by
    rw [lower, quarter_unit]
    split
    · rw [Nat.cast_sub (by omega)]; push_cast; ring
    · rw [Nat.cast_sub (by omega)]; push_cast; ring
  have hhigh : ((4 * b.significand + 2 : ℕ) : ℚ) * 2 ^ (b.exponent - 2) = b.upper := by
    rw [upper, quarter_unit]; push_cast; ring
  have hclosed : (b.significand % 2 == 0) = false ↔ b.significand % 2 = 1 := by
    rw [beq_eq_false_iff_ne]; omega
  simp only [readsBack, compareScaled_eq, hlow, hhigh, Bool.and_eq_true, above_iff, below_iff,
    hclosed, Decimal.toRat]
  constructor
  · rintro ⟨⟨hl, hl'⟩, hh, hh'⟩
    exact ⟨hl, hh, fun hodd => ⟨hl' hodd, hh' hodd⟩⟩
  · rintro ⟨hl, hh, hodd⟩
    exact ⟨⟨hl, fun h => (hodd h).1⟩, hh, fun h => (hodd h).2⟩

/-- A point that the search takes from a grid has passed the test. -/
theorem readsBack_of_onGrid? (h : b.onGrid? tie e = some d) :
    b.readsBack d = true ∧ d.exponent = e := by
  simp only [onGrid?] at h
  split at h
  · cases h
  · cases h; exact ⟨by assumption, rfl⟩
  · cases h; exact ⟨by assumption, rfl⟩
  · split at h
    · cases h; exact ⟨by assumption, rfl⟩
    · cases h; exact ⟨by assumption, rfl⟩
    · split at h <;> (cases h; exact ⟨by assumption, rfl⟩)

/-- The search for the power of ten only goes up. -/
theorem le_scaleFrom (b : Binary) (fuel : ℕ) (k : ℤ) : k ≤ b.scaleFrom fuel k := by
  induction fuel generalizing k with
  | zero => exact le_rfl
  | succ fuel ih =>
    rw [scaleFrom]
    split
    · exact le_rfl
    · exact (ih (k + 1)).trans' (by omega)

theorem le_scale (hb : b.Fits) : -400 ≤ b.scale := by
  have hleast := hb.least_le
  refine le_trans ?_ (b.le_scaleFrom 4 _)
  omega

theorem exact_toRat (b : Binary) : b.exact.toRat = b.toRat := by
  unfold exact Decimal.toRat toRat
  split
  · rename_i h
    obtain ⟨n, hn⟩ := Int.eq_ofNat_of_zero_le h
    simp [hn]
  · rename_i h
    obtain ⟨n, hn⟩ := Int.eq_ofNat_of_zero_le (show 0 ≤ -b.exponent by omega)
    have hten : (10 : ℚ) ^ b.exponent = 2 ^ b.exponent * 5 ^ b.exponent := by
      rw [← mul_zpow]; norm_num
    have hfive : ((5 ^ n : ℕ) : ℚ) * 5 ^ b.exponent = 1 := by
      rw [show b.exponent = -(n : ℤ) by omega, zpow_neg, zpow_natCast]
      push_cast
      exact mul_inv_cancel₀ (by positivity)
    simp only [hn, Int.toNat_natCast, Nat.pow_eq]
    calc ((b.significand * 5 ^ n : ℕ) : ℚ) * 10 ^ b.exponent
        = b.significand * 2 ^ b.exponent * (((5 ^ n : ℕ) : ℚ) * 5 ^ b.exponent) := by
          rw [hten, Nat.cast_mul]; ring
      _ = b.significand * 2 ^ b.exponent := by rw [hfive, mul_one]

theorem rounds_toRat (b : Binary) : b.Rounds b.toRat := by
  have hu := two_zpow_pos b.exponent
  have hlow : b.lower < b.toRat := by
    refine mul_lt_mul_of_pos_right ?_ hu
    split <;> linarith
  have hhigh : b.toRat < b.upper := mul_lt_mul_of_pos_right (by linarith) hu
  exact ⟨hlow.le, hhigh.le, fun _ => ⟨hlow, hhigh⟩⟩

/-- The decimal before its zeros at the end are moved: a point of a grid that passed the test, or
the quantity itself. -/
theorem rounds_of_found (hb : b.Fits) (hpos : 0 < b.significand)
    (hd : d =
      ((List.range 17).findSome? fun n : ℕ => b.onGrid? tie (b.scale - n - 1)).getD b.exact) :
    b.Rounds d.toRat ∧ -1074 ≤ d.exponent := by
  have hscale := le_scale hb
  cases hfound : (List.range 17).findSome? fun n : ℕ => b.onGrid? tie (b.scale - n - 1) with
  | none =>
    rw [hfound, Option.getD_none] at hd
    subst hd
    rw [exact_toRat]
    refine ⟨b.rounds_toRat, ?_⟩
    unfold exact
    split
    · simp
    · exact hb.least_le
  | some d' =>
    rw [hfound, Option.getD_some] at hd
    subst hd
    obtain ⟨n, hn, hgrid⟩ := List.exists_of_findSome?_eq_some hfound
    obtain ⟨hreads, hexp⟩ := readsBack_of_onGrid? hgrid
    have hlt := List.mem_range.1 hn
    exact ⟨(readsBack_iff hpos).1 hreads, by omega⟩

/-- What the search finds rounds to the quantity it was started with. -/
theorem shortest_rounds (hb : b.Fits) (hpos : 0 < b.significand) (tie : Tie) :
    b.Rounds (b.shortest tie).toRat := by
  simp only [shortest, if_neg hpos.ne', Decimal.trim_toRat]
  exact (rounds_of_found hb hpos rfl).1

theorem le_shortest_exponent (hb : b.Fits) (tie : Tie) : -1074 ≤ (b.shortest tie).exponent := by
  rw [shortest]
  split
  · simp
  · rename_i hne
    exact (rounds_of_found hb (Nat.pos_of_ne_zero hne) rfl).2.trans (Decimal.le_trim_exponent _ _)

/-- The shortest digits denote the float they stand for, and so does every other decimal of the
same value. -/
theorem toFloat_shortest (hb : b.Fits) (hvalue : d.toRat = (b.shortest tie).toRat)
    (hexp : -1074 ≤ d.exponent) : d.toFloat b.negative = b.toFloat := by
  rcases Nat.eq_zero_or_pos b.significand with hzero | hpos
  · have hleast : b.exponent = -1074 := by
      rcases hb.normal with h | h
      · omega
      · exact h
    have hdigits : d.digits = 0 := by
      rw [shortest, if_pos hzero, Decimal.toRat, Decimal.toRat, Nat.cast_zero, zero_mul,
        mul_eq_zero_iff_right (ten_zpow_pos _).ne'] at hvalue
      exact_mod_cast hvalue
    rw [Decimal.toFloat_zero hdigits, ← hzero, ← hleast]
  · have hrounds := shortest_rounds hb hpos tie
    rw [← hvalue] at hrounds
    exact Decimal.toFloat_eq hb hpos hexp hrounds

end Binary

end Number
end FormLogic
