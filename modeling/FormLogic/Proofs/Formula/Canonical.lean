import FormLogic.Proofs.Formula.References
import FormLogic.Proofs.Number.Layout

/-!
# FormLogic.Proofs.Formula.Canonical

The text of a value denotes the value.

* `formatNumber_isSignedText`: the text of a finite number is digits, behind a sign if it is
  negative;
* `numberOfText?_formatNumber`: as a text it coerces to the number, the infinities included;
* `evaluate_formatNumber`: as a formula it has the number as its value and refers to no field;
* `looseEq_toText`: every value equals its text, and the text the value.
-/

namespace FormLogic
namespace Formula

open Number Text

/-! ## Texts of numbers -/

variable {negative : Bool} {d : Decimal} {text digits : List Char}

/-- The text of a finite number. -/
theorem formatNumber_isSignedText {x : Float} (h : x.isFinite = true) :
    ∃ negative d, IsSignedText negative d (formatNumber x).toList ∧
      (d.toFloat negative == x) = true := by
  have hnan := isNaN_of_isFinite h
  unfold formatNumber
  rw [hnan, isInf_of_isFinite h, if_neg (by simp), if_neg (by simp)]
  split
  · rename_i hzero
    exact ⟨false, ⟨0, 0⟩, ⟨['0'], .whole ['0'] (by simp) (by simp), rfl⟩, beq_zero hzero⟩
  · obtain ⟨d, htext, hfloat⟩ := render_isSignedText h
    exact ⟨isNegative x, d, htext, by rw [hfloat]; exact beq_self hnan⟩

/-! ## As texts -/

theorem numberOfText?_signedText {s : String} (h : IsSignedText negative d s.toList) :
    numberOfText? s = some (d.toFloat negative) := by
  have htrim := trimChars_eq_self_of_forall h.isBlank_eq
  have hname : ∀ name : List Char, 'I' ∈ name → s.toList ≠ name := by
    intro name hI heq
    rw [← heq] at hI
    rcases h.mem _ hI with hI | hI | hI <;> cases hI
  have hletter : hasForeignLetter s.toList = false := by
    rw [hasForeignLetter, List.any_eq_false]
    intro c hc
    rcases h.mem c hc with hdigit | rfl | rfl
    · simp [isAlpha_of_isDigit hdigit]
    · decide
    · decide
  simp only [numberOfText?, htrim]
  rw [if_neg h.ne_nil, if_neg (by simp [hname]), if_neg (hname _ (by decide)),
    if_neg (by simp [hletter]), h.readChars?_eq]

/-- The text of a number coerces to the number. -/
theorem numberOfText?_formatNumber {x : Float} (h : x.isNaN = false) :
    ∃ y, numberOfText? (formatNumber x) = some y ∧ (y == x) = true := by
  cases hinf : x.isInf
  · obtain ⟨negative, d, htext, heq⟩ := formatNumber_isSignedText (isFinite_of_not_isNaN h hinf)
    exact ⟨_, numberOfText?_signedText htext, heq⟩
  · have hx := eq_infinity hinf
    refine ⟨infinity (isNegative x), ?_, by rw [← hx]; exact beq_self h⟩
    rw [formatNumber, h, hinf, if_neg (by simp), if_pos rfl]
    cases isNegative x <;> decide

/-- A value other than null and NaN equals its text, and the text the value. -/
theorem looseEq_toText {v : Value} (hnull : v ≠ .null)
    (hnan : ∀ x, v = .number x → x.isNaN = false) :
    Value.looseEq (.text v.toText) v = true ∧ v.looseEq (.text v.toText) = true := by
  cases v with
  | null => exact absurd rfl hnull
  | bool b => cases b <;> decide
  | number x =>
    obtain ⟨y, hy, heq⟩ := numberOfText?_formatNumber (hnan x rfl)
    have : numberEqText x (formatNumber x) = true := by rw [numberEqText, hy]; exact heq
    exact ⟨this, this⟩
  | text s => simp [Value.looseEq, Value.toText]

/-! ## As formulas -/

/-- A plain text is one token. -/
theorem firstToken_plainText {c : Char} {rest : List Char} (h : IsPlainText (c :: rest) d) :
    firstToken c rest = .ok ⟨.number (d.toFloat false), c :: rest, []⟩ := by
  have hall : ∀ c' ∈ c :: rest, isNumberPart c' = true := by
    intro c' hc'
    rcases h.isDigit_or_point c' hc' with h | rfl
    · simp [isNumberPart, h]
    · rfl
  have hspan : spanNumber (c :: rest) = (c :: rest, []) := by
    rw [spanNumber, List.takeWhile_eq_self_iff.2 hall, List.dropWhile_eq_nil_iff.2 hall]
    simp [spanExponent]
  rw [firstToken, if_pos (hall c (by simp)), numberToken, hspan]
  simp only [h.readChars?_eq]

theorem lexemes_plainText (h : IsPlainText digits d) (position : Nat) :
    lexemes position digits = .ok [⟨position, .number (d.toFloat false)⟩] := by
  obtain ⟨c, rest, rfl, hc⟩ := h.exists_cons
  have hspacer : isSpacer c = false := by
    cases hs : isSpacer c
    · rfl
    · rw [← isBlank_of_isSpacer hs, isBlank_of_isDigit hc]
  rw [lexemes_cons hspacer (firstToken_plainText h)]
  simp [lexemes, Except.map]

/-- The tree of a signed text: a number, or the negation of one. -/
def signedTree (negative : Bool) (x : Float) : Expr :=
  if negative then .unary .neg (.literal (.number x)) else .literal (.number x)

theorem parse_signedText {s : String} (h : IsSignedText negative d s.toList) :
    parse s = .ok (signedTree negative (d.toFloat false)) := by
  obtain ⟨digits, hplain, htext⟩ := h
  rw [parse, tokenize, htext]
  cases negative
  · rw [if_neg (by simp), List.nil_append, lexemes_plainText hplain]
    rfl
  · have hminus : lexemes 0 ('-' :: digits) =
        .ok [⟨0, .minus⟩, ⟨1, .number (d.toFloat false)⟩] := by
      have hfirst : firstToken '-' digits = .ok ⟨.minus, ['-'], digits⟩ := by
        obtain ⟨c, rest, rfl, -⟩ := hplain.exists_cons
        rfl
      rw [lexemes_cons (by decide) hfirst, lexemes_plainText hplain]
      rfl
    rw [if_pos rfl, List.singleton_append, hminus]
    rfl

/-- A signed text refers to no field. -/
theorem references_signedText {s : String} (h : IsSignedText negative d s.toList) :
    references s = [] := by
  have hnone : mentions s.toList = [] := by
    refine List.eq_nil_iff_forall_not_mem.2 fun name hname => ?_
    obtain ⟨before, c, rest, htext, -⟩ := exists_of_mem_mentions hname
    have hsign : '@' ∈ s.toList := by rw [htext]; simp
    rcases h.mem _ hsign with hc | hc | hc <;> cases hc
  rw [references, hnone]
  rfl

/-- The text of a finite number, read as a formula, has the number as its value in every context. -/
theorem evaluate_formatNumber {x : Float} (h : x.isFinite = true) (c : Context) :
    ∃ y, evaluate (formatNumber x) c = .ok ⟨.number y, []⟩ ∧ (y == x) = true := by
  obtain ⟨negative, d, htext, heq⟩ := formatNumber_isSignedText h
  refine ⟨d.toFloat negative, ?_, heq⟩
  have hblank : allBlank (formatNumber x) = false := by
    obtain ⟨first, rest, hcons⟩ := List.exists_cons_of_ne_nil htext.ne_nil
    rw [allBlank, hcons, List.all_cons, htext.isBlank_eq first (by rw [hcons]; simp)]
    rfl
  rw [evaluate_eq, readTree, if_neg (by simp [hblank]), parse_signedText htext,
    references_signedText htext]
  cases negative
  · rfl
  · rw [← d.neg_toFloat]
    rfl

/-- The text of a value denotes the value.  That of a number other than NaN coerces to a number
equal to it; that of a finite number is a formula with such a value and without references; and a
value other than null and NaN equals its text in either order. -/
theorem toText_denotes :
    (∀ x : Float, x.isNaN = false →
      ∃ y, (Value.text (formatNumber x)).toNumber = .ok y ∧ (y == x) = true) ∧
    (∀ x : Float, x.isFinite = true → ∀ c : Context,
      ∃ y, evaluate (formatNumber x) c = .ok ⟨.number y, []⟩ ∧ (y == x) = true) ∧
    ∀ v : Value, v ≠ .null → (∀ x, v = .number x → x.isNaN = false) →
      Value.looseEq (.text v.toText) v = true ∧ v.looseEq (.text v.toText) = true := by
  refine ⟨fun x h => ?_, fun x h c => evaluate_formatNumber h c, fun v => looseEq_toText⟩
  obtain ⟨y, hy, heq⟩ := numberOfText?_formatNumber h
  exact ⟨y, by rw [Value.toNumber, hy], heq⟩

/-- A negative fraction, the infinity below all numbers, and the zero that is written without its
sign. -/
theorem toText_denotes_negative :
    formatNumber (-2.5) = "-2.5" ∧
      (∃ y, evaluate "-2.5" (.ofValues ∅) = .ok ⟨.number y, []⟩ ∧ (y == -2.5) = true) ∧
      formatNumber (infinity true) = "-Infinity" ∧
      (∃ y, (Value.text "-Infinity").toNumber = .ok y ∧ (y == infinity true) = true) ∧
      (Value.number (-0.0)).toText = "0" ∧
      Value.looseEq (.text "0") (.number (-0.0)) = true ∧
      Value.looseEq (.number (-0.0)) (.text "0") = true := by
  obtain ⟨hcoerced, hevaluated, hequal⟩ := toText_denotes
  have hfraction : formatNumber (-2.5) = "-2.5" := by decide +kernel
  have hinfinite : formatNumber (infinity true) = "-Infinity" := by decide +kernel
  have hzero : (Value.number (-0.0)).toText = "0" := by decide +kernel
  refine ⟨hfraction, ?_, hinfinite, ?_, hzero, ?_⟩
  · rw [← hfraction]
    exact hevaluated (-2.5) (by decide +kernel) _
  · rw [← hinfinite]
    exact hcoerced (infinity true) (by decide +kernel)
  · rw [← hzero]
    refine hequal (.number (-0.0)) (by simp) fun x hx => ?_
    cases hx
    decide +kernel

end Formula
end FormLogic
