import FormLogic.Proofs.Formula.Canonical
import FormLogic.Proofs.Formula.Cut
import FormLogic.Proofs.Number.Whole
import FormLogic.Proofs.TypedValue

/-!
# FormLogic.Proofs.Formula.Literal

Texts of numbers and truth values, read as formulas.

* `spanNumber_eq_of_read?`: the search for tokens cuts a decimal off as a whole;
* `Sign`, `lexemes_sign`: what stands before a number is a token of its own;
* `evaluate_number`: a number has itself as its value;
* `evaluate_integer`: an integer has the nearest float as its value;
* `readInteger?_formatNumber`: up to `2 ^ 53` the text of that float is the integer again;
* `parseTokens_word`: a word by itself is a constant, or else no formula;
* `evaluate_boolWord`: a word for a truth value has that value, or is no formula.
-/

namespace FormLogic
namespace Formula

open Number Text

variable {text rest body : List Char} {d : Decimal} {c : Char} {position : Nat}

/-! ## Decimals -/

theorem exists_cons_of_read? (h : Decimal.read? body = some d) :
    ∃ c tail, body = c :: tail ∧ isNumberPart c = true := by
  cases body with
  | nil => cases h
  | cons c tail =>
    refine ⟨c, tail, rfl, ?_⟩
    by_contra hc
    rw [isNumberPart, Bool.or_eq_true, not_or] at hc
    have hspan : spanDigits (c :: tail) = ([], c :: tail) := by simp [spanDigits, hc.1]
    rw [Decimal.read?, hspan] at h
    simp only at h
    split at h
    · rename_i hpoint
      exact hc.2 (by simp [(List.cons.inj hpoint).1])
    · simp at h

theorem all_isDigit_of_spanDigits {digits : List Char} (h : spanDigits text = (digits, [])) :
    digits = text ∧ ∀ c ∈ text, c.isDigit = true := by
  obtain ⟨htake, hdrop⟩ := Prod.mk.inj h
  have hall : ∀ c ∈ text, c.isDigit = true := by simpa using hdrop
  exact ⟨by rw [← htake, List.takeWhile_eq_self_iff.2 hall], hall⟩

/-- The digits of an exponent stand behind its mark and its sign. -/
theorem exists_digits_of_readExponent? {mark : Char} {tail : List Char} {e : ℤ}
    (h : readExponent? (mark :: tail) = some e) :
    (mark = 'e' || mark = 'E') = true ∧ (spanSign tail).2 ≠ [] ∧
      ∀ c ∈ (spanSign tail).2, c.isDigit = true := by
  unfold readExponent? at h
  simp only at h
  split at h
  · rename_i hmark
    refine ⟨hmark, ?_⟩
    unfold spanSign
    split
    -- Behind a plus, a minus or no sign the digits have to reach the end.
    all_goals
      simp only at h
      split at h
      · cases h
      · rename_i digits hne hspan
        obtain ⟨rfl, hall⟩ := all_isDigit_of_spanDigits hspan
        exact ⟨hne, hall⟩
      · cases h
  · cases h

/-- An exponent is cut off as a whole. -/
theorem spanExponent_eq_of_readExponent? {e : ℤ} (h : readExponent? text = some e) :
    spanExponent text = (text, []) ∧ ∀ c ∈ text.head?, isNumberPart c = false := by
  cases text with
  | nil => exact ⟨rfl, by simp⟩
  | cons mark tail =>
    obtain ⟨hmark, hne, hall⟩ := exists_digits_of_readExponent? h
    have happend := spanSign_append tail
    have htake : (spanSign tail).2.takeWhile Char.isDigit = (spanSign tail).2 :=
      List.takeWhile_eq_self_iff.2 hall
    have hdrop : (spanSign tail).2.dropWhile Char.isDigit = [] := by simpa using hall
    constructor
    · rw [spanExponent, if_pos hmark]
      split
      · rename_i hnil
        rw [htake] at hnil
        exact absurd hnil hne
      · rename_i digit digits hcons
        rw [← hcons, htake, hdrop, List.cons_append, happend]
    · intro c hc
      cases hc
      rw [Bool.or_eq_true, decide_eq_true_eq, decide_eq_true_eq] at hmark
      rcases hmark with rfl | rfl <;> rfl

/-- A decimal is digits and perhaps a point, and an exponent behind them. -/
theorem exists_append_of_read? (h : Decimal.read? body = some d) :
    ∃ before tail e, body = before ++ tail ∧ (∀ c ∈ before, isNumberPart c = true) ∧
      readExponent? tail = some e := by
  have hdigits : ∀ text : List Char, ∀ c ∈ (spanDigits text).1, isNumberPart c = true := by
    intro text c hc
    simp [isNumberPart, List.mem_takeWhile_imp hc]
  have happend : ∀ text : List Char, (spanDigits text).1 ++ (spanDigits text).2 = text :=
    fun text => List.takeWhile_append_dropWhile
  unfold Decimal.read? at h
  simp only at h
  split at h
  · rename_i r hpoint
    split at h
    · cases h
    split at h
    · rename_i e he
      refine ⟨(spanDigits body).1 ++ '.' :: (spanDigits r).1, _, e, ?_, ?_, he⟩
      · rw [List.append_assoc, List.cons_append, happend, ← hpoint, happend]
      · intro c hc
        rcases List.mem_append.1 hc with hc | hc
        · exact hdigits body c hc
        · rcases List.mem_cons.1 hc with rfl | hc
          · rfl
          · exact hdigits r c hc
    · cases h
  · split at h
    · cases h
    split at h
    · rename_i e he
      exact ⟨_, _, e, (happend body).symm, hdigits body, he⟩
    · cases h

/-- A decimal is cut off as a whole. -/
theorem spanNumber_eq_of_read? (h : Decimal.read? body = some d) :
    spanNumber body = (body, []) := by
  obtain ⟨before, tail, e, rfl, hbefore, htail⟩ := exists_append_of_read? h
  obtain ⟨hspan, hhead⟩ := spanExponent_eq_of_readExponent? htail
  obtain ⟨htake, hdrop⟩ := span_append hbefore hhead
  rw [spanNumber, htake, hdrop, hspan]

theorem readMagnitude?_of_read? (h : Decimal.read? body = some d) (negative : Bool) :
    readMagnitude? negative body = some (d.toFloat negative) := by
  obtain ⟨c, tail, rfl, hc⟩ := exists_cons_of_read? h
  have hlower : c.toLower = c := by
    rw [isNumberPart, Bool.or_eq_true, beq_iff_eq] at hc
    rcases hc with hdigit | rfl
    · exact toLower_of_isDigit hdigit
    · rfl
  unfold readMagnitude?
  rw [List.map_cons, hlower]
  split
  · rename_i heq; rw [(List.cons.inj heq).1] at hc; cases hc
  · rename_i heq; rw [(List.cons.inj heq).1] at hc; cases hc
  · rename_i heq; rw [(List.cons.inj heq).1] at hc; cases hc
  · rw [h]; rfl

theorem readChars?_of_read? (h : Decimal.read? body = some d) :
    readChars? body = some (d.toFloat false) := by
  obtain ⟨c, tail, rfl, hc⟩ := exists_cons_of_read? h
  unfold readChars?
  split
  · rename_i heq; cases heq; cases hc
  · rename_i heq; cases heq; cases hc
  · exact readMagnitude?_of_read? h false

/-! ## Signs -/

/-- What stands before a number. -/
inductive Sign where
  | none
  | plus
  | minus
deriving DecidableEq

namespace Sign

def chars : Sign → List Char
  | .none => []
  | .plus => ['+']
  | .minus => ['-']

def isMinus (s : Sign) : Bool := s = .minus

/-- The tokens of a signed number that starts at a position. -/
def lexemes (s : Sign) (position : Nat) (x : Float) : List Lexeme :=
  match s with
  | .none => [⟨position, .number x⟩]
  | .plus => [⟨position, .plus⟩, ⟨position + 1, .number x⟩]
  | .minus => [⟨position, .minus⟩, ⟨position + 1, .number x⟩]

def tree (s : Sign) (x : Float) : Expr :=
  match s with
  | .none => .literal (.number x)
  | .plus => .unary .plus (.literal (.number x))
  | .minus => .unary .neg (.literal (.number x))

def apply (s : Sign) (x : Float) : Float :=
  match s with
  | .none | .plus => x
  | .minus => -x

@[simp] theorem eval_tree (s : Sign) (x : Float) (c : Context) :
    eval c (s.tree x) = .ok (.number (s.apply x)) := by
  cases s <;> rfl

theorem apply_toFloat (s : Sign) (d : Decimal) :
    s.apply (d.toFloat false) = d.toFloat s.isMinus := by
  cases s with
  | minus => exact d.neg_toFloat
  | _ => rfl

end Sign

/-- A number other than infinity and NaN is a decimal behind a sign. -/
theorem exists_sign_of_readChars? {x : Float} (h : readChars? text = some x)
    (hx : x.isFinite = true) :
    ∃ (s : Sign) (body : List Char) (d : Decimal), text = s.chars ++ body ∧
      Decimal.read? body = some d ∧ x = d.toFloat s.isMinus := by
  have hinfinity : ∀ negative, (infinity negative).isFinite = false := by decide +kernel
  have hmagnitude : ∀ {negative : Bool} {body : List Char},
      readMagnitude? negative body = some x →
        ∃ d, Decimal.read? body = some d ∧ x = d.toFloat negative := by
    intro negative body h
    unfold readMagnitude? at h
    split at h
    · cases h; rw [hinfinity] at hx; cases hx
    · cases h; rw [hinfinity] at hx; cases hx
    · have hnan : notANumber.isFinite = false := by decide +kernel
      cases h; rw [hnan] at hx; cases hx
    · obtain ⟨d, hd, rfl⟩ := Option.map_eq_some_iff.1 h
      exact ⟨d, hd, rfl⟩
  unfold readChars? at h
  split at h
  · obtain ⟨d, hd, hvalue⟩ := hmagnitude h
    exact ⟨.minus, _, d, rfl, hd, hvalue⟩
  · obtain ⟨d, hd, hvalue⟩ := hmagnitude h
    exact ⟨.plus, _, d, rfl, hd, hvalue⟩
  · obtain ⟨d, hd, hvalue⟩ := hmagnitude h
    exact ⟨.none, _, d, rfl, hd, hvalue⟩

/-! ## Tokens -/

theorem isSpacer_of_isNumberPart (h : isNumberPart c = true) : isSpacer c = false := by
  rw [isNumberPart, Bool.or_eq_true, beq_iff_eq] at h
  rcases h with hdigit | rfl
  · cases hs : isSpacer c
    · rfl
    · rw [← isBlank_of_isSpacer hs, isBlank_of_isDigit hdigit]
  · rfl

/-- A decimal that is cut off as a whole is one token. -/
theorem lexemes_decimal (hread : Decimal.read? body = some d)
    (hspan : spanNumber (body ++ rest) = (body, rest)) (position : Nat) :
    lexemes position (body ++ rest) =
      (lexemes (position + byteLength body) rest).map
        (⟨position, .number (d.toFloat false)⟩ :: ·) := by
  obtain ⟨c, tail, rfl, hc⟩ := exists_cons_of_read? hread
  have hfirst : firstToken c (tail ++ rest) =
      .ok ⟨.number (d.toFloat false), c :: tail, rest⟩ := by
    rw [firstToken, if_pos hc, numberToken, ← List.cons_append, hspan]
    simp only [readChars?_of_read? hread]
  rw [List.cons_append, lexemes_cons (isSpacer_of_isNumberPart hc) hfirst]

theorem lexemes_sign (s : Sign) (hread : Decimal.read? body = some d)
    (hspan : spanNumber (body ++ rest) = (body, rest)) (position : Nat) :
    lexemes position (s.chars ++ (body ++ rest)) =
      (lexemes (position + byteLength (s.chars ++ body)) rest).map
        (s.lexemes position (d.toFloat false) ++ ·) := by
  have hnumber := lexemes_decimal hread hspan
  have hsign : ∀ {sign : Char} {t : Token}, isSpacer sign = false → sign.utf8Size = 1 →
      firstToken sign (body ++ rest) = .ok ⟨t, [sign], body ++ rest⟩ →
      lexemes position (sign :: (body ++ rest)) =
        (lexemes (position + byteLength (sign :: body)) rest).map
          ([⟨position, t⟩, ⟨position + 1, .number (d.toFloat false)⟩] ++ ·) := by
    intro sign t hspacer hsize hfirst
    have hone : byteLength [sign] = 1 := by simp [byteLength, hsize]
    have hmore : byteLength (sign :: body) = 1 + byteLength body := by simp [byteLength, hsize]
    rw [lexemes_cons hspacer hfirst, hone, hnumber, hmore, Nat.add_assoc]
    cases lexemes (position + (1 + byteLength body)) rest <;> rfl
  obtain ⟨c, tail, hbody, -⟩ := exists_cons_of_read? hread
  cases s with
  | none => exact hnumber position
  | plus => exact hsign (by decide) (by decide) (by rw [hbody]; rfl)
  | minus => exact hsign (by decide) (by decide) (by rw [hbody]; rfl)

theorem not_allBlank {source : String} (hc : c ∈ source.toList) (hblank : isBlank c = false) :
    allBlank source = false := by
  rw [allBlank, List.all_eq_false]
  exact ⟨c, hc, by simp [hblank]⟩

theorem isBlank_of_isNumberPart (h : isNumberPart c = true) : isBlank c = false := by
  rw [isNumberPart, Bool.or_eq_true, beq_iff_eq] at h
  rcases h with hdigit | rfl
  · exact isBlank_of_isDigit hdigit
  · rfl

/-- A decimal behind a sign, read as a formula, has itself as its value in every context. -/
theorem evaluate_sign {source : String} (s : Sign) (htext : source.toList = s.chars ++ body)
    (hread : Decimal.read? body = some d) (c : Context) :
    evaluate source c = .ok ⟨.number (d.toFloat s.isMinus), references source⟩ := by
  have htokens : tokenize source = .ok (s.lexemes 0 (d.toFloat false)) := by
    have hspan : spanNumber (body ++ []) = (body, []) := by
      rw [List.append_nil, spanNumber_eq_of_read? hread]
    have hlexemes := lexemes_sign s hread hspan 0
    rw [List.append_nil] at hlexemes
    rw [tokenize, htext, hlexemes, lexemes]
    simp [Except.map]
  have hparse : parse source = .ok (s.tree (d.toFloat false)) := by
    rw [parse, htokens]
    cases s <;> rfl
  have hblank : allBlank source = false := by
    obtain ⟨c, tail, rfl, hc⟩ := exists_cons_of_read? hread
    exact not_allBlank (c := c) (by simp [htext]) (isBlank_of_isNumberPart hc)
  rw [evaluate_eq, readTree, if_neg (by simp [hblank]), hparse, Except.bind, Sign.eval_tree,
    s.apply_toFloat]
  rfl

/-- A number, read as a formula, has itself as its value in every context. -/
theorem evaluate_number {source : String} {x : Float} (h : readChars? source.toList = some x)
    (hx : x.isFinite = true) (c : Context) :
    evaluate source c = .ok ⟨.number x, references source⟩ := by
  obtain ⟨s, body, d, htext, hread, rfl⟩ := exists_sign_of_readChars? h hx
  exact evaluate_sign s htext hread c

/-! ## Integers -/

theorem exists_sign_of_readInteger? {i : ℤ} (h : readInteger? text = some i) :
    ∃ (s : Sign) (digits : List Char), text = s.chars ++ digits ∧ digits ≠ [] ∧
      (∀ c ∈ digits, c.isDigit = true) ∧ natOfDigits digits = i.natAbs ∧
      (s.isMinus = decide (i < 0) ∨ i = 0) := by
  have hdigits : ∀ {digits : List Char} {n : ℕ}, readDigits? digits = some n →
      digits ≠ [] ∧ (∀ c ∈ digits, c.isDigit = true) ∧ natOfDigits digits = n := by
    intro digits n hn
    unfold readDigits? at hn
    split at hn
    · rename_i hcheck
      cases hn
      simpa using hcheck
    · cases hn
  unfold readInteger? at h
  split at h
  all_goals
    obtain ⟨j, hj, rfl⟩ := Option.map_eq_some_iff.1 (eq_some_of_rangeCheck h).1
    obtain ⟨n, hn, hnat⟩ := Option.bind_eq_some_iff.1 hj
    cases hnat
    obtain ⟨hne, hall, hvalue⟩ := hdigits hn
  · refine ⟨.minus, _, rfl, hne, hall, by rw [hvalue]; omega, ?_⟩
    rcases Nat.eq_zero_or_pos n with rfl | hpos
    · exact .inr rfl
    · exact .inl (decide_eq_true (show -(n : ℤ) < 0 by omega)).symm
  · exact ⟨.plus, _, rfl, hne, hall, by rw [hvalue]; omega,
      .inl (decide_eq_false (show ¬ (n : ℤ) < 0 by omega)).symm⟩
  · exact ⟨.none, _, rfl, hne, hall, by rw [hvalue]; omega,
      .inl (decide_eq_false (show ¬ (n : ℤ) < 0 by omega)).symm⟩

def floatOfInt (i : ℤ) : Float := nearestFloat (decide (i < 0)) i.natAbs 1

theorem toFloat_whole {n : ℕ} (hn : n ≤ 2 ^ 63) (negative : Bool) :
    (⟨n, 0⟩ : Decimal).toFloat negative = nearestFloat negative n 1 := by
  rw [Decimal.toFloat]
  simp only
  split
  · rename_i hzero
    rw [hzero]
  · rename_i hne
    have hlog : n.log2 < 64 := (Nat.log2_lt hne).2 (by omega)
    rw [if_neg (by omega), if_neg (by omega)]
    simp

/-- An integer of 64 bits, read as a formula, has a number as its value whose text is that of the
nearest float. -/
theorem evaluate_integer {source : String} {i : ℤ} (h : readInteger? source.toList = some i)
    (c : Context) :
    ∃ y, evaluate source c = .ok ⟨.number y, references source⟩ ∧
      formatNumber y = formatNumber (floatOfInt i) := by
  obtain ⟨hlow, hhigh⟩ := range_of_readInteger? h
  obtain ⟨s, digits, htext, hne, hdigits, hvalue, hsign⟩ := exists_sign_of_readInteger? h
  have hread := (IsPlainText.whole digits hne hdigits).read?_eq
  refine ⟨_, evaluate_sign s htext hread c, ?_⟩
  rw [hvalue, toFloat_whole (by omega)]
  rcases hsign with hsign | rfl
  · rw [hsign, floatOfInt]
  · cases s.isMinus
    · rfl
    · decide +kernel

/-- The text of the float of an integer of at most 53 binary digits is read as the integer. -/
theorem readInteger?_formatNumber {i : ℤ} (hi : i.natAbs ≤ 2 ^ 53) :
    readInteger? (formatNumber (floatOfInt i)).toList = some i := by
  by_cases hbound : i.natAbs = 2 ^ 53
  · have hcases : i = 2 ^ 53 ∨ i = -2 ^ 53 := by omega
    rcases hcases with rfl | rfl <;> decide +kernel
  rcases Nat.eq_zero_or_pos i.natAbs with hzero | hpos
  · rw [Int.natAbs_eq_zero.1 hzero]
    decide +kernel
  obtain ⟨digits, hne, hdigits, hvalue, htext⟩ :=
    render_ofNat (decide (i < 0)) hpos (by omega)
  have hfinite := isFinite_nearestFloat (decide (i < 0)) hpos (by omega)
  have hformat : formatNumber (floatOfInt i) = plain.render (floatOfInt i) := by
    rw [floatOfInt, formatNumber, isNaN_of_isFinite hfinite, isInf_of_isFinite hfinite,
      nearestFloat_ne_zero _ hpos (by omega), if_neg (by simp), if_neg (by simp),
      if_neg (by simp)]
  rw [hformat, floatOfInt, htext]
  simp only [decide_eq_true_eq]
  exact readInteger?_of_digits hne hdigits hvalue (by omega) (by omega)

/-! ## Words -/

/-- A word by itself is a constant, or else no formula. -/
theorem parseTokens_word {w : String} (hnot : lowerWord w ≠ "not") (position : Nat) :
    parseTokens [⟨position, .word w⟩] =
      match constant? (lowerWord w) with
      | some v => .ok (.literal v)
      | none => .error (.unknownWord w) := by
  obtain ⟨c, hc⟩ : ∃ c : Cursor, c = ⟨1, [⟨position, .word w⟩], position⟩ := ⟨_, rfl⟩
  -- what every rule makes of the word, from the tightest to the loosest
  obtain ⟨r, hr⟩ : ∃ r : Except Fault (Expr × Cursor), r =
      match constant? (lowerWord w) with
      | some v => .ok (.literal v, ⟨1, [], position⟩)
      | none => .error (.unknownWord w) := ⟨_, rfl⟩
  have hprimary : ∀ inner, primary inner c = r := by
    intro inner
    simp only [hc, primary, named, hr]
    cases constant? (lowerWord w) <;> rfl
  have hpower : ∀ inner exponent, power inner exponent c = r := by
    intro inner exponent
    rw [power, hprimary, hr]
    cases constant? (lowerWord w) <;> rfl
  have hsigned : ∀ inner n, signed inner (n + 1) c = r := by
    intro inner n
    rw [signed, ← hpower inner (signed inner n), hc]
    rfl
  have hchain : ∀ {operand : Rule} {join? : Token → Option (Expr → Expr → Expr)},
      operand c = r → chain operand join? c = r := by
    intro operand join? h
    rw [chain, h, hr]
    cases constant? (lowerWord w) <;> (rw [hc]; rfl)
  have hcomparison : ∀ inner, comparison inner c = r :=
    fun inner => hchain (hchain (hchain (hsigned inner maxDepth)))
  have hnegation : ∀ inner n, negation inner (n + 1) c = r := by
    intro inner n
    rw [negation, if_neg (by simp [hc, Cursor.peek?, isNegationSign, hnot]), hcomparison]
  have hbranching : ∀ inner, branching inner c = r := by
    intro inner
    have hdisjunction : disjunction inner c = r := hchain (hchain (hnegation inner maxDepth))
    rw [branching, hdisjunction, hr]
    cases constant? (lowerWord w) <;> rfl
  have hconditional : conditional levels ⟨0, [⟨position, .word w⟩], position⟩ =
      r.map fun read => (read.1, read.2.ascend) := by
    rw [← hbranching (conditional maxDepth), hc]
    rfl
  have hlast : (([⟨position, .word w⟩] : List Lexeme).getLast?.map (·.position)).getD 0 =
      position := rfl
  simp only [parseTokens, hlast, hconditional, hr]
  cases constant? (lowerWord w) <;> rfl

theorem isBlank_of_isAlpha (h : c.isAlpha = true) : isBlank c = false := by
  simp only [Char.isAlpha, Char.isUpper, Char.isLower, ge_iff_le, UInt32.le_iff_toNat_le,
    Bool.or_eq_true, Bool.and_eq_true, decide_eq_true_eq] at h
  change (65 ≤ c.toNat ∧ c.toNat ≤ 90) ∨ (97 ≤ c.toNat ∧ c.toNat ≤ 122) at h
  simp only [isBlank, Bool.or_eq_false_iff, Bool.and_eq_false_iff, decide_eq_false_iff_not,
    beq_eq_false_iff_ne]
  omega

theorem lexemes_letters (hc : c.isAlpha = true) (hrest : ∀ x ∈ rest, x.isAlpha = true)
    (position : Nat) :
    lexemes position (c :: rest) = .ok [⟨position, .word (String.ofList (c :: rest))⟩] := by
  have hpart : ∀ x ∈ rest, isWordPart x = true := by
    intro x hx
    simp [isWordPart, Char.isAlphanum, hrest x hx]
  have hnumber : isNumberPart c = false :=
    isNumberPart_of_isWordStart (by rw [isWordStart, hc, Bool.true_or])
  have hother : ∀ x : Char, x.isAlpha = false → c ≠ x := by
    rintro x hx rfl
    rw [hx] at hc
    cases hc
  have hspacer : isSpacer c = false := by
    cases hs : isSpacer c
    · rfl
    · rw [← isBlank_of_isSpacer hs, isBlank_of_isAlpha hc]
  have hfirst : firstToken c rest =
      .ok ⟨.word (String.ofList (c :: rest)), c :: rest, []⟩ := by
    rw [firstToken, if_neg (by simp [hnumber]), if_neg (by simp [hother '\'' rfl, hother '"' rfl]),
      if_neg (hother '@' rfl), if_pos (by simp [isWordStart, hc]), wordToken,
      List.takeWhile_eq_self_iff.2 hpart, List.dropWhile_eq_nil_iff.2 hpart]
  rw [lexemes_cons hspacer hfirst, lexemes]
  rfl

/-- Letters, read as a formula, are a constant, or else no formula. -/
theorem evaluate_letters {source : String} (hne : source.toList ≠ [])
    (hletters : ∀ x ∈ source.toList, x.isAlpha = true) (hnot : lowerWord source ≠ "not")
    (c : Context) :
    evaluate source c =
      match constant? (lowerWord source) with
      | some v => .ok ⟨v, references source⟩
      | none => .error (.unknownWord source) := by
  obtain ⟨first, rest, htext⟩ := List.exists_cons_of_ne_nil hne
  rw [htext] at hletters
  have hfirst := hletters first (by simp)
  have htokens : tokenize source = .ok [⟨0, .word source⟩] := by
    rw [tokenize, htext, lexemes_letters hfirst (fun x hx => hletters x (by simp [hx])), ← htext,
      String.ofList_toList]
  have hparse : parse source = parseTokens [⟨0, .word source⟩] := by
    rw [parse, htokens]
    rfl
  have hblank : allBlank source = false :=
    not_allBlank (c := first) (by simp [htext]) (isBlank_of_isAlpha hfirst)
  rw [evaluate_eq, readTree, if_neg (by simp [hblank]), hparse, parseTokens_word hnot]
  cases constant? (lowerWord source) <;> rfl

/-- A character that a digit is the lower case of is that digit. -/
theorem eq_of_toLower_isDigit (h : c.toLower.isDigit = true) : c.toLower = c := by
  refine Char.toLower_eq_of_not_isUpper fun hupper => ?_
  have halpha := Char.isAlpha_toLower_eq_isAlpha c
  rw [isAlpha_of_isDigit h, Char.isAlpha, hupper] at halpha
  cases halpha

theorem evaluate_digitWord {source : String} {digit : Char} (hdigit : digit.isDigit = true)
    (hword : source.toList.map Char.toLower = [digit]) (c : Context) :
    evaluate source c =
      .ok ⟨.number ((⟨natOfDigits [digit], 0⟩ : Decimal).toFloat false), references source⟩ := by
  obtain ⟨x, hx, hlower⟩ := List.map_eq_singleton_iff.1 hword
  have heq : x = digit := by
    rw [← hlower, eq_of_toLower_isDigit (by rwa [hlower])]
  have hplain := IsPlainText.whole [digit] (by simp) (by simpa using hdigit)
  have htext : source.toList = Sign.none.chars ++ [digit] := by rw [hx, heq]; rfl
  exact evaluate_sign .none htext hplain.read?_eq c

/-- The lower case of a text, if it has only letters, is a constant, or else no formula. -/
theorem evaluate_letterWord {source : String} {word : List Char}
    (hword : source.toList.map Char.toLower = word)
    (hletters : word ≠ [] ∧ word.all Char.isAlpha = true ∧ String.ofList word ≠ "not")
    (c : Context) :
    evaluate source c =
      match constant? (String.ofList word) with
      | some v => .ok ⟨v, references source⟩
      | none => .error (.unknownWord source) := by
  obtain ⟨hne, hall, hnot⟩ := hletters
  have hlower : lowerWord source = String.ofList word := by rw [lowerWord, hword]
  rw [← hlower] at hnot ⊢
  refine evaluate_letters (fun hnil => hne (by rw [← hword, hnil]; rfl)) (fun x hx => ?_) hnot c
  rw [← Char.isAlpha_toLower_eq_isAlpha]
  exact List.all_eq_true.1 hall _ (by rw [← hword]; exact List.mem_map_of_mem hx)

/-- A word for a truth value has that value, or is no formula. -/
theorem evaluate_boolWord {source : String} {b : Bool}
    (h : boolOfWord? (source.toList.map Char.toLower) = some b) (c : Context) :
    (∃ fault, evaluate source c = .error fault) ∨
      ∃ v, evaluate source c = .ok ⟨v, references source⟩ ∧ v.isNull = false ∧
        FieldType.boolean.decode v.toText = .ok (some (.boolean b)) := by
  obtain ⟨word, hword⟩ : ∃ word, source.toList.map Char.toLower = word := ⟨_, rfl⟩
  have hdigit : ∀ digit : Char, digit.isDigit = true → word = [digit] →
      evaluate source c = .ok ⟨_, references source⟩ :=
    fun digit hisDigit hsingle => evaluate_digitWord hisDigit (hword.trans hsingle) c
  have hletters := fun h => evaluate_letterWord hword h c
  rw [hword] at h
  unfold boolOfWord? at h
  split at h
  · rename_i htrue
    cases h
    simp only [List.any_cons, List.any_nil, Bool.or_false, Bool.or_eq_true, beq_iff_eq] at htrue
    rcases htrue with rfl | rfl | rfl | rfl
    · exact .inr ⟨_, hletters (by decide +kernel), by decide +kernel, by decide +kernel⟩
    · exact .inr ⟨_, hdigit '1' (by decide) rfl, rfl, by decide +kernel⟩
    · exact .inl ⟨_, hletters (by decide +kernel)⟩
    · exact .inl ⟨_, hletters (by decide +kernel)⟩
  split at h
  · rename_i hfalse
    cases h
    simp only [List.any_cons, List.any_nil, Bool.or_false, Bool.or_eq_true, beq_iff_eq] at hfalse
    rcases hfalse with rfl | rfl | rfl | rfl
    · exact .inr ⟨_, hletters (by decide +kernel), by decide +kernel, by decide +kernel⟩
    · exact .inr ⟨_, hdigit '0' (by decide) rfl, rfl, by decide +kernel⟩
    · exact .inl ⟨_, hletters (by decide +kernel)⟩
    · exact .inl ⟨_, hletters (by decide +kernel)⟩
  · cases h

end Formula
end FormLogic
