import FormLogic.Json.Reader
import FormLogic.Json.Writer

/-!
# FormLogic.Proofs.Json.Text

Texts in JSON.

* `readText?_escaped`: a text is read back from its escapes, whatever follows;
* `length_lt_of_readText?`: a text is shorter than what it was read from;
* `length_lt_of_read?`: so is the only item of a list.
-/

namespace FormLogic
namespace Json

open Text

/-! ### Characters -/

theorem hexDigit?_hexChar : ∀ n < 16, hexDigit? (hexChar n) = some n := by decide

/-- A control character from the number that stands for it. -/
theorem readUnit?_hexChar {c : Char} (hc : c.toNat < 32) (rest : List Char) :
    readUnit? ('0' :: '0' :: hexChar (c.toNat / 16) :: hexChar (c.toNat % 16) :: rest) =
      some (c, rest) := by
  have hzero : hexDigit? '0' = some 0 := by decide
  have hhigh := hexDigit?_hexChar (c.toNat / 16) (by omega)
  have hlow := hexDigit?_hexChar (c.toNat % 16) (by omega)
  have hnumber : ((0 * 16 + 0) * 16 + c.toNat / 16) * 16 + c.toNat % 16 = c.toNat := by omega
  have hread : readHex4? ('0' :: '0' :: hexChar (c.toNat / 16) :: hexChar (c.toNat % 16) :: rest) =
      some (c.toNat, rest) := by
    simp only [readHex4?, hzero, hhigh, hlow, Option.bind_eq_bind, Option.bind_some,
      Option.pure_def, hnumber]
  rw [readUnit?, hread]
  simp only [Option.bind_eq_bind, Option.bind_some]
  rw [if_neg (by simp; omega), if_neg (by simp; omega), Char.ofNat_toNat]
  rfl

/-- One character is read back from its escape. -/
theorem readQuoted?_escapeChar (c : Char) (n : Nat) (rest : List Char) :
    readQuoted? (n + 1) (escapeChar c ++ rest) =
      (readQuoted? n rest).map fun r => (c :: r.1, r.2) := by
  have hescape : ∀ e tail, readEscape? (e :: tail) = some (c, rest) →
      readQuoted? (n + 1) ('\\' :: e :: tail) =
        (readQuoted? n rest).map fun r => (c :: r.1, r.2) := by
    intro e tail he
    rw [readQuoted?, if_neg (by decide), if_pos rfl, he]
    simp only [Option.bind_eq_bind, Option.bind_some]
    cases readQuoted? n rest <;> rfl
  unfold escapeChar
  split
  · subst_vars; exact hescape _ _ rfl
  split
  · subst_vars; exact hescape _ _ rfl
  split
  · subst_vars; exact hescape _ _ rfl
  split
  · subst_vars; exact hescape _ _ rfl
  split
  · subst_vars; exact hescape _ _ rfl
  split
  · subst_vars; exact hescape _ _ rfl
  split
  · subst_vars; exact hescape _ _ rfl
  split
  · rename_i hc
    exact hescape _ _ (readUnit?_hexChar hc rest)
  · rename_i hquote hslash _ _ _ _ _ hcontrol
    rw [List.singleton_append, readQuoted?, if_neg hquote, if_neg hslash, if_neg hcontrol]
    cases readQuoted? n rest <;> rfl

theorem escapeChar_ne_nil (c : Char) : escapeChar c ≠ [] := by
  unfold escapeChar
  repeat' split
  all_goals simp

/-- A text is read back from its escapes. -/
theorem readQuoted?_escaped (text rest : List Char) {n : Nat} (hn : text.length < n) :
    readQuoted? n (text.flatMap escapeChar ++ '"' :: rest) = some (text, rest) := by
  induction text generalizing n with
  | nil =>
    obtain ⟨n, rfl⟩ := Nat.exists_eq_add_one.2 hn
    simp [readQuoted?]
  | cons c text ih =>
    obtain ⟨n, rfl⟩ := Nat.exists_eq_add_one.2 (Nat.zero_lt_of_lt hn)
    rw [List.flatMap_cons, List.append_assoc, readQuoted?_escapeChar,
      ih (by simpa using hn)]
    rfl

/-- Escapes do not make a text shorter. -/
theorem length_le_escaped (text : List Char) : text.length ≤ (text.flatMap escapeChar).length := by
  induction text with
  | nil => simp
  | cons c text ih =>
    have hc := List.length_pos_iff.2 (escapeChar_ne_nil c)
    rw [List.flatMap_cons, List.length_append, List.length_cons]
    omega

theorem readText?_escaped (s : String) (rest : List Char) :
    readText? (s.toList.flatMap escapeChar ++ '"' :: rest) = some (s, rest) := by
  have hlength := length_le_escaped s.toList
  rw [readText?, readQuoted?_escaped _ _ (by rw [List.length_append]; omega)]
  simp

/-! ### Lengths -/

theorem length_skipGap_le (input : List Char) : (skipGap input).length ≤ input.length :=
  (List.dropWhile_sublist isGap).length_le

variable {input rest : List Char}

theorem length_of_readHex4? {n : Nat} (h : readHex4? input = some (n, rest)) :
    rest.length < input.length := by
  unfold readHex4? at h
  split at h
  · simp only [Option.bind_eq_bind, Option.bind_eq_some_iff] at h
    obtain ⟨_, _, _, _, _, _, _, _, h⟩ := h
    cases h
    simp only [List.length_cons]
    omega
  · cases h

theorem length_of_readUnit? {c : Char} (h : readUnit? input = some (c, rest)) :
    rest.length < input.length := by
  obtain ⟨⟨n, behind⟩, hhex, h⟩ := Option.bind_eq_some_iff.1 h
  have hlength := length_of_readHex4? hhex
  simp only at h
  split at h
  · cases h
  split at h
  · split at h
    · obtain ⟨⟨m, last⟩, hhex', h⟩ := Option.bind_eq_some_iff.1 h
      have hlength' := length_of_readHex4? hhex'
      simp only at h
      split at h
      · obtain ⟨-, rfl⟩ := Prod.mk.inj (Option.some.inj h)
        simp only [List.length_cons] at hlength
        omega
      · cases h
    · cases h
  · obtain ⟨-, rfl⟩ := Prod.mk.inj (Option.some.inj h)
    exact hlength

theorem length_of_readEscape? {c : Char} (h : readEscape? input = some (c, rest)) :
    rest.length < input.length := by
  unfold readEscape? at h
  split at h
  case h_9 => exact Nat.lt_succ_of_lt (length_of_readUnit? h)
  case h_10 => cases h
  all_goals
    cases h
    simp

/-- Each character of a text takes at least one character, and the closing quote one more. -/
theorem length_of_readQuoted? {n : Nat} {text : List Char}
    (h : readQuoted? n input = some (text, rest)) : text.length + rest.length < input.length := by
  induction n generalizing input text with
  | zero => cases h
  | succ n ih =>
    cases input with
    | nil => cases h
    | cons c input =>
      rw [readQuoted?] at h
      split at h
      · cases h
        simp
      split at h
      · obtain ⟨⟨e, behind⟩, hescape, h⟩ := Option.bind_eq_some_iff.1 h
        obtain ⟨⟨cs, last⟩, hread, h⟩ := Option.bind_eq_some_iff.1 h
        cases h
        have hlength := length_of_readEscape? hescape
        have hlength' := ih hread
        simp only [List.length_cons]
        omega
      split at h
      · cases h
      · obtain ⟨⟨cs, last⟩, hread, h⟩ := Option.bind_eq_some_iff.1 h
        cases h
        have hlength := ih hread
        simp only [List.length_cons]
        omega

theorem length_of_readText? {s : String} (h : readText? input = some (s, rest)) :
    s.length + rest.length < input.length := by
  obtain ⟨⟨text, behind⟩, hread, h⟩ := Option.bind_eq_some_iff.1 h
  cases h
  have hlength := length_of_readQuoted? hread
  simpa using hlength

/-- A number. -/
def isNumber : Json → Bool
  | .int _ | .float _ => true
  | _ => false

theorem isNumber_of_readScaled? {negative : Bool} {significand : Nat} {e : Int} {j : Json}
    (h : readScaled? negative significand e input = some (j, rest)) : j.isNumber = true := by
  have hfloat : ∀ {e : Int} {j : Json}, floatOf? negative significand e = some j →
      j.isNumber = true := by
    intro e j hj
    obtain ⟨x, -, hj⟩ := Option.bind_eq_some_iff.1 hj
    cases hj
    rfl
  unfold readScaled? at h
  split at h
  · split at h
    · obtain ⟨⟨p, behind⟩, -, h⟩ := Option.bind_eq_some_iff.1 h
      obtain ⟨j', hj, h⟩ := Option.bind_eq_some_iff.1 h
      cases h
      exact hfloat hj
    · obtain ⟨j', hj, h⟩ := Option.bind_eq_some_iff.1 h
      cases h
      exact hfloat hj
  · obtain ⟨j', hj, h⟩ := Option.bind_eq_some_iff.1 h
    cases h
    exact hfloat hj

theorem isNumber_integerOf (negative : Bool) (n : Nat) :
    (integerOf negative n).isNumber = true := by
  unfold integerOf
  repeat' split
  all_goals rfl

theorem isNumber_of_readNumber? {j : Json} (h : readNumber? input = some (j, rest)) :
    j.isNumber = true := by
  have hfraction : ∀ {negative : Bool} {significand unused : Nat} {input : List Char},
      readFraction? negative significand unused input = some (j, rest) → j.isNumber = true := by
    intro negative significand unused input h
    unfold readFraction? at h
    split at h
    · split at h
      · cases h
      · exact isNumber_of_readScaled? h
    · split at h
      · exact isNumber_of_readScaled? h
      · cases h; exact isNumber_integerOf _ _
    · split at h
      · exact isNumber_of_readScaled? h
      · cases h; exact isNumber_integerOf _ _
  have hmagnitude : ∀ {negative : Bool} {input : List Char},
      readMagnitude? negative input = some (j, rest) → j.isNumber = true := by
    intro negative input h
    unfold readMagnitude? at h
    split at h
    · cases h
    · cases h
    · exact hfraction h
  unfold readNumber? at h
  split at h
  · exact hmagnitude h
  · exact hmagnitude h

/-- A text as a value stands between quotes. -/
theorem length_of_readScalar? {j : Json} (h : readScalar? input = some (j, rest)) :
    (∀ js, j ≠ .list js) ∧ ∀ s, j = .text s → s.length + rest.length + 1 < input.length := by
  unfold readScalar? at h
  split at h
  · cases h; simp
  · cases h; simp
  · cases h; simp
  · obtain ⟨⟨s, behind⟩, hread, h⟩ := Option.bind_eq_some_iff.1 h
    cases h
    have hlength := length_of_readText? hread
    refine ⟨nofun, fun s' hs => ?_⟩
    cases hs
    simp only [List.length_cons]
    omega
  · have hnumber := isNumber_of_readNumber? h
    refine ⟨fun js hjs => ?_, fun s hs => ?_⟩
    · subst hjs
      cases hnumber
    · subst hs
      cases hnumber

/-- A text is shorter than what it was read from. -/
theorem length_of_readValue? {depth : Nat} {s : String}
    (h : readValue? depth input = some (.text s, rest)) : s.length < input.length := by
  cases depth with
  | zero => cases h
  | succ depth =>
    rw [readValue?] at h
    have hgap := length_skipGap_le input
    split at h
    · split at h
      · cases h
      split at h
      · cases h
      · obtain ⟨_, -, h⟩ := Option.bind_eq_some_iff.1 h
        cases h
    · split at h
      · cases h
      split at h
      · cases h
      · obtain ⟨_, -, h⟩ := Option.bind_eq_some_iff.1 h
        cases h
    · have hlength := (length_of_readScalar? h).2 s rfl
      omega

theorem length_of_readItems? {depth n : Nat} {s : String} {js : List Json}
    (h : readItems? (readValue? depth) n input = some (js, rest))
    (hjs : js.head? = some (.text s)) :
    s.length < input.length := by
  cases n with
  | zero => cases h
  | succ n =>
    obtain ⟨⟨j, behind⟩, hread, h⟩ := Option.bind_eq_some_iff.1 h
    have hhead : js.head? = some j := by
      simp only at h
      split at h
      · obtain ⟨⟨_, _⟩, -, h⟩ := Option.bind_eq_some_iff.1 h
        cases h; rfl
      · cases h; rfl
      · cases h
    rw [hhead] at hjs
    cases hjs
    exact length_of_readValue? hread

/-- So is the only item of a list. -/
theorem length_lt_of_read? {text s : String} (h : read? text = some (ofTexts [s])) :
    s.length < text.length := by
  obtain ⟨⟨j, rest⟩, hread, h⟩ := Option.bind_eq_some_iff.1 h
  have hj : j = ofTexts [s] := by
    simp only at h
    split at h
    · exact Option.some.inj h
    · cases h
  subst hj
  rw [depthLimit, readValue?] at hread
  have hgap := length_skipGap_le text.toList
  rw [String.length_toList] at hgap
  split at hread
  · rename_i input hinput
    rw [hinput, List.length_cons] at hgap
    rw [if_neg (by decide)] at hread
    split at hread
    · cases hread
    · obtain ⟨⟨js, behind⟩, hitems, hlist⟩ := Option.bind_eq_some_iff.1 hread
      have hlength := length_of_readItems? (s := s) hitems (by simp_all [ofTexts])
      omega
  · rw [if_neg (by decide)] at hread
    split at hread
    · cases hread
    · obtain ⟨_, -, hobject⟩ := Option.bind_eq_some_iff.1 hread
      cases hobject
  · exact absurd rfl ((length_of_readScalar? hread).1 _)

end Json
end FormLogic
