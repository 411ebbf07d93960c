import FormLogic.Proofs.Calendar
import FormLogic.Proofs.Formula.Literal

/-!
# FormLogic.Proofs.Formula.Day

Texts of days, read as formulas.

* `DayNumber`, `exists_dayText_of_read?`: a day is three numbers with two marks between them;
* `lexemes_dayText`: its tokens, if its blanks all separate tokens;
* `evaluate_day`: then it is a difference or a quotient of numbers, and has a number as its value;
* `evaluate_day_stray`: otherwise it is no formula;
* `Date.read?_formatNumber`: the text of a number is no day.
-/

namespace FormLogic
namespace Formula

open Number Text

variable {text rest : List Char} {c : Char}

/-! ## Days -/

/-- A number of a day: digits behind blanks and perhaps a sign. -/
structure DayNumber where
  blanks : List Char
  sign : Sign
  digits : List Char
  isBlank_blanks : ∀ c ∈ blanks, isBlank c = true
  digits_ne_nil : digits ≠ []
  isDigit_digits : ∀ c ∈ digits, c.isDigit = true

namespace DayNumber

def chars (n : DayNumber) : List Char := n.blanks ++ (n.sign.chars ++ n.digits)

def magnitude (n : DayNumber) : Float := (⟨natOfDigits n.digits, 0⟩ : Decimal).toFloat false

/-- The number as it is read by digits alone. -/
theorem read?_digits (n : DayNumber) :
    Decimal.read? n.digits = some ⟨natOfDigits n.digits, 0⟩ :=
  (IsPlainText.whole n.digits n.digits_ne_nil n.isDigit_digits).read?_eq

theorem exists_mem_digits (n : DayNumber) : ∃ c ∈ n.chars, c.isDigit = true := by
  obtain ⟨c, tail, hdigits⟩ := List.exists_cons_of_ne_nil n.digits_ne_nil
  have hc : c ∈ n.digits := by rw [hdigits]; exact List.mem_cons_self
  exact ⟨c, by simp [chars, hc], n.isDigit_digits c hc⟩

theorem mem_blanks (n : DayNumber) (hc : c ∈ n.chars) (hblank : isBlank c = true) :
    c ∈ n.blanks := by
  rcases List.mem_append.1 hc with hc | hc
  · exact hc
  exfalso
  rcases List.mem_append.1 hc with hc | hc
  · cases hsign : n.sign <;> rw [hsign] at hc <;> simp [Sign.chars] at hc <;> subst hc <;>
      cases hblank
  · rw [isBlank_of_isDigit (n.isDigit_digits c hc)] at hblank
    cases hblank

end DayNumber

theorem exists_digits_of_readCount? {limit n : ℕ} (h : readCount? limit text = some (n, rest)) :
    ∃ digits, digits ≠ [] ∧ (∀ c ∈ digits, c.isDigit = true) ∧ text = digits ++ rest := by
  unfold readCount? at h
  split at h
  · cases h
  · rename_i hne
    cases h
    have hprefix : (text.take limit).takeWhile Char.isDigit <+: text :=
      (List.takeWhile_prefix _).trans (List.take_prefix _ _)
    refine ⟨_, hne, fun c hc => List.mem_takeWhile_imp hc, ?_⟩
    conv_lhs => rw [← List.take_append_drop
      ((text.take limit).takeWhile Char.isDigit).length text]
    rw [← List.prefix_iff_eq_take.1 hprefix]

theorem trimStartChars_append (text : List Char) :
    text.takeWhile isBlank ++ trimStartChars text = text :=
  List.takeWhile_append_dropWhile

/-- A number of a day is read behind blanks. -/
theorem exists_dayNumber_of_digits {digits : List Char} (s : Sign) (hne : digits ≠ [])
    (hdigits : ∀ c ∈ digits, c.isDigit = true)
    (htext : trimStartChars text = s.chars ++ (digits ++ rest)) :
    ∃ n : DayNumber, text = n.chars ++ rest := by
  refine ⟨⟨text.takeWhile isBlank, s, digits, fun c hc => List.mem_takeWhile_imp hc, hne,
    hdigits⟩, ?_⟩
  rw [DayNumber.chars, List.append_assoc, List.append_assoc, ← htext, trimStartChars_append]

theorem exists_dayNumber_of_readCount? {limit n : ℕ}
    (h : readCount? limit (trimStartChars text) = some (n, rest)) :
    ∃ n : DayNumber, text = n.chars ++ rest := by
  obtain ⟨digits, hne, hdigits, htext⟩ := exists_digits_of_readCount? h
  exact exists_dayNumber_of_digits .none hne hdigits htext

theorem exists_dayNumber_of_readYear? {year : ℤ}
    (h : readYear? (trimStartChars text) = some (year, rest)) :
    ∃ n : DayNumber, text = n.chars ++ rest := by
  unfold readYear? at h
  split at h
  all_goals
    rename_i htrim
    obtain ⟨r, hr, hrest⟩ := Option.map_eq_some_iff.1 h
    obtain ⟨-, rfl⟩ := Prod.mk.inj hrest
    obtain ⟨digits, hne, hdigits, htext⟩ := exists_digits_of_readCount? hr
  · exact exists_dayNumber_of_digits .minus hne hdigits (by rw [htrim, htext]; rfl)
  · exact exists_dayNumber_of_digits .plus hne hdigits (by rw [htrim, htext]; rfl)
  · exact exists_dayNumber_of_digits .none hne hdigits htext

/-- The first part of a layout, if it is no mark, is read as a number. -/
theorem exists_dayNumber_of_readParts? {part : DatePart} {layout : List DatePart}
    {parts result : DateParts} (hpart : ∀ c, part ≠ .mark c)
    (h : readParts? (part :: layout) parts text = some result) :
    ∃ (n : DayNumber) (rest : List Char) (next : DateParts),
      text = n.chars ++ rest ∧ readParts? layout next rest = some result := by
  cases part with
  | mark c => exact absurd rfl (hpart c)
  | year =>
    obtain ⟨⟨year, rest⟩, hyear, h⟩ := Option.bind_eq_some_iff.1 h
    obtain ⟨n, hn⟩ := exists_dayNumber_of_readYear? hyear
    exact ⟨n, rest, _, hn, h⟩
  | month | day =>
    obtain ⟨⟨count, rest⟩, hcount, h⟩ := Option.bind_eq_some_iff.1 h
    obtain ⟨n, hn⟩ := exists_dayNumber_of_readCount? hcount
    exact ⟨n, rest, _, hn, h⟩

theorem exists_mark_of_readParts? {mark : Char} {layout : List DatePart}
    {parts result : DateParts} (h : readParts? (.mark mark :: layout) parts text = some result) :
    ∃ rest, text = mark :: rest ∧ readParts? layout parts rest = some result := by
  unfold readParts? at h
  split at h
  · rename_i c rest
    split at h
    · rename_i hc
      exact ⟨rest, by rw [hc], h⟩
    · cases h
  · cases h

/-- Three numbers with two marks between them. -/
def dayText (mark : Char) (a b c : DayNumber) : List Char :=
  a.chars ++ mark :: (b.chars ++ mark :: c.chars)

theorem exists_dayText_of_readParts? {mark : Char} {x y z : DatePart} {result : DateParts}
    (hx : ∀ c, x ≠ .mark c) (hy : ∀ c, y ≠ .mark c) (hz : ∀ c, z ≠ .mark c)
    (h : readParts? [x, .mark mark, y, .mark mark, z] {} text = some result) :
    ∃ a b c, text = dayText mark a b c := by
  obtain ⟨a, rest₁, _, rfl, h₁⟩ := exists_dayNumber_of_readParts? hx h
  obtain ⟨rest₂, rfl, h₂⟩ := exists_mark_of_readParts? h₁
  obtain ⟨b, rest₃, _, rfl, h₃⟩ := exists_dayNumber_of_readParts? hy h₂
  obtain ⟨rest₄, rfl, h₄⟩ := exists_mark_of_readParts? h₃
  obtain ⟨c, rest₅, _, rfl, h₅⟩ := exists_dayNumber_of_readParts? hz h₄
  refine ⟨a, b, c, ?_⟩
  cases rest₅ with
  | nil => rw [List.append_nil, dayText]
  | cons _ _ => cases h₅

/-- The text of a day is three numbers with hyphens or slashes between them. -/
theorem exists_dayText_of_read? {day : Date} (h : Date.read? text = some day) :
    ∃ mark a b c, (mark = '-' ∨ mark = '/') ∧ text = dayText mark a b c := by
  obtain ⟨layout, hlayout, h⟩ := List.exists_of_findSome?_eq_some h
  obtain ⟨parts, hparts, -⟩ := Option.bind_eq_some_iff.1 h
  simp only [dateLayouts, List.mem_cons, List.not_mem_nil, or_false] at hlayout
  rcases hlayout with rfl | rfl | rfl
  · obtain ⟨a, b, c, htext⟩ := exists_dayText_of_readParts? (by simp) (by simp) (by simp) hparts
    exact ⟨_, a, b, c, .inl rfl, htext⟩
  · obtain ⟨a, b, c, htext⟩ := exists_dayText_of_readParts? (by simp) (by simp) (by simp) hparts
    exact ⟨_, a, b, c, .inr rfl, htext⟩
  · obtain ⟨a, b, c, htext⟩ := exists_dayText_of_readParts? (by simp) (by simp) (by simp) hparts
    exact ⟨_, a, b, c, .inl rfl, htext⟩

/-! ## Days as formulas -/

/-- A blank that does not separate tokens is none itself. -/
theorem firstToken_stray (hblank : isBlank c = true) (hspacer : isSpacer c = false)
    (rest : List Char) : firstToken c rest = .error (.stray c) := by
  have hother : ∀ x : Char, isBlank x = false → c ≠ x := by
    rintro x hx rfl
    rw [hx] at hblank
    cases hblank
  have hnumber : isNumberPart c = false := by
    cases hn : isNumberPart c
    · rfl
    · rw [isBlank_of_isNumberPart hn] at hblank; cases hblank
  have hword : isWordStart c = false := by
    cases hw : isWordStart c
    · rfl
    · rw [isWordStart, Bool.or_eq_true, beq_iff_eq] at hw
      rcases hw with halpha | rfl
      · rw [isBlank_of_isAlpha halpha] at hblank; cases hblank
      · cases hblank
  have hsingle : ∀ rest, singleToken c rest = .error (.stray c) := by
    intro rest
    have hnone : singleOperator? c = none := by
      unfold singleOperator?
      split <;> first | rfl | cases hblank
    rw [singleToken, hnone]
  have hoperator : operatorToken c rest = .error (.stray c) := by
    unfold operatorToken
    split
    · exact hsingle []
    · rename_i d rest
      have hnone : doubleOperator? c d = none := by
        unfold doubleOperator?
        split <;> first | rfl | cases hblank
      rw [hnone]
      exact hsingle (d :: rest)
  rw [firstToken, if_neg (by simp [hnumber]), if_neg (by simp [hother '\'' rfl, hother '"' rfl]),
    if_neg (hother '@' rfl), if_neg (by simp [hword]), hoperator]

/-- Text that starts with blanks, not all of which separate tokens, has no tokens. -/
theorem lexemes_stray {blanks : List Char} (h : ∀ c ∈ blanks, isBlank c = true)
    (hc : c ∈ blanks) (hspacer : isSpacer c = false) (position : Nat) (rest : List Char) :
    ∃ fault, lexemes position (blanks ++ rest) = .error fault := by
  induction blanks generalizing position with
  | nil => cases hc
  | cons first blanks ih =>
    rw [List.cons_append]
    by_cases hfirst : isSpacer first = true
    · rw [lexemes, if_pos hfirst]
      refine ih (fun x hx => h x (by simp [hx])) ((List.mem_cons.1 hc).resolve_left ?_) _
      rintro rfl
      rw [hfirst] at hspacer
      cases hspacer
    · have hstart : isSpacer first = false := by simpa using hfirst
      have hstray := firstToken_stray (h first (by simp)) hstart (blanks ++ rest)
      exact ⟨_, lexemes_cons_error position hstart hstray⟩

namespace DayNumber

/-- What may stand behind a number of a day. -/
def Ends (rest : List Char) : Prop :=
  ∀ c ∈ rest.head?, isNumberPart c = false ∧ c ≠ 'e' ∧ c ≠ 'E'

theorem lexemes_chars (n : DayNumber) (hrest : Ends rest)
    (hclear : ∀ c ∈ n.blanks, isSpacer c = true) (position : Nat) :
    lexemes position (n.chars ++ rest) =
      (lexemes (position + byteLength n.chars) rest).map
        (n.sign.lexemes (position + byteLength n.blanks) n.magnitude ++ ·) := by
  have hspan : spanNumber (n.digits ++ rest) = (n.digits, rest) := by
    have hdigits : ∀ c ∈ n.digits, isNumberPart c = true := by
      intro c hc
      simp [isNumberPart, n.isDigit_digits c hc]
    obtain ⟨htake, hdrop⟩ := span_append hdigits fun c hc => (hrest c hc).1
    have hexponent : spanExponent rest = ([], rest) := by
      cases rest with
      | nil => rfl
      | cons c rest =>
        obtain ⟨-, hlower, hupper⟩ := hrest c rfl
        rw [spanExponent, if_neg (by simp [hlower, hupper])]
    rw [spanNumber, htake, hdrop, hexponent, List.append_nil]
  rw [chars, List.append_assoc, lexemes_spacers hclear, List.append_assoc,
    lexemes_sign n.sign n.read?_digits hspan, byteLength_append n.blanks, Nat.add_assoc]
  rfl

theorem lexemes_stray (n : DayNumber) (hc : c ∈ n.blanks) (hspacer : isSpacer c = false)
    (position : Nat) (rest : List Char) :
    ∃ fault, lexemes position (n.chars ++ rest) = .error fault := by
  rw [chars, List.append_assoc]
  exact Formula.lexemes_stray n.isBlank_blanks hc hspacer position _

end DayNumber

/-- The marks of days, the tokens they are, and the operators that these stand for. -/
inductive MarksAs : Char → Token → BinaryOp → Prop
  | hyphen : MarksAs '-' .minus .sub
  | slash : MarksAs '/' .slash .div

section Marks

variable {mark : Char} {t : Token} {op : BinaryOp} (hmark : MarksAs mark t op)

include hmark

theorem MarksAs.ends (rest : List Char) : DayNumber.Ends (mark :: rest) := by
  intro c hc
  cases hc
  cases hmark <;> decide

theorem MarksAs.lexemes_cons (position : Nat) (rest : List Char) :
    lexemes position (mark :: rest) = (lexemes (position + 1) rest).map (⟨position, t⟩ :: ·) := by
  have hfirst : firstToken mark rest = .ok ⟨t, [mark], rest⟩ := by
    cases hmark <;> cases rest <;> rfl
  have hsize : byteLength [mark] = 1 := by cases hmark <;> decide
  rw [Formula.lexemes_cons (by cases hmark <;> decide) hfirst, hsize]

/-- Two operators of a kind group to the left. -/
theorem MarksAs.parseTokens_eq (r s u : Sign) (x y z : Float) (i j k l m : Nat) :
    parseTokens (r.lexemes i x ++ ⟨j, t⟩ :: (s.lexemes k y ++ ⟨l, t⟩ :: u.lexemes m z)) =
      .ok (.binary op (.binary op (r.tree x) (s.tree y)) (u.tree z)) := by
  cases hmark <;> cases r <;> cases s <;> cases u <;> rfl

theorem MarksAs.eval_binary (x y : Float) :
    binaryValue op (.number x) (.number y) = .ok (.number (arithmetic op x y)) := by
  cases hmark <;> rfl

end Marks

section DayText

variable {mark : Char} {t : Token} {op : BinaryOp} {a b c : DayNumber}

/-- The tokens of a day whose blanks all separate tokens. -/
theorem lexemes_dayText (hmark : MarksAs mark t op) (ha : ∀ x ∈ a.blanks, isSpacer x = true)
    (hb : ∀ x ∈ b.blanks, isSpacer x = true) (hc : ∀ x ∈ c.blanks, isSpacer x = true) :
    ∃ i j k l m, lexemes 0 (dayText mark a b c) =
      .ok (a.sign.lexemes i a.magnitude ++ ⟨j, t⟩ ::
        (b.sign.lexemes k b.magnitude ++ ⟨l, t⟩ :: c.sign.lexemes m c.magnitude)) := by
  have hlast : ∀ position, lexemes position c.chars =
      .ok (c.sign.lexemes (position + byteLength c.blanks) c.magnitude) := by
    intro position
    have hend := c.lexemes_chars (show DayNumber.Ends [] by simp [DayNumber.Ends]) hc position
    rw [List.append_nil, lexemes] at hend
    simpa [Except.map] using hend
  rw [dayText, a.lexemes_chars (hmark.ends _) ha, hmark.lexemes_cons,
    b.lexemes_chars (hmark.ends _) hb, hmark.lexemes_cons, hlast]
  exact ⟨_, _, _, _, _, rfl⟩

theorem lexemes_dayText_stray (hmark : MarksAs mark t op) {x : Char}
    (hx : x ∈ dayText mark a b c) (hblank : isBlank x = true) (hspacer : isSpacer x = false)
    (position : Nat) : ∃ fault, lexemes position (dayText mark a b c) = .error fault := by
  have hnot : x ≠ mark := by
    rintro rfl
    cases hmark <;> cases hblank
  -- The tokens end before the first number that has such a blank.
  by_cases ha : ∃ y ∈ a.blanks, isSpacer y = false
  · obtain ⟨y, hy, hstray⟩ := ha
    exact a.lexemes_stray hy hstray position _
  have ha' : ∀ y ∈ a.blanks, isSpacer y = true := by simpa using ha
  rw [dayText, a.lexemes_chars (hmark.ends _) ha', hmark.lexemes_cons]
  by_cases hb : ∃ y ∈ b.blanks, isSpacer y = false
  · obtain ⟨y, hy, hstray⟩ := hb
    obtain ⟨fault, hfault⟩ := b.lexemes_stray hy hstray
      (position + byteLength a.chars + 1) (mark :: c.chars)
    exact ⟨fault, by rw [hfault]; rfl⟩
  have hb' : ∀ y ∈ b.blanks, isSpacer y = true := by simpa using hb
  rw [b.lexemes_chars (hmark.ends _) hb', hmark.lexemes_cons]
  -- The numbers before have none, so `x` stands before the last.
  have hc : x ∈ c.blanks := by
    have hclear : ∀ n : DayNumber, (∀ y ∈ n.blanks, isSpacer y = true) → x ∉ n.chars := by
      intro n hn hmem
      rw [hn x (n.mem_blanks hmem hblank)] at hspacer
      cases hspacer
    refine c.mem_blanks ?_ hblank
    rw [dayText] at hx
    have hx := (List.mem_append.1 hx).resolve_left (hclear a ha')
    have hx := (List.mem_append.1 ((List.mem_cons.1 hx).resolve_left hnot)).resolve_left
      (hclear b hb')
    exact (List.mem_cons.1 hx).resolve_left hnot
  obtain ⟨fault, hfault⟩ := c.lexemes_stray hc hspacer
    (position + byteLength a.chars + 1 + byteLength b.chars + 1) []
  rw [List.append_nil] at hfault
  exact ⟨fault, by rw [hfault]; rfl⟩

theorem not_allBlank_dayText {source : String} (htext : source.toList = dayText mark a b c) :
    allBlank source = false := by
  obtain ⟨digit, hmem, hdigit⟩ := a.exists_mem_digits
  exact not_allBlank (by rw [htext]; exact List.mem_append_left _ hmem) (isBlank_of_isDigit hdigit)

end DayText

theorem exists_marksAs_of_read? {day : Date} (h : Date.read? text = some day) :
    ∃ mark t op a b c, MarksAs mark t op ∧ text = dayText mark a b c := by
  obtain ⟨mark, a, b, c, rfl | rfl, htext⟩ := exists_dayText_of_read? h
  · exact ⟨_, _, _, a, b, c, .hyphen, htext⟩
  · exact ⟨_, _, _, a, b, c, .slash, htext⟩

/-- A day whose blanks all separate tokens is a formula that has a number as its value. -/
theorem evaluate_day {source : String} {day : Date} (h : Date.read? source.toList = some day)
    (hclear : ∀ x ∈ source.toList, isBlank x = true → isSpacer x = true) (context : Context) :
    ∃ y, evaluate source context = .ok ⟨.number y, references source⟩ := by
  obtain ⟨mark, t, op, a, b, c, hmark, htext⟩ := exists_marksAs_of_read? h
  have hspacers : ∀ n : DayNumber, n.chars ⊆ dayText mark a b c →
      ∀ x ∈ n.blanks, isSpacer x = true := by
    intro n hsub x hx
    exact hclear x (htext ▸ hsub (List.mem_append_left _ hx)) (n.isBlank_blanks x hx)
  obtain ⟨i, j, k, l, m, htokens⟩ := lexemes_dayText hmark
    (hspacers a fun x hx => by rw [dayText]; simp [hx])
    (hspacers b fun x hx => by rw [dayText]; simp [hx])
    (hspacers c fun x hx => by rw [dayText]; simp [hx])
  have hparse : parse source = .ok (.binary op (.binary op (a.sign.tree a.magnitude)
      (b.sign.tree b.magnitude)) (c.sign.tree c.magnitude)) := by
    rw [parse, tokenize, htext, htokens, ← hmark.parseTokens_eq _ _ _ _ _ _ i j k l m]
    rfl
  refine ⟨arithmetic op (arithmetic op (a.sign.apply a.magnitude) (b.sign.apply b.magnitude))
    (c.sign.apply c.magnitude), ?_⟩
  rw [evaluate_eq, readTree, if_neg (by simp [not_allBlank_dayText htext]), hparse, Except.bind]
  simp [eval, hmark.eval_binary, bind, Except.bind, Except.map]

/-- Every other day is no formula. -/
theorem evaluate_day_stray {source : String} {day : Date}
    (h : Date.read? source.toList = some day) {x : Char} (hx : x ∈ source.toList)
    (hblank : isBlank x = true) (hspacer : isSpacer x = false) (context : Context) :
    ∃ fault, evaluate source context = .error fault := by
  obtain ⟨mark, t, op, a, b, c, hmark, htext⟩ := exists_marksAs_of_read? h
  obtain ⟨fault, hfault⟩ := lexemes_dayText_stray hmark (htext ▸ hx) hblank hspacer 0
  have hparse : parse source = .error fault := by
    rw [parse, tokenize, htext, hfault]
    rfl
  refine ⟨fault, ?_⟩
  rw [evaluate_eq, readTree, if_neg (by simp [not_allBlank_dayText htext]), hparse]
  rfl

/-! ## Texts of numbers are no days -/

/-- Characters of which none is blank, with no hyphen or slash behind the first. -/
structure IsUnmarked (text : List Char) : Prop where
  ne_nil : text ≠ []
  isBlank_eq : ∀ c ∈ text, isBlank c = false
  not_mem_tail : '-' ∉ text.tail ∧ '/' ∉ text.tail

theorem formatNumber_isUnmarked (x : Float) : IsUnmarked (formatNumber x).toList := by
  unfold formatNumber
  split
  · exact ⟨by simp, by simp [isBlank], by simp⟩
  split
  · split
    · exact ⟨by simp, by simp [isBlank], by simp⟩
    · exact ⟨by simp, by simp [isBlank], by simp⟩
  split
  · exact ⟨by simp, by simp [isBlank], by simp⟩
  · rename_i hnan hinf _
    have hfinite := isFinite_of_not_isNaN (by simpa using hnan) (by simpa using hinf)
    obtain ⟨d, htext, -⟩ := render_isSignedText hfinite
    refine ⟨htext.ne_nil, htext.isBlank_eq, ?_⟩
    obtain ⟨digits, hplain, heq⟩ := htext
    have hdigits : ∀ c ∈ digits, c ≠ '-' ∧ c ≠ '/' := by
      intro c hc
      rcases hplain.isDigit_or_point c hc with hdigit | rfl
      · constructor <;> (rintro rfl; cases hdigit)
      · decide
    -- The sign, if there is one, is the first character.
    have hsub : (plain.render x).toList.tail ⊆ digits := by
      rw [heq]
      split
      · simp
      · exact List.tail_subset digits
    exact ⟨fun h => (hdigits _ (hsub h)).1 rfl, fun h => (hdigits _ (hsub h)).2 rfl⟩

end Formula

open Formula

/-- The text of a number is no day. -/
theorem Date.read?_formatNumber (x : Float) : Date.read? (formatNumber x).toList = none := by
  refine Option.eq_none_iff_forall_ne_some.2 fun day h => ?_
  obtain ⟨hhyphen, hslash⟩ := (formatNumber_isUnmarked x).not_mem_tail
  obtain ⟨mark, a, b, c, hmark, htext⟩ := exists_dayText_of_read? h
  obtain ⟨digit, hdigit, -⟩ := a.exists_mem_digits
  obtain ⟨first, rest, hcons⟩ := List.exists_cons_of_ne_nil (List.ne_nil_of_mem hdigit)
  have htail : mark ∈ (formatNumber x).toList.tail := by
    rw [htext, dayText, hcons]
    simp
  rcases hmark with rfl | rfl
  · exact hhyphen htail
  · exact hslash htail

end FormLogic
