import FormLogic.Formula.Fault
import FormLogic.Text.Blank

/-!
# FormLogic.Formula.Lexeme

Cutting a formula into tokens.

* `firstToken`: the token at the head of a text, its characters and what follows it;
* `Cuts`: the ways in which a token is cut off;
* `lexemes`: all tokens with their byte offsets;
* `tokenize`: the tokens of a formula.
-/

namespace FormLogic
namespace Formula

open Text

/-- Why no token starts here. -/
inductive TokenFault where
  | stray (found : Char)
  | unterminated
  | malformedNumber (digits : String)
deriving DecidableEq

/-- The fault with the byte offset where the token would start. -/
def TokenFault.at (position : Nat) : TokenFault → Fault
  | .stray found => .strayCharacter position found
  | .unterminated => .unterminatedText position
  | .malformedNumber digits => .misplaced position (.malformedNumber digits)

def isWordStart (c : Char) : Bool := c.isAlpha || c == '_'

def isWordPart (c : Char) : Bool := c.isAlphanum || c == '_'

def isNumberPart (c : Char) : Bool := c.isDigit || c == '.'

/-- The bytes of a text. -/
def byteLength (text : List Char) : Nat :=
  (text.map fun c => c.utf8Size).foldr (· + ·) 0

@[simp] theorem byteLength_nil : byteLength [] = 0 := rfl

theorem byteLength_append (text rest : List Char) :
    byteLength (text ++ rest) = byteLength text + byteLength rest := by
  induction text with
  | nil => simp [byteLength]
  | cons c text ih =>
    have hcons : ∀ l, byteLength (c :: l) = c.utf8Size + byteLength l := fun _ => rfl
    rw [List.cons_append, hcons, hcons, ih, Nat.add_assoc]

/-- A token cut off the head of a text: its characters and those behind it. -/
structure Cut where
  token : Token
  raw : List Char
  rest : List Char
deriving DecidableEq

/-- The sign at the head of a text and what follows it. -/
def spanSign : List Char → List Char × List Char
  | '+' :: rest => (['+'], rest)
  | '-' :: rest => (['-'], rest)
  | text => ([], text)

theorem length_dropWhile_le {α : Type} (p : α → Bool) (l : List α) :
    (l.dropWhile p).length ≤ l.length :=
  (List.dropWhile_sublist p).length_le

/-- The exponent at the head of a text and what follows it; empty unless a digit is in it. -/
def spanExponent : List Char → List Char × List Char
  | [] => ([], [])
  | mark :: rest =>
    if mark = 'e' || mark = 'E' then
      match (spanSign rest).2.takeWhile Char.isDigit with
      | [] => ([], mark :: rest)
      | d :: ds => (mark :: (spanSign rest).1 ++ d :: ds, (spanSign rest).2.dropWhile Char.isDigit)
    else ([], mark :: rest)

/-- The characters of the number at the head of a text, and what follows them. -/
def spanNumber (text : List Char) : List Char × List Char :=
  let exponent := spanExponent (text.dropWhile isNumberPart)
  (text.takeWhile isNumberPart ++ exponent.1, exponent.2)

/-- The characters before the closing quote, escapes as they are written, and those behind it. -/
def spanQuoted (quote : Char) : List Char → Option (List Char × List Char)
  | [] => none
  | c :: rest =>
    if c = '\\' then
      match rest with
      | [] => none
      | e :: rest => (spanQuoted quote rest).map fun r => (c :: e :: r.1, r.2)
    else if c = quote then some ([], rest)
    else (spanQuoted quote rest).map fun r => (c :: r.1, r.2)

/-- The character that a backslash and `c` stand for. -/
def unescape (c : Char) : Char :=
  if c = 'n' then '\n' else if c = 't' then '\t' else c

/-- The text that is written between two quotes. -/
def unescapeAll : List Char → List Char
  | [] => []
  | c :: rest =>
    if c = '\\' then
      match rest with
      | [] => [c]
      | e :: rest => unescape e :: unescapeAll rest
    else c :: unescapeAll rest

/-- The operators of two characters. -/
def doubleOperator? : Char → Char → Option Token
  | '=', '=' => some .eq
  | '!', '=' => some .ne
  | '<', '>' => some .ne
  | '<', '=' => some .le
  | '>', '=' => some .ge
  | '&', '&' => some .and
  | '|', '|' => some .or
  | _, _ => none

/-- The operators of one character; a lone `=` is equality. -/
def singleOperator? : Char → Option Token
  | '+' => some .plus
  | '-' => some .minus
  | '*' => some .star
  | '/' => some .slash
  | '%' => some .percent
  | '^' => some .caret
  | '=' => some .eq
  | '<' => some .lt
  | '>' => some .gt
  | '!' => some .bang
  | '?' => some .question
  | ':' => some .colon
  | '(' => some .open
  | ')' => some .close
  | ',' => some .comma
  | _ => none

def singleToken (c : Char) (rest : List Char) : Except TokenFault Cut :=
  match singleOperator? c with
  | some t => .ok ⟨t, [c], rest⟩
  | none => .error (.stray c)

/-- The operator that `c` starts, one of two characters before one of one. -/
def operatorToken (c : Char) : List Char → Except TokenFault Cut
  | [] => singleToken c []
  | d :: rest =>
    match doubleOperator? c d with
    | some t => .ok ⟨t, [c, d], rest⟩
    | none => singleToken c (d :: rest)

def numberToken (text : List Char) : Except TokenFault Cut :=
  let (raw, rest) := spanNumber text
  match Number.readChars? raw with
  | some x => .ok ⟨.number x, raw, rest⟩
  | none => .error (.malformedNumber (String.ofList raw))

def textToken (quote : Char) (text : List Char) : Except TokenFault Cut :=
  match spanQuoted quote text with
  | some (raw, rest) =>
    .ok ⟨.text (String.ofList (unescapeAll raw)), quote :: raw ++ [quote], rest⟩
  | none => .error .unterminated

/-- A name behind the sign of a field. -/
def fieldToken (sign : Char) : List Char → Except TokenFault Cut
  | [] => .error (.stray sign)
  | c :: rest =>
    if isWordStart c then
      let name := c :: rest.takeWhile isWordPart
      .ok ⟨.field (String.ofList name), sign :: name, rest.dropWhile isWordPart⟩
    else .error (.stray sign)

def wordToken (c : Char) (rest : List Char) : Cut :=
  let name := c :: rest.takeWhile isWordPart
  ⟨.word (String.ofList name), name, rest.dropWhile isWordPart⟩

/-- The token that starts with `c`. -/
def firstToken (c : Char) (rest : List Char) : Except TokenFault Cut :=
  if isNumberPart c then numberToken (c :: rest)
  else if c = '\'' || c = '"' then textToken c rest
  else if c = '@' then fieldToken c rest
  else if isWordStart c then .ok (wordToken c rest)
  else operatorToken c rest

theorem spanSign_append (text : List Char) :
    (spanSign text).1 ++ (spanSign text).2 = text := by
  fun_cases spanSign text <;> simp

theorem spanExponent_append (text : List Char) :
    (spanExponent text).1 ++ (spanExponent text).2 = text := by
  fun_cases spanExponent text with
  | case1 => rfl
  | case2 => rfl
  | case3 mark rest _ d ds hd =>
    have h := List.takeWhile_append_dropWhile (p := Char.isDigit) (l := (spanSign rest).2)
    have hs := spanSign_append rest
    rw [← h, hd] at hs
    simpa using hs
  | case4 => rfl

theorem spanNumber_append (text : List Char) :
    (spanNumber text).1 ++ (spanNumber text).2 = text := by
  simp [spanNumber, spanExponent_append]

theorem exists_cons_of_spanNumber {c : Char} {text raw rest : List Char}
    (hc : isNumberPart c = true) (h : spanNumber (c :: text) = (raw, rest)) :
    ∃ tail, raw = c :: tail := by
  have hraw := congrArg Prod.fst h
  rw [spanNumber, List.takeWhile_cons_of_pos hc] at hraw
  exact ⟨_, hraw.symm⟩

theorem spanQuoted_append {quote : Char} {text raw rest : List Char}
    (h : spanQuoted quote text = some (raw, rest)) : raw ++ quote :: rest = text := by
  fun_induction spanQuoted quote text generalizing raw with
  | case1 => cases h
  | case2 => cases h
  | case3 e tail ih =>
    obtain ⟨r, hr, he⟩ := Option.map_eq_some_iff.1 h
    cases he
    simpa using ih hr
  | case4 => cases h; rfl
  | case5 c tail _ _ ih =>
    obtain ⟨r, hr, he⟩ := Option.map_eq_some_iff.1 h
    cases he
    simpa using ih hr

/-- The ways in which a token is cut off the head of a text. -/
inductive Cuts : Char → List Char → Cut → Prop
  | number {c : Char} {text raw rest : List Char} {x : Float} (hc : isNumberPart c = true)
      (hspan : spanNumber (c :: text) = (raw, rest)) (hread : Number.readChars? raw = some x) :
      Cuts c text ⟨.number x, raw, rest⟩
  | text {quote : Char} {text raw rest : List Char} (hquote : quote = '\'' ∨ quote = '"')
      (hspan : spanQuoted quote text = some (raw, rest)) :
      Cuts quote text ⟨.text (String.ofList (unescapeAll raw)), quote :: raw ++ [quote], rest⟩
  | field {c : Char} (hc : isWordStart c = true) (text : List Char) :
      Cuts '@' (c :: text) ⟨.field (String.ofList (c :: text.takeWhile isWordPart)),
        '@' :: c :: text.takeWhile isWordPart, text.dropWhile isWordPart⟩
  | word {c : Char} (hc : isWordStart c = true) (text : List Char) : Cuts c text (wordToken c text)
  | double {c d : Char} {t : Token} (ht : doubleOperator? c d = some t) (rest : List Char) :
      Cuts c (d :: rest) ⟨t, [c, d], rest⟩
  | single {c : Char} {rest : List Char} {t : Token} (ht : singleOperator? c = some t)
      (hrest : ∀ d ∈ rest.head?, doubleOperator? c d = none) : Cuts c rest ⟨t, [c], rest⟩

theorem cuts_of_operatorToken {c : Char} {text : List Char} {cut : Cut}
    (h : operatorToken c text = .ok cut) : Cuts c text cut := by
  have single : singleToken c text = .ok cut →
      (∀ d ∈ text.head?, doubleOperator? c d = none) → Cuts c text cut := by
    intro h hnone
    unfold singleToken at h
    split at h
    · rename_i t ht
      cases h
      exact .single ht hnone
    · cases h
  unfold operatorToken at h
  split at h
  · exact single h nofun
  split at h
  · rename_i t ht
    cases h
    exact .double ht _
  · rename_i hnone
    exact single h fun _ hd => by cases hd; exact hnone

/-- A token is cut off in one of these ways. -/
theorem cuts_of_firstToken {c : Char} {text : List Char} {cut : Cut}
    (h : firstToken c text = .ok cut) : Cuts c text cut := by
  unfold firstToken at h
  split at h
  · rename_i hc
    simp only [numberToken] at h
    split at h
    · rename_i x hread
      cases h
      exact .number hc rfl hread
    · cases h
  split at h
  · rename_i hquote
    unfold textToken at h
    split at h
    · rename_i raw rest hspan
      cases h
      exact .text (by simpa using hquote) hspan
    · cases h
  split at h
  · rename_i hsign
    subst hsign
    unfold fieldToken at h
    split at h
    · cases h
    split at h
    · rename_i hc
      cases h
      exact .field hc _
    · cases h
  split at h
  · rename_i hc
    cases h
    exact .word hc text
  · exact cuts_of_operatorToken h

/-- A token and what follows it are the text it was cut from. -/
theorem firstToken_append {c : Char} {text : List Char} {cut : Cut}
    (h : firstToken c text = .ok cut) : cut.raw ++ cut.rest = c :: text := by
  cases cuts_of_firstToken h with
  | number _ hspan =>
    have happ := spanNumber_append (c :: text)
    rwa [hspan] at happ
  | text _ hspan => simpa using spanQuoted_append hspan
  | field => simp
  | word => simp [wordToken]
  | double => rfl
  | single => rfl

/-- A token has at least one character. -/
theorem firstToken_raw_ne_nil {c : Char} {text : List Char} {cut : Cut}
    (h : firstToken c text = .ok cut) : cut.raw ≠ [] := by
  cases cuts_of_firstToken h with
  | number hc hspan =>
    obtain ⟨tail, rfl⟩ := exists_cons_of_spanNumber hc hspan
    exact List.cons_ne_nil c tail
  | text => simp
  | field => simp
  | word => simp [wordToken]
  | double => simp
  | single => simp

theorem firstToken_rest_length {c : Char} {text : List Char} {cut : Cut}
    (h : firstToken c text = .ok cut) : cut.rest.length ≤ text.length := by
  have happ := congrArg List.length (firstToken_append h)
  have hne := List.length_pos_iff.2 (firstToken_raw_ne_nil h)
  simp only [List.length_append, List.length_cons] at happ
  omega

/-- The tokens of a text that starts at the byte offset `position`. -/
def lexemes (position : Nat) : List Char → Except Fault (List Lexeme)
  | [] => .ok []
  | c :: rest =>
    if isSpacer c then lexemes (position + c.utf8Size) rest
    else
      match _h : firstToken c rest with
      | .error fault => .error (fault.at position)
      | .ok cut =>
        match lexemes (position + byteLength cut.raw) cut.rest with
        | .error fault => .error fault
        | .ok tokens => .ok (⟨position, cut.token⟩ :: tokens)
termination_by text => text.length
decreasing_by
  · simp
  · have := firstToken_rest_length _h; simp; omega

/-- The first token, and those behind it. -/
theorem lexemes_cons {c : Char} {text : List Char} {cut : Cut} {position : Nat}
    (hspacer : isSpacer c = false) (h : firstToken c text = .ok cut) :
    lexemes position (c :: text) =
      (lexemes (position + byteLength cut.raw) cut.rest).map (⟨position, cut.token⟩ :: ·) := by
  rw [lexemes, if_neg (by simp [hspacer])]
  split
  · rename_i hfault
    rw [h] at hfault
    cases hfault
  · rename_i cut' hcut
    rw [h] at hcut
    cases hcut
    cases lexemes (position + byteLength cut.raw) cut.rest <;> rfl

/-- A fault of the first token is the fault of the text. -/
theorem lexemes_cons_error {c : Char} {text : List Char} {what : TokenFault} (position : Nat)
    (hspacer : isSpacer c = false) (h : firstToken c text = .error what) :
    lexemes position (c :: text) = .error (what.at position) := by
  rw [lexemes, if_neg (by simp [hspacer])]
  split
  · rename_i what' hwhat
    rw [h] at hwhat
    cases hwhat
    rfl
  · rename_i cut hcut
    rw [h] at hcut
    cases hcut

theorem lexemes_spacers {blanks : List Char} (h : ∀ c ∈ blanks, isSpacer c = true)
    (position : Nat) (rest : List Char) :
    lexemes position (blanks ++ rest) = lexemes (position + byteLength blanks) rest := by
  induction blanks generalizing position with
  | nil => rfl
  | cons c blanks ih =>
    rw [List.cons_append, lexemes, if_pos (h c (by simp)), ih fun x hx => h x (by simp [hx]),
      Nat.add_assoc]
    rfl

/-- The tokens of a formula, or the first fault. -/
def tokenize (source : String) : Except Fault (List Lexeme) :=
  lexemes 0 source.toList

end Formula
end FormLogic
