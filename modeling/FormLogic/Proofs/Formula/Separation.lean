import FormLogic.Proofs.Formula.Slices

/-!
# FormLogic.Proofs.Formula.Separation

Spacers separate tokens.

* `Lexeme.shift`, `Fault.shift`: a token and a fault that stand further on in a text;
* `lexemes_add`: a text that starts further on has the same tokens or the same fault, further on;
* `lexemes_append`: the tokens of a text stay as they are if a spacer follows the text;
* `tokenize_separated`: the tokens of two texts with spacers between them.
-/

namespace FormLogic
namespace Formula

open Text

/-- The token that many bytes further on. -/
def Lexeme.shift (n : Nat) (t : Lexeme) : Lexeme := { t with position := t.position + n }

/-- The fault that many bytes further on; what is at fault stays the same. -/
def Fault.shift (n : Nat) : Fault → Fault
  | .strayCharacter position found => .strayCharacter (position + n) found
  | .unterminatedText position => .unterminatedText (position + n)
  | .misplaced position what => .misplaced (position + n) what
  | fault => fault

theorem TokenFault.shift_at (what : TokenFault) (position n : Nat) :
    (what.at position).shift n = what.at (position + n) := by
  cases what <;> rfl

/-- A text has the same tokens, or the same fault, wherever it starts. -/
theorem lexemes_add (position n : Nat) (text : List Char) :
    lexemes (position + n) text =
      match lexemes position text with
      | .ok tokens => .ok (tokens.map (·.shift n))
      | .error fault => .error (fault.shift n) := by
  fun_induction lexemes position text with
  | case1 => rw [lexemes]; rfl
  | case2 position c text hspacer ih =>
    rw [lexemes, if_pos hspacer, Nat.add_right_comm, ih]
  | case3 position c text hspacer what hwhat =>
    rw [lexemes_cons_error _ (by simpa using hspacer) hwhat, ← what.shift_at]
  | case4 position c text hspacer cut hcut fault hfault ih =>
    rw [lexemes_cons (by simpa using hspacer) hcut, Nat.add_right_comm, ih, hfault]
    rfl
  | case5 position c text hspacer cut hcut tokens htokens ih =>
    rw [lexemes_cons (by simpa using hspacer) hcut, Nat.add_right_comm, ih, htokens]
    rfl

/-- Nothing that follows a text changes its tokens if it starts with a spacer. -/
theorem lexemes_append {position : Nat} {text next : List Char} {tokens : List Lexeme}
    (h : lexemes position text = .ok tokens) (hnext : Seam [] next) :
    lexemes position (text ++ next) =
      (lexemes (position + byteLength text) next).map (tokens ++ ·) := by
  fun_induction lexemes position text generalizing tokens with
  | case1 position =>
    cases h
    rw [List.nil_append, byteLength_nil, Nat.add_zero]
    cases lexemes position next <;> rfl
  | case2 position c text hspacer ih =>
    rw [List.cons_append, lexemes, if_pos hspacer, ih h, Nat.add_assoc]
    rfl
  | case3 => cases h
  | case4 => cases h
  | case5 position c text hspacer cut hcut more hmore ih =>
    cases h
    -- the token is cut off as before, and what is left starts with all that was left before
    have hseam : Seam cut.rest (cut.rest ++ next) := by
      simpa using hnext.append cut.rest
    obtain ⟨raw, hraw, hagain⟩ := firstToken_seam hcut hseam
    have htext : c :: text ++ next = c :: (raw ++ (cut.rest ++ next)) := by
      rw [← firstToken_append hcut, hraw]
      simp
    have hlength : byteLength (c :: text) = byteLength cut.raw + byteLength cut.rest := by
      rw [← byteLength_append, firstToken_append hcut]
    rw [htext, lexemes_cons (by simpa using hspacer) hagain, ih hmore, hlength, Nat.add_assoc]
    cases lexemes (position + (byteLength cut.raw + byteLength cut.rest)) next <;> rfl

/-- Behind a text with tokens and at least one spacer, every text has its own tokens, or its own
fault, further on by what stands before it. -/
theorem tokenize_separated {before blanks : String} {tokens : List Lexeme}
    (h : tokenize before = .ok tokens) (hne : blanks ≠ "")
    (hblanks : blanks.toList.all isSpacer = true) (after : String) :
    tokenize (before ++ blanks ++ after) =
      match tokenize after with
      | .ok more => .ok (tokens ++ more.map (·.shift (before ++ blanks).utf8ByteSize))
      | .error fault => .error (fault.shift (before ++ blanks).utf8ByteSize) := by
  have hspacers : ∀ c ∈ blanks.toList, isSpacer c = true := List.all_eq_true.1 hblanks
  have hseam : Seam [] (blanks.toList ++ after.toList) := by
    cases hlist : blanks.toList with
    | nil => exact absurd (String.toList_eq_nil_iff.1 hlist) hne
    | cons c rest => exact .spacer (hspacers c (by simp [hlist])) [] _
  have hlength : byteLength before.toList + byteLength blanks.toList =
      (before ++ blanks).utf8ByteSize := by
    rw [← byteLength_append, ← String.toList_append, byteLength_toList]
  have hafter := lexemes_add 0 (before ++ blanks).utf8ByteSize after.toList
  rw [Nat.zero_add] at hafter
  rw [tokenize, String.toList_append, String.toList_append, List.append_assoc,
    lexemes_append h hseam, Nat.zero_add, lexemes_spacers hspacers, hlength, hafter, tokenize]
  cases lexemes 0 after.toList <;> rfl

/-- Between `<` and `=` a spacer keeps the two apart, and behind it a number is as malformed as on
its own. -/
theorem tokenize_separated_signs :
    let before := "'é'<"
    let blanks := "\t "
    tokenize before = .ok [⟨0, .text "é"⟩, ⟨4, .lt⟩] ∧ blanks ≠ "" ∧
      blanks.toList.all isSpacer = true ∧
      tokenize (before ++ blanks ++ "= e") =
        .ok [⟨0, .text "é"⟩, ⟨4, .lt⟩, ⟨7, .eq⟩, ⟨9, .word "e"⟩] ∧
      tokenize (before ++ blanks ++ "= 1..2") =
        .error (.misplaced 9 (.malformedNumber "1..2")) := by
  intro before blanks
  have hbefore : tokenize before = .ok [⟨0, .text "é"⟩, ⟨4, .lt⟩] := by cbv
  have hblanks : blanks.toList.all isSpacer = true := by decide
  have htokens : tokenize "= e" = .ok [⟨0, .eq⟩, ⟨2, .word "e"⟩] := by cbv
  have hfault : tokenize "= 1..2" = .error (.misplaced 2 (.malformedNumber "1..2")) := by cbv
  refine ⟨hbefore, by decide, hblanks, ?_, ?_⟩
  · rw [tokenize_separated hbefore (by decide) hblanks, htokens]
    decide
  · rw [tokenize_separated hbefore (by decide) hblanks, hfault]
    decide

end Formula
end FormLogic
