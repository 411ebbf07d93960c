import FormLogic.Proofs.Formula.Cut
import Mathlib.Data.String.Basic

/-!
# FormLogic.Proofs.Formula.Slices

The tokens of a text cut it into slices.

* `slice`, `StartsCharacter`: byte offsets of a text;
* `Slices position text tokens`: parts of the text, one for each token, in which the token stands
  alone;
* `exists_slices`: behind the spacers at its start, a text with tokens consists of such parts;
* `exists_before_fault`: where the search for tokens fails, all that stands before has tokens;
* `tokenize_exact`: both for texts and byte offsets.
-/

namespace FormLogic
namespace Formula

open Text

variable {c : Char} {text rest before : List Char} {position : Nat} {tokens : List Lexeme}

/-! ## Byte offsets -/

/-- The text between two byte offsets. -/
def slice (source : String) (start stop : Nat) : String :=
  String.Pos.Raw.extract source ⟨start⟩ ⟨stop⟩

/-- The byte offset of a character of the text. -/
def StartsCharacter (source : String) (offset : Nat) : Prop :=
  offset < source.utf8ByteSize ∧ String.Pos.Raw.IsValid source ⟨offset⟩

theorem byteLength_eq_utf8Len (text : List Char) : byteLength text = String.utf8Len text := by
  induction text with
  | nil => rfl
  | cons c text ih =>
    rw [String.utf8Len_cons, ← ih, Nat.add_comm]
    rfl

theorem byteLength_toList (source : String) : byteLength source.toList = source.utf8ByteSize := by
  rw [byteLength_eq_utf8Len, String.utf8Len_toList]

theorem byteLength_pos (h : text ≠ []) : 0 < byteLength text := by
  rw [byteLength_eq_utf8Len]
  exact Nat.pos_of_ne_zero fun hzero => h (String.utf8Len_eq_zero.1 hzero)

theorem slice_ofList (before part rest : List Char) :
    slice (String.ofList (before ++ part ++ rest)) (byteLength before)
      (byteLength before + byteLength part) = String.ofList part := by
  simp only [slice, byteLength_eq_utf8Len]
  exact String.extract_of_valid before part rest

theorem startsCharacter_ofList (before : List Char) {rest : List Char} (hrest : rest ≠ []) :
    StartsCharacter (String.ofList (before ++ rest)) (byteLength before) := by
  have hpos := byteLength_pos hrest
  refine ⟨?_, ?_⟩
  · rw [← byteLength_toList, String.toList_ofList, byteLength_append]
    omega
  · refine String.Pos.Raw.isValid_iff_exists_append.2
      ⟨String.ofList before, String.ofList rest, String.ofList_append, ?_⟩
    rw [String.rawEndPos_ofList, byteLength_eq_utf8Len]

theorem get?_ofList (before : List Char) (c : Char) (rest : List Char) :
    String.Pos.Raw.get? (String.ofList (before ++ c :: rest)) ⟨byteLength before⟩ = some c := by
  rw [byteLength_eq_utf8Len]
  exact String.get?_of_valid before (c :: rest)

/-! ## Tokens -/

/-- Parts of a text at a byte offset, in each of which one token stands alone. -/
inductive Slices : Nat → List Char → List Lexeme → Prop
  | nil (position : Nat) : Slices position [] []
  | cons {position : Nat} {part rest : List Char} {token : Token} {tokens : List Lexeme}
      (hpart : part ≠ []) (halone : lexemes 0 part = .ok [⟨0, token⟩])
      (hrest : Slices (position + byteLength part) rest tokens) :
      Slices position (part ++ rest) (⟨position, token⟩ :: tokens)

theorem lexemes_only_spacers {blanks : List Char} (h : ∀ c ∈ blanks, isSpacer c = true)
    (position : Nat) : lexemes position blanks = .ok [] := by
  have hspacers := lexemes_spacers h position []
  rwa [List.append_nil, lexemes] at hspacers

/-- Behind the spacers at its start, a text with tokens consists of slices. -/
theorem exists_slices (h : lexemes position text = .ok tokens) :
    ∃ blanks rest, text = blanks ++ rest ∧ (∀ c ∈ blanks, isSpacer c = true) ∧
      Slices (position + byteLength blanks) rest tokens := by
  fun_induction lexemes position text generalizing tokens with
  | case1 position =>
    cases h
    exact ⟨[], [], rfl, nofun, .nil _⟩
  | case2 position c text hspacer ih =>
    obtain ⟨blanks, rest, rfl, hblanks, hrest⟩ := ih h
    refine ⟨c :: blanks, rest, rfl, ?_, ?_⟩
    · simpa [hspacer] using hblanks
    · rwa [Nat.add_assoc] at hrest
  | case3 => cases h
  | case4 => cases h
  | case5 position c text hspacer cut hcut found hfound ih =>
    cases h
    obtain ⟨blanks, rest, hcutrest, hblanks, hrest⟩ := ih hfound
    -- the part of the token reaches up to the next one, and ends in the spacers between them
    obtain ⟨raw, hraw, hagain⟩ := firstToken_seam hcut (Seam.of_spacers hblanks _)
    have halone : lexemes 0 (cut.raw ++ blanks) = .ok [⟨0, cut.token⟩] := by
      rw [hraw, List.cons_append, lexemes_cons (by simpa using hspacer) hagain]
      simp only [lexemes_only_spacers hblanks]
      rfl
    have htext : c :: text = (cut.raw ++ blanks) ++ rest := by
      rw [← firstToken_append hcut, hcutrest, List.append_assoc]
    refine ⟨[], c :: text, rfl, nofun, ?_⟩
    rw [htext]
    refine .cons (by simp [hraw]) halone ?_
    rwa [byteLength_append, ← Nat.add_assoc]

/-- Where the search for tokens fails, all that stands before has tokens. -/
theorem exists_before_fault {fault : Fault} (h : lexemes position text = .error fault) :
    ∃ before c rest what, text = before ++ c :: rest ∧
      fault = TokenFault.at (position + byteLength before) what ∧ what.Starts c ∧
      ∃ tokens, lexemes position before = .ok tokens := by
  fun_induction lexemes position text with
  | case1 => cases h
  | case2 position c text hspacer ih =>
    obtain ⟨before, d, rest, what, rfl, hfault, hwhat, tokens, htokens⟩ := ih h
    refine ⟨c :: before, d, rest, what, rfl, ?_, hwhat, tokens, ?_⟩
    · rwa [Nat.add_assoc] at hfault
    · rwa [lexemes, if_pos hspacer]
  | case3 position c text hspacer what hwhat =>
    cases h
    exact ⟨[], c, text, what, rfl, rfl, starts_of_firstToken hwhat, [], by rw [lexemes]⟩
  | case4 position c text hspacer cut hcut fault' hfault ih =>
    cases h
    obtain ⟨before, d, rest, what, hrest, rfl, hwhat, tokens, htokens⟩ := ih hfault
    have hprefix : before <+: cut.rest := ⟨d :: rest, hrest.symm⟩
    obtain ⟨raw, hraw, hagain⟩ := firstToken_seam hcut (Seam.of_prefix hprefix)
    refine ⟨cut.raw ++ before, d, rest, what, ?_, ?_, hwhat,
      ⟨position, cut.token⟩ :: tokens, ?_⟩
    · rw [← firstToken_append hcut, hrest, List.append_assoc]
    · rw [byteLength_append, Nat.add_assoc]
    · rw [hraw, List.cons_append, lexemes_cons (by simpa using hspacer) hagain]
      simp only [htokens]
      rfl
  | case5 => cases h

/-- Where the token with the index `i` starts; behind the last token, `stop`. -/
def tokenStart (stop : Nat) (tokens : List Lexeme) (i : Nat) : Nat :=
  (tokens[i]?.map Lexeme.position).getD stop

namespace Slices

theorem tokenStart_zero (h : Slices position text tokens) :
    tokenStart (position + byteLength text) tokens 0 = position := by
  cases h <;> rfl

theorem le_position (h : Slices position text tokens) {t : Lexeme} (ht : t ∈ tokens) :
    position ≤ t.position := by
  induction h with
  | nil => cases ht
  | cons _ _ _ ih =>
    rcases List.mem_cons.1 ht with rfl | ht
    · exact Nat.le_refl _
    · have hle := ih ht
      omega

theorem pairwise (h : Slices position text tokens) :
    tokens.Pairwise fun a b => a.position < b.position := by
  induction h with
  | nil => exact .nil
  | cons hpart _ hrest ih =>
    refine .cons (fun t ht => ?_) ih
    have hle := hrest.le_position ht
    have hpos := byteLength_pos hpart
    simp only
    omega

/-- The part from one token up to the next. -/
theorem exists_part (h : Slices position text tokens) {i : Nat} (hi : i < tokens.length) :
    ∃ before part rest, text = before ++ part ++ rest ∧ part ≠ [] ∧
      tokens[i].position = position + byteLength before ∧
      tokenStart (position + byteLength text) tokens (i + 1) =
        position + byteLength before + byteLength part ∧
      lexemes 0 part = .ok [⟨0, tokens[i].token⟩] := by
  induction h generalizing i with
  | nil => cases hi
  | @cons position part rest token tokens hpart halone hrest ih =>
    have hshift : position + byteLength (part ++ rest) =
        position + byteLength part + byteLength rest := by
      rw [byteLength_append, Nat.add_assoc]
    cases i with
    | zero =>
      refine ⟨[], part, rest, rfl, hpart, rfl, ?_, halone⟩
      rw [hshift]
      exact hrest.tokenStart_zero
    | succ i =>
      obtain ⟨before, later, behind, rfl, hne, hstart, hstop, hlater⟩ :=
        ih (Nat.lt_of_succ_lt_succ hi)
      refine ⟨part ++ before, later, behind, by simp, hne, ?_, ?_, hlater⟩
      · rw [byteLength_append, ← Nat.add_assoc]
        exact hstart
      · rw [hshift, byteLength_append part before, ← Nat.add_assoc position]
        exact hstop

end Slices

/-- The tokens cut the text into parts, and each is the only token of its part. -/
structure Partition (source : String) (tokens : List Lexeme) : Prop where
  increasing : tokens.Pairwise fun a b => a.position < b.position
  startsCharacter : ∀ t ∈ tokens, StartsCharacter source t.position
  leading : (slice source 0 (tokenStart source.utf8ByteSize tokens 0)).toList.all isSpacer = true
  alone : ∀ i (hi : i < tokens.length),
    tokenize (slice source tokens[i].position (tokenStart source.utf8ByteSize tokens (i + 1))) =
      .ok [⟨0, tokens[i].token⟩]

/-- No token starts with the character at the byte offset, and what stands before it has tokens. -/
structure FailsAt (source : String) (position : Nat) (what : TokenFault) : Prop where
  startsCharacter : StartsCharacter source position
  before : ∃ tokens, tokenize (slice source 0 position) = .ok tokens
  character : ∃ c, String.Pos.Raw.get? source ⟨position⟩ = some c ∧ what.Starts c

theorem partition_of_tokenize {source : String} (h : tokenize source = .ok tokens) :
    Partition source tokens := by
  obtain ⟨blanks, rest, htext, hblanks, hslices⟩ := exists_slices h
  obtain rfl : source = String.ofList (blanks ++ rest) := by rw [← htext, String.ofList_toList]
  rw [Nat.zero_add] at hslices
  have hsize : (String.ofList (blanks ++ rest)).utf8ByteSize =
      byteLength blanks + byteLength rest := by
    rw [← byteLength_toList, String.toList_ofList, byteLength_append]
  refine ⟨hslices.pairwise, fun t ht => ?_, ?_, fun i hi => ?_⟩
  · obtain ⟨i, hi, rfl⟩ := List.getElem_of_mem ht
    obtain ⟨before, part, behind, rfl, hne, hstart, -, -⟩ := hslices.exists_part hi
    have hne : part ++ behind ≠ [] := by simp [hne]
    have hstarts := startsCharacter_ofList (blanks ++ before) hne
    rw [byteLength_append, ← hstart] at hstarts
    simpa using hstarts
  · have hleading := slice_ofList [] blanks rest
    rw [List.nil_append, byteLength_nil, Nat.zero_add] at hleading
    rw [hsize, hslices.tokenStart_zero, hleading, String.toList_ofList]
    exact List.all_eq_true.2 hblanks
  · obtain ⟨before, part, behind, rfl, hne, hstart, hstop, halone⟩ := hslices.exists_part hi
    have hpart := slice_ofList (blanks ++ before) part behind
    rw [byteLength_append blanks before, ← hstart] at hpart
    rw [hsize, hstop, ← hstart, tokenize]
    simp only [List.append_assoc] at hpart ⊢
    rw [hpart, String.toList_ofList, halone]

theorem failsAt_of_tokenize {source : String} {fault : Fault} (h : tokenize source = .error fault) :
    ∃ position what, fault = TokenFault.at position what ∧ FailsAt source position what := by
  obtain ⟨before, c, rest, what, htext, rfl, hstarts, tokens, htokens⟩ := exists_before_fault h
  obtain rfl : source = String.ofList (before ++ c :: rest) := by
    rw [← htext, String.ofList_toList]
  have hbefore := slice_ofList [] before (c :: rest)
  rw [List.nil_append, byteLength_nil, Nat.zero_add] at hbefore
  refine ⟨byteLength before, what, by rw [Nat.zero_add], ?_, ⟨tokens, ?_⟩, c, ?_, hstarts⟩
  · exact startsCharacter_ofList before (List.cons_ne_nil c rest)
  · rw [hbefore, tokenize, String.toList_ofList, htokens]
  · exact get?_ofList before c rest

/-- The tokens of a text partition it, and a fault of its characters is where it says to be. -/
theorem tokenize_exact (source : String) :
    match tokenize source with
    | .ok tokens => Partition source tokens
    | .error fault =>
      ∃ position what, fault = TokenFault.at position what ∧ FailsAt source position what := by
  cases h : tokenize source with
  | ok tokens => exact partition_of_tokenize h
  | error fault => exact failsAt_of_tokenize h

example : tokenize "'é' ≤" = .error (.strayCharacter 5 '≤') := by cbv

end Formula
end FormLogic
