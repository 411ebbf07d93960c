import FormLogic.Proofs.Formula.Cut
import FormLogic.Proofs.Formula.References

/-!
# FormLogic.Proofs.Formula.Mentions

References are found by a search of the characters, fields by cutting off tokens.  In a text with
tokens the two differ only by what stands in its string literals.

* `mentions_append_cons`: the search can be split at a character that no reference holds;
* `cuts`: the tokens of a text with their characters; `literals`: its string literals;
* `Cut.references`: what is found in the characters of one token;
* `mentions_of_lexemes`: what is found in a text is found in its tokens, one after another;
* `references_of_tokenize`: the references of a text beside the fields among its tokens.
-/

namespace FormLogic
namespace Formula

open Text

variable {c : Char} {text rest before : List Char} {cut : Cut}

/-! ## The search, piece by piece -/

theorem mentions_cons_of_ne (h : c ≠ '@') (rest : List Char) :
    mentions (c :: rest) = mentions rest := by
  cases rest with
  | nil => simp [mentions]
  | cons d rest => rw [mentions, if_neg (by simp [h])]

/-- Nothing is found before the first sign. -/
theorem mentions_append_of_not_mem (h : '@' ∉ before) (rest : List Char) :
    mentions (before ++ rest) = mentions rest := by
  induction before with
  | nil => rfl
  | cons c before ih =>
    obtain ⟨hc, hbefore⟩ := List.ne_and_not_mem_of_not_mem_cons h
    rw [List.cons_append, mentions_cons_of_ne hc.symm, ih hbefore]

theorem takeWhile_append_cons {p : Char → Bool} (hc : p c = false) (text rest : List Char) :
    (text ++ c :: rest).takeWhile p = text.takeWhile p := by
  induction text with
  | nil => simp [hc]
  | cons a text ih =>
    by_cases ha : p a = true
    · simp [ha, ih]
    · simp [ha]

theorem isWordStart_of_not_isWordPart (h : isWordPart c = false) : isWordStart c = false := by
  simp only [isWordPart, Char.isAlphanum, Bool.or_eq_false_iff] at h
  simp [isWordStart, h]

/-- A character that is in no reference separates what is found before it from what is found
behind it. -/
theorem mentions_append_cons (hpart : isWordPart c = false) (hsign : c ≠ '@')
    (before rest : List Char) :
    mentions (before ++ c :: rest) = mentions before ++ mentions rest := by
  fun_induction mentions before with
  | case1 => exact mentions_cons_of_ne hsign rest
  | case2 a =>
    have hstart := isWordStart_of_not_isWordPart hpart
    rw [List.cons_append, List.nil_append, mentions, if_neg (by simp [hstart])]
    exact mentions_cons_of_ne hsign rest
  | case3 sign d tail hname ih =>
    rw [List.cons_append, List.cons_append, mentions, if_pos hname, takeWhile_append_cons hpart,
      dropWhile_append_cons hpart, ih]
    rfl
  | case4 sign d tail hname ih =>
    rw [List.cons_append, List.cons_append, mentions, if_neg hname]
    exact ih

theorem mentions_eq_nil_iff :
    mentions text = [] ↔ ∀ c, isWordStart c = true → ¬ ['@', c] <:+: text := by
  constructor
  · rintro hnil c hc ⟨before, rest, rfl⟩
    have hfound := mem_mentions hc before rest
    rw [List.append_assoc] at hnil
    exact List.not_mem_nil (hnil ▸ hfound)
  · intro h
    refine List.eq_nil_iff_forall_not_mem.2 fun name hname => ?_
    obtain ⟨before, c, rest, rfl, hc, -⟩ := exists_of_mem_mentions hname
    exact h c hc ⟨before, rest, by simp⟩

/-- A name that is found has the sign before it. -/
theorem infix_of_mem_mentions {name : List Char} (h : name ∈ mentions text) :
    '@' :: name <:+: text := by
  obtain ⟨before, c, rest, rfl, -, rfl⟩ := exists_of_mem_mentions h
  exact ⟨before, rest.dropWhile isWordPart, by simp⟩

/-! ## Tokens with their characters -/

/-- The tokens of a text as they are cut off, up to the first fault. -/
def cuts : List Char → List Cut
  | [] => []
  | c :: rest =>
    if isSpacer c then cuts rest
    else
      match _h : firstToken c rest with
      | .error _ => []
      | .ok cut => cut :: cuts cut.rest
termination_by text => text.length
decreasing_by
  · simp
  · have := firstToken_rest_length _h; simp; omega

theorem cuts_cons (hspacer : isSpacer c = false) (h : firstToken c text = .ok cut) :
    cuts (c :: text) = cut :: cuts cut.rest := by
  rw [cuts, if_neg (by simp [hspacer])]
  split
  · rename_i hfault
    rw [h] at hfault
    cases hfault
  · rename_i cut' hcut
    rw [h] at hcut
    cases hcut
    rfl

def Token.field? : Token → Option String
  | .field name => some name
  | _ => none

def Token.isText : Token → Bool
  | .text _ => true
  | _ => false

/-- The string literals of a text as they are written, with their quotes. -/
def literals (source : String) : List (List Char) :=
  ((cuts source.toList).filter (·.token.isText)).map (·.raw)

/-- The fields among tokens. -/
def fieldNames (tokens : List Lexeme) : List String := tokens.filterMap (·.token.field?)

/-- The tokens that are cut off are those of the text. -/
theorem cuts_of_lexemes {position : Nat} {tokens : List Lexeme}
    (h : lexemes position text = .ok tokens) :
    (cuts text).map (·.token) = tokens.map (·.token) := by
  fun_induction lexemes position text generalizing tokens with
  | case1 =>
    cases h
    rw [cuts]
    rfl
  | case2 position c text hspacer ih =>
    rw [cuts, if_pos hspacer]
    exact ih h
  | case3 => cases h
  | case4 => cases h
  | case5 position c text hspacer cut hcut more hmore ih =>
    cases h
    rw [cuts_cons (by simpa using hspacer) hcut, List.map_cons, List.map_cons, ih hmore]

/-- What is found in the characters of a token: the name of a field, and all that a literal
mentions. -/
def Cut.references (cut : Cut) : List String :=
  match cut.token with
  | .field name => [name]
  | .text _ => (mentions cut.raw).map String.ofList
  | _ => []

theorem Cut.references_eq (cut : Cut) : cut.references =
    if cut.token.isText then (mentions cut.raw).map String.ofList
    else cut.token.field?.toList := by
  unfold Cut.references
  cases cut.token <;> rfl

theorem not_mem_takeWhile {p : Char → Bool} (hp : p c = false) (text : List Char) :
    c ∉ text.takeWhile p := by
  intro hin
  have hpc := List.mem_takeWhile_imp hin
  rw [hp] at hpc
  cases hpc

theorem not_mem_spanExponent (text : List Char) : '@' ∉ (spanExponent text).1 := by
  fun_cases spanExponent text with
  | case1 => exact List.not_mem_nil
  | case2 => exact List.not_mem_nil
  | case3 mark rest hmark d ds hd =>
    have hdigits : '@' ∉ d :: ds := by
      rw [← hd]
      exact not_mem_takeWhile (by decide) _
    have hsign : '@' ∉ (spanSign rest).1 := by
      fun_cases spanSign rest <;> simp
    have hne : '@' ≠ mark := by
      rintro rfl
      cases hmark
    simp [hsign, hdigits, hne]
  | case4 => exact List.not_mem_nil

theorem not_mem_spanNumber (text : List Char) : '@' ∉ (spanNumber text).1 := by
  rw [spanNumber, List.mem_append, not_or]
  exact ⟨not_mem_takeWhile (by decide) text, not_mem_spanExponent _⟩

theorem plain_of_double {d : Char} {t : Token} (h : doubleOperator? c d = some t) :
    t.isText = false ∧ t.field? = none ∧ '@' ∉ [c, d] := by
  unfold doubleOperator? at h
  split at h <;> cases h <;> decide

theorem plain_of_single {t : Token} (h : singleOperator? c = some t) :
    t.isText = false ∧ t.field? = none ∧ '@' ∉ [c] := by
  unfold singleOperator? at h
  split at h <;> cases h <;> decide

/-- A token takes its own characters out of the search. -/
theorem mentions_of_firstToken (h : firstToken c text = .ok cut) :
    (mentions (c :: text)).map String.ofList =
      cut.references ++ (mentions cut.rest).map String.ofList := by
  -- no sign stands in a token that is neither a field nor a literal
  have plain : cut.token.isText = false ∧ cut.token.field? = none ∧ '@' ∉ cut.raw →
      (mentions (c :: text)).map String.ofList =
        cut.references ++ (mentions cut.rest).map String.ofList := by
    rintro ⟨htext, hfield, hsign⟩
    rw [cut.references_eq, htext, hfield, ← firstToken_append h,
      mentions_append_of_not_mem hsign]
    rfl
  cases cuts_of_firstToken h with
  | number hc hspan hread =>
    have hsign := not_mem_spanNumber (c :: text)
    rw [hspan] at hsign
    exact plain ⟨rfl, rfl, hsign⟩
  | @text _ _ raw rest hquote hspan =>
    have hends : isWordPart c = false ∧ c ≠ '@' := by rcases hquote with rfl | rfl <;> decide
    have hliteral := mentions_append_cons hends.1 hends.2 (c :: raw) []
    have hwhole := mentions_append_cons hends.1 hends.2 (c :: raw) rest
    rw [Cut.references, ← spanQuoted_append hspan, ← List.cons_append, hwhole, hliteral]
    simp [mentions]
  | field hd text =>
    rw [mentions, if_pos (by simp [hd])]
    rfl
  | word hc text =>
    have hne : '@' ≠ c := by
      rintro rfl
      cases hc
    have hname : '@' ∉ text.takeWhile isWordPart := not_mem_takeWhile (by decide) text
    exact plain ⟨rfl, rfl, by simp [wordToken, hne, hname]⟩
  | double ht rest => exact plain (plain_of_double ht)
  | single ht hrest => exact plain (plain_of_single ht)

/-- What a text with tokens mentions is what is found in its tokens, one after another. -/
theorem mentions_of_lexemes {position : Nat} {tokens : List Lexeme}
    (h : lexemes position text = .ok tokens) :
    (mentions text).map String.ofList = (cuts text).flatMap Cut.references := by
  fun_induction lexemes position text generalizing tokens with
  | case1 =>
    rw [cuts, mentions]
    rfl
  | case2 position c text hspacer ih =>
    have hne : c ≠ '@' := by
      rintro rfl
      cases hspacer
    rw [cuts, if_pos hspacer, mentions_cons_of_ne hne, ih h]
  | case3 => cases h
  | case4 => cases h
  | case5 position c text hspacer cut hcut more hmore ih =>
    rw [cuts_cons (by simpa using hspacer) hcut, List.flatMap_cons, mentions_of_firstToken hcut,
      ih hmore]

/-! ## References and fields -/

theorem fieldNames_eq {source : String} {tokens : List Lexeme} (h : tokenize source = .ok tokens) :
    fieldNames tokens = (cuts source.toList).filterMap (·.token.field?) := by
  have hmapped := congrArg (List.filterMap Token.field?) (cuts_of_lexemes h)
  rw [List.filterMap_map, List.filterMap_map] at hmapped
  exact hmapped.symm

/-- If no literal mentions anything, what is found in the tokens is the names of the fields. -/
theorem flatMap_references (found : List Cut)
    (h : ∀ cut ∈ found, cut.token.isText = true → mentions cut.raw = []) :
    found.flatMap Cut.references = found.filterMap (·.token.field?) := by
  induction found with
  | nil => rfl
  | cons cut found ih =>
    obtain ⟨hcut, hfound⟩ := List.forall_mem_cons.1 h
    have hone : cut.references = cut.token.field?.toList := by
      rw [Cut.references_eq]
      split
      · rename_i htext
        rw [hcut htext]
        cases htoken : cut.token with
        | text content => rfl
        | _ => rw [htoken] at htext; cases htext
      · rfl
    rw [List.flatMap_cons, hone, ih hfound, List.filterMap_cons]
    cases cut.token.field? <;> rfl

/-- Of a text with tokens, the references are the fields among the tokens, each once, in the order
of their first token, if no string literal holds a sign with the start of a name behind it.  In any
case all these fields are among the references, and each further one stands, with the sign before
it, in a string literal. -/
theorem references_of_tokenize {source : String} {tokens : List Lexeme}
    (h : tokenize source = .ok tokens) :
    ((∀ literal ∈ literals source, ∀ c, isWordStart c = true → ¬ ['@', c] <:+: literal) →
      references source = (fieldNames tokens).eraseDups) ∧
    (∀ name ∈ fieldNames tokens, name ∈ references source) ∧
    ∀ name ∈ references source, name ∉ fieldNames tokens →
      ∃ literal ∈ literals source, '@' :: name.toList <:+: literal := by
  have hfound := mentions_of_lexemes h
  have hfields := fieldNames_eq h
  refine ⟨fun hplain => ?_, fun name hname => ?_, fun name hname hother => ?_⟩
  · rw [references, hfound, hfields, flatMap_references]
    intro cut hcut htext
    refine mentions_eq_nil_iff.2 (hplain cut.raw ?_)
    exact List.mem_map_of_mem (List.mem_filter.2 ⟨hcut, htext⟩)
  · obtain ⟨t, ht, hf⟩ := List.mem_filterMap.1 hname
    refine mem_references_of_tokenize h ht ?_
    cases htoken : t.token with
    | field found => rw [htoken] at hf; cases hf; rfl
    | _ => rw [htoken] at hf; cases hf
  · rw [mem_references, hfound] at hname
    obtain ⟨cut, hcut, hin⟩ := List.mem_flatMap.1 hname
    rw [Cut.references_eq] at hin
    split at hin
    · rename_i htext
      obtain ⟨mention, hmention, rfl⟩ := List.mem_map.1 hin
      refine ⟨cut.raw, List.mem_map_of_mem (List.mem_filter.2 ⟨hcut, htext⟩), ?_⟩
      rw [String.toList_ofList]
      exact infix_of_mem_mentions hmention
    · refine absurd ?_ hother
      rw [hfields]
      exact List.mem_filterMap.2 ⟨cut, hcut, Option.mem_toList.1 hin⟩

/-- A sign with a blank behind it belongs to no field, and of two names of which one starts with the
other both are found in full.  A field that stands in a literal only is a reference as well. -/
theorem references_of_tokenize_literal :
    let plain := "@PR_2 == '@ PR' || @PR == @PR_2"
    let quoting := "@Y == 'it\\'s @X'"
    tokenize plain = .ok [⟨0, .field "PR_2"⟩, ⟨6, .eq⟩, ⟨9, .text "@ PR"⟩, ⟨16, .or⟩,
      ⟨19, .field "PR"⟩, ⟨23, .eq⟩, ⟨26, .field "PR_2"⟩] ∧
    literals plain = ["'@ PR'".toList] ∧ references plain = ["PR_2", "PR"] ∧
    tokenize quoting = .ok [⟨0, .field "Y"⟩, ⟨3, .eq⟩, ⟨6, .text "it's @X"⟩] ∧
    "X" ∈ references quoting ∧
    ∃ literal ∈ literals quoting, '@' :: "X".toList <:+: literal := by
  intro plain quoting
  have hplain : tokenize plain = .ok [⟨0, .field "PR_2"⟩, ⟨6, .eq⟩, ⟨9, .text "@ PR"⟩, ⟨16, .or⟩,
      ⟨19, .field "PR"⟩, ⟨23, .eq⟩, ⟨26, .field "PR_2"⟩] := by cbv
  have hquoting : tokenize quoting =
      .ok [⟨0, .field "Y"⟩, ⟨3, .eq⟩, ⟨6, .text "it's @X"⟩] := by cbv
  have hliterals : literals plain = ["'@ PR'".toList] := by decide +kernel
  have hnone : ∀ literal ∈ literals plain, ∀ c, isWordStart c = true →
      ¬ ['@', c] <:+: literal := by
    rw [hliterals]
    intro literal hliteral
    obtain rfl := List.mem_singleton.1 hliteral
    exact mentions_eq_nil_iff.1 (by decide +kernel)
  have hfound : "X" ∈ references quoting := by decide +kernel
  refine ⟨hplain, hliterals, ?_, hquoting, hfound, ?_⟩
  · rw [(references_of_tokenize hplain).1 hnone]
    decide
  · exact (references_of_tokenize hquoting).2.2 "X" hfound (by decide)

end Formula
end FormLogic
