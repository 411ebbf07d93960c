import FormLogic.Formula.Evaluator
import FormLogic.Proofs.Formula.Fields

/-!
# FormLogic.Proofs.Formula.References

The fields that a text refers to are all that its value depends on.

References are found by a search of the characters, while a value comes from tokens and a tree, so
the two have to be brought together:

* `mem_mentions`: a field sign with a name behind it is found wherever it stands;
* `mem_references_of_tokenize`: a field among the tokens of a text is a reference of the text;
* `evaluate_congr`: contexts that agree on the references of a text give it one outcome.
-/

namespace FormLogic
namespace Formula

/-! ## Searching characters -/

theorem dropWhile_append_cons {p : Char → Bool} {c : Char} (hc : p c = false)
    (text rest : List Char) :
    (text ++ c :: rest).dropWhile p = text.dropWhile p ++ c :: rest := by
  induction text with
  | nil => simp [hc]
  | cons a text ih =>
    by_cases ha : p a = true
    · simp [ha, ih]
    · simp [ha]

/-- The search finds a sign behind any characters, also where they hold signs and names. -/
theorem mem_mentions {c : Char} (hc : isWordStart c = true) (before rest : List Char) :
    c :: rest.takeWhile isWordPart ∈ mentions (before ++ '@' :: c :: rest) := by
  induction hn : before.length using Nat.strongRecOn generalizing before with
  | ind n ih =>
    subst hn
    match before with
    | [] => simp [mentions, hc]
    | [a] =>
      -- a name does not start with the sign, so the sign behind `a` is still there
      have hrest := ih 0 (by simp) [] rfl
      simpa [mentions, isWordStart] using hrest
    | a :: b :: before =>
      rw [List.cons_append, List.cons_append, mentions]
      split
      · rw [dropWhile_append_cons (by decide)]
        have hle := length_dropWhile_le isWordPart before
        exact List.mem_cons_of_mem _ (ih _ (by simp; omega) _ rfl)
      · exact ih _ (by simp) (b :: before) rfl

/-- What is found is a sign with the longest name behind it. -/
theorem exists_of_mem_mentions {text name : List Char} (h : name ∈ mentions text) :
    ∃ before c rest, text = before ++ '@' :: c :: rest ∧ isWordStart c = true ∧
      name = c :: rest.takeWhile isWordPart := by
  fun_induction mentions text with
  | case1 => cases h
  | case2 => cases h
  | case3 sign c rest hsign ih =>
    rw [Bool.and_eq_true, decide_eq_true_eq] at hsign
    obtain ⟨rfl, hc⟩ := hsign
    rcases List.mem_cons.1 h with rfl | h
    · exact ⟨[], c, rest, rfl, hc, rfl⟩
    · obtain ⟨before, d, tail, hrest, hd, rfl⟩ := ih h
      refine ⟨'@' :: c :: rest.takeWhile isWordPart ++ before, d, tail, ?_, hd, rfl⟩
      rw [List.append_assoc, ← hrest]
      simp
  | case4 sign c rest _ ih =>
    obtain ⟨before, d, tail, hrest, hd, rfl⟩ := ih h
    exact ⟨sign :: before, d, tail, by rw [hrest]; rfl, hd, rfl⟩

theorem mem_references {text name : String} :
    name ∈ references text ↔ name ∈ (mentions text.toList).map String.ofList :=
  List.mem_eraseDups

/-! ## Fields among the tokens -/

/-- The characters that a field token is cut from: a sign and the longest name behind it. -/
theorem firstToken_field {c : Char} {text : List Char} {cut : Cut} {name : String}
    (h : firstToken c text = .ok cut) (hf : cut.token = .field name) :
    c = '@' ∧ ∃ d rest, text = d :: rest ∧ isWordStart d = true ∧
      name = String.ofList (d :: rest.takeWhile isWordPart) := by
  cases cuts_of_firstToken h with
  | field hd rest =>
    cases hf
    exact ⟨rfl, _, rest, rfl, hd, rfl⟩
  | number => cases hf
  | text => cases hf
  | word => cases hf
  | double ht =>
    cases hf
    unfold doubleOperator? at ht
    split at ht <;> cases ht
  | single ht =>
    cases hf
    unfold singleOperator? at ht
    split at ht <;> cases ht

/-- Every field token of the end of a text is found in the whole text. -/
theorem mem_mentions_of_lexemes {position : Nat} {text : List Char} {tokens : List Lexeme}
    (h : lexemes position text = .ok tokens) {t : Lexeme} {name : String} (ht : t ∈ tokens)
    (hf : t.token = .field name) (before : List Char) :
    name ∈ (mentions (before ++ text)).map String.ofList := by
  fun_induction lexemes position text generalizing before tokens with
  | case1 => cases h; cases ht
  | case2 position c rest _ ih =>
    have hin := ih h ht (before ++ [c])
    rwa [List.append_assoc] at hin
  | case3 => cases h
  | case4 => cases h
  | case5 position c rest _ cut hcut more hmore ih =>
    cases h
    rcases List.mem_cons.1 ht with rfl | ht
    · obtain ⟨rfl, d, tail, rfl, hd, rfl⟩ := firstToken_field hcut hf
      exact List.mem_map_of_mem (mem_mentions hd before tail)
    · have hin := ih hmore ht (before ++ cut.raw)
      rwa [List.append_assoc, firstToken_append hcut] at hin

theorem mem_references_of_tokenize {text : String} {tokens : List Lexeme}
    (h : tokenize text = .ok tokens) {t : Lexeme} {name : String} (ht : t ∈ tokens)
    (hf : t.token = .field name) : name ∈ references text :=
  mem_references.2 (mem_mentions_of_lexemes h ht hf [])

/-! ## Values -/

/-- The fields of a text's tree are references of the text; a blank text has none of either. -/
theorem readTree_fields {text : String} {e : Expr} (h : readTree text = .ok e) :
    ∀ name ∈ e.fields, name ∈ references text := by
  intro name hname
  unfold readTree at h
  split at h
  · cases h; cases hname
  · obtain ⟨tokens, htokens, h⟩ := bind_eq_ok.1 h
    obtain ⟨t, ht, hf⟩ := parseTokens_fields h name hname
    exact mem_references_of_tokenize htokens ht hf

theorem Parsed.ofText_tree (text : String) : (Parsed.ofText text).tree = readTree text := by
  unfold Parsed.ofText
  cases readTree text <;> rfl

theorem Parsed.ofText_references (text : String) :
    (Parsed.ofText text).references = Formula.references text := by
  unfold Parsed.ofText
  cases readTree text <;> rfl

/-- What a text evaluates to, with the memo and its counters left aside. -/
theorem evaluate_eq (text : String) (c : Context) :
    evaluate text c = (readTree text).bind fun e =>
      (eval c e).map fun v => ⟨v, references text⟩ := by
  unfold evaluate Parsed.evaluate
  rw [Parsed.ofText_tree, Parsed.ofText_references]
  cases readTree text with
  | error fault => rfl
  | ok e => cases hv : eval c e <;> simp [hv, bind, Except.bind, Except.map, pure, Except.pure]

/-- Contexts that agree on the references of a text give it one outcome. -/
theorem evaluate_congr {text : String} {c d : Context}
    (h : ∀ name ∈ references text, c.get? name = d.get? name) :
    evaluate text c = evaluate text d := by
  rw [evaluate_eq, evaluate_eq]
  cases ht : readTree text with
  | error fault => rfl
  | ok e =>
    have he := eval_congr e fun name hname => h name (readTree_fields ht name hname)
    simp [Except.bind, he]

theorem dependencies_of_evaluate {text : String} {c : Context} {r : Evaluation}
    (h : evaluate text c = .ok r) : r.dependencies = references text := by
  rw [evaluate_eq] at h
  obtain ⟨e, _, h⟩ := bind_eq_ok.1 h
  cases hv : eval c e with
  | error fault => rw [hv] at h; cases h
  | ok v => rw [hv] at h; cases h; rfl

end Formula
end FormLogic
