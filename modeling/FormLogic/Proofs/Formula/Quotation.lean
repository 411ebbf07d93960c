import Mathlib
import FormLogic.Formula.Lexeme
import FormLogic.Proofs.Formula.Fields

/-!
# FormLogic.Proofs.Formula.Quotation

Texts that are quoted in a formula, and fields that are replaced by what they read as.

* `escaped`, `quotation`: a text as it is written between two quotes;
* `spanQuoted_escaped`, `unescapeAll_escaped`: a quotation ends where it was closed and is read as
  the text that was written;
* `Expr.replace`: a tree with a value in place of a field;
* `fields_replace`: nothing of the field is left in it;
* `eval_replace`: a tree in which a field is replaced by what it reads as keeps its value;
* `field_reads_quotation`: to read a field is to quote its text and to substitute the quotation.
-/

namespace FormLogic
namespace Formula

open Text

/-! ## Quotations -/

/-- A text with a backslash before each backslash and each quote. -/
def escaped (quote : Char) (text : List Char) : List Char :=
  text.flatMap fun c => if c = '\\' ∨ c = quote then ['\\', c] else [c]

/-- A text between two quotes. -/
def quotation (quote : Char) (text : String) : List Char :=
  quote :: escaped quote text.toList ++ [quote]

theorem escaped_cons_mark {quote c : Char} (h : c = '\\' ∨ c = quote) (text : List Char) :
    escaped quote (c :: text) = '\\' :: c :: escaped quote text := by
  simp [escaped, h]

theorem escaped_cons_plain {quote c : Char} (h : ¬(c = '\\' ∨ c = quote)) (text : List Char) :
    escaped quote (c :: text) = c :: escaped quote text := by
  simp [escaped, h]

/-- Behind an escaped text the first quote closes the quotation. -/
theorem spanQuoted_escaped {quote : Char} (hquote : quote ≠ '\\') (text rest : List Char) :
    spanQuoted quote (escaped quote text ++ quote :: rest) = some (escaped quote text, rest) := by
  induction text with
  | nil =>
    show spanQuoted quote (quote :: rest) = some ([], rest)
    rw [spanQuoted.eq_def]
    simp [hquote]
  | cons c text ih =>
    by_cases hc : c = '\\' ∨ c = quote
    · rw [escaped_cons_mark hc]
      simp [spanQuoted, ih]
    · rw [escaped_cons_plain hc]
      obtain ⟨hslash, hclosing⟩ := not_or.1 hc
      rw [List.cons_append, spanQuoted.eq_def]
      simp [hslash, hclosing, ih]

/-- A backslash before a character other than `n` and `t` stands for the character. -/
theorem unescapeAll_escaped {quote : Char} (hn : quote ≠ 'n') (ht : quote ≠ 't')
    (text : List Char) : unescapeAll (escaped quote text) = text := by
  induction text with
  | nil => rfl
  | cons c text ih =>
    by_cases hc : c = '\\' ∨ c = quote
    · have hself : unescape c = c := by
        rcases hc with rfl | rfl
        · rfl
        · simp [unescape, hn, ht]
      rw [escaped_cons_mark hc]
      simp [unescapeAll, hself, ih]
    · rw [escaped_cons_plain hc, unescapeAll.eq_def]
      simp [(not_or.1 hc).1, ih]

/-- A quotation is cut off as one token, whatever follows it. -/
theorem firstToken_quotation {quote : Char} (hquote : quote = '\'' ∨ quote = '"') (text : String)
    (rest : List Char) :
    firstToken quote (escaped quote text.toList ++ quote :: rest) =
      .ok ⟨.text text, quotation quote text, rest⟩ := by
  have hspan : spanQuoted quote (escaped quote text.toList ++ quote :: rest) =
      some (escaped quote text.toList, rest) :=
    spanQuoted_escaped (by rcases hquote with rfl | rfl <;> decide) text.toList rest
  have htext : unescapeAll (escaped quote text.toList) = text.toList :=
    unescapeAll_escaped (by rcases hquote with rfl | rfl <;> decide)
      (by rcases hquote with rfl | rfl <;> decide) text.toList
  have htoken : textToken quote (escaped quote text.toList ++ quote :: rest) =
      .ok ⟨.text text, quotation quote text, rest⟩ := by
    rw [textToken, hspan]
    simp [htext, quotation]
  rw [← htoken]
  rcases hquote with rfl | rfl <;> rfl

/-- The lexemes of a quotation and what follows it: the text, and those that start behind the
closing quote. -/
theorem lexemes_quotation {quote : Char} (hquote : quote = '\'' ∨ quote = '"') (text : String)
    (rest : List Char) (position : Nat) :
    lexemes position (quotation quote text ++ rest) =
      (lexemes (position + byteLength (quotation quote text)) rest).map
        (⟨position, .text text⟩ :: ·) := by
  have hsplit : quotation quote text ++ rest =
      quote :: (escaped quote text.toList ++ quote :: rest) := by simp [quotation]
  have hspacer : isSpacer quote = false := by rcases hquote with rfl | rfl <;> decide
  rw [hsplit, lexemes_cons hspacer (firstToken_quotation hquote text rest)]

/-! ## Replacement -/

mutual

/-- A tree with a value in place of a field. -/
def Expr.replace (name : String) (value : Value) : Expr → Expr
  | .literal v => .literal v
  | .field f => if f = name then .literal value else .field f
  | .unary op e => .unary op (e.replace name value)
  | .binary op l r => .binary op (l.replace name value) (r.replace name value)
  | .logical op l r => .logical op (l.replace name value) (r.replace name value)
  | .conditional t y n =>
    .conditional (t.replace name value) (y.replace name value) (n.replace name value)
  | .call f args => .call f (replaceAll name value args)

/-- Trees with a value in place of a field. -/
def replaceAll (name : String) (value : Value) : List Expr → List Expr
  | [] => []
  | e :: es => e.replace name value :: replaceAll name value es

end

@[simp] theorem length_replaceAll (name : String) (value : Value) (es : List Expr) :
    (replaceAll name value es).length = es.length := by
  induction es with
  | nil => rfl
  | cons e es ih => rw [replaceAll, List.length_cons, List.length_cons, ih]

mutual

/-- A field that is replaced by what it reads as leaves the value of a tree as it was, and the fault
if it has none. -/
theorem eval_replace {c : Context} {name : String} {value : Value} (h : c.read name = value)
    (e : Expr) : eval c (e.replace name value) = eval c e := by
  match e with
  | .literal v => rfl
  | .field f =>
    rw [Expr.replace]
    split
    · rename_i hf
      rw [hf, eval, eval, h]
    · rfl
  | .unary op e => simp [Expr.replace, eval, eval_replace h e]
  | .binary op l r => simp [Expr.replace, eval, eval_replace h l, eval_replace h r]
  | .logical op l r =>
    cases op <;> simp [Expr.replace, eval, eval_replace h l, eval_replace h r]
  | .conditional t y n =>
    simp [Expr.replace, eval, eval_replace h t, eval_replace h y, eval_replace h n]
  | .call f args =>
    have hargs := evalAll_replaceAll h args
    by_cases hf : f = .choose
    · -- A choice evaluates one of its branches only, so its arguments are met one by one.
      subst hf
      match args with
      | [t, y, n] =>
        simp [Expr.replace, replaceAll, eval, eval_replace h t, eval_replace h y,
          eval_replace h n]
      | [] | [_] | [_, _] | _ :: _ :: _ :: _ :: _ =>
        simp [Expr.replace, replaceAll, eval, length_replaceAll]
    · cases f <;> simp_all [Expr.replace, eval]

theorem evalAll_replaceAll {c : Context} {name : String} {value : Value}
    (h : c.read name = value) (es : List Expr) :
    evalAll c (replaceAll name value es) = evalAll c es := by
  match es with
  | [] => rfl
  | e :: es => simp [replaceAll, evalAll, eval_replace h e, evalAll_replaceAll h es]

end

mutual

/-- A replacement takes the field out of a tree and leaves the others. -/
theorem fields_replace (name : String) (value : Value) (e : Expr) :
    (e.replace name value).fields = e.fields.filter (· ≠ name) := by
  match e with
  | .literal v => rfl
  | .field f => by_cases hf : f = name <;> simp [Expr.replace, Expr.fields, hf]
  | .unary op e => exact fields_replace name value e
  | .binary op l r | .logical op l r =>
    simp [Expr.replace, Expr.fields, fields_replace name value l, fields_replace name value r]
  | .conditional t y n =>
    simp [Expr.replace, Expr.fields, fields_replace name value t, fields_replace name value y,
      fields_replace name value n]
  | .call f args => exact fieldsOf_replaceAll name value args

theorem fieldsOf_replaceAll (name : String) (value : Value) (es : List Expr) :
    fieldsOf (replaceAll name value es) = (fieldsOf es).filter (· ≠ name) := by
  match es with
  | [] => rfl
  | e :: es =>
    simp [replaceAll, fieldsOf, fields_replace name value e, fieldsOf_replaceAll name value es]

end

/-- To read a field is to quote its text and to substitute the quotation.  A text between two quotes,
with a backslash before each backslash and each quote, is cut off as the token of the text, and the
next token starts behind the closing quote.  A tree in which such a literal stands in all places of a
field that reads as the text has the same value or the same fault, and so has one with null in place
of a field that has no value. -/
theorem field_reads_quotation :
    (∀ quote : Char, quote = '\'' ∨ quote = '"' → ∀ (text : String) (rest : List Char),
      firstToken quote (escaped quote text.toList ++ quote :: rest) =
        .ok ⟨.text text, quotation quote text, rest⟩ ∧
      ∀ position, lexemes position (quotation quote text ++ rest) =
        (lexemes (position + byteLength (quotation quote text)) rest).map
          (⟨position, .text text⟩ :: ·)) ∧
    ∀ (c : Context) (name : String) (e : Expr),
      (∀ value, (e.replace name value).fields = e.fields.filter (· ≠ name)) ∧
      (∀ text, c.get? name = some text → eval c (e.replace name (.text text)) = eval c e) ∧
      (c.get? name = none → eval c (e.replace name .null) = eval c e) := by
  refine ⟨fun quote hquote text rest => ?_, fun c name e =>
    ⟨fun value => fields_replace name value e, fun text h => ?_, fun h => ?_⟩⟩
  · exact ⟨firstToken_quotation hquote text rest, lexemes_quotation hquote text rest⟩
  · exact eval_replace (by rw [Context.read, h]) e
  · exact eval_replace (by rw [Context.read, h]) e

/-- A field that reads as a quote and a backslash has them quoted, and a second field is missing. -/
theorem field_reads_quotation_marks :
    let text := "'\\"
    let c : Context := .ofValues (Dict.ofPairs [("A", text)])
    let e : Expr := .binary .eq (.field "A") (.call .concat [.field "A", .field "B"])
    quotation '\'' text = ['\'', '\\', '\'', '\\', '\\', '\''] ∧
      lexemes 0 (quotation '\'' text ++ [' ', '+']) = .ok [⟨0, .text text⟩, ⟨7, .plus⟩] ∧
      c.get? "A" = some text ∧
      eval c (e.replace "A" (.text text)) = eval c e ∧
      c.get? "B" = none ∧
      eval c (e.replace "B" .null) = eval c e := by
  intro text c e
  obtain ⟨hquote, hreplace⟩ := field_reads_quotation
  obtain ⟨-, hlexemes⟩ := hquote '\'' (.inl rfl) text [' ', '+']
  have hpresent : c.get? "A" = some text := by decide +kernel
  have habsent : c.get? "B" = none := by decide +kernel
  refine ⟨by decide +kernel, ?_, hpresent, (hreplace c "A" e).2.1 text hpresent,
    habsent, (hreplace c "B" e).2.2 habsent⟩
  have hrest : lexemes 6 [' ', '+'] = .ok [⟨7, .plus⟩] := by cbv
  have hbehind : 0 + byteLength (quotation '\'' text) = 6 := by decide +kernel
  rw [hlexemes 0, hbehind, hrest]
  rfl

end Formula
end FormLogic
