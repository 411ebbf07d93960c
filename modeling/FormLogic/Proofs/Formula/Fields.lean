import FormLogic.Formula.Evaluation
import FormLogic.Formula.Reading

/-!
# FormLogic.Proofs.Formula.Fields

The fields of a tree, and what a value can depend on.

* `Expr.fields`: the fields that stand in a tree;
* `eval_congr`: a tree has one value in all contexts that give its fields the same text;
* `Fielded S c`: every field among the tokens of a cursor is in `S`;
* `parseTokens_fields`: a tree that is read from tokens holds no field that is not among them.

The rules of the grammar nest, so `Fielded` is carried through all of them: a rule that starts at a
`Fielded` cursor ends at one, and the fields of its tree are in `S`.
-/

namespace FormLogic
namespace Formula

mutual

/-- The fields that stand in a tree, from the left. -/
def Expr.fields : Expr → List String
  | .literal _ => []
  | .field name => [name]
  | .unary _ e => e.fields
  | .binary _ l r => l.fields ++ r.fields
  | .logical _ l r => l.fields ++ r.fields
  | .conditional t y n => t.fields ++ y.fields ++ n.fields
  | .call _ args => fieldsOf args

/-- The fields that stand in a list of trees, from the left. -/
def fieldsOf : List Expr → List String
  | [] => []
  | e :: es => e.fields ++ fieldsOf es

end

theorem Context.read_congr {c d : Context} {name : String} (h : c.get? name = d.get? name) :
    c.read name = d.read name := by
  simp [Context.read, h]

mutual

/-- Contexts that agree on the fields of a tree give it one value, or one fault. -/
theorem eval_congr {c d : Context} (e : Expr)
    (h : ∀ name ∈ e.fields, c.get? name = d.get? name) : eval c e = eval d e := by
  match e with
  | .literal v => simp [eval]
  | .field name =>
    have hr := Context.read_congr (h name (by simp [Expr.fields]))
    simp [eval, hr]
  | .unary op e =>
    have he := eval_congr e fun n hn => h n (by simpa [Expr.fields] using hn)
    simp [eval, he]
  | .binary op l r =>
    have hl := eval_congr l fun n hn => h n (by simp [Expr.fields, hn])
    have hr := eval_congr r fun n hn => h n (by simp [Expr.fields, hn])
    simp [eval, hl, hr]
  | .logical op l r =>
    have hl := eval_congr l fun n hn => h n (by simp [Expr.fields, hn])
    have hr := eval_congr r fun n hn => h n (by simp [Expr.fields, hn])
    cases op <;> simp [eval, hl, hr]
  | .conditional t y n =>
    have ht := eval_congr t fun x hx => h x (by simp [Expr.fields, hx])
    have hy := eval_congr y fun x hx => h x (by simp [Expr.fields, hx])
    have hn := eval_congr n fun x hx => h x (by simp [Expr.fields, hx])
    simp [eval, ht, hy, hn]
  | .call f args =>
    have hargs := evalAll_congr args fun x hx => h x (by simpa [Expr.fields] using hx)
    by_cases hf : f = .choose
    · subst hf
      match args with
      | [t, y, n] =>
        have ht := eval_congr t fun x hx => h x (by simp [Expr.fields, fieldsOf, hx])
        have hy := eval_congr y fun x hx => h x (by simp [Expr.fields, fieldsOf, hx])
        have hn := eval_congr n fun x hx => h x (by simp [Expr.fields, fieldsOf, hx])
        simp [eval, ht, hy, hn]
      | [] | [_] | [_, _] | _ :: _ :: _ :: _ :: _ => simp [eval]
    · cases f <;> simp_all [eval]

theorem evalAll_congr {c d : Context} (es : List Expr)
    (h : ∀ name ∈ fieldsOf es, c.get? name = d.get? name) : evalAll c es = evalAll d es := by
  match es with
  | [] => simp [evalAll]
  | e :: es =>
    have he := eval_congr e fun n hn => h n (by simp [fieldsOf, hn])
    have hes := evalAll_congr es fun n hn => h n (by simp [fieldsOf, hn])
    simp [evalAll, he, hes]

end

/-! ## Trees read from tokens -/

theorem bind_eq_ok {ε α β : Type} {x : Except ε α} {f : α → Except ε β} {b : β} :
    (x >>= f) = .ok b ↔ ∃ a, x = .ok a ∧ f a = .ok b := by
  cases x <;> simp [bind, Except.bind]

/-- Every field among the tokens that are left is in `S`. -/
def Fielded (S : String → Prop) (c : Cursor) : Prop :=
  ∀ t ∈ c.rest, ∀ name, t.token = .field name → S name

/-- From a cursor with fields of `S` only, a rule reads a tree with such fields only, and leaves
such fields only. -/
def Finds (S : String → Prop) (rule : Rule) : Prop :=
  ∀ ⦃c e c'⦄, Fielded S c → rule c = .ok (e, c') → (∀ n ∈ e.fields, S n) ∧ Fielded S c'

section

variable {S : String → Prop} {c c' : Cursor} {e : Expr}

theorem Fielded.advance (h : Fielded S c) : Fielded S c.advance :=
  fun t ht => h t (List.mem_of_mem_tail ht)

theorem Fielded.descend (h : Fielded S c) (hd : c.descend = .ok c') : Fielded S c' := by
  unfold Cursor.descend at hd
  split at hd
  · cases hd; exact h
  · cases hd

theorem Fielded.expect {token : Token} {what : Expected} (h : Fielded S c)
    (he : c.expect token what = .ok c') : Fielded S c' := by
  unfold Cursor.expect at he
  split at he
  · cases he
  split at he
  · cases he; exact h.advance
  · cases he

/-- A join makes a node of two trees and adds no field. -/
def Joins (join? : Token → Option (Expr → Expr → Expr)) : Prop :=
  ∀ ⦃t join⦄, join? t = some join → ∀ l r, (join l r).fields = l.fields ++ r.fields

theorem chainTail_finds {operand : Rule} {join? : Token → Option (Expr → Expr → Expr)}
    (ho : Finds S operand) (hj : Joins join?) {n : Nat} {lhs : Expr}
    (hl : ∀ x ∈ lhs.fields, S x) (hc : Fielded S c)
    (h : chainTail operand join? n lhs c = .ok (e, c')) :
    (∀ x ∈ e.fields, S x) ∧ Fielded S c' := by
  induction n generalizing lhs c with
  | zero => cases h
  | succ n ih =>
    simp only [chainTail] at h
    split at h
    · cases h; exact ⟨hl, hc⟩
    · rename_i join hjoin
      obtain ⟨c₁, h₁, h⟩ := bind_eq_ok.1 h
      obtain ⟨⟨rhs, c₂⟩, h₂, h⟩ := bind_eq_ok.1 h
      obtain ⟨hr, hc₂⟩ := ho (hc.advance.descend h₁) h₂
      obtain ⟨t, -, ht⟩ := Option.bind_eq_some_iff.1 hjoin
      refine ih (fun x hx => ?_) hc₂ h
      rw [hj ht, List.mem_append] at hx
      exact hx.elim (hl x) (hr x)

theorem Finds.chain {operand : Rule} {join? : Token → Option (Expr → Expr → Expr)}
    (ho : Finds S operand) (hj : Joins join?) : Finds S (chain operand join?) := by
  intro c e c' hc h
  obtain ⟨⟨lhs, after⟩, h₁, h⟩ := bind_eq_ok.1 h
  obtain ⟨⟨tree, last⟩, h₂, h⟩ := bind_eq_ok.1 h
  obtain ⟨hl, hafter⟩ := ho hc h₁
  have hfound := chainTail_finds ho hj hl hafter h₂
  cases h
  exact hfound

/-- A join makes a binary or a logical node of two trees. -/
def MakesNodes (join? : Token → Option (Expr → Expr → Expr)) : Prop :=
  ∀ ⦃t join⦄, join? t = some join → (∃ op, join = .binary op) ∨ ∃ op, join = .logical op

theorem MakesNodes.joins {join? : Token → Option (Expr → Expr → Expr)} (h : MakesNodes join?) :
    Joins join? := by
  intro t join ht l r
  rcases h ht with ⟨op, rfl⟩ | ⟨op, rfl⟩ <;> rfl

theorem makesNodes_orJoin : MakesNodes orJoin? := by
  intro t join h
  cases t with
  | or => cases h; exact .inr ⟨.or, rfl⟩
  | word w =>
    simp only [orJoin?] at h
    split at h
    · cases h; exact .inr ⟨.or, rfl⟩
    · cases h
  | _ => cases h

theorem makesNodes_andJoin : MakesNodes andJoin? := by
  intro t join h
  cases t with
  | and => cases h; exact .inr ⟨.and, rfl⟩
  | word w =>
    simp only [andJoin?] at h
    split at h
    · cases h; exact .inr ⟨.and, rfl⟩
    · cases h
  | _ => cases h

theorem makesNodes_comparisonJoin : MakesNodes comparisonJoin? := by
  intro t join h
  cases t <;> cases h <;> exact .inl ⟨_, rfl⟩

theorem makesNodes_additiveJoin : MakesNodes additiveJoin? := by
  intro t join h
  cases t <;> cases h <;> exact .inl ⟨_, rfl⟩

theorem makesNodes_multiplicativeJoin : MakesNodes multiplicativeJoin? := by
  intro t join h
  cases t <;> cases h <;> exact .inl ⟨_, rfl⟩

theorem fieldsOf_append (es fs : List Expr) : fieldsOf (es ++ fs) = fieldsOf es ++ fieldsOf fs := by
  induction es with
  | nil => rfl
  | cons e es ih => simp [fieldsOf, ih]

theorem argumentsTail_finds {inner : Rule} (hi : Finds S inner) {n : Nat} {done args : List Expr}
    (hd : ∀ x ∈ fieldsOf done, S x) (hc : Fielded S c)
    (h : argumentsTail inner n done c = .ok (args, c')) :
    (∀ x ∈ fieldsOf args, S x) ∧ Fielded S c' := by
  induction n generalizing done c with
  | zero => cases h
  | succ n ih =>
    obtain ⟨⟨arg, c₁⟩, h₁, h⟩ := bind_eq_ok.1 h
    obtain ⟨ha, hc₁⟩ := hi hc h₁
    have hmore : ∀ x ∈ fieldsOf (done ++ [arg]), S x := by
      intro x hx
      simp only [fieldsOf_append, fieldsOf, List.append_nil, List.mem_append] at hx
      exact hx.elim (hd x) (ha x)
    simp only at h
    split at h
    · exact ih hmore hc₁.advance h
    · obtain ⟨c₂, h₂, h⟩ := bind_eq_ok.1 h
      cases h
      exact ⟨hmore, hc₁.expect h₂⟩

theorem arguments_finds {inner : Rule} (hi : Finds S inner) {args : List Expr} (hc : Fielded S c)
    (h : arguments inner c = .ok (args, c')) : (∀ x ∈ fieldsOf args, S x) ∧ Fielded S c' := by
  unfold arguments at h
  split at h
  · cases h
    exact ⟨by simp [fieldsOf], hc.advance⟩
  · exact argumentsTail_finds hi (by simp [fieldsOf]) hc h

theorem Finds.named {inner : Rule} (hi : Finds S inner) (name : String) :
    Finds S (named inner name) := by
  intro c e c' hc h
  unfold Formula.named at h
  split at h
  · cases h
    exact ⟨by simp [Expr.fields], hc⟩
  split at h
  · cases h
  split at h
  · cases h
  obtain ⟨⟨args, c₁⟩, h₁, h⟩ := bind_eq_ok.1 h
  have hargs := arguments_finds hi hc.advance h₁
  simp only at h
  split at h
  · cases h; exact hargs
  · cases h

theorem Finds.primary {inner : Rule} (hi : Finds S inner) : Finds S (primary inner) := by
  intro c e c' hc h
  unfold Formula.primary at h
  split at h
  · cases h
  rename_i t rest hrest
  split at h
  · cases h; exact ⟨by simp [Expr.fields], hc.advance⟩
  · cases h; exact ⟨by simp [Expr.fields], hc.advance⟩
  · rename_i name hname
    cases h
    refine ⟨fun x hx => ?_, hc.advance⟩
    rw [Expr.fields, List.mem_singleton] at hx
    exact hx ▸ hc t (by simp [hrest]) name hname
  · obtain ⟨⟨inside, c₁⟩, h₁, h⟩ := bind_eq_ok.1 h
    obtain ⟨c₂, h₂, h⟩ := bind_eq_ok.1 h
    obtain ⟨he, hc₁⟩ := hi hc.advance h₁
    cases h
    exact ⟨he, hc₁.expect h₂⟩
  · rename_i name _
    exact hi.named name hc.advance h
  · cases h

theorem Finds.power {inner exponent : Rule} (hi : Finds S inner) (hx : Finds S exponent) :
    Finds S (power inner exponent) := by
  intro c e c' hc h
  obtain ⟨⟨base, c₁⟩, h₁, h⟩ := bind_eq_ok.1 h
  obtain ⟨hb, hc₁⟩ := hi.primary hc h₁
  simp only at h
  split at h
  · obtain ⟨c₂, h₂, h⟩ := bind_eq_ok.1 h
    obtain ⟨⟨exp, c₃⟩, h₃, h⟩ := bind_eq_ok.1 h
    obtain ⟨he, hc₃⟩ := hx (hc₁.advance.descend h₂) h₃
    cases h
    refine ⟨fun x hx => ?_, hc₃⟩
    rw [Expr.fields, List.mem_append] at hx
    exact hx.elim (hb x) (he x)
  · cases h
    exact ⟨hb, hc₁⟩

theorem Finds.signed {inner : Rule} (hi : Finds S inner) (n : Nat) : Finds S (signed inner n) := by
  induction n with
  | zero => intro c e c' _ h; cases h
  | succ n ih =>
    intro c e c' hc h
    simp only [Formula.signed] at h
    split at h
    · obtain ⟨c₁, h₁, h⟩ := bind_eq_ok.1 h
      obtain ⟨⟨operand, c₂⟩, h₂, h⟩ := bind_eq_ok.1 h
      have hfound := ih (hc.advance.descend h₁) h₂
      cases h
      exact hfound
    · exact hi.power ih hc h

theorem Finds.comparison {inner : Rule} (hi : Finds S inner) : Finds S (comparison inner) := by
  have hm : Finds S (multiplicative inner) := (hi.signed levels).chain makesNodes_multiplicativeJoin.joins
  have ha : Finds S (additive inner) := hm.chain makesNodes_additiveJoin.joins
  exact ha.chain makesNodes_comparisonJoin.joins

theorem Finds.negation {inner : Rule} (hi : Finds S inner) (n : Nat) :
    Finds S (negation inner n) := by
  induction n with
  | zero => intro c e c' _ h; cases h
  | succ n ih =>
    intro c e c' hc h
    simp only [Formula.negation] at h
    split at h
    · obtain ⟨c₁, h₁, h⟩ := bind_eq_ok.1 h
      obtain ⟨⟨operand, c₂⟩, h₂, h⟩ := bind_eq_ok.1 h
      have hfound := ih (hc.advance.descend h₁) h₂
      cases h
      exact hfound
    · exact hi.comparison hc h

theorem Finds.disjunction {inner : Rule} (hi : Finds S inner) : Finds S (disjunction inner) := by
  have hc : Finds S (conjunction inner) := (hi.negation levels).chain makesNodes_andJoin.joins
  exact hc.chain makesNodes_orJoin.joins

theorem Finds.branching {inner : Rule} (hi : Finds S inner) : Finds S (branching inner) := by
  intro c e c' hc h
  obtain ⟨⟨test, c₁⟩, h₁, h⟩ := bind_eq_ok.1 h
  obtain ⟨ht, hc₁⟩ := hi.disjunction hc h₁
  simp only at h
  split at h
  · obtain ⟨⟨yes, c₂⟩, h₂, h⟩ := bind_eq_ok.1 h
    obtain ⟨c₃, h₃, h⟩ := bind_eq_ok.1 h
    obtain ⟨⟨no, c₄⟩, h₄, h⟩ := bind_eq_ok.1 h
    obtain ⟨hy, hc₂⟩ := hi hc₁.advance h₂
    obtain ⟨hn, hc₄⟩ := hi (hc₂.expect h₃) h₄
    cases h
    refine ⟨fun x hx => ?_, hc₄⟩
    rw [Expr.fields, List.mem_append, List.mem_append] at hx
    rcases hx with (hx | hx) | hx
    · exact ht x hx
    · exact hy x hx
    · exact hn x hx
  · cases h
    exact ⟨ht, hc₁⟩

theorem conditional_finds (n : Nat) : Finds S (conditional n) := by
  induction n with
  | zero => intro c e c' _ h; cases h
  | succ n ih =>
    intro c e c' hc h
    obtain ⟨c₁, h₁, h⟩ := bind_eq_ok.1 h
    obtain ⟨⟨tree, c₂⟩, h₂, h⟩ := bind_eq_ok.1 h
    have hfound := ih.branching (hc.descend h₁) h₂
    cases h
    exact hfound

end

/-- A tree that is read from tokens holds no field that is not among them. -/
theorem parseTokens_fields {tokens : List Lexeme} {e : Expr} (h : parseTokens tokens = .ok e) :
    ∀ name ∈ e.fields, ∃ t ∈ tokens, t.token = .field name := by
  obtain ⟨⟨tree, c⟩, h₁, h⟩ := bind_eq_ok.1 h
  have hfound := conditional_finds (S := fun name => ∃ t ∈ tokens, t.token = .field name) levels
    (fun t ht name hn => ⟨t, ht, hn⟩) h₁
  simp only at h
  split at h
  · cases h; exact hfound.1
  · cases h

end Formula
end FormLogic
