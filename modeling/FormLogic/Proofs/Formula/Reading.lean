import FormLogic.Proofs.Formula.Grammar
import FormLogic.Proofs.Formula.Height

/-!
# FormLogic.Proofs.Formula.Reading

What is read is a formula.

* `Spells ls ts rest`: the lexemes `ls` are the tokens `ts` and then `rest`;
* `Derived level rule`: what the rule reads is a formula of the level, with the tree that it gives;
* `chainTail_derived`: the loop of a chain keeps what has been read a formula of the chain's level;
* `conditional_derived`: with any number of levels left, what is read is a formula.
-/

namespace FormLogic
namespace Formula

/-- The lexemes are these tokens and then the rest. -/
inductive Spells : List Lexeme → List Token → List Lexeme → Prop
  | done (rest : List Lexeme) : Spells rest [] rest
  | token {x : Lexeme} {ls rest : List Lexeme} {ts : List Token} (h : Spells ls ts rest) :
      Spells (x :: ls) (x.token :: ts) rest

namespace Spells

variable {ls mid rest : List Lexeme} {t : Token} {ts us : List Token}

theorem trans (h₁ : Spells ls ts mid) (h₂ : Spells mid us rest) : Spells ls (ts ++ us) rest := by
  induction h₁ with
  | done => exact h₂
  | token _ ih => exact .token (ih h₂)

theorem split (h : Spells ls (ts ++ us) rest) : ∃ mid, Spells ls ts mid ∧ Spells mid us rest := by
  induction ts generalizing ls with
  | nil => exact ⟨ls, .done ls, h⟩
  | cons t ts ih =>
    cases h with
    | token h =>
      obtain ⟨mid, h₁, h₂⟩ := ih h
      exact ⟨mid, .token h₁, h₂⟩

theorem uncons (h : Spells ls (t :: ts) rest) :
    ∃ x mid, ls = x :: mid ∧ x.token = t ∧ Spells mid ts rest := by
  cases h with
  | token h => exact ⟨_, _, rfl, rfl, h⟩

theorem nil_eq (h : Spells ls [] rest) : ls = rest := by
  cases h with
  | done => rfl

theorem single {x : Lexeme} (h : x.token = t) : Spells (x :: rest) [t] rest :=
  h ▸ .token (.done rest)

theorem length_eq (h : Spells ls ts rest) : ls.length = ts.length + rest.length := by
  induction h with
  | done => simp
  | token _ ih =>
    simp only [List.length_cons]
    omega

theorem map_token (ls : List Lexeme) : Spells ls (ls.map (·.token)) [] := by
  induction ls with
  | nil => exact .done []
  | cons x ls ih => exact .token ih

theorem eq_map (h : Spells ls ts []) : ts = ls.map (·.token) := by
  induction ls generalizing ts with
  | nil =>
    cases h with
    | done => rfl
  | cons x ls ih =>
    cases h with
    | token h => rw [ih h, List.map_cons]

end Spells

/-! ## What is read is a formula -/

section

variable {c c' : Cursor} {e : Expr} {t : Token}

theorem Cursor.spells_advance (h : c.peek? = some t) : Spells c.rest [t] c.advance.rest := by
  unfold peek? at h
  unfold advance
  cases hrest : c.rest with
  | nil => simp [hrest] at h
  | cons x rest =>
    rw [hrest, List.head?_cons, Option.map_some] at h
    exact .single (Option.some.inj h)

theorem Cursor.spells_expect {what : Expected} (h : c.expect t what = .ok c') :
    Spells c.rest [t] c'.rest := by
  unfold expect at h
  split at h
  · cases h
  · rename_i x rest hrest
    split at h
    · rename_i htoken
      cases h
      rw [advance, hrest]
      exact .single htoken
    · cases h

/-- What the rule reads is a formula of the level, with the tree that the rule gives. -/
def Derived (level : Level) (rule : Rule) : Prop :=
  ∀ ⦃c e c'⦄, rule c = .ok (e, c') → ∃ ts, Spells c.rest ts c'.rest ∧ Derives level ts e

variable {level next : Level} {inner operand : Rule}
variable {join? : Token → Option (Expr → Expr → Expr)}

/-- The loop joins the formula that has been read with what it reads itself. -/
theorem chainTail_derived (hnext : level.next? = some next) (hj : JoinsAt level join?)
    (ho : Derived next operand) {n : Nat} {start : List Lexeme} {ts : List Token} {lhs : Expr}
    (hs : Spells start ts c.rest) (hl : Derives level ts lhs)
    (h : chainTail operand join? n lhs c = .ok (e, c')) :
    ∃ us, Spells start us c'.rest ∧ Derives level us e := by
  induction n generalizing lhs ts c with
  | zero => cases h
  | succ n ih =>
    simp only [chainTail] at h
    split at h
    · cases h
      exact ⟨ts, hs, hl⟩
    · rename_i join hjoin
      obtain ⟨c₁, h₁, h⟩ := bind_eq_ok.1 h
      obtain ⟨⟨rhs, c₂⟩, h₂, h⟩ := bind_eq_ok.1 h
      obtain ⟨t, hpeek, ht⟩ := Option.bind_eq_some_iff.1 hjoin
      obtain ⟨-, -, -, hrest⟩ := Cursor.descend_eq_ok h₁
      obtain ⟨us, hus, hr⟩ := ho h₂
      rw [hrest] at hus
      exact ih (hs.trans ((Cursor.spells_advance hpeek).trans hus))
        (.joined hnext ((hj t join).1 ht) hl hr) h

theorem Derived.chain (hnext : level.next? = some next) (hj : JoinsAt level join?)
    (ho : Derived next operand) : Derived level (chain operand join?) := by
  intro c e c' h
  obtain ⟨⟨lhs, after⟩, h₁, h⟩ := bind_eq_ok.1 h
  obtain ⟨⟨tree, last⟩, h₂, h⟩ := bind_eq_ok.1 h
  obtain ⟨ts, hts, hl⟩ := ho h₁
  have htail := chainTail_derived hnext hj ho hts (.tighter hnext hl) h₂
  cases h
  exact htail

theorem argumentsTail_derived (hi : Derived .conditional inner) {n : Nat} {done args : List Expr}
    (h : argumentsTail inner n done c = .ok (args, c')) :
    ∃ ts es, args = done ++ es ∧ DerivesAll ts es ∧ Spells c.rest (ts ++ [.close]) c'.rest := by
  induction n generalizing done c with
  | zero => cases h
  | succ n ih =>
    obtain ⟨⟨arg, c₁⟩, h₁, h⟩ := bind_eq_ok.1 h
    obtain ⟨ts, hts, harg⟩ := hi h₁
    simp only at h
    split at h
    · rename_i hcomma
      obtain ⟨us, es, rfl, hes, hus⟩ := ih h
      have hall := hts.trans ((Cursor.spells_advance hcomma).trans hus)
      refine ⟨ts ++ .comma :: us, arg :: es, by simp, .comma harg hes, ?_⟩
      simpa using hall
    · obtain ⟨c₂, h₂, h⟩ := bind_eq_ok.1 h
      cases h
      exact ⟨ts, [arg], rfl, .last harg, hts.trans (Cursor.spells_expect h₂)⟩

theorem arguments_derived (hi : Derived .conditional inner) {args : List Expr}
    (h : arguments inner c = .ok (args, c')) :
    (args = [] ∧ Spells c.rest [.close] c'.rest) ∨
      ∃ ts, DerivesAll ts args ∧ Spells c.rest (ts ++ [.close]) c'.rest := by
  unfold arguments at h
  split at h
  · rename_i hclose
    cases h
    exact .inl ⟨rfl, Cursor.spells_advance hclose⟩
  · obtain ⟨ts, es, rfl, hes, hts⟩ := argumentsTail_derived hi h
    exact .inr ⟨ts, hes, hts⟩

theorem named_derived (hi : Derived .conditional inner) {name : String}
    (h : named inner name c = .ok (e, c')) :
    ∃ ts, Spells c.rest ts c'.rest ∧ Derives .primary (.word name :: ts) e := by
  unfold Formula.named at h
  split at h
  · rename_i v hv
    cases h
    exact ⟨[], .done _, .constant (constant?_eq_some.1 hv)⟩
  split at h
  · cases h
  rename_i hopen
  have hspelled := Cursor.spells_advance (not_not.1 hopen)
  split at h
  · cases h
  rename_i f hf
  obtain ⟨⟨args, c₁⟩, h₁, h⟩ := bind_eq_ok.1 h
  have hargs := arguments_derived hi h₁
  simp only at h
  split at h
  · rename_i hadmits
    cases h
    rcases hargs with ⟨rfl, hclose⟩ | ⟨ts, hes, hts⟩
    · exact ⟨_, hspelled.trans hclose, .calledOnNothing hf hadmits⟩
    · exact ⟨_, hspelled.trans hts, .called hf hadmits hes⟩
  · cases h

theorem Derived.primary (hi : Derived .conditional inner) : Derived .primary (primary inner) := by
  intro c e c' h
  unfold Formula.primary at h
  split at h
  · cases h
  rename_i x rest hrest
  have hspelled : Spells c.rest [x.token] c.advance.rest := by
    refine Cursor.spells_advance ?_
    rw [Cursor.peek?, hrest]
    rfl
  split at h
  · rename_i y htoken
    cases h
    exact ⟨[.number y], htoken ▸ hspelled, .number y⟩
  · rename_i s htoken
    cases h
    exact ⟨[.text s], htoken ▸ hspelled, .text s⟩
  · rename_i name htoken
    cases h
    exact ⟨[.field name], htoken ▸ hspelled, .field name⟩
  · rename_i htoken
    obtain ⟨⟨inside, c₁⟩, h₁, h⟩ := bind_eq_ok.1 h
    obtain ⟨c₂, h₂, h⟩ := bind_eq_ok.1 h
    cases h
    obtain ⟨ts, hts, he⟩ := hi h₁
    rw [htoken] at hspelled
    exact ⟨_, hspelled.trans (hts.trans (Cursor.spells_expect h₂)), .enclosed he⟩
  · rename_i name htoken
    obtain ⟨ts, hts, he⟩ := named_derived hi h
    rw [htoken] at hspelled
    exact ⟨_, hspelled.trans hts, he⟩
  · cases h

theorem Derived.power {exponent : Rule} (hi : Derived .conditional inner)
    (hx : Derived .signed exponent) : Derived .power (power inner exponent) := by
  intro c e c' h
  obtain ⟨⟨base, c₁⟩, h₁, h⟩ := bind_eq_ok.1 h
  obtain ⟨ts, hts, hb⟩ := hi.primary h₁
  simp only at h
  split at h
  · rename_i hcaret
    obtain ⟨c₂, h₂, h⟩ := bind_eq_ok.1 h
    obtain ⟨⟨exp, c₃⟩, h₃, h⟩ := bind_eq_ok.1 h
    cases h
    obtain ⟨-, -, -, hrest⟩ := Cursor.descend_eq_ok h₂
    obtain ⟨us, hus, he⟩ := hx h₃
    rw [hrest] at hus
    exact ⟨_, hts.trans ((Cursor.spells_advance hcaret).trans hus), .raised hb he⟩
  · cases h
    exact ⟨ts, hts, .tighter rfl hb⟩

/-- What is read behind a token, one level deeper, follows the token. -/
theorem Derived.behind (ho : Derived level operand) {c₁ c₂ : Cursor} (ht : c.peek? = some t)
    (h₁ : c.advance.descend = .ok c₁) (h₂ : operand c₁ = .ok (e, c₂)) :
    ∃ ts, Spells c.rest (t :: ts) c₂.rest ∧ Derives level ts e := by
  obtain ⟨-, -, -, hrest⟩ := Cursor.descend_eq_ok h₁
  obtain ⟨ts, hts, he⟩ := ho h₂
  rw [hrest] at hts
  exact ⟨ts, (Cursor.spells_advance ht).trans hts, he⟩

theorem Derived.signed (hi : Derived .conditional inner) (n : Nat) :
    Derived .signed (signed inner n) := by
  induction n with
  | zero =>
    intro c e c' h
    cases h
  | succ n ih =>
    intro c e c' h
    simp only [Formula.signed] at h
    split at h
    · rename_i op hop
      obtain ⟨c₁, h₁, h⟩ := bind_eq_ok.1 h
      obtain ⟨⟨tree, c₂⟩, h₂, h⟩ := bind_eq_ok.1 h
      obtain ⟨t, ht, hsign⟩ := Option.bind_eq_some_iff.1 hop
      obtain ⟨ts, hts, he⟩ := ih.behind ht h₁ h₂
      cases h
      cases t <;> cases hsign
      · exact ⟨_, hts, .plus he⟩
      · exact ⟨_, hts, .minus he⟩
    · obtain ⟨ts, hts, he⟩ := hi.power ih h
      exact ⟨ts, hts, .tighter rfl he⟩

theorem Derived.comparison (hi : Derived .conditional inner) :
    Derived .comparison (comparison inner) := by
  have hm : Derived .multiplicative (multiplicative inner) :=
    (hi.signed levels).chain rfl joinsAt_multiplicativeJoin
  have ha : Derived .additive (additive inner) := hm.chain rfl joinsAt_additiveJoin
  exact ha.chain rfl joinsAt_comparisonJoin

theorem Derived.negation (hi : Derived .conditional inner) (n : Nat) :
    Derived .negation (negation inner n) := by
  induction n with
  | zero =>
    intro c e c' h
    cases h
  | succ n ih =>
    intro c e c' h
    simp only [Formula.negation] at h
    split at h
    · rename_i hsign
      obtain ⟨c₁, h₁, h⟩ := bind_eq_ok.1 h
      obtain ⟨⟨tree, c₂⟩, h₂, h⟩ := bind_eq_ok.1 h
      obtain ⟨t, ht, hnot⟩ := (Option.any_eq_true _ _).1 hsign
      obtain ⟨ts, hts, he⟩ := ih.behind ht h₁ h₂
      cases h
      cases t with
      | bang => exact ⟨_, hts, .bang he⟩
      | word w => exact ⟨_, hts, .notWord (of_decide_eq_true hnot) he⟩
      | _ => cases hnot
    · obtain ⟨ts, hts, he⟩ := hi.comparison h
      exact ⟨ts, hts, .tighter rfl he⟩

theorem Derived.disjunction (hi : Derived .conditional inner) :
    Derived .disjunction (disjunction inner) := by
  have hc : Derived .conjunction (conjunction inner) :=
    (hi.negation levels).chain rfl joinsAt_andJoin
  exact hc.chain rfl joinsAt_orJoin

theorem Derived.branching (hi : Derived .conditional inner) :
    Derived .conditional (branching inner) := by
  intro c e c' h
  obtain ⟨⟨test, c₁⟩, h₁, h⟩ := bind_eq_ok.1 h
  obtain ⟨ts, hts, ht⟩ := hi.disjunction h₁
  simp only at h
  split at h
  · rename_i hquestion
    obtain ⟨⟨yes, c₂⟩, h₂, h⟩ := bind_eq_ok.1 h
    obtain ⟨c₃, h₃, h⟩ := bind_eq_ok.1 h
    obtain ⟨⟨no, c₄⟩, h₄, h⟩ := bind_eq_ok.1 h
    cases h
    obtain ⟨us, hus, hy⟩ := hi h₂
    obtain ⟨vs, hvs, hn⟩ := hi h₄
    have hbranches := hus.trans ((Cursor.spells_expect h₃).trans hvs)
    exact ⟨_, hts.trans ((Cursor.spells_advance hquestion).trans hbranches), .branches ht hy hn⟩
  · cases h
    exact ⟨ts, hts, .tighter rfl ht⟩

theorem conditional_derived (n : Nat) : Derived .conditional (conditional n) := by
  induction n with
  | zero =>
    intro c e c' h
    cases h
  | succ n ih =>
    intro c e c' h
    obtain ⟨c₁, h₁, h⟩ := bind_eq_ok.1 h
    obtain ⟨⟨tree, c₂⟩, h₂, h⟩ := bind_eq_ok.1 h
    obtain ⟨-, -, -, hrest⟩ := Cursor.descend_eq_ok h₁
    have hread := ih.branching h₂
    rw [hrest] at hread
    cases h
    exact hread

end

end Formula
end FormLogic
