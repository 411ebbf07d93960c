import FormLogic.Proofs.Formula.Acceptance

/-!
# FormLogic.Proofs.Formula.Balance

The rules of the grammar give back the levels that they take.

* `Balanced rule`: what the rule leaves is at the depth it started from;
* `Balanced.chain`, `Balanced.signed`, …: one lemma for each rule;
* `ruleAt_steady`: the rule of a level moves on, too;
* `Cursor.ofPosition`: the cursor at a position of a list of tokens;
* `position_of_ruleAt`: what it leaves is a later position, or the end.

A sign and a formula inside count one level down and up again.  A chain goes down with each further
operand, so what its loop leaves is deeper, and the chain sets the depth back to that of its start.
-/

namespace FormLogic
namespace Formula

/-! ## Cursors -/

namespace Cursor

variable {c c' : Cursor}

theorem eq_of_descend (h : c.descend = .ok c') : c' = { c with depth := c.depth + 1 } := by
  unfold descend at h
  split at h
  · cases h
    rfl
  · cases h

theorem eq_of_expect {t : Token} {what : Expected} (h : c.expect t what = .ok c') :
    c' = c.advance := by
  unfold expect at h
  split at h
  · cases h
  split at h
  · cases h
    rfl
  · cases h

theorem length_advance_le (c : Cursor) : c.advance.rest.length ≤ c.rest.length := by
  simp [advance]

/-- The same depth, in the same list of tokens. -/
structure Beside (c c' : Cursor) : Prop where
  depth : c'.depth = c.depth
  last : c'.last = c.last

theorem Beside.refl (c : Cursor) : Beside c c := ⟨rfl, rfl⟩

theorem Beside.trans {c₁ c₂ c₃ : Cursor} (h₁ : Beside c₁ c₂) (h₂ : Beside c₂ c₃) : Beside c₁ c₃ :=
  ⟨h₂.depth.trans h₁.depth, h₂.last.trans h₁.last⟩

theorem beside_advance (c : Cursor) : Beside c c.advance := ⟨rfl, rfl⟩

theorem beside_expect {t : Token} {what : Expected} (h : c.expect t what = .ok c') :
    Beside c c' :=
  eq_of_expect h ▸ beside_advance c

/-- One level down, along what is beside, and up again. -/
theorem Beside.ascend {c₁ c₂ : Cursor} (h₁ : c.descend = .ok c₁) (h₂ : Beside c₁ c₂) :
    Beside c c₂.ascend := by
  obtain rfl := eq_of_descend h₁
  refine ⟨?_, h₂.last⟩
  simp [Cursor.ascend, h₂.depth]

end Cursor

/-! ## Rules -/

/-- The rule leaves what it reads beside its start. -/
def Balanced (rule : Rule) : Prop :=
  ∀ ⦃c e c'⦄, rule c = .ok (e, c') → c.Beside c'

section

variable {c c' : Cursor} {e : Expr} {inner operand : Rule}
variable {join? : Token → Option (Expr → Expr → Expr)}

/-- The loop of a chain goes down with each operand. -/
theorem last_of_chainTail (ho : Balanced operand) {n : Nat} {lhs : Expr}
    (h : chainTail operand join? n lhs c = .ok (e, c')) : c'.last = c.last := by
  induction n generalizing lhs c with
  | zero => cases h
  | succ n ih =>
    simp only [chainTail] at h
    split at h
    · cases h
      rfl
    · obtain ⟨c₁, h₁, h⟩ := bind_eq_ok.1 h
      obtain ⟨⟨rhs, c₂⟩, h₂, h⟩ := bind_eq_ok.1 h
      have hlast : c₁.last = c.last := by
        rw [Cursor.eq_of_descend h₁]
        rfl
      exact (ih h).trans ((ho h₂).last.trans hlast)

theorem Balanced.chain (ho : Balanced operand) : Balanced (chain operand join?) := by
  intro c e c' h
  obtain ⟨⟨lhs, after⟩, h₁, h⟩ := bind_eq_ok.1 h
  obtain ⟨⟨tree, last⟩, h₂, h⟩ := bind_eq_ok.1 h
  cases h
  exact ⟨rfl, (last_of_chainTail ho h₂).trans (ho h₁).last⟩

theorem beside_argumentsTail (hi : Balanced inner) {n : Nat} {done args : List Expr}
    (h : argumentsTail inner n done c = .ok (args, c')) : c.Beside c' := by
  induction n generalizing done c with
  | zero => cases h
  | succ n ih =>
    obtain ⟨⟨arg, c₁⟩, h₁, h⟩ := bind_eq_ok.1 h
    simp only at h
    split at h
    · exact (hi h₁).trans (c₁.beside_advance.trans (ih h))
    · obtain ⟨c₂, h₂, h⟩ := bind_eq_ok.1 h
      cases h
      exact (hi h₁).trans (Cursor.beside_expect h₂)

theorem beside_arguments (hi : Balanced inner) {args : List Expr}
    (h : arguments inner c = .ok (args, c')) : c.Beside c' := by
  unfold arguments at h
  split at h
  · cases h
    exact c.beside_advance
  · exact beside_argumentsTail hi h

theorem Balanced.named (hi : Balanced inner) (name : String) : Balanced (named inner name) := by
  intro c e c' h
  unfold Formula.named at h
  split at h
  · cases h
    exact .refl c
  split at h
  · cases h
  split at h
  · cases h
  obtain ⟨⟨args, c₁⟩, h₁, h⟩ := bind_eq_ok.1 h
  simp only at h
  split at h
  · cases h
    exact c.beside_advance.trans (beside_arguments hi h₁)
  · cases h

theorem Balanced.primary (hi : Balanced inner) : Balanced (primary inner) := by
  intro c e c' h
  unfold Formula.primary at h
  split at h
  · cases h
  split at h
  · cases h
    exact c.beside_advance
  · cases h
    exact c.beside_advance
  · cases h
    exact c.beside_advance
  · obtain ⟨⟨inside, c₁⟩, h₁, h⟩ := bind_eq_ok.1 h
    obtain ⟨c₂, h₂, h⟩ := bind_eq_ok.1 h
    cases h
    exact c.beside_advance.trans ((hi h₁).trans (Cursor.beside_expect h₂))
  · exact c.beside_advance.trans (hi.named _ h)
  · cases h

theorem Balanced.power {exponent : Rule} (hi : Balanced inner) (hx : Balanced exponent) :
    Balanced (power inner exponent) := by
  intro c e c' h
  obtain ⟨⟨base, c₁⟩, h₁, h⟩ := bind_eq_ok.1 h
  simp only at h
  split at h
  · obtain ⟨c₂, h₂, h⟩ := bind_eq_ok.1 h
    obtain ⟨⟨exp, c₃⟩, h₃, h⟩ := bind_eq_ok.1 h
    cases h
    exact (hi.primary h₁).trans (c₁.beside_advance.trans (.ascend h₂ (hx h₃)))
  · cases h
    exact hi.primary h₁

theorem Balanced.signed (hi : Balanced inner) (n : Nat) : Balanced (signed inner n) := by
  induction n with
  | zero =>
    intro c e c' h
    cases h
  | succ n ih =>
    intro c e c' h
    simp only [Formula.signed] at h
    split at h
    · obtain ⟨c₁, h₁, h⟩ := bind_eq_ok.1 h
      obtain ⟨⟨tree, c₂⟩, h₂, h⟩ := bind_eq_ok.1 h
      cases h
      exact c.beside_advance.trans (.ascend h₁ (ih h₂))
    · exact hi.power ih h

theorem Balanced.comparison (hi : Balanced inner) : Balanced (comparison inner) :=
  (hi.signed levels).chain.chain.chain

theorem Balanced.negation (hi : Balanced inner) (n : Nat) : Balanced (negation inner n) := by
  induction n with
  | zero =>
    intro c e c' h
    cases h
  | succ n ih =>
    intro c e c' h
    simp only [Formula.negation] at h
    split at h
    · obtain ⟨c₁, h₁, h⟩ := bind_eq_ok.1 h
      obtain ⟨⟨tree, c₂⟩, h₂, h⟩ := bind_eq_ok.1 h
      cases h
      exact c.beside_advance.trans (.ascend h₁ (ih h₂))
    · exact hi.comparison h

theorem Balanced.disjunction (hi : Balanced inner) : Balanced (disjunction inner) :=
  (hi.negation levels).chain.chain

theorem Balanced.branching (hi : Balanced inner) : Balanced (branching inner) := by
  intro c e c' h
  obtain ⟨⟨test, c₁⟩, h₁, h⟩ := bind_eq_ok.1 h
  simp only at h
  split at h
  · obtain ⟨⟨yes, c₂⟩, h₂, h⟩ := bind_eq_ok.1 h
    obtain ⟨c₃, h₃, h⟩ := bind_eq_ok.1 h
    obtain ⟨⟨no, c₄⟩, h₄, h⟩ := bind_eq_ok.1 h
    cases h
    have hyes := (hi.disjunction h₁).trans (c₁.beside_advance.trans (hi h₂))
    exact hyes.trans ((Cursor.beside_expect h₃).trans (hi h₄))
  · cases h
    exact hi.disjunction h₁

theorem conditional_balanced (n : Nat) : Balanced (conditional n) := by
  induction n with
  | zero =>
    intro c e c' h
    cases h
  | succ n ih =>
    intro c e c' h
    obtain ⟨c₁, h₁, h⟩ := bind_eq_ok.1 h
    obtain ⟨⟨tree, c₂⟩, h₂, h⟩ := bind_eq_ok.1 h
    cases h
    exact .ascend h₁ (ih.branching h₂)

end

/-! ## Levels -/

theorem ruleAt_balanced (level : Level) (n m : Nat) : Balanced (ruleAt level n m) := by
  have hi := conditional_balanced n
  cases level with
  | conditional => exact hi
  | disjunction => exact hi.disjunction
  | conjunction => exact (hi.negation levels).chain
  | negation => exact hi.negation m
  | comparison => exact hi.comparison
  | additive => exact (hi.signed levels).chain.chain
  | multiplicative => exact (hi.signed levels).chain
  | signed => exact hi.signed m
  | power => exact hi.power (hi.signed m)
  | primary => exact hi.primary

theorem ruleAt_derived (level : Level) (n m : Nat) : Derived level (ruleAt level n m) := by
  have hi := conditional_derived n
  cases level with
  | conditional => exact hi
  | disjunction => exact hi.disjunction
  | conjunction => exact (hi.negation levels).chain rfl joinsAt_andJoin
  | negation => exact hi.negation m
  | comparison => exact hi.comparison
  | additive =>
    have hm := (hi.signed levels).chain rfl joinsAt_multiplicativeJoin
    exact hm.chain rfl joinsAt_additiveJoin
  | multiplicative => exact (hi.signed levels).chain rfl joinsAt_multiplicativeJoin
  | signed => exact hi.signed m
  | power => exact hi.power (hi.signed m)
  | primary => exact hi.primary

/-- The rule gives back its levels and moves on. -/
def Steady (rule : Rule) : Prop :=
  ∀ ⦃c e c'⦄, rule c = .ok (e, c') → c'.depth = c.depth ∧ c'.rest.length < c.rest.length

theorem ruleAt_steady (level : Level) (n m : Nat) : Steady (ruleAt level n m) := by
  intro c e c' h
  obtain ⟨ts, hts, hd⟩ := ruleAt_derived level n m h
  obtain ⟨t, us, rfl, -⟩ := hd.head
  have hlength := hts.length_eq
  rw [List.length_cons] at hlength
  exact ⟨(ruleAt_balanced level n m h).depth, by omega⟩

/-! ## Positions -/

theorem Spells.eq_drop {ls rest : List Lexeme} {ts : List Token} (h : Spells ls ts rest) :
    rest = ls.drop ts.length := by
  induction h with
  | done => rfl
  | token _ ih => exact ih

/-- The cursor at a position of a list of tokens. -/
def Cursor.ofPosition (tokens : List Lexeme) (position depth : Nat) : Cursor :=
  ⟨depth, tokens.drop position, (tokens.getLast?.map (·.position)).getD 0⟩

/-- Behind what is read, at the same depth, there is a later position or the end. -/
theorem position_of_ruleAt {level : Level} {n m position depth : Nat} {tokens : List Lexeme}
    {e : Expr} {c' : Cursor}
    (h : ruleAt level n m (.ofPosition tokens position depth) = .ok (e, c')) :
    ∃ position', position < position' ∧ position' ≤ tokens.length ∧
      c' = .ofPosition tokens position' depth := by
  obtain ⟨ts, hts, hd⟩ := ruleAt_derived level n m h
  have hbeside := ruleAt_balanced level n m h
  obtain ⟨t, us, rfl, -⟩ := hd.head
  have hdrop := hts.eq_drop
  have hlength := hts.length_eq
  simp only [Cursor.ofPosition, List.length_drop, List.length_cons, List.drop_drop] at hdrop hlength
  refine ⟨position + (us.length + 1), by omega, by omega, ?_⟩
  calc c' = ⟨c'.depth, c'.rest, c'.last⟩ := rfl
    _ = .ofPosition tokens (position + (us.length + 1)) depth := by
      rw [hbeside.depth, hbeside.last, hdrop]
      rfl

end Formula
end FormLogic
