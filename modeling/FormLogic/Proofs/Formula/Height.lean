import FormLogic.Proofs.Formula.Fields
import Mathlib.Order.Monotone.Basic

/-!
# FormLogic.Proofs.Formula.Height

How tall the trees are that are read.

* `Expr.nesting`: the height of a tree if steps to left operands and to tests are left out;
* `tallest k`: a bound on the height of what is read with `k` levels left;
* `Reads`: what the levels left at a cursor say about a tree that is read from there;
* `Bounded`, `Nested`: rules that keep these bounds, the latter with one level less;
* `height_of_parse`: the nesting, the height and the number of tokens of a formula;
* `height_exceeds_maxDepth`: a formula that is taller than the deepest nesting.

A level is taken for each further operand of a chain before that operand is read, and given back at
the end of the chain.  What stands to the left of an operator has been read by then, with the levels
that the chain started from, so a chain adds to the height of its first operand as many levels as
there are left, and the next chain around it does so again.
-/

namespace FormLogic
namespace Formula

mutual

/-- The greatest number of steps on a path that lead to other parts than left operands and tests. -/
def Expr.nesting : Expr → Nat
  | .literal _ => 0
  | .field _ => 0
  | .unary _ e => e.nesting + 1
  | .binary _ l r => max l.nesting (r.nesting + 1)
  | .logical _ l r => max l.nesting (r.nesting + 1)
  | .conditional t y n => max t.nesting (max (y.nesting + 1) (n.nesting + 1))
  | .call _ args => nestings args

/-- One more than the greatest nesting in a list; zero for no trees. -/
def nestings : List Expr → Nat
  | [] => 0
  | e :: es => max (e.nesting + 1) (nestings es)

end

theorem heights_append (es fs : List Expr) :
    heights (es ++ fs) = max (heights es) (heights fs) := by
  induction es with
  | nil => simp [heights]
  | cons e es ih => simp [heights, ih, Nat.max_assoc]

theorem nestings_append (es fs : List Expr) :
    nestings (es ++ fs) = max (nestings es) (nestings fs) := by
  induction es with
  | nil => simp [nestings]
  | cons e es ih => simp [nestings, ih, Nat.max_assoc]

/-- A bound on the height of a formula that is read with `k` levels left: five chains around a
power of a call of a formula with one level less, and a conditional around them. -/
def tallest : Nat → Nat
  | 0 => 0
  | k + 1 => tallest k + (5 * (k + 1) + 3)

/-- A bound on the height of an operand without chains. -/
def tallestOperand : Nat → Nat
  | 0 => 0
  | k + 1 => tallest k + 2

theorem tallest_succ (k : Nat) : tallest (k + 1) = tallest k + (5 * (k + 1) + 3) := rfl

theorem tallestOperand_succ (k : Nat) : tallestOperand (k + 1) = tallest k + 2 := rfl

/-- A bound on the height of an operand with `i` levels of chains around it. -/
def tallestChain (i k : Nat) : Nat := tallestOperand k + i * k

theorem tallestOperand_le (k : Nat) : tallestOperand k + 5 * k ≤ tallest k := by
  cases k with
  | zero => simp [tallestOperand]
  | succ k =>
    rw [tallestOperand_succ, tallest_succ]
    omega

theorem monotone_tallestChain (i : Nat) : Monotone (tallestChain i) := by
  refine monotone_nat_of_le_succ fun k => ?_
  have hk := tallestOperand_le k
  simp only [tallestChain, tallestOperand_succ, Nat.mul_succ]
  omega

/-! ## Cursors -/

/-- The levels that are left. -/
def Cursor.room (c : Cursor) : Nat := maxDepth - c.depth

section

variable {c c' : Cursor}

@[simp] theorem Cursor.depth_advance : c.advance.depth = c.depth := rfl

@[simp] theorem Cursor.room_advance : c.advance.room = c.room := rfl

/-- A token that is there is taken off. -/
theorem Cursor.length_advance {t : Token} (h : c.peek? = some t) :
    c.advance.rest.length + 1 = c.rest.length := by
  unfold peek? at h
  unfold advance
  cases hrest : c.rest with
  | nil => simp [hrest] at h
  | cons t rest => simp

theorem Cursor.descend_eq_ok (h : c.descend = .ok c') :
    c'.depth = c.depth + 1 ∧ c'.depth ≤ maxDepth ∧ c.room = c'.room + 1 ∧ c'.rest = c.rest := by
  unfold descend at h
  split at h
  · rename_i hdepth
    cases h
    refine ⟨rfl, hdepth, ?_, rfl⟩
    simp only [room]
    omega
  · cases h

theorem Cursor.expect_eq_ok {token : Token} {what : Expected}
    (h : c.expect token what = .ok c') :
    c'.depth = c.depth ∧ c'.rest.length + 1 = c.rest.length := by
  unfold expect at h
  split at h
  · cases h
  · rename_i hrest
    split at h
    · cases h
      simp [advance, hrest]
    · cases h

end

/-! ## Rules -/

/-- What `k` levels left and a bound on the height say about a tree that is read from the first
cursor up to the second. -/
structure Reads (bound k : Nat) (c : Cursor) (e : Expr) (c' : Cursor) : Prop where
  consumed : c'.rest.length < c.rest.length
  nesting : e.nesting ≤ k
  height : e.height ≤ bound
  /-- A step to a left operand or a test takes two tokens at least, and any other step one. -/
  tokens : 2 * e.height + 1 + c'.rest.length ≤ k + c.rest.length

/-- The rule reads trees up to a height that depends on the levels left, and gives back all levels
that it takes. -/
def Bounded (bound : Nat → Nat) (rule : Rule) : Prop :=
  ∀ ⦃c e c'⦄, c.depth ≤ maxDepth → rule c = .ok (e, c') →
    c'.depth = c.depth ∧ Reads (bound c.room) c.room c e c'

/-- The rule reads whole formulas, which take a level. -/
def Nested (rule : Rule) : Prop :=
  ∀ ⦃c e c'⦄, c.depth ≤ maxDepth → rule c = .ok (e, c') →
    c'.depth = c.depth ∧ ∃ k, c.room = k + 1 ∧ Reads (tallest k) k c e c'

section

variable {c c₀ c' : Cursor} {e lhs : Expr} {inner operand : Rule} {i : Nat}
variable {join? : Token → Option (Expr → Expr → Expr)}

/-! ### Chains -/

theorem MakesNodes.grows (hj : MakesNodes join?) {t : Token} {join : Expr → Expr → Expr}
    (h : join? t = some join) (l r : Expr) :
    (join l r).height = max l.height r.height + 1 ∧
      (join l r).nesting = max l.nesting (r.nesting + 1) := by
  rcases hj h with ⟨op, rfl⟩ | ⟨op, rfl⟩ <;> exact ⟨rfl, rfl⟩

/-- What holds of the operands of a chain that have been joined already.  The chain has started at
the first cursor. -/
structure Joined (bound : Nat) (c₀ : Cursor) (lhs : Expr) (c : Cursor) : Prop where
  started : c₀.depth ≤ c.depth
  depth : c.depth ≤ maxDepth
  reads : Reads (bound + (c.depth - c₀.depth)) c₀.room c₀ lhs c

theorem chainTail_joined (ho : Bounded (tallestChain i) operand) (hj : MakesNodes join?) {n : Nat}
    (hl : Joined (tallestChain i c₀.room) c₀ lhs c)
    (h : chainTail operand join? n lhs c = .ok (e, c')) :
    Joined (tallestChain i c₀.room) c₀ e c' := by
  induction n generalizing lhs c with
  | zero => cases h
  | succ n ih =>
    simp only [chainTail] at h
    split at h
    · cases h; exact hl
    · rename_i join hjoin
      obtain ⟨c₁, h₁, h⟩ := bind_eq_ok.1 h
      obtain ⟨⟨rhs, c₂⟩, h₂, h⟩ := bind_eq_ok.1 h
      obtain ⟨t, hpeek, ht⟩ := Option.bind_eq_some_iff.1 hjoin
      have htaken := Cursor.length_advance hpeek
      obtain ⟨hdepth₁, hc₁, hroom₁, hrest₁⟩ := Cursor.descend_eq_ok h₁
      obtain ⟨hstarted, hdepth, hconsumed, hnesting, hheight, htokens⟩ := hl
      simp only [Cursor.depth_advance, Cursor.room] at hdepth₁ hroom₁
      obtain ⟨hdepth₂, hr⟩ := ho hc₁ h₂
      obtain ⟨hconsumedr, hnestingr, hheightr, htokensr⟩ := hr
      -- the operand has been read with fewer levels than the chain has started from
      have hroom : c₁.room + 1 ≤ c₀.room := by simp only [Cursor.room]; omega
      have hbound := monotone_tallestChain i (Nat.le_of_succ_le hroom)
      obtain ⟨hh, hn⟩ := hj.grows ht lhs rhs
      rw [hrest₁] at hconsumedr htokensr
      have hnext : Joined (tallestChain i c₀.room) c₀ (join lhs rhs) c₂ := by
        refine ⟨by omega, by omega, by omega, ?_, ?_, ?_⟩
        · rw [hn]; omega
        · rw [hh]; omega
        · rw [hh]; omega
      exact ih hnext h

/-- A chain adds as many levels to the height of its operands as there are left. -/
theorem Bounded.chain (ho : Bounded (tallestChain i) operand) (hj : MakesNodes join?) :
    Bounded (tallestChain (i + 1)) (chain operand join?) := by
  intro c e c' hc h
  obtain ⟨⟨lhs, after⟩, h₁, h⟩ := bind_eq_ok.1 h
  obtain ⟨⟨tree, last⟩, h₂, h⟩ := bind_eq_ok.1 h
  obtain ⟨hdepth, hconsumed, hnesting, hheight, htokens⟩ := ho hc h₁
  have hfirst : Joined (tallestChain i c.room) c lhs after :=
    ⟨by omega, by omega, hconsumed, hnesting, by omega, htokens⟩
  obtain ⟨hstarted, hlast, hreads⟩ := chainTail_joined ho hj hfirst h₂
  cases h
  refine ⟨rfl, hreads.consumed, hreads.nesting, hreads.height.trans ?_, hreads.tokens⟩
  simp only [tallestChain, Nat.succ_mul, Cursor.room]
  omega

/-! ### Operands -/

/-- What holds of arguments that have been read behind an opening parenthesis. -/
structure ReadsAll (c : Cursor) (es : List Expr) (c' : Cursor) : Prop where
  depth : c'.depth = c.depth
  consumed : c'.rest.length ≤ c.rest.length
  nesting : nestings es ≤ c.room
  height : heights es ≤ tallestOperand c.room - 1
  tokens : 2 * heights es + c'.rest.length ≤ c.room + c.rest.length

theorem ReadsAll.snoc {es : List Expr} {c₁ : Cursor} (hi : Nested inner)
    (hc : c.depth ≤ maxDepth) (hes : ReadsAll c es c₁) (h : inner c₁ = .ok (e, c')) :
    ReadsAll c (es ++ [e]) c' := by
  obtain ⟨hdepth, hconsumed, hnesting, hheight, htokens⟩ := hes
  obtain ⟨hdepthe, k, hroom, hreads⟩ := hi (hdepth ▸ hc) h
  obtain ⟨hconsumede, hnestinge, hheighte, htokense⟩ := hreads
  have hsame : c.room = k + 1 := by
    simp only [Cursor.room] at hroom ⊢
    omega
  have hh : heights (es ++ [e]) = max (heights es) (e.height + 1) := by
    rw [heights_append, heights, heights, Nat.max_zero]
  have hn : nestings (es ++ [e]) = max (nestings es) (e.nesting + 1) := by
    rw [nestings_append, nestings, nestings, Nat.max_zero]
  rw [hsame] at hnesting hheight htokens
  refine ⟨by omega, by omega, ?_, ?_, ?_⟩
  · rw [hn, hsame]; omega
  · rw [hh, hsame]
    simp only [tallestOperand_succ] at hheight ⊢
    omega
  · rw [hh, hsame]; omega

theorem argumentsTail_readsAll (hi : Nested inner) (hc : c₀.depth ≤ maxDepth) {n : Nat}
    {done args : List Expr} (hd : ReadsAll c₀ done c)
    (h : argumentsTail inner n done c = .ok (args, c')) : ReadsAll c₀ args c' := by
  induction n generalizing done c with
  | zero => cases h
  | succ n ih =>
    obtain ⟨⟨arg, c₁⟩, h₁, h⟩ := bind_eq_ok.1 h
    have hmore := hd.snoc hi hc h₁
    simp only at h
    split at h
    · rename_i hcomma
      have htaken := Cursor.length_advance hcomma
      obtain ⟨hdepth, hconsumed, hnesting, hheight, htokens⟩ := hmore
      have hnext : ReadsAll c₀ (done ++ [arg]) c₁.advance :=
        ⟨hdepth, by omega, hnesting, hheight, by omega⟩
      exact ih hnext h
    · obtain ⟨c₂, h₂, h⟩ := bind_eq_ok.1 h
      cases h
      obtain ⟨hdepth₂, hrest₂⟩ := Cursor.expect_eq_ok h₂
      obtain ⟨hdepth, hconsumed, hnesting, hheight, htokens⟩ := hmore
      exact ⟨by omega, by omega, hnesting, hheight, by omega⟩

theorem arguments_readsAll (hi : Nested inner) (hc : c.depth ≤ maxDepth) {args : List Expr}
    (h : arguments inner c = .ok (args, c')) : ReadsAll c args c' := by
  unfold arguments at h
  split at h
  · rename_i hclose
    have htaken := Cursor.length_advance hclose
    cases h
    exact ⟨rfl, by omega, by simp [nestings], by simp [heights], by simp only [heights]; omega⟩
  · refine argumentsTail_readsAll hi hc ⟨rfl, le_rfl, ?_, ?_, ?_⟩ h
    · simp [nestings]
    · simp [heights]
    · simp only [heights]; omega

/-- A leaf that takes one token. -/
theorem Reads.leaf {bound k : Nat} (hn : e.nesting = 0) (hh : e.height = 0)
    (hrest : c'.rest.length + 1 = c.rest.length) : Reads bound k c e c' := by
  refine ⟨by omega, by omega, by omega, by omega⟩

theorem named_reads (hi : Nested inner) (hc : c.depth ≤ maxDepth)
    (hname : c.advance.rest.length + 1 = c.rest.length) {name : String}
    (h : named inner name c.advance = .ok (e, c')) :
    c'.depth = c.depth ∧ Reads (tallestOperand c.room - 1) c.room c e c' := by
  unfold Formula.named at h
  split at h
  · cases h
    exact ⟨rfl, .leaf rfl rfl hname⟩
  split at h
  · cases h
  rename_i hopen
  have htaken := Cursor.length_advance (not_not.1 hopen)
  split at h
  · cases h
  obtain ⟨⟨args, c₁⟩, h₁, h⟩ := bind_eq_ok.1 h
  have hargs := arguments_readsAll (c := c.advance.advance) hi hc h₁
  obtain ⟨hdepth, hconsumed, hnesting, hheight, htokens⟩ := hargs
  simp only [Cursor.room_advance] at hnesting hheight htokens
  simp only at h
  split at h
  · cases h
    exact ⟨hdepth, by omega, hnesting, hheight, by simp only [Expr.height]; omega⟩
  · cases h

theorem primary_reads (hi : Nested inner) (hc : c.depth ≤ maxDepth)
    (h : primary inner c = .ok (e, c')) :
    c'.depth = c.depth ∧ Reads (tallestOperand c.room - 1) c.room c e c' := by
  unfold Formula.primary at h
  split at h
  · cases h
  rename_i t rest hrest
  have hpeek : c.peek? = some t.token := by simp [Cursor.peek?, hrest]
  have htaken := Cursor.length_advance hpeek
  split at h
  · cases h; exact ⟨rfl, .leaf rfl rfl htaken⟩
  · cases h; exact ⟨rfl, .leaf rfl rfl htaken⟩
  · cases h; exact ⟨rfl, .leaf rfl rfl htaken⟩
  · obtain ⟨⟨inside, c₁⟩, h₁, h⟩ := bind_eq_ok.1 h
    obtain ⟨c₂, h₂, h⟩ := bind_eq_ok.1 h
    cases h
    obtain ⟨hdepth, k, hroom, hconsumed, hnesting, hheight, htokens⟩ := hi (c := c.advance) hc h₁
    obtain ⟨hdepth₂, hrest₂⟩ := Cursor.expect_eq_ok h₂
    rw [Cursor.room_advance] at hroom
    rw [hroom]
    refine ⟨by rw [hdepth₂, hdepth, Cursor.depth_advance], by omega, by omega, ?_, by omega⟩
    rw [tallestOperand_succ]
    omega
  · exact named_reads hi hc htaken h
  · cases h

theorem power_bounded {exponent : Rule} (hi : Nested inner)
    (hx : Bounded (tallestChain 0) exponent) : Bounded (tallestChain 0) (power inner exponent) := by
  intro c e c' hc h
  obtain ⟨⟨base, c₁⟩, h₁, h⟩ := bind_eq_ok.1 h
  obtain ⟨hdepth, hconsumed, hnesting, hheight, htokens⟩ := primary_reads hi hc h₁
  simp only at h
  split at h
  · rename_i hcaret
    have htaken := Cursor.length_advance hcaret
    obtain ⟨c₂, h₂, h⟩ := bind_eq_ok.1 h
    obtain ⟨⟨exp, c₃⟩, h₃, h⟩ := bind_eq_ok.1 h
    cases h
    obtain ⟨hdepth₂, hc₂, hroom₂, hrest₂⟩ := Cursor.descend_eq_ok h₂
    simp only [Cursor.depth_advance, Cursor.room_advance] at hdepth₂ hroom₂
    have hsame : c.room = c₂.room + 1 := by
      simp only [Cursor.room] at hroom₂ ⊢
      omega
    obtain ⟨hdepth₃, hconsumed₃, hnesting₃, hheight₃, htokens₃⟩ := hx hc₂ h₃
    rw [hrest₂] at hconsumed₃ htokens₃
    have hle := tallestOperand_le c₂.room
    rw [hsame] at hnesting hheight htokens ⊢
    simp only [tallestChain, tallestOperand_succ] at hheight hheight₃ ⊢
    refine ⟨?_, ?_, ?_, ?_, ?_⟩
    · simp only [Cursor.ascend]; omega
    · simp only [Cursor.ascend]; omega
    · simp only [Expr.nesting]; omega
    · simp only [Expr.height]; omega
    · simp only [Cursor.ascend, Expr.height]; omega
  · cases h
    refine ⟨hdepth, hconsumed, hnesting, ?_, htokens⟩
    simp only [tallestChain]
    omega

/-- An operator before an operand of the same level takes one level. -/
theorem Bounded.unary {op : UnaryOp} {c₁ c₂ : Cursor}
    (hrule : Bounded (tallestChain i) operand) {t : Token} (ht : c.peek? = some t)
    (h₁ : c.advance.descend = .ok c₁) (h₂ : operand c₁ = .ok (e, c₂)) :
    c₂.ascend.depth = c.depth ∧
      Reads (tallestChain i c.room) c.room c (.unary op e) c₂.ascend := by
  have htaken := Cursor.length_advance ht
  obtain ⟨hdepth₁, hc₁, hroom₁, hrest₁⟩ := Cursor.descend_eq_ok h₁
  simp only [Cursor.depth_advance, Cursor.room_advance] at hdepth₁ hroom₁
  obtain ⟨hdepth₂, hconsumed, hnesting, hheight, htokens⟩ := hrule hc₁ h₂
  rw [hrest₁] at hconsumed htokens
  have hle := tallestOperand_le c₁.room
  rw [hroom₁]
  refine ⟨?_, ?_, ?_, ?_, ?_⟩
  · simp only [Cursor.ascend]; omega
  · simp only [Cursor.ascend]; omega
  · simp only [Expr.nesting]; omega
  · simp only [tallestChain, tallestOperand_succ, Nat.mul_succ] at hheight ⊢
    simp only [Expr.height]; omega
  · simp only [Cursor.ascend, Expr.height]; omega

theorem signed_bounded (hi : Nested inner) (n : Nat) :
    Bounded (tallestChain 0) (signed inner n) := by
  induction n with
  | zero => intro c e c' _ h; cases h
  | succ n ih =>
    intro c e c' hc h
    simp only [Formula.signed] at h
    split at h
    · rename_i op hop
      obtain ⟨c₁, h₁, h⟩ := bind_eq_ok.1 h
      obtain ⟨⟨operand, c₂⟩, h₂, h⟩ := bind_eq_ok.1 h
      obtain ⟨t, ht, -⟩ := Option.bind_eq_some_iff.1 hop
      cases h
      exact ih.unary ht h₁ h₂
    · exact power_bounded hi ih hc h

/-! ### Formulas -/

theorem comparison_bounded (hi : Nested inner) : Bounded (tallestChain 3) (comparison inner) := by
  have hm : Bounded (tallestChain 1) (multiplicative inner) :=
    (signed_bounded hi levels).chain makesNodes_multiplicativeJoin
  have ha : Bounded (tallestChain 2) (additive inner) := hm.chain makesNodes_additiveJoin
  exact ha.chain makesNodes_comparisonJoin

theorem negation_bounded (hi : Nested inner) (n : Nat) :
    Bounded (tallestChain 3) (negation inner n) := by
  induction n with
  | zero => intro c e c' _ h; cases h
  | succ n ih =>
    intro c e c' hc h
    simp only [Formula.negation] at h
    split at h
    · rename_i hsign
      obtain ⟨t, ht⟩ : ∃ t, c.peek? = some t := by
        cases hpeek : c.peek? with
        | none => simp [hpeek] at hsign
        | some t => exact ⟨t, rfl⟩
      obtain ⟨c₁, h₁, h⟩ := bind_eq_ok.1 h
      obtain ⟨⟨operand, c₂⟩, h₂, h⟩ := bind_eq_ok.1 h
      cases h
      exact ih.unary ht h₁ h₂
    · exact comparison_bounded hi hc h

theorem disjunction_bounded (hi : Nested inner) :
    Bounded (tallestChain 5) (disjunction inner) := by
  have hc : Bounded (tallestChain 4) (conjunction inner) :=
    (negation_bounded hi levels).chain makesNodes_andJoin
  exact hc.chain makesNodes_orJoin

theorem branching_bounded (hi : Nested inner) : Bounded tallest (branching inner) := by
  intro c e c' hc h
  obtain ⟨⟨test, c₁⟩, h₁, h⟩ := bind_eq_ok.1 h
  obtain ⟨hdepth₁, hconsumed, hnesting, hheight, htokens⟩ := disjunction_bounded hi hc h₁
  simp only at h
  split at h
  · rename_i hquestion
    have htaken := Cursor.length_advance hquestion
    obtain ⟨⟨yes, c₂⟩, h₂, h⟩ := bind_eq_ok.1 h
    dsimp only at h
    obtain ⟨c₃, h₃, h⟩ := bind_eq_ok.1 h
    obtain ⟨⟨no, c₄⟩, h₄, h⟩ := bind_eq_ok.1 h
    dsimp only at h
    cases h
    have hroom₁ : c₁.room = c.room := by rw [Cursor.room, hdepth₁, Cursor.room]
    obtain ⟨hdepth₂, k, hk, hconsumedy, hnestingy, hheighty, htokensy⟩ :=
      hi (c := c₁.advance) (hdepth₁.trans_le hc) h₂
    rw [Cursor.depth_advance] at hdepth₂
    rw [Cursor.room_advance, hroom₁] at hk
    obtain ⟨hdepth₃, hrest₃⟩ := Cursor.expect_eq_ok h₃
    have hroom₃ : c₃.room = c.room := by
      rw [Cursor.room, hdepth₃, hdepth₂, hdepth₁, Cursor.room]
    obtain ⟨hdepth₄, k', hk', hconsumedn, hnestingn, hheightn, htokensn⟩ :=
      hi (show c₃.depth ≤ maxDepth by omega) h₄
    obtain rfl : k' = k := by omega
    rw [hk] at hnesting hheight htokens ⊢
    simp only [tallestChain, tallestOperand_succ] at hheight
    refine ⟨by omega, by omega, ?_, ?_, ?_⟩
    · simp only [Expr.nesting]; omega
    · simp only [Expr.height, tallest_succ]; omega
    · simp only [Expr.height]; omega
  · cases h
    refine ⟨hdepth₁, hconsumed, hnesting, hheight.trans ?_, htokens⟩
    exact tallestOperand_le c.room

theorem conditional_nested (n : Nat) : Nested (conditional n) := by
  induction n with
  | zero => intro c e c' _ h; cases h
  | succ n ih =>
    intro c e c' hc h
    obtain ⟨c₁, h₁, h⟩ := bind_eq_ok.1 h
    obtain ⟨⟨tree, c₂⟩, h₂, h⟩ := bind_eq_ok.1 h
    cases h
    obtain ⟨hdepth₁, hc₁, hroom₁, hrest₁⟩ := Cursor.descend_eq_ok h₁
    obtain ⟨hdepth₂, hconsumed, hnesting, hheight, htokens⟩ := branching_bounded ih hc₁ h₂
    rw [hrest₁] at hconsumed htokens
    refine ⟨?_, c₁.room, hroom₁, hconsumed, hnesting, hheight, htokens⟩
    simp only [Cursor.ascend]
    omega

end

theorem parseTokens_reads {tokens : List Lexeme} {e : Expr} (h : parseTokens tokens = .ok e) :
    e.nesting < maxDepth ∧ e.height ≤ tallest (maxDepth - 1) ∧
      2 * e.height + 1 < maxDepth + tokens.length := by
  obtain ⟨⟨tree, c⟩, h₁, h⟩ := bind_eq_ok.1 h
  obtain ⟨-, k, hk, -, hnesting, hheight, htokens⟩ := conditional_nested levels (Nat.zero_le _) h₁
  have hroom : maxDepth = k + 1 := hk
  simp only at h htokens
  split at h
  · cases h
    rw [hroom]
    exact ⟨by omega, hheight, by omega⟩
  · cases h

/-- What the limit of the nesting says about a formula that is read: not its height is below the
limit, but its nesting is.  The height has a bound of its own, and it is within the limit if the
formula has no more than 259 tokens. -/
theorem height_of_parse {source : String} {e : Expr} (h : parse source = .ok e) :
    ∃ tokens, tokenize source = .ok tokens ∧
      e.nesting < maxDepth ∧ e.height ≤ 163965 ∧
      2 * e.height + 1 < maxDepth + tokens.length ∧
      (tokens.length ≤ 259 → e.height ≤ maxDepth) := by
  obtain ⟨tokens, htokens, h⟩ := bind_eq_ok.1 h
  obtain ⟨hnesting, hheight, hlength⟩ := parseTokens_reads h
  have htallest : tallest (maxDepth - 1) = 163965 := by decide +kernel
  rw [htallest] at hheight
  refine ⟨tokens, htokens, hnesting, hheight, hlength, fun hfew => ?_⟩
  simp only [maxDepth] at hlength ⊢
  omega

/-! ## Signs before a sum -/

/-- Minus signs before the first operand of a sum of three. -/
def signedSum (signs : Nat) : String :=
  String.ofList (List.replicate signs '-' ++ "@A+@A+@A".toList)

theorem tokenize_signedSum (signs : Nat) :
    tokenize (signedSum signs) = lexemes 0 (List.replicate signs '-' ++ "@A+@A+@A".toList) := by
  rw [tokenize, signedSum, String.toList_ofList]

theorem parse_signedSum (signs : Nat) :
    parse (signedSum signs) =
      (lexemes 0 (List.replicate signs '-' ++ "@A+@A+@A".toList) >>= parseTokens) := by
  rw [← tokenize_signedSum]
  rfl

theorem eq_ok_of_map {ε α β : Type} {x : Except ε α} {f : α → β} {b : β}
    (h : x.toOption.map f = some b) : ∃ a, x = .ok a ∧ f a = b := by
  cases x with
  | error _ => cases h
  | ok a => exact ⟨a, rfl, Option.some.inj h⟩

/-- With one sign less than are read at most, the formula has 259 tokens and just the height of the
limit. -/
theorem height_of_parse_signedSum : ∃ e tokens, parse (signedSum 254) = .ok e ∧
    tokenize (signedSum 254) = .ok tokens ∧ tokens.length = 259 ∧ e.height = maxDepth ∧
    e.nesting < maxDepth ∧ e.height ≤ maxDepth := by
  have hparse : (parse (signedSum 254)).toOption.map Expr.height = some maxDepth := by
    rw [parse_signedSum]
    decide +kernel
  have htokenize : (tokenize (signedSum 254)).toOption.map List.length = some 259 := by
    rw [tokenize_signedSum]
    decide +kernel
  obtain ⟨e, he, hheight⟩ := eq_ok_of_map hparse
  obtain ⟨tokens, ht, hlength⟩ := eq_ok_of_map htokenize
  obtain ⟨found, hfound, hnesting, -, -, hfew⟩ := height_of_parse he
  obtain rfl : found = tokens := by
    rw [ht] at hfound
    exact (Except.ok.inj hfound).symm
  exact ⟨e, found, he, ht, hlength, hheight, hnesting, hfew hlength.le⟩

/-- As many signs as are read, one token more, and the formula is taller than the limit. -/
theorem height_exceeds_maxDepth : ∃ e tokens, parse (signedSum 255) = .ok e ∧
    tokenize (signedSum 255) = .ok tokens ∧ tokens.length = 260 ∧ maxDepth < e.height := by
  have hparse : (parse (signedSum 255)).toOption.map Expr.height = some (maxDepth + 1) := by
    rw [parse_signedSum]
    decide +kernel
  have htokenize : (tokenize (signedSum 255)).toOption.map List.length = some 260 := by
    rw [tokenize_signedSum]
    decide +kernel
  obtain ⟨e, he, hheight⟩ := eq_ok_of_map hparse
  obtain ⟨tokens, ht, hlength⟩ := eq_ok_of_map htokenize
  exact ⟨e, tokens, he, ht, hlength, by omega⟩

end Formula
end FormLogic
