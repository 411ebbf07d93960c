import FormLogic.Proofs.Formula.Balance

/-!
# FormLogic.Proofs.Formula.Descent

The rules of the grammar as a recursion without bounds.

* `Descent`: a rule for each level, the loop of a chain and the loop over arguments;
* `Descent.body`: what each of them does itself, with the others called from a descent;
* `Descent.bounded n`: the rules as they are, with `n` levels left for formulas inside;
* `Descent.Agrees`: descents that agree on some calls;
* `Descent.rule_congr`: at which depths a rule makes its calls, and how far they come;
* `bounded_agrees`: it does not matter how many levels are left, as long as the depth allows none
  more;
* `descent_balanced`: the rules are a recursion that ends, moves on and gives back its levels.

Each call either has fewer tokens left than its caller, or as many and a tighter level.  So a call
is given a weight that is less than that of its caller, and what a descent does is settled by as
many calls inside one another as the weight says.
-/

namespace FormLogic
namespace Formula

namespace Level

/-- The level of the operands. -/
def operand (level : Level) : Level := level.next?.getD .primary

/-- How a token joins operands at the level. -/
def join? : Level → Token → Option (Expr → Expr → Expr)
  | .disjunction => orJoin?
  | .conjunction => andJoin?
  | .comparison => comparisonJoin?
  | .additive => additiveJoin?
  | .multiplicative => multiplicativeJoin?
  | _ => fun _ => none

theorem rank_le (level : Level) : level.rank ≤ 9 := by
  cases level <;> decide

end Level

structure Descent where
  rule : Level → Rule
  /-- Further operands behind what has been read. -/
  tail : Level → Expr → Rule
  /-- Further arguments behind those that have been read. -/
  arguments : List Expr → Cursor → Except Fault (List Expr × Cursor)

namespace Descent

/-! ## What each call does itself -/

section

variable (d : Descent)

def branching : Rule := fun c => do
  let (test, c) ← d.rule .disjunction c
  if c.peek? = some .question then
    let (yes, c) ← d.rule .conditional c.advance
    let c ← c.expect .colon .colon
    let (no, c) ← d.rule .conditional c
    return (.conditional test yes no, c)
  else return (test, c)

def conditional : Rule := fun c => do
  let c ← c.descend
  let (e, c) ← d.branching c
  return (e, c.ascend)

def chain (level : Level) : Rule := fun c => do
  let (lhs, after) ← d.rule level.operand c
  let (e, after) ← d.tail level lhs after
  return (e, { after with depth := c.depth })

def furtherOperands (level : Level) (lhs : Expr) : Rule := fun c =>
  match c.peek?.bind level.join? with
  | none => .ok (lhs, c)
  | some join => do
    let c ← c.advance.descend
    let (rhs, c) ← d.rule level.operand c
    d.tail level (join lhs rhs) c

def negation : Rule := fun c =>
  if c.peek?.any isNegationSign then do
    let c ← c.advance.descend
    let (e, c) ← d.rule .negation c
    return (.unary .not e, c.ascend)
  else d.rule .comparison c

def signed : Rule := fun c =>
  match c.peek?.bind sign? with
  | some op => do
    let c ← c.advance.descend
    let (e, c) ← d.rule .signed c
    return (.unary op e, c.ascend)
  | none => d.rule .power c

def power : Rule := fun c => do
  let (base, c) ← d.rule .primary c
  if c.peek? = some .caret then
    let c ← c.advance.descend
    let (e, c) ← d.rule .signed c
    return (.binary .pow base e, c.ascend)
  else return (base, c)

def furtherArguments (done : List Expr) (c : Cursor) : Except Fault (List Expr × Cursor) := do
  let (arg, c) ← d.rule .conditional c
  if c.peek? = some .comma then d.arguments (done ++ [arg]) c.advance
  else
    let c ← c.expect .close .commaOrClose
    return (done ++ [arg], c)

def callArguments (c : Cursor) : Except Fault (List Expr × Cursor) :=
  if c.peek? = some .close then .ok ([], c.advance) else d.arguments [] c

def named (name : String) : Rule := fun c =>
  match constant? (lowerWord name) with
  | some v => .ok (.literal v, c)
  | none =>
    if c.peek? ≠ some .open then .error (.unknownWord name)
    else
      match Function.ofName? (lowerWord name) with
      | none => .error (.unknownFunction name)
      | some f => do
        let (args, c) ← d.callArguments c.advance
        if f.admits args.length then return (.call f args, c)
        else throw (.arity f args.length)

def primary : Rule := fun c =>
  match c.rest with
  | [] => .error .unexpectedEnd
  | t :: _ =>
    match t.token with
    | .number x => .ok (.literal (.number x), c.advance)
    | .text s => .ok (.literal (.text s), c.advance)
    | .field name => .ok (.field name, c.advance)
    | .open => do
      let (e, c) ← d.rule .conditional c.advance
      let c ← c.expect .close .close
      return (e, c)
    | .word name => d.named name c.advance
    | other => .error (.misplaced t.position (.unexpected other))

/-- The calls with their own steps, and with the calls that they make taken from the descent. -/
def body : Descent where
  rule
    | .conditional => d.conditional
    | .negation => d.negation
    | .signed => d.signed
    | .power => d.power
    | .primary => d.primary
    | level => d.chain level
  tail := d.furtherOperands
  arguments := d.furtherArguments

/-- A descent by `n` calls inside one another; the calls inside of these are taken from `d`. -/
def within : Nat → Descent
  | 0 => d
  | n + 1 => (within n).body

end

/-- The rules of the grammar, with `n` levels left for formulas inside. -/
def bounded (n : Nat) : Descent where
  rule level := ruleAt level n levels
  tail level := chainTail (ruleAt level.operand n levels) level.join? levels
  arguments done c := argumentsTail (Formula.conditional n) (c.rest.length + 1) done c

/-! ## Calls -/

/-- Each call weighs less than its caller.  The loop of a chain has the rank 0, since all its calls
are behind an operator, and the loop over arguments the rank 10. -/
def weight (rank : Nat) (c : Cursor) : Nat := 11 * c.rest.length + rank

/-- The descents agree on the calls of some ranks at some cursors. -/
structure Agrees (calls : Nat → Cursor → Prop) (p q : Descent) : Prop where
  rule : ∀ level c, calls level.rank c → p.rule level c = q.rule level c
  tail : ∀ level lhs c, calls 0 c → p.tail level lhs c = q.tail level lhs c
  arguments : ∀ done c, calls 10 c → p.arguments done c = q.arguments done c

/-- The depths at which a rule makes its calls. -/
def callDepth : Level → Nat → Nat → Prop
  | .conditional, depth, depth' => depth' = depth + 1
  | .negation, depth, depth' | .signed, depth, depth' | .power, depth, depth' =>
    depth' = depth ∨ depth' = depth + 1
  | _, depth, depth' => depth' = depth

theorem le_of_callDepth {level : Level} {depth depth' : Nat} (h : callDepth level depth depth') :
    depth ≤ depth' := by
  cases level <;> simp only [callDepth] at h <;> omega

theorem weight_lt {c c' : Cursor} {rank rank' : Nat} (hrank : rank ≤ 10)
    (hrest : c'.rest.length < c.rest.length) : weight rank c' < weight rank' c := by
  unfold weight
  omega

theorem bind_congr_ok {α β : Type} {x y : Except Fault α} {f g : α → Except Fault β} (hx : x = y)
    (hf : ∀ a, y = .ok a → f a = g a) : x >>= f = y >>= g := by
  subst hx
  cases x with
  | error fault => rfl
  | ok a => exact hf a rfl

/-- Rules that agree one level deeper do the same there. -/
theorem descend_congr {rule rule' : Rule} {f : Expr × Cursor → Except Fault (Expr × Cursor)}
    {c : Cursor} (h : ∀ c', c'.depth = c.depth + 1 → c'.depth ≤ maxDepth → c'.rest = c.rest →
      rule c' = rule' c') :
    (c.descend >>= fun c' => rule c' >>= f) = c.descend >>= fun c' => rule' c' >>= f := by
  refine bind_congr_ok rfl fun c' hc' => ?_
  obtain ⟨hdepth, hle, -, hrest⟩ := Cursor.descend_eq_ok hc'
  rw [h c' hdepth hle hrest]

section

variable {calls : Nat → Cursor → Prop} {p q : Descent} {c : Cursor}

theorem conditional_congr (hq : ∀ level, Steady (q.rule level)) (h : p.Agrees calls q)
    (hcalls : ∀ rank c', weight rank c' < weight 9 c → c'.depth = c.depth + 1 → calls rank c') :
    p.conditional c = q.conditional c := by
  refine bind_congr_ok rfl fun c₁ hc₁ => ?_
  obtain rfl := Cursor.eq_of_descend hc₁
  refine bind_congr_ok (bind_congr_ok ?_ ?_) fun _ _ => rfl
  · exact h.rule _ _ (hcalls _ _ (by simp [weight, Level.rank]) rfl)
  rintro ⟨test, c₂⟩ h₂
  obtain ⟨hdepth₂, hrest₂⟩ := hq _ h₂
  dsimp only at hdepth₂ hrest₂ ⊢
  split
  · have hadvance := c₂.length_advance_le
    have hyes : calls 9 c₂.advance := hcalls _ _ (weight_lt (by omega) (by omega)) hdepth₂
    refine bind_congr_ok (h.rule _ _ hyes) ?_
    rintro ⟨yes, c₃⟩ h₃
    obtain ⟨hdepth₃, hrest₃⟩ := hq _ h₃
    refine bind_congr_ok rfl fun c₄ h₄ => ?_
    obtain ⟨hdepth₄, hrest₄⟩ := Cursor.expect_eq_ok h₄
    dsimp only at hdepth₄ hrest₄
    have hno : calls 9 c₄ := by
      refine hcalls _ _ (weight_lt (by omega) (by omega)) ?_
      rw [hdepth₄, hdepth₃, Cursor.depth_advance, hdepth₂]
    exact bind_congr_ok (h.rule _ _ hno) fun _ _ => rfl
  · rfl

theorem chain_congr (hq : ∀ level, Steady (q.rule level)) (h : p.Agrees calls q) {level : Level}
    (hoperand : level.operand.rank < level.rank)
    (hcalls : ∀ rank c', weight rank c' < weight level.rank c → c'.depth = c.depth →
      calls rank c') :
    p.chain level c = q.chain level c := by
  refine bind_congr_ok (h.rule _ _ (hcalls _ _ (Nat.add_lt_add_left hoperand _) rfl)) ?_
  rintro ⟨lhs, c₁⟩ h₁
  obtain ⟨hdepth₁, hrest₁⟩ := hq _ h₁
  have htail : calls 0 c₁ := hcalls _ _ (weight_lt (by omega) hrest₁) hdepth₁
  exact bind_congr_ok (h.tail _ _ _ htail) fun _ _ => rfl

theorem furtherOperands_congr (hq : ∀ level, Steady (q.rule level)) (h : p.Agrees calls q)
    (level : Level) (lhs : Expr)
    (hcalls : ∀ rank c', weight rank c' < weight 0 c → c'.depth = c.depth + 1 → calls rank c') :
    p.furtherOperands level lhs c = q.furtherOperands level lhs c := by
  unfold furtherOperands
  split
  · rfl
  rename_i join hjoin
  obtain ⟨t, hpeek, -⟩ := Option.bind_eq_some_iff.1 hjoin
  have htaken := Cursor.length_advance hpeek
  refine bind_congr_ok rfl fun c₁ hc₁ => ?_
  obtain rfl := Cursor.eq_of_descend hc₁
  have hrank := level.operand.rank_le
  refine bind_congr_ok (h.rule _ _ (hcalls _ _ (weight_lt (by omega) ?_) rfl)) ?_
  · dsimp only
    omega
  rintro ⟨rhs, c₂⟩ h₂
  obtain ⟨hdepth₂, hrest₂⟩ := hq _ h₂
  dsimp only at hdepth₂ hrest₂
  exact h.tail _ _ _ (hcalls _ _ (weight_lt (by omega) (by omega)) hdepth₂)

theorem negation_congr (h : p.Agrees calls q)
    (hcalls : ∀ rank c', weight rank c' < weight 6 c →
      c'.depth = c.depth ∨ c'.depth = c.depth + 1 → calls rank c') :
    p.negation c = q.negation c := by
  unfold negation
  split
  · rename_i hsign
    obtain ⟨t, hpeek, -⟩ := (Option.any_eq_true _ _).1 hsign
    have htaken := Cursor.length_advance hpeek
    refine descend_congr fun c' hdepth _ hrest => ?_
    have hshorter : c'.rest.length < c.rest.length := by
      rw [hrest]
      omega
    exact h.rule _ _ (hcalls _ _ (weight_lt (by decide) hshorter) (.inr hdepth))
  · exact h.rule _ _ (hcalls _ _ (Nat.lt_succ_self _) (.inl rfl))

theorem signed_congr (h : p.Agrees calls q)
    (hcalls : ∀ rank c', weight rank c' < weight 2 c →
      c'.depth = c.depth ∨ c'.depth = c.depth + 1 → calls rank c') :
    p.signed c = q.signed c := by
  unfold signed
  split
  · rename_i op hop
    obtain ⟨t, hpeek, -⟩ := Option.bind_eq_some_iff.1 hop
    have htaken := Cursor.length_advance hpeek
    refine descend_congr fun c' hdepth _ hrest => ?_
    have hshorter : c'.rest.length < c.rest.length := by
      rw [hrest]
      omega
    exact h.rule _ _ (hcalls _ _ (weight_lt (by decide) hshorter) (.inr hdepth))
  · exact h.rule _ _ (hcalls _ _ (Nat.lt_succ_self _) (.inl rfl))

theorem power_congr (hq : ∀ level, Steady (q.rule level)) (h : p.Agrees calls q)
    (hcalls : ∀ rank c', weight rank c' < weight 1 c →
      c'.depth = c.depth ∨ c'.depth = c.depth + 1 → calls rank c') :
    p.power c = q.power c := by
  refine bind_congr_ok (h.rule _ _ (hcalls _ _ (Nat.lt_succ_self _) (.inl rfl))) ?_
  rintro ⟨base, c₁⟩ h₁
  obtain ⟨hdepth₁, hrest₁⟩ := hq _ h₁
  dsimp only
  split
  · have hadvance := c₁.length_advance_le
    refine descend_congr fun c' hdepth _ hrest => ?_
    have hshorter : c'.rest.length < c.rest.length := by
      rw [hrest]
      omega
    refine h.rule _ _ (hcalls _ _ (weight_lt (by decide) hshorter) (.inr ?_))
    rw [hdepth, Cursor.depth_advance, hdepth₁]
  · rfl

theorem furtherArguments_congr (hq : ∀ level, Steady (q.rule level)) (h : p.Agrees calls q)
    (done : List Expr)
    (hcalls : ∀ rank c', weight rank c' < weight 10 c → c'.depth = c.depth → calls rank c') :
    p.furtherArguments done c = q.furtherArguments done c := by
  refine bind_congr_ok (h.rule _ _ (hcalls _ _ (Nat.lt_succ_self _) rfl)) ?_
  rintro ⟨arg, c₁⟩ h₁
  obtain ⟨hdepth₁, hrest₁⟩ := hq _ h₁
  dsimp only
  split
  · have hadvance := c₁.length_advance_le
    exact h.arguments _ _ (hcalls _ _ (weight_lt le_rfl (by omega)) hdepth₁)
  · rfl

theorem named_congr (h : p.Agrees calls q) (name : String)
    (hcalls : ∀ c', c'.rest.length < c.rest.length → c'.depth = c.depth → calls 10 c') :
    p.named name c = q.named name c := by
  unfold named
  split
  · rfl
  split
  · rfl
  rename_i hopen
  have htaken := Cursor.length_advance (not_not.1 hopen)
  split
  · rfl
  refine bind_congr_ok ?_ fun _ _ => rfl
  unfold callArguments
  split
  · rfl
  · exact h.arguments _ _ (hcalls _ (by omega) rfl)

theorem primary_congr (h : p.Agrees calls q)
    (hcalls : ∀ rank c', weight rank c' < weight 0 c → c'.depth = c.depth → calls rank c') :
    p.primary c = q.primary c := by
  unfold primary
  split
  · rfl
  rename_i t rest hrest
  have hshorter : c.advance.rest.length < c.rest.length := by
    simp [Cursor.advance, hrest]
  split
  · rfl
  · rfl
  · rfl
  · have hinside : calls 9 c.advance := hcalls _ _ (weight_lt (by decide) hshorter) rfl
    exact bind_congr_ok (h.rule _ _ hinside) fun _ _ => rfl
  · refine named_congr h _ fun c' hc' hdepth => ?_
    exact hcalls _ _ (weight_lt le_rfl (hc'.trans hshorter)) hdepth
  · rfl

/-- A rule does the same with calls from both descents, if they agree on those that it makes: they
weigh less than the rule itself and are at its depth or one level deeper. -/
theorem rule_congr (hq : ∀ level, Steady (q.rule level)) (h : p.Agrees calls q) (level : Level)
    (hcalls : ∀ rank c', weight rank c' < weight level.rank c →
      callDepth level c.depth c'.depth → calls rank c') :
    p.body.rule level c = q.body.rule level c := by
  cases level with
  | conditional => exact conditional_congr hq h hcalls
  | disjunction | conjunction | comparison | additive | multiplicative =>
    exact chain_congr hq h (by decide) hcalls
  | negation => exact negation_congr h hcalls
  | signed => exact signed_congr h hcalls
  | power => exact power_congr hq h hcalls
  | primary => exact primary_congr h hcalls

end

/-! ## Levels that are left -/

section

variable {c : Cursor} {n m : Nat} {inner operand : Rule}
variable {join? : Token → Option (Expr → Expr → Expr)}

/-- The loop over arguments ends before it has made as many rounds as tokens are left. -/
theorem argumentsTail_eq (hi : Steady inner) (done : List Expr) (hn : c.rest.length < n)
    (hm : c.rest.length < m) : argumentsTail inner n done c = argumentsTail inner m done c := by
  induction n generalizing m done c with
  | zero => omega
  | succ n ih =>
    obtain ⟨m, rfl⟩ := Nat.exists_eq_add_one_of_ne_zero (by omega : m ≠ 0)
    refine bind_congr_ok rfl ?_
    rintro ⟨arg, c₁⟩ h₁
    obtain ⟨-, hrest₁⟩ := hi h₁
    dsimp only
    split
    · have hadvance := c₁.length_advance_le
      exact ih _ (by omega) (by omega)
    · rfl

/-- All arguments are read at one depth. -/
theorem argumentsTail_congr {inner' : Rule} (hi : Steady inner)
    (hinner : ∀ c', c'.depth = c.depth → inner' c' = inner c') (n : Nat) (done : List Expr) :
    argumentsTail inner' n done c = argumentsTail inner n done c := by
  induction n generalizing done c with
  | zero => rfl
  | succ n ih =>
    refine bind_congr_ok (hinner c rfl) ?_
    rintro ⟨arg, c₁⟩ h₁
    obtain ⟨hdepth₁, -⟩ := hi h₁
    dsimp only at hdepth₁ ⊢
    split
    · refine ih (fun c' hc' => hinner c' (hc'.trans ?_)) _
      rw [Cursor.depth_advance, hdepth₁]
    · rfl

/-- The loop of a chain ends before it has made as many rounds as levels are left. -/
theorem chainTail_eq (ho : Steady operand) (lhs : Expr) (hn : maxDepth < c.depth + n)
    (hm : maxDepth < c.depth + m) (hn' : n ≠ 0) (hm' : m ≠ 0) :
    chainTail operand join? n lhs c = chainTail operand join? m lhs c := by
  induction n generalizing m lhs c with
  | zero => contradiction
  | succ n ih =>
    obtain ⟨m, rfl⟩ := Nat.exists_eq_add_one_of_ne_zero hm'
    unfold chainTail
    split
    · rfl
    refine bind_congr_ok rfl fun c₁ h₁ => ?_
    obtain ⟨hdepth₁, hle, -⟩ := Cursor.descend_eq_ok h₁
    rw [Cursor.depth_advance] at hdepth₁
    refine bind_congr_ok rfl ?_
    rintro ⟨rhs, c₂⟩ h₂
    obtain ⟨hdepth₂, -⟩ := ho h₂
    dsimp only at hdepth₂ ⊢
    exact ih _ (by omega) (by omega) (by omega) (by omega)

theorem signed_eq (hi : Balanced inner) (hn : maxDepth < c.depth + n) (hm : maxDepth < c.depth + m)
    (hn' : n ≠ 0) (hm' : m ≠ 0) : Formula.signed inner n c = Formula.signed inner m c := by
  induction n generalizing m c with
  | zero => contradiction
  | succ n ih =>
    obtain ⟨m, rfl⟩ := Nat.exists_eq_add_one_of_ne_zero hm'
    unfold Formula.signed
    split
    · refine descend_congr fun c' hdepth hle _ => ?_
      rw [Cursor.depth_advance] at hdepth
      exact ih (by omega) (by omega) (by omega) (by omega)
    · refine bind_congr_ok rfl ?_
      rintro ⟨base, c₁⟩ h₁
      have hdepth := (hi.primary h₁).depth
      dsimp only
      split
      · refine descend_congr fun c' hdepth hle _ => ?_
        rw [Cursor.depth_advance] at hdepth
        exact ih (by omega) (by omega) (by omega) (by omega)
      · rfl

theorem negation_eq (hn : maxDepth < c.depth + n) (hm : maxDepth < c.depth + m) (hn' : n ≠ 0)
    (hm' : m ≠ 0) : Formula.negation inner n c = Formula.negation inner m c := by
  induction n generalizing m c with
  | zero => contradiction
  | succ n ih =>
    obtain ⟨m, rfl⟩ := Nat.exists_eq_add_one_of_ne_zero hm'
    unfold Formula.negation
    split
    · refine descend_congr fun c' hdepth hle _ => ?_
      rw [Cursor.depth_advance] at hdepth
      exact ih (by omega) (by omega) (by omega) (by omega)
    · rfl

end

section

variable (n : Nat)

/-- One level below any depth, a level less than all of them is enough. -/
theorem enough_below {depth depth' : Nat} (h : depth' = depth + 1) :
    maxDepth < depth' + levels ∧ maxDepth < depth' + maxDepth := by
  unfold levels
  omega

theorem body_negation (c : Cursor) :
    (bounded n).negation c = Formula.negation (Formula.conditional n) levels c := by
  unfold negation levels Formula.negation
  split
  · refine descend_congr fun c' hdepth _ _ => ?_
    obtain ⟨hlevels, hless⟩ := enough_below hdepth
    exact negation_eq hlevels hless (by decide) (by decide)
  · rfl

theorem body_signed (c : Cursor) :
    (bounded n).signed c = Formula.signed (Formula.conditional n) levels c := by
  have hi := conditional_balanced n
  show (bounded n).signed c = Formula.signed (Formula.conditional n) (maxDepth + 1) c
  cases hsign : c.peek?.bind sign? with
  | some op =>
    simp only [signed, Formula.signed, hsign]
    refine descend_congr fun c' hdepth _ _ => ?_
    obtain ⟨hlevels, hless⟩ := enough_below hdepth
    exact signed_eq hi hlevels hless (by decide) (by decide)
  | none =>
    simp only [signed, Formula.signed, hsign]
    refine bind_congr_ok rfl ?_
    rintro ⟨base, c₁⟩ -
    dsimp only
    split
    · refine descend_congr fun c' hdepth _ _ => ?_
      obtain ⟨hlevels, hless⟩ := enough_below hdepth
      exact signed_eq hi hlevels hless (by decide) (by decide)
    · rfl

theorem body_rule_bounded {level : Level} (hlevel : level ≠ .conditional) (c : Cursor) :
    (bounded n).body.rule level c = (bounded n).rule level c := by
  cases level with
  | conditional => contradiction
  | disjunction | conjunction | comparison | additive | multiplicative | power | primary => rfl
  | negation => exact body_negation n c
  | signed => exact body_signed n c

theorem body_tail_bounded (level : Level) (lhs : Expr) (c : Cursor) :
    (bounded n).body.tail level lhs c = (bounded n).tail level lhs c := by
  show (bounded n).furtherOperands level lhs c =
    chainTail (ruleAt level.operand n levels) level.join? (maxDepth + 1) lhs c
  cases hjoin : c.peek?.bind level.join? with
  | none => simp only [furtherOperands, chainTail, hjoin]
  | some join =>
    simp only [furtherOperands, chainTail, hjoin]
    refine bind_congr_ok rfl fun c₁ h₁ => bind_congr_ok rfl ?_
    rintro ⟨rhs, c₂⟩ h₂
    have hsteady := ruleAt_steady level.operand n levels
    obtain ⟨hdepth₁, -⟩ := Cursor.descend_eq_ok h₁
    obtain ⟨hlevels, hless⟩ := enough_below hdepth₁
    rw [← (hsteady h₂).1] at hlevels hless
    exact chainTail_eq hsteady _ hlevels hless (by decide) (by decide)

theorem body_arguments_bounded (done : List Expr) (c : Cursor) :
    (bounded n).body.arguments done c = (bounded n).arguments done c := by
  refine bind_congr_ok rfl ?_
  rintro ⟨arg, c₁⟩ h₁
  have hsteady := ruleAt_steady .conditional n levels
  obtain ⟨-, hrest₁⟩ := hsteady h₁
  dsimp only
  split
  · have hadvance := c₁.length_advance_le
    exact argumentsTail_eq hsteady _ (by omega) (by omega)
  · rfl

theorem conditional_of_deep {c : Cursor} (h : maxDepth ≤ c.depth) :
    Formula.conditional n c = .error c.tooDeep := by
  cases n with
  | zero => rfl
  | succ n =>
    have hdescend : c.descend = .error c.tooDeep := by
      rw [Cursor.descend, if_neg (Nat.not_lt.2 h)]
    rw [Formula.conditional, hdescend]
    rfl

end

/-- It does not matter how many levels are left for formulas inside, as long as there are as many as
the depth allows. -/
theorem bounded_agrees (w n m : Nat) :
    (bounded n).Agrees (fun rank c => weight rank c < w ∧ maxDepth ≤ c.depth + n ∧
      maxDepth ≤ c.depth + m) (bounded m) := by
  induction w generalizing n m with
  | zero => exact ⟨nofun, nofun, nofun⟩
  | succ w ih =>
    have hsteady (level : Level) : Steady ((bounded m).rule level) := ruleAt_steady level m levels
    refine ⟨?_, ?_, ?_⟩
    · rintro level c ⟨hw, hn, hm⟩
      by_cases hlevel : level = .conditional
      · subst hlevel
        have hw : weight 9 c < w + 1 := hw
        by_cases hdeep : maxDepth ≤ c.depth
        · exact (conditional_of_deep n hdeep).trans (conditional_of_deep m hdeep).symm
        · obtain ⟨n, rfl⟩ := Nat.exists_eq_add_one_of_ne_zero (by omega : n ≠ 0)
          obtain ⟨m, rfl⟩ := Nat.exists_eq_add_one_of_ne_zero (by omega : m ≠ 0)
          -- what stands inside is read with one level less, and one level deeper
          refine conditional_congr (fun level => ruleAt_steady level m levels) (ih n m) ?_
          intro rank c' hless hdepth
          exact ⟨by omega, by omega, by omega⟩
      · rw [← body_rule_bounded n hlevel, ← body_rule_bounded m hlevel]
        refine rule_congr hsteady (ih n m) level fun rank c' hless hdepth => ?_
        have hle := le_of_callDepth hdepth
        exact ⟨by omega, by omega, by omega⟩
    · rintro level lhs c ⟨hw, hn, hm⟩
      rw [← body_tail_bounded n, ← body_tail_bounded m]
      refine furtherOperands_congr hsteady (ih n m) level lhs fun rank c' hless hdepth => ?_
      exact ⟨by omega, by omega, by omega⟩
    · rintro done c ⟨hw, hn, hm⟩
      rw [← body_arguments_bounded n, ← body_arguments_bounded m]
      refine furtherArguments_congr hsteady (ih n m) done fun rank c' hless hdepth => ?_
      exact ⟨by omega, by omega, by omega⟩

/-! ## The rules are a recursion that ends -/

theorem body_bounded : (bounded levels).body = bounded levels := by
  have hrule : (bounded levels).body.rule = (bounded levels).rule := by
    funext level c
    by_cases hlevel : level = .conditional
    · subst hlevel
      refine (conditional_congr (fun level => ruleAt_steady level levels levels)
        (bounded_agrees (weight 9 c) maxDepth levels) ?_).symm
      intro rank c' hless hdepth
      unfold levels
      exact ⟨hless, by omega, by omega⟩
    · exact body_rule_bounded levels hlevel c
  have htail : (bounded levels).body.tail = (bounded levels).tail := by
    funext level lhs c
    exact body_tail_bounded levels level lhs c
  have harguments : (bounded levels).body.arguments = (bounded levels).arguments := by
    funext done c
    exact body_arguments_bounded levels done c
  calc (bounded levels).body
      = ⟨(bounded levels).body.rule, (bounded levels).body.tail,
          (bounded levels).body.arguments⟩ := rfl
    _ = bounded levels := by rw [hrule, htail, harguments]

/-- As many calls inside one another as its weight says settle a call. -/
theorem within_agrees (p : Descent) (n : Nat) :
    (p.within n).Agrees (fun rank c => weight rank c < n) (bounded levels) := by
  have hsteady (level : Level) : Steady ((bounded levels).rule level) :=
    ruleAt_steady level levels levels
  induction n with
  | zero => exact ⟨nofun, nofun, nofun⟩
  | succ n ih =>
    rw [← body_bounded]
    refine ⟨?_, ?_, ?_⟩
    · intro level c hw
      exact rule_congr hsteady ih level fun rank c' hless _ => by omega
    · intro level lhs c hw
      exact furtherOperands_congr hsteady ih level lhs fun rank c' hless _ => by omega
    · intro done c hw
      exact furtherArguments_congr hsteady ih done fun rank c' hless _ => by omega

/-- What stands in parentheses, arguments included, is read at the depth of the parenthesis. -/
theorem primary_inside {inner : Rule} {c : Cursor} (n : Nat)
    (hinner : ∀ c', c'.depth = c.depth → inner c' = Formula.conditional n c') :
    Formula.primary inner c = Formula.primary (Formula.conditional n) c := by
  -- the rule has its calls inside from this descent
  let p : Descent := {
    bounded n with
    rule := fun
      | .conditional => inner
      | level => (bounded n).rule level
    arguments := fun done c => argumentsTail inner (c.rest.length + 1) done c }
  have hsteady := ruleAt_steady .conditional n levels
  have hp : p.Agrees (fun _ c' => c'.depth = c.depth) (bounded n) := by
    refine ⟨?_, fun _ _ _ _ => rfl, ?_⟩
    · intro level c' hdepth
      cases level with
      | conditional => exact hinner c' hdepth
      | _ => rfl
    · intro done c' hdepth
      exact argumentsTail_congr hsteady (fun c'' hc'' => hinner c'' (hc''.trans hdepth)) _ done
  exact primary_congr hp fun _ _ _ hdepth => hdepth

end Descent

/-- The rules with their bounds are the recursion without them.  From any position and depth they
come to a later position or the end, at the same depth.

What stands in parentheses is read at the depth of the parenthesis, all arguments of a call at one
depth, and all parts of a conditional at one depth.  The next operand of a chain is read one level
deeper than the one before it, whatever that one is.

The recursion ends on all tokens: so many calls inside one another are enough that it does not
matter what further calls inside of these would do. -/
theorem descent_balanced (tokens : List Lexeme) (position depth : Nat) :
    let d := Descent.bounded levels
    let c := Cursor.ofPosition tokens position depth
    d.body = d ∧
      (∀ level e c', d.rule level c = .ok (e, c') → ∃ position',
        position < position' ∧ position' ≤ tokens.length ∧
          c' = .ofPosition tokens position' depth) ∧
      (∀ inner : Rule, (∀ c', c'.depth = depth → inner c' = d.rule .conditional c') →
        primary inner c = d.rule .primary c) ∧
      (∀ p : Descent, p.Agrees (fun _ c' => c'.depth = depth + 1) d →
        p.body.rule .conditional c = d.rule .conditional c ∧
          ∀ level lhs, p.body.tail level lhs c = d.tail level lhs c) ∧
      ∀ (p : Descent) level n, 11 * (tokens.length + 1) ≤ n →
        (p.within n).rule level c = d.rule level c := by
  intro d c
  have hd : d.body = d := Descent.body_bounded
  have hsteady (level : Level) : Steady (d.rule level) := ruleAt_steady level levels levels
  refine ⟨hd, ?_, ?_, ?_, ?_⟩
  · intro level e c' h
    exact position_of_ruleAt h
  · intro inner hinner
    exact Descent.primary_inside levels hinner
  · intro p hp
    constructor
    · have hconditional : p.body.rule .conditional c = d.body.rule .conditional c :=
        Descent.conditional_congr hsteady hp fun _ _ _ hdepth => hdepth
      rwa [hd] at hconditional
    · intro level lhs
      have htail : p.body.tail level lhs c = d.body.tail level lhs c :=
        Descent.furtherOperands_congr hsteady hp level lhs fun _ _ _ hdepth => hdepth
      rwa [hd] at htail
  · intro p level n hn
    refine (p.within_agrees n).rule level c ?_
    have hrank := level.rank_le
    have hlength : c.rest.length ≤ tokens.length := by
      simp [c, Cursor.ofPosition]
    unfold Descent.weight
    omega

/-- The parentheses take the last level there is, and the arguments behind them have it again. -/
theorem descent_balanced_arguments :
    let tokens : List Lexeme := List.zipIdx [.word "max", .open, .open, .field "A", .close, .comma,
      .minus, .field "B", .comma, .field "C", .question, .number 1, .colon, .number 2, .close] |>.map
        fun (token, position) => ⟨position, token⟩
    let tree : Expr := .call .max [.field "A", .unary .neg (.field "B"),
      .conditional (.field "C") (.literal (.number 1)) (.literal (.number 2))]
    let c := Cursor.ofPosition tokens 0 253
    (Descent.bounded levels).rule .conditional c = .ok (tree, .ofPosition tokens 15 253) ∧
      ∀ p : Descent, (p.within 176).rule .conditional c =
        .ok (tree, .ofPosition tokens 15 253) := by
  intro tokens tree c
  have hread : (Descent.bounded levels).rule .conditional c =
      .ok (tree, .ofPosition tokens 15 253) := by rfl
  refine ⟨hread, fun p => ?_⟩
  have hends := (descent_balanced tokens 0 253).2.2.2.2 p .conditional 176 (by decide)
  rw [hends, hread]

end Formula
end FormLogic
