import FormLogic.Proofs.Formula.Reading

/-!
# FormLogic.Proofs.Formula.Acceptance

Formulas are read, and reading agrees with the grammar.

* `Stops level rest`: what is left does not continue a formula of the level;
* `Yields a rest x`: the reading `x` gives `a` and leaves `rest`, unless it is too deep;
* `Accepts level rule ts e`: the rule reads the tokens as the tree `e`;
* `Runs next operand join? ts e`: a chain reads the tokens as the tree of its operands so far;
* `ReadAt level ts e`: both, for the rule of the level;
* `parseTokens_grammar`: what is read is what the grammar derives.

A chain reads its left operand first and meets the operator when that operand has been joined
already, so a derivation of `l op r` says how the loop goes on behind `l`, not how the chain ends.
`Runs` is about that: whatever the loop does behind the tokens is what the chain does.
-/

namespace FormLogic
namespace Formula

/-! ## What stands behind a formula -/

/-- What is left does not continue a formula of the level. -/
def Stops (level : Level) (rest : List Lexeme) : Prop :=
  ∀ x ∈ rest.head?, level.rank < x.token.rank

section

variable {c : Cursor} {level next : Level} {t : Token} {ts : List Token} {rest : List Lexeme}

theorem Stops.mono (hnext : level.next? = some next) (h : Stops level rest) : Stops next rest := by
  intro x hx
  have hlevel := h x hx
  have hrank := Level.rank_next hnext
  omega

theorem Stops.of_spells {ls : List Lexeme} (ht : level.rank < t.rank)
    (h : Spells ls (t :: ts) rest) : Stops level ls := by
  obtain ⟨x, mid, rfl, rfl, -⟩ := h.uncons
  intro y hy
  cases hy
  exact ht

theorem Stops.of_peek (h : Stops level c.rest) (ht : c.peek? = some t) : level.rank < t.rank := by
  obtain ⟨x, hx, rfl⟩ := Option.map_eq_some_iff.1 ht
  exact h x hx

theorem Stops.join_eq_none {join? : Token → Option (Expr → Expr → Expr)}
    (h : Stops level c.rest) (hj : JoinsAt level join?) : c.peek?.bind join? = none := by
  refine Option.eq_none_iff_forall_ne_some.2 fun join hjoin => ?_
  obtain ⟨t, ht, hjoin⟩ := Option.bind_eq_some_iff.1 hjoin
  have hrank := ((hj t join).1 hjoin).rank
  have hlevel := h.of_peek ht
  omega

/-- No token continues signed operands alone. -/
theorem Stops.signed (h : Stops .power rest) : Stops .signed rest := by
  intro x hx
  have hpower := h x hx
  have hsigned : x.token.rank ≠ Level.signed.rank := by
    unfold Token.rank
    split
    all_goals try split
    all_goals try split
    all_goals decide
  simp only [Level.rank] at hpower hsigned ⊢
  omega

/-- The next token is the first one that is spelled. -/
theorem Cursor.next_token (h : Spells c.rest (t :: ts) rest) :
    c.peek? = some t ∧ Spells c.advance.rest ts rest := by
  obtain ⟨x, mid, hrest, rfl, hmid⟩ := h.uncons
  simp only [peek?, advance, hrest]
  exact ⟨rfl, hmid⟩

end

/-! ## What a reading gives -/

/-- The reading gives `a` and leaves `rest`, unless it is too deep. -/
inductive Yields {α : Type} (a : α) (rest : List Lexeme) : Except Fault (α × Cursor) → Prop
  | tooDeep (position : Nat) : Yields a rest (.error (.misplaced position .tooDeep))
  | read {c : Cursor} (h : c.rest = rest) : Yields a rest (.ok (a, c))

section

variable {α β : Type} {a : α} {b : β} {c : Cursor} {mid rest : List Lexeme}

theorem Yields.bind {x : Except Fault (α × Cursor)} {f : α × Cursor → Except Fault (β × Cursor)}
    (h : Yields a mid x) (hf : ∀ c, c.rest = mid → Yields b rest (f (a, c))) :
    Yields b rest (x >>= f) := by
  cases h with
  | tooDeep position => exact .tooDeep position
  | read hc => exact hf _ hc

/-- A reading that leaves nothing, and what is made of it. -/
theorem Yields.whole {x : Except Fault (α × Cursor)} {f : α × Cursor → Except Fault β}
    (h : Yields a [] x) (hf : ∀ c, c.rest = [] → f (a, c) = .ok b) :
    (x >>= f) = .ok b ∨ ∃ position, (x >>= f) = .error (.misplaced position .tooDeep) := by
  cases h with
  | tooDeep position => exact .inr ⟨position, rfl⟩
  | read hc => exact .inl (hf _ hc)

theorem yields_descend {f : Cursor → Except Fault (β × Cursor)}
    (hf : ∀ c', c'.rest = c.rest → Yields b rest (f c')) : Yields b rest (c.descend >>= f) := by
  unfold Cursor.descend
  split
  · exact hf _ rfl
  · exact .tooDeep _

theorem yields_expect {t : Token} {ts : List Token} {what : Expected}
    {f : Cursor → Except Fault (β × Cursor)} (hs : Spells c.rest (t :: ts) mid)
    (hf : ∀ c', Spells c'.rest ts mid → Yields b rest (f c')) :
    Yields b rest (c.expect t what >>= f) := by
  obtain ⟨-, hts⟩ := Cursor.next_token hs
  obtain ⟨x, _, hrest, htoken, -⟩ := hs.uncons
  have hexpect : c.expect t what = .ok c.advance := by simp [Cursor.expect, hrest, htoken]
  rw [hexpect]
  exact hf _ hts

end

/-! ## Rules -/

/-- The rule reads the tokens as the tree `e`, if nothing behind them continues the formula. -/
def Accepts (level : Level) (rule : Rule) (ts : List Token) (e : Expr) : Prop :=
  ∀ ⦃c rest⦄, Spells c.rest ts rest → Stops level rest → Yields e rest (rule c)

/-- With operands of level `next`, a chain comes from the start of the tokens to their end with the
tree `e`, and what its loop yields from there is what the chain yields. -/
def Runs (next : Level) (operand : Rule) (join? : Token → Option (Expr → Expr → Expr))
    (ts : List Token) (e : Expr) : Prop :=
  ∀ ⦃c mid rest⦄ {n : Nat} {b : Expr}, Spells c.rest ts mid → Stops next mid →
    (∀ m c', c'.rest = mid → Yields b rest (chainTail operand join? m e c')) →
    Yields b rest (operand c >>= fun first => chainTail operand join? n first.1 first.2)

section

variable {level next : Level} {ts us vs : List Token} {e l r t y no : Expr} {op : Token}
variable {inner operand rule : Rule} {join? : Token → Option (Expr → Expr → Expr)}

/-- A formula is read up to a token that does not continue it. -/
theorem Accepts.upTo {α : Type} {a : α} {c : Cursor} {rest last : List Lexeme}
    {f : Expr × Cursor → Except Fault (α × Cursor)} (h : Accepts level rule ts e)
    (hs : Spells c.rest (ts ++ op :: us) rest) (hop : level.rank < op.rank)
    (hf : ∀ c', Spells c'.rest (op :: us) rest → Yields a last (f (e, c'))) :
    Yields a last (rule c >>= f) := by
  obtain ⟨mid, hts, hus⟩ := hs.split
  exact (h hts (.of_spells hop hus)).bind fun c' hc' => hf c' (hc' ▸ hus)

/-! ### Chains -/

theorem Accepts.runs (h : Accepts next operand ts e) : Runs next operand join? ts e := by
  intro c mid rest n b hs hstops hloop
  exact (h hs hstops).bind fun c' hc' => hloop n c' hc'

theorem Runs.join {join : Expr → Expr → Expr} (hl : Runs next operand join? ts l)
    (hr : Accepts next operand us r) (hjoin : join? op = some join) (hop : next.rank < op.rank) :
    Runs next operand join? (ts ++ op :: us) (join l r) := by
  intro c mid rest n b hs hstops hloop
  obtain ⟨behind, hts, hus⟩ := hs.split
  -- the loop stands before the operator, with the left operand read and `m` rounds left
  refine hl hts (.of_spells hop hus) fun m c₁ hc₁ => ?_
  rw [← hc₁] at hus
  obtain ⟨hpeek, hus⟩ := Cursor.next_token hus
  cases m with
  | zero => exact .tooDeep _
  | succ m =>
    simp only [chainTail, hpeek, Option.bind_some, hjoin]
    refine yields_descend fun c₂ hc₂ => ?_
    rw [← hc₂] at hus
    exact (hr hus hstops).bind fun c₃ hc₃ => hloop m c₃ hc₃

theorem chain_eq (operand : Rule) (join? : Token → Option (Expr → Expr → Expr)) (c : Cursor) :
    chain operand join? c =
      (operand c >>= fun first => chainTail operand join? levels first.1 first.2) >>=
        fun last => .ok (last.1, { last.2 with depth := c.depth }) := by
  unfold chain
  cases operand c with
  | error => rfl
  | ok first => rfl

theorem Runs.accepts (h : Runs next operand join? ts e) (hnext : level.next? = some next)
    (hj : JoinsAt level join?) : Accepts level (chain operand join?) ts e := by
  intro c rest hs hstops
  rw [chain_eq]
  refine Yields.bind (h hs (hstops.mono hnext) fun m c' hc' => ?_) fun c' hc' => .read hc'
  cases m with
  | zero => exact .tooDeep _
  | succ m =>
    rw [← hc'] at hstops
    simp only [chainTail, hstops.join_eq_none hj]
    exact .read hc'

/-! ### Primaries -/

theorem Accepts.leaf
    (h : ∀ ⦃c x rest⦄, c.rest = x :: rest → x.token = op → primary inner c = .ok (e, c.advance)) :
    Accepts .primary (primary inner) [op] e := by
  intro c rest hs _
  obtain ⟨x, mid, hrest, htoken, -⟩ := hs.uncons
  obtain ⟨-, hadvance⟩ := Cursor.next_token hs
  rw [h hrest htoken]
  exact .read hadvance.nil_eq

theorem Accepts.enclosed (h : Accepts .conditional inner ts e) :
    Accepts .primary (primary inner) (.open :: (ts ++ [.close])) e := by
  intro c rest hs _
  obtain ⟨x, mid, hrest, htoken, -⟩ := hs.uncons
  obtain ⟨-, hinside⟩ := Cursor.next_token hs
  simp only [primary, hrest, htoken]
  refine h.upTo hinside (by decide) fun c' hc' => ?_
  exact yields_expect hc' fun c'' hc'' => .read hc''.nil_eq

theorem Accepts.named {w : String}
    (h : ∀ ⦃c rest⦄, Spells c.rest ts rest → Yields e rest (named inner w c)) :
    Accepts .primary (primary inner) (.word w :: ts) e := by
  intro c rest hs _
  obtain ⟨x, mid, hrest, htoken, -⟩ := hs.uncons
  obtain ⟨-, hadvance⟩ := Cursor.next_token hs
  simp only [primary, hrest, htoken]
  exact h hadvance

/-- The loop over arguments reads these formulas up to the closing parenthesis. -/
def AcceptsAll (inner : Rule) (ts : List Token) (es : List Expr) : Prop :=
  ∀ ⦃c rest⦄ {n : Nat} (done : List Expr), Spells c.rest (ts ++ [.close]) rest → es.length ≤ n →
    Yields (done ++ es) rest (argumentsTail inner n done c)

theorem AcceptsAll.last (h : Accepts .conditional inner ts e) : AcceptsAll inner ts [e] := by
  intro c rest n done hs hn
  cases n with
  | zero => cases hn
  | succ n =>
    refine h.upTo hs (by decide) fun c' hc' => ?_
    obtain ⟨hpeek, -⟩ := Cursor.next_token hc'
    simp only [hpeek, reduceCtorEq, Option.some.injEq, if_false]
    exact yields_expect hc' fun c'' hc'' => .read hc''.nil_eq

theorem AcceptsAll.comma {es : List Expr} (h : Accepts .conditional inner ts e)
    (hes : AcceptsAll inner us es) : AcceptsAll inner (ts ++ .comma :: us) (e :: es) := by
  intro c rest n done hs hn
  rw [List.append_assoc, List.cons_append] at hs
  cases n with
  | zero => cases hn
  | succ n =>
    refine h.upTo hs (by decide) fun c' hc' => ?_
    obtain ⟨hpeek, hus⟩ := Cursor.next_token hc'
    simp only [hpeek, if_true]
    have hothers := hes (done ++ [e]) hus (Nat.le_of_succ_le_succ hn)
    simpa using hothers

theorem arguments_yields {es : List Expr} {c : Cursor} {rest : List Lexeme}
    (hes : AcceptsAll inner ts es) (hall : DerivesAll ts es)
    (hs : Spells c.rest (ts ++ [.close]) rest) : Yields es rest (arguments inner c) := by
  obtain ⟨t, us, rfl, hclose⟩ := hall.head
  obtain ⟨hpeek, -⟩ := Cursor.next_token (List.cons_append ▸ hs)
  -- each argument takes a token at least, so the loop has rounds enough
  have hfuel : es.length ≤ c.rest.length + 1 := by
    have hlength := hs.length_eq
    have hle := hall.length_le
    simp only [List.length_append] at hlength
    omega
  simpa [arguments, hpeek, hclose] using hes [] hs hfuel

theorem constant?_of_function {name : String} {f : Function}
    (h : Function.ofName? name = some f) : constant? name = none := by
  refine Option.eq_none_iff_forall_ne_some.2 fun v hv => ?_
  have hmem := constant?_eq_some.1 hv
  have hnone : Function.ofName? name = none := by
    refine ofName?_of_word ?_
    simp only [List.mem_cons, Prod.mk.injEq, List.not_mem_nil, or_false] at hmem
    rcases hmem with ⟨hname, -⟩ | ⟨hname, -⟩ | ⟨hname, -⟩ <;> simp [hname]
  rw [hnone] at h
  cases h

/-- A call is read behind its name if its arguments are. -/
theorem named_call {w : String} {f : Function} {args : List Expr} {c : Cursor} {rest : List Lexeme}
    (hw : Function.ofName? (lowerWord w) = some f) (hargs : f.admits args.length = true)
    (hs : Spells c.rest (.open :: ts) rest)
    (h : Yields args rest (arguments inner c.advance)) :
    Yields (.call f args) rest (Formula.named inner w c) := by
  obtain ⟨hpeek, -⟩ := Cursor.next_token hs
  simp only [Formula.named, constant?_of_function hw, hpeek, hw, ne_eq, not_true_eq_false, if_false]
  refine h.bind fun c' hc' => ?_
  simp only [hargs, if_true]
  exact .read hc'

/-! ### Operands -/

theorem Accepts.power_primary {exponent : Rule} (h : Accepts .primary (primary inner) ts e) :
    Accepts .power (power inner exponent) ts e := by
  intro c rest hs hstops
  refine (h hs (hstops.mono rfl)).bind fun c' hc' => ?_
  rw [← hc'] at hstops
  have hcaret : c'.peek? ≠ some .caret := fun ht => absurd (hstops.of_peek ht) (by decide)
  simp only [hcaret, if_false]
  exact .read hc'

theorem Accepts.raised {exponent : Rule} (hb : Accepts .primary (primary inner) ts l)
    (hx : Accepts .signed exponent us r) :
    Accepts .power (power inner exponent) (ts ++ .caret :: us) (.binary .pow l r) := by
  intro c rest hs hstops
  refine hb.upTo hs (by decide) fun c₁ hc₁ => ?_
  obtain ⟨hpeek, hus⟩ := Cursor.next_token hc₁
  simp only [hpeek, if_true]
  refine yields_descend fun c₂ hc₂ => ?_
  rw [← hc₂] at hus
  exact (hx hus hstops.signed).bind fun c₃ hc₃ => .read hc₃

theorem Accepts.signed_power {n : Nat} (hsign : sign? op = none)
    (h : ∀ n, Accepts .power (power inner (Formula.signed inner n)) (op :: ts) e) :
    Accepts .signed (Formula.signed inner n) (op :: ts) e := by
  intro c rest hs hstops
  cases n with
  | zero => exact .tooDeep _
  | succ n =>
    obtain ⟨hpeek, -⟩ := Cursor.next_token hs
    simp only [Formula.signed, hpeek, Option.bind_some, hsign]
    exact h n hs (hstops.mono rfl)

theorem Accepts.signed {n : Nat} {sign : UnaryOp} (hsign : sign? op = some sign)
    (h : ∀ n, Accepts .signed (Formula.signed inner n) ts e) :
    Accepts .signed (Formula.signed inner n) (op :: ts) (.unary sign e) := by
  intro c rest hs hstops
  cases n with
  | zero => exact .tooDeep _
  | succ n =>
    obtain ⟨hpeek, hts⟩ := Cursor.next_token hs
    simp only [Formula.signed, hpeek, Option.bind_some, hsign]
    refine yields_descend fun c' hc' => ?_
    rw [← hc'] at hts
    exact (h n hts hstops).bind fun c'' hc'' => .read hc''

theorem Accepts.negation_comparison {n : Nat} (hsign : isNegationSign op = false)
    (h : Accepts .comparison (comparison inner) (op :: ts) e) :
    Accepts .negation (negation inner n) (op :: ts) e := by
  intro c rest hs hstops
  cases n with
  | zero => exact .tooDeep _
  | succ n =>
    obtain ⟨hpeek, -⟩ := Cursor.next_token hs
    simp only [negation, hpeek, Option.any_some, hsign, Bool.false_eq_true, if_false]
    exact h hs (hstops.mono rfl)

theorem Accepts.negation {n : Nat} (hsign : isNegationSign op = true)
    (h : ∀ n, Accepts .negation (Formula.negation inner n) ts e) :
    Accepts .negation (Formula.negation inner n) (op :: ts) (.unary .not e) := by
  intro c rest hs hstops
  cases n with
  | zero => exact .tooDeep _
  | succ n =>
    obtain ⟨hpeek, hts⟩ := Cursor.next_token hs
    simp only [Formula.negation, hpeek, Option.any_some, hsign, if_true]
    refine yields_descend fun c' hc' => ?_
    rw [← hc'] at hts
    exact (h n hts hstops).bind fun c'' hc'' => .read hc''

/-! ### Whole formulas -/

theorem Accepts.branching_disjunction (h : Accepts .disjunction (disjunction inner) ts e) :
    Accepts .conditional (branching inner) ts e := by
  intro c rest hs hstops
  refine (h hs (hstops.mono rfl)).bind fun c' hc' => ?_
  rw [← hc'] at hstops
  have hquestion : c'.peek? ≠ some .question := fun ht => absurd (hstops.of_peek ht) (by decide)
  simp only [hquestion, if_false]
  exact .read hc'

theorem Accepts.branches (ht : Accepts .disjunction (disjunction inner) ts t)
    (hy : Accepts .conditional inner us y) (hn : Accepts .conditional inner vs no) :
    Accepts .conditional (branching inner) (ts ++ .question :: (us ++ .colon :: vs))
      (.conditional t y no) := by
  intro c rest hs hstops
  refine ht.upTo hs (by decide) fun c₁ hc₁ => ?_
  obtain ⟨hpeek, hbranches⟩ := Cursor.next_token hc₁
  simp only [hpeek, if_true]
  refine hy.upTo hbranches (by decide) fun c₂ hc₂ => ?_
  refine yields_expect hc₂ fun c₃ hc₃ => ?_
  exact (hn hc₃ hstops).bind fun c₄ hc₄ => .read hc₄

theorem Accepts.conditional (h : ∀ n, Accepts .conditional (branching (conditional n)) ts e)
    (n : Nat) : Accepts .conditional (Formula.conditional n) ts e := by
  intro c rest hs hstops
  cases n with
  | zero => exact .tooDeep _
  | succ n =>
    refine yields_descend fun c' hc' => ?_
    rw [← hc'] at hs
    exact (h n hs hstops).bind fun c'' hc'' => .read hc''

end

/-! ## Levels -/

/-- The rule of a level, with `n` levels left for formulas inside and `m` for signs. -/
def ruleAt : Level → Nat → Nat → Rule
  | .conditional, n, _ => conditional n
  | .disjunction, n, _ => disjunction (conditional n)
  | .conjunction, n, _ => conjunction (conditional n)
  | .negation, n, m => negation (conditional n) m
  | .comparison, n, _ => comparison (conditional n)
  | .additive, n, _ => additive (conditional n)
  | .multiplicative, n, _ => multiplicative (conditional n)
  | .signed, n, m => signed (conditional n) m
  | .power, n, m => power (conditional n) (signed (conditional n) m)
  | .primary, n, _ => primary (conditional n)

/-- The formulas of a level are chains of formulas of the next. -/
inductive Chains : Level → Level → (Token → Option (Expr → Expr → Expr)) → Prop
  | disjunction : Chains .disjunction .conjunction orJoin?
  | conjunction : Chains .conjunction .negation andJoin?
  | comparison : Chains .comparison .additive comparisonJoin?
  | additive : Chains .additive .multiplicative additiveJoin?
  | multiplicative : Chains .multiplicative .signed multiplicativeJoin?

section

variable {level next : Level} {join? : Token → Option (Expr → Expr → Expr)}

theorem Chains.next?_eq (h : Chains level next join?) : level.next? = some next := by
  cases h <;> rfl

theorem Chains.joinsAt (h : Chains level next join?) : JoinsAt level join? := by
  cases h with
  | disjunction => exact joinsAt_orJoin
  | conjunction => exact joinsAt_andJoin
  | comparison => exact joinsAt_comparisonJoin
  | additive => exact joinsAt_additiveJoin
  | multiplicative => exact joinsAt_multiplicativeJoin

theorem Chains.ruleAt_eq (h : Chains level next join?) (n m : Nat) :
    ruleAt level n m = chain (ruleAt next n levels) join? := by
  cases h <;> rfl

theorem Connects.chains {op : Token} {join : Expr → Expr → Expr} (h : Connects level op join) :
    ∃ next join?, Chains level next join? := by
  cases h
  case or | orWord => exact ⟨_, _, .disjunction⟩
  case and | andWord => exact ⟨_, _, .conjunction⟩
  case eq | ne | lt | le | gt | ge => exact ⟨_, _, .comparison⟩
  case add | sub => exact ⟨_, _, .additive⟩
  case mul | div | rem => exact ⟨_, _, .multiplicative⟩

end

/-- The rule of the level reads the tokens as the tree, and so does the chain of the level. -/
structure ReadAt (level : Level) (ts : List Token) (e : Expr) : Prop where
  accepts : ∀ n m, Accepts level (ruleAt level n m) ts e
  runs : ∀ ⦃next join?⦄, Chains level next join? → ∀ n, Runs next (ruleAt next n levels) join? ts e

section

variable {level next : Level} {ts us vs : List Token} {e l r t y no : Expr} {op : Token}
variable {join? : Token → Option (Expr → Expr → Expr)}

theorem ReadAt.chain (hc : Chains level next join?)
    (h : ∀ n, Runs next (ruleAt next n levels) join? ts e) : ReadAt level ts e where
  accepts n m := by
    rw [hc.ruleAt_eq]
    exact (h n).accepts hc.next?_eq hc.joinsAt
  runs next' join?' hc' n := by
    cases hc <;> cases hc' <;> exact h n

theorem ReadAt.tighter (hnext : level.next? = some next) (hd : Derives next ts e)
    (h : ReadAt next ts e) : ReadAt level ts e := by
  -- signs and negations are looked for first, so the head must not be one
  obtain ⟨u, us, rfl, hopens⟩ := hd.head
  have hchain : ∀ {join?}, Chains level next join? → ReadAt level (u :: us) e :=
    fun hc => .chain hc fun n => (h.accepts n levels).runs
  cases level <;> cases hnext
  case disjunction => exact hchain .disjunction
  case conjunction => exact hchain .conjunction
  case comparison => exact hchain .comparison
  case additive => exact hchain .additive
  case multiplicative => exact hchain .multiplicative
  case conditional =>
    refine ⟨fun n _ => Accepts.conditional (fun n => ?_) n, nofun⟩
    exact (h.accepts n levels).branching_disjunction
  case negation =>
    exact ⟨fun n m => .negation_comparison (hopens.notNegation (by decide)) (h.accepts n m), nofun⟩
  case signed =>
    exact ⟨fun n m => .signed_power (hopens.notSigned (by decide)) (h.accepts n), nofun⟩
  case power => exact ⟨fun n m => (h.accepts n m).power_primary, nofun⟩

theorem ReadAt.joined {join : Expr → Expr → Expr} (hnext : level.next? = some next)
    (hop : Connects level op join) (hl : ReadAt level ts l) (hr : ReadAt next us r) :
    ReadAt level (ts ++ op :: us) (join l r) := by
  obtain ⟨next', join?, hc⟩ := hop.chains
  cases hnext.symm.trans hc.next?_eq
  refine .chain hc fun n => (hl.runs hc n).join (hr.accepts n levels) ?_ ?_
  · exact (hc.joinsAt op join).2 hop
  · rw [hop.rank, Level.rank_next hnext]
    exact Nat.lt_succ_self _

/-- A formula is read at its level. -/
theorem Derives.readAt (h : Derives level ts e) : ReadAt level ts e := by
  induction h using @Derives.rec _ (fun ts es _ => ∀ n, AcceptsAll (conditional n) ts es) with
  | tighter hnext hd ih => exact ih.tighter hnext hd
  | joined hnext hop _ _ ihl ihr => exact .joined hnext hop ihl ihr
  | branches _ _ _ iht ihy ihn =>
    refine ⟨fun n _ => Accepts.conditional (fun n => ?_) n, nofun⟩
    exact (iht.accepts n levels).branches (ihy.accepts n levels) (ihn.accepts n levels)
  | bang _ ih => exact ⟨fun n m => Accepts.negation rfl fun m => ih.accepts n m, nofun⟩
  | notWord hw _ ih =>
    exact ⟨fun n m => Accepts.negation (decide_eq_true hw) fun m => ih.accepts n m, nofun⟩
  | minus _ ih => exact ⟨fun n m => Accepts.signed rfl fun m => ih.accepts n m, nofun⟩
  | plus _ ih => exact ⟨fun n m => Accepts.signed rfl fun m => ih.accepts n m, nofun⟩
  | raised _ _ ihb ihx => exact ⟨fun n m => (ihb.accepts n m).raised (ihx.accepts n m), nofun⟩
  | number | text | field =>
    refine ⟨fun n m => .leaf fun c x rest hrest htoken => ?_, nofun⟩
    simp only [primary, hrest, htoken]
  | enclosed _ ih => exact ⟨fun n m => (ih.accepts n m).enclosed, nofun⟩
  | constant hw =>
    refine ⟨fun n m => .named fun c rest hs => ?_, nofun⟩
    simp only [named, constant?_eq_some.2 hw]
    exact .read hs.nil_eq
  | called hw hargs hall ih =>
    refine ⟨fun n m => .named fun c rest hs => ?_, nofun⟩
    obtain ⟨-, hinside⟩ := Cursor.next_token hs
    exact named_call hw hargs hs (arguments_yields (ih n) hall hinside)
  | calledOnNothing hw hargs =>
    refine ⟨fun n m => .named fun c rest hs => named_call hw hargs hs ?_, nofun⟩
    obtain ⟨-, hinside⟩ := Cursor.next_token hs
    obtain ⟨hpeek, hclose⟩ := Cursor.next_token hinside
    simp only [arguments, hpeek, if_true]
    exact .read hclose.nil_eq
  | last _ ih n => exact AcceptsAll.last (ih.accepts n levels)
  | comma _ _ ihe ihes n => exact AcceptsAll.comma (ihe.accepts n levels) (ihes n)

end

/-! ## The parser -/

theorem derives_of_parseTokens {tokens : List Lexeme} {e : Expr} (h : parseTokens tokens = .ok e) :
    Derives .conditional (tokens.map (·.token)) e := by
  obtain ⟨⟨tree, c⟩, h₁, h⟩ := bind_eq_ok.1 h
  obtain ⟨ts, hts, hd⟩ := conditional_derived levels h₁
  simp only at h hts
  split at h
  · rename_i hrest
    cases h
    rw [hrest] at hts
    rwa [← hts.eq_map]
  · cases h

theorem parseTokens_of_derives {tokens : List Lexeme} {e : Expr}
    (h : Derives .conditional (tokens.map (·.token)) e) :
    parseTokens tokens = .ok e ∨
      ∃ position, parseTokens tokens = .error (.misplaced position .tooDeep) := by
  have hread (last : Nat) : Yields e [] (conditional levels ⟨0, tokens, last⟩) :=
    h.readAt.accepts levels levels (Spells.map_token tokens) nofun
  refine (hread _).whole fun c hc => ?_
  simp only [hc]
  rfl

/-- The tree that is read is one that the grammar derives from the tokens.  What the grammar derives
is read as that tree, unless it nests too deep; so the tree of tokens that are read is the only
one. -/
theorem parseTokens_grammar (tokens : List Lexeme) :
    (∀ e, parseTokens tokens = .ok e → Derives .conditional (tokens.map (·.token)) e) ∧
      (∀ e, Derives .conditional (tokens.map (·.token)) e → parseTokens tokens = .ok e ∨
        ∃ position, parseTokens tokens = .error (.misplaced position .tooDeep)) ∧
      ∀ e e', parseTokens tokens = .ok e → Derives .conditional (tokens.map (·.token)) e' →
        e' = e := by
  refine ⟨fun e => derives_of_parseTokens, fun e => parseTokens_of_derives, fun e e' he he' => ?_⟩
  rcases parseTokens_of_derives he' with h | ⟨position, h⟩
  · exact Except.ok.inj (h.symm.trans he)
  · cases h.symm.trans he

/-- Subtractions group to the left and powers to the right, and a negation takes the comparison
behind it. -/
theorem parseTokens_grammar_groups :
    let tokens : List Lexeme := List.zipIdx [.word "NOT", .field "A", .minus, .field "B", .minus,
      .field "C", .gt, .minus, .field "D", .caret, .field "E", .caret, .field "F"] |>.map
        fun (token, position) => ⟨position, token⟩
    let difference : Expr := .binary .sub (.binary .sub (.field "A") (.field "B")) (.field "C")
    let power : Expr := .binary .pow (.field "D") (.binary .pow (.field "E") (.field "F"))
    let tree : Expr := .unary .not (.binary .gt difference (.unary .neg power))
    parseTokens tokens = .ok tree ∧ Derives .conditional (tokens.map (·.token)) tree ∧
      ∀ e, Derives .conditional (tokens.map (·.token)) e → e = tree := by
  intro tokens difference power tree
  have hread : parseTokens tokens = .ok tree := by rfl
  obtain ⟨hsound, -, honly⟩ := parseTokens_grammar tokens
  exact ⟨hread, hsound tree hread, fun e => honly tree e hread⟩

end Formula
end FormLogic
