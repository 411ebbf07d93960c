import FormLogic.Formula.Reading

/-!
# FormLogic.Proofs.Formula.Grammar

The grammar of formulas.

* `Level`: the levels of the grammar, loosest first;
* `Connects level token join`: at this level the token stands between two operands and joins them;
* `Derives level tokens e`: the tokens are a formula of this level with the tree `e`;
* `DerivesAll tokens es`: the tokens are formulas with commas between them;
* `Token.rank`: the level at which a token continues what stands before it;
* `Derives.head`: how a formula starts.

A rule of a level has operands of the next level.  The left operand of a chain is of the level of
the chain itself, so chains group to the left; branches, and the exponent of a power, are of a level
that has the operator again, so they group to the right.
-/

namespace FormLogic
namespace Formula

inductive Level where
  | conditional
  | disjunction
  | conjunction
  | negation
  | comparison
  | additive
  | multiplicative
  | signed
  | power
  | primary
deriving DecidableEq, Repr

namespace Level

/-- The next tighter level. -/
def next? : Level → Option Level
  | .conditional => some .disjunction
  | .disjunction => some .conjunction
  | .conjunction => some .negation
  | .negation => some .comparison
  | .comparison => some .additive
  | .additive => some .multiplicative
  | .multiplicative => some .signed
  | .signed => some .power
  | .power => some .primary
  | .primary => none

/-- The number of tighter levels. -/
def rank : Level → Nat
  | .conditional => 9
  | .disjunction => 8
  | .conjunction => 7
  | .negation => 6
  | .comparison => 5
  | .additive => 4
  | .multiplicative => 3
  | .signed => 2
  | .power => 1
  | .primary => 0

theorem rank_next {level next : Level} (h : level.next? = some next) :
    level.rank = next.rank + 1 := by
  cases level <;> cases h <;> rfl

end Level

/-- At a level of chains, the token joins two operands into a tree. -/
inductive Connects : Level → Token → (Expr → Expr → Expr) → Prop
  | or : Connects .disjunction .or (.logical .or)
  | orWord {w : String} (hw : lowerWord w = "or") : Connects .disjunction (.word w) (.logical .or)
  | and : Connects .conjunction .and (.logical .and)
  | andWord {w : String} (hw : lowerWord w = "and") : Connects .conjunction (.word w) (.logical .and)
  | eq : Connects .comparison .eq (.binary .eq)
  | ne : Connects .comparison .ne (.binary .ne)
  | lt : Connects .comparison .lt (.binary .lt)
  | le : Connects .comparison .le (.binary .le)
  | gt : Connects .comparison .gt (.binary .gt)
  | ge : Connects .comparison .ge (.binary .ge)
  | add : Connects .additive .plus (.binary .add)
  | sub : Connects .additive .minus (.binary .sub)
  | mul : Connects .multiplicative .star (.binary .mul)
  | div : Connects .multiplicative .slash (.binary .div)
  | rem : Connects .multiplicative .percent (.binary .rem)

mutual

/-- The tokens are a formula of the level, and this is its tree. -/
inductive Derives : Level → List Token → Expr → Prop
  | tighter {level next : Level} {ts : List Token} {e : Expr} (hnext : level.next? = some next)
      (operand : Derives next ts e) : Derives level ts e
  | joined {level next : Level} {ts us : List Token} {op : Token} {join : Expr → Expr → Expr}
      {l r : Expr} (hnext : level.next? = some next) (hop : Connects level op join)
      (left : Derives level ts l) (right : Derives next us r) :
      Derives level (ts ++ op :: us) (join l r)
  | branches {ts us vs : List Token} {t y n : Expr} (test : Derives .disjunction ts t)
      (yes : Derives .conditional us y) (no : Derives .conditional vs n) :
      Derives .conditional (ts ++ .question :: (us ++ .colon :: vs)) (.conditional t y n)
  | bang {ts : List Token} {e : Expr} (operand : Derives .negation ts e) :
      Derives .negation (.bang :: ts) (.unary .not e)
  | notWord {w : String} {ts : List Token} {e : Expr} (hw : lowerWord w = "not")
      (operand : Derives .negation ts e) : Derives .negation (.word w :: ts) (.unary .not e)
  | minus {ts : List Token} {e : Expr} (operand : Derives .signed ts e) :
      Derives .signed (.minus :: ts) (.unary .neg e)
  | plus {ts : List Token} {e : Expr} (operand : Derives .signed ts e) :
      Derives .signed (.plus :: ts) (.unary .plus e)
  | raised {ts us : List Token} {b x : Expr} (base : Derives .primary ts b)
      (exponent : Derives .signed us x) :
      Derives .power (ts ++ .caret :: us) (.binary .pow b x)
  | number (x : Float) : Derives .primary [.number x] (.literal (.number x))
  | text (s : String) : Derives .primary [.text s] (.literal (.text s))
  | field (name : String) : Derives .primary [.field name] (.field name)
  | enclosed {ts : List Token} {e : Expr} (inside : Derives .conditional ts e) :
      Derives .primary (.open :: (ts ++ [.close])) e
  | constant {w : String} {v : Value} (hw : (lowerWord w, v) ∈
      [("true", Value.bool true), ("false", Value.bool false), ("null", Value.null)]) :
      Derives .primary [.word w] (.literal v)
  | called {w : String} {f : Function} {ts : List Token} {args : List Expr}
      (hw : Function.ofName? (lowerWord w) = some f) (hargs : f.admits args.length = true)
      (inside : DerivesAll ts args) :
      Derives .primary (.word w :: .open :: (ts ++ [.close])) (.call f args)
  | calledOnNothing {w : String} {f : Function} (hw : Function.ofName? (lowerWord w) = some f)
      (hargs : f.admits 0 = true) : Derives .primary [.word w, .open, .close] (.call f [])

/-- The tokens are one or more formulas with commas between them, and these are their trees. -/
inductive DerivesAll : List Token → List Expr → Prop
  | last {ts : List Token} {e : Expr} (only : Derives .conditional ts e) : DerivesAll ts [e]
  | comma {ts us : List Token} {e : Expr} {es : List Expr} (first : Derives .conditional ts e)
      (others : DerivesAll us es) : DerivesAll (ts ++ .comma :: us) (e :: es)

end

/-! ## Operators -/

/-- The rank of the level at which a token continues what stands before it; the others rank above
all levels. -/
def Token.rank : Token → Nat
  | .caret => Level.power.rank
  | .star | .slash | .percent => Level.multiplicative.rank
  | .plus | .minus => Level.additive.rank
  | .eq | .ne | .lt | .le | .gt | .ge => Level.comparison.rank
  | .and => Level.conjunction.rank
  | .or => Level.disjunction.rank
  | .question => Level.conditional.rank
  | .word w =>
    if lowerWord w = "and" then Level.conjunction.rank
    else if lowerWord w = "or" then Level.disjunction.rank
    else Level.conditional.rank + 1
  | _ => Level.conditional.rank + 1

theorem Connects.rank {level : Level} {t : Token} {join : Expr → Expr → Expr}
    (h : Connects level t join) : t.rank = level.rank := by
  cases h with
  | orWord hw => simp [Token.rank, hw]
  | andWord hw => simp [Token.rank, hw]
  | _ => rfl

/-- The function says at each token of a level how it joins operands. -/
def JoinsAt (level : Level) (join? : Token → Option (Expr → Expr → Expr)) : Prop :=
  ∀ t join, join? t = some join ↔ Connects level t join

theorem joinsAt_orJoin : JoinsAt .disjunction orJoin? := by
  intro t join
  constructor
  · intro h
    cases t with
    | or => cases h; exact .or
    | word w =>
      simp only [orJoin?] at h
      split at h
      · cases h; exact .orWord ‹_›
      · cases h
    | _ => cases h
  · intro h
    cases h with
    | or => rfl
    | orWord hw => simp [orJoin?, hw]

theorem joinsAt_andJoin : JoinsAt .conjunction andJoin? := by
  intro t join
  constructor
  · intro h
    cases t with
    | and => cases h; exact .and
    | word w =>
      simp only [andJoin?] at h
      split at h
      · cases h; exact .andWord ‹_›
      · cases h
    | _ => cases h
  · intro h
    cases h with
    | and => rfl
    | andWord hw => simp [andJoin?, hw]

theorem joinsAt_comparisonJoin : JoinsAt .comparison comparisonJoin? := by
  intro t join
  constructor
  · intro h
    cases t <;> cases h <;> constructor
  · intro h
    cases h <;> rfl

theorem joinsAt_additiveJoin : JoinsAt .additive additiveJoin? := by
  intro t join
  constructor
  · intro h
    cases t <;> cases h <;> constructor
  · intro h
    cases h <;> rfl

theorem joinsAt_multiplicativeJoin : JoinsAt .multiplicative multiplicativeJoin? := by
  intro t join
  constructor
  · intro h
    cases t <;> cases h <;> constructor
  · intro h
    cases h <;> rfl

/-! ## Words -/

theorem constant?_eq_some {name : String} {v : Value} : constant? name = some v ↔
    (name, v) ∈ [("true", Value.bool true), ("false", Value.bool false), ("null", Value.null)] := by
  unfold constant?
  split
  · rename_i h; simp [h, eq_comm]
  split
  · rename_i h; simp [h, eq_comm]
  split
  · rename_i h; simp [h, eq_comm]
  · rename_i htrue hfalse hnull
    simp [htrue, hfalse, hnull]

/-- No constant is the name of a function, and neither is the word of a negation. -/
theorem ofName?_of_word {name : String}
    (h : name ∈ ["true", "false", "null", "not"]) : Function.ofName? name = none := by
  simp only [List.mem_cons, List.not_mem_nil, or_false] at h
  rcases h with rfl | rfl | rfl | rfl <;> decide

/-! ## How formulas start -/

/-- A token that a formula of the level may start with. -/
structure Opens (level : Level) (t : Token) : Prop where
  notClose : t ≠ .close
  notNegation : level.rank < Level.negation.rank → isNegationSign t = false
  notSigned : level.rank < Level.signed.rank → sign? t = none

theorem Opens.tighter {level next : Level} {t : Token} (h : Opens next t)
    (hnext : level.next? = some next) : Opens level t := by
  have hrank := Level.rank_next hnext
  exact ⟨h.notClose, fun hlow => h.notNegation (by omega), fun hlow => h.notSigned (by omega)⟩

theorem opens_word {level : Level} {w : String} (hw : lowerWord w ≠ "not") :
    Opens level (.word w) :=
  ⟨nofun, fun _ => decide_eq_false hw, fun _ => rfl⟩

/-- A formula starts with a sign, or negation, only at a level that has such. -/
theorem Derives.head {level : Level} {ts : List Token} {e : Expr} (h : Derives level ts e) :
    ∃ t us, ts = t :: us ∧ Opens level t := by
  induction h using @Derives.rec _ (fun _ _ _ => True) with
  | tighter hnext _ ih =>
    obtain ⟨t, us, rfl, hopens⟩ := ih
    exact ⟨t, us, rfl, hopens.tighter hnext⟩
  | joined _ _ _ _ ihl _ =>
    obtain ⟨t, us, rfl, hopens⟩ := ihl
    exact ⟨t, _, rfl, hopens⟩
  | branches _ _ _ iht _ _ =>
    obtain ⟨t, us, rfl, hopens⟩ := iht
    exact ⟨t, _, rfl, hopens.tighter rfl⟩
  | bang => exact ⟨_, _, rfl, nofun, nofun, nofun⟩
  | notWord => exact ⟨_, _, rfl, nofun, nofun, nofun⟩
  | minus => exact ⟨_, _, rfl, nofun, fun _ => rfl, nofun⟩
  | plus => exact ⟨_, _, rfl, nofun, fun _ => rfl, nofun⟩
  | raised _ _ ihb _ =>
    obtain ⟨t, us, rfl, hopens⟩ := ihb
    exact ⟨t, _, rfl, hopens.tighter rfl⟩
  | number => exact ⟨_, _, rfl, nofun, fun _ => rfl, fun _ => rfl⟩
  | text => exact ⟨_, _, rfl, nofun, fun _ => rfl, fun _ => rfl⟩
  | field => exact ⟨_, _, rfl, nofun, fun _ => rfl, fun _ => rfl⟩
  | enclosed => exact ⟨_, _, rfl, nofun, fun _ => rfl, fun _ => rfl⟩
  | constant hw =>
    refine ⟨_, _, rfl, opens_word fun hnot => ?_⟩
    simp [hnot] at hw
  | called hw | calledOnNothing hw =>
    refine ⟨_, _, rfl, opens_word fun hnot => ?_⟩
    rw [hnot, ofName?_of_word (by simp)] at hw
    cases hw
  | last => trivial
  | comma => trivial

/-- Formulas between commas are not more than their tokens. -/
theorem DerivesAll.length_le {ts : List Token} {es : List Expr} (h : DerivesAll ts es) :
    es.length ≤ ts.length := by
  induction h using @DerivesAll.rec (fun _ _ _ _ => True) _ with
  | last only =>
    obtain ⟨t, us, rfl, -⟩ := only.head
    simp
  | comma first _ _ ih =>
    simp only [List.length_append, List.length_cons]
    omega
  | _ => trivial

theorem DerivesAll.head {ts : List Token} {es : List Expr} (h : DerivesAll ts es) :
    ∃ t us, ts = t :: us ∧ t ≠ .close := by
  cases h with
  | last only =>
    obtain ⟨t, us, rfl, hopens⟩ := only.head
    exact ⟨t, us, rfl, hopens.notClose⟩
  | comma first others =>
    obtain ⟨t, us, rfl, hopens⟩ := first.head
    exact ⟨t, _, rfl, hopens.notClose⟩

end Formula
end FormLogic
