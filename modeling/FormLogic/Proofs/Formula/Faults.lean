import FormLogic.Proofs.Formula.Acceptance
import FormLogic.Proofs.Formula.Memo
import Mathlib.Data.List.Basic

/-!
# FormLogic.Proofs.Formula.Faults

Faults of texts and faults of values.

* `Fault.inText`: the fault lies in the text and not in a value;
* `NotNumeric fault`: the fault is a text in place of a number;
* `FailsBy P x`: if `x` fails, then by a fault with the property;
* `conditional_inText`, `parse_inText`: reading fails by faults of the text;
* `Expr.calls`: the calls that stand in a tree; `Expr.Admitted`: each has arguments that its function
  takes;
* `Derives.admitted`: the grammar has no other trees;
* `eval_notNumeric`: the value of such a tree is missing only for a text in place of a number;
* `evaluate_faults`: how texts fail, and which texts are valid.
-/

namespace FormLogic
namespace Formula

/-- The fault lies in the text and not in a value. -/
def Fault.inText : Fault → Bool
  | .strayCharacter _ _ | .unterminatedText _ | .misplaced _ _ | .unexpectedEnd | .unknownWord _
  | .unknownFunction _ | .arity _ _ => true
  | .notANumber _ => false

/-- A text that does not coerce to a number stands in place of one. -/
def NotNumeric (fault : Fault) : Prop :=
  ∃ s, fault = .notANumber s ∧ numberOfText? s = none

/-- If the computation fails, then by a fault with the property. -/
def FailsBy {α : Type} (P : Fault → Prop) (x : Except Fault α) : Prop :=
  ∀ fault, x = .error fault → P fault

section

variable {P : Fault → Prop} {α β : Type}

theorem FailsBy.ok (a : α) : FailsBy P (.ok a) := nofun

theorem FailsBy.error {fault : Fault} (h : P fault) : FailsBy P (.error fault : Except Fault α) := by
  rintro _ ⟨⟩
  exact h

theorem FailsBy.bind {x : Except Fault α} {f : α → Except Fault β} (hx : FailsBy P x)
    (hf : ∀ a, FailsBy P (f a)) : FailsBy P (x >>= f) := by
  cases x with
  | error fault => exact .error (hx fault rfl)
  | ok a => exact hf a

end

/-! ## Reading -/

abbrev FailsInText {α : Type} (x : Except Fault α) : Prop :=
  FailsBy (fun fault => fault.inText = true) x

theorem TokenFault.inText_at (position : Nat) (fault : TokenFault) :
    (fault.at position).inText = true := by
  cases fault <;> rfl

theorem lexemes_inText (position : Nat) (text : List Char) :
    FailsInText (lexemes position text) := by
  fun_induction lexemes position text with
  | case1 => exact .ok _
  | case2 _ _ _ _ ih => exact ih
  | case3 position _ _ _ fault => exact .error (fault.inText_at position)
  | case4 _ _ _ _ _ _ fault hfault ih => exact .error (ih fault hfault)
  | case5 => exact .ok _

section

variable {c : Cursor} {inner operand exponent : Rule}
variable {join? : Token → Option (Expr → Expr → Expr)}

theorem Cursor.descend_inText (c : Cursor) : FailsInText c.descend := by
  unfold descend
  split
  · exact .ok _
  · exact .error rfl

theorem Cursor.expect_inText (c : Cursor) (t : Token) (what : Expected) :
    FailsInText (c.expect t what) := by
  unfold expect
  split
  · exact .error rfl
  split
  · exact .ok _
  · exact .error rfl

/-- Wherever the rule starts, it fails by faults of the text. -/
def RuleInText (rule : Rule) : Prop := ∀ c, FailsInText (rule c)

theorem chainTail_inText (ho : RuleInText operand) (n : Nat) (lhs : Expr) (c : Cursor) :
    FailsInText (chainTail operand join? n lhs c) := by
  induction n generalizing lhs c with
  | zero => exact .error rfl
  | succ n ih =>
    unfold chainTail
    split
    · exact .ok _
    · exact (c.advance.descend_inText).bind fun c₁ => (ho c₁).bind fun _ => ih _ _

theorem RuleInText.chain (ho : RuleInText operand) : RuleInText (chain operand join?) :=
  fun c => (ho c).bind fun _ => (chainTail_inText ho _ _ _).bind fun _ => .ok _

theorem argumentsTail_inText (hi : RuleInText inner) (n : Nat) (done : List Expr) (c : Cursor) :
    FailsInText (argumentsTail inner n done c) := by
  induction n generalizing done c with
  | zero => exact .error rfl
  | succ n ih =>
    refine (hi c).bind fun read => ?_
    dsimp only
    split
    · exact ih _ _
    · exact (read.2.expect_inText _ _).bind fun _ => .ok _

theorem arguments_inText (hi : RuleInText inner) (c : Cursor) : FailsInText (arguments inner c) := by
  unfold arguments
  split
  · exact .ok _
  · exact argumentsTail_inText hi _ _ _

theorem RuleInText.named (hi : RuleInText inner) (name : String) :
    RuleInText (named inner name) := by
  intro c
  unfold Formula.named
  split
  · exact .ok _
  split
  · exact .error rfl
  split
  · exact .error rfl
  refine (arguments_inText hi _).bind fun read => ?_
  dsimp only
  split
  · exact .ok _
  · exact .error rfl

theorem RuleInText.primary (hi : RuleInText inner) : RuleInText (primary inner) := by
  intro c
  unfold Formula.primary
  split
  · exact .error rfl
  split
  · exact .ok _
  · exact .ok _
  · exact .ok _
  · exact (hi _).bind fun read => (read.2.expect_inText _ _).bind fun _ => .ok _
  · exact hi.named _ _
  · exact .error rfl

theorem RuleInText.power (hi : RuleInText inner) (hx : RuleInText exponent) :
    RuleInText (power inner exponent) := by
  intro c
  refine (hi.primary c).bind fun read => ?_
  dsimp only
  split
  · exact (read.2.advance.descend_inText).bind fun c₁ => (hx c₁).bind fun _ => .ok _
  · exact .ok _

theorem RuleInText.signed (hi : RuleInText inner) (n : Nat) : RuleInText (signed inner n) := by
  induction n with
  | zero => exact fun _ => .error rfl
  | succ n ih =>
    intro c
    unfold Formula.signed
    split
    · exact (c.advance.descend_inText).bind fun c₁ => (ih c₁).bind fun _ => .ok _
    · exact hi.power ih c

theorem RuleInText.comparison (hi : RuleInText inner) : RuleInText (comparison inner) :=
  (hi.signed levels).chain.chain.chain

theorem RuleInText.negation (hi : RuleInText inner) (n : Nat) : RuleInText (negation inner n) := by
  induction n with
  | zero => exact fun _ => .error rfl
  | succ n ih =>
    intro c
    unfold Formula.negation
    split
    · exact (c.advance.descend_inText).bind fun c₁ => (ih c₁).bind fun _ => .ok _
    · exact hi.comparison c

theorem RuleInText.disjunction (hi : RuleInText inner) : RuleInText (disjunction inner) :=
  (hi.negation levels).chain.chain

theorem RuleInText.branching (hi : RuleInText inner) : RuleInText (branching inner) := by
  intro c
  refine (hi.disjunction c).bind fun test => ?_
  dsimp only
  split
  · refine (hi _).bind fun yes => (yes.2.expect_inText _ _).bind fun c₁ => ?_
    exact (hi c₁).bind fun _ => .ok _
  · exact .ok _

theorem conditional_inText (n : Nat) : RuleInText (conditional n) := by
  induction n with
  | zero => exact fun _ => .error rfl
  | succ n ih =>
    exact fun c => c.descend_inText.bind fun c₁ => (ih.branching c₁).bind fun _ => .ok _

theorem parse_inText (source : String) : FailsInText (parse source) := by
  refine (lexemes_inText 0 source.toList).bind fun tokens => ?_
  refine (conditional_inText levels _).bind fun read => ?_
  dsimp only
  split
  · exact .ok _
  · exact .error rfl

end

/-! ## Calls -/

mutual

/-- The calls that stand in a tree, with their arguments. -/
def Expr.calls : Expr → List (Function × List Expr)
  | .literal _ => []
  | .field _ => []
  | .unary _ e => e.calls
  | .binary _ l r => l.calls ++ r.calls
  | .logical _ l r => l.calls ++ r.calls
  | .conditional t y n => t.calls ++ y.calls ++ n.calls
  | .call f args => (f, args) :: callsOf args

/-- The calls that stand in a list of trees. -/
def callsOf : List Expr → List (Function × List Expr)
  | [] => []
  | e :: es => e.calls ++ callsOf es

end

/-- Each call has as many arguments as its function takes. -/
def Admitted (calls : List (Function × List Expr)) : Prop :=
  ∀ call ∈ calls, call.1.admits call.2.length = true

theorem admitted_append {calls more : List (Function × List Expr)} :
    Admitted (calls ++ more) ↔ Admitted calls ∧ Admitted more :=
  List.forall_mem_append

theorem admitted_cons {call : Function × List Expr} {calls : List (Function × List Expr)} :
    Admitted (call :: calls) ↔ call.1.admits call.2.length = true ∧ Admitted calls :=
  List.forall_mem_cons

theorem Connects.calls_join {level : Level} {op : Token} {join : Expr → Expr → Expr}
    (h : Connects level op join) (l r : Expr) : (join l r).calls = l.calls ++ r.calls := by
  cases h <;> rfl

/-- The grammar has calls with admissible arguments only. -/
theorem Derives.admitted {level : Level} {ts : List Token} {e : Expr} (h : Derives level ts e) :
    Admitted e.calls := by
  -- phrases contain lists of arguments, of which all calls are admitted likewise
  induction h using @Derives.rec _ (fun _ es _ => Admitted (callsOf es)) with
  | tighter _ _ ih => exact ih
  | joined _ hop _ _ ihl ihr =>
    rw [hop.calls_join]
    exact admitted_append.2 ⟨ihl, ihr⟩
  | branches _ _ _ iht ihy ihn =>
    exact admitted_append.2 ⟨admitted_append.2 ⟨iht, ihy⟩, ihn⟩
  | bang _ ih | notWord _ _ ih | minus _ ih | plus _ ih | enclosed _ ih => exact ih
  | raised _ _ ihb ihx => exact admitted_append.2 ⟨ihb, ihx⟩
  | number | text | field | constant => exact List.forall_mem_nil _
  | called _ hargs _ ih => exact admitted_cons.2 ⟨hargs, ih⟩
  | calledOnNothing _ hargs => exact admitted_cons.2 ⟨hargs, List.forall_mem_nil _⟩
  | last _ ih => exact admitted_append.2 ⟨ih, List.forall_mem_nil _⟩
  | comma _ _ ihe ihes => exact admitted_append.2 ⟨ihe, ihes⟩

theorem admitted_of_parse {source : String} {e : Expr} (h : parse source = .ok e) :
    Admitted e.calls := by
  obtain ⟨tokens, -, h⟩ := bind_eq_ok.1 h
  exact (derives_of_parseTokens h).admitted

/-- A blank text has no calls. -/
theorem admitted_of_readTree {text : String} {e : Expr} (h : readTree text = .ok e) :
    Admitted e.calls := by
  unfold readTree at h
  split at h
  · cases h
    exact List.forall_mem_nil _
  · exact admitted_of_parse h

/-- No function is called on nothing. -/
theorem ne_nil_of_admits {α : Type} {f : Function} {args : List α}
    (h : f.admits args.length = true) : args ≠ [] := by
  rintro rfl
  cases f <;> cases h

theorem three_of_admits {args : List Expr} (h : Function.choose.admits args.length = true) :
    ∃ t y n, args = [t, y, n] :=
  List.length_eq_three.1 (of_decide_eq_true h)

/-! ## Values -/

theorem toNumber_notNumeric (v : Value) : FailsBy NotNumeric v.toNumber := by
  cases v with
  | text s =>
    rw [Value.toNumber]
    split
    · exact .ok _
    · rename_i hnone
      exact .error ⟨s, rfl, hnone⟩
  | null | bool | number => exact .ok _

theorem unaryValue_notNumeric (op : UnaryOp) (v : Value) :
    FailsBy NotNumeric (unaryValue op v) := by
  cases op with
  | neg | plus => exact (toNumber_notNumeric v).bind fun _ => .ok _
  | not => exact .ok _

theorem binaryValue_notNumeric (op : BinaryOp) (l r : Value) :
    FailsBy NotNumeric (binaryValue op l r) := by
  have hnumbers {f : Float → Float → Value} :
      FailsBy NotNumeric (do let a ← l.toNumber; let b ← r.toNumber; return f a b) :=
    (toNumber_notNumeric l).bind fun _ => (toNumber_notNumeric r).bind fun _ => .ok _
  cases op with
  | add | sub | mul | div | rem | pow => exact hnumbers
  | eq | ne | lt | le | gt | ge => exact .ok _

theorem firstNumber_notNumeric (args : List Value) : FailsBy NotNumeric (firstNumber args) := by
  cases args with
  | nil => exact .ok _
  | cons v args => exact toNumber_notNumeric v

theorem foldNumbers_notNumeric (op : Float → Float → Float) (args : List Value) :
    FailsBy NotNumeric (foldNumbers op args) := by
  have hfold : ∀ (vs : List Value) (acc : Float), FailsBy NotNumeric
      (vs.foldlM (fun acc w => do return op acc (← w.toNumber)) acc) := by
    intro vs
    induction vs with
    | nil => exact fun _ => .ok _
    | cons v vs ih =>
      intro acc
      rw [List.foldlM_cons]
      exact ((toNumber_notNumeric v).bind fun _ => .ok _).bind ih
  cases args with
  | nil => exact .ok _
  | cons v vs => exact (toNumber_notNumeric v).bind fun x => hfold vs x

theorem callValue_notNumeric (f : Function) (args : List Value) :
    FailsBy NotNumeric (callValue f args) := by
  cases f with
  | min | max => exact (foldNumbers_notNumeric _ args).bind fun _ => .ok _
  | abs | floor | ceil => exact (firstNumber_notNumeric args).bind fun _ => .ok _
  | round =>
    exact (firstNumber_notNumeric args).bind fun _ =>
      (firstNumber_notNumeric args.tail).bind fun _ => .ok _
  | length | concat | choose => exact .ok _

/-- The values of arguments are as many as the arguments. -/
theorem length_evalAll {c : Context} {es : List Expr} {vs : List Value}
    (h : evalAll c es = .ok vs) : vs.length = es.length := by
  induction es generalizing vs with
  | nil =>
    rw [evalAll] at h
    cases h
    rfl
  | cons e es ih =>
    rw [evalAll] at h
    obtain ⟨v, -, h⟩ := bind_eq_ok.1 h
    obtain ⟨ws, hws, h⟩ := bind_eq_ok.1 h
    cases h
    rw [List.length_cons, List.length_cons, ih hws]

/-- Functions other than the choice are called on the values of all their arguments. -/
theorem eval_call {f : Function} (hf : f ≠ .choose) (c : Context) (args : List Expr) :
    eval c (.call f args) = evalAll c args >>= callValue f := by
  cases f with
  | choose => exact absurd rfl hf
  | _ => rw [eval] <;> nofun

mutual

/-- With admissible arguments throughout, a value is missing only for a text in place of a number. -/
theorem eval_notNumeric (c : Context) (e : Expr) (h : Admitted e.calls) :
    FailsBy NotNumeric (eval c e) := by
  have branch {t y n : Expr} (ht : FailsBy NotNumeric (eval c t))
      (hy : FailsBy NotNumeric (eval c y)) (hn : FailsBy NotNumeric (eval c n)) :
      FailsBy NotNumeric (do if (← eval c t).truthy then eval c y else eval c n) := by
    refine ht.bind fun v => ?_
    split
    · exact hy
    · exact hn
  match e with
  | .literal v => rw [eval]; exact .ok _
  | .field name => rw [eval]; exact .ok _
  | .unary op e =>
    rw [eval]
    exact (eval_notNumeric c e h).bind fun v => unaryValue_notNumeric op v
  | .binary op l r =>
    obtain ⟨hl, hr⟩ := admitted_append.1 h
    rw [eval]
    exact (eval_notNumeric c l hl).bind fun a =>
      (eval_notNumeric c r hr).bind fun b => binaryValue_notNumeric op a b
  | .logical op l r =>
    obtain ⟨hl, hr⟩ := admitted_append.1 h
    have hright := (eval_notNumeric c r hr).bind fun v => FailsBy.ok (Value.bool v.truthy)
    cases op with
    | and | or =>
      rw [eval]
      refine (eval_notNumeric c l hl).bind fun v => ?_
      split
      all_goals first | exact hright | exact .ok _
  | .conditional t y n =>
    obtain ⟨hty, hn⟩ := admitted_append.1 h
    obtain ⟨ht, hy⟩ := admitted_append.1 hty
    rw [eval]
    exact branch (eval_notNumeric c t ht) (eval_notNumeric c y hy) (eval_notNumeric c n hn)
  | .call f args =>
    obtain ⟨hadmits, hargs⟩ := admitted_cons.1 h
    -- a choice evaluates one of its branches only, so it is not a call on values
    by_cases hf : f = .choose
    · subst hf
      match args, three_of_admits hadmits with
      | [t, y, n], _ =>
        obtain ⟨ht, hrest⟩ := admitted_append.1 hargs
        obtain ⟨hy, hrest⟩ := admitted_append.1 hrest
        obtain ⟨hn, -⟩ := admitted_append.1 hrest
        rw [eval]
        exact branch (eval_notNumeric c t ht) (eval_notNumeric c y hy) (eval_notNumeric c n hn)
    · rw [eval_call hf]
      exact (evalAll_notNumeric c args hargs).bind fun vs => callValue_notNumeric f vs

theorem evalAll_notNumeric (c : Context) (es : List Expr) (h : Admitted (callsOf es)) :
    FailsBy NotNumeric (evalAll c es) := by
  match es with
  | [] => rw [evalAll]; exact .ok _
  | e :: es =>
    obtain ⟨he, hes⟩ := admitted_append.1 h
    rw [evalAll]
    exact (eval_notNumeric c e he).bind fun _ =>
      (evalAll_notNumeric c es hes).bind fun _ => .ok _

end

/-! ## Texts -/

theorem evaluate_of_error {text : String} {fault : Fault} (h : readTree text = .error fault)
    (c : Context) : evaluate text c = .error fault := by
  rw [evaluate_eq, h]
  rfl

/-- A text that is read fails only by a text in place of a number. -/
theorem evaluate_of_ok {text : String} {e : Expr} (h : readTree text = .ok e) (c : Context) :
    FailsBy NotNumeric (evaluate text c) := by
  have heval := eval_notNumeric c e (admitted_of_readTree h)
  rw [evaluate_eq, h]
  intro fault hfault
  cases hv : eval c e with
  | error other =>
    rw [Except.bind, hv] at hfault
    cases hfault
    exact heval _ hv
  | ok v =>
    rw [Except.bind, hv] at hfault
    cases hfault

theorem readTree_inText (text : String) : FailsInText (readTree text) := by
  unfold readTree
  split
  · exact .ok _
  · exact parse_inText text

theorem isValid_ofText {text : String} :
    (Parsed.ofText text).isValid = false ↔ ∃ fault, readTree text = .error fault := by
  unfold Parsed.isValid
  rw [Parsed.ofText_tree]
  cases readTree text <;> simp

open Evaluator in
/-- A text that is blank or can be read has a value, or else some text that does not coerce to a
number stands in place of one; functions are called on admissible arguments only, and so on one value
at least.  A text that cannot be read fails as its reading does.  So a text is invalid exactly if its
evaluation fails by a fault of the text, whatever the values. -/
theorem evaluate_faults (policy : CachePolicy) (calls : List Call) (text : String) (c : Context) :
    let ev := (ofPolicy policy).afterAll calls
    let outcome := (ev.evaluate text c).1
    ((Text.allBlank text = true ∨ ∃ e, parse text = .ok e) →
      (∃ r, outcome = .ok r) ∨
        ∃ s, outcome = .error (.notANumber s) ∧ numberOfText? s = none) ∧
    (∀ e, parse text = .ok e → ∀ f args, (f, args) ∈ e.calls → f.admits args.length = true ∧
      ∀ vs, evalAll c args = .ok vs → vs ≠ []) ∧
    (Text.allBlank text = false → ∀ fault, parse text = .error fault →
      outcome = .error fault) ∧
    ((ev.isValid text).1 = false ↔ ∃ fault, outcome = .error fault ∧ fault.inText = true) := by
  intro ev outcome
  have hfaithful : ev.Faithful := (faithful_ofPolicy policy).afterAll calls
  have houtcome : outcome = evaluate text c := hfaithful.evaluate_fst text c
  have hvalid : (ev.isValid text).1 = (Parsed.ofText text).isValid := by
    simp only [isValid, hfaithful.read_fst]
  rw [houtcome, hvalid, isValid_ofText]
  refine ⟨fun hread => ?_, fun e he f args hcall => ?_, fun hblank fault hfault => ?_, ?_⟩
  · obtain ⟨e, he⟩ : ∃ e, readTree text = .ok e := by
      unfold readTree
      split
      · exact ⟨_, rfl⟩
      · rename_i hblank
        exact hread.resolve_left hblank
    cases hvalue : evaluate text c with
    | ok r => exact .inl ⟨r, rfl⟩
    | error fault =>
      obtain ⟨s, rfl, hs⟩ := evaluate_of_ok he c fault hvalue
      exact .inr ⟨s, rfl, hs⟩
  · have hadmits := admitted_of_parse he (f, args) hcall
    refine ⟨hadmits, fun vs hvs => ne_nil_of_admits (f := f) ?_⟩
    rwa [length_evalAll hvs]
  · exact evaluate_of_error (by rwa [readTree, if_neg (by simp [hblank])]) c
  · constructor
    · rintro ⟨fault, hfault⟩
      exact ⟨fault, evaluate_of_error hfault c, readTree_inText text fault hfault⟩
    · rintro ⟨fault, hfault, hin⟩
      cases hread : readTree text with
      | error other => exact ⟨other, rfl⟩
      | ok e =>
        -- what can be read fails by a value, if at all
        obtain ⟨s, rfl, -⟩ := evaluate_of_ok hread c fault hfault
        cases hin

open Evaluator in
theorem evaluate_faults_arguments :
    let ev := (ofPolicy .unbounded).afterAll [.isValid "max()"]
    let c := Context.ofValues (Dict.ofPairs [("A", "x")])
    let max := Expr.call .max [.field "A", .field "B"]
    parse "max(@A, @B)" = .ok max ∧ (.max, [.field "A", .field "B"]) ∈ max.calls ∧
      ((∃ r, (ev.evaluate "max(@A, @B)" c).1 = .ok r) ∨
        ∃ s, (ev.evaluate "max(@A, @B)" c).1 = .error (.notANumber s) ∧ numberOfText? s = none) ∧
      Text.allBlank "max()" = false ∧ parse "max()" = .error (.arity .max 0) ∧
      (ev.evaluate "max()" c).1 = .error (.arity .max 0) ∧ (ev.isValid "max()").1 = false := by
  intro ev c max
  have hread : parse "max(@A, @B)" = .ok max := by with_unfolding_all rfl
  have hblank : Text.allBlank "max()" = false := by decide +kernel
  have hfault : parse "max()" = .error (.arity .max 0) := by with_unfolding_all rfl
  have laws := evaluate_faults .unbounded [.isValid "max()"] "max()" c
  have hfails := laws.2.2.1 hblank _ hfault
  exact ⟨hread, .head _,
    (evaluate_faults .unbounded [.isValid "max()"] "max(@A, @B)" c).1 (.inr ⟨max, hread⟩),
    hblank, hfault, hfails, laws.2.2.2.2 ⟨_, hfails, rfl⟩⟩

end Formula
end FormLogic
