import FormLogic.Proofs.Formula.Memo
import Mathlib.Data.Finset.Card
import Mathlib.Data.List.Infix
import Mathlib.Data.List.Induction

/-!
# FormLogic.Proofs.Formula.Usage

Evaluators answer like fresh ones, and their counters add up.

* `Evaluator.answer`: what an evaluator answers a call;
* `Request`: an evaluator is asked to read or to evaluate a text; `Metered.requests`: what a
  computation asks for;
* `Demand`: a request, or a clearing of the memo; `Call.demands`: what a call comes down to;
* `Faithful.run_snd`, `Faithful.afterAll_eq`: computations do what their requests do, and calls what
  their demands do;
* `recent history`: the texts that were requested since the memo was last cleared;
* `repeats history`: how many requests are for such a text;
* `CachePolicy.Fits`: no more texts are ever recent than the memo may hold;
* `Accounts ev history`: the memo holds the recent texts, and the hits are the repeats;
* `usage_adds_up`: the answers and the counters behind any calls.

A demand is met at the evaluator behind all demands before it, so the history grows at its end, and
the inductions on it are from there.
-/

namespace FormLogic
namespace Formula

/-- What an evaluator answers a call. -/
inductive Answer where
  | parsed (p : Parsed)
  | outcome (o : Outcome)
  | outcomes (os : List (String × Outcome))
  | truth (b : Bool)
  | names (ns : List String)
  | done

/-- What an evaluator is asked for. -/
inductive Request where
  | read (text : String)
  | evaluate (text : String) (failed : Bool)
deriving DecidableEq

/-- Counts a request as if it were made. -/
def Evaluator.serve (ev : Evaluator) : Request → Evaluator
  | .read text => (ev.read text).2
  | .evaluate text failed => (ev.read text).2.count failed

def Evaluator.serveAll (ev : Evaluator) (requests : List Request) : Evaluator :=
  requests.foldl Evaluator.serve ev

/-- The requests that a computation makes, in their order. -/
def Metered.requests {α : Type} : Metered α → List Request
  | .done _ => []
  | .evaluating text c next =>
    let outcome := Formula.evaluate text c
    .evaluate text outcome.failed :: (next outcome).requests
  | .tracing text next => .read text :: (next (references text)).requests

/-- A request, or a clearing of the memo. -/
inductive Demand where
  | request (r : Request)
  | clearing
deriving DecidableEq

def Request.text : Request → String
  | .read text => text
  | .evaluate text _ => text

namespace Demand

def isEvaluation : Demand → Bool
  | .request (.evaluate _ _) => true
  | _ => false

def isFailure : Demand → Bool
  | .request (.evaluate _ failed) => failed
  | _ => false

end Demand

/-- The request that is made for the value of a text. -/
def evaluation (text : String) (c : Context) : Demand :=
  .request (.evaluate text (evaluate text c).failed)

/-- What a call comes down to. -/
def Call.demands : Call → List Demand
  | .read text | .dependencies text | .isValid text => [.request (.read text)]
  | .evaluate text c | .holds text c | .choose text _ _ c => [evaluation text c]
  | .evaluateAll texts c => texts.map fun t => evaluation t.2 c
  | .clear => [.clearing]

/-! ## Histories -/

/-- The texts that were requested since the memo was last cleared, the latest first. -/
def recent (history : List Demand) : List String :=
  history.foldl (fun texts d =>
    match d with
    | .request r => r.text :: texts
    | .clearing => []) []

/-- The demand at this place is a request for a recent text. -/
def isRepeat (history : List Demand) (i : Nat) : Bool :=
  match history[i]? with
  | some (.request r) => r.text ∈ recent (history.take i)
  | _ => false

def repeats (history : List Demand) : Nat :=
  (List.range history.length).countP (isRepeat history)

/-- No more texts are ever recent than the memo may hold. -/
def CachePolicy.Fits (policy : CachePolicy) (history : List Demand) : Prop :=
  match policy with
  | .unbounded => True
  | .bounded capacity => ∀ before ∈ history.inits, (recent before).toFinset.card ≤ capacity

instance (policy : CachePolicy) (history : List Demand) : Decidable (policy.Fits history) :=
  match policy with
  | .unbounded => .isTrue trivial
  | .bounded capacity =>
    inferInstanceAs (Decidable (∀ before ∈ history.inits, (recent before).toFinset.card ≤ capacity))

section

variable {history : List Demand} {policy : CachePolicy}

theorem recent_request (history : List Demand) (r : Request) :
    recent (history ++ [.request r]) = r.text :: recent history := by
  rw [recent, List.foldl_append]
  rfl

theorem recent_clearing (history : List Demand) : recent (history ++ [.clearing]) = [] := by
  rw [recent, List.foldl_append]
  rfl

/-- Later demands do not make an earlier one a repeat. -/
theorem repeats_append (history : List Demand) (d : Demand) :
    repeats (history ++ [d]) =
      repeats history + (isRepeat (history ++ [d]) history.length).toNat := by
  have hbefore : ∀ i ∈ List.range history.length,
      (isRepeat (history ++ [d]) i = true ↔ isRepeat history i = true) := by
    intro i hi
    have hlt := List.mem_range.1 hi
    rw [isRepeat, isRepeat, List.getElem?_append_left hlt,
      List.take_append_of_le_length (Nat.le_of_lt hlt)]
  rw [repeats, List.length_append, List.length_singleton, List.range_succ, List.countP_append,
    List.countP_congr hbefore, ← repeats]
  cases hlast : isRepeat (history ++ [d]) history.length <;> simp [hlast]

theorem repeats_request (history : List Demand) (r : Request) :
    repeats (history ++ [.request r]) =
      repeats history + (decide (r.text ∈ recent history)).toNat := by
  rw [repeats_append, isRepeat]
  simp

theorem repeats_clearing (history : List Demand) :
    repeats (history ++ [.clearing]) = repeats history := by
  rw [repeats_append, isRepeat]
  simp

theorem CachePolicy.Fits.before {d : Demand} (h : policy.Fits (history ++ [d])) :
    policy.Fits history := by
  cases policy with
  | unbounded => trivial
  | bounded capacity =>
    intro before hbefore
    refine h before ?_
    rw [List.mem_inits] at hbefore ⊢
    exact hbefore.trans (List.prefix_append history [d])

end

/-! ## Calls and their demands -/

namespace Evaluator

variable {ev ev' : Evaluator}

/-- What the evaluator answers a call. -/
def answer (ev : Evaluator) : Call → Answer
  | .read text => .parsed (ev.read text).1
  | .evaluate text c => .outcome (ev.evaluate text c).1
  | .holds text c => .truth (ev.holds text c).1
  | .choose condition yes no c => .outcome (ev.choose condition yes no c).1
  | .evaluateAll texts c => .outcomes (ev.evaluateAll texts c).1
  | .dependencies text => .names (ev.dependencies text).1
  | .isValid text => .truth (ev.isValid text).1
  | .clear => .done

def meet (ev : Evaluator) : Demand → Evaluator
  | .request r => ev.serve r
  | .clearing => ev.clear

def meetAll (ev : Evaluator) (history : List Demand) : Evaluator :=
  history.foldl meet ev

theorem meetAll_append (ev : Evaluator) (history more : List Demand) :
    ev.meetAll (history ++ more) = (ev.meetAll history).meetAll more :=
  List.foldl_append

theorem Faithful.evaluateAll_fst (h : ev.Faithful) (texts : List (String × String)) (c : Context) :
    (ev.evaluateAll texts c).1 = texts.map fun t => (t.1, Formula.evaluate t.2 c) := by
  induction texts generalizing ev with
  | nil => rfl
  | cons t texts ih =>
    have hrest := ih (h.evaluate t.2 c)
    simp only [Evaluator.evaluateAll, List.map_cons, h.evaluate_fst, hrest]

/-- Faithful evaluators answer alike. -/
theorem Faithful.answer_eq (h : ev.Faithful) (h' : ev'.Faithful) (call : Call) :
    ev.answer call = ev'.answer call := by
  cases call with
  | read text => simp only [answer, h.read_fst, h'.read_fst]
  | evaluate text c => simp only [answer, h.evaluate_fst, h'.evaluate_fst]
  | holds text c => simp only [answer, holds, h.evaluate_fst, h'.evaluate_fst]
  | choose condition yes no c => simp only [answer, choose, h.evaluate_fst, h'.evaluate_fst]
  | evaluateAll texts c => simp only [answer, h.evaluateAll_fst, h'.evaluateAll_fst]
  | dependencies text => simp only [answer, h.dependencies_fst, h'.dependencies_fst]
  | isValid text => simp only [answer, isValid, h.read_fst, h'.read_fst]
  | clear => rfl

theorem Faithful.evaluate_snd (h : ev.Faithful) (text : String) (c : Context) :
    (ev.evaluate text c).2 = ev.meet (evaluation text c) := by
  have houtcome : (ev.read text).1.evaluate c = Formula.evaluate text c := h.evaluate_fst text c
  simp only [Evaluator.evaluate, houtcome]
  rfl

theorem Faithful.evaluateAll_snd (h : ev.Faithful) (texts : List (String × String)) (c : Context) :
    (ev.evaluateAll texts c).2 = ev.meetAll (texts.map fun t => evaluation t.2 c) := by
  induction texts generalizing ev with
  | nil => rfl
  | cons t texts ih =>
    have hrest := ih (h.evaluate t.2 c)
    rw [h.evaluate_snd] at hrest
    rw [List.map_cons, meetAll, List.foldl_cons, ← meetAll, ← hrest, ← h.evaluate_snd]
    rfl

/-- A computation does what its requests do. -/
theorem Faithful.run_snd {α : Type} (h : ev.Faithful) (m : Metered α) :
    (ev.run m).2 = ev.serveAll m.requests := by
  induction m generalizing ev with
  | done a => rfl
  | evaluating text c next ih =>
    have hnext := ih (Formula.evaluate text c) (h.evaluate text c)
    rw [run_evaluating, h.evaluate_fst, hnext, h.evaluate_snd]
    rfl
  | tracing text next ih =>
    rw [run_tracing, h.dependencies_fst, ih (references text) (h.dependencies text)]
    rfl

/-- A call does what its demands do. -/
theorem Faithful.after_eq (h : ev.Faithful) (call : Call) :
    ev.after call = ev.meetAll call.demands := by
  cases call with
  | evaluate text c => exact h.evaluate_snd text c
  | holds text c => exact h.evaluate_snd text c
  | choose condition yes no c => exact h.evaluate_snd condition c
  | evaluateAll texts c => exact h.evaluateAll_snd texts c
  | read text | dependencies text | isValid text => rfl
  | clear => rfl

theorem Faithful.afterAll_eq (h : ev.Faithful) (calls : List Call) :
    ev.afterAll calls = ev.meetAll (calls.flatMap Call.demands) := by
  induction calls generalizing ev with
  | nil => rfl
  | cons call calls ih =>
    rw [List.flatMap_cons, meetAll_append, ← h.after_eq, ← ih (h.after call)]
    rfl

/-! ## Counters -/

theorem read_counters (ev : Evaluator) (text : String) :
    (ev.read text).2.evaluations = ev.evaluations ∧ (ev.read text).2.failures = ev.failures ∧
      (ev.read text).2.policy = ev.policy := by
  unfold read
  split
  · exact ⟨rfl, rfl, rfl⟩
  · dsimp only
    split <;> exact ⟨rfl, rfl, rfl⟩

theorem policy_meetAll (ev : Evaluator) (history : List Demand) :
    (ev.meetAll history).policy = ev.policy := by
  induction history generalizing ev with
  | nil => rfl
  | cons d history ih =>
    refine (ih (ev.meet d)).trans ?_
    match d with
    | .request (.read text) => exact (ev.read_counters text).2.2
    | .request (.evaluate text failed) => exact (ev.read_counters text).2.2
    | .clearing => rfl

/-- A counter that each demand raises or leaves counts the demands that raise it. -/
theorem counter_meetAll {counter : Evaluator → Nat} {raises : Demand → Bool}
    (hmeet : ∀ (ev : Evaluator) (d : Demand), counter (ev.meet d) = counter ev + (raises d).toNat)
    (ev : Evaluator) (history : List Demand) :
    counter (ev.meetAll history) = counter ev + history.countP raises := by
  induction history generalizing ev with
  | nil => rfl
  | cons d history ih =>
    refine (ih (ev.meet d)).trans ?_
    rw [hmeet, List.countP_cons, Nat.add_assoc, Nat.add_comm (raises d).toNat]
    cases raises d <;> rfl

/-- Every evaluation is counted, and nothing else. -/
theorem evaluations_meetAll (ev : Evaluator) (history : List Demand) :
    (ev.meetAll history).evaluations = ev.evaluations + history.countP Demand.isEvaluation := by
  refine counter_meetAll (fun ev d => ?_) ev history
  match d with
  | .request (.read text) => exact (ev.read_counters text).1
  | .request (.evaluate text failed) => exact congrArg (· + 1) (ev.read_counters text).1
  | .clearing => rfl

/-- Every evaluation that fails is counted as a failure, and nothing else. -/
theorem failures_meetAll (ev : Evaluator) (history : List Demand) :
    (ev.meetAll history).failures = ev.failures + history.countP Demand.isFailure := by
  refine counter_meetAll (fun ev d => ?_) ev history
  match d with
  | .request (.read text) => exact (ev.read_counters text).2.1
  | .request (.evaluate text true) => exact congrArg (· + 1) (ev.read_counters text).2.1
  | .request (.evaluate text false) => exact (ev.read_counters text).2.1
  | .clearing => rfl

/-! ## The memo -/

/-- The memo holds the recent texts, and the hits are the repeats. -/
structure Accounts (ev : Evaluator) (history : List Demand) : Prop where
  memo : ∀ text, text ∈ ev.memo ↔ text ∈ recent history
  hits : ev.hits = repeats history

variable {history : List Demand}

theorem Accounts.size_eq (h : ev.Accounts history) :
    ev.memo.size = (recent history).toFinset.card := by
  have hkeys : ev.memo.keys.toFinset = (recent history).toFinset := by
    ext text
    rw [List.mem_toFinset, List.mem_toFinset, Std.ExtTreeMap.mem_keys, h.memo]
  rw [← hkeys, List.toFinset_card_of_nodup Std.ExtTreeMap.nodup_keys, Std.ExtTreeMap.length_keys]

/-- There is room for a text that is not recent yet. -/
theorem Accounts.hasRoom (h : ev.Accounts history) {r : Request}
    (hfits : ev.policy.Fits (history ++ [.request r])) (hnew : r.text ∉ recent history) :
    ev.hasRoom = true := by
  unfold Evaluator.hasRoom
  cases hpolicy : ev.policy with
  | unbounded => rfl
  | bounded capacity =>
    rw [hpolicy] at hfits
    have hcard := hfits _ ((List.mem_inits _ _).2 (List.prefix_refl _))
    rw [recent_request, List.toFinset_cons,
      Finset.card_insert_of_notMem (by rwa [List.mem_toFinset]), ← h.size_eq] at hcard
    exact decide_eq_true hcard

theorem Accounts.read (h : ev.Accounts history) {r : Request}
    (hfits : ev.policy.Fits (history ++ [.request r])) :
    (ev.read r.text).2.Accounts (history ++ [.request r]) := by
  unfold Evaluator.read
  split
  · rename_i parsed hparsed
    have hin : r.text ∈ recent history := by
      rw [← h.memo, Std.ExtTreeMap.mem_iff_isSome_getElem?, hparsed]
      rfl
    refine ⟨fun text => ?_, ?_⟩
    · rw [recent_request, List.mem_cons, ← h.memo]
      refine ⟨.inr, fun htext => htext.elim (fun heq => ?_) id⟩
      rw [heq, h.memo]
      exact hin
    · rw [repeats_request, ← h.hits]
      simp [hin]
  · rename_i hnone
    have hnew : r.text ∉ recent history := by
      rw [← h.memo, Std.ExtTreeMap.mem_iff_isSome_getElem?, hnone]
      exact Bool.false_ne_true
    simp only [h.hasRoom hfits hnew, if_true]
    refine ⟨fun text => ?_, ?_⟩
    · rw [recent_request, List.mem_cons, Std.ExtTreeMap.mem_insert, h.memo,
        Std.LawfulEqCmp.compare_eq_iff_eq, eq_comm]
    · rw [repeats_request, ← h.hits]
      simp [hnew]

theorem Accounts.meet (h : ev.Accounts history) {d : Demand}
    (hfits : ev.policy.Fits (history ++ [d])) : (ev.meet d).Accounts (history ++ [d]) := by
  match d with
  | .request (.read text) => exact h.read hfits
  | .request (.evaluate text failed) =>
    -- counting leaves the memo and the hits
    obtain ⟨hmemo, hhits⟩ := h.read hfits
    exact ⟨hmemo, hhits⟩
  | .clearing =>
    refine ⟨fun text => ?_, ?_⟩
    · rw [recent_clearing]
      simp [Evaluator.meet, clear]
    · rw [repeats_clearing]
      exact h.hits

theorem accounts_meetAll {policy : CachePolicy} (hfits : policy.Fits history) :
    ((ofPolicy policy).meetAll history).Accounts history := by
  induction history using List.reverseRecOn with
  | nil => exact ⟨by simp [meetAll, ofPolicy, recent], rfl⟩
  | append_singleton history d ih =>
    rw [meetAll_append]
    refine (ih hfits.before).meet ?_
    rwa [policy_meetAll]

end Evaluator

open Evaluator in
/-- Behind any calls, an evaluator answers what a fresh one answers.  It has counted the evaluations,
whichever call made them, and those that fail.  If no more texts were ever recent than the memo may
hold, the memo is as large as there are recent texts, and the hits are the requests for a text that
was recent already. -/
theorem usage_adds_up (policy : CachePolicy) (calls : List Call) :
    let ev := (ofPolicy policy).afterAll calls
    let history := calls.flatMap Call.demands
    (∀ (call : Call) (other : CachePolicy), ev.answer call = (ofPolicy other).answer call) ∧
    ev.evaluations = history.countP Demand.isEvaluation ∧
    ev.failures = history.countP Demand.isFailure ∧
    (policy.Fits history →
      ev.memo.size = (recent history).toFinset.card ∧ ev.hits = repeats history) := by
  intro ev history
  have hfaithful : ev.Faithful := (faithful_ofPolicy policy).afterAll calls
  have hev : ev = (ofPolicy policy).meetAll history := (faithful_ofPolicy policy).afterAll_eq calls
  refine ⟨fun call other => hfaithful.answer_eq (faithful_ofPolicy other) call, ?_, ?_, ?_⟩
  · rw [hev, evaluations_meetAll]
    exact Nat.zero_add _
  · rw [hev, failures_meetAll]
    exact Nat.zero_add _
  · intro hfits
    have haccounts := accounts_meetAll hfits
    rw [← hev] at haccounts
    exact ⟨haccounts.size_eq, haccounts.hits⟩

open Evaluator in
/-- Five requests for two texts, four of them evaluations and two of these of a text that has no
value. -/
theorem usage_adds_up_two_texts :
    let c := Context.ofValues (Dict.ofPairs [("A", "x")])
    let calls : List Call := [.isValid "@A", .evaluateAll [("p", "@A"), ("q", "-@A")] c,
      .holds "-@A" c, .evaluate "@A" c]
    let ev := (ofPolicy (.bounded 2)).afterAll calls
    CachePolicy.Fits (.bounded 2) (calls.flatMap Call.demands) ∧
      ev.evaluations = 4 ∧ ev.failures = 2 ∧ ev.memo.size = 2 ∧ ev.hits = 3 := by
  intro c calls ev
  have hfits : CachePolicy.Fits (.bounded 2) (calls.flatMap Call.demands) := by decide +kernel
  obtain ⟨-, hevaluations, hfailures, hmemo⟩ := usage_adds_up (.bounded 2) calls
  obtain ⟨hsize, hhits⟩ := hmemo hfits
  exact ⟨hfits, hevaluations.trans (by decide +kernel), hfailures.trans (by decide +kernel),
    hsize.trans (by decide +kernel), hhits.trans (by decide +kernel)⟩

end Formula
end FormLogic
