import FormLogic.Proofs.Rules.Graph
import FormLogic.Rules.Resolver
import Mathlib.Data.List.Perm.Basic

/-!
# FormLogic.Proofs.Rules.Options

Which options rules withhold.

* `ValueRule.Shows`, `ValueRule.Hides`: the rules that can decide whether an option is offered;
* `ValueRule.ShownFirst`: of these the first shows the option, and it matches;
* `offers_iff`: an option is offered if it is shown first, or if no rule decides;
* `hidden_option_withheld`: when an option that some rule hides is withheld, for the given order of
  the rules and for all of them;
* `hidden_option_offered`: such an option may be offered.

A rule that shows an option decides whether it matches or not, and one that hides it decides only
if it matches.  So a rule that hides an option is not asked behind any that shows it.
-/

namespace FormLogic

open Formula

namespace ValueRule

/-- The rule shows the option. -/
def Shows (r : ValueRule) (field option : String) : Prop :=
  r.target = field ∧ r.targetValue = option ∧ r.action = .show

/-- The rule hides the option, and it matches. -/
def Hides (r : ValueRule) (field option : String) (values : Dict String) : Prop :=
  r.target = field ∧ r.targetValue = option ∧ r.action = .hide ∧ (r.matches values).value = true

instance (r : ValueRule) (field option : String) : Decidable (r.Shows field option) :=
  inferInstanceAs (Decidable (_ ∧ _))

instance (r : ValueRule) (field option : String) (values : Dict String) :
    Decidable (r.Hides field option values) := inferInstanceAs (Decidable (_ ∧ _))

/-- A rule that shows the option matches, and none before it shows or hides the option. -/
def ShownFirst (rules : List ValueRule) (field option : String) (values : Dict String) : Prop :=
  ∃ before rule after, rules = before ++ rule :: after ∧ rule.Shows field option ∧
    (rule.matches values).value = true ∧
    ∀ r ∈ before, ¬ r.Shows field option ∧ ¬ r.Hides field option values

end ValueRule

variable {rules : List ValueRule} {rule : ValueRule} {field option : String} {values : Dict String}

/-! ## The rule that decides -/

namespace Resolver

/-- The first rule that decides has to show the option and to match, if there is one. -/
theorem value_offersBy (values : Dict String) (rules : List ValueRule) :
    (offersBy values rules).value =
      (rules.find? fun r => r.action == .show || r.action == .hide && (r.matches values).value).all
        fun r => r.action == .show && (r.matches values).value := by
  induction rules with
  | nil => rfl
  | cons r rules ih =>
    unfold offersBy
    split
    · rename_i hshow
      simp [hshow]
    · rename_i hhide
      rw [Metered.value_bind]
      cases hmatch : (r.matches values).value <;> simp [hhide, hmatch, ih]
    · rename_i hshow hhide
      rw [ih, List.find?_cons, beq_eq_false_iff_ne.2 hshow, beq_eq_false_iff_ne.2 hhide]
      rfl

/-- The rule that decides on an option of a field is the first that shows or hides it. -/
theorem value_offers {r : Resolver}
    (hr : r.graph.valueRulesOn field = rules.filter (·.target = field)) :
    (r.offers field option values).value =
      (rules.find? fun r => r.Shows field option ∨ r.Hides field option values).all
        fun r => r.action == .show && (r.matches values).value := by
  rw [offers, hr, value_offersBy, List.find?_filter, List.find?_filter]
  congr 2
  funext rule
  rw [Bool.eq_iff_iff]
  simp only [Bool.and_eq_true, Bool.or_eq_true, beq_iff_eq, decide_eq_true_eq]
  unfold ValueRule.Shows ValueRule.Hides
  tauto

end Resolver

theorem ValueRule.shownFirst_iff : ShownFirst rules field option values ↔
    ∃ rule, (rules.find? fun r => r.Shows field option ∨ r.Hides field option values) = some rule ∧
      rule.Shows field option ∧ (rule.matches values).value = true := by
  simp only [List.find?_eq_some_iff_append, decide_eq_true_eq, Bool.not_eq_true',
    decide_eq_false_iff_not, not_or]
  constructor
  · rintro ⟨before, rule, after, hrules, hshows, hmatches, hbefore⟩
    exact ⟨rule, ⟨.inl hshows, before, after, hrules, hbefore⟩, hshows, hmatches⟩
  · rintro ⟨rule, ⟨-, before, after, hrules, hbefore⟩, hshows, hmatches⟩
    exact ⟨before, rule, after, hrules, hshows, hmatches, hbefore⟩

instance : Decidable (ValueRule.ShownFirst rules field option values) :=
  decidable_of_iff ((rules.find? fun r => r.Shows field option ∨ r.Hides field option values).any
      fun r => decide (r.Shows field option) && (r.matches values).value) (by
    simp [ValueRule.shownFirst_iff, Option.any_eq_true])

/-- An option is offered if it is shown first, and also if no rule shows or hides it. -/
theorem Resolver.offers_iff {r : Resolver}
    (hr : r.graph.valueRulesOn field = rules.filter (·.target = field)) :
    (r.offers field option values).value = true ↔
      ValueRule.ShownFirst rules field option values ∨
        ∀ rule ∈ rules, ¬ rule.Shows field option ∧ ¬ rule.Hides field option values := by
  rw [value_offers hr, ValueRule.shownFirst_iff]
  cases hfind : rules.find? fun r => r.Shows field option ∨ r.Hides field option values with
  | none =>
    have hnone := List.find?_eq_none.1 hfind
    simp only [decide_eq_true_eq, not_or] at hnone
    exact iff_of_true rfl (.inr hnone)
  | some rule =>
    have hin := List.mem_of_find?_eq_some hfind
    have hdecides := List.find?_some hfind
    rw [decide_eq_true_eq] at hdecides
    have hsome : ¬ ∀ rule ∈ rules, ¬ rule.Shows field option ∧ ¬ rule.Hides field option values :=
      fun h => hdecides.elim (h rule hin).1 (h rule hin).2
    rw [or_iff_left hsome, Option.all_some, Bool.and_eq_true, beq_iff_eq]
    constructor
    · rintro ⟨hshow, hmatches⟩
      obtain hshows | hhides := hdecides
      · exact ⟨rule, rfl, hshows, hmatches⟩
      · cases hshow.symm.trans hhides.2.2.1
    · rintro ⟨_, heq, hshows, hmatches⟩
      cases heq
      exact ⟨hshows.2.2, hmatches⟩

/-! ## Options that are hidden -/

/-- An option that a rule hides is withheld, unless it is shown first.  It is withheld in every
order of the rules exactly if no rule that shows it matches. -/
theorem hidden_option_withheld (fieldRules : List FieldRule) (defaults : Flags)
    (hhidden : ∃ rule ∈ rules, rule.Hides field option values) :
    let withheld (rules : List ValueRule) : Prop :=
      let r : Resolver := { (Resolver.ofRules fieldRules rules).value with defaults }
      (r.offers field option values).value = false
    (withheld rules ↔ ¬ ValueRule.ShownFirst rules field option values) ∧
      ((∀ rules', rules'.Perm rules → withheld rules') ↔
        ∀ rule ∈ rules, rule.Shows field option → (rule.matches values).value = false) := by
  intro withheld
  have hexact : ∀ rules' : List ValueRule, rules'.Perm rules →
      (withheld rules' ↔ ¬ ValueRule.ShownFirst rules' field option values) := by
    intro rules' hperm
    obtain ⟨rule, hin, hhides⟩ := hhidden
    have hsome : ¬ ∀ rule ∈ rules', ¬ rule.Shows field option ∧ ¬ rule.Hides field option values :=
      fun h => (h rule (hperm.mem_iff.2 hin)).2 hhides
    let r : Resolver := { (Resolver.ofRules fieldRules rules').value with defaults }
    have hgraph : r.graph = Graph.ofRules fieldRules rules' :=
      congrArg (·.graph) (Resolver.value_ofRules fieldRules rules')
    have hiff := @Resolver.offers_iff rules' field option values r
      (hgraph ▸ Graph.valueRulesOn_ofRules fieldRules rules' field)
    rw [or_iff_left hsome] at hiff
    rw [← hiff, Bool.not_eq_true]
  refine ⟨hexact rules (.refl rules), ?_⟩
  constructor
  · intro hall rule hin hshows
    by_contra hmatches
    -- the rule decides where it stands in front
    have hperm := (List.perm_cons_erase hin).symm
    refine (hexact _ hperm).1 (hall _ hperm) ⟨[], rule, _, rfl, hshows, ?_, by simp⟩
    rwa [Bool.not_eq_false] at hmatches
  · rintro hnone rules' hperm
    rw [hexact rules' hperm]
    rintro ⟨before, rule, after, rfl, hshows, hmatches, -⟩
    rw [hnone rule (hperm.mem_iff.1 (by simp)) hshows] at hmatches
    cases hmatches

/-- The rule for the elderly stands before the one for the plan, and both match. -/
theorem hidden_option_withheld_elderly :
    let gold : ValueRule := {
      trigger := "PLAN", triggerValue := "GOLD", target := "TERM", targetValue := "40"
      action := .show }
    let elderly : ValueRule := {
      trigger := "AGE", target := "TERM", targetValue := "40", action := .hide
      gate := "@AGE > 65" }
    let values : Dict String := Dict.ofPairs [("AGE", "70"), ("PLAN", "GOLD")]
    let r : Resolver := { (Resolver.ofRules [] [elderly, gold]).value with defaults := {} }
    (∃ rule ∈ [elderly, gold], rule.Hides "TERM" "40" values) ∧
      ¬ ValueRule.ShownFirst [elderly, gold] "TERM" "40" values ∧
      (r.offers "TERM" "40" values).value = false := by
  intro gold elderly values r
  have hhidden : ∃ rule ∈ [elderly, gold], rule.Hides "TERM" "40" values := by decide +kernel
  have hfirst : ¬ ValueRule.ShownFirst [elderly, gold] "TERM" "40" values := by decide +kernel
  exact ⟨hhidden, hfirst, (hidden_option_withheld [] {} hhidden).1.2 hfirst⟩

/-- Behind the rule for the plan the one for the elderly is not asked. -/
theorem hidden_option_offered :
    let gold : ValueRule := {
      trigger := "PLAN", triggerValue := "GOLD", target := "TERM", targetValue := "40"
      action := .show }
    let elderly : ValueRule := {
      trigger := "AGE", triggerValue := "70", target := "TERM", targetValue := "40"
      action := .hide }
    let values : Dict String := Dict.ofPairs [("AGE", "70"), ("PLAN", "GOLD")]
    let r : Resolver := (Resolver.ofRules [] [gold, elderly]).value
    elderly.Hides "TERM" "40" values ∧ (r.offers "TERM" "40" values).value = true := by
  decide +kernel

end FormLogic
