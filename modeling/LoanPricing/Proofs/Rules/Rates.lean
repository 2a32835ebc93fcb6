import LoanPricing.Proofs.Decimal.Arithmetic
import LoanPricing.Proofs.Rules.Facts
import LoanPricing.Proofs.Rules.Origins

/-!
# Rates — numbers stay numbers

A rate may grow beyond all doubles and be infinite from then on. It would be no number only after an
infinity is added to the opposite one. But what compiled rules add is finite, in either direction,
and a finite number may be added to anything. The main statement says so of any number of
evaluations, one after another.
-/

namespace LoanPricing

/-- Whether all that a rule can add to a rate is finite. -/
def Rule.AddsFinite (r : Rule) : Prop :=
  ∀ x, r.action.delta? = some x → x.isFinite = true

theorem RuleSet.addsFinite_of_compile {mode : Mode} {records : List RuleRecord} {set : RuleSet}
    (h : (RuleSet.compile mode records).value = .ok set) : ∀ r ∈ set.rules, r.AddsFinite := by
  have harises : set.Arises fun _ => True := .compile trivial h
  exact fun r hr => (harises.isWellFormed r hr).delta

/-! ## 1. One rule, then all rules -/

theorem Action.isNaN_apply {a : Action} {p : Product}
    (ha : ∀ x, a.delta? = some x → x.isFinite = true) (hp : p.interestRate.isNaN = false) :
    (a.apply p).interestRate.isNaN = false := by
  cases a with
  | disqualify => exact hp
  | adjustRate way amount => exact Decimal.isNaN_add hp (ha _ rfl)
  | unknown tag => exact hp

theorem Rule.isNaN_after {r : Rule} (v : Verdict) {p : Product} (hr : r.AddsFinite)
    (hp : p.interestRate.isNaN = false) : (r.after v p).interestRate.isNaN = false := by
  cases v with
  | applied => exact Action.isNaN_apply hr hp
  | skipped => exact hp
  | notMatched => exact hp
  | noEffect => exact hp

theorem isNaN_visitAll {rs : List Rule} {p : Product} (hrs : ∀ r ∈ rs, r.AddsFinite)
    (hp : p.interestRate.isNaN = false) : (visitAll rs p).2.interestRate.isNaN = false := by
  induction rs generalizing p with
  | nil => exact hp
  | cons r rs ih =>
    obtain ⟨hr, hrs⟩ := List.forall_mem_cons.mp hrs
    rw [visitAll_cons_snd]
    exact ih hrs (Rule.isNaN_after _ hr hp)

/-! ## 2. Evaluations after evaluations -/

theorem isNaN_evaluate {tracing : Bool} {rules : Option RuleSet} {p : Product}
    (hrules : ∀ set, rules = some set → ∀ r ∈ set.rules, r.AddsFinite)
    (hp : p.interestRate.isNaN = false) :
    (evaluate tracing rules p).value.product.interestRate.isNaN = false := by
  cases rules with
  | none => exact hp
  | some set =>
    rw [evaluate_value]
    exact isNaN_visitAll (hrules set rfl) hp

/-- **Compiled rules never make a rate that is no number.** After any number of evaluations by
compiled rule sets, in either mode, and by none in between, a rate that was a number or infinite is
one of these. -/
theorem isNaN_evaluatedBy {sets : List (Option RuleSet)}
    (hsets : ∀ set, some set ∈ sets →
      ∃ mode records, (RuleSet.compile mode records).value = .ok set)
    {p : Product} (hp : p.interestRate.isNaN = false) (tracing : Bool) :
    (p.evaluatedBy tracing sets).interestRate.isNaN = false := by
  induction sets generalizing p with
  | nil => exact hp
  | cons rules sets ih =>
    have hrules : ∀ set, rules = some set → ∀ r ∈ set.rules, r.AddsFinite := by
      rintro set rfl
      obtain ⟨mode, records, hcompile⟩ := hsets set List.mem_cons_self
      exact RuleSet.addsFinite_of_compile hcompile
    exact ih (fun set hset => hsets set (List.mem_cons_of_mem _ hset)) (isNaN_evaluate hrules hp)

/-- A rate that overflows and is then reduced: it stays infinite, in this evaluation and in the
next. -/
theorem isNaN_evaluatedBy_overflow :
    let records : List RuleRecord :=
      [⟨"CreditScore720", "IncreaseInterest", 1e308⟩, ⟨"CreditScore720", "ReduceInterest", 1e308⟩]
    let p : Product := { name := "", interestRate := 1e308, state := "", creditScore := 720 }
    ∃ set, (RuleSet.compile .strict records).value = .ok set ∧ p.interestRate.isNaN = false ∧
      (p.evaluatedBy true [some set]).interestRate.isInf = true ∧
      (p.evaluatedBy true [some set, none, some set]).interestRate.isNaN = false := by
  intro records p
  have hlenient : (RuleSet.compile .lenient records).value =
      .ok { rules := RuleRecord.rulesFrom 0 records } :=
    RuleSet.compile_lenient_of_isFinite (by decide +kernel)
  have hstrict := RuleSet.compile_strict_eq_ok_iff.mpr ⟨hlenient, by decide +kernel⟩
  have hrate : p.interestRate.isNaN = false := by decide +kernel
  refine ⟨_, hstrict, hrate, by decide +kernel, ?_⟩
  refine isNaN_evaluatedBy (fun set hset => ⟨.strict, records, ?_⟩) hrate true
  simp only [List.mem_cons, reduceCtorEq, List.not_mem_nil, false_or, or_false, Option.some.injEq,
    or_self] at hset
  rw [hset]
  exact hstrict

-- Rules that are not compiled may add an infinity and take it away again.
example :
    let set : RuleSet := { rules := [⟨0, .creditScoreAtLeast 0, .adjustRate .up (1 / 0)⟩,
      ⟨1, .creditScoreAtLeast 0, .adjustRate .down (1 / 0)⟩] }
    let p : Product := { name := "", interestRate := 5, state := "", creditScore := 720 }
    (p.evaluatedBy false [some set]).interestRate.isNaN = true := by decide +kernel

end LoanPricing
