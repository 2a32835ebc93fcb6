import LoanPricing.Proofs.Rules.Visits
import LoanPricing.Session

/-!
# Sessions — one product among the steps of many

In a session rule sets come and go, are shared and picked from, and meet all kinds of products. A
product to which nothing is done but applying rules does not notice any of this. What becomes of it,
and all that is reported about it, is what one evaluation makes of it: the one by the rules that it
met, in the order in which it met them.
-/

namespace LoanPricing

/-! ## 1. Evaluations one after another -/

/-- The rules of a rule set; none if there is no rule set. -/
def rulesOf : Option RuleSet → List Rule
  | some set => set.rules
  | none => []

/-- What a report says about rules that were there. -/
def Report.ruleDiagnostics (r : Report) : List Diagnostic :=
  r.diagnostics.filter fun d => d ≠ .rulesNotLoaded

/-- Reports as one, apart from what they say about missing rule sets. -/
def Report.joined (reports : List Report) : Report where
  rulesEvaluated := reports.foldr (fun r total => r.rulesEvaluated + total) 0
  matchedRules := reports.flatMap Report.matchedRules
  diagnostics := reports.flatMap Report.ruleDiagnostics
  trace := reports.flatMap Report.trace

theorem Report.ruleDiagnostics_ofVisits (tracing : Bool) (visits : List Visit) :
    (ofVisits tracing visits).ruleDiagnostics = (ofVisits tracing visits).diagnostics := by
  refine List.filter_eq_self.mpr fun d hd => ?_
  obtain ⟨v, -, hv⟩ := List.mem_filterMap.mp hd
  exact decide_eq_true (Visit.diagnostic?_ne_rulesNotLoaded hv)

/-- The visits of a report, and reports on later ones. -/
theorem Report.joined_ofVisits_cons (tracing : Bool) (visits later : List Visit)
    {reports : List Report} (h : joined reports = ofVisits tracing later) :
    joined (ofVisits tracing visits :: reports) = ofVisits tracing (visits ++ later) := by
  obtain ⟨hevaluated, hmatched, hdiagnostics, htrace⟩ := Report.mk.inj h
  unfold joined
  rw [List.foldr_cons, List.flatMap_cons, List.flatMap_cons, List.flatMap_cons,
    hevaluated, hmatched, hdiagnostics, htrace, ruleDiagnostics_ofVisits]
  cases tracing <;> simp [ofVisits]

theorem Report.joined_withoutRules_cons (reports : List Report) :
    joined (withoutRules :: reports) = joined reports := by
  simp [joined, withoutRules, ruleDiagnostics]

theorem evaluate_none (tracing : Bool) (p : Product) :
    (evaluate tracing none p).value = { report := .withoutRules, product := p } := rfl

theorem evaluate_some (tracing : Bool) (rs : List Rule) (p : Product) :
    (evaluate tracing (some { rules := rs }) p).value =
      { report := .ofVisits tracing (visitAll rs p).1, product := (visitAll rs p).2 } := rfl

/-- An evaluation, and one of its product by further rules, are one evaluation by the rules of
both. -/
theorem evaluate_append {tracing : Bool} {set : Option RuleSet} {rs : List Rule} {p q : Product}
    {reports : List Report}
    (h : (evaluate tracing (some { rules := rs }) (evaluate tracing set p).value.product).value =
      { report := .joined reports, product := q }) :
    (evaluate tracing (some { rules := rulesOf set ++ rs }) p).value =
      { report := .joined ((evaluate tracing set p).value.report :: reports), product := q } := by
  cases set with
  | none =>
    -- all that is reported is that there are no rules, which does not count
    rw [evaluate_none] at h ⊢
    rw [Report.joined_withoutRules_cons]
    exact h
  | some set =>
    rw [evaluate_some] at h ⊢
    obtain ⟨hreport, hproduct⟩ := Evaluation.mk.inj h
    rw [rulesOf, evaluate_some, visitAll_append, ← hproduct]
    rw [evaluate_some, Report.joined_ofVisits_cons tracing _ _ hreport.symm]
    rfl

namespace Session

variable {s t : Session} {id : String} {tracing : Bool} {p : Product} {step : Step}

/-! ## 2. What a step does -/

/-- What a step puts into a slot, and into which one. -/
def Step.put? (sets : String → Option RuleSet) : Step → Option (String × Option RuleSet)
  | .load slot text mode => some (slot, (RuleSet.load mode text).value.toOption)
  | .loadOrReport slot disk path mode => some (slot, (RuleSet.loadOrReport mode disk path).value)
  | .compile slot records mode => some (slot, (RuleSet.compile mode records).value.toOption)
  | .share slot source => some (slot, sets source)
  | .select slot source positions =>
    (sets source).map fun set => (slot, some (set.select positions))
  | .unload slot => some (slot, none)
  | _ => none

theorem sets_settle (s : Session) (slot : String) (result : Except RuleError RuleSet) :
    (s.settle slot result).2.sets = (s.setSlot slot result.toOption).sets := by
  cases result <;> rfl

theorem products_settle (s : Session) (slot : String) (result : Except RuleError RuleSet) :
    (s.settle slot result).2.products = s.products := by
  cases result <;> rfl

theorem sets_withSet (slot : String) {f : RuleSet → Reply × Session}
    (h : ∀ set, (f set).2.sets = s.sets) : (s.withSet slot f).2.sets = s.sets := by
  unfold withSet
  cases s.sets slot with
  | none => rfl
  | some set => exact h set

theorem sets_withProduct (id : String) {f : Product → Reply × Session}
    (h : ∀ p, (f p).2.sets = s.sets) : (s.withProduct id f).2.sets = s.sets := by
  unfold withProduct
  cases s.products id with
  | none => rfl
  | some p => exact h p

theorem products_withSet (slot : String) {f : RuleSet → Reply × Session}
    (h : ∀ set, (f set).2.products id = s.products id) :
    (s.withSet slot f).2.products id = s.products id := by
  unfold withSet
  cases s.sets slot with
  | none => rfl
  | some set => exact h set

theorem products_withProduct (name : String) {f : Product → Reply × Session}
    (h : ∀ p, (f p).2.products id = s.products id) :
    (s.withProduct name f).2.products id = s.products id := by
  unfold withProduct
  cases s.products name with
  | none => rfl
  | some p => exact h p

theorem products_setProduct_self (s : Session) (id : String) (p : Product) :
    (s.setProduct id p).products id = some p :=
  if_pos rfl

theorem products_setProduct_of_ne (s : Session) {name : String} (p : Product) (h : name ≠ id) :
    (s.setProduct name p).products id = s.products id :=
  if_neg h.symm

/-- What a step puts into a slot is all that it changes about the slots. -/
theorem sets_step (s : Session) (step : Step) :
    (s.step step).value.2.sets =
      match step.put? s.sets with
      | some (slot, set) => (s.setSlot slot set).sets
      | none => s.sets := by
  cases step with
  | load slot text mode => exact s.sets_settle slot _
  | loadOrReport slot disk path mode => rfl
  | compile slot records mode => exact s.sets_settle slot _
  | share slot source => rfl
  | select slot source positions =>
    simp only [Session.step, withSet, Step.put?, Log.Logged.value_pure]
    cases s.sets source <;> rfl
  | unload slot => rfl
  | inspect slot => exact sets_withSet slot fun _ => rfl
  | get slot position => exact sets_withSet slot fun _ => rfl
  | product id p => rfl
  | copy id target => exact sets_withProduct id fun _ => rfl
  | same id other => exact sets_withProduct id fun _ => sets_withProduct other fun _ => rfl
  | edit id edit => exact sets_withProduct id fun _ => rfl
  | holds id condition => exact sets_withProduct id fun _ => rfl
  | act id action => exact sets_withProduct id fun _ => rfl
  | apply slot id tracing =>
    simp only [Session.step, Step.put?]
    cases s.products id <;> rfl
  | json id => exact sets_withProduct id fun _ => rfl

theorem sets_step_of_put {slot : String} {set : Option RuleSet}
    (h : step.put? s.sets = some (slot, set)) :
    (s.step step).value.2.sets = (s.setSlot slot set).sets := by
  rw [sets_step, h]

theorem sets_step_of_put_none (h : step.put? s.sets = none) :
    (s.step step).value.2.sets = s.sets := by
  rw [sets_step, h]

/-- Whether a step applies rules to a product. -/
def Step.applies (id : String) : Step → Bool
  | .apply _ name _ => name == id
  | _ => false

/-- Whether a step does nothing to a product, or nothing but apply rules to it. -/
def Step.OnlyApplies (id : String) (tracing : Bool) : Step → Prop
  | .product name _ => name ≠ id
  | .copy _ target => target ≠ id
  | .edit name _ => name ≠ id
  | .act name _ => name ≠ id
  | .apply _ name traced => name = id → traced = tracing
  | _ => True

theorem products_step (hstep : step.OnlyApplies id tracing) (hother : step.applies id = false) :
    (s.step step).value.2.products id = s.products id := by
  cases step with
  | load slot text mode => exact congrFun (s.products_settle slot _) id
  | loadOrReport slot disk path mode => rfl
  | compile slot records mode => exact congrFun (s.products_settle slot _) id
  | share slot source => rfl
  | select slot source positions => exact products_withSet source fun _ => rfl
  | unload slot => rfl
  | inspect slot => exact products_withSet slot fun _ => rfl
  | get slot position => exact products_withSet slot fun _ => rfl
  | product name p => exact s.products_setProduct_of_ne p hstep
  | copy name target =>
    exact products_withProduct name fun p => s.products_setProduct_of_ne p hstep
  | same name other =>
    exact products_withProduct name fun _ => products_withProduct other fun _ => rfl
  | edit name edit => exact products_withProduct name fun p => s.products_setProduct_of_ne _ hstep
  | holds name condition => exact products_withProduct name fun _ => rfl
  | act name action => exact products_withProduct name fun p => s.products_setProduct_of_ne _ hstep
  | apply slot name tracing =>
    simp only [Session.step]
    cases s.products name with
    | none => rfl
    | some p => exact s.products_setProduct_of_ne _ (ne_of_beq_false hother)
  | json name => exact products_withProduct name fun _ => rfl

/-! ## 3. The story of a product -/

/-- The session after some steps. -/
def after (s : Session) : List Step → Session
  | [] => s
  | step :: steps => (s.step step).value.2.after steps

/-- The rules that a step applies to a product. -/
def rulesMet (id : String) (s : Session) : Step → List Rule
  | .apply slot name _ => if name = id then rulesOf (s.sets slot) else []
  | _ => []

/-- The rules that steps apply to a product, each step those that are in its slot by then. -/
def allRulesMet (id : String) (s : Session) : List Step → List Rule
  | [] => []
  | step :: steps => s.rulesMet id step ++ (s.step step).value.2.allRulesMet id steps

/-- The report on a product in the reply to a step that applies rules to it. -/
def Reply.report? (id : String) : Step → Reply → Option Report
  | .apply _ name _, .evaluation e => if name = id then some e.report else none
  | _, _ => none

/-- What steps come to for one product. -/
structure Story where
  /-- The rules that are applied to it. -/
  rules : List Rule
  /-- The reports on it among the replies. -/
  reports : List Report
  /-- What becomes of it. -/
  product : Option Product

def storyOf (id : String) (s : Session) (steps : List Step) : Story where
  rules := s.allRulesMet id steps
  reports := (steps.zip (s.run steps).value).filterMap fun answered =>
    answered.2.report? id answered.1
  product := (s.after steps).products id

/-- A story with something before it. -/
def Story.preceded (story : Story) (rules : List Rule) (reports : List Report) : Story where
  rules := rules ++ story.rules
  reports := reports ++ story.reports
  product := story.product

theorem run_cons (s : Session) (step : Step) (steps : List Step) :
    (s.run (step :: steps)).value =
      (s.step step).value.1 :: ((s.step step).value.2.run steps).value := rfl

/-- A story goes on with what the steps after the first one come to. -/
theorem storyOf_cons (id : String) (s : Session) (step : Step) (steps : List Step) :
    s.storyOf id (step :: steps) =
      ((s.step step).value.2.storyOf id steps).preceded (s.rulesMet id step)
        ((s.step step).value.1.report? id step).toList := by
  unfold storyOf Story.preceded
  rw [run_cons, List.zip_cons_cons, List.filterMap_cons]
  cases (s.step step).value.1.report? id step <;> rfl

theorem exists_apply (hstep : step.OnlyApplies id tracing) (happlies : step.applies id = true) :
    ∃ slot, step = .apply slot id tracing := by
  cases step with
  | apply slot name traced =>
    have hname : name = id := eq_of_beq happlies
    exact ⟨slot, by rw [hname, hstep hname]⟩
  | _ => exact absurd happlies Bool.false_ne_true

theorem step_apply (hp : s.products id = some p) (slot : String) (tracing : Bool) :
    let e := (evaluate tracing (s.sets slot) p).value
    (s.step (.apply slot id tracing)).value = (.evaluation e, s.setProduct id e.product) := by
  simp only [Session.step, hp]
  rfl

theorem rulesMet_of_not_applies (s : Session) (h : step.applies id = false) :
    s.rulesMet id step = [] := by
  cases step with
  | apply slot name traced => exact if_neg (ne_of_beq_false h)
  | _ => rfl

theorem report?_of_not_applies (reply : Reply) (h : step.applies id = false) :
    reply.report? id step = none := by
  cases step with
  | apply slot name traced =>
    cases reply with
    | evaluation e => exact if_neg (ne_of_beq_false h)
    | _ => rfl
  | _ => rfl

/-- A step that applies no rules to a product adds nothing to its story. -/
theorem storyOf_cons_of_not_applies (s : Session) (h : step.applies id = false)
    (steps : List Step) :
    s.storyOf id (step :: steps) = (s.step step).value.2.storyOf id steps := by
  rw [storyOf_cons, rulesMet_of_not_applies s h, report?_of_not_applies _ h]
  rfl

theorem storyOf_cons_apply (hp : s.products id = some p) (slot : String) (tracing : Bool)
    (steps : List Step) :
    let e := (evaluate tracing (s.sets slot) p).value
    s.storyOf id (.apply slot id tracing :: steps) =
      ((s.setProduct id e.product).storyOf id steps).preceded (rulesOf (s.sets slot))
        [e.report] := by
  rw [storyOf_cons, step_apply hp, rulesMet, if_pos rfl, Reply.report?, if_pos rfl]
  rfl

/-- What becomes of a product to which only rules are applied is what one evaluation makes of it,
by all the rules that it meets. -/
theorem exists_evaluate_story {steps : List Step}
    (hsteps : ∀ step ∈ steps, step.OnlyApplies id tracing) (hp : s.products id = some p) :
    ∃ q, (s.storyOf id steps).product = some q ∧
      (evaluate tracing (some { rules := (s.storyOf id steps).rules }) p).value =
        { report := .joined (s.storyOf id steps).reports, product := q } := by
  induction steps generalizing s p with
  | nil => exact ⟨p, hp, by cases tracing <;> rfl⟩
  | cons step steps ih =>
    obtain ⟨hstep, hrest⟩ := List.forall_mem_cons.mp hsteps
    -- the steps after this one go on with the product that it leaves
    cases happlies : step.applies id with
    | false =>
      rw [storyOf_cons_of_not_applies s happlies]
      exact ih hrest ((products_step hstep happlies).trans hp)
    | true =>
      obtain ⟨slot, rfl⟩ := exists_apply hstep happlies
      rw [storyOf_cons_apply hp]
      obtain ⟨q, hq, hlater⟩ := ih hrest (products_setProduct_self s id _)
      exact ⟨q, hq, evaluate_append hlater⟩

/-! ## 4. What a story does not depend on -/

/-- The slot out of which a step takes rules for a product or for another slot. -/
def Step.source? (id : String) : Step → Option String
  | .share _ source => some source
  | .select _ source _ => some source
  | .apply slot name _ => if name = id then some slot else none
  | _ => none

/-- The slot into which a step puts something in any case. -/
def Step.filled? : Step → Option String
  | .load slot _ _ => some slot
  | .loadOrReport slot _ _ _ => some slot
  | .compile slot _ _ => some slot
  | .share slot _ => some slot
  | .unload slot => some slot
  | _ => none

/-- The slot into which a step puts something if at all. -/
def Step.target? : Step → Option String
  | .select slot _ _ => some slot
  | step => step.filled?

/-- Whether nothing is taken out of a slot for a product or for another slot until something else
is put there. -/
def Unnoticed (id slot : String) : List Step → Prop
  | [] => True
  | step :: steps =>
    step.source? id ≠ some slot ∧ (step.filled? = some slot ∨ Unnoticed id slot steps)

/-- Two sessions that agree on a product, and on all slots but perhaps a hidden one. -/
structure Alike (hidden : Option String) (id : String) (s t : Session) : Prop where
  sets : ∀ name, hidden ≠ some name → s.sets name = t.sets name
  product : s.products id = t.products id

theorem Step.put?_congr {sets sets' : String → Option RuleSet}
    (h : ∀ source, step.source? id = some source → sets source = sets' source) :
    step.put? sets = step.put? sets' := by
  cases step with
  | share slot source => exact congrArg (fun set => some (slot, set)) (h source rfl)
  | select slot source positions =>
    exact congrArg (Option.map fun set => (slot, some (set.select positions))) (h source rfl)
  | _ => rfl

theorem Step.exists_put_of_filled {slot : String} (h : step.filled? = some slot)
    (sets : String → Option RuleSet) : ∃ set, step.put? sets = some (slot, set) := by
  cases step with
  | load name text mode => exact ⟨_, congrArg (Option.map (·, _)) h⟩
  | loadOrReport name disk path mode => exact ⟨_, congrArg (Option.map (·, _)) h⟩
  | compile name records mode => exact ⟨_, congrArg (Option.map (·, _)) h⟩
  | share name source => exact ⟨_, congrArg (Option.map (·, _)) h⟩
  | unload name => exact ⟨_, congrArg (Option.map (·, _)) h⟩
  | _ => injection h

theorem Step.target_of_put {sets : String → Option RuleSet} {slot : String} {set : Option RuleSet}
    (h : step.put? sets = some (slot, set)) : step.target? = some slot := by
  cases step with
  | load name text mode => exact congrArg (Option.map Prod.fst) h
  | loadOrReport name disk path mode => exact congrArg (Option.map Prod.fst) h
  | compile name records mode => exact congrArg (Option.map Prod.fst) h
  | share name source => exact congrArg (Option.map Prod.fst) h
  | unload name => exact congrArg (Option.map Prod.fst) h
  | select name source positions =>
    obtain ⟨chosen, -, hput⟩ := Option.map_eq_some_iff.mp h
    exact congrArg (fun put => some put.1) hput
  | _ => injection h

namespace Alike

variable {hidden : Option String}

/-- A step that takes nothing out of the hidden slot leaves sessions alike, and if it fills the
hidden slot they are alike without exception. -/
theorem sets_step (h : Alike hidden id s t) (hsource : ∀ slot ∈ hidden, step.source? id ≠ some slot)
    (name : String) (hname : (hidden.filter fun slot => step.filled? ≠ some slot) ≠ some name) :
    (s.step step).value.2.sets name = (t.step step).value.2.sets name := by
  have hput : step.put? s.sets = step.put? t.sets :=
    Step.put?_congr fun source hs => h.sets source fun hh => hsource source hh hs
  -- the hidden slot is looked at only if the step fills it
  have hfilled : hidden = some name → step.filled? = some name := by
    intro hh
    refine Decidable.byContradiction fun hne => hname ?_
    simp only [hh, Option.filter, decide_eq_true hne, if_true]
  cases hnew : step.put? t.sets with
  | none =>
    rw [sets_step_of_put_none (hput.trans hnew), sets_step_of_put_none hnew]
    refine h.sets name fun hh => ?_
    obtain ⟨set, hset⟩ := Step.exists_put_of_filled (hfilled hh) t.sets
    exact absurd (hnew.symm.trans hset) (Option.some_ne_none _).symm
  | some put =>
    obtain ⟨slot, set⟩ := put
    rw [sets_step_of_put (hput.trans hnew), sets_step_of_put hnew]
    by_cases hslot : name = slot
    · rw [hslot, sets_setSlot_self, sets_setSlot_self]
    · rw [sets_setSlot_of_ne _ _ hslot, sets_setSlot_of_ne _ _ hslot]
      refine h.sets name fun hh => hslot ?_
      obtain ⟨set', hset'⟩ := Step.exists_put_of_filled (hfilled hh) t.sets
      exact (Prod.mk.inj (Option.some.inj (hset'.symm.trans hnew))).1

/-- Sessions that are alike apply the same rules to the product, with the same result. -/
theorem apply (h : Alike hidden id s t) (hstep : step.OnlyApplies id tracing)
    (hsource : ∀ slot ∈ hidden, step.source? id ≠ some slot) :
    s.rulesMet id step = t.rulesMet id step ∧
      (s.step step).value.1.report? id step = (t.step step).value.1.report? id step ∧
      (s.step step).value.2.products id = (t.step step).value.2.products id := by
  cases happlies : step.applies id with
  | false =>
    rw [rulesMet_of_not_applies s happlies, rulesMet_of_not_applies t happlies,
      report?_of_not_applies _ happlies, report?_of_not_applies _ happlies,
      products_step hstep happlies, products_step hstep happlies]
    exact ⟨rfl, rfl, h.product⟩
  | true =>
    obtain ⟨slot, rfl⟩ := exists_apply hstep happlies
    have hslot : s.sets slot = t.sets slot :=
      h.sets slot fun hh => hsource slot hh (if_pos rfl)
    have hrules : s.rulesMet id (.apply slot id tracing) = t.rulesMet id (.apply slot id tracing) := by
      rw [rulesMet, rulesMet, hslot]
    refine ⟨hrules, ?_⟩
    cases hp : t.products id with
    | none =>
      have hs := h.product.trans hp
      simp only [Session.step, hs, hp, Log.Logged.value_pure]
      exact ⟨trivial, trivial⟩
    | some p =>
      rw [step_apply (h.product.trans hp), step_apply hp, hslot, products_setProduct_self,
        products_setProduct_self]
      exact ⟨rfl, rfl⟩

theorem after_step (h : Alike hidden id s t) (hstep : step.OnlyApplies id tracing)
    (hsource : ∀ slot ∈ hidden, step.source? id ≠ some slot) :
    Alike (hidden.filter fun slot => step.filled? ≠ some slot) id (s.step step).value.2
      (t.step step).value.2 :=
  ⟨h.sets_step hsource, (h.apply hstep hsource).2.2⟩

/-- Sessions that are alike tell one story, if nothing is taken out of the hidden slot. -/
theorem storyOf (h : Alike hidden id s t) {steps : List Step}
    (hsteps : ∀ step ∈ steps, step.OnlyApplies id tracing)
    (hhidden : ∀ slot ∈ hidden, Unnoticed id slot steps) :
    s.storyOf id steps = t.storyOf id steps := by
  induction steps generalizing s t hidden with
  | nil =>
    simp only [Session.storyOf, after, h.product]
    rfl
  | cons step steps ih =>
    obtain ⟨hstep, hrest⟩ := List.forall_mem_cons.mp hsteps
    have hsource : ∀ slot ∈ hidden, step.source? id ≠ some slot :=
      fun slot hslot => (hhidden slot hslot).1
    obtain ⟨hrules, hreport, -⟩ := h.apply hstep hsource
    rw [storyOf_cons, storyOf_cons, hrules, hreport, ih (h.after_step hstep hsource) hrest]
    -- a slot that is hidden after the step has not been filled by it
    intro slot hslot
    obtain ⟨hslot, hfilled⟩ := Option.mem_filter_iff.mp hslot
    exact (hhidden slot hslot).2.resolve_left (of_decide_eq_true hfilled)

/-- A step that applies no rules to a product changes at most one slot. -/
theorem of_step (s : Session) (hstep : step.OnlyApplies id tracing)
    (hother : step.applies id = false) : Alike step.target? id (s.step step).value.2 s := by
  refine ⟨fun name hname => ?_, products_step hstep hother⟩
  cases hput : step.put? s.sets with
  | none => rw [sets_step_of_put_none hput]
  | some put =>
    obtain ⟨slot, set⟩ := put
    rw [sets_step_of_put hput]
    refine sets_setSlot_of_ne s set ?_
    rintro rfl
    exact hname (Step.target_of_put hput)

end Alike

/-- A step that applies no rules to a product is not noticed in its story, if what it puts into a
slot is not taken out again. -/
theorem storyOf_insert {before later : List Step}
    (hbefore : ∀ other ∈ before, other.OnlyApplies id tracing)
    (hlater : ∀ other ∈ later, other.OnlyApplies id tracing)
    (hstep : step.OnlyApplies id tracing) (hother : step.applies id = false)
    (htarget : ∀ slot ∈ step.target?, Unnoticed id slot later) (s : Session) :
    s.storyOf id (before ++ step :: later) = s.storyOf id (before ++ later) := by
  induction before generalizing s with
  | nil =>
    rw [List.nil_append, List.nil_append, storyOf_cons_of_not_applies s hother]
    exact (Alike.of_step s hstep hother).storyOf hlater htarget
  | cons first before ih =>
    rw [List.cons_append, List.cons_append, storyOf_cons, storyOf_cons,
      ih (List.forall_mem_cons.mp hbefore).2]

/-! ## 5. One evaluation -/

/-- **Rule sets are met in sequence.** When steps do nothing to a product but apply rules to it, the
product comes out as from one evaluation by the rules of all of them, each with the rules that were
in its slot at its moment, and the report of that evaluation is their reports in one. A step among
them that applies no rules to the product may as well be left out, unless what it puts into a slot
is taken out again before something else is put there. -/
theorem evaluate_story {steps : List Step} (hsteps : ∀ step ∈ steps, step.OnlyApplies id tracing)
    (hp : s.products id = some p) :
    (∃ q, (s.after steps).products id = some q ∧
      (evaluate tracing (some { rules := s.allRulesMet id steps }) p).value =
        { report := .joined (s.storyOf id steps).reports, product := q }) ∧
    ∀ before step later, steps = before ++ step :: later → step.applies id = false →
      (∀ slot ∈ step.target?, Unnoticed id slot later) →
      s.storyOf id steps = s.storyOf id (before ++ later) := by
  refine ⟨exists_evaluate_story hsteps hp, ?_⟩
  rintro before step later rfl hother htarget
  obtain ⟨hbefore, hfrom⟩ := List.forall_mem_append.mp hsteps
  obtain ⟨hstep, hlater⟩ := List.forall_mem_cons.mp hfrom
  exact storyOf_insert hbefore hlater hstep hother htarget s

/-- The rules of one slot reach a loan twice, the second time by way of another slot, when the first
one is empty again. -/
theorem evaluate_story_shared :
    let rules := [⟨0, .stateIs "florida", .adjustRate .down 0.5⟩, ⟨1, .unknown "Texas", .disqualify⟩]
    let loan : Product :=
      { name := "7-1 ARM", interestRate := 5.0, state := "Florida", creditScore := 700 }
    let s := (start.setSlot "a" (some { rules })).setProduct "loan" loan
    let before := [Step.share "b" "a", .apply "a" "loan" true]
    let later := [Step.apply "b" "loan" true, .apply "c" "loan" true]
    let steps := before ++ .unload "a" :: later
    (∃ q, (s.after steps).products "loan" = some q ∧
      (evaluate true (some { rules := rules ++ rules }) loan).value =
        { report := .joined (s.storyOf "loan" steps).reports, product := q }) ∧
      s.storyOf "loan" steps = s.storyOf "loan" (before ++ later) := by
  intro rules loan s before later steps
  have hsteps : ∀ step ∈ steps, step.OnlyApplies "loan" true := by
    simp [steps, before, later, Step.OnlyApplies]
  have hunnoticed : Unnoticed "loan" "a" later := by
    simp [later, Unnoticed, Step.source?]
  obtain ⟨hone, hless⟩ := evaluate_story hsteps (rfl : s.products "loan" = some loan)
  refine ⟨hone, hless before (.unload "a") later rfl rfl ?_⟩
  rintro slot hslot
  rwa [← Option.some.inj hslot]

end Session

end LoanPricing
