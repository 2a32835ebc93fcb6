import LoanPricing.Proofs.Decimal.Negation
import LoanPricing.Proofs.Rules.Loading
import LoanPricing.Proofs.Rules.Snapshot
import LoanPricing.Proofs.Rules.Strict
import LoanPricing.Proofs.Sessions

/-!
# Origins — the rule sets that can come about

Rules come about by compiling records or loading a text, and a rule set may also be put together of
rules that are in others, in any order and as often as one likes. Nothing else makes rules. So what
holds of all rules that compilation makes holds of all rules there are: that what they add to a rate
is finite, and that no tag of the vocabulary is taken for an unknown one. The main statement is
about rule sets of all such origins, and says that a session holds no others.
-/

namespace LoanPricing

/-! ## 1. Where rule sets come from -/

/-- The rule sets that come about when compiling and loading happen in the given modes only. A copy
of a rule set is the same rule set. -/
inductive RuleSet.Arises (modes : Mode → Prop) : RuleSet → Prop where
  | compile {mode : Mode} {records : List RuleRecord} {set : RuleSet} (hmode : modes mode)
      (h : (RuleSet.compile mode records).value = .ok set) : Arises modes set
  | load {mode : Mode} {text : String} {set : RuleSet} (hmode : modes mode)
      (h : (RuleSet.load mode text).value = .ok set) : Arises modes set
  /-- Each pick is a rule set and a position, which may have no rule. -/
  | gather (picks : List (RuleSet × Nat)) (h : ∀ pick ∈ picks, Arises modes pick.1) :
      Arises modes { rules := picks.filterMap fun pick => pick.1.get? pick.2 }

variable {modes : Mode → Prop} {set : RuleSet}

/-- What holds of all rules that are compiled holds of all rules there are. -/
theorem RuleSet.Arises.forall_rules {P : Rule → Prop} (h : set.Arises modes)
    (hcompile : ∀ {mode : Mode} {records : List RuleRecord} {set : RuleSet}, modes mode →
      (RuleSet.compile mode records).value = .ok set → ∀ r ∈ set.rules, P r) :
    ∀ r ∈ set.rules, P r := by
  induction h with
  | compile hmode h => exact hcompile hmode h
  | load hmode h =>
    obtain ⟨records, -, h⟩ := RuleSet.load_eq_ok_iff.mp h
    exact hcompile hmode h
  | gather picks _ ih =>
    intro r hr
    obtain ⟨pick, hpick, hget⟩ := List.mem_filterMap.mp hr
    exact ih pick hpick r (List.mem_of_getElem? hget)

theorem RuleSet.Arises.select (h : set.Arises modes) (positions : List Nat) :
    (set.select positions).Arises modes := by
  have hselect : set.select positions =
      { rules := (positions.map fun position => (set, position)).filterMap fun pick =>
          pick.1.get? pick.2 } := by
    rw [RuleSet.select, List.filterMap_map]
    rfl
  rw [hselect]
  refine .gather _ fun pick hpick => ?_
  obtain ⟨position, -, rfl⟩ := List.mem_map.mp hpick
  exact h

/-! ## 2. What all rules have in common -/

/-- The conditions that tags name: those of the vocabulary, and tags that are not known in whatever
case. -/
def Condition.IsNamed (c : Condition) : Prop :=
  c = .stateIs "florida" ∨ c = .creditScoreAtLeast 720 ∨ c = .nameIs "7-1 arm" ∨
    ∃ tag, c = .unknown tag ∧
      Text.lower tag ∉ ["florida", "creditscore720", "productname7-1arm"]

/-- The actions that tags name, likewise. -/
def Action.IsNamed (a : Action) : Prop :=
  a = .disqualify ∨ (∃ way amount, a = .adjustRate way amount) ∨
    ∃ tag, a = .unknown tag ∧ Text.lower tag ∉ ["disqualify", "reduceinterest", "increaseinterest"]

structure Rule.IsWellFormed (r : Rule) : Prop where
  condition : r.condition.IsNamed
  action : r.action.IsNamed
  delta : ∀ x, r.action.delta? = some x → x.isFinite = true

-- A condition is not kept as an unknown tag if a known tag is spelled like it.
theorem Condition.lower_not_mem_of_ofTag {tag : String} (h : ofTag tag = .unknown tag) :
    Text.lower tag ∉ ["florida", "creditscore720", "productname7-1arm"] := by
  intro hmem
  simp only [List.mem_cons, List.not_mem_nil, or_false] at hmem
  unfold ofTag at h
  rcases hmem with hlower | hlower | hlower <;> rw [hlower] at h <;> exact Condition.noConfusion h

theorem Action.lower_not_mem_of_ofTag {tag : String} {amount : Float}
    (h : ofTag tag amount = .unknown tag) :
    Text.lower tag ∉ ["disqualify", "reduceinterest", "increaseinterest"] := by
  intro hmem
  simp only [List.mem_cons, List.not_mem_nil, or_false] at hmem
  unfold ofTag at h
  rcases hmem with hlower | hlower | hlower <;> rw [hlower] at h <;> exact Action.noConfusion h

theorem Condition.isNamed_ofTag (tag : String) : (ofTag tag).IsNamed := by
  rcases ofTag_cases tag with htag | htag | htag | htag
  · exact .inl htag
  · exact .inr (.inl htag)
  · exact .inr (.inr (.inl htag))
  · exact .inr (.inr (.inr ⟨tag, htag, lower_not_mem_of_ofTag htag⟩))

theorem Action.isNamed_ofTag (tag : String) (amount : Float) : (ofTag tag amount).IsNamed := by
  rcases ofTag_cases tag amount with htag | ⟨way, htag⟩ | htag
  · exact .inl htag
  · exact .inr (.inl ⟨way, amount, htag⟩)
  · exact .inr (.inr ⟨tag, htag, lower_not_mem_of_ofTag htag⟩)

-- Neither direction makes a finite amount an infinite one.
theorem Action.isFinite_delta {amount : Float} (h : amount.isFinite = true) (way : Direction) :
    (delta way amount).isFinite = true := by
  cases way with
  | up => exact h
  | down => exact Decimal.isFinite_neg h

theorem Action.isFinite_of_delta?_ofTag {tag : String} {amount x : Float}
    (hamount : amount.isFinite = true) (h : (ofTag tag amount).delta? = some x) :
    x.isFinite = true := by
  rcases ofTag_cases tag amount with htag | ⟨way, htag⟩ | htag
  · rw [htag] at h
    injection h
  · rw [htag] at h
    rw [← Option.some.inj h]
    exact isFinite_delta hamount way
  · rw [htag] at h
    injection h

theorem RuleRecord.isWellFormed_rule (index : Nat) {record : RuleRecord}
    (h : record.value.isFinite = true) : (record.rule index).IsWellFormed where
  condition := Condition.isNamed_ofTag record.condition
  action := Action.isNamed_ofTag record.action record.value
  delta := fun _ hdelta => Action.isFinite_of_delta?_ofTag h hdelta

theorem RuleSet.Arises.isWellFormed (h : set.Arises modes) : ∀ r ∈ set.rules, r.IsWellFormed := by
  refine h.forall_rules fun _ hcompile r hr => ?_
  obtain ⟨index, record, rfl, hfault⟩ := exists_faultless_of_compile hcompile hr
  exact RuleRecord.isWellFormed_rule index (RuleRecord.isFinite_of_fault?_eq_none hfault)

theorem RuleSet.Arises.unknownTagCount_eq_zero (h : set.Arises modes)
    (hmodes : ∀ mode, modes mode → mode = .strict) : set.unknownTagCount = 0 := by
  refine unknownTagCount_eq_zero_iff.mpr (h.forall_rules fun hmode hcompile r hr => ?_)
  rw [hmodes _ hmode] at hcompile
  obtain ⟨-, -, -, hknown⟩ := exists_rule_of_compile_strict hcompile hr
  exact hknown

/-! ## 3. Sessions -/

theorem RuleSet.Arises.of_toOption {result : Except RuleError RuleSet}
    (hresult : ∀ {set : RuleSet}, result = .ok set → set.Arises modes)
    (h : result.toOption = some set) : set.Arises modes := by
  cases result with
  | error e => injection h
  | ok set' => exact hresult (congrArg Except.ok (Option.some.inj h))

theorem RuleSet.Arises.loadFile {mode : Mode} {disk : Disk} {path : String} (hmode : modes mode)
    (h : (RuleSet.loadFile mode disk path).value = .ok set) : set.Arises modes := by
  obtain ⟨text, -, h⟩ := RuleSet.loadFile_eq_ok_iff.mp h
  exact .load hmode h

namespace Session

variable {s : Session} {step : Step} {slot : String}

/-- The mode in which a step compiles or loads. -/
def Step.mode? : Step → Option Mode
  | .load _ _ mode => some mode
  | .loadOrReport _ _ _ mode => some mode
  | .compile _ _ mode => some mode
  | _ => none

/-- Whether all rule sets that are in slots have arisen. -/
def HoldsArisen (modes : Mode → Prop) (s : Session) : Prop :=
  ∀ slot set, s.sets slot = some set → set.Arises modes

/-- What a step puts into a slot has arisen, if what was in the slots has. -/
theorem HoldsArisen.of_put (h : s.HoldsArisen modes) (hmode : ∀ mode ∈ step.mode?, modes mode)
    (hput : step.put? s.sets = some (slot, some set)) : set.Arises modes := by
  cases step with
  | load name text mode =>
    have hset : (RuleSet.load mode text).value.toOption = some set :=
      congrArg Prod.snd (Option.some.inj hput)
    exact .of_toOption (.load (hmode mode rfl)) hset
  | loadOrReport name disk path mode =>
    have hset : (RuleSet.loadOrReport mode disk path).value = some set :=
      congrArg Prod.snd (Option.some.inj hput)
    rw [RuleSet.loadOrReport_value] at hset
    exact .of_toOption (.loadFile (hmode mode rfl)) hset
  | compile name records mode =>
    have hset : (RuleSet.compile mode records).value.toOption = some set :=
      congrArg Prod.snd (Option.some.inj hput)
    exact .of_toOption (.compile (hmode mode rfl)) hset
  | share name source =>
    have hset : s.sets source = some set := congrArg Prod.snd (Option.some.inj hput)
    exact h source set hset
  | select name source positions =>
    obtain ⟨chosen, hchosen, hselect⟩ := Option.map_eq_some_iff.mp hput
    have hset : chosen.select positions = set := Option.some.inj (congrArg Prod.snd hselect)
    rw [← hset]
    exact (h source chosen hchosen).select positions
  | unload name => injection (congrArg Prod.snd (Option.some.inj hput) : none = some set)
  | _ => injection hput

theorem HoldsArisen.after_step (h : s.HoldsArisen modes) (hmode : ∀ mode ∈ step.mode?, modes mode) :
    (s.step step).value.2.HoldsArisen modes := by
  intro name set hset
  cases hput : step.put? s.sets with
  | none =>
    rw [sets_step_of_put_none hput] at hset
    exact h name set hset
  | some put =>
    obtain ⟨slot, set'⟩ := put
    rw [sets_step_of_put hput] at hset
    by_cases hname : name = slot
    · rw [hname, sets_setSlot_self] at hset
      rw [hset] at hput
      exact h.of_put hmode hput
    · rw [sets_setSlot_of_ne _ _ hname] at hset
      exact h name set hset

theorem HoldsArisen.after {steps : List Step} (h : s.HoldsArisen modes)
    (hmodes : ∀ step ∈ steps, ∀ mode ∈ step.mode?, modes mode) :
    (s.after steps).HoldsArisen modes := by
  induction steps generalizing s with
  | nil => exact h
  | cons step steps ih =>
    obtain ⟨hmode, hrest⟩ := List.forall_mem_cons.mp hmodes
    exact ih (h.after_step hmode) hrest

end Session

/-! ## 4. Rule sets of all origins -/

/-- **Every rule set is well formed.** However rule sets come about, their rules have conditions and
actions that tags name, and what they add to a rate is finite; and if only strict mode was used, no
rule has an unknown tag. The rules of a set that is compiled or loaded are where their numbers say.
What a session holds after any steps has come about in this way, in the modes of these steps. -/
theorem arises_isWellFormed :
    (∀ (modes : Mode → Prop) (set : RuleSet), set.Arises modes →
      (∀ r ∈ set.rules, r.IsWellFormed) ∧
      ((∀ mode, modes mode → mode = .strict) → set.unknownTagCount = 0)) ∧
    (∀ (mode : Mode) (set : RuleSet),
      ((∃ records, (RuleSet.compile mode records).value = .ok set) ∨
        ∃ text, (RuleSet.load mode text).value = .ok set) →
      ∀ i < set.size, ∃ r, set.get? i = some r ∧ r.index = i) ∧
    ∀ (modes : Mode → Prop) (steps : List Session.Step),
      (∀ step ∈ steps, ∀ mode ∈ step.mode?, modes mode) →
      ∀ slot set, (Session.start.after steps).sets slot = some set → set.Arises modes := by
  refine ⟨fun modes set h => ⟨h.isWellFormed, h.unknownTagCount_eq_zero⟩, ?_, ?_⟩
  · rintro mode set (⟨records, hcompile⟩ | ⟨text, hload⟩) i hi
    · exact (RuleSet.isNumbered_of_compile hcompile).exists_get? hi
    · obtain ⟨records, -, hcompile⟩ := RuleSet.load_eq_ok_iff.mp hload
      exact (RuleSet.isNumbered_of_compile hcompile).exists_get? hi
  · intro modes steps hmodes slot set hset
    have hstart : Session.start.HoldsArisen modes := fun _ _ hset => nomatch hset
    exact hstart.after hmodes slot set hset

/-- Two rules that strict mode compiles, and a choice of them in another order with one of them
twice. -/
theorem arises_isWellFormed_chosen :
    let records : List RuleRecord :=
      [⟨"FLORIDA", "ReduceInterest", 0.5⟩, ⟨"CreditScore720", "Disqualify", 0⟩]
    let steps : List Session.Step := [.compile "a" records .strict, .select "b" "a" [1, 0, 1]]
    ∃ set chosen, (RuleSet.compile .strict records).value = .ok set ∧
      (∃ r, set.get? 1 = some r ∧ r.index = 1) ∧
      (Session.start.after steps).sets "b" = some chosen ∧
      chosen.Arises (· = .strict) ∧ chosen.rules.map Rule.index = [1, 0, 1] ∧
      (∀ r ∈ chosen.rules, r.IsWellFormed) ∧ chosen.unknownTagCount = 0 := by
  intro records steps
  have hlenient : (RuleSet.compile .lenient records).value =
      .ok { rules := RuleRecord.rulesFrom 0 records } :=
    RuleSet.compile_lenient_of_isFinite (by decide)
  have hstrict := RuleSet.compile_strict_eq_ok_iff.mpr ⟨hlenient, by decide +kernel⟩
  obtain ⟨hall, hplaces, hheld⟩ := arises_isWellFormed
  have hchosen : (Session.start.after steps).sets "b" =
      some (RuleSet.select { rules := RuleRecord.rulesFrom 0 records } [1, 0, 1]) := by
    decide +kernel
  have harises := hheld (· = .strict) steps (by decide) "b" _ hchosen
  obtain ⟨hformed, hcount⟩ := hall _ _ harises
  exact ⟨_, _, hstrict, hplaces .strict _ (.inl ⟨records, hstrict⟩) 1 (by decide), hchosen, harises,
    by decide, hformed, hcount fun _ h => h⟩

end LoanPricing
