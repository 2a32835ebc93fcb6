import LoanPricing.Proofs.Rules.Loading
import LoanPricing.Proofs.Rules.Vocabulary

/-!
# First faults — which error a list of records gives

Whether a record is faulty is said here without compiling it, and so is the reason: its amount
counts before its condition tag and that before its action tag, whatever else may be wrong with the
record. The main statement is that records compile as soon as none of them is faulty, and that
otherwise the error is the reason of the first faulty one, whatever follows it.
-/

namespace LoanPricing

/-! ## 1. Faulty records -/

/-- Whether a tag, in whatever case, is none of the known conditions. -/
def Condition.IsUnknownTag (tag : String) : Prop :=
  Text.lower tag ∉ ["florida", "creditscore720", "productname7-1arm"]

instance (tag : String) : Decidable (Condition.IsUnknownTag tag) :=
  inferInstanceAs (Decidable (_ ∉ _))

/-- Whether a tag, in whatever case, is none of the known actions. -/
def Action.IsUnknownTag (tag : String) : Prop :=
  Text.lower tag ∉ ["disqualify", "reduceinterest", "increaseinterest"]

instance (tag : String) : Decidable (Action.IsUnknownTag tag) :=
  inferInstanceAs (Decidable (_ ∉ _))

namespace RuleRecord

/-- Whether a mode refuses a record: both do for its amount, strict mode also for its tags. -/
def IsFaulty (mode : Mode) (record : RuleRecord) : Prop :=
  record.value.isFinite = false ∨
    mode = .strict ∧
      (Condition.IsUnknownTag record.condition ∨ Action.IsUnknownTag record.action)

instance (mode : Mode) (record : RuleRecord) : Decidable (record.IsFaulty mode) :=
  inferInstanceAs (Decidable (_ ∨ _))

/-- Why a faulty record is refused, with the tag as it is written. -/
def reason (index : Nat) (record : RuleRecord) : RuleError :=
  if record.value.isFinite = false then .invalidActionValue index record.value
  else if Condition.IsUnknownTag record.condition then
    .unknownConditionTag index record.condition
  else .unknownActionTag index record.action

end RuleRecord

/-! ## 2. One record -/

private theorem lookup_of_not_mem {α : Type} (entries : List (String × α)) {tag : String}
    (h : tag ∉ entries.map Prod.fst) : entries.lookup tag = none := by
  rw [List.lookup_eq_none_iff]
  intro entry hentry
  exact bne_iff_ne.mpr fun heq => h (heq ▸ List.mem_map_of_mem hentry)

theorem Condition.unknownTag?_ofTag (tag : String) :
    (ofTag tag).unknownTag? = if IsUnknownTag tag then some tag else none := by
  unfold ofTag
  by_cases hunknown : IsUnknownTag tag
  · rw [if_pos hunknown, lookup_of_not_mem vocabulary hunknown]
    rfl
  · have hmem : Text.lower tag ∈ ["florida", "creditscore720", "productname7-1arm"] :=
      Decidable.not_not.mp hunknown
    simp only [List.mem_cons, List.not_mem_nil, or_false] at hmem
    rw [if_neg hunknown]
    rcases hmem with h | h | h <;> rw [h] <;> rfl

theorem Action.unknownTag?_ofTag (tag : String) (amount : Float) :
    (ofTag tag amount).unknownTag? = if IsUnknownTag tag then some tag else none := by
  unfold ofTag
  by_cases hunknown : IsUnknownTag tag
  · rw [if_pos hunknown, lookup_of_not_mem vocabulary hunknown]
    rfl
  · have hmem : Text.lower tag ∈ ["disqualify", "reduceinterest", "increaseinterest"] :=
      Decidable.not_not.mp hunknown
    simp only [List.mem_cons, List.not_mem_nil, or_false] at hmem
    rw [if_neg hunknown]
    rcases hmem with h | h | h <;> rw [h] <;> rfl

namespace RuleRecord

/-- The fault that compiling finds in a record is its reason, if it is faulty at all. -/
theorem fault?_eq (mode : Mode) (index : Nat) (record : RuleRecord) :
    record.fault? mode index =
      if record.IsFaulty mode then some (record.reason index) else none := by
  unfold fault?
  rw [rule_condition, rule_action, Condition.unknownTag?_ofTag, Action.unknownTag?_ofTag]
  by_cases hvalue : record.value.isFinite = true
  · cases mode with
    | lenient => simp [tagFault?, IsFaulty, hvalue]
    | strict =>
      by_cases hcondition : Condition.IsUnknownTag record.condition
      · simp [tagFault?, IsFaulty, reason, hvalue, hcondition]
      · by_cases haction : Action.IsUnknownTag record.action
        · simp [tagFault?, IsFaulty, reason, hvalue, hcondition, haction]
        · simp [tagFault?, IsFaulty, hvalue, hcondition, haction]
  · simp [IsFaulty, reason, hvalue]

theorem fault?_eq_none_iff {mode : Mode} {index : Nat} {record : RuleRecord} :
    record.fault? mode index = none ↔ ¬ record.IsFaulty mode := by
  rw [fault?_eq]
  split <;> simp_all

theorem fault?_eq_some_iff {mode : Mode} {index : Nat} {record : RuleRecord} {e : RuleError} :
    record.fault? mode index = some e ↔ record.IsFaulty mode ∧ record.reason index = e := by
  rw [fault?_eq]
  split <;> simp_all

/-! ## 3. All records -/

/-- The first fault is the reason of the first faulty record. -/
theorem firstFault?_eq_some_iff {mode : Mode} {index : Nat} {records : List RuleRecord}
    {e : RuleError} :
    firstFault? mode index records = some e ↔
      ∃ before record after, records = before ++ record :: after ∧
        (∀ earlier ∈ before, ¬ earlier.IsFaulty mode) ∧ record.IsFaulty mode ∧
        e = record.reason (index + before.length) := by
  induction records generalizing index with
  | nil => simp
  | cons first records ih =>
    rw [firstFault?_cons, Option.or_eq_some_iff, fault?_eq_some_iff, fault?_eq_none_iff, ih]
    constructor
    · rintro (⟨hfaulty, rfl⟩ | ⟨hsound, before, record, after, rfl, hbefore, hfaulty, rfl⟩)
      · exact ⟨[], first, records, rfl, by simp, hfaulty, rfl⟩
      · exact ⟨first :: before, record, after, rfl, List.forall_mem_cons.mpr ⟨hsound, hbefore⟩,
          hfaulty, by rw [List.length_cons, Nat.add_right_comm, Nat.add_assoc]⟩
    · rintro ⟨before, record, after, hrecords, hbefore, hfaulty, rfl⟩
      cases before with
      | nil =>
        obtain ⟨rfl, rfl⟩ := List.cons.inj hrecords
        exact .inl ⟨hfaulty, rfl⟩
      | cons earlier before =>
        obtain ⟨rfl, rfl⟩ := List.cons.inj hrecords
        obtain ⟨hsound, hbefore⟩ := List.forall_mem_cons.mp hbefore
        exact .inr ⟨hsound, before, record, after, rfl, hbefore, hfaulty,
          by rw [List.length_cons, Nat.add_right_comm, Nat.add_assoc]⟩

theorem firstFault?_eq_none_of_forall {mode : Mode} {index : Nat} {records : List RuleRecord}
    (h : ∀ record ∈ records, ¬ record.IsFaulty mode) : firstFault? mode index records = none := by
  rw [firstFault?_eq_none_iff]
  intro numbered hmem
  exact fault?_eq_none_iff.mpr (h _ (List.fst_mem_of_mem_zipIdx hmem))

end RuleRecord

theorem RuleSet.compile_eq_error_iff {mode : Mode} {records : List RuleRecord} {e : RuleError} :
    (compile mode records).value = .error e ↔ RuleRecord.firstFault? mode 0 records = some e := by
  rw [compile_value]
  cases RuleRecord.firstFault? mode 0 records <;> simp [orFault]

/-- Records without a fault compile, each at its place and with its number. -/
theorem RuleSet.exists_compile_of_forall {mode : Mode} {records : List RuleRecord}
    (h : ∀ record ∈ records, ¬ record.IsFaulty mode) :
    ∃ set, (compile mode records).value = .ok set ∧
      set.rules.map Rule.index = List.range records.length ∧
      (records.mapIdx fun index record => (Rule.compile mode index record).value) =
        set.rules.map .ok := by
  have hcompile : (compile mode records).value =
      .ok { rules := RuleRecord.rulesFrom 0 records } := by
    rw [compile_value, RuleRecord.firstFault?_eq_none_of_forall h]
    rfl
  refine ⟨_, hcompile, ?_, compile_eq_ok_iff.mp hcompile⟩
  rw [RuleRecord.map_index_rulesFrom, List.range_eq_range']

/-- **The first faulty record decides.** If no record is faulty there is a rule for each of them, in
order, which is what the record compiles to at its place and carries the number of the place.
Otherwise, and only then, there is an error: the reason of the record that is faulty while those
before it are not, whatever comes after it. In lenient mode this is never a tag. -/
theorem compile_error_iff_firstFaulty (mode : Mode) (records : List RuleRecord) :
    ((∀ record ∈ records, ¬ record.IsFaulty mode) →
      ∃ set, (RuleSet.compile mode records).value = .ok set ∧ set.size = records.length ∧
        set.rules.map Rule.index = List.range records.length ∧
        (records.mapIdx fun index record => (Rule.compile mode index record).value) =
          set.rules.map .ok) ∧
    (∀ e, (RuleSet.compile mode records).value = .error e ↔
      ∃ before record after, records = before ++ record :: after ∧
        (∀ earlier ∈ before, ¬ earlier.IsFaulty mode) ∧ record.IsFaulty mode ∧
        e = record.reason before.length) ∧
    ∀ e, (RuleSet.compile .lenient records).value = .error e →
      ∃ index value, e = .invalidActionValue index value := by
  refine ⟨fun h => ?_, fun e => ?_, fun e h => ?_⟩
  · obtain ⟨set, hcompile, hnumbers, hrules⟩ := RuleSet.exists_compile_of_forall h
    have hsize : set.size = records.length := by
      rw [RuleSet.size, ← List.length_map (f := Rule.index), hnumbers, List.length_range]
    exact ⟨set, hcompile, hsize, hnumbers, hrules⟩
  · rw [RuleSet.compile_eq_error_iff, RuleRecord.firstFault?_eq_some_iff]
    simp only [Nat.zero_add]
  · rw [RuleSet.compile_eq_error_iff, RuleRecord.firstFault?_eq_some_iff] at h
    obtain ⟨before, record, -, -, -, hfaulty, rfl⟩ := h
    have hvalue : record.value.isFinite = false := by
      rcases hfaulty with hvalue | ⟨hmode, -⟩
      · exact hvalue
      · exact Mode.noConfusion hmode
    exact ⟨_, _, by rw [RuleRecord.reason, if_pos hvalue]⟩

/-- The second of three records has unknown tags, and the third an amount that is no number as well:
strict mode names the tag of the second, lenient mode the amount of the third. -/
theorem compile_error_iff_firstFaulty_texas :
    let florida : RuleRecord := ⟨"FLORIDA", "ReduceInterest", 0.5⟩
    let texas : RuleRecord := ⟨"Texas", "Waive", 0⟩
    let ohio : RuleRecord := ⟨"Ohio", "Waive", 0 / 0⟩
    (RuleSet.compile .strict [florida, texas, ohio]).value =
        .error (.unknownConditionTag 1 "Texas") ∧
      (RuleSet.compile .lenient [florida, texas, ohio]).value =
        .error (.invalidActionValue 2 (0 / 0)) ∧
      ∃ set, (RuleSet.compile .lenient [florida, texas]).value = .ok set ∧ set.size = 2 := by
  intro florida texas ohio
  have hstrict : ∀ earlier ∈ [florida], ¬ earlier.IsFaulty .strict := by decide +kernel
  have hlenient : ∀ earlier ∈ [florida, texas], ¬ earlier.IsFaulty .lenient := by decide +kernel
  refine ⟨?_, ?_, ?_⟩
  · exact ((compile_error_iff_firstFaulty .strict _).2.1 _).mpr
      ⟨[florida], texas, [ohio], rfl, hstrict, by decide +kernel, by decide +kernel⟩
  · exact ((compile_error_iff_firstFaulty .lenient _).2.1 _).mpr
      ⟨[florida, texas], ohio, [], rfl, hlenient, by decide +kernel, by decide +kernel⟩
  · obtain ⟨set, hcompile, hsize, -⟩ := (compile_error_iff_firstFaulty .lenient _).1 hlenient
    exact ⟨set, hcompile, hsize⟩

end LoanPricing
