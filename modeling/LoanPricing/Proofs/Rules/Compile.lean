import LoanPricing.Rules.RuleSet

/-!
# Compilation — what becomes of records, in one equation each

A record stands for one rule, whatever may be wrong with it, and has at most one fault that counts:
its amount is looked at first, then, in strict mode, its condition tag and its action tag.
Compiling a record gives the fault if there is one and the rule otherwise, and compiling records
gives the first fault of the first faulty one, or all the rules. Everything that is proved about
compiled rules starts from these equations, so that no later proof goes through the steps of the
compiler again.
-/

namespace LoanPricing

/-! ## 1. One record -/

namespace RuleRecord

/-- The rule that a record stands for at a place in its file. -/
def rule (index : Nat) (record : RuleRecord) : Rule where
  index := index
  condition := Condition.ofTag record.condition
  action := Action.ofTag record.action record.value

@[simp] theorem rule_index (index : Nat) (record : RuleRecord) :
    (record.rule index).index = index := rfl

@[simp] theorem rule_condition (index : Nat) (record : RuleRecord) :
    (record.rule index).condition = Condition.ofTag record.condition := rfl

@[simp] theorem rule_action (index : Nat) (record : RuleRecord) :
    (record.rule index).action = Action.ofTag record.action record.value := rfl

/-- Why a tag is refused, if it is: only strict mode refuses, and only unknown tags. -/
def tagFault? (mode : Mode) (unknownTag : Option String) (error : String → RuleError) :
    Option RuleError :=
  match mode with
  | .lenient => none
  | .strict => unknownTag.map error

/-- Why a record is refused, if it is, and for the first of several reasons. -/
def fault? (mode : Mode) (index : Nat) (record : RuleRecord) : Option RuleError :=
  if record.value.isFinite then
    (tagFault? mode (record.rule index).condition.unknownTag? (.unknownConditionTag index)).or
      (tagFault? mode (record.rule index).action.unknownTag? (.unknownActionTag index))
  else some (.invalidActionValue index record.value)

end RuleRecord

/-- What comes of a fault, if there is one, or else of a value. -/
def orFault {α : Type} (fault : Option RuleError) (a : α) : Except RuleError α :=
  match fault with
  | some e => .error e
  | none => .ok a

@[simp] theorem orFault_eq_ok_iff {α : Type} {fault : Option RuleError} {a b : α} :
    orFault fault a = .ok b ↔ fault = none ∧ a = b := by
  cases fault <;> simp [orFault]

namespace Rule

open RuleRecord (tagFault?)

theorem vet_value (mode : Mode) (unknownTag : Option String) (error : String → RuleError)
    (notice : String → Log.Notice) :
    (vet mode unknownTag error notice).value = orFault (tagFault? mode unknownTag error) () := by
  cases unknownTag <;> cases mode <;> rfl

/-- Compiling a record gives its fault or else its rule. -/
theorem compile_value (mode : Mode) (index : Nat) (record : RuleRecord) :
    (compile mode index record).value =
      orFault (record.fault? mode index) (record.rule index) := by
  unfold compile RuleRecord.fault?
  by_cases hvalue : record.value.isFinite
  · simp only [hvalue, Bool.not_true, Bool.false_eq_true, ↓reduceIte, Log.Logged.value_bind,
      vet_value, RuleRecord.rule]
    -- each tag is either let through or ends the compilation with its own error
    cases tagFault? mode (Condition.ofTag record.condition).unknownTag?
        (.unknownConditionTag index) with
    | some e => rfl
    | none =>
      simp only [orFault, Log.Logged.value_bind, vet_value, Option.none_or]
      cases tagFault? mode (Action.ofTag record.action record.value).unknownTag?
          (.unknownActionTag index) <;> rfl
  · simp only [hvalue, Bool.not_false, ↓reduceIte]
    rfl

end Rule

/-! ## 2. All records of a file -/

namespace RuleRecord

/-- The rules that records stand for, numbered from `index`. -/
def rulesFrom (index : Nat) (records : List RuleRecord) : List Rule :=
  (records.zipIdx index).map fun numbered => numbered.1.rule numbered.2

/-- The first fault among records numbered from `index`. -/
def firstFault? (mode : Mode) (index : Nat) (records : List RuleRecord) : Option RuleError :=
  (records.zipIdx index).findSome? fun numbered => numbered.1.fault? mode numbered.2

@[simp] theorem rulesFrom_nil (index : Nat) : rulesFrom index [] = [] := rfl

@[simp] theorem rulesFrom_cons (index : Nat) (record : RuleRecord) (records : List RuleRecord) :
    rulesFrom index (record :: records) = record.rule index :: rulesFrom (index + 1) records := rfl

@[simp] theorem length_rulesFrom (index : Nat) (records : List RuleRecord) :
    (rulesFrom index records).length = records.length := by
  simp [rulesFrom]

@[simp] theorem map_index_rulesFrom (index : Nat) (records : List RuleRecord) :
    (rulesFrom index records).map Rule.index = List.range' index records.length := by
  rw [rulesFrom, List.map_map]
  exact List.zipIdx_map_snd index records

@[simp] theorem firstFault?_nil (mode : Mode) (index : Nat) :
    firstFault? mode index [] = none := rfl

@[simp] theorem firstFault?_cons (mode : Mode) (index : Nat) (record : RuleRecord)
    (records : List RuleRecord) :
    firstFault? mode index (record :: records) =
      (record.fault? mode index).or (firstFault? mode (index + 1) records) := by
  unfold firstFault?
  rw [List.zipIdx_cons, List.findSome?_cons]
  cases record.fault? mode index <;> rfl

end RuleRecord

open RuleRecord (rulesFrom firstFault?)

theorem Rule.compileFrom_value (mode : Mode) (index : Nat) (records : List RuleRecord) :
    (Rule.compileFrom mode index records).value =
      orFault (firstFault? mode index records) (rulesFrom index records) := by
  induction records generalizing index with
  | nil => rfl
  | cons record records ih =>
    rw [Rule.compileFrom, Log.Logged.value_bind, Rule.compile_value, RuleRecord.firstFault?_cons]
    cases record.fault? mode index with
    | some e => rfl
    | none =>
      simp only [orFault, Log.Logged.value_bind, ih, Option.none_or]
      cases firstFault? mode (index + 1) records <;> rfl

/-- Compiling records gives their first fault or else the set of all their rules. -/
theorem RuleSet.compile_value (mode : Mode) (records : List RuleRecord) :
    (RuleSet.compile mode records).value =
      orFault (firstFault? mode 0 records) { rules := rulesFrom 0 records } := by
  rw [RuleSet.compile, Log.Logged.value_bind, Rule.compileFrom_value]
  cases firstFault? mode 0 records <;> rfl

/-- The rules of a set are those that its records stand for. -/
theorem RuleSet.rules_of_compile {mode : Mode} {records : List RuleRecord} {set : RuleSet}
    (h : (RuleSet.compile mode records).value = .ok set) : set.rules = rulesFrom 0 records := by
  rw [compile_value, orFault_eq_ok_iff] at h
  rw [← h.2]

theorem RuleSet.exists_rule_of_compile {mode : Mode} {records : List RuleRecord} {set : RuleSet}
    (h : (RuleSet.compile mode records).value = .ok set) {rule : Rule} (hr : rule ∈ set.rules) :
    ∃ index record, rule = RuleRecord.rule index record := by
  rw [rules_of_compile h] at hr
  obtain ⟨numbered, -, hrule⟩ := List.mem_map.mp hr
  exact ⟨numbered.2, numbered.1, hrule.symm⟩

/-- Loading a text gives the error of its reading, the first fault of its records, or the set of
all their rules. -/
theorem RuleSet.load_value (mode : Mode) (text : String) :
    (RuleSet.load mode text).value =
      match RuleRecord.parseAll text with
      | .error e => .error (.json e)
      | .ok records => (RuleSet.compile mode records).value := by
  rw [RuleSet.load, Log.Logged.value_within]
  cases RuleRecord.parseAll text with
  | error e => rfl
  | ok records =>
    simp only [Log.Logged.value_bind, RuleSet.compile_value]
    cases firstFault? mode 0 records <;> rfl

/-- A text loads if its records can be read and compile. -/
theorem RuleSet.load_eq_ok_iff {mode : Mode} {text : String} {set : RuleSet} :
    (RuleSet.load mode text).value = .ok set ↔
      ∃ records, RuleRecord.parseAll text = .ok records ∧
        (RuleSet.compile mode records).value = .ok set := by
  rw [load_value]
  cases RuleRecord.parseAll text with
  | error e => simp
  | ok records => simp

/-! ## 3. Faults of either mode -/

namespace RuleRecord

-- Lenient mode refuses a record for its amount only.
theorem fault?_lenient_eq_none_iff {index : Nat} {record : RuleRecord} :
    record.fault? .lenient index = none ↔ record.value.isFinite = true := by
  unfold fault?
  split <;> simp_all [tagFault?]

-- Neither mode takes an amount that is not finite.
theorem isFinite_of_fault?_eq_none {mode : Mode} {index : Nat} {record : RuleRecord}
    (h : record.fault? mode index = none) : record.value.isFinite = true := by
  unfold fault? at h
  split at h
  · assumption
  · injection h

-- Strict mode refuses what lenient mode refuses, and all unknown tags.
theorem fault?_strict_eq_none_iff {index : Nat} {record : RuleRecord} :
    record.fault? .strict index = none ↔
      record.fault? .lenient index = none ∧ (record.rule index).hasUnknownTag = false := by
  rw [fault?_lenient_eq_none_iff]
  unfold fault?
  split <;> simp_all [tagFault?, Rule.hasUnknownTag, Condition.isKnown, Action.isKnown]

-- Records pass if and only if each of them passes at its place.
theorem firstFault?_eq_none_iff {mode : Mode} {index : Nat} {records : List RuleRecord} :
    firstFault? mode index records = none ↔
      ∀ numbered ∈ records.zipIdx index, numbered.1.fault? mode numbered.2 = none := by
  rw [firstFault?, List.findSome?_eq_none_iff]

end RuleRecord

/-- The rules of a set stand for records in which there is nothing to refuse. -/
theorem RuleSet.exists_faultless_of_compile {mode : Mode} {records : List RuleRecord}
    {set : RuleSet} (h : (RuleSet.compile mode records).value = .ok set) {rule : Rule}
    (hr : rule ∈ set.rules) :
    ∃ index record, rule = RuleRecord.rule index record ∧ record.fault? mode index = none := by
  rw [compile_value, orFault_eq_ok_iff, RuleRecord.firstFault?_eq_none_iff] at h
  obtain ⟨hfaults, rfl⟩ := h
  obtain ⟨numbered, hmem, rfl⟩ := List.mem_map.mp hr
  exact ⟨numbered.2, numbered.1, rfl, hfaults numbered hmem⟩

/-- Lenient mode compiles all records whose amounts are finite. -/
theorem RuleSet.compile_lenient_of_isFinite {records : List RuleRecord}
    (h : ∀ record ∈ records, record.value.isFinite = true) :
    (RuleSet.compile .lenient records).value = .ok { rules := rulesFrom 0 records } := by
  have hfault : firstFault? .lenient 0 records = none := by
    rw [RuleRecord.firstFault?_eq_none_iff]
    intro numbered hmem
    rw [RuleRecord.fault?_lenient_eq_none_iff]
    exact h _ (List.fst_mem_of_mem_zipIdx hmem)
  rw [compile_value, hfault]
  rfl

/-! ## 4. Numbers -/

namespace RuleSet

variable {set : RuleSet} {r : Rule} {i : Nat}

/-- Whether the rules carry the numbers from zero on, in order. -/
def IsNumbered (set : RuleSet) : Prop :=
  set.rules.map Rule.index = List.range set.size

theorem isNumbered_of_compile {mode : Mode} {records : List RuleRecord}
    (h : (RuleSet.compile mode records).value = .ok set) : set.IsNumbered := by
  rw [IsNumbered, size, rules_of_compile h, RuleRecord.map_index_rulesFrom,
    RuleRecord.length_rulesFrom, List.range_eq_range']

theorem IsNumbered.index_of_get? (h : set.IsNumbered) (hget : set.get? i = some r) :
    r.index = i := by
  have hi : i < set.size := (List.getElem?_eq_some_iff.mp hget).1
  have hindex : (set.rules.map Rule.index)[i]? = some i := by
    rw [h]
    exact List.getElem?_range hi
  rw [List.getElem?_map] at hindex
  obtain ⟨r', hr', rfl⟩ := Option.map_eq_some_iff.mp hindex
  rw [Option.some.inj (hget.symm.trans hr')]

/-- Every rule is where its number says. -/
theorem IsNumbered.get?_index (h : set.IsNumbered) (hr : r ∈ set.rules) :
    set.get? r.index = some r := by
  obtain ⟨i, hget⟩ := List.mem_iff_getElem?.mp hr
  rw [h.index_of_get? hget]
  exact hget

theorem IsNumbered.exists_get? (h : set.IsNumbered) (hi : i < set.size) :
    ∃ r, set.get? i = some r ∧ r.index = i :=
  ⟨set.rules[i], List.getElem?_eq_getElem hi, h.index_of_get? (List.getElem?_eq_getElem hi)⟩

end RuleSet

end LoanPricing
