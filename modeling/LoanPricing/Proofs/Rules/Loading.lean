import LoanPricing.Proofs.Json.Lists
import LoanPricing.Proofs.Rules.Compile
import LoanPricing.Proofs.Text.Utf8
import LoanPricing.Rules.Evaluate

/-!
# Loading — all of a rules file or nothing of it

A file loads if its bytes are a text, the text is a list of records, and every record compiles; then
there is one rule for each record. What is wrong with the text is found before any record is
compiled, so that it is the same error in both modes. And without a rule set an evaluation leaves
the product alone.
-/

namespace LoanPricing

/-! ## 1. The text of a rules file -/

/-- A text of records: a list whose items are, each by itself, the texts of the records in order. -/
def IsRulesText (text : String) (records : List RuleRecord) : Prop :=
  ∃ items, Json.IsListOf items text.toList ∧
    items.map (fun item => RuleRecord.parse (String.ofList item)) = records.map .ok

theorem RuleRecord.parseAll_eq_ok_iff {text : String} {records : List RuleRecord} :
    parseAll text = .ok records ↔ IsRulesText text records := by
  have hparse : (fun item => RuleRecord.parse (String.ofList item)) =
      Json.readWhole RuleRecord.shape.read := by
    funext item
    rw [RuleRecord.parse, String.toList_ofList]
  unfold parseAll IsRulesText
  rw [Json.Shape.readWhole_list_iff, hparse]

-- The text of a file, if its bytes are those of a text.
theorem Disk.readText_eq_ok_iff {disk : Disk} {path text : String} :
    disk.readText path = .ok text ↔ disk path = .ok (Text.Utf8.encode text) := by
  unfold Disk.readText
  cases disk path with
  | error f => simp
  | ok bytes =>
    simp only [Except.ok.injEq]
    cases hdecode : Text.Utf8.decode? bytes with
    | none =>
      simp only [reduceCtorEq, false_iff]
      rintro rfl
      rw [Text.Utf8.decode?_encode] at hdecode
      injection hdecode
    | some cs =>
      have hbytes := Text.Utf8.decode?_eq_some_iff.mp hdecode
      simp only [Except.ok.injEq]
      constructor
      · rintro rfl
        exact hbytes
      · rintro rfl
        rw [Text.Utf8.decode?_encode] at hdecode
        rw [← Option.some.inj hdecode, String.ofList_toList]

/-! ## 2. The rules of a file -/

open RuleRecord (firstFault? firstFault?_nil firstFault?_cons rulesFrom rulesFrom_nil
  rulesFrom_cons)

theorem Rule.map_compile_eq_ok_iff {mode : Mode} {index : Nat} {records : List RuleRecord}
    {rules : List Rule} :
    ((records.zipIdx index).map fun numbered => (Rule.compile mode numbered.2 numbered.1).value) =
        rules.map .ok ↔
      firstFault? mode index records = none ∧ rulesFrom index records = rules := by
  induction records generalizing index rules with
  | nil =>
    rw [firstFault?_nil, rulesFrom_nil, List.zipIdx_nil, List.map_nil]
    constructor
    · intro h
      exact ⟨rfl, (List.map_eq_nil_iff.mp h.symm).symm⟩
    · rintro ⟨-, rfl⟩
      rfl
  | cons record records ih =>
    rw [firstFault?_cons, rulesFrom_cons, List.zipIdx_cons, List.map_cons, Option.or_eq_none_iff,
      Rule.compile_value]
    cases rules with
    | nil => simp
    | cons rule rules =>
      rw [List.map_cons, List.cons.injEq, List.cons.injEq, ih, orFault_eq_ok_iff]
      constructor
      · rintro ⟨⟨hfault, rfl⟩, hfaults, rfl⟩
        exact ⟨⟨hfault, hfaults⟩, rfl, rfl⟩
      · rintro ⟨⟨hfault, hfaults⟩, rfl, rfl⟩
        exact ⟨⟨hfault, rfl⟩, hfaults, rfl⟩

-- Records compile if each of them compiles at its place, to the rules that these give.
theorem RuleSet.compile_eq_ok_iff {mode : Mode} {records : List RuleRecord} {set : RuleSet} :
    (RuleSet.compile mode records).value = .ok set ↔
      (records.mapIdx fun index record => (Rule.compile mode index record).value) =
        set.rules.map .ok := by
  rw [compile_value, orFault_eq_ok_iff, List.mapIdx_eq_zipIdx_map]
  refine Iff.trans ?_ Rule.map_compile_eq_ok_iff.symm
  obtain ⟨rules⟩ := set
  rw [RuleSet.mk.injEq]

theorem RuleSet.loadFile_value (mode : Mode) (disk : Disk) (path : String) :
    (RuleSet.loadFile mode disk path).value =
      match disk.readText path with
      | .error fault => .error (.file fault)
      | .ok text => (RuleSet.load mode text).value := by
  rw [RuleSet.loadFile, Log.Logged.value_within]
  cases disk.readText path <;> rfl

/-- A file loads if its bytes are those of a text that loads. -/
theorem RuleSet.loadFile_eq_ok_iff {mode : Mode} {disk : Disk} {path : String} {set : RuleSet} :
    (RuleSet.loadFile mode disk path).value = .ok set ↔
      ∃ text, disk path = .ok (Text.Utf8.encode text) ∧ (RuleSet.load mode text).value = .ok set := by
  rw [loadFile_value]
  constructor
  · intro h
    cases hread : disk.readText path with
    | error fault => simp [hread] at h
    | ok text =>
      simp only [hread] at h
      exact ⟨text, Disk.readText_eq_ok_iff.mp hread, h⟩
  · rintro ⟨text, hbytes, h⟩
    rw [Disk.readText_eq_ok_iff.mpr hbytes]
    exact h

theorem RuleSet.loadOrReport_value (mode : Mode) (disk : Disk) (path : String) :
    (RuleSet.loadOrReport mode disk path).value =
      (RuleSet.loadFile mode disk path).value.toOption := by
  rw [RuleSet.loadOrReport, Log.Logged.value_bind]
  cases (RuleSet.loadFile mode disk path).value <;> rfl

/-- **All or nothing.** A file loads if and only if its bytes are a text of records each of which
compiles at its place; the rules are what they compile to, one for each record and in order. A text
that is not one of records is the same error in both modes. And if a file does not load, there is no
rule set, without which an evaluation visits no rule, says so and leaves the product as it was. -/
theorem loadFile_all_or_nothing (disk : Disk) (path : String) :
    (∀ (mode : Mode) (set : RuleSet),
      (RuleSet.loadFile mode disk path).value = .ok set ↔
        ∃ text records, disk path = .ok (Text.Utf8.encode text) ∧ IsRulesText text records ∧
          (records.mapIdx fun index record => (Rule.compile mode index record).value) =
            set.rules.map .ok) ∧
    (∀ text, disk path = .ok (Text.Utf8.encode text) → (¬ ∃ records, IsRulesText text records) →
      ∃ e, ∀ mode, (RuleSet.loadFile mode disk path).value = .error (.json e)) ∧
    ∀ (mode : Mode) (e : RuleError), (RuleSet.loadFile mode disk path).value = .error e →
      (RuleSet.loadOrReport mode disk path).value = none ∧
      ∀ (tracing : Bool) (p : Product),
        (evaluate tracing (RuleSet.loadOrReport mode disk path).value p).value =
          { report := { rulesEvaluated := 0, matchedRules := [], trace := []
                        diagnostics := [.rulesNotLoaded] }
            product := p } := by
  refine ⟨fun mode set => ?_, fun text hbytes htext => ?_, fun mode e herror => ?_⟩
  · rw [RuleSet.loadFile_eq_ok_iff]
    constructor
    · rintro ⟨text, hbytes, h⟩
      obtain ⟨records, hrecords, hset⟩ := RuleSet.load_eq_ok_iff.mp h
      exact ⟨text, records, hbytes, RuleRecord.parseAll_eq_ok_iff.mp hrecords,
        RuleSet.compile_eq_ok_iff.mp hset⟩
    · rintro ⟨text, records, hbytes, hrecords, hset⟩
      exact ⟨text, hbytes, RuleSet.load_eq_ok_iff.mpr ⟨records,
        RuleRecord.parseAll_eq_ok_iff.mpr hrecords, RuleSet.compile_eq_ok_iff.mpr hset⟩⟩
  · cases hparse : RuleRecord.parseAll text with
    | ok records => exact absurd ⟨records, RuleRecord.parseAll_eq_ok_iff.mp hparse⟩ htext
    | error e =>
      refine ⟨e, fun mode => ?_⟩
      rw [RuleSet.loadFile_value, Disk.readText_eq_ok_iff.mpr hbytes]
      simp only [RuleSet.load_value, hparse]
  · have hnone : (RuleSet.loadOrReport mode disk path).value = none := by
      rw [RuleSet.loadOrReport_value, herror]
      rfl
    refine ⟨hnone, fun tracing p => ?_⟩
    rw [hnone]
    rfl

/-- A good rule with a bracket too many behind the list: neither mode gets as far as the tag that
strict mode would refuse. -/
theorem loadFile_all_or_nothing_extraBracket :
    let text := "[[\"Texas\",\"Waive\"]]]"
    let disk : Disk := fun _ => .ok (Text.Utf8.encode text)
    (¬ ∃ records, IsRulesText text records) ∧
      (∃ e, ∀ mode, (RuleSet.loadFile mode disk "rules.json").value = .error (.json e)) ∧
      ∀ (mode : Mode) (p : Product),
        (evaluate true (RuleSet.loadOrReport mode disk "rules.json").value p).value.product = p := by
  intro text disk
  obtain ⟨-, hdefect, hnone⟩ := loadFile_all_or_nothing disk "rules.json"
  have htext : ¬ ∃ records, IsRulesText text records := by
    rintro ⟨records, hrecords⟩
    have hparse : (RuleRecord.parseAll text).toOption = none := by decide +kernel
    rw [RuleRecord.parseAll_eq_ok_iff.mpr hrecords] at hparse
    injection hparse
  obtain ⟨e, herror⟩ := hdefect text rfl htext
  refine ⟨htext, ⟨e, herror⟩, fun mode p => ?_⟩
  rw [(hnone mode (.json e) (herror mode)).2 true p]

end LoanPricing
