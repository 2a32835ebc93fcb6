import LoanPricing.Proofs.Json.Gathering
import LoanPricing.Proofs.Json.NumberRange
import LoanPricing.Proofs.Rules.FirstFault
import LoanPricing.Proofs.Rules.Rates
import LoanPricing.Proofs.Rules.RecordFormat

/-!
# Finite amounts — no text has an amount that is refused

Compiling refuses amounts that are not finite, but only records that are put together by other means
have any. What is read from a text is finite: a number that is read is, whatever its digits and its
exponent, and so is the zero that stands for an amount that is left out.
-/

namespace LoanPricing

/-! ## 1. Amounts that are read -/

namespace RuleRecord

/-- Whether the amount that a draft has so far is finite. -/
def Draft.IsFinite (d : Draft) : Prop :=
  (d.value.getD 0.0).isFinite = true

theorem keeps_isFinite : ∀ field ∈ shape.fields, field.Keeps Draft.IsFinite := by
  intro field hfield draft value cs rest hread hdraft
  simp only [shape, List.mem_cons, List.not_mem_nil, or_false] at hfield
  rcases hfield with rfl | rfl | rfl
  · exact hdraft
  · exact hdraft
  · exact Json.isFinite_of_readFloat hread

/-- The amounts of records that are read are finite. -/
theorem isFinite_of_parseAll {text : String} {records : List RuleRecord}
    (h : parseAll text = .ok records) : ∀ record ∈ records, record.value.isFinite = true := by
  intro record hrecord
  have hstart : shape.start.IsFinite := by
    show (0.0 : Float).isFinite = true
    decide
  obtain ⟨draft, hdraft, hfinish⟩ :=
    Json.Shape.exists_draft_of_mem keeps_isFinite hstart h hrecord
  obtain ⟨-, -, hvalue⟩ := finish_eq_ok_iff.mp hfinish
  rw [← hvalue]
  exact hdraft

end RuleRecord

/-! ## 2. Errors of loading -/

/-- Among records with finite amounts only strict mode finds a fault, and it is a tag. -/
theorem RuleSet.compile_eq_error_of_isFinite {mode : Mode} {records : List RuleRecord}
    {e : RuleError} (hrecords : ∀ record ∈ records, record.value.isFinite = true)
    (h : (RuleSet.compile mode records).value = .error e) :
    mode = .strict ∧ ∃ index tag,
      e = .unknownConditionTag index tag ∨ e = .unknownActionTag index tag := by
  rw [compile_eq_error_iff, RuleRecord.firstFault?_eq_some_iff] at h
  obtain ⟨before, record, after, rfl, -, hfaulty, rfl⟩ := h
  have hvalue : record.value.isFinite = true := hrecords record (by simp)
  rcases hfaulty with hinfinite | ⟨hmode, -⟩
  · rw [hvalue] at hinfinite
    injection hinfinite
  · rw [RuleRecord.reason, if_neg (by simp [hvalue])]
    split
    · exact ⟨hmode, _, _, .inl rfl⟩
    · exact ⟨hmode, _, _, .inr rfl⟩

/-- What loading a text can end at: the text, or in strict mode a tag. -/
theorem RuleSet.load_eq_error {mode : Mode} {text : String} {e : RuleError}
    (h : (RuleSet.load mode text).value = .error e) :
    (∃ defect, RuleRecord.parseAll text = .error defect ∧ e = .json defect) ∨
      mode = .strict ∧ ∃ index tag,
        e = .unknownConditionTag index tag ∨ e = .unknownActionTag index tag := by
  rw [load_value] at h
  cases hparse : RuleRecord.parseAll text with
  | error defect =>
    rw [hparse] at h
    exact .inl ⟨defect, rfl, (Except.error.inj h).symm⟩
  | ok records =>
    rw [hparse] at h
    exact .inr (compile_eq_error_of_isFinite (RuleRecord.isFinite_of_parseAll hparse) h)

/-- **No text gives an amount that is not finite.** Whatever the text, the amounts of the records
that are read from it are finite. So loading it never ends at an amount: either it is not a text of
records, or in strict mode there is an unknown tag. If it loads, all that the rules can add to a
rate is finite. -/
theorem isFinite_of_load (mode : Mode) (text : String) :
    (∀ records, RuleRecord.parseAll text = .ok records →
      ∀ record ∈ records, record.value.isFinite = true) ∧
    (∀ index value, (RuleSet.load mode text).value ≠ .error (.invalidActionValue index value)) ∧
    (∀ e, (RuleSet.load mode text).value = .error e →
      (∃ defect, RuleRecord.parseAll text = .error defect ∧ e = .json defect) ∨
        mode = .strict ∧ ∃ index tag,
          e = .unknownConditionTag index tag ∨ e = .unknownActionTag index tag) ∧
    ∀ set, (RuleSet.load mode text).value = .ok set →
      ∀ r ∈ set.rules, ∀ x, r.action.delta? = some x → x.isFinite = true := by
  refine ⟨fun records => RuleRecord.isFinite_of_parseAll, fun index value h => ?_,
    fun e => RuleSet.load_eq_error, fun set hset => ?_⟩
  · rcases RuleSet.load_eq_error h with ⟨defect, -, hne⟩ | ⟨-, index', tag, hne | hne⟩
    · injection hne
    · injection hne
    · injection hne
  · obtain ⟨records, -, hcompile⟩ := RuleSet.load_eq_ok_iff.mp hset
    exact RuleSet.addsFinite_of_compile hcompile

/-- The largest double loads, and so does what is too small for any double but zero. A little more
than the largest double is refused as a number, before it is an amount. -/
theorem isFinite_of_load_extremes :
    let extremes := "[[\"Florida\",\"IncreaseInterest\",17976931348623157e292]," ++
      "[\"Florida\",\"IncreaseInterest\",1e-99999999999]]"
    let tooLarge := "[[\"Florida\",\"IncreaseInterest\",17976931348623159e292]]"
    (∃ set, (RuleSet.load .strict extremes).value = .ok set ∧
      set.rules.map (fun r => r.action.delta?) = [some 1.7976931348623157e308, some 0] ∧
      ∀ r ∈ set.rules, ∀ x, r.action.delta? = some x → x.isFinite = true) ∧
    ∃ defect, (RuleSet.load .lenient tooLarge).value = .error (.json defect) := by
  intro extremes tooLarge
  constructor
  · have hdeltas : (RuleSet.load .strict extremes).value.toOption.map
        (fun set => set.rules.map fun r => r.action.delta?) =
          some [some 1.7976931348623157e308, some 0] := by decide +kernel
    cases hload : (RuleSet.load .strict extremes).value with
    | error e =>
      rw [hload] at hdeltas
      injection hdeltas
    | ok set =>
      rw [hload] at hdeltas
      exact ⟨set, rfl, Option.some.inj hdeltas, (isFinite_of_load .strict extremes).2.2.2 set hload⟩
  · have hnone : (RuleSet.load .lenient tooLarge).value.toOption = none := by decide +kernel
    cases hload : (RuleSet.load .lenient tooLarge).value with
    | ok set =>
      rw [hload] at hnone
      injection hnone
    | error e =>
      rcases (isFinite_of_load .lenient tooLarge).2.2.1 e hload with ⟨defect, -, rfl⟩ | ⟨hmode, -⟩
      · exact ⟨defect, rfl⟩
      · injection hmode

end LoanPricing
