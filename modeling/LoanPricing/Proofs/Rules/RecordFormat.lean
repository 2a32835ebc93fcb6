import LoanPricing.Proofs.Json.Acceptance
import LoanPricing.Proofs.Json.Slots
import LoanPricing.Rules.Rule

/-!
# The format of a rule — which objects are rules

A rule is an object with one member each for its condition and its action, which are strings, and
at most one for its amount, which is a number. Whatever else stands in the object, and wherever, is
passed over.
-/

namespace LoanPricing.RuleRecord

open Json

theorem conditionSlot : IsSlot shape.fields "Condition" .text fun d => d.condition where
  exists_field := ⟨_, _, rfl, fun _ => rfl, fun _ _ => rfl⟩
  get_set_of_ne := by simp [shape]

theorem actionSlot : IsSlot shape.fields "Action" .text fun d => d.action where
  exists_field := ⟨_, _, rfl, fun _ => rfl, fun _ _ => rfl⟩
  get_set_of_ne := by simp [shape]

theorem valueSlot : IsSlot shape.fields "ActionValue" .number fun d => d.value where
  exists_field := ⟨_, _, rfl, fun _ => rfl, fun _ _ => rfl⟩
  get_set_of_ne := by simp [shape]

theorem finish_eq_ok_iff {d : Draft} {record : RuleRecord} :
    shape.finish d = .ok record ↔
      d.condition = some record.condition ∧ d.action = some record.action ∧
        d.value.getD 0.0 = record.value := by
  obtain ⟨condition, action, value⟩ := d
  obtain ⟨condition', action', value'⟩ := record
  cases condition with
  | none => simp [shape, Draft.finish]
  | some condition =>
    cases action with
    | none => simp [shape, Draft.finish]
    | some action => simp [shape, Draft.finish]

/-- What the members of an object have to be for it to be a rule, and which rule. -/
structure IsFormat (members : List Member) (record : RuleRecord) : Prop where
  condition : ∃ value, valuesOf "Condition" members = [value] ∧
    Denotes .text value record.condition
  action : ∃ value, valuesOf "Action" members = [value] ∧ Denotes .text value record.action
  value : valuesOf "ActionValue" members = [] ∧ record.value = 0.0 ∨
    ∃ value, valuesOf "ActionValue" members = [value] ∧ Denotes .number value record.value

theorem exists_fills_value_iff {members : List Member} {x : Float} :
    (∃ slot, Fills .number (valuesOf "ActionValue" members) none slot ∧ slot.getD 0.0 = x) ↔
      valuesOf "ActionValue" members = [] ∧ x = 0.0 ∨
        ∃ value, valuesOf "ActionValue" members = [value] ∧ Denotes .number value x := by
  constructor
  · rintro ⟨slot, hslot, rfl⟩
    cases slot with
    | none => exact .inl ⟨fills_none_iff.mp hslot, rfl⟩
    | some x => exact .inr (fills_some_iff.mp hslot)
  · rintro (⟨hvalues, rfl⟩ | hvalue)
    · exact ⟨none, fills_none_iff.mpr hvalues, rfl⟩
    · exact ⟨some x, fills_some_iff.mpr hvalue, rfl⟩

theorem exists_draft_iff {members : List Member} {record : RuleRecord} :
    (∃ draft, PutsAll shape.fields members shape.start draft ∧
      shape.finish draft = .ok record) ↔ IsFormat members record := by
  constructor
  · rintro ⟨draft, hputs, hfinish⟩
    obtain ⟨hcondition, haction, hvalue⟩ := finish_eq_ok_iff.mp hfinish
    have hconditions := conditionSlot.fills hputs
    have hactions := actionSlot.fills hputs
    rw [hcondition] at hconditions
    rw [haction] at hactions
    exact ⟨fills_some_iff.mp hconditions, fills_some_iff.mp hactions,
      exists_fills_value_iff.mp ⟨_, valueSlot.fills hputs, hvalue⟩⟩
  · rintro ⟨hcondition, haction, hvalue⟩
    have hconditions := fills_some_iff.mpr hcondition
    have hactions := fills_some_iff.mpr haction
    obtain ⟨slot, hslot, hgetD⟩ := exists_fills_value_iff.mpr hvalue
    obtain ⟨draft, hputs⟩ : ∃ draft, PutsAll shape.fields members shape.start draft := by
      refine exists_putsAll (List.forall_mem_cons.mpr ⟨⟨_, conditionSlot, _, hconditions⟩,
        List.forall_mem_cons.mpr ⟨⟨_, actionSlot, _, hactions⟩,
          List.forall_mem_cons.mpr ⟨⟨_, valueSlot, slot, hslot⟩, ?_⟩⟩⟩)
      exact fun field hfield => absurd hfield List.not_mem_nil
    refine ⟨draft, hputs, finish_eq_ok_iff.mpr ⟨?_, ?_, ?_⟩⟩
    · exact (conditionSlot.fills hputs).unique hconditions
    · exact (actionSlot.fills hputs).unique hactions
    · rw [(valueSlot.fills hputs).unique hslot, hgetD]

theorem IsFormat.congr {members members' : List Member} {record : RuleRecord}
    (h : IsFormat members record)
    (hvalues : ∀ field ∈ shape.fields, valuesOf field.name members = valuesOf field.name members') :
    IsFormat members' record := by
  obtain ⟨hcondition, haction, hvalue⟩ := h
  simp only [shape, List.forall_mem_cons] at hvalues
  obtain ⟨hconditions, hactions, hamounts, -⟩ := hvalues
  rw [hconditions] at hcondition
  rw [hactions] at haction
  rw [hamounts] at hvalue
  exact ⟨hcondition, haction, hvalue⟩

theorem parse_eq_ok_iff {members : List Member} {text : String} {record : RuleRecord}
    (h : IsObjectOf members text.toList) : parse text = .ok record ↔ IsFormat members record := by
  rw [parse, Shape.readWhole_object_iff h, exists_draft_iff]

end LoanPricing.RuleRecord
