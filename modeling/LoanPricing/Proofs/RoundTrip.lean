import LoanPricing.Product
import LoanPricing.Proofs.Json.Writing
import LoanPricing.Proofs.Rules.RecordFormat

/-!
# Round trips — records are read back from their texts

A product and a rule come back from the line that is written of them, whatever their texts hold, as
long as their number is read back from its own text. A number that is not finite has no text; the
line has `null` in its place, of which no record comes.
-/

namespace LoanPricing

open Json

/-- A number that is read back from its JSON text, bit by bit. -/
def ReadsBack (x : Float) : Prop :=
  readWhole (readValue .number) (Decimal.json x) = .ok x

theorem readsBack_iff {x : Float} :
    ReadsBack x ↔ (readWhole (readValue .number) (Decimal.json x)).toOption = some x := by
  unfold ReadsBack
  cases readWhole (readValue .number) (Decimal.json x) with
  | error e => simp [Except.toOption]
  | ok y => simp [Except.toOption]

instance (x : Float) : Decidable (ReadsBack x) :=
  decidable_of_iff' _ readsBack_iff

theorem writeNumber_of_isFinite {x : Float} (h : x.isFinite = true) :
    writeNumber x = Decimal.json x :=
  if_pos h

theorem writeNumber_of_not_isFinite {x : Float} (h : x.isFinite = false) :
    writeNumber x = ['n', 'u', 'l', 'l'] :=
  if_neg (by rw [h]; decide)

theorem denotes_writeNumber {x : Float} (hfinite : x.isFinite = true) (hback : ReadsBack x) :
    Denotes .number (writeNumber x) x := by
  rw [writeNumber_of_isFinite hfinite]
  exact denotes_json hback

theorem not_denotes_writeNumber {x : Float} (hfinite : x.isFinite = false) (y : Float) :
    ¬ Denotes .number (writeNumber x) y := by
  rw [writeNumber_of_not_isFinite hfinite]
  exact not_denotes_null y

/-! ## 1. Products -/

namespace Product

theorem rateSlot : IsSlot shape.fields "interest_rate" .number fun d => d.interestRate where
  exists_field := ⟨_, _, rfl, fun _ => rfl, fun _ _ => rfl⟩
  get_set_of_ne := by simp [shape]

/-- The members of the line of a product. -/
def members (p : Product) : List Member :=
  [⟨"name", writeString p.name⟩, ⟨"interest_rate", writeNumber p.interestRate⟩,
    ⟨"state", writeString p.state⟩, ⟨"credit_score", Text.ofInt p.creditScore.toInt⟩,
    ⟨"disqualified", writeFlag p.disqualified⟩]

theorem isObjectOf_line (p : Product) : IsObjectOf p.members p.toJson.line.toList := by
  rw [Value.line, String.toList_ofList]
  exact isObjectOf_write _

theorem parse_line {p : Product} (hfinite : p.interestRate.isFinite = true)
    (hback : ReadsBack p.interestRate) : parse p.toJson.line = .ok p := by
  have hname := denotes_writeString p.name
  have hrate := denotes_writeNumber hfinite hback
  have hstate := denotes_writeString p.state
  have hscore := denotes_ofInt p.creditScore
  have hflag : Denotes .flag (writeFlag p.disqualified) p.disqualified := rfl
  let draft : Draft :=
    { name := some p.name, interestRate := some p.interestRate, state := some p.state
      creditScore := some p.creditScore, disqualified := some p.disqualified }
  -- each member in turn finds its slot empty
  have hputs : PutsAll shape.fields p.members shape.start draft :=
    ⟨_, ⟨rfl, _, hname, rfl⟩, _, ⟨rfl, _, hrate, rfl⟩, _, ⟨rfl, _, hstate, rfl⟩,
      _, ⟨rfl, _, hscore, rfl⟩, _, ⟨rfl, _, hflag, rfl⟩, rfl⟩
  exact (Shape.readWhole_object_iff p.isObjectOf_line).mpr ⟨draft, hputs, rfl⟩

theorem parse_line_of_not_isFinite {p : Product} (hfinite : p.interestRate.isFinite = false) :
    ∃ e, parse p.toJson.line = .error e :=
  rateSlot.error_of_not_denotes p.isObjectOf_line List.mem_cons_self
    (not_denotes_writeNumber hfinite)

end Product

/-! ## 2. Rules -/

namespace RuleRecord

/-- The members of the line of a rule. -/
def members (r : RuleRecord) : List Member :=
  [⟨"Condition", writeString r.condition⟩, ⟨"Action", writeString r.action⟩,
    ⟨"ActionValue", writeNumber r.value⟩]

theorem isObjectOf_line (r : RuleRecord) : IsObjectOf r.members r.toJson.line.toList := by
  rw [Value.line, String.toList_ofList]
  exact isObjectOf_write _

theorem parse_line {r : RuleRecord} (hfinite : r.value.isFinite = true)
    (hback : ReadsBack r.value) : parse r.toJson.line = .ok r :=
  (parse_eq_ok_iff r.isObjectOf_line).mpr
    { condition := ⟨_, rfl, denotes_writeString r.condition⟩
      action := ⟨_, rfl, denotes_writeString r.action⟩
      value := .inr ⟨_, rfl, denotes_writeNumber hfinite hback⟩ }

theorem parse_line_of_not_isFinite {r : RuleRecord} (hfinite : r.value.isFinite = false) :
    ∃ e, parse r.toJson.line = .error e :=
  valueSlot.error_of_not_denotes r.isObjectOf_line List.mem_cons_self
    (not_denotes_writeNumber hfinite)

end RuleRecord

/-! ## 3. Both records -/

/-- **Reading undoes writing.** A product and a rule are read back from their lines as they were, if
their number is finite and is read back from its own text. If it is not finite the line is that of
`null` in its place, and reading it is an error. -/
theorem parse_line_toJson (p : Product) (r : RuleRecord) :
    ((p.interestRate.isFinite = true → ReadsBack p.interestRate →
        Product.parse p.toJson.line = .ok p) ∧
      (p.interestRate.isFinite = false →
        p.toJson.line = (Value.object [("name", .text p.name), ("interest_rate", .null),
          ("state", .text p.state), ("credit_score", .int p.creditScore.toInt),
          ("disqualified", .flag p.disqualified)]).line ∧
        ∃ e, Product.parse p.toJson.line = .error e)) ∧
    (r.value.isFinite = true → ReadsBack r.value → RuleRecord.parse r.toJson.line = .ok r) ∧
      (r.value.isFinite = false →
        r.toJson.line = (Value.object [("Condition", .text r.condition), ("Action", .text r.action),
          ("ActionValue", .null)]).line ∧
        ∃ e, RuleRecord.parse r.toJson.line = .error e) := by
  refine ⟨⟨Product.parse_line, fun h => ⟨?_, Product.parse_line_of_not_isFinite h⟩⟩,
    RuleRecord.parse_line, fun h => ⟨?_, RuleRecord.parse_line_of_not_isFinite h⟩⟩
  · simp only [Product.toJson, Value.line, Value.write, writeMembers, writeNumber_of_not_isFinite h]
  · simp only [RuleRecord.toJson, Value.line, Value.write, writeMembers,
      writeNumber_of_not_isFinite h]

/-- A product whose texts need every kind of escape, and a rule whose amount is no number. -/
theorem parse_line_toJson_escapes :
    let p : Product := { name := "7-1 \"ARM\"\\\n\u0001", interestRate := -0.0, state := "😀é\u007f"
                         creditScore := -2147483648, disqualified := true }
    let r : RuleRecord := { condition := "IsFlorida", action := "Disqualify", value := 0.0 / 0.0 }
    Product.parse p.toJson.line = .ok p ∧
      r.toJson.line = "\x7b\"Condition\":\"IsFlorida\",\"Action\":\"Disqualify\"," ++
        "\"ActionValue\":null\x7d" ∧
      ∃ e, RuleRecord.parse r.toJson.line = .error e := by
  intro p r
  obtain ⟨⟨hproduct, -⟩, -, hrule⟩ := parse_line_toJson p r
  obtain ⟨htext, herror⟩ := hrule (by decide +kernel)
  exact ⟨hproduct (by decide +kernel) (by decide +kernel), by rw [htext]; decide +kernel, herror⟩

end LoanPricing
