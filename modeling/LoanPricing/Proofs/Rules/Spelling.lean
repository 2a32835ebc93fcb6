import LoanPricing.Proofs.Rules.Compile
import LoanPricing.Proofs.Rules.Snapshot
import LoanPricing.Proofs.Rules.Vocabulary
import Mathlib.Data.List.Forall2

/-!
# Spelling — tags in capitals and in small letters

Everything that holds a tag has a small form, in which the tag is written in small letters: records
and rules, errors and diagnostics. Compiling and evaluating go along with small forms, so that what
comes of records in any spelling is, in small form, what comes of the records in small letters. The
main statement is that records which differ in the case of their tags compile alike and are
evaluated alike; each list of diagnostics keeps the spelling of its own records.
-/

namespace LoanPricing

/-! ## 1. Small forms -/

def Condition.lower : Condition → Condition
  | unknown tag => unknown (Text.lower tag)
  | c => c

def Action.lower : Action → Action
  | unknown tag => unknown (Text.lower tag)
  | a => a

def Rule.lower (r : Rule) : Rule where
  index := r.index
  condition := r.condition.lower
  action := r.action.lower

def RuleSet.lower (set : RuleSet) : RuleSet where
  rules := set.rules.map Rule.lower

def RuleRecord.lower (record : RuleRecord) : RuleRecord where
  condition := Text.lower record.condition
  action := Text.lower record.action
  value := record.value

/-- The error about the same rule and for the same reason, with the tag in small letters. -/
def RuleError.lower : RuleError → RuleError
  | unknownConditionTag rule tag => unknownConditionTag rule (Text.lower tag)
  | unknownActionTag rule tag => unknownActionTag rule (Text.lower tag)
  | e => e

/-- The diagnostic of the same kind about the same rule, with the tag in small letters. -/
def Diagnostic.lower : Diagnostic → Diagnostic
  | rulesNotLoaded => rulesNotLoaded
  | unknownCondition rule tag => unknownCondition rule (Text.lower tag)
  | unknownAction rule tag => unknownAction rule (Text.lower tag)

/-- Records that differ at most in the case of their tags. -/
structure RuleRecord.SameIgnoringCase (record record' : RuleRecord) : Prop where
  condition : Text.sameIgnoringCase record.condition record'.condition = true
  action : Text.sameIgnoringCase record.action record'.action = true
  value : record.value = record'.value

theorem RuleRecord.SameIgnoringCase.lower_eq {record record' : RuleRecord}
    (h : record.SameIgnoringCase record') : record.lower = record'.lower := by
  rw [lower, lower, Text.sameIgnoringCase_iff.mp h.condition,
    Text.sameIgnoringCase_iff.mp h.action, h.value]

theorem RuleRecord.map_lower_eq {records records' : List RuleRecord}
    (h : List.Forall₂ SameIgnoringCase records records') :
    records.map lower = records'.map lower := by
  induction h with
  | nil => rfl
  | cons hrecord _ ih => rw [List.map_cons, List.map_cons, hrecord.lower_eq, ih]

/-! ## 2. Conditions and actions -/

namespace Condition

/-- The condition of a tag in small letters is the condition of the tag in small form. -/
theorem ofTag_lower (tag : String) : ofTag (Text.lower tag) = (ofTag tag).lower := by
  simp only [ofTag_eq, Text.sameIgnoringCase_lower]
  split
  · rfl
  split
  · rfl
  split
  · rfl
  · rfl

@[simp] theorem unknownTag?_lower (c : Condition) :
    c.lower.unknownTag? = c.unknownTag?.map Text.lower := by
  cases c <;> rfl

@[simp] theorem isKnown_lower (c : Condition) : c.lower.isKnown = c.isKnown := by
  rw [isKnown, isKnown, unknownTag?_lower, Option.isNone_map]

@[simp] theorem holds_lower (c : Condition) (p : Product) : c.lower.holds p = c.holds p := by
  cases c <;> rfl

end Condition

namespace Action

/-- The action of a tag in small letters is the action of the tag in small form. -/
theorem ofTag_lower (tag : String) (value : Float) :
    ofTag (Text.lower tag) value = (ofTag tag value).lower := by
  simp only [ofTag_eq, Text.sameIgnoringCase_lower]
  split
  · rfl
  split
  · rfl
  split
  · rfl
  · rfl

@[simp] theorem unknownTag?_lower (a : Action) :
    a.lower.unknownTag? = a.unknownTag?.map Text.lower := by
  cases a <;> rfl

@[simp] theorem isKnown_lower (a : Action) : a.lower.isKnown = a.isKnown := by
  rw [isKnown, isKnown, unknownTag?_lower, Option.isNone_map]

@[simp] theorem delta?_lower (a : Action) : a.lower.delta? = a.delta? := by
  cases a <;> rfl

@[simp] theorem disqualifies_lower (a : Action) : a.lower.disqualifies = a.disqualifies := by
  cases a <;> rfl

end Action

/-! ## 3. Compilation -/

namespace RuleRecord

theorem rule_lower (index : Nat) (record : RuleRecord) :
    record.lower.rule index = (record.rule index).lower := by
  rw [rule, lower, Condition.ofTag_lower, Action.ofTag_lower]
  rfl

theorem rulesFrom_lower (index : Nat) (records : List RuleRecord) :
    rulesFrom index (records.map lower) = (rulesFrom index records).map Rule.lower := by
  induction records generalizing index with
  | nil => rfl
  | cons record records ih =>
    rw [List.map_cons, rulesFrom_cons, rulesFrom_cons, List.map_cons, rule_lower, ih]

theorem tagFault?_lower (mode : Mode) (unknownTag : Option String) {error : String → RuleError}
    (herror : ∀ tag, error (Text.lower tag) = (error tag).lower) :
    tagFault? mode (unknownTag.map Text.lower) error =
      (tagFault? mode unknownTag error).map RuleError.lower := by
  cases mode with
  | lenient => rfl
  | strict =>
    cases unknownTag with
    | none => rfl
    | some tag => exact congrArg some (herror tag)

theorem fault?_lower (mode : Mode) (index : Nat) (record : RuleRecord) :
    record.lower.fault? mode index = (record.fault? mode index).map RuleError.lower := by
  unfold fault?
  rw [rule_lower]
  show (if record.value.isFinite then
      (tagFault? mode (record.rule index).condition.lower.unknownTag? _).or
        (tagFault? mode (record.rule index).action.lower.unknownTag? _) else _) = _
  by_cases hvalue : record.value.isFinite = true
  · rw [if_pos hvalue, if_pos hvalue, Condition.unknownTag?_lower, Action.unknownTag?_lower,
      tagFault?_lower mode _ fun _ => rfl, tagFault?_lower mode _ fun _ => rfl, Option.map_or]
  · rw [if_neg hvalue, if_neg hvalue]
    rfl

theorem firstFault?_lower (mode : Mode) (index : Nat) (records : List RuleRecord) :
    firstFault? mode index (records.map lower) =
      (firstFault? mode index records).map RuleError.lower := by
  induction records generalizing index with
  | nil => rfl
  | cons record records ih =>
    rw [List.map_cons, firstFault?_cons, firstFault?_cons, fault?_lower, ih, Option.map_or]

end RuleRecord

/-- Records in small letters compile to the small form of what the records compile to. -/
theorem RuleSet.compile_lower (mode : Mode) (records : List RuleRecord) :
    (compile mode (records.map RuleRecord.lower)).value =
      ((compile mode records).value.mapError RuleError.lower).map lower := by
  rw [compile_value, compile_value, RuleRecord.firstFault?_lower, RuleRecord.rulesFrom_lower]
  cases RuleRecord.firstFault? mode 0 records <;> rfl

/-- Records that differ in the case of their tags only are refused for the same reason at the same
place, or compile to rules with the same small forms. -/
theorem RuleSet.compile_congr {records records' : List RuleRecord}
    (h : records.map RuleRecord.lower = records'.map RuleRecord.lower) (mode : Mode) :
    (∃ e e', (compile mode records).value = .error e ∧ (compile mode records').value = .error e' ∧
      e.lower = e'.lower) ∨
    ∃ set set', (compile mode records).value = .ok set ∧ (compile mode records').value = .ok set' ∧
      set.lower = set'.lower := by
  have hsmall := compile_lower mode records
  rw [h, compile_lower] at hsmall
  cases hc : (compile mode records).value with
  | error e =>
    cases hc' : (compile mode records').value with
    | error e' =>
      rw [hc, hc'] at hsmall
      exact .inl ⟨e, e', rfl, rfl, (Except.error.inj hsmall).symm⟩
    | ok set' =>
      rw [hc, hc'] at hsmall
      injection hsmall
  | ok set =>
    cases hc' : (compile mode records').value with
    | error e' =>
      rw [hc, hc'] at hsmall
      injection hsmall
    | ok set' =>
      rw [hc, hc'] at hsmall
      exact .inr ⟨set, set', rfl, rfl, (Except.ok.inj hsmall).symm⟩

/-! ## 4. Evaluation -/

namespace Rule

@[simp] theorem hasUnknownTag_lower (r : Rule) : r.lower.hasUnknownTag = r.hasUnknownTag := by
  show (!r.condition.lower.isKnown || !r.action.lower.isKnown) = _
  rw [Condition.isKnown_lower, Action.isKnown_lower]
  rfl

@[simp] theorem fires_lower (r : Rule) (p : Product) : r.lower.fires p = r.fires p := by
  show (r.condition.lower.isKnown && r.condition.lower.holds p) = _
  rw [Condition.isKnown_lower, Condition.holds_lower]
  rfl

theorem snapshotDiagnostic?_lower (r : Rule) (p : Product) :
    r.lower.snapshotDiagnostic? p = (r.snapshotDiagnostic? p).map Diagnostic.lower := by
  rw [snapshotDiagnostic?_eq, snapshotDiagnostic?_eq]
  show (r.condition.lower.unknownTag?.map _).or
      (if r.condition.lower.holds p then r.action.lower.unknownTag?.map _ else none) = _
  rw [Condition.unknownTag?_lower, Condition.holds_lower, Action.unknownTag?_lower]
  cases r.condition.unknownTag? with
  | some tag => rfl
  | none => cases r.condition.holds p <;> cases r.action.unknownTag? <;> rfl

end Rule

theorem firedRules_lower (rs : List Rule) (p : Product) :
    firedRules (rs.map Rule.lower) p = (firedRules rs p).map Rule.lower := by
  unfold firedRules
  rw [List.filter_map]
  congr 2
  funext r
  exact r.fires_lower p

theorem snapshotProduct_lower (rs : List Rule) (p : Product) :
    snapshotProduct (rs.map Rule.lower) p = snapshotProduct rs p := by
  have hdelta : ((fun r => r.action.delta?) ∘ Rule.lower) = fun r => r.action.delta? :=
    funext fun r => r.action.delta?_lower
  have hdisqualifies : ((fun r => r.action.disqualifies) ∘ Rule.lower) =
      fun r => r.action.disqualifies :=
    funext fun r => r.action.disqualifies_lower
  rw [snapshotProduct, snapshotProduct, firedRules_lower, List.filterMap_map, List.any_map, hdelta,
    hdisqualifies]

namespace RuleSet

theorem unknownTagCount_lower (set : RuleSet) :
    set.lower.unknownTagCount = set.unknownTagCount := by
  unfold unknownTagCount lower
  rw [List.countP_map]
  congr 1
  funext r
  exact r.hasUnknownTag_lower

/-- The small form of rules does to a product what the rules do, and reports the same, with the tags
in small letters. -/
theorem evaluate_lower (tracing : Bool) (set : RuleSet) (p : Product) :
    let small := (evaluate tracing (some set.lower) p).value
    let e := (evaluate tracing (some set) p).value
    small.product = e.product ∧ small.report.rulesEvaluated = e.report.rulesEvaluated ∧
      small.report.matchedRules = e.report.matchedRules ∧
      small.report.diagnostics = e.report.diagnostics.map Diagnostic.lower := by
  refine ⟨?_, ?_, ?_, ?_⟩
  · rw [product_evaluate, product_evaluate]
    exact snapshotProduct_lower set.rules p
  · rw [evaluate_value, evaluate_value]
    show ((set.rules.map Rule.lower).map (Rule.visit p)).length = (set.rules.map _).length
    rw [List.length_map, List.length_map, List.length_map]
  · rw [matchedRules_evaluate, matchedRules_evaluate]
    show (firedRules (set.rules.map Rule.lower) p).map Rule.index = _
    rw [firedRules_lower, List.map_map]
    rfl
  · rw [diagnostics_evaluate, diagnostics_evaluate]
    show (set.rules.map Rule.lower).filterMap (Rule.snapshotDiagnostic? p) = _
    rw [List.filterMap_map, List.map_filterMap]
    congr 1
    funext r
    exact r.snapshotDiagnostic?_lower p

end RuleSet

/-! ## 5. Quoted tags -/

/-- Whether a diagnostic quotes the record at its place, in the spelling of the record. -/
def Diagnostic.Quotes (records : List RuleRecord) : Diagnostic → Prop
  | rulesNotLoaded => False
  | unknownCondition rule tag => records[rule]?.map RuleRecord.condition = some tag
  | unknownAction rule tag => records[rule]?.map RuleRecord.action = some tag

-- An unknown tag is kept as it is spelled.
theorem Condition.eq_of_ofTag_eq_unknown {tag kept : String} (h : ofTag tag = .unknown kept) :
    tag = kept := by
  rcases ofTag_cases tag with htag | htag | htag | htag
  · exact Condition.noConfusion (htag.symm.trans h)
  · exact Condition.noConfusion (htag.symm.trans h)
  · exact Condition.noConfusion (htag.symm.trans h)
  · exact Condition.unknown.inj (htag.symm.trans h)

theorem Action.eq_of_ofTag_eq_unknown {tag kept : String} {value : Float}
    (h : ofTag tag value = .unknown kept) : tag = kept := by
  rcases ofTag_cases tag value with htag | ⟨way, htag⟩ | htag
  · exact Action.noConfusion (htag.symm.trans h)
  · exact Action.noConfusion (htag.symm.trans h)
  · exact Action.unknown.inj (htag.symm.trans h)

/-- Every diagnostic of compiled records quotes one of them. -/
theorem RuleSet.quotes_of_mem_diagnostics {mode : Mode} {records : List RuleRecord} {set : RuleSet}
    (h : (compile mode records).value = .ok set) (tracing : Bool) (p : Product) :
    ∀ d ∈ (evaluate tracing (some set) p).value.report.diagnostics, d.Quotes records := by
  intro d hd
  rw [diagnostics_evaluate, rules_of_compile h, List.mem_filterMap] at hd
  obtain ⟨rule, hrule, hd⟩ := hd
  obtain ⟨⟨record, index⟩, hnumbered, rfl⟩ := List.mem_map.mp hrule
  have hplace : records[index]? = some record := List.mk_mem_zipIdx_iff_getElem?.mp hnumbered
  rcases Rule.snapshotDiagnostic?_cases hd with ⟨tag, rfl, hc⟩ | ⟨tag, rfl, ha, -⟩
  · show records[index]?.map RuleRecord.condition = some tag
    rw [hplace, ← Condition.eq_of_ofTag_eq_unknown hc]
    rfl
  · show records[index]?.map RuleRecord.action = some tag
    rw [hplace, ← Action.eq_of_ofTag_eq_unknown ha]
    rfl

/-! ## 6. Characters of other alphabets -/

/-- A tag with a character that is not ASCII is not found in a vocabulary that is all ASCII. -/
theorem Text.lookup_lower_of_not_ascii {α : Type} {vocabulary : List (String × α)}
    (hall : vocabulary.all (fun entry => entry.1.toList.all (·.toNat < 128)) = true) {tag : String}
    {c : Char} (hc : c ∈ tag.toList) (hascii : 128 ≤ c.toNat) :
    vocabulary.lookup (Text.lower tag) = none := by
  have hlower : c.toLower = c := by
    apply Text.toLower_of_not_capital
    intro hcapital
    have hle : c.toNat ≤ 90 := hcapital.2
    omega
  have hmem : c ∈ (Text.lower tag).toList := by
    rw [Text.toList_lower, ← hlower]
    exact List.mem_map_of_mem hc
  rw [List.lookup_eq_none_iff]
  intro entry hentry
  apply bne_iff_ne.mpr
  intro htag
  have hsmall := List.all_eq_true.mp (List.all_eq_true.mp hall entry hentry) c (htag ▸ hmem)
  have hlt : c.toNat < 128 := of_decide_eq_true hsmall
  omega

theorem Condition.ofTag_of_not_ascii {tag : String} {c : Char} (hc : c ∈ tag.toList)
    (hascii : 128 ≤ c.toNat) : ofTag tag = .unknown tag := by
  rw [ofTag, Text.lookup_lower_of_not_ascii (by decide +kernel) hc hascii, Option.getD_none]

theorem Action.ofTag_of_not_ascii {tag : String} {c : Char} (hc : c ∈ tag.toList)
    (hascii : 128 ≤ c.toNat) (value : Float) : ofTag tag value = .unknown tag := by
  rw [ofTag, Text.lookup_lower_of_not_ascii (by decide +kernel) hc hascii]

/-- **Spelling does not matter.** Lists of records that differ at most in the case of their tags are
both refused, in either mode, by errors of the same kind about the same record, or both compile.
Then they have as many rules with unknown tags, and evaluating any product leaves the same product,
visits as many rules, matches the same ones and gives, one by one, diagnostics of the same kind about
the same rules; but each diagnostic quotes its own record. And a tag with a character that is not
ASCII is never taken for a known one. -/
theorem compile_ignores_case {records records' : List RuleRecord}
    (h : List.Forall₂ RuleRecord.SameIgnoringCase records records') (mode : Mode) :
    ((∃ e e', (RuleSet.compile mode records).value = .error e ∧
        (RuleSet.compile mode records').value = .error e' ∧ e.lower = e'.lower) ∨
      ∃ set set', (RuleSet.compile mode records).value = .ok set ∧
        (RuleSet.compile mode records').value = .ok set' ∧
        set.unknownTagCount = set'.unknownTagCount ∧
        ∀ (tracing : Bool) (p : Product),
          let e := (evaluate tracing (some set) p).value
          let e' := (evaluate tracing (some set') p).value
          e.product = e'.product ∧ e.report.rulesEvaluated = e'.report.rulesEvaluated ∧
            e.report.matchedRules = e'.report.matchedRules ∧
            e.report.diagnostics.map Diagnostic.lower =
              e'.report.diagnostics.map Diagnostic.lower ∧
            (∀ d ∈ e.report.diagnostics, d.Quotes records) ∧
            ∀ d ∈ e'.report.diagnostics, d.Quotes records') ∧
    ∀ (tag : String), (∃ c ∈ tag.toList, 128 ≤ c.toNat) →
      Condition.ofTag tag = .unknown tag ∧ ∀ value, Action.ofTag tag value = .unknown tag := by
  constructor
  · have hsmall : records.map RuleRecord.lower = records'.map RuleRecord.lower :=
      RuleRecord.map_lower_eq h
    rcases RuleSet.compile_congr hsmall mode with hfail | ⟨set, set', hset, hset', hlower⟩
    · exact .inl hfail
    · refine .inr ⟨set, set', hset, hset', ?_, fun tracing p => ?_⟩
      · rw [← set.unknownTagCount_lower, hlower, set'.unknownTagCount_lower]
      · obtain ⟨hproduct, hcount, hmatched, hdiagnostics⟩ := set.evaluate_lower tracing p
        obtain ⟨hproduct', hcount', hmatched', hdiagnostics'⟩ := set'.evaluate_lower tracing p
        rw [hlower] at hproduct hcount hmatched hdiagnostics
        exact ⟨hproduct.symm.trans hproduct', hcount.symm.trans hcount',
          hmatched.symm.trans hmatched', hdiagnostics.symm.trans hdiagnostics',
          RuleSet.quotes_of_mem_diagnostics hset tracing p,
          RuleSet.quotes_of_mem_diagnostics hset' tracing p⟩
  · rintro tag ⟨c, hc, hascii⟩
    exact ⟨Condition.ofTag_of_not_ascii hc hascii,
      fun value => Action.ofTag_of_not_ascii hc hascii value⟩

/-- An unknown action and an unknown condition in two spellings, and a tag with a long `ſ` in it. -/
theorem compile_ignores_case_texas :
    let records : List RuleRecord := [⟨"Florida", "Waive", 0.5⟩, ⟨"Texas", "Disqualify", 0⟩]
    let records' : List RuleRecord := [⟨"FLORIDA", "wAIVE", 0.5⟩, ⟨"TEXAS", "disqualify", 0⟩]
    List.Forall₂ RuleRecord.SameIgnoringCase records records' ∧
      (∃ set set', (RuleSet.compile .lenient records).value = .ok set ∧
        (RuleSet.compile .lenient records').value = .ok set' ∧
        ∀ p : Product,
          let e := (evaluate false (some set) p).value
          let e' := (evaluate false (some set') p).value
          e.product = e'.product ∧
            e.report.diagnostics.map Diagnostic.lower =
              e'.report.diagnostics.map Diagnostic.lower ∧
            ∀ d ∈ e'.report.diagnostics, d.Quotes records') ∧
      Condition.ofTag "creditſcore720" = .unknown "creditſcore720" := by
  intro records records'
  have hflorida : Text.lower "FLORIDA" = "florida" := by decide +kernel
  have hwaive : Text.lower "wAIVE" = "waive" := by decide +kernel
  have htexas : Text.lower "TEXAS" = "texas" := by decide +kernel
  have hdisqualify : Text.lower "disqualify" = "disqualify" := by decide +kernel
  have hfirst : RuleRecord.SameIgnoringCase ⟨"Florida", "Waive", 0.5⟩ ⟨"FLORIDA", "wAIVE", 0.5⟩ :=
    ⟨Text.sameIgnoringCase_of_lower (by decide +kernel) hflorida,
      Text.sameIgnoringCase_of_lower (by decide +kernel) hwaive, rfl⟩
  have hsecond : RuleRecord.SameIgnoringCase ⟨"Texas", "Disqualify", 0⟩ ⟨"TEXAS", "disqualify", 0⟩ :=
    ⟨Text.sameIgnoringCase_of_lower (by decide +kernel) htexas,
      Text.sameIgnoringCase_of_lower (by decide +kernel) hdisqualify, rfl⟩
  have hsame : List.Forall₂ RuleRecord.SameIgnoringCase records records' :=
    .cons hfirst (.cons hsecond .nil)
  obtain ⟨hcompile, hascii⟩ := compile_ignores_case hsame .lenient
  refine ⟨hsame, ?_, (hascii "creditſcore720" ⟨'ſ', by decide, by decide⟩).1⟩
  rcases hcompile with ⟨e, e', he, -⟩ | ⟨set, set', hset, hset', -, halike⟩
  · rw [RuleSet.compile_lenient_of_isFinite (by decide)] at he
    injection he
  · refine ⟨set, set', hset, hset', fun p => ?_⟩
    obtain ⟨hproduct, -, -, hdiagnostics, -, hquotes⟩ := halike false p
    exact ⟨hproduct, hdiagnostics, hquotes⟩

end LoanPricing
