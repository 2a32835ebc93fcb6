import LoanPricing.Proofs.Decimal.Characters
import LoanPricing.Proofs.Rules.Compile
import LoanPricing.Proofs.Rules.Visits
import LoanPricing.Proofs.Rules.Vocabulary

/-!
# Strict mode — lenient mode, and no unknown tag

Strict mode accepts exactly the records that lenient mode accepts and that leave no rule with an
unknown tag, and makes the same rules of them. What it accepts never gives a diagnostic
afterwards, on whatever product: no rule is skipped, and none is without effect.
-/

namespace LoanPricing

open RuleRecord (rulesFrom firstFault?)

/-! ## 1. The two modes -/

theorem RuleRecord.firstFault?_strict_eq_none_iff {index : Nat} {records : List RuleRecord} :
    firstFault? .strict index records = none ↔
      firstFault? .lenient index records = none ∧
        ∀ rule ∈ rulesFrom index records, rule.hasUnknownTag = false := by
  induction records generalizing index with
  | nil => simp
  | cons record records ih =>
    rw [firstFault?_cons, firstFault?_cons, Option.or_eq_none_iff, Option.or_eq_none_iff, ih,
      fault?_strict_eq_none_iff, rulesFrom_cons, List.forall_mem_cons]
    constructor
    · rintro ⟨⟨hfault, hknown⟩, hfaults, hall⟩
      exact ⟨⟨hfault, hfaults⟩, hknown, hall⟩
    · rintro ⟨⟨hfault, hfaults⟩, hknown, hall⟩
      exact ⟨⟨hfault, hknown⟩, hfaults, hall⟩

namespace RuleSet

theorem unknownTagCount_eq_zero_iff {set : RuleSet} :
    set.unknownTagCount = 0 ↔ ∀ rule ∈ set.rules, rule.hasUnknownTag = false := by
  simp [unknownTagCount, List.countP_eq_zero]

theorem compile_strict_eq_ok_iff {records : List RuleRecord} {set : RuleSet} :
    (compile .strict records).value = .ok set ↔
      (compile .lenient records).value = .ok set ∧ set.unknownTagCount = 0 := by
  rw [compile_value, compile_value, orFault_eq_ok_iff, orFault_eq_ok_iff,
    RuleRecord.firstFault?_strict_eq_none_iff, unknownTagCount_eq_zero_iff]
  constructor
  · rintro ⟨⟨hlenient, hknown⟩, rfl⟩
    exact ⟨⟨hlenient, rfl⟩, hknown⟩
  · rintro ⟨⟨hlenient, rfl⟩, hknown⟩
    exact ⟨⟨hlenient, hknown⟩, rfl⟩

theorem load_strict_eq_ok_iff {text : String} {set : RuleSet} :
    (load .strict text).value = .ok set ↔
      (load .lenient text).value = .ok set ∧ set.unknownTagCount = 0 := by
  rw [load_eq_ok_iff, load_eq_ok_iff]
  constructor
  · rintro ⟨records, hread, hcompile⟩
    obtain ⟨hlenient, hcount⟩ := compile_strict_eq_ok_iff.mp hcompile
    exact ⟨⟨records, hread, hlenient⟩, hcount⟩
  · rintro ⟨⟨records, hread, hlenient⟩, hcount⟩
    exact ⟨records, hread, compile_strict_eq_ok_iff.mpr ⟨hlenient, hcount⟩⟩

end RuleSet

/-! ## 2. Rules that strict mode accepts -/

-- Every rule of a set that strict mode has compiled stands for a record with known tags.
theorem RuleSet.exists_rule_of_compile_strict {records : List RuleRecord} {set : RuleSet}
    (h : (RuleSet.compile .strict records).value = .ok set) {rule : Rule} (hr : rule ∈ set.rules) :
    ∃ index record, rule = RuleRecord.rule index record ∧ rule.hasUnknownTag = false := by
  obtain ⟨index, record, hrule⟩ := exists_rule_of_compile h hr
  have hcount : set.unknownTagCount = 0 := (compile_strict_eq_ok_iff.mp h).2
  exact ⟨index, record, hrule, unknownTagCount_eq_zero_iff.mp hcount rule hr⟩

theorem Rule.hasUnknownTag_eq_false_iff {r : Rule} :
    r.hasUnknownTag = false ↔ r.condition.isKnown = true ∧ r.action.isKnown = true := by
  simp [hasUnknownTag]

-- A rule with known tags either does not match or is applied.
theorem Rule.verdict_of_known {r : Rule} (h : r.hasUnknownTag = false) (p : Product) :
    (r.visit p).verdict = .notMatched ∨ (r.visit p).verdict = .applied := by
  obtain ⟨hc, ha⟩ := hasUnknownTag_eq_false_iff.mp h
  cases hh : r.condition.holds p with
  | false => exact .inl (by rw [visit_of_not_holds hc hh])
  | true => exact .inr (by rw [visit_of_known hc hh ha])

theorem Rule.diagnostic?_of_known {r : Rule} (h : r.hasUnknownTag = false) (p : Product) :
    (r.visit p).diagnostic? = none := by
  unfold Visit.diagnostic?
  rcases r.verdict_of_known h p with hv | hv <;> rw [hv]

/-! ## 3. The lines of a trace

A line names the condition, the action and the verdict. Of known ones no text has a capital `K` or
a capital `F`, so that neither `SKIPPED` nor `NO_EFFECT` can stand anywhere in the line.
-/

-- A character that stands in no part of a line of the trace does not stand in the line.
theorem Visit.not_mem_shown {v : Visit} {k : Char} (hk : k.isDigit = false)
    (hfixed : k ∉ "rules[]: if then =>".toList) (hc : k ∉ v.rule.condition.shown.toList)
    (ha : k ∉ v.rule.action.shown.toList) (hv : k ∉ v.verdict.shown.toList) :
    k ∉ v.shown.toList := by
  have hindex : k ∉ Text.ofNat v.rule.index := by
    intro hmem
    rw [Decimal.mem_ofNat hmem] at hk
    exact Bool.noConfusion hk
  have hsub : ∀ s : String, s.toList ⊆ "rules[]: if then =>".toList → k ∉ s.toList :=
    fun s hs hmem => hfixed (hs hmem)
  unfold Visit.shown
  simp only [String.toList_append, List.mem_append, String.toList_ofList, not_or]
  exact ⟨⟨⟨⟨⟨⟨⟨hsub _ (by decide), hindex⟩, hsub _ (by decide)⟩, hc⟩, hsub _ (by decide)⟩, ha⟩,
    hsub _ (by decide)⟩, hv⟩

theorem Condition.not_mem_shown_ofTag {tag : String} {k : Char} (hk : k = 'K' ∨ k = 'F')
    (h : (ofTag tag).isKnown = true) : k ∉ (ofTag tag).shown.toList := by
  rcases ofTag_cases tag with htag | htag | htag | htag
  · rw [htag]
    rcases hk with rfl | rfl <;> decide +kernel
  · rw [htag]
    rcases hk with rfl | rfl <;> decide +kernel
  · rw [htag]
    rcases hk with rfl | rfl <;> decide +kernel
  · rw [htag] at h
    exact Bool.noConfusion h

theorem Action.mem_shownAdjustment {c : Char} {way : Direction} {amount : Float}
    (h : c ∈ (shownAdjustment way amount).toList) :
    c ∈ "interest_rate +-= ".toList ∨ Decimal.isPlainCharacter c = true := by
  have hfixed : ∀ s : String, s.toList ⊆ "interest_rate +-= ".toList → c ∈ s.toList →
      c ∈ "interest_rate +-= ".toList ∨ Decimal.isPlainCharacter c = true :=
    fun s hs hmem => .inl (hs hmem)
  unfold shownAdjustment at h
  simp only [String.toList_append, List.mem_append, String.toList_ofList] at h
  rcases h with (h | h) | h
  · exact hfixed _ (by decide) h
  · split at h
    · exact hfixed _ (by decide) h
    · exact hfixed _ (by decide) h
  · exact .inr (Decimal.mem_plain h)

theorem Action.not_mem_shown_ofTag {tag : String} {value : Float} {k : Char}
    (hk : k = 'K' ∨ k = 'F') (h : (ofTag tag value).isKnown = true) :
    k ∉ (ofTag tag value).shown.toList := by
  rcases ofTag_cases tag value with htag | ⟨way, htag⟩ | htag
  · rw [htag]
    rcases hk with rfl | rfl <;> decide +kernel
  · rw [htag]
    intro hmem
    have hshown := mem_shownAdjustment hmem
    revert hshown
    rcases hk with rfl | rfl <;> decide +kernel
  · rw [htag] at h
    exact Bool.noConfusion h

theorem RuleRecord.not_mem_shown_of_known {index : Nat} {record : RuleRecord} {k : Char}
    (hk : k = 'K' ∨ k = 'F') (h : (record.rule index).hasUnknownTag = false) (p : Product) :
    k ∉ ((record.rule index).visit p).shown.toList := by
  obtain ⟨hc, ha⟩ := Rule.hasUnknownTag_eq_false_iff.mp h
  apply Visit.not_mem_shown
  · rcases hk with rfl | rfl <;> decide
  · rcases hk with rfl | rfl <;> decide
  · exact Condition.not_mem_shown_ofTag hk hc
  · exact Action.not_mem_shown_ofTag hk ha
  · rcases Rule.verdict_of_known h p with hv | hv
    · rw [hv]
      rcases hk with rfl | rfl <;> decide
    · rw [hv]
      rcases hk with rfl | rfl <;> decide

/-- What strict mode compiles gives no diagnostic on any product, and no line of a trace says that
a rule is skipped or without effect. -/
theorem RuleSet.evaluate_of_compile_strict {records : List RuleRecord} {set : RuleSet}
    (h : (compile .strict records).value = .ok set) (tracing : Bool) (p : Product) :
    let report := (evaluate tracing (some set) p).value.report
    report.diagnostics = [] ∧
      ∀ line ∈ report.trace, ¬ "SKIPPED".toList <:+: line.toList ∧
        ¬ "NO_EFFECT".toList <:+: line.toList := by
  rw [evaluate_value]
  constructor
  · show (set.rules.map (Rule.visit p)).filterMap Visit.diagnostic? = []
    rw [List.filterMap_eq_nil_iff, List.forall_mem_map]
    intro rule hrule
    obtain ⟨index, record, rfl, hknown⟩ := exists_rule_of_compile_strict h hrule
    exact Rule.diagnostic?_of_known hknown p
  · intro line hline
    replace hline : line ∈ (set.rules.map (Rule.visit p)).map Visit.shown := by
      cases tracing with
      | false => exact absurd hline List.not_mem_nil
      | true => exact hline
    rw [List.map_map] at hline
    obtain ⟨rule, hrule, rfl⟩ := List.mem_map.mp hline
    obtain ⟨index, record, rfl, hknown⟩ := exists_rule_of_compile_strict h hrule
    constructor
    · intro hinfix
      have hmem : 'K' ∈ ((RuleRecord.rule index record).visit p).shown.toList :=
        hinfix.subset (by decide)
      exact RuleRecord.not_mem_shown_of_known (.inl rfl) hknown p hmem
    · intro hinfix
      have hmem : 'F' ∈ ((RuleRecord.rule index record).visit p).shown.toList :=
        hinfix.subset (by decide)
      exact RuleRecord.not_mem_shown_of_known (.inr rfl) hknown p hmem

/-- **Strict mode is lenient mode without unknown tags.** It accepts the records, and the texts,
that lenient mode accepts and in which it finds no unknown tag, and makes the same rules of them;
and evaluating these rules never gives a diagnostic, nor a line of a trace that says that a rule is
skipped or without effect. -/
theorem strict_iff_lenient_and_known :
    (∀ (records : List RuleRecord) (set : RuleSet),
      (RuleSet.compile .strict records).value = .ok set ↔
        (RuleSet.compile .lenient records).value = .ok set ∧ set.unknownTagCount = 0) ∧
    (∀ (text : String) (set : RuleSet),
      (RuleSet.load .strict text).value = .ok set ↔
        (RuleSet.load .lenient text).value = .ok set ∧ set.unknownTagCount = 0) ∧
    ∀ set : RuleSet,
      ((∃ records, (RuleSet.compile .strict records).value = .ok set) ∨
        ∃ text, (RuleSet.load .strict text).value = .ok set) →
      ∀ (tracing : Bool) (p : Product),
        let report := (evaluate tracing (some set) p).value.report
        report.diagnostics = [] ∧
          ∀ line ∈ report.trace, ¬ "SKIPPED".toList <:+: line.toList ∧
            ¬ "NO_EFFECT".toList <:+: line.toList := by
  refine ⟨fun _ _ => RuleSet.compile_strict_eq_ok_iff, fun _ _ => RuleSet.load_strict_eq_ok_iff, ?_⟩
  rintro set (⟨records, hcompile⟩ | ⟨text, hload⟩)
  · exact RuleSet.evaluate_of_compile_strict hcompile
  · obtain ⟨records, -, hcompile⟩ := RuleSet.load_eq_ok_iff.mp hload
    exact RuleSet.evaluate_of_compile_strict hcompile

/-- A record that both modes take. -/
theorem strict_iff_lenient_and_known_florida :
    let records : List RuleRecord := [⟨"Florida", "DISQUALIFY", 0⟩]
    ∃ set, (RuleSet.compile .strict records).value = .ok set ∧
      set.rules = [⟨0, .stateIs "florida", .disqualify⟩] ∧
      ∀ p : Product, (evaluate true (some set) p).value.report.diagnostics = [] := by
  intro records
  have hcondition : Condition.ofTag "Florida" = .stateIs "florida" := by decide +kernel
  have haction : Action.ofTag "DISQUALIFY" 0 = .disqualify := by decide +kernel
  have hrules : rulesFrom 0 records = [⟨0, .stateIs "florida", .disqualify⟩] := by
    rw [RuleRecord.rulesFrom_cons, RuleRecord.rulesFrom_nil, RuleRecord.rule, hcondition, haction]
  have hlenient :
      (RuleSet.compile .lenient records).value = .ok { rules := rulesFrom 0 records } :=
    RuleSet.compile_lenient_of_isFinite (by decide)
  obtain ⟨hmodes, -, hreport⟩ := strict_iff_lenient_and_known
  have hstrict := (hmodes records _).mpr ⟨hlenient, by rw [hrules]; decide⟩
  exact ⟨_, hstrict, hrules, fun p => (hreport _ (.inl ⟨records, hstrict⟩) true p).1⟩

end LoanPricing
