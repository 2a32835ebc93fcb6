import LoanPricing.Rules.Action
import LoanPricing.Rules.Condition

/-!
# Vocabularies — tags compared with one known tag after another

A tag is looked up by its small form in a short list. Read as a decision, that is: compare the tag,
ignoring case, with the first known tag, then with the second, then with the third; any other tag is
kept as it was written.
-/

namespace LoanPricing

private theorem lookup_cons_eq {α : Type} (tag small : String) (a : α)
    (entries : List (String × α)) :
    ((small, a) :: entries).lookup tag = if tag = small then some a else entries.lookup tag := by
  rw [List.lookup_cons]
  by_cases h : tag = small
  · simp [h]
  · simp [h, beq_false_of_ne h]

-- What becomes of the entry that is found in a list of three, given by its tags in small letters.
private theorem lookup_lower_eq {α β : Type} {s₁ s₂ s₃ : String} {a₁ a₂ a₃ : α}
    (f : Option α → β) (tag : String) (h₁ : Text.lower s₁ = s₁) (h₂ : Text.lower s₂ = s₂)
    (h₃ : Text.lower s₃ = s₃) :
    f ([(s₁, a₁), (s₂, a₂), (s₃, a₃)].lookup (Text.lower tag)) =
      if Text.sameIgnoringCase tag s₁ then f (some a₁)
      else if Text.sameIgnoringCase tag s₂ then f (some a₂)
      else if Text.sameIgnoringCase tag s₃ then f (some a₃)
      else f none := by
  have hsmall : ∀ {small : String}, Text.lower small = small →
      (Text.sameIgnoringCase tag small = true ↔ Text.lower tag = small) := by
    intro small h
    rw [Text.sameIgnoringCase_iff, h]
  simp only [lookup_cons_eq, List.lookup_nil, hsmall h₁, hsmall h₂, hsmall h₃]
  by_cases k₁ : Text.lower tag = s₁
  · rw [if_pos k₁, if_pos k₁]
  by_cases k₂ : Text.lower tag = s₂
  · rw [if_neg k₁, if_neg k₁, if_pos k₂, if_pos k₂]
  by_cases k₃ : Text.lower tag = s₃
  · rw [if_neg k₁, if_neg k₁, if_neg k₂, if_neg k₂, if_pos k₃, if_pos k₃]
  · rw [if_neg k₁, if_neg k₁, if_neg k₂, if_neg k₂, if_neg k₃, if_neg k₃]

/-- The condition of a tag, by comparison with the known tags. -/
theorem Condition.ofTag_eq (tag : String) :
    ofTag tag =
      if Text.sameIgnoringCase tag "florida" then .stateIs "florida"
      else if Text.sameIgnoringCase tag "creditscore720" then .creditScoreAtLeast 720
      else if Text.sameIgnoringCase tag "productname7-1arm" then .nameIs "7-1 arm"
      else .unknown tag := by
  have h₁ : Text.lower "florida" = "florida" := by decide +kernel
  have h₂ : Text.lower "creditscore720" = "creditscore720" := by decide +kernel
  have h₃ : Text.lower "productname7-1arm" = "productname7-1arm" := by decide +kernel
  exact lookup_lower_eq (fun entry : Option Condition => entry.getD (.unknown tag)) tag h₁ h₂ h₃

/-- The action of a tag, by comparison with the known tags. -/
theorem Action.ofTag_eq (tag : String) (value : Float) :
    ofTag tag value =
      if Text.sameIgnoringCase tag "disqualify" then .disqualify
      else if Text.sameIgnoringCase tag "reduceinterest" then .adjustRate .down value
      else if Text.sameIgnoringCase tag "increaseinterest" then .adjustRate .up value
      else .unknown tag := by
  have h₁ : Text.lower "disqualify" = "disqualify" := by decide +kernel
  have h₂ : Text.lower "reduceinterest" = "reduceinterest" := by decide +kernel
  have h₃ : Text.lower "increaseinterest" = "increaseinterest" := by decide +kernel
  have hentry : ofTag tag value =
      (vocabulary.lookup (Text.lower tag)).elim (.unknown tag) fun make => make value := by
    unfold ofTag
    cases vocabulary.lookup (Text.lower tag) <;> rfl
  rw [hentry]
  exact lookup_lower_eq
    (fun entry : Option (Float → Action) => entry.elim (.unknown tag) fun make => make value) tag
    h₁ h₂ h₃

-- A condition that a tag names is one of the vocabulary or keeps the tag.
theorem Condition.ofTag_cases (tag : String) :
    ofTag tag = .stateIs "florida" ∨ ofTag tag = .creditScoreAtLeast 720 ∨
      ofTag tag = .nameIs "7-1 arm" ∨ ofTag tag = .unknown tag := by
  rw [ofTag_eq]
  split
  · exact .inl rfl
  split
  · exact .inr (.inl rfl)
  split
  · exact .inr (.inr (.inl rfl))
  · exact .inr (.inr (.inr rfl))

-- An action that a tag names is one of the vocabulary or keeps the tag.
theorem Action.ofTag_cases (tag : String) (value : Float) :
    ofTag tag value = .disqualify ∨ (∃ way, ofTag tag value = .adjustRate way value) ∨
      ofTag tag value = .unknown tag := by
  rw [ofTag_eq]
  split
  · exact .inl rfl
  split
  · exact .inr (.inl ⟨.down, rfl⟩)
  split
  · exact .inr (.inl ⟨.up, rfl⟩)
  · exact .inr (.inr rfl)

end LoanPricing
