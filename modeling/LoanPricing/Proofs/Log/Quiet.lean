import LoanPricing.Log.Record

/-!
# Quiet filters — logs of which only the printed lines are left

All notices and scopes are of the levels `info` and `debug`. A filter that enables neither shows
none of them: it lets nothing through outside of all scopes, and as it shows no scope it does not let
more through inside. What is left of a log are the lines that are printed whatever the filter says.
-/

namespace LoanPricing.Log

/-! ## 1. Printed lines -/

/-- The lines that are shown whatever a filter says. -/
def printed (entries : List Entry) : List String :=
  entries.filterMap fun
    | .print line => some line
    | _ => none

@[simp] theorem printed_append (xs ys : List Entry) :
    printed (xs ++ ys) = printed xs ++ printed ys := by
  simp [printed]

theorem printed_map_note {α : Type} (notice : α → Notice) (as : List α) :
    printed (as.map fun a => .note (notice a)) = [] := by
  induction as with
  | nil => rfl
  | cons a as ih => exact ih

theorem printed_map_print {α : Type} (line : α → String) (as : List α) :
    printed (as.map fun a => .print (line a)) = as.map line := by
  induction as with
  | nil => rfl
  | cons a as ih =>
    show line a :: printed (as.map fun a => .print (line a)) = line a :: as.map line
    rw [ih]

namespace Logged

variable {α β : Type}

/-- The lines that are printed on the way to a value. -/
def prints (x : Logged α) : List String :=
  printed x.entries

@[simp] theorem prints_pure (a : α) : (pure a : Logged α).prints = [] := rfl

@[simp] theorem prints_note (n : Notice) : (note n).prints = [] := rfl

@[simp] theorem prints_bind (x : Logged α) (f : α → Logged β) :
    (x >>= f).prints = x.prints ++ (f x.value).prints :=
  printed_append x.entries (f x.value).entries

@[simp] theorem prints_within (scope : Scope) (x : Logged α) :
    (within scope x).prints = x.prints := by
  show printed ([.enter scope] ++ x.entries ++ [.leave scope]) = printed x.entries
  rw [printed_append, printed_append]
  exact List.append_nil _

end Logged

/-! ## 2. Levels that a filter enables -/

namespace Filter

/-- Whether a filter enables a level: it shows some notice or some scope of this level that is not
inside another scope. -/
def Enables (f : Filter) (l : Level) : Prop :=
  (∃ n : Notice, n.level = l ∧ f.showsNotice [] n = true) ∨
    ∃ s : Scope, s.level = l ∧ f.showsScope [] s = true

-- A filter enables nothing that is beyond its ceiling.
theorem not_enables_of_ceiling {f : Filter} {l : Level}
    (h : Threshold.allows f.ceiling l = false) : ¬ f.Enables l := by
  rintro (⟨n, rfl, hshown⟩ | ⟨s, rfl, hshown⟩)
  · rw [showsNotice, h, Bool.false_and] at hshown
    exact Bool.noConfusion hshown
  · rw [showsScope, h, Bool.false_and] at hshown
    exact Bool.noConfusion hshown

/-- A filter that shows nothing outside of scopes. -/
structure IsQuiet (f : Filter) : Prop where
  hidesNotice : ∀ n, f.showsNotice [] n = false
  hidesScope : ∀ s, f.showsScope [] s = false

end Filter

theorem Notice.level_cases (n : Notice) : n.level = .info ∨ n.level = .debug := by
  cases n with
  | rulesLoaded => exact .inl rfl
  | evaluationComplete => exact .inl rfl
  | _ => exact .inr rfl

/-- There are no notices and scopes of other levels. -/
theorem Filter.isQuiet_of_not_enables {f : Filter} (hinfo : ¬ f.Enables .info)
    (hdebug : ¬ f.Enables .debug) : f.IsQuiet where
  hidesNotice n := by
    apply eq_false_of_ne_true
    intro hshown
    rcases n.level_cases with hlevel | hlevel
    · exact hinfo (.inl ⟨n, hlevel, hshown⟩)
    · exact hdebug (.inl ⟨n, hlevel, hshown⟩)
  hidesScope s := by
    apply eq_false_of_ne_true
    intro hshown
    exact hinfo (.inr ⟨s, rfl, hshown⟩)

/-! ## 3. What is left of a log -/

theorem thresholds_of_hidden {entered : List OpenScope} (h : ∀ o ∈ entered, o.isShown = false) :
    thresholds entered = [] := by
  have hshown : entered.filter OpenScope.isShown = [] := by
    rw [List.filter_eq_nil_iff]
    intro o ho
    rw [h o ho]
    exact Bool.false_ne_true
  rw [thresholds, hshown, List.filterMap_nil]

/-- A quiet filter leaves the printed lines, in either format. -/
theorem outputs_of_isQuiet {f : Filter} (hquiet : f.IsQuiet) (json : Bool)
    {entered : List OpenScope} (hidden : ∀ o ∈ entered, o.isShown = false)
    (entries : List Entry) :
    outputs f json entered entries = (printed entries).map .print := by
  induction entries generalizing entered with
  | nil => rfl
  | cons entry entries ih =>
    cases entry with
    | print line =>
      show Output.print line :: outputs f json entered entries =
        Output.print line :: (printed entries).map .print
      rw [ih hidden]
    | note n =>
      rw [outputs, thresholds_of_hidden hidden, hquiet.hidesNotice n]
      exact ih hidden
    | enter s =>
      rw [outputs, thresholds_of_hidden hidden, hquiet.hidesScope s]
      -- the scope that is entered is hidden as those before it
      apply ih
      intro o ho
      rcases List.mem_cons.mp ho with rfl | ho
      · rfl
      · exact hidden o ho
    | leave s =>
      have hinnermost : entered.head?.any OpenScope.isShown = false := by
        cases entered with
        | nil => rfl
        | cons o outer => exact hidden o List.mem_cons_self
      rw [outputs, hinnermost, Bool.and_false]
      exact ih fun o ho => hidden o (List.mem_of_mem_tail ho)

end LoanPricing.Log
