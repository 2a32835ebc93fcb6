import LoanPricing.Proofs.Config.Resolution

/-!
# Overrides — variables for text fields

The value of a variable is a flag or a number if it can be read as one, and a text otherwise. A
field of text that is overridden by a variable gets the text of that scalar. A value that reads as
no flag and no number is taken as it is, but a flag in capital letters, a number with zeros in front
or one in another notation is spelled anew on the way.
-/

namespace LoanPricing.Config

variable {disk : Disk} {dir : String} {env before after : Variables} {config : Configuration}
  {layer : List (String × Setting)} {s s' settings settings' : Setting} {names : List String}

/-! ## 1. Settings that differ in one field -/

/-- A layer changes nothing at a place that it leads away from. -/
theorem find?_addLayer_of_apart (h : ∀ m ∈ layer, Apart (stepsOf m.1) names) (s : Setting) :
    (addLayer s layer).find? names = s.find? names := by
  induction layer generalizing s with
  | nil => rfl
  | cons m layer ih =>
    obtain ⟨hm, hlayer⟩ := List.forall_mem_cons.mp h
    rw [addLayer_cons, ih hlayer, find?_alterAt_of_apart hm]

/-- Settings that agree at a place agree there after a layer that does not change the way to it. -/
theorem find?_addLayer_congr
    (h : ∀ m ∈ layer, Apart (stepsOf m.1) names ∨ stepsTo names <+: stepsOf m.1)
    (hs : s'.find? names = s.find? names) :
    (addLayer s' layer).find? names = (addLayer s layer).find? names := by
  induction layer generalizing s s' with
  | nil => exact hs
  | cons m layer ih =>
    obtain ⟨hm, hlayer⟩ := List.forall_mem_cons.mp h
    rw [addLayer_cons, addLayer_cons]
    exact ih hlayer (find?_alterAt_congr hm hs)

/-- Every key leads away from a name or past it. -/
theorem stepsOf_cases (key name : String) :
    Apart (stepsOf key) [name] ∨ stepsTo [name] <+: stepsOf key := by
  obtain ⟨first, more, hsteps⟩ := exists_stepsOf key
  rw [hsteps]
  by_cases hfirst : first = name
  · subst hfirst
    exact .inr ⟨more, rfl⟩
  · exact .inl (.here hfirst)

/-- Steps that lead away from a field do not change the way to the other field of its group. -/
theorem Apart.sibling {steps : List Step} {group name : String} (h : Apart steps [group, name])
    (other : String) : Apart steps [group, other] ∨ stepsTo [group, other] <+: steps := by
  cases h with
  | here hgroup => exact .inl (.here hgroup)
  | further h =>
    cases h with
    | @here key _ more _ hname =>
      by_cases hother : key = other
      · subst hother
        exact .inr ⟨more, rfl⟩
      · exact .inl (.further (.here hother))
    | further h => cases h

theorem isGroup_of_find? {group name : String} {v : Setting}
    (h : settings.find? [group, name] = some v) : IsGroup group settings := by
  intro w hw
  rw [Setting.find?, hw] at h
  exact Setting.isTable_of_find? h

/-- Whatever a group is, once it has been read there is a value for its second field. -/
theorem exists_flag_of_pairOf {group key wanted first second : String} {p q : Slot} {default b : Bool}
    (hpair : pairOf key wanted first second (settings.members.lookup group) = .ok (p, q))
    (hflag : q.read default asFlag = .ok b) :
    ∃ b', valueOr? Scalar.flag? default (settings.find? [group, second]) = some b' := by
  by_cases hgroup : IsGroup group settings
  · rw [pairOf_of_isGroup hgroup] at hpair
    obtain ⟨rfl, rfl⟩ := Prod.mk.inj (Except.ok.inj hpair)
    exact ⟨b, Slot.readFlag_eq_ok_iff.mp hflag⟩
  · -- what is no table has nothing under a name
    cases hfind : settings.find? [group, second] with
    | none => exact ⟨default, rfl⟩
    | some v => exact absurd (isGroup_of_find? hfind) hgroup

/-- Settings that have a scalar at the place of one field of a group. The other field of the group
and everything outside the group are as in other settings. -/
structure Overridden (settings settings' : Setting) (group name other : String) (x : Scalar) :
    Prop where
  field : ∃ origin, settings'.find? [group, name] = some (.scalar origin x)
  sibling : settings'.find? [group, other] = settings.find? [group, other]
  outside : ∀ key ≠ group, settings'.members.lookup key = settings.members.lookup key

namespace Overridden

variable {x : Scalar}

theorem environment {group name other : String}
    (h : Overridden settings settings' group name other x) (hgroup : "environment" ≠ group) :
    Field.environment.read? settings' = Field.environment.read? settings := by
  rw [Field.read?, Field.read?, Field.place, find?_one, find?_one, h.outside _ hgroup]

theorem rules (h : Overridden settings settings' "rules" "path" "strict_tags" x)
    (hok : ofSettings settings = .ok config) :
    ∃ config', ofSettings settings' = .ok config' ∧ config'.rules.path = x.shown := by
  obtain ⟨henvironment, hrules, hlogging⟩ := ofSettings_eq_ok_iff_parts.mp hok
  obtain ⟨⟨p, q⟩, hpair, hrules⟩ := bind_eq_ok_iff.mp hrules
  obtain ⟨path, -, hrules⟩ := bind_eq_ok_iff.mp hrules
  obtain ⟨strictTags, hflag, -⟩ := bind_eq_ok_iff.mp hrules
  obtain ⟨strictTags', hstrict⟩ := exists_flag_of_pairOf hpair hflag
  obtain ⟨origin, hfield⟩ := h.field
  refine ⟨{ config with rules := ⟨x.shown, strictTags'⟩ },
    ofSettings_eq_ok_iff_parts.mpr ⟨?_, ?_, ?_⟩, rfl⟩
  · rw [h.environment (by decide)]
    exact henvironment
  · rw [ruleSourceOf_eq_ok_iff (isGroup_of_find? hfield)]
    constructor
    · rw [Field.read?, Field.place, hfield]
      rfl
    · rw [Field.read?, Field.place, h.sibling]
      exact hstrict
  · rw [h.outside _ (by decide)]
    exact hlogging

theorem logging (h : Overridden settings settings' "observability" "log_level" "json_logs" x)
    (hok : ofSettings settings = .ok config) :
    ∃ config', ofSettings settings' = .ok config' ∧ config'.logging.level = x.shown := by
  obtain ⟨henvironment, hrules, hlogging⟩ := ofSettings_eq_ok_iff_parts.mp hok
  obtain ⟨⟨p, q⟩, hpair, hlogging⟩ := bind_eq_ok_iff.mp hlogging
  obtain ⟨level, -, hlogging⟩ := bind_eq_ok_iff.mp hlogging
  obtain ⟨json, hflag, -⟩ := bind_eq_ok_iff.mp hlogging
  obtain ⟨json', hjson⟩ := exists_flag_of_pairOf hpair hflag
  obtain ⟨origin, hfield⟩ := h.field
  refine ⟨{ config with logging := ⟨x.shown, json'⟩ },
    ofSettings_eq_ok_iff_parts.mpr ⟨?_, ?_, ?_⟩, rfl⟩
  · rw [h.environment (by decide)]
    exact henvironment
  · rw [h.outside _ (by decide)]
    exact hrules
  · rw [loggingOf_eq_ok_iff (isGroup_of_find? hfield)]
    constructor
    · rw [Field.read?, Field.place, hfield]
      rfl
    · rw [Field.read?, Field.place, h.sibling]
      exact hjson

end Overridden

/-! ## 2. One more variable -/

theorem load_eq_ok_iff :
    load disk dir env = .ok config ↔
      ∃ files, addFiles disk (initialSettings env) (fileNames dir env) = .ok files ∧
        ofSettings (addLayer files (variableLayer env)) = .ok config := by
  cases hfiles : addFiles disk (initialSettings env) (fileNames dir env) with
  | error path =>
    rw [initialSettings] at hfiles
    simp [load, gather, hfiles]
  | ok files =>
    rw [initialSettings] at hfiles
    simp [load, gather, hfiles]

theorem variableLayer_insert {name key : String} (hkey : keyOfVariable name = some key) (v : String) :
    variableLayer (before ++ (name, v) :: after) = variableLayer before ++
      (key, .scalar (some environmentOrigin) (scalarOfVariable v)) :: variableLayer after := by
  simp only [variableLayer, List.filterMap_append, List.filterMap_cons, hkey, Option.map_some]

theorem environmentName_insert {name : String} (hname : "PRICING_ENV" ≠ name) (v : String) :
    environmentName (before ++ (name, v) :: after) = environmentName (before ++ after) := by
  rw [environmentName, environmentName, List.lookup_append, List.lookup_append, List.lookup_cons,
    beq_eq_false_iff_ne.mpr hname]

/-- One more variable changes the field that it addresses and nothing outside its group. -/
theorem overridden_insert {key group name other : String} (hname : name ≠ other)
    (hkey : stepsOf key = stepsTo [group, name]) {lower upper : List (String × Setting)}
    (hupper : ∀ m ∈ upper, Apart (stepsOf m.1) [group, name]) (origin : Option String) (x : Scalar)
    (s : Setting) :
    Overridden (addLayer s (lower ++ upper))
      (addLayer s (lower ++ (key, .scalar origin x) :: upper)) group name other x := by
  rw [addLayer_append, addLayer_append, addLayer_cons, hkey]
  refine ⟨⟨origin, ?_⟩, ?_, ?_⟩
  · -- what leads away from the field leaves it as the variable has made it
    have hchange : (alterAt (Setting.scalar origin x).put (stepsTo [group, name] ++ [])
        (addLayer s lower)).find? [group, name] = some (Setting.put (.scalar origin x) _) :=
      find?_alterAt [group, name] [] _
    rw [List.append_nil, Setting.put_scalar] at hchange
    rw [find?_addLayer_of_apart hupper, hchange]
  · have haway : Apart (stepsTo [group, name]) [group, other] := .further (.here hname)
    exact find?_addLayer_congr (fun m hm => (hupper m hm).sibling other)
      (find?_alterAt_of_apart haway _)
  · intro key' hkey'
    have haway : Apart (stepsTo [group, name]) [key'] := .here (Ne.symm hkey')
    rw [← find?_one, ← find?_one]
    exact find?_addLayer_congr (fun m _ => stepsOf_cases m.1 key') (find?_alterAt_of_apart haway _)

/-- The variables that override fields of text inside a group. -/
def textVariables : List (String × Field String) :=
  [("PRICING_RULES__PATH", .rulesPath), ("PRICING_OBSERVABILITY__LOG_LEVEL", .logLevel)]

/-- A value that reads as no flag and no number. -/
structure IsPlainText (v : String) : Prop where
  noFlag : Text.small v.toList ∉ ["true".toList, "false".toList]
  noInt : Text.int64? v.toList = none
  noNumber : Decimal.float? v.toList = none

theorem scalarOfVariable_of_isPlainText {v : String} (h : IsPlainText v) :
    scalarOfVariable v = .text v := by
  obtain ⟨hflag, hint, hnumber⟩ := h
  rw [List.mem_cons, List.mem_singleton, not_or] at hflag
  simp only [scalarOfVariable, hint, hnumber]
  exact (if_neg hflag.1).trans (if_neg hflag.2)

/-- With and without the variable the files are the same. -/
theorem exists_files_insert {name key : String} (hkey : keyOfVariable name = some key)
    (hname : "PRICING_ENV" ≠ name) (v : String)
    (hload : load disk dir (before ++ after) = .ok config) :
    ∃ files,
      ofSettings (addLayer files (variableLayer before ++ variableLayer after)) = .ok config ∧
      ∀ config', ofSettings (addLayer files (variableLayer before ++
          (key, .scalar (some environmentOrigin) (scalarOfVariable v)) :: variableLayer after)) =
            .ok config' →
        load disk dir (before ++ (name, v) :: after) = .ok config' := by
  obtain ⟨files, hfiles, hsettings⟩ := load_eq_ok_iff.mp hload
  rw [variableLayer, List.filterMap_append] at hsettings
  refine ⟨files, hsettings, fun config' hconfig' => load_eq_ok_iff.mpr ⟨files, ?_, ?_⟩⟩
  · rw [initialSettings, defaultLayer, fileNames, environmentName_insert hname]
    exact hfiles
  · rw [variableLayer_insert hkey]
    exact hconfig'

/-- With one more variable there still is a configuration, if there is one of settings that are
overridden in the field that the variable addresses. -/
theorem exists_load_insert {name key group field other : String}
    (hkey : keyOfVariable name = some key) (hname : "PRICING_ENV" ≠ name)
    (hsteps : stepsOf key = stepsTo [group, field]) (hother : field ≠ other)
    (hload : load disk dir (before ++ after) = .ok config)
    (hothers : ∀ m ∈ variableLayer (before ++ after), Apart (stepsOf m.1) [group, field])
    (v : String) {p : Configuration → Prop}
    (hread : ∀ {settings settings'},
      Overridden settings settings' group field other (scalarOfVariable v) →
      ofSettings settings = .ok config → ∃ config', ofSettings settings' = .ok config' ∧ p config') :
    ∃ config', load disk dir (before ++ (name, v) :: after) = .ok config' ∧ p config' := by
  have hupper : ∀ m ∈ variableLayer after, Apart (stepsOf m.1) [group, field] := by
    intro m hm
    refine hothers m ?_
    rw [variableLayer, List.filterMap_append]
    exact List.mem_append_right _ hm
  obtain ⟨files, hsettings, hload'⟩ := exists_files_insert hkey hname v hload
  obtain ⟨config', hconfig', hp⟩ := hread
    (overridden_insert hother hsteps hupper (some environmentOrigin) (scalarOfVariable v) files)
    hsettings
  exact ⟨config', hload' config' hconfig', hp⟩

/-- **A text field gets the text of the scalar that a variable is read as.** Whatever the files and
the other variables say, as long as they give a configuration and no other variable leads to the
field, past it or on the way to it, there still is a configuration with the variable. A value that
reads as no flag and no number is what the field gets; any other is spelled anew. -/
theorem load_override {name : String} {f : Field String} (hvariable : (name, f) ∈ textVariables)
    (hload : load disk dir (before ++ after) = .ok config)
    (hothers : ∀ m ∈ variableLayer (before ++ after), Apart (stepsOf m.1) f.place) (v : String) :
    ∃ config', load disk dir (before ++ (name, v) :: after) = .ok config' ∧
      f.get config' = (scalarOfVariable v).shown ∧ (IsPlainText v → f.get config' = v) := by
  have hshown : ∃ config', load disk dir (before ++ (name, v) :: after) = .ok config' ∧
      f.get config' = (scalarOfVariable v).shown := by
    rcases List.mem_cons.mp hvariable with heq | hvariable
    · obtain ⟨rfl, rfl⟩ := Prod.mk.inj heq
      have hkey : keyOfVariable "PRICING_RULES__PATH" = some "rules.path" := by decide
      have hsteps : stepsOf "rules.path" = stepsTo ["rules", "path"] := by decide +kernel
      exact exists_load_insert hkey (by decide) hsteps (by decide) hload hothers v Overridden.rules
    · obtain ⟨rfl, rfl⟩ := Prod.mk.inj (List.eq_of_mem_singleton hvariable)
      have hkey : keyOfVariable "PRICING_OBSERVABILITY__LOG_LEVEL" =
        some "observability.log_level" := by decide
      have hsteps : stepsOf "observability.log_level" = stepsTo ["observability", "log_level"] := by
        decide +kernel
      exact exists_load_insert hkey (by decide) hsteps (by decide) hload hothers v Overridden.logging
  obtain ⟨config', hconfig', hget⟩ := hshown
  refine ⟨config', hconfig', hget, fun hplain => ?_⟩
  rw [hget, scalarOfVariable_of_isPlainText hplain]
  rfl

/-- A list is all that `default.toml` says about the rules. A path of digits with zeros in front is
another one afterwards, a path with an ending is not. -/
theorem load_override_zeros :
    let disk : Disk := fun path =>
      if path = "default.toml" then .ok (Text.Utf8.encode "rules=[\"r\"]") else .error .notFound
    let before : Variables := [("PRICING_ENV", "p")]
    let after : Variables := [("PRICING_OBSERVABILITY__LOG_LEVEL", "info")]
    load disk "" (before ++ after) =
        .ok { environment := "p", rules := { path := "r" }, logging := { level := "info" } } ∧
      (∃ config, load disk "" (before ++ ("PRICING_RULES__PATH", "007") :: after) = .ok config ∧
        config.rules.path = "7") ∧
      ∃ config, load disk "" (before ++ ("PRICING_RULES__PATH", "007.json") :: after) = .ok config ∧
        config.rules.path = "007.json" := by
  intro disk before after
  have hload : load disk "" (before ++ after) =
      .ok { environment := "p", rules := { path := "r" }, logging := { level := "info" } } :=
    toOption_eq_some_iff.mp (by decide +kernel)
  have hlayer : (variableLayer (before ++ after)).map (fun m => stepsOf m.1) =
      [[.key "env"], [.key "observability", .key "log_level"]] := by decide +kernel
  have hothers : ∀ m ∈ variableLayer (before ++ after),
      Apart (stepsOf m.1) Field.rulesPath.place := by
    intro m hm
    have hsteps := List.mem_map_of_mem (f := fun m => stepsOf m.1) hm
    rw [hlayer] at hsteps
    rcases List.mem_cons.mp hsteps with hsteps | hsteps
    · rw [hsteps]
      exact .here (by decide)
    · rw [List.eq_of_mem_singleton hsteps]
      exact .here (by decide)
  obtain ⟨config, hconfig, hspelled, -⟩ := load_override List.mem_cons_self hload hothers "007"
  obtain ⟨config', hconfig', -, hplain⟩ := load_override List.mem_cons_self hload hothers "007.json"
  have hshown : (scalarOfVariable "007").shown = "7" := by decide +kernel
  have htext : IsPlainText "007.json" := ⟨by decide +kernel, by decide +kernel, by decide +kernel⟩
  exact ⟨hload, ⟨config, hconfig, hspelled.trans hshown⟩, config', hconfig', hplain htext⟩

/-- Without a variable the path is `rules.json`. With the path `007` in a variable it is not `007`,
though that is what it is when the file says so. -/
theorem load_zeros :
    let disk : Disk := fun path =>
      if path = "default.toml" then .ok (Text.Utf8.encode "rules.path=\"007\"")
      else .error .notFound
    load (fun _ => .error .notFound) "" [] = .ok {} ∧
      load (fun _ => .error .notFound) "" [("PRICING_RULES__PATH", "007")] =
        .ok { rules := { path := "7" } } ∧
      load disk "" [] = .ok { rules := { path := "007" } } := by
  refine ⟨rfl, ?_, ?_⟩
  · exact toOption_eq_some_iff.mp (by decide +kernel)
  · exact toOption_eq_some_iff.mp (by decide +kernel)

end LoanPricing.Config
