import LoanPricing.Proofs.Config.Overrides

/-!
# Reported environments — the file that was read, and the one that is named

The name of the environment is used twice. It chooses a file before any file is read, and it is the
lowest layer of what the files and the variables are added to. They may give another name, and then
it is the other name that a configuration reports. To load again for the reported environment is to
read another file, so that the configuration is the same if this file says what the first one said.
-/

namespace LoanPricing.Config

variable {disk : Disk} {dir name : String} {env env' : Variables} {config : Configuration}
  {layer defaults named : List (String × Setting)} {s s' : Setting}

/-! ## 1. Scalars under a layer -/

/-- A change looks into tables and lists only, so that all scalars become the same. -/
theorem alterAt_put_scalar (v : Setting) (steps : List Step) (origin origin' : Option String)
    (x x' : Scalar) :
    alterAt v.put steps (.scalar origin x) = alterAt v.put steps (.scalar origin' x') := by
  cases steps with
  | cons step steps => cases step <;> rfl
  | nil =>
    show v.put (.scalar origin x) = v.put (.scalar origin' x')
    cases v with
    | table => simp only [Setting.put]
    | empty | scalar | list => simp only [Setting.put]

/-- Either a layer leaves the scalars under a name alone, or there is no difference between them
afterwards. -/
theorem find?_addLayer_scalars {origin origin' : Option String} {x x' : Scalar}
    (hs : s.find? [name] = some (.scalar origin x))
    (hs' : s'.find? [name] = some (.scalar origin' x')) (layer : List (String × Setting)) :
    ((addLayer s layer).find? [name] = some (.scalar origin x) ∧
      (addLayer s' layer).find? [name] = some (.scalar origin' x')) ∨
    (addLayer s' layer).find? [name] = (addLayer s layer).find? [name] := by
  induction layer generalizing s s' with
  | nil => exact .inl ⟨hs, hs'⟩
  | cons m layer ih =>
    rw [addLayer_cons, addLayer_cons]
    rcases stepsOf_cases m.1 name with hapart | ⟨more, hsteps⟩
    · refine ih ?_ ?_
      · rw [find?_alterAt_of_apart hapart, hs]
      · rw [find?_alterAt_of_apart hapart, hs']
    · -- from here on there is no difference any more
      refine .inr (find?_addLayer_congr (fun m _ => stepsOf_cases m.1 name) ?_)
      rw [← hsteps, find?_alterAt, find?_alterAt, hs, hs', Option.getD_some, Option.getD_some,
        alterAt_put_scalar m.2 more origin' origin x' x]

/-! ## 2. The variable that chooses the environment -/

/-- The variables but for the one that chooses the environment. -/
def otherVariables (env : Variables) : Variables :=
  env.filter fun v => v.1 != "PRICING_ENV"

theorem variableLayer_cons (v : String × String) (env : Variables) :
    variableLayer (v :: env) = variableLayer [v] ++ variableLayer env := by
  rw [variableLayer, variableLayer, variableLayer, ← List.filterMap_append, List.singleton_append]

/-- The variable that chooses the environment is no setting of its own. -/
theorem find?_addLayer_otherVariables (hname : name ≠ "env") (env : Variables) (s : Setting) :
    (addLayer s (variableLayer env)).find? [name] =
      (addLayer s (variableLayer (otherVariables env))).find? [name] := by
  induction env generalizing s with
  | nil => rfl
  | cons v env ih =>
    obtain ⟨variableName, value⟩ := v
    rw [variableLayer_cons, addLayer_append, ih]
    by_cases hv : variableName = "PRICING_ENV"
    · subst hv
      have hkey : keyOfVariable "PRICING_ENV" = some "env" := by decide
      have hsteps : stepsOf "env" = [.key "env"] := stepsOf_of_name (by decide)
      have hlayer : variableLayer [("PRICING_ENV", value)] =
          [("env", .scalar (some environmentOrigin) (scalarOfVariable value))] :=
        @variableLayer_insert [] [] _ _ hkey value
      rw [hlayer, addLayer_cons, hsteps]
      exact find?_addLayer_congr (fun m _ => stepsOf_cases m.1 name)
        (find?_alterAt_of_apart (.here (Ne.symm hname)) s)
    · have hothers : otherVariables ((variableName, value) :: env) =
          (variableName, value) :: otherVariables env :=
        List.filter_cons_of_pos (bne_iff_ne.mpr hv)
      rw [hothers, variableLayer_cons _ (otherVariables env), addLayer_append]

/-- The layers above the name of the environment, as far as they say anything. -/
def upperLayers (env : Variables) (defaults named : List (String × Setting)) :
    List (String × Setting) :=
  defaults ++ named ++ variableLayer (otherVariables env)

theorem find?_allSettings (hname : name ≠ "env") :
    (allSettings env defaults named).find? [name] =
      (addLayer (initialSettings env) (upperLayers env defaults named)).find? [name] := by
  rw [allSettings, find?_addLayer_otherVariables hname, upperLayers, addLayer_append,
    addLayer_append]

/-! ## 3. Two environments with the same layers -/

/-- The environment that is chosen is the environment of the configuration, unless the layers above
give one themselves. -/
theorem read?_environment_allSettings (hothers : otherVariables env' = otherVariables env) {e : String}
    (hread : Field.environment.read? (allSettings env defaults named) = some e)
    (hname : environmentName env' = e) :
    Field.environment.read? (allSettings env' defaults named) = some e := by
  rw [Field.read?, Field.place, find?_allSettings (by decide)] at hread ⊢
  rw [upperLayers, hothers, ← upperLayers]
  have hinitial : ∀ env : Variables, (initialSettings env).find? ["environment"] =
      some (.scalar none (.text (environmentName env))) := by
    intro env
    rw [initialSettings_eq]
    rfl
  rcases find?_addLayer_scalars (hinitial env) (hinitial env') (upperLayers env defaults named) with
    ⟨-, hleft⟩ | hsame
  · rw [hleft, hname]
    rfl
  · rw [hsame, hread]

/-- What chooses the environment chooses nothing else. -/
theorem lookup_allSettings (hothers : otherVariables env' = otherVariables env)
    (henvironment : name ≠ "environment") (hname : name ≠ "env") :
    (allSettings env' defaults named).members.lookup name =
      (allSettings env defaults named).members.lookup name := by
  have hinitial : ∀ env : Variables, (initialSettings env).find? [name] = none := by
    intro env
    rw [initialSettings_eq, find?_one, Setting.members, List.lookup_cons,
      beq_eq_false_iff_ne.mpr henvironment]
    rfl
  rw [← find?_one, ← find?_one, find?_allSettings hname, find?_allSettings hname, upperLayers,
    upperLayers, hothers]
  exact find?_addLayer_congr (fun m _ => stepsOf_cases m.1 name)
    ((hinitial env').trans (hinitial env).symm)

theorem ofSettings_allSettings (hothers : otherVariables env' = otherVariables env)
    (hsettings : ofSettings (allSettings env defaults named) = .ok config)
    (hname : environmentName env' = config.environment) :
    ofSettings (allSettings env' defaults named) = .ok config := by
  obtain ⟨henvironment, hrules, hlogging⟩ := ofSettings_eq_ok_iff_parts.mp hsettings
  refine ofSettings_eq_ok_iff_parts.mpr
    ⟨read?_environment_allSettings hothers henvironment hname, ?_, ?_⟩
  · rw [lookup_allSettings hothers (by decide) (by decide), hrules]
  · rw [lookup_allSettings hothers (by decide) (by decide), hlogging]

/-! ## 4. Loading again -/

/-- The file of an environment. -/
def environmentFile (dir environment : String) : String :=
  join dir (environment ++ ".toml")

/-- A file that is not there says nothing. -/
theorem fileLayer_of_missing {path : String} {fault fault' : FileFault}
    (h : disk path = .error fault) (h' : disk (path ++ ".toml") = .error fault') :
    fileLayer disk path = .ok [] := by
  simp only [fileLayer, findFile, h, h']

theorem exists_layers_of_load (hload : load disk dir env = .ok config) :
    ∃ defaults named, fileLayer disk (join dir "default.toml") = .ok defaults ∧
      fileLayer disk (environmentFile dir (environmentName env)) = .ok named ∧
      ofSettings (allSettings env defaults named) = .ok config := by
  cases hdefaults : fileLayer disk (join dir "default.toml") with
  | error path => simp [load, gather, fileNames, addFiles, hdefaults] at hload
  | ok defaults =>
    cases hnamed : fileLayer disk (join dir (environmentName env ++ ".toml")) with
    | error path => simp [load, gather, fileNames, addFiles, hdefaults, hnamed] at hload
    | ok named => exact ⟨defaults, named, rfl, hnamed, (load_eq hdefaults hnamed).symm.trans hload⟩

/-- **The reported environment leads to the same configuration** when it is chosen and nothing else
changes, as long as its file is read as the same layer as the file of the environment that was chosen
before: so if they are the same environment, whatever else the files and the variables say, and also
if neither has a file. -/
theorem load_reported (hload : load disk dir env = .ok config)
    (hfile : fileLayer disk (environmentFile dir config.environment) =
      fileLayer disk (environmentFile dir (environmentName env)))
    (hchosen : env'.lookup "PRICING_ENV" = some config.environment)
    (hothers : otherVariables env' = otherVariables env) :
    load disk dir env' = .ok config := by
  obtain ⟨defaults, named, hdefaults, hnamed, hsettings⟩ := exists_layers_of_load hload
  have hname : environmentName env' = config.environment := by
    rw [environmentName, hchosen, Option.getD_some]
  have hnamed' : fileLayer disk (join dir (environmentName env' ++ ".toml")) = .ok named := by
    rw [hname]
    exact hfile.trans hnamed
  rw [load_eq hdefaults hnamed']
  exact ofSettings_allSettings hothers hsettings hname

/-- Another environment is chosen than `default.toml` says, and neither has a file. -/
theorem load_reported_withoutFiles :
    let disk : Disk := fun path =>
      if path = "default.toml" then .ok (Text.Utf8.encode "environment=\"p\"\nrules.path=\"r\"")
      else .error .notFound
    let env : Variables := [("PRICING_ENV", "q"), ("PRICING_RULES__STRICT_TAGS", "1")]
    let env' : Variables := [("PRICING_RULES__STRICT_TAGS", "1"), ("PRICING_ENV", "p")]
    let config : Configuration := { environment := "p", rules := { path := "r", strictTags := true } }
    load disk "" env = .ok config ∧
      fileLayer disk (environmentFile "" "p") = fileLayer disk (environmentFile "" "q") ∧
      load disk "" env' = .ok config := by
  intro disk env env' config
  have hload : load disk "" env = .ok config := toOption_eq_some_iff.mp (by decide +kernel)
  have hmissing : ∀ path, path ≠ "default.toml" → path ++ ".toml" ≠ "default.toml" →
      fileLayer disk path = .ok [] :=
    fun path h h' => fileLayer_of_missing (if_neg h) (if_neg h')
  have hfile : fileLayer disk (environmentFile "" "p") = fileLayer disk (environmentFile "" "q") := by
    rw [hmissing _ (by decide +kernel) (by decide +kernel),
      hmissing _ (by decide +kernel) (by decide +kernel)]
  exact ⟨hload, hfile, load_reported hload hfile rfl rfl⟩

/-- A variable gives the environment, but the file is chosen without looking at it. The configuration
reports an environment whose file has not been read; it is read when the environment is chosen. -/
theorem load_unread :
    let disk : Disk := fun path =>
      if path = "config/production.toml" then .ok (Text.Utf8.encode "[rules]\nstrict_tags = true\n")
      else .error .notFound
    let env : Variables := [("PRICING_ENVIRONMENT", "production")]
    let env' : Variables := ("PRICING_ENV", "production") :: env
    let config : Configuration := { environment := "production" }
    load disk "config" env = .ok config ∧ env'.lookup "PRICING_ENV" = some config.environment ∧
      otherVariables env' = otherVariables env ∧
      load disk "config" env' = .ok { config with rules := { strictTags := true } } := by
  refine ⟨?_, rfl, rfl, ?_⟩
  · exact toOption_eq_some_iff.mp (by decide +kernel)
  · exact toOption_eq_some_iff.mp (by decide +kernel)

end LoanPricing.Config
