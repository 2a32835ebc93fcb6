import LoanPricing.Proofs.CommandLine.Prompts

/-!
# Exit codes — where a run ends, and what it has looked at by then

A run without a configuration ends first, a run with a credit score that is no number ends second,
and every other run ends well, with rules or without. A run that ends early has not looked at
anything that it would need later: not at the rules, not at the product, and not at the form of the
result.
-/

namespace LoanPricing

/-! ## 1. What a configuration is made of -/

namespace Config

variable {disk disk' : Disk} {dir path : String} {env : Variables}

/-- The paths that are looked at for a configuration: those of its files, and with one more
ending. -/
def paths (dir : String) (env : Variables) : List String :=
  (fileNames dir env).flatMap fun path => [path, path ++ ".toml"]

theorem fileLayer_congr (h : disk' path = disk path)
    (hending : disk' (path ++ ".toml") = disk (path ++ ".toml")) :
    fileLayer disk' path = fileLayer disk path := by
  unfold fileLayer findFile
  rw [h, hending]

theorem addFiles_congr {settings : Setting} {names : List String}
    (h : ∀ path ∈ names.flatMap fun path => [path, path ++ ".toml"], disk' path = disk path) :
    addFiles disk' settings names = addFiles disk settings names := by
  induction names generalizing settings with
  | nil => rfl
  | cons name names ih =>
    rw [List.flatMap_cons, List.forall_mem_append] at h
    obtain ⟨hname, hnames⟩ := h
    have hlayer : fileLayer disk' name = fileLayer disk name :=
      fileLayer_congr (hname _ (by simp)) (hname _ (by simp))
    unfold addFiles
    rw [hlayer]
    cases fileLayer disk name with
    | error path => rfl
    | ok layer => exact ih hnames

/-- A configuration depends on its own files only. -/
theorem load_congr (h : ∀ path ∈ paths dir env, disk' path = disk path) :
    load disk' dir env = load disk dir env := by
  have hgather : gather disk' dir env = gather disk dir env := by
    simp only [gather, addFiles_congr h]
  rw [load, load, hgather]

end Config

namespace CommandLine

variable {args : List String} {disk : Disk} {env : Config.Variables} {o : Options}
  {config : Config.Configuration}

/-! ## 2. The credit score -/

/-- The text of the credit score: the argument, or else the line of the input that answers for it,
the second one if the state was asked for too. -/
def Options.scoreText (o : Options) (input : List UInt8) : String :=
  let rest := if o.state.isSome then input else (Text.nextAnswer input).2
  o.creditScore.getD (Text.nextAnswer rest).1

/-- The number that a credit score spells, white space around it aside. -/
def score? (text : String) : Option Int32 :=
  Text.int32? (Text.trim text.toList)

theorem askBorrower_fst (o : Options) (input : List UInt8) :
    (askBorrower o input).1 = o.prompts := by
  unfold askBorrower ask Options.prompts
  cases o.state <;> cases o.creditScore <;> rfl

theorem creditScore_askBorrower (o : Options) (input : List UInt8) :
    (askBorrower o input).2.creditScore = o.scoreText input := by
  unfold askBorrower ask Options.scoreText
  cases o.state <;> cases o.creditScore <;> rfl

theorem parseCreditScore_of_none {text : String} (h : score? text = none) :
    parseCreditScore text =
      .error (.invalidInput ("credit score '" ++ text ++ "' is not a number")) := by
  unfold score? at h
  rw [parseCreditScore, h]

theorem parseCreditScore_of_some {text : String} {n : Int32} (h : score? text = some n) :
    parseCreditScore text = .ok n := by
  unfold score? at h
  rw [parseCreditScore, h]

/-! ## 3. Pricing -/

/-- The line about a credit score that is no number. -/
def rejection : String :=
  "Invalid credit score. Please enter a valid number.\n"

variable {s s' : Setup} {disk' : Disk} {borrower borrower' : Borrower} {elapsed elapsed' : UInt64}

theorem price_of_rejected (s : Setup) (disk : Disk) (h : score? borrower.creditScore = none) :
    (s.price disk borrower elapsed).value = (2, rejection) := by
  simp only [Setup.price, parseCreditScore_of_none h, Log.Logged.value_bind]
  rfl

theorem price_of_accepted (s : Setup) (disk : Disk) {n : Int32}
    (h : score? borrower.creditScore = some n) : (s.price disk borrower elapsed).value.1 = 0 := by
  simp only [Setup.price, parseCreditScore_of_some h, Log.Logged.value_bind]
  rfl

/-- When the credit score is rejected, only the configuration has been looked at, and no time has
been taken. -/
theorem price_congr_of_rejected (hconfig : s'.config = s.config)
    (hscore : borrower'.creditScore = borrower.creditScore)
    (h : score? borrower.creditScore = none) :
    s'.price disk' borrower' elapsed' = s.price disk borrower elapsed := by
  simp only [Setup.price, hconfig, hscore, parseCreditScore_of_none h]

/-! ## 4. Runs -/

/-- Options that a run cannot tell apart until it loads its rules: they may differ in the rules, in
the product, in how the result is shown, and in the text of a state that is given. -/
structure Options.AskAlike (o o' : Options) : Prop where
  config : o'.config = o.config
  creditScore : o'.creditScore = o.creditScore
  state : o'.state.isSome = o.state.isSome

theorem Options.AskAlike.prompts {o' : Options} (h : o.AskAlike o') : o'.prompts = o.prompts := by
  have hstate : o'.state.isNone = o.state.isNone := by
    rw [← Option.not_isSome, ← Option.not_isSome, h.state]
  rw [Options.prompts, Options.prompts, hstate, h.creditScore]

theorem Options.AskAlike.scoreText {o' : Options} (h : o.AskAlike o') (input : List UInt8) :
    o'.scoreText input = o.scoreText input := by
  rw [Options.scoreText, Options.scoreText, h.state, h.creditScore]

/-- When the credit score is rejected, options that ask alike have one outcome. -/
theorem conclude_congr_of_rejected {o' : Options} (halike : o.AskAlike o') {input : List UInt8}
    (h : score? (o.scoreText input) = none) :
    (o'.setup env config).conclude disk' (askBorrower o' input).1 (askBorrower o' input).2 elapsed' =
      (o.setup env config).conclude disk (askBorrower o input).1 (askBorrower o input).2
        elapsed := by
  have hscore : (askBorrower o' input).2.creditScore = (askBorrower o input).2.creditScore := by
    rw [creditScore_askBorrower, creditScore_askBorrower, halike.scoreText]
  have hprice : (o'.setup env config).price disk' (askBorrower o' input).2 elapsed' =
      (o.setup env config).price disk (askBorrower o input).2 elapsed :=
    price_congr_of_rejected rfl hscore (by rwa [creditScore_askBorrower])
  rw [Setup.conclude, Setup.conclude, hprice, askBorrower_fst, askBorrower_fst, halike.prompts]
  rfl

/-- **Where a run ends.** Without a configuration a run ends with code 1, having written nothing,
whatever its input is. With one it ends with code 2 if the credit score is no number, having
written the prompts and a line that says so; the outcome is then that of every run that differs in
nothing but its rules, its product, how the result is shown, the text of a state that is given, or
the time that applying the rules would take. Otherwise it ends with code 0. -/
theorem run_exit (hparse : parse args (env.lookup "CONFIG_DIR") = .ok o) (disk : Disk)
    (input : List UInt8) (elapsed : UInt64) :
    (∀ e, Config.load disk o.configDir env = .error e → ∀ input' elapsed',
      run args disk env input' elapsed' = .finished 1 "" false (configurationFailure e)) ∧
    ∀ config, Config.load disk o.configDir env = .ok config →
      (score? (o.scoreText input) = none →
        (∃ json errors,
          run args disk env input elapsed = .finished 2 (o.prompts ++ rejection) json errors) ∧
        ∀ args' o' disk' elapsed',
          parse args' (env.lookup "CONFIG_DIR") = .ok o' → o.AskAlike o' →
          (∀ path ∈ Config.paths o.configDir env, disk' path = disk path) →
          run args' disk' env input elapsed' = run args disk env input elapsed) ∧
      ∀ n, score? (o.scoreText input) = some n →
        ∃ output json errors,
          run args disk env input elapsed = .finished 0 (o.prompts ++ output) json errors := by
  refine ⟨fun e hload input' elapsed' => run_of_configError hparse hload input',
    fun config hload => ?_⟩
  have hrun : run args disk env input elapsed = _ := run_of_config hparse hload input
  have hscore := creditScore_askBorrower o input
  refine ⟨fun hrejected => ⟨?_, fun args' o' disk' elapsed' hparse' halike hdisk => ?_⟩,
    fun n haccepted => ?_⟩
  · rw [← hscore] at hrejected
    rw [Setup.conclude, price_of_rejected _ disk hrejected, askBorrower_fst] at hrun
    exact ⟨_, _, hrun⟩
  · have hdir : o'.configDir = o.configDir := by
      rw [Options.configDir, Options.configDir, halike.config]
    have hload' : Config.load disk' o'.configDir env = .ok config := by
      rw [hdir, Config.load_congr hdisk, hload]
    rw [hrun, run_of_config hparse' hload' input]
    exact conclude_congr_of_rejected halike hrejected
  · rw [← hscore] at haccepted
    rw [Setup.conclude, price_of_accepted _ disk haccepted, askBorrower_fst] at hrun
    exact ⟨_, _, _, hrun⟩

/-- The second run has a rules file, other options and another state. Neither looks at them. The
third run asks for the credit score and ends well. -/
theorem run_exit_rejected :
    let disk : Disk := fun _ => .error .notFound
    let disk' : Disk := fun path =>
      if path = "other.json" then .ok (Text.Utf8.encode "[]") else .error .notFound
    let first := run ["--state=Texas", "--credit-score", "-many"] disk [] [] 0
    let second := run ["--rules=other.json", "--strict", "--json", "--state=Florida",
      "--credit-score=-many"] disk' [] [] 37
    let third := run ["--state=Texas"] disk [] (Text.Utf8.encode " 720\n") 0
    (∃ json errors, first = .finished 2 rejection json errors) ∧ second = first ∧
      ∃ output json errors,
        third = .finished 0 ("Enter the credit score: " ++ output) json errors := by
  intro disk disk' first second third
  have hreads : Reads ["--state=Texas", "--credit-score", "-many"]
      [.value .state "state" "Texas", .value .creditScore "credit-score" "-many"] :=
    .joined (by decide) rfl (.following (by decide) rfl rfl .done)
  have hreads' : Reads ["--rules=other.json", "--strict", "--json", "--state=Florida",
      "--credit-score=-many"] [.value .rules "rules" "other.json", .flag .strict "strict",
        .flag .json "json", .value .state "state" "Florida",
        .value .creditScore "credit-score" "-many"] :=
    .joined (by decide) rfl (.flag (by decide) rfl rfl (.flag (by decide) rfl rfl
      (.joined (by decide) rfl (.joined (by decide) rfl .done))))
  have hparse : parse _ none = .ok { state := some "Texas", creditScore := some "-many" } :=
    parse_eq_ok_iff.mpr ⟨_, parseFrom_eq_ok_iff.mpr ⟨_, hreads, rfl⟩, rfl⟩
  have hparse' : parse _ none = .ok { rules := some "other.json", strict := true, json := true
                                      state := some "Florida", creditScore := some "-many" } :=
    parse_eq_ok_iff.mpr ⟨_, parseFrom_eq_ok_iff.mpr ⟨_, hreads', rfl⟩, rfl⟩
  have hload : Config.load disk "config" [] = .ok {} := rfl
  have hdisk : ∀ path ∈ Config.paths "config" [], disk' path = disk path := by
    intro path hpath
    refine if_neg ?_
    rintro rfl
    revert hpath
    decide +kernel
  obtain ⟨hcode, hsame⟩ := ((@run_exit _ [] _ hparse disk [] 0).2 {} hload).1 (by decide)
  have hreads'' : Reads ["--state=Texas"] [.value .state "state" "Texas"] :=
    .joined (by decide) rfl .done
  have hparse'' : parse _ none = .ok { state := some "Texas" } :=
    parse_eq_ok_iff.mpr ⟨_, parseFrom_eq_ok_iff.mpr ⟨_, hreads'', rfl⟩, rfl⟩
  have haccepted := ((@run_exit _ [] _ hparse'' disk (Text.Utf8.encode " 720\n") 0).2 {} hload).2
  have hprompts : ({ state := some "Texas" } : Options).prompts = "Enter the credit score: " := by
    decide
  rw [hprompts] at haccepted
  exact ⟨hcode, hsame _ _ disk' 37 hparse' ⟨rfl, rfl, rfl⟩ hdisk,
    haccepted 720 (by decide +kernel)⟩

end CommandLine

end LoanPricing
