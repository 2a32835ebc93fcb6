import LoanPricing.CommandLine.Options

/-!
# Changes — a command line as the options that it adds

The arguments of a command line are read without looking at the options before them: they spell a
list of changes, each an option with its value or a flag. The options are what these changes make
of the empty ones, one after the other. So an option that is not given can be added at the front of
the arguments, and everything else stays as it is.
-/

namespace LoanPricing.CommandLine

/-! ## 1. Arguments -/

inductive Change where
  | value (option : ValueOption) (spelled value : String)
  | flag (flag : FlagOption) (spelled : String)
  deriving DecidableEq, Repr

/-- The changes that arguments spell. -/
inductive Reads : List String → List Change → Prop
  | done : Reads [] []
  | separator {arg : String} (h : Argument.ofText arg = .separator) : Reads [arg] []
  | joined {arg name value : String} {option : ValueOption} {rest : List String}
      {changes : List Change} (harg : Argument.ofText arg = .long name (some value))
      (hname : valueOptions.lookup name = some option) (h : Reads rest changes) :
      Reads (arg :: rest) (.value option name value :: changes)
  | following {arg name next : String} {option : ValueOption} {rest : List String}
      {changes : List Change} (harg : Argument.ofText arg = .long name none)
      (hname : valueOptions.lookup name = some option) (hnext : mayFollow option next = true)
      (h : Reads rest changes) : Reads (arg :: next :: rest) (.value option name next :: changes)
  | flag {arg name : String} {flag : FlagOption} {rest : List String} {changes : List Change}
      (harg : Argument.ofText arg = .long name none) (hvalue : valueOptions.lookup name = none)
      (hname : flagOptions.lookup name = some flag) (h : Reads rest changes) :
      Reads (arg :: rest) (.flag flag name :: changes)

namespace Options

def change (o : Options) : Change → Except Stop Options
  | .value option spelled value => o.set option spelled value
  | .flag flag spelled => o.turnOn flag spelled

def changeAll (o : Options) : List Change → Except Stop Options
  | [] => .ok o
  | c :: cs =>
    match o.change c with
    | .ok o => o.changeAll cs
    | .error stop => .error stop

end Options

theorem Options.changeAll_cons {o o' : Options} {c : Change} {cs : List Change} :
    o.changeAll (c :: cs) = .ok o' ↔
      ∃ next, o.change c = .ok next ∧ next.changeAll cs = .ok o' := by
  rw [changeAll]
  cases o.change c with
  | error stop => simp
  | ok next => simp

/-- Options come of a command line if and only if it spells changes that can be made. -/
theorem parseFrom_eq_ok_iff {o o' : Options} {args : List String} :
    parseFrom o args = .ok o' ↔ ∃ changes, Reads args changes ∧ o.changeAll changes = .ok o' := by
  constructor
  · intro h
    fun_induction parseFrom o args with
    | case1 => exact ⟨[], .done, h⟩
    | case2 _ _ harg => exact ⟨[], .separator harg, h⟩
    | case8 _ _ _ _ _ _ hname _ hset harg ih =>
      obtain ⟨changes, hreads, hchanges⟩ := ih h
      exact ⟨_, .joined harg hname hreads, Options.changeAll_cons.mpr ⟨_, hset, hchanges⟩⟩
    | case10 _ _ _ _ hname _ _ hnext _ hset harg ih =>
      obtain ⟨changes, hreads, hchanges⟩ := ih h
      exact ⟨_, .following harg hname hnext hreads,
        Options.changeAll_cons.mpr ⟨_, hset, hchanges⟩⟩
    | case15 _ _ _ _ _ hname hvalue _ hset harg ih =>
      obtain ⟨changes, hreads, hchanges⟩ := ih h
      exact ⟨_, .flag harg hvalue hname hreads, Options.changeAll_cons.mpr ⟨_, hset, hchanges⟩⟩
    | _ => injection h
  · rintro ⟨changes, hreads, h⟩
    induction hreads generalizing o with
    | done => rwa [parseFrom]
    | separator harg =>
      rw [parseFrom, harg]
      exact h
    | joined harg hname _ ih =>
      obtain ⟨next, hset, hchanges⟩ := Options.changeAll_cons.mp h
      replace hset : o.set _ _ _ = .ok next := hset
      rw [parseFrom.eq_def]
      simp only [harg, hname, hset]
      exact ih hchanges
    | following harg hname hnext _ ih =>
      obtain ⟨next, hset, hchanges⟩ := Options.changeAll_cons.mp h
      replace hset : o.set _ _ _ = .ok next := hset
      rw [parseFrom.eq_def]
      simp only [harg, hname, hset, hnext, if_true]
      exact ih hchanges
    | flag harg hvalue hname _ ih =>
      obtain ⟨next, hset, hchanges⟩ := Options.changeAll_cons.mp h
      replace hset : o.turnOn _ _ = .ok next := hset
      rw [parseFrom.eq_def]
      simp only [harg, hvalue, hname, hset]
      exact ih hchanges

/-! ## 2. Changes that do not meet -/

namespace ValueOption

/-- What the value of an option is. -/
def Value : ValueOption → Type
  | .rate => Float
  | _ => String

/-- The value that a text stands for, if the option takes it. -/
def read? : (x : ValueOption) → String → Option x.Value
  | .rules, text => if text.isEmpty then none else some text
  | .config, text => if text.isEmpty then none else some text
  | .rate, text => Decimal.float? text.toList
  | .name, text => some text
  | .state, text => some text
  | .creditScore, text => some text

end ValueOption

namespace Options

def put (o : Options) : (x : ValueOption) → x.Value → Options
  | .rules, v => { o with rules := some v }
  | .config, v => { o with config := some v }
  | .name, v => { o with name := some v }
  | .rate, v => { o with rate := some v }
  | .state, v => { o with state := some v }
  | .creditScore, v => { o with creditScore := some v }

def turned (o : Options) : FlagOption → Options
  | .strict => { o with strict := true }
  | .json => { o with json := true }
  | .trace => { o with trace := true }

variable {o o' : Options} {x y : ValueOption} {f : FlagOption} {c : Change} {cs : List Change}

theorem set?_eq (o : Options) (x : ValueOption) (text : String) :
    o.set? x text = (x.read? text).map (o.put x) := by
  cases x <;> simp only [set?, ValueOption.read?]
  · split <;> rfl
  · split <;> rfl
  all_goals rfl

theorem set_eq_ok_iff {spelled text : String} :
    o.set x spelled text = .ok o' ↔
      o.given x = false ∧ ∃ v, x.read? text = some v ∧ o' = o.put x v := by
  rw [set, set?_eq]
  cases o.given x with
  | true => simp
  | false => cases x.read? text <;> simp [eq_comm]

theorem turnOn_eq_ok_iff {spelled : String} :
    o.turnOn f spelled = .ok o' ↔ o.isOn f = false ∧ o' = o.turned f := by
  unfold turnOn
  cases o.isOn f with
  | true => simp
  | false => cases f <;> simp [turned, eq_comm]

theorem given_put (o : Options) (x y : ValueOption) (v : x.Value) :
    (o.put x v).given y = (x == y || o.given y) := by
  cases x <;> cases y <;> rfl

theorem put_comm (hne : x ≠ y) (v : x.Value) (w : y.Value) :
    (o.put x v).put y w = (o.put y w).put x v := by
  cases x <;> cases y <;> first | rfl | exact absurd rfl hne

theorem given_turned (o : Options) (f : FlagOption) (x : ValueOption) :
    (o.turned f).given x = o.given x := by
  cases f <;> cases x <;> rfl

theorem isOn_put (o : Options) (x : ValueOption) (v : x.Value) (f : FlagOption) :
    (o.put x v).isOn f = o.isOn f := by
  cases x <;> cases f <;> rfl

theorem turned_put (o : Options) (x : ValueOption) (v : x.Value) (f : FlagOption) :
    (o.put x v).turned f = (o.turned f).put x v := by
  cases x <;> cases f <;> rfl

/-- What is not given after a change is not given before it, and does not matter to it. -/
theorem change_put (h : o.change c = .ok o') (hgiven : o'.given x = false) (v : x.Value) :
    o.given x = false ∧ (o.put x v).change c = .ok (o'.put x v) := by
  cases c with
  | value y spelled text =>
    obtain ⟨hfree, w, hw, rfl⟩ := set_eq_ok_iff.mp h
    rw [given_put, Bool.or_eq_false_iff, beq_eq_false_iff_ne] at hgiven
    obtain ⟨hne, hx⟩ := hgiven
    refine ⟨hx, set_eq_ok_iff.mpr ⟨?_, w, hw, put_comm hne w v⟩⟩
    rw [given_put, hfree, Bool.or_false, beq_eq_false_iff_ne]
    exact hne.symm
  | flag f spelled =>
    obtain ⟨hoff, rfl⟩ := turnOn_eq_ok_iff.mp h
    rw [given_turned] at hgiven
    exact ⟨hgiven, turnOn_eq_ok_iff.mpr ⟨by rw [isOn_put, hoff], (turned_put o x v f).symm⟩⟩

/-- An option that is not given in the end can be given at the start. -/
theorem changeAll_put (h : o.changeAll cs = .ok o') (hgiven : o'.given x = false) (v : x.Value) :
    o.given x = false ∧ (o.put x v).changeAll cs = .ok (o'.put x v) := by
  induction cs generalizing o with
  | nil =>
    obtain rfl := Except.ok.inj h
    exact ⟨hgiven, rfl⟩
  | cons c cs ih =>
    obtain ⟨next, hc, hcs⟩ := changeAll_cons.mp h
    obtain ⟨hnext, hcs'⟩ := ih hcs
    obtain ⟨hx, hc'⟩ := change_put hc hnext v
    exact ⟨hx, changeAll_cons.mpr ⟨_, hc', hcs'⟩⟩

end Options

/-! ## 3. Options at the front -/

/-- The argument that gives an option its value. -/
def argumentOf (name value : String) : String :=
  "--" ++ name ++ "=" ++ value

theorem ofText_argumentOf {name : String} (hname : '=' ∉ name.toList) (value : String) :
    Argument.ofText (argumentOf name value) = .long name (some value) := by
  have htext : (argumentOf name value).toList =
      '-' :: '-' :: (name.toList ++ '=' :: value.toList) := by
    simp [argumentOf]
  have hplain : ∀ c ∈ name.toList, (c != '=') = true := by
    intro c hc
    rw [bne_iff_ne]
    rintro rfl
    exact hname hc
  have htake : (name.toList ++ '=' :: value.toList).takeWhile (· != '=') = name.toList := by
    rw [List.takeWhile_append_of_pos hplain]
    simp
  have hdrop : (name.toList ++ '=' :: value.toList).dropWhile (· != '=') =
      '=' :: value.toList := by
    rw [List.dropWhile_append_of_pos hplain]
    rfl
  unfold Argument.ofText
  rw [htext]
  -- something follows the dashes, so that they do not stand alone
  split
  · rename_i heq
    simp at heq
  · rename_i cs _ heq
    obtain rfl := (List.cons.inj (List.cons.inj heq).2).2
    rw [htake, hdrop]
    simp only [String.ofList_toList]
  · rename_i _ hlong heq
    exact absurd (List.cons.inj (List.cons.inj heq).2).1.symm hlong
  · rename_i hlong _
    exact absurd rfl (hlong _)

/-- The change that the variable for the configuration directory makes. -/
def Options.variableChanges (o : Options) : Option String → List Change
  | none => []
  | some dir => if o.config.isSome then [] else [.value .config "config" dir]

theorem parse_eq_ok_iff {args : List String} {dir : Option String} {o : Options} :
    parse args dir = .ok o ↔
      ∃ given, parseFrom {} args = .ok given ∧
        given.changeAll (given.variableChanges dir) = .ok o := by
  unfold parse
  cases parseFrom {} args with
  | error stop => simp
  | ok given =>
    simp only [Except.ok.injEq, exists_eq_left']
    rcases hconfig : given.config with _ | config
    · cases dir with
      | none => rfl
      | some dir =>
        simp only [Options.variableChanges, hconfig, Option.isSome_none, Bool.false_eq_true,
          if_false]
        rw [Options.changeAll_cons]
        simp [Options.change, Options.changeAll]
    · cases dir with
      | none => rfl
      | some dir => simp [Options.variableChanges, hconfig, Options.changeAll]

/-- An option that a command line does not give can be given before everything else. -/
theorem parse_argumentOf {args : List String} {dir : Option String} {o : Options}
    (h : parse args dir = .ok o) (name text : String) {x : ValueOption} {v : x.Value}
    (hplain : '=' ∉ name.toList) (hname : valueOptions.lookup name = some x) (hx : x ≠ .config)
    (hgiven : o.given x = false) (hread : x.read? text = some v) :
    parse (argumentOf name text :: args) dir = .ok (o.put x v) := by
  obtain ⟨given, hparse, hvariable⟩ := parse_eq_ok_iff.mp h
  obtain ⟨changes, hreads, hchanges⟩ := parseFrom_eq_ok_iff.mp hparse
  obtain ⟨hfree, hvariable'⟩ := Options.changeAll_put hvariable hgiven v
  obtain ⟨hempty, hchanges'⟩ := Options.changeAll_put hchanges hfree v
  have hconfig : (given.put x v).variableChanges dir = given.variableChanges dir := by
    cases x <;> first | rfl | exact absurd rfl hx
  refine parse_eq_ok_iff.mpr ⟨given.put x v, parseFrom_eq_ok_iff.mpr ⟨_, .joined
    (ofText_argumentOf hplain text) hname hreads, ?_⟩, by rw [hconfig]; exact hvariable'⟩
  exact Options.changeAll_cons.mpr
    ⟨_, Options.set_eq_ok_iff.mpr ⟨hempty, v, hread, rfl⟩, hchanges'⟩

end LoanPricing.CommandLine
