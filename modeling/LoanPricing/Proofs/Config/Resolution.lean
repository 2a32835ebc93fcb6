import LoanPricing.Proofs.Config.Fields
import LoanPricing.Proofs.Toml.Keys

/-!
# Resolution — layers setting by setting

Each field of a configuration has the value that the highest layer gives it which says anything
about it: the variables before the file of the environment, that before `default.toml`, and that
before what is built in. What the lower layers say about it does not matter, nor does what any layer
says about other fields.
-/

namespace LoanPricing.Config

open Setting (ofToml ofTomlMembers)

variable {disk : Disk} {dir path : String} {env : Variables} {α : Type}
  {layer : List (String × Setting)} {s : Setting} {names : List String}

/-! ## 1. Layers of files -/

theorem keys_ofTomlMembers (origin : String) (members : Toml.Members) :
    (ofTomlMembers origin members).map Prod.fst = members.map Prod.fst := by
  induction members with
  | nil => rfl
  | cons m members ih => rw [ofTomlMembers, List.map_cons, List.map_cons, ih]

theorem lookup_ofTomlMembers (origin : String) (members : Toml.Members) (key : String) :
    (ofTomlMembers origin members).lookup key = (members.lookup key).map (ofToml origin) := by
  induction members with
  | nil => rfl
  | cons m members ih =>
    rw [ofTomlMembers, List.lookup_cons, List.lookup_cons]
    cases key == m.1 with
    | true => rfl
    | false => exact ih

theorem distinct_ofToml (origin : String) {v : Toml.Value} (h : v.Keyed) :
    ((ofToml origin v).members.map Prod.fst).Nodup := by
  cases h with
  | table hkeys =>
    show ((ofTomlMembers origin _).map Prod.fst).Nodup
    rw [keys_ofTomlMembers]
    exact hkeys
  | text | int | number | flag | moment | list | tables => exact List.nodup_nil

/-- The layer of a file has no key twice, nor has what is under its keys. -/
theorem distinct_fileLayer (h : fileLayer disk path = .ok layer) :
    (layer.map Prod.fst).Nodup ∧
      ∀ key v, layer.lookup key = some v → (v.members.map Prod.fst).Nodup := by
  unfold fileLayer at h
  split at h
  · rw [← Except.ok.inj h]
    exact ⟨List.nodup_nil, nofun⟩
  split at h
  · cases h
  rename_i found bytes _ _ members hparse
  have hkeyed := Toml.keyed_parse hparse
  rw [← Except.ok.inj h, keys_ofTomlMembers]
  refine ⟨hkeyed.distinct, ?_⟩
  intro key v hv
  rw [lookup_ofTomlMembers] at hv
  obtain ⟨value, hvalue, rfl⟩ := Option.map_eq_some_iff.mp hv
  exact distinct_ofToml found (hkeyed.lookup hvalue)

/-- A layer whose keys are names without dots and brackets, and that has a table wherever it
mentions a group of fields. -/
structure IsPlain (layer : List (String × Setting)) : Prop where
  names : ∀ m ∈ layer, m.1.toList.all isNameChar = true
  rules : IsGroup "rules" (.table none layer)
  observability : IsGroup "observability" (.table none layer)

instance : Decidable (IsPlain layer) :=
  decidable_of_iff ((∀ m ∈ layer, m.1.toList.all isNameChar = true) ∧
      IsGroup "rules" (.table none layer) ∧ IsGroup "observability" (.table none layer))
    ⟨fun ⟨names, rules, observability⟩ => ⟨names, rules, observability⟩,
      fun h => ⟨h.names, h.rules, h.observability⟩⟩

/-- What a layer of a file says about a place. -/
def says? (names : List String) (layer : List (String × Setting)) : Option Setting :=
  (Setting.table none layer).find? names

theorem opens_one (hlayer : fileLayer disk path = .ok layer) (name : String) :
    (Setting.table none layer).Opens [name] :=
  ⟨rfl, (distinct_fileLayer hlayer).1, fun _ _ => trivial⟩

theorem opens_two (hlayer : fileLayer disk path = .ok layer) {group : String}
    (hgroup : IsGroup group (.table none layer)) (name : String) :
    (Setting.table none layer).Opens [group, name] := by
  obtain ⟨hkeys, hinner⟩ := distinct_fileLayer hlayer
  exact ⟨rfl, hkeys, fun v hv => ⟨hgroup v hv, hinner group v hv, fun _ _ => trivial⟩⟩

theorem IsPlain.opens (hplain : IsPlain layer) (hlayer : fileLayer disk path = .ok layer)
    (f : Field α) : (Setting.table none layer).Opens f.place := by
  cases f with
  | environment => exact opens_one hlayer "environment"
  | rulesPath | strictTags => exact opens_two hlayer hplain.rules _
  | logLevel | jsonLogs => exact opens_two hlayer hplain.observability _

theorem IsPlain.addLayer_eq (hplain : IsPlain layer) (hs : s.isTable = true) :
    addLayer s layer = (Setting.table none layer).put s := by
  cases s with
  | table origin members =>
    exact addLayer_eq_put (fun m hm => stepsOf_of_name (hplain.names m hm)) origin none members
  | empty | scalar | list => cases hs

theorem IsPlain.isTable_addLayer (hplain : IsPlain layer) (hs : s.isTable = true) :
    (addLayer s layer).isTable = true := by
  rw [hplain.addLayer_eq hs]
  exact Setting.isTable_put rfl s

/-- Where the layer of a file says something that is what counts. -/
theorem IsPlain.find?_addLayer (hplain : IsPlain layer) (hlayer : fileLayer disk path = .ok layer)
    (hs : s.isTable = true) (f : Field α) :
    ((addLayer s layer).find? f.place).map Setting.scalar? =
      ((says? f.place layer).or (s.find? f.place)).map Setting.scalar? := by
  rw [hplain.addLayer_eq hs]
  exact Setting.find?_put (hplain.opens hlayer f) s

theorem isGroup_put {group : String} {v : Setting} (hv : v.isTable = true)
    (hkeys : (v.members.map Prod.fst).Nodup) (hgroup : IsGroup group v) (h : IsGroup group s) :
    IsGroup group (v.put s) := by
  intro w hw
  rw [Setting.members_put hv, Setting.lookup_putMembers hkeys] at hw
  split at hw
  · rename_i w' hw'
    rw [← Option.some.inj hw]
    exact Setting.isTable_put (hgroup w' hw') _
  · exact h w hw

theorem IsPlain.isGroup_addLayer (hplain : IsPlain layer) (hlayer : fileLayer disk path = .ok layer)
    (hs : s.isTable = true) {group : String} (hgroup : IsGroup group (.table none layer))
    (h : IsGroup group s) : IsGroup group (addLayer s layer) := by
  rw [hplain.addLayer_eq hs]
  exact isGroup_put rfl (distinct_fileLayer hlayer).1 hgroup h

/-! ## 2. Variables -/

/-- What the variable says that addresses a place, if there is one. -/
def addressed? (names : List String) (layer : List (String × Setting)) : Option Setting :=
  (layer.find? fun m => stepsOf m.1 == stepsTo names).map Prod.snd

/-- At most one variable addresses a place, and none addresses something on the way to the place or
beyond it. -/
structure AddressesOnce (layer : List (String × Setting)) (names : List String) : Prop where
  once : layer.countP (fun m => stepsOf m.1 == stepsTo names) ≤ 1
  exact : ∀ m ∈ layer, stepsOf m.1 <+: stepsTo names ∨ stepsTo names <+: stepsOf m.1 →
    stepsOf m.1 = stepsTo names

instance : Decidable (AddressesOnce layer names) :=
  decidable_of_iff (layer.countP (fun m => stepsOf m.1 == stepsTo names) ≤ 1 ∧
      ∀ m ∈ layer, stepsOf m.1 <+: stepsTo names ∨ stepsTo names <+: stepsOf m.1 →
        stepsOf m.1 = stepsTo names)
    ⟨fun ⟨once, exact⟩ => ⟨once, exact⟩, fun h => ⟨h.once, h.exact⟩⟩

/-- The groups of fields. -/
def groups : List String :=
  ["rules", "observability"]

/-- Whether a key addresses an item of a group of fields, as if the group were a list. -/
def addressesItem (key : String) : Bool :=
  match stepsOf key with
  | .key group :: .index _ :: _ => groups.contains group
  | _ => false

theorem addressesItem_of_steps {key group : String} {n : Int} {more : List Step}
    (hgroup : group ∈ groups) (h : stepsOf key = .key group :: .index n :: more) :
    addressesItem key = true := by
  rw [addressesItem, h]
  exact List.contains_iff_mem.mpr hgroup

/-- Steps lead to a place, past it, or away from it, unless they leave its way for an index. -/
theorem steps_cases (steps : List Step) (names : List String) :
    steps <+: stepsTo names ∨ stepsTo names <+: steps ∨ Apart steps names ∨
      ∃ before after n more, names = before ++ after ∧ after ≠ [] ∧
        steps = stepsTo before ++ .index n :: more := by
  induction names generalizing steps with
  | nil => exact .inr (.inl List.nil_prefix)
  | cons name names ih =>
    cases steps with
    | nil => exact .inl List.nil_prefix
    | cons step steps =>
      cases step with
      | index n =>
        exact .inr (.inr (.inr ⟨[], name :: names, n, steps, rfl, List.cons_ne_nil _ _, rfl⟩))
      | key key =>
        by_cases hkey : key = name
        · subst hkey
          rcases ih steps with h | h | h | ⟨before, after, n, more, rfl, hafter, rfl⟩
          · exact .inl ((List.prefix_cons_inj _).mpr h)
          · exact .inr (.inl ((List.prefix_cons_inj _).mpr h))
          · exact .inr (.inr (.inl (.further h)))
          · exact .inr (.inr (.inr ⟨key :: before, after, n, more, rfl, hafter, rfl⟩))
        · exact .inr (.inr (.inl (.here hkey)))

/-- The way to a field is no longer than its group. -/
theorem Field.way_to_place (f : Field α) {group : String} {before after : List String}
    (h : f.place = group :: (before ++ after)) (hafter : after ≠ []) :
    group ∈ groups ∧ before = [] := by
  have hlength : f.place.length ≤ 2 := by cases f <;> decide
  have hpos : 0 < after.length := List.length_pos_iff.mpr hafter
  rw [h, List.length_cons, List.length_append] at hlength
  obtain rfl : before = [] := List.eq_nil_of_length_eq_zero (by omega)
  refine ⟨?_, rfl⟩
  cases f with
  | environment => exact absurd (List.cons.inj h).2.symm hafter
  | rulesPath | strictTags | logLevel | jsonLogs =>
    rw [← (List.cons.inj h).1]
    decide

/-- A key that addresses no item leaves the way to a field for another key, if at all. -/
theorem Field.steps_cases (f : Field α) {key : String} (hitem : addressesItem key = false) :
    stepsOf key <+: stepsTo f.place ∨ stepsTo f.place <+: stepsOf key ∨
      Apart (stepsOf key) f.place := by
  rcases Config.steps_cases (stepsOf key) f.place with h | h | h | ⟨before, after, n, more, hplace,
    hafter, hsteps⟩
  · exact .inl h
  · exact .inr (.inl h)
  · exact .inr (.inr h)
  -- the steps of a key begin with a name, so an index could only follow the name of a group
  exfalso
  obtain ⟨name, rest, hname⟩ := exists_stepsOf key
  cases before with
  | nil =>
    rw [hname] at hsteps
    cases hsteps
  | cons group before =>
    obtain ⟨hgroup, rfl⟩ := f.way_to_place hplace hafter
    rw [addressesItem_of_steps hgroup hsteps] at hitem
    cases hitem

/-- Of the settings in a layer the one that addresses a place is put there. -/
theorem find?_addLayer (hput : ∀ m ∈ layer, ∀ old, m.2.put old = m.2)
    (hsteps : ∀ m ∈ layer, stepsOf m.1 = stepsTo names ∨ Apart (stepsOf m.1) names)
    (hone : layer.countP (fun m => stepsOf m.1 == stepsTo names) ≤ 1) (s : Setting) :
    (addLayer s layer).find? names = (addressed? names layer).or (s.find? names) := by
  induction layer generalizing s with
  | nil => rfl
  | cons m layer ih =>
    obtain ⟨hm, hsteps⟩ := List.forall_mem_cons.mp hsteps
    obtain ⟨hmput, hput⟩ := List.forall_mem_cons.mp hput
    rw [List.countP_cons] at hone
    rw [addLayer_cons, ih hput hsteps (by omega), addressed?, addressed?, List.find?_cons]
    by_cases hplace : stepsOf m.1 = stepsTo names
    · -- it is the only one, so that what follows is away from the place
      have hbeq : (stepsOf m.1 == stepsTo names) = true := beq_iff_eq.mpr hplace
      have hzero : layer.countP (fun m => stepsOf m.1 == stepsTo names) = 0 := by
        rw [if_pos hbeq] at hone
        omega
      have hnone : layer.find? (fun m => stepsOf m.1 == stepsTo names) = none :=
        List.find?_eq_none.mpr (List.countP_eq_zero.mp hzero)
      have hchange : (alterAt m.2.put (stepsTo names ++ []) s).find? names =
          some (m.2.put ((s.find? names).getD .empty)) := find?_alterAt names [] s
      rw [List.append_nil, hmput] at hchange
      rw [hnone, hbeq, hplace, hchange]
      rfl
    · rw [beq_eq_false_iff_ne.mpr hplace, find?_alterAt_of_apart (hm.resolve_left hplace)]

theorem put_variableLayer : ∀ m ∈ variableLayer env, ∀ old, m.2.put old = m.2 := by
  intro m hm old
  obtain ⟨⟨name, value⟩, -, hvalue⟩ := List.mem_filterMap.mp hm
  obtain ⟨key, -, rfl⟩ := Option.map_eq_some_iff.mp hvalue
  exact Setting.put_scalar _ _ old

/-- A group of fields stays one if nothing is changed in its place or in the place of an item. -/
theorem isGroup_alterAt {change : Setting → Setting} {steps : List Step} {group : String}
    (hsteps : Apart steps [group] ∨ ∃ key more, steps = .key group :: .key key :: more)
    (h : IsGroup group s) : IsGroup group (alterAt change steps s) := by
  intro v hv
  rw [← find?_one] at hv
  rcases hsteps with hapart | ⟨key, more, rfl⟩
  · rw [find?_alterAt_of_apart hapart, find?_one] at hv
    exact h v hv
  · rw [← Option.some.inj ((find?_alterAt [group] (.key key :: more) s).symm.trans hv)]
    exact Setting.isTable_alterKey key _

theorem isGroup_addLayer {group : String}
    (hsteps : ∀ m ∈ layer, Apart (stepsOf m.1) [group] ∨
      ∃ key more, stepsOf m.1 = .key group :: .key key :: more)
    (h : IsGroup group s) : IsGroup group (addLayer s layer) := by
  induction layer generalizing s with
  | nil => exact h
  | cons m layer ih =>
    obtain ⟨hm, hsteps⟩ := List.forall_mem_cons.mp hsteps
    exact ih hsteps (isGroup_alterAt hm h)

/-- Steps of a key that addresses no item nor the group itself. -/
theorem steps_of_group {group key : String} (name : String)
    (hgroup : group ∈ groups) (hitem : addressesItem key = false)
    (hexact : stepsOf key <+: stepsTo [group, name] → stepsOf key = stepsTo [group, name]) :
    Apart (stepsOf key) [group] ∨ ∃ k more, stepsOf key = .key group :: .key k :: more := by
  obtain ⟨first, more, hsteps⟩ := exists_stepsOf key
  by_cases hfirst : first = group
  · subst hfirst
    right
    cases more with
    | nil =>
      have hprefix : stepsOf key <+: stepsTo [first, name] := by
        rw [hsteps]
        exact ⟨[.key name], rfl⟩
      rw [hexact hprefix] at hsteps
      cases hsteps
    | cons step more =>
      cases step with
      | key k => exact ⟨k, more, hsteps⟩
      | index n =>
        rw [addressesItem_of_steps hgroup hsteps] at hitem
        cases hitem
  · rw [hsteps]
    exact .inl (.here hfirst)

/-! ## 3. All layers -/

/-- The layers of a configuration, the built-in one by the name of the environment. -/
structure Layers where
  environment : String
  defaults : List (String × Setting)
  named : List (String × Setting)
  overrides : List (String × Setting)

/-- What the highest layer says that says anything about a place. -/
def Layers.says? (l : Layers) (names : List String) : Option Setting :=
  (addressed? names l.overrides).or ((Config.says? names l.named).or (Config.says? names l.defaults))

namespace Field

/-- The value of a field that no layer says anything about. -/
def builtIn (environmentName : String) : Field α → α
  | environment => environmentName
  | rulesPath => "rules.json"
  | strictTags => false
  | logLevel => "warn"
  | jsonLogs => false

/-- The value that layers give a field, if what they say about it can be converted. -/
def resolve? (f : Field α) (l : Layers) : Option α :=
  valueOr? f.convert? (f.builtIn l.environment) (l.says? f.place)

end Field

/-- The settings before any file is read. -/
def initialSettings (env : Variables) : Setting :=
  addLayer (.table none []) (defaultLayer env)

theorem initialSettings_eq (env : Variables) :
    initialSettings env = .table none [("environment", .scalar none (.text (environmentName env)))] := by
  have hsteps : stepsOf "environment" = [.key "environment"] := stepsOf_of_name (by decide)
  rw [initialSettings, defaultLayer, addLayer_cons, hsteps]
  show Setting.table none [("environment", Setting.put _ .empty)] = _
  rw [Setting.put_scalar]

/-- What is built in is what the settings before any file say. -/
theorem valueOr?_or_initialSettings (f : Field α) (found : Option Setting) :
    valueOr? f.convert? f.initial (found.or ((initialSettings env).find? f.place)) =
      valueOr? f.convert? (f.builtIn (environmentName env)) found := by
  cases found with
  | some s => rfl
  | none =>
    rw [initialSettings_eq]
    cases f <;> rfl

/-- No variable addresses a field twice, in part or in more than its place, and none an item of a
group. -/
structure IsOrderly (layer : List (String × Setting)) : Prop where
  fields : ∀ {α : Type} (f : Field α), AddressesOnce layer f.place
  items : ∀ m ∈ layer, addressesItem m.1 = false

namespace IsOrderly

theorem find?_addLayer (h : IsOrderly (variableLayer env)) (f : Field α) (s : Setting) :
    (addLayer s (variableLayer env)).find? f.place =
      (addressed? f.place (variableLayer env)).or (s.find? f.place) := by
  refine Config.find?_addLayer put_variableLayer ?_ (h.fields f).once s
  intro m hm
  rcases f.steps_cases (h.items m hm) with hway | hpast | hapart
  · exact .inl ((h.fields f).exact m hm (.inl hway))
  · exact .inl ((h.fields f).exact m hm (.inr hpast))
  · exact .inr hapart

theorem isGroup_addLayer (h : IsOrderly layer) {group name : String} {f : Field α}
    (hgroup : group ∈ groups) (hplace : f.place = [group, name])
    (hs : IsGroup group s) : IsGroup group (addLayer s layer) := by
  refine Config.isGroup_addLayer ?_ hs
  intro m hm
  refine steps_of_group name hgroup (h.items m hm) ?_
  intro hway
  rw [← hplace] at hway ⊢
  exact (h.fields f).exact m hm (.inl hway)

end IsOrderly

section

variable {defaults named : List (String × Setting)}
  (hdefaults : fileLayer disk (join dir "default.toml") = .ok defaults)
  (hnamed : fileLayer disk (join dir (environmentName env ++ ".toml")) = .ok named)
  (hplain : IsPlain defaults) (hplain' : IsPlain named) (horderly : IsOrderly (variableLayer env))

/-- The settings of all layers. -/
def allSettings (env : Variables) (defaults named : List (String × Setting)) : Setting :=
  addLayer (addLayer (addLayer (initialSettings env) defaults) named) (variableLayer env)

include hdefaults hnamed in
theorem load_eq : load disk dir env = ofSettings (allSettings env defaults named) := by
  simp only [load, gather, fileNames, addFiles, hdefaults, hnamed]
  rfl

theorem isTable_initialSettings (env : Variables) : (initialSettings env).isTable = true := by
  rw [initialSettings_eq]
  rfl

include hdefaults hnamed hplain hplain' horderly in
/-- Each layer is asked in turn, from the highest to the lowest. -/
theorem read?_allSettings (f : Field α) :
    f.read? (allSettings env defaults named) =
      f.resolve? ⟨environmentName env, defaults, named, variableLayer env⟩ := by
  have hinitial := isTable_initialSettings env
  have hlower := hplain.isTable_addLayer hinitial
  rw [Field.resolve?, ← valueOr?_or_initialSettings]
  apply valueOr?_congr
  rw [allSettings, horderly.find?_addLayer, Option.map_or, hplain'.find?_addLayer hnamed hlower,
    Option.map_or, hplain.find?_addLayer hdefaults hinitial, Option.map_or, Layers.says?,
    Option.map_or, Option.map_or, Option.map_or, Option.or_assoc, Option.or_assoc]

include hdefaults hnamed hplain hplain' horderly in
theorem isGroup_allSettings {group name : String} {f : Field α}
    (hgroup : group ∈ groups) (hplace : f.place = [group, name])
    (hgroup₁ : IsGroup group (.table none defaults)) (hgroup₂ : IsGroup group (.table none named)) :
    IsGroup group (allSettings env defaults named) := by
  have hinitial := isTable_initialSettings env
  have hlower := hplain.isTable_addLayer hinitial
  have hnone : IsGroup group (initialSettings env) := by
    have hother : (group == "environment") = false := by
      rcases List.mem_cons.mp hgroup with rfl | hgroup
      · rfl
      · rw [List.eq_of_mem_singleton hgroup]
        rfl
    rw [initialSettings_eq]
    intro v hv
    simp [Setting.members, List.lookup_cons, hother] at hv
  exact horderly.isGroup_addLayer hgroup hplace (hplain'.isGroup_addLayer hnamed hlower hgroup₂
    (hplain.isGroup_addLayer hdefaults hinitial hgroup₁ hnone))

/-- **Layers resolve setting by setting.** The files have keys that are names and tables for the
groups of fields; at most one variable addresses each field, none addresses a part of its place or
something in it, and none addresses an item of a group. Then each field has the value that the
highest layer gives it which says anything about it, whatever the layers say about other fields. No
configuration comes of the layers if and only if what counts for some field cannot be converted. -/
theorem load_resolve
    (hdefaults : fileLayer disk (join dir "default.toml") = .ok defaults)
    (hnamed : fileLayer disk (join dir (environmentName env ++ ".toml")) = .ok named)
    (hplain : IsPlain defaults) (hplain' : IsPlain named)
    (horderly : IsOrderly (variableLayer env)) :
    let layers : Layers := ⟨environmentName env, defaults, named, variableLayer env⟩
    (∀ config, load disk dir env = .ok config ↔
      ∀ {α : Type} (f : Field α), f.resolve? layers = some (f.get config)) ∧
    ((∃ e, load disk dir env = .error e) ↔ ∃ (α : Type) (f : Field α), f.resolve? layers = none) := by
  intro layers
  have hrules : IsGroup "rules" (allSettings env defaults named) :=
    isGroup_allSettings hdefaults hnamed hplain hplain' horderly (by decide)
      (rfl : Field.rulesPath.place = _) hplain.rules hplain'.rules
  have hlogging : IsGroup "observability" (allSettings env defaults named) :=
    isGroup_allSettings hdefaults hnamed hplain hplain' horderly (by decide)
      (rfl : Field.logLevel.place = _) hplain.observability hplain'.observability
  have hread : ∀ {α : Type} (f : Field α), f.read? _ = f.resolve? layers :=
    read?_allSettings hdefaults hnamed hplain hplain' horderly
  have hok : ∀ config, load disk dir env = .ok config ↔
      ∀ {α : Type} (f : Field α), f.resolve? layers = some (f.get config) := by
    intro config
    rw [load_eq hdefaults hnamed, ofSettings_eq_ok_iff hrules hlogging]
    simp only [hread]
  refine ⟨hok, ?_, ?_⟩
  · rintro ⟨e, he⟩
    -- the values of all fields would make a configuration
    refine Classical.byContradiction fun hnone => ?_
    have hsome : ∀ {α : Type} (f : Field α), ∃ a, f.resolve? layers = some a := by
      intro α f
      exact Option.ne_none_iff_exists'.mp fun hf => hnone ⟨α, f, hf⟩
    obtain ⟨environment, henvironment⟩ := hsome .environment
    obtain ⟨path, hpath⟩ := hsome .rulesPath
    obtain ⟨strictTags, hstrict⟩ := hsome .strictTags
    obtain ⟨level, hlevel⟩ := hsome .logLevel
    obtain ⟨json, hjson⟩ := hsome .jsonLogs
    have hload := (hok ⟨environment, ⟨path, strictTags⟩, ⟨level, json⟩⟩).mpr <| by
      intro α f
      cases f <;> assumption
    rw [hload] at he
    cases he
  · rintro ⟨α, f, hf⟩
    cases hload : load disk dir env with
    | error e => exact ⟨e, rfl⟩
    | ok config =>
      rw [(hok config).mp hload f] at hf
      cases hf

end

/-- A layer that is read from a file, with what can be decided about it. -/
theorem exists_fileLayer {p : List (String × Setting) → Prop} [DecidablePred p]
    (h : (fileLayer disk path).toOption.any (fun layer => decide (p layer)) = true) :
    ∃ layer, fileLayer disk path = .ok layer ∧ p layer := by
  obtain ⟨layer, hlayer, hp⟩ := (Option.any_eq_true ..).mp h
  exact ⟨layer, toOption_eq_some_iff.mp hlayer, of_decide_eq_true hp⟩

/-- The rules are a list in `default.toml`, and the form of the log is no flag in the file of the
environment; variables mask both. -/
theorem load_resolve_production :
    let disk : Disk := fun path =>
      if path = "default.toml" then .ok (Text.Utf8.encode "rules.path=[1]\nrules.strict_tags=1")
      else if path = "p.toml" then .ok (Text.Utf8.encode "observability.json_logs=\"?\"")
      else .error .notFound
    let env : Variables := [("PRICING_ENV", "p"), ("PRICING_RULES__PATH", "x"),
      ("pricing_Observability__json_logs", "TRUE")]
    let config : Configuration :=
      { environment := "p", rules := { path := "x", strictTags := true }, logging := { json := true } }
    ∃ defaults named, IsPlain defaults ∧ IsPlain named ∧ IsOrderly (variableLayer env) ∧
      load disk "" env = .ok config ∧
      ∀ {α : Type} (f : Field α),
        f.resolve? ⟨"p", defaults, named, variableLayer env⟩ = some (f.get config) := by
  intro disk env config
  obtain ⟨defaults, hdefaults, hplain⟩ :
      ∃ layer, fileLayer disk "default.toml" = .ok layer ∧ IsPlain layer :=
    exists_fileLayer (by decide +kernel)
  obtain ⟨named, hnamed, hplain'⟩ : ∃ layer, fileLayer disk "p.toml" = .ok layer ∧ IsPlain layer :=
    exists_fileLayer (by decide +kernel)
  have horderly : IsOrderly (variableLayer env) := by
    constructor
    · intro α f
      cases f <;> decide +kernel
    · decide +kernel
  have hload : load disk "" env = .ok config := toOption_eq_some_iff.mp (by decide +kernel)
  have hname : join "" "default.toml" = "default.toml" := by decide +kernel
  have hname' : join "" (environmentName env ++ ".toml") = "p.toml" := by decide +kernel
  rw [← hname] at hdefaults
  rw [← hname'] at hnamed
  obtain ⟨hresolve, -⟩ := load_resolve hdefaults hnamed hplain hplain' horderly
  exact ⟨defaults, named, hplain, hplain', horderly, hload, (hresolve config).mp hload⟩

/-- A variable that addresses the first item of the rules addresses no field, nor a part of its
place or something in it. But it makes a list of the rules: the item counts as the path, and what
`default.toml` says about tags is lost. -/
theorem load_item :
    let disk : Disk := fun path =>
      if path = "config/default.toml" then .ok (Text.Utf8.encode "[rules]\nstrict_tags = true\n")
      else .error .notFound
    let env : Variables := [("PRICING_RULES[0]", "x")]
    ∃ defaults, fileLayer disk "config/default.toml" = .ok defaults ∧ IsPlain defaults ∧
      fileLayer disk "config/development.toml" = .ok [] ∧
      (∀ {α : Type} (f : Field α), AddressesOnce (variableLayer env) f.place) ∧
      (let layers : Layers := ⟨environmentName env, defaults, [], variableLayer env⟩
      Field.rulesPath.resolve? layers = some "rules.json" ∧
        Field.strictTags.resolve? layers = some true) ∧
      load disk "config" env = .ok { rules := { path := "x", strictTags := false } } := by
  intro disk env
  obtain ⟨defaults, hdefaults, hplain, hpath, hstrict⟩ : ∃ layer,
      fileLayer disk "config/default.toml" = .ok layer ∧ IsPlain layer ∧
        Field.rulesPath.resolve? ⟨"development", layer, [], variableLayer env⟩ = some "rules.json" ∧
        Field.strictTags.resolve? ⟨"development", layer, [], variableLayer env⟩ = some true :=
    exists_fileLayer (by decide +kernel)
  refine ⟨defaults, hdefaults, hplain, rfl, ?_, ⟨hpath, hstrict⟩,
    toOption_eq_some_iff.mp (by decide +kernel)⟩
  intro α f
  cases f <;> decide +kernel

end LoanPricing.Config
