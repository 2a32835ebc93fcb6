import LoanPricing.Config.Configuration
import LoanPricing.Proofs.Config.Places

/-!
# Fields — a configuration field by field

Every field of a configuration has its place in the settings. What a configuration says about a
field is what is at the place, converted, or else the default; there is a configuration if and only
if every field has a value.
-/

namespace LoanPricing.Config

/-! ## 1. Scalars as texts and flags -/

namespace Scalar

/-- Every scalar has a text. -/
def shown : Scalar → String
  | .text s => s
  | .int n => String.ofList (Text.ofInt n)
  | .number x => String.ofList (Decimal.plain x)
  | .flag b => if b then "true" else "false"

/-- Numbers other than zero are true; texts are flags if they are one of some words. -/
def flag? : Scalar → Option Bool
  | .text s => flagOfWord? (String.ofList (Text.small s.toList))
  | .int n => some (n != 0)
  | .number x => some (x != 0.0)
  | .flag b => some b

end Scalar

variable {α : Type}

theorem toOption_asText (key : String) (s : Setting) :
    (asText key s).toOption = s.scalar?.map Scalar.shown := by
  cases s with
  | scalar origin value => cases value <;> rfl
  | empty | list | table => rfl

theorem toOption_asFlag (key : String) (s : Setting) :
    (asFlag key s).toOption = s.scalar?.bind Scalar.flag? := by
  cases s with
  | scalar origin value =>
    cases value with
    | text s =>
      show (asFlag key (.scalar origin (.text s))).toOption =
        flagOfWord? (String.ofList (Text.small s.toList))
      rw [asFlag]
      cases flagOfWord? (String.ofList (Text.small s.toList)) <;> rfl
    | int | number | flag => rfl
  | empty | list | table => rfl

/-- The value of something that may have been found: its scalar, if it is one that can be converted.
If nothing has been found it is the default. -/
def valueOr? (convert : Scalar → Option α) (default : α) : Option Setting → Option α
  | some s => s.scalar?.bind convert
  | none => some default

/-- Only the values of scalars matter, not their origins. -/
theorem valueOr?_congr (convert : Scalar → Option α) (default : α) {found found' : Option Setting}
    (h : found'.map Setting.scalar? = found.map Setting.scalar?) :
    valueOr? convert default found' = valueOr? convert default found := by
  cases found with
  | none => rw [Option.map_eq_none_iff.mp h]
  | some s =>
    obtain ⟨s', rfl, hs⟩ := Option.map_eq_some_iff.mp h
    rw [valueOr?, valueOr?, hs]

theorem toOption_eq_some_iff {ε : Type} {x : Except ε α} {a : α} :
    x.toOption = some a ↔ x = .ok a := by
  cases x <;> simp [Except.toOption]

theorem bind_eq_ok_iff {ε β : Type} {x : Except ε α} {f : α → Except ε β} {b : β} :
    (x >>= f) = .ok b ↔ ∃ a, x = .ok a ∧ f a = .ok b := by
  cases x with
  | error e => exact ⟨nofun, nofun⟩
  | ok a => exact ⟨fun h => ⟨a, rfl, h⟩, fun ⟨_, ha, h⟩ => (Except.ok.inj ha) ▸ h⟩

theorem Slot.readText_eq_ok_iff {slot : Slot} {default text : String} :
    slot.read default asText = .ok text ↔
      valueOr? (fun x => some x.shown) default slot.setting = some text := by
  rw [← toOption_eq_some_iff, Slot.read]
  cases slot.setting with
  | none => rfl
  | some s =>
    show (asText slot.key s).toOption = some text ↔ _
    rw [toOption_asText, Option.map_eq_bind]
    rfl

theorem Slot.readFlag_eq_ok_iff {slot : Slot} {default flag : Bool} :
    slot.read default asFlag = .ok flag ↔
      valueOr? Scalar.flag? default slot.setting = some flag := by
  rw [← toOption_eq_some_iff, Slot.read]
  cases slot.setting with
  | none => rfl
  | some s =>
    show (asFlag slot.key s).toOption = some flag ↔ _
    rw [toOption_asFlag]
    rfl

/-! ## 2. Fields and their values -/

/-- The fields of a configuration, with the type of their values. -/
inductive Field : Type → Type
  | environment : Field String
  | rulesPath : Field String
  | strictTags : Field Bool
  | logLevel : Field String
  | jsonLogs : Field Bool

namespace Field

def place : Field α → List String
  | environment => ["environment"]
  | rulesPath => ["rules", "path"]
  | strictTags => ["rules", "strict_tags"]
  | logLevel => ["observability", "log_level"]
  | jsonLogs => ["observability", "json_logs"]

def get : Field α → Configuration → α
  | environment, config => config.environment
  | rulesPath, config => config.rules.path
  | strictTags, config => config.rules.strictTags
  | logLevel, config => config.logging.level
  | jsonLogs, config => config.logging.json

/-- The value of a field that nothing is said about. -/
def initial (f : Field α) : α :=
  f.get {}

/-- The value of a field that a scalar is converted to, if it can be. -/
def convert? : Field α → Scalar → Option α
  | environment => fun x => some x.shown
  | rulesPath => fun x => some x.shown
  | strictTags => Scalar.flag?
  | logLevel => fun x => some x.shown
  | jsonLogs => Scalar.flag?

/-- The value of a field in some settings. -/
def read? (f : Field α) (settings : Setting) : Option α :=
  valueOr? f.convert? f.initial (settings.find? f.place)

end Field

/-! ## 3. Groups of fields -/

/-- Something is a group in some settings if it is a table there, or missing. -/
def IsGroup (name : String) (settings : Setting) : Prop :=
  ∀ v, settings.members.lookup name = some v → v.isTable = true

variable {settings : Setting}

instance (name : String) : Decidable (IsGroup name settings) :=
  decidable_of_iff ((settings.members.lookup name).all Setting.isTable = true)
    (Option.all_eq_true ..)

theorem find?_one (settings : Setting) (name : String) :
    settings.find? [name] = settings.members.lookup name := by
  show (settings.members.lookup name).bind some = _
  cases settings.members.lookup name <;> rfl

theorem find?_two (settings : Setting) (group name : String) :
    settings.find? [group, name] =
      (settings.members.lookup group).bind fun v => v.members.lookup name := by
  rw [Setting.find?]
  cases settings.members.lookup group with
  | none => rfl
  | some v => exact find?_one v name

/-- The two fields of a group are found by their names. -/
theorem pairOf_of_isGroup {group : String} (h : IsGroup group settings)
    (key wanted first second : String) :
    pairOf key wanted first second (settings.members.lookup group) =
      .ok ({ key := key ++ "." ++ first, setting := settings.find? [group, first] },
        { key := key ++ "." ++ second, setting := settings.find? [group, second] }) := by
  rw [find?_two, find?_two]
  cases hv : settings.members.lookup group with
  | none => rfl
  | some v =>
    cases v with
    | table => rfl
    | empty | scalar | list => cases h _ hv

theorem ruleSourceOf_eq_ok_iff (h : IsGroup "rules" settings) {rules : RuleSource} :
    ruleSourceOf (settings.members.lookup "rules") = .ok rules ↔
      Field.rulesPath.read? settings = some rules.path ∧
        Field.strictTags.read? settings = some rules.strictTags := by
  obtain ⟨path, strictTags⟩ := rules
  rw [ruleSourceOf, pairOf_of_isGroup h]
  simp only [bind_eq_ok_iff, Slot.readText_eq_ok_iff, Slot.readFlag_eq_ok_iff, Except.ok.injEq,
    pure, Except.pure]
  constructor
  · rintro ⟨_, rfl, path', hpath, strictTags', hstrict, heq⟩
    obtain ⟨rfl, rfl⟩ := RuleSource.mk.inj heq
    exact ⟨hpath, hstrict⟩
  · rintro ⟨hpath, hstrict⟩
    exact ⟨_, rfl, path, hpath, strictTags, hstrict, rfl⟩

theorem loggingOf_eq_ok_iff (h : IsGroup "observability" settings) {logging : Logging} :
    loggingOf (settings.members.lookup "observability") = .ok logging ↔
      Field.logLevel.read? settings = some logging.level ∧
        Field.jsonLogs.read? settings = some logging.json := by
  obtain ⟨level, json⟩ := logging
  rw [loggingOf, pairOf_of_isGroup h]
  simp only [bind_eq_ok_iff, Slot.readText_eq_ok_iff, Slot.readFlag_eq_ok_iff, Except.ok.injEq,
    pure, Except.pure]
  constructor
  · rintro ⟨_, rfl, level', hlevel, json', hjson, heq⟩
    obtain ⟨rfl, rfl⟩ := Logging.mk.inj heq
    exact ⟨hlevel, hjson⟩
  · rintro ⟨hlevel, hjson⟩
    exact ⟨_, rfl, level, hlevel, json, hjson, rfl⟩

/-! ## 4. Configurations -/

/-- A configuration is read in three parts. -/
theorem ofSettings_eq_ok_iff_parts {config : Configuration} :
    ofSettings settings = .ok config ↔
      Field.environment.read? settings = some config.environment ∧
        ruleSourceOf (settings.members.lookup "rules") = .ok config.rules ∧
        loggingOf (settings.members.lookup "observability") = .ok config.logging := by
  obtain ⟨environment, rules, logging⟩ := config
  have hread : Field.environment.read? settings = valueOr? (fun x => some x.shown) "development"
      (settings.members.lookup "environment") := by
    rw [← find?_one]
    rfl
  rw [hread, ofSettings]
  simp only [bind_eq_ok_iff, Slot.readText_eq_ok_iff, Except.ok.injEq, pure, Except.pure]
  constructor
  · rintro ⟨environment', henvironment, rules', hrules, logging', hlogging, heq⟩
    obtain ⟨rfl, rfl, rfl⟩ := Configuration.mk.inj heq
    exact ⟨henvironment, hrules, hlogging⟩
  · rintro ⟨henvironment, hrules, hlogging⟩
    exact ⟨environment, henvironment, rules, hrules, logging, hlogging, rfl⟩

/-- A configuration is read field by field, if its groups are tables. -/
theorem ofSettings_eq_ok_iff (hrules : IsGroup "rules" settings)
    (hlogging : IsGroup "observability" settings) {config : Configuration} :
    ofSettings settings = .ok config ↔
      ∀ {α : Type} (f : Field α), f.read? settings = some (f.get config) := by
  rw [ofSettings_eq_ok_iff_parts, ruleSourceOf_eq_ok_iff hrules, loggingOf_eq_ok_iff hlogging]
  constructor
  · rintro ⟨henvironment, ⟨hpath, hstrict⟩, hlevel, hjson⟩ α f
    cases f with
    | environment => exact henvironment
    | rulesPath => exact hpath
    | strictTags => exact hstrict
    | logLevel => exact hlevel
    | jsonLogs => exact hjson
  · intro h
    exact ⟨h .environment, ⟨h .rulesPath, h .strictTags⟩, h .logLevel, h .jsonLogs⟩

end LoanPricing.Config
