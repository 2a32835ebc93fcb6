import LoanPricing.Config.Path

/-!
# Places — what layers do to a setting

The place of a setting is the list of the names that lead to it. What is at a place after a layer
has been added is told place by place: a change at the end of some steps shows at the places on its
way and beyond it, and nowhere else; a table that is put into another is seen where it has
something, and what was there before is seen everywhere else.
-/

namespace LoanPricing.Config

namespace Setting

/-! ## 1. Members -/

/-- The setting at a place, if there is one. -/
def find? : List String → Setting → Option Setting
  | [], s => some s
  | name :: names, s => (s.members.lookup name).bind (find? names)

def isTable : Setting → Bool
  | table _ _ => true
  | _ => false

/-- The value of a scalar. -/
def scalar? : Setting → Option Scalar
  | scalar _ value => some value
  | _ => none

variable {change : Setting → Setting} {names : List String}

theorem lookup_alterMember (key : String) (members : List (String × Setting)) (wanted : String) :
    (alterMember change key members).lookup wanted =
      if wanted = key then some (change ((members.lookup key).getD empty))
      else members.lookup wanted := by
  induction members with
  | nil =>
    rw [alterMember, List.lookup_cons]
    by_cases hwanted : wanted = key
    · rw [if_pos hwanted, beq_iff_eq.mpr hwanted]
      rfl
    · rw [if_neg hwanted, beq_eq_false_iff_ne.mpr hwanted]
  | cons m members ih =>
    obtain ⟨k, v⟩ := m
    rw [alterMember, List.lookup_cons, List.lookup_cons]
    by_cases hk : k = key
    · subst hk
      rw [if_pos rfl, List.lookup_cons, beq_self_eq_true]
      by_cases hwanted : wanted = k
      · rw [if_pos hwanted, beq_iff_eq.mpr hwanted]
        rfl
      · rw [if_neg hwanted, beq_eq_false_iff_ne.mpr hwanted]
    · rw [if_neg hk, List.lookup_cons, ih, beq_eq_false_iff_ne.mpr (Ne.symm hk)]
      by_cases hwanted : wanted = k
      · subst hwanted
        simp only [beq_self_eq_true, if_neg hk]
      · rw [beq_eq_false_iff_ne.mpr hwanted]

theorem isTable_alterKey (key : String) (s : Setting) : (s.alterKey change key).isTable = true := by
  cases s <;> rfl

theorem members_alterKey (key : String) (s : Setting) :
    (s.alterKey change key).members = alterMember change key s.members := by
  cases s <;> rfl

/-- Only a table has something under a name. -/
theorem isTable_of_find? {name : String} {s v : Setting} (h : s.find? (name :: names) = some v) :
    s.isTable = true := by
  cases s with
  | table => rfl
  | empty | scalar | list => cases h

theorem find?_empty_getD (names : List String) : (empty.find? names).getD empty = empty := by
  cases names <;> rfl

/-- What is at a place depends on what is under its first name. -/
theorem find?_getD (name : String) (names : List String) (s : Setting) :
    (((s.members.lookup name).getD empty).find? names).getD empty =
      (s.find? (name :: names)).getD empty := by
  rw [find?]
  cases s.members.lookup name with
  | none => exact find?_empty_getD names
  | some v => rfl

end Setting

/-! ## 2. Changes at the end of steps -/

/-- Steps that leave the way to a place for another key. -/
inductive Apart : List Step → List String → Prop
  | here {key name : String} {steps : List Step} {names : List String} (h : key ≠ name) :
      Apart (.key key :: steps) (name :: names)
  | further {name : String} {steps : List Step} {names : List String} (h : Apart steps names) :
      Apart (.key name :: steps) (name :: names)

/-- The steps that lead to a place. -/
def stepsTo (names : List String) : List Step :=
  names.map Step.key

variable {change : Setting → Setting} {steps : List Step} {names : List String}

/-- Nothing changes at a place that the steps do not lead to or past. -/
theorem find?_alterAt_of_apart (h : Apart steps names) (s : Setting) :
    (alterAt change steps s).find? names = s.find? names := by
  induction h generalizing s with
  | here h =>
    rw [alterAt, Setting.find?, Setting.members_alterKey, Setting.lookup_alterMember,
      if_neg (Ne.symm h), Setting.find?]
  | @further name steps names h ih =>
    rw [alterAt, Setting.find?, Setting.members_alterKey, Setting.lookup_alterMember, if_pos rfl,
      Setting.find?, Option.bind_some, ih]
    cases hv : s.members.lookup name with
    | some v => rfl
    | none =>
      -- the steps make a table, in which there is nothing but what they lead to
      cases h <;> rfl

/-- Steps that lead to a place, and from there on, change what is at the place. -/
theorem find?_alterAt (names : List String) (steps : List Step) (s : Setting) :
    (alterAt change (stepsTo names ++ steps) s).find? names =
      some (alterAt change steps ((s.find? names).getD .empty)) := by
  induction names generalizing s with
  | nil => rfl
  | cons name names ih =>
    show (alterAt change (.key name :: (stepsTo names ++ steps)) s).find? (name :: names) = _
    rw [alterAt, Setting.find?, Setting.members_alterKey, Setting.lookup_alterMember, if_pos rfl,
      Option.bind_some, ih, Setting.find?_getD]

/-- Settings that agree at a place agree there after a change past it, or away from it. -/
theorem find?_alterAt_congr {s s' : Setting} (h : Apart steps names ∨ stepsTo names <+: steps)
    (hs : s'.find? names = s.find? names) :
    (alterAt change steps s').find? names = (alterAt change steps s).find? names := by
  rcases h with hapart | ⟨more, rfl⟩
  · rw [find?_alterAt_of_apart hapart, find?_alterAt_of_apart hapart, hs]
  · rw [find?_alterAt, find?_alterAt, hs]

/-! ## 3. Tables put into tables -/

namespace Setting

/-- A setting that is a table wherever it is on the way to a place, and has no key there twice. -/
def Opens : List String → Setting → Prop
  | [], _ => True
  | name :: names, s =>
    s.isTable = true ∧ (s.members.map Prod.fst).Nodup ∧
      ∀ v, s.members.lookup name = some v → Opens names v

theorem put_scalar (origin : Option String) (value : Scalar) (s : Setting) :
    (scalar origin value).put s = scalar origin value := by
  rw [put]
  nofun

/-- A table that is put becomes a table of the members of both. -/
theorem exists_put_table (origin : Option String) (members : List (String × Setting))
    (s : Setting) : ∃ origin', (table origin members).put s =
      table origin' (putMembers members s.members) := by
  cases s with
  | table origin' old => exact ⟨origin', by rw [put]; rfl⟩
  | empty | scalar | list =>
    refine ⟨none, ?_⟩
    rw [put]
    · rfl
    · nofun

theorem scalar?_put (v s : Setting) : (v.put s).scalar? = v.scalar? := by
  cases v with
  | table origin members =>
    obtain ⟨origin', hput⟩ := exists_put_table origin members s
    rw [hput]
    rfl
  | empty | scalar | list => rw [put]; nofun

theorem members_put {v : Setting} (h : v.isTable = true) (s : Setting) :
    (v.put s).members = putMembers v.members s.members := by
  cases v with
  | table origin members =>
    obtain ⟨origin', hput⟩ := exists_put_table origin members s
    rw [hput]
    rfl
  | empty | scalar | list => cases h

theorem isTable_put {v : Setting} (h : v.isTable = true) (s : Setting) :
    (v.put s).isTable = true := by
  cases v with
  | table origin members =>
    obtain ⟨origin', hput⟩ := exists_put_table origin members s
    rw [hput]
    rfl
  | empty | scalar | list => cases h

theorem lookup_putMembers {incoming : List (String × Setting)}
    (hkeys : (incoming.map Prod.fst).Nodup) (target : List (String × Setting)) (key : String) :
    (putMembers incoming target).lookup key =
      match incoming.lookup key with
      | some v => some (v.put ((target.lookup key).getD empty))
      | none => target.lookup key := by
  induction incoming generalizing target with
  | nil =>
    rw [putMembers]
    rfl
  | cons m incoming ih =>
    obtain ⟨k, v⟩ := m
    obtain ⟨hnew, hkeys⟩ := List.nodup_cons.mp hkeys
    rw [putMembers, ih hkeys, lookup_alterMember, List.lookup_cons]
    by_cases hkey : key = k
    · subst hkey
      -- no later member can change what the first one puts there
      have hnone : incoming.lookup key = none := List.lookup_eq_none_iff.mpr fun m hm => by
        refine bne_iff_ne.mpr ?_
        rintro rfl
        exact hnew (List.mem_map.mpr ⟨m, hm, rfl⟩)
      rw [hnone, if_pos rfl, beq_self_eq_true]
    · rw [if_neg hkey, beq_eq_false_iff_ne.mpr hkey]

/-- What is put is seen where it has something, as far as scalars go. -/
theorem find?_put {names : List String} {v : Setting} (h : v.Opens names) (s : Setting) :
    ((v.put s).find? names).map scalar? = ((v.find? names).or (s.find? names)).map scalar? := by
  induction names generalizing v s with
  | nil =>
    show some (v.put s).scalar? = some v.scalar?
    rw [scalar?_put]
  | cons name names ih =>
    obtain ⟨htable, hkeys, hopens⟩ := h
    rw [find?, find?, find?, members_put htable, lookup_putMembers hkeys]
    cases hv : v.members.lookup name with
    | none => rfl
    | some w =>
      rw [Option.bind_some, Option.bind_some, ih (hopens w hv)]
      cases hs : s.members.lookup name with
      | some old => rfl
      | none =>
        -- it is put in the place of an empty setting, below which there is nothing
        cases names <;> rfl

end Setting

/-! ## 4. Layers -/

/-- A name without dots and brackets is one step. -/
theorem stepsOf_of_name {key : String} (h : key.toList.all isNameChar = true) :
    stepsOf key = [.key key] := by
  have hchars : ∀ c ∈ key.toList, isNameChar c = true := List.all_eq_true.mp h
  have htake : (key.toList ++ []).takeWhile isNameChar = key.toList ++ [] :=
    List.takeWhile_append_of_pos hchars
  have hdrop : (key.toList ++ []).dropWhile isNameChar = [] := List.dropWhile_append_of_pos hchars
  rw [List.append_nil] at htake hdrop
  rw [stepsOf, readName, htake, hdrop]
  split
  · rename_i hname
    split at hname
    · cases hname
    · obtain ⟨rfl, rfl⟩ := Prod.mk.inj (Option.some.inj hname)
      rw [String.ofList_toList]
      rfl
  · rfl

theorem exists_stepsOf (key : String) : ∃ name steps, stepsOf key = .key name :: steps := by
  rw [stepsOf]
  split
  · rename_i name rest _
    cases readSteps rest.length rest with
    | none => exact ⟨key, [], rfl⟩
    | some steps => exact ⟨name, steps, rfl⟩
  · exact ⟨key, [], rfl⟩

theorem addLayer_cons (s : Setting) (key : String) (v : Setting) (layer : List (String × Setting)) :
    addLayer s ((key, v) :: layer) = addLayer (alterAt v.put (stepsOf key) s) layer := rfl

theorem addLayer_append (s : Setting) (layer layer' : List (String × Setting)) :
    addLayer s (layer ++ layer') = addLayer (addLayer s layer) layer' :=
  List.foldl_append

/-- A layer whose keys are names is put as a table. -/
theorem addLayer_eq_put {layer : List (String × Setting)}
    (h : ∀ m ∈ layer, stepsOf m.1 = [.key m.1]) (origin origin' : Option String)
    (members : List (String × Setting)) :
    addLayer (.table origin members) layer =
      (Setting.table origin' layer).put (.table origin members) := by
  induction layer generalizing members with
  | nil =>
    rw [Setting.put, Setting.putMembers]
    rfl
  | cons m layer ih =>
    obtain ⟨hkey, hlayer⟩ := List.forall_mem_cons.mp h
    rw [addLayer_cons, hkey]
    show addLayer (.table origin (Setting.alterMember m.2.put m.1 members)) layer = _
    rw [ih hlayer, Setting.put, Setting.put, Setting.putMembers]

end LoanPricing.Config
