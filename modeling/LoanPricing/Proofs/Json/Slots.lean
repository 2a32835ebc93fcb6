import LoanPricing.Proofs.Json.Members

/-!
# Slots — the members of each field, whatever stands between them

A draft keeps the value of each field in a slot of its own. What a slot holds in the end depends on
the members with the name of its field alone: there may be at most one, and its text has to denote a
value of the kind. The order of the members does not matter, and neither do those of other names.
-/

namespace LoanPricing.Json

section

variable {δ α : Type}

/-- The texts of the values that members give a key. -/
def valuesOf (key : String) (members : List Member) : List (List Char) :=
  (members.filter fun m => m.key == key).map (·.value)

theorem valuesOf_cons_self (m : Member) (ms : List Member) :
    valuesOf m.key (m :: ms) = m.value :: valuesOf m.key ms := by
  have hkey : (m.key == m.key) = true := beq_self_eq_true m.key
  simp only [valuesOf, List.filter_cons, hkey, if_true, List.map_cons]

theorem valuesOf_cons_ne {key : String} {m : Member} (h : m.key ≠ key) (ms : List Member) :
    valuesOf key (m :: ms) = valuesOf key ms := by
  have hkey : (m.key == key) = false := beq_eq_false_iff_ne.mpr h
  simp only [valuesOf, List.filter_cons, hkey, Bool.false_eq_true, if_false]

/-- What the values of a key make of a slot: one value fills it if it is empty, and further ones
have no place. -/
def Fills (kind : Kind) : List (List Char) → Option kind.Value → Option kind.Value → Prop
  | [], slot, result => result = slot
  | value :: values, slot, result =>
    values = [] ∧ slot = none ∧ ∃ x, Denotes kind value x ∧ result = some x

/-- Where a draft keeps the value of the field of a name: its own members set it, others do not. -/
structure IsSlot (fields : List (Field δ)) (name : String) (kind : Kind)
    (get : δ → Option kind.Value) : Prop where
  exists_field : ∃ isSet set,
    (fields.find? fun field => field.name == name) = some ⟨name, kind, isSet, set⟩ ∧
      (∀ draft, isSet draft = (get draft).isSome) ∧ ∀ x draft, get (set x draft) = some x
  get_set_of_ne : ∀ field ∈ fields, field.name ≠ name →
    ∀ (x : field.kind.Value) (draft : δ), get (field.set x draft) = get draft

variable {fields : List (Field δ)} {name : String} {kind : Kind} {get : δ → Option kind.Value}
  {draft next result : δ} {m : Member} {ms : List Member}

theorem Member.puts_of_none (h : (fields.find? fun field => field.name == m.key) = none) :
    m.Puts fields draft next ↔ next = draft := by
  rw [Member.Puts, h]

theorem Member.puts_of_some {field : Field δ}
    (h : (fields.find? fun field => field.name == m.key) = some field) :
    m.Puts fields draft next ↔ field.isSet draft = false ∧
      ∃ x, Denotes field.kind m.value x ∧ next = field.set x draft := by
  rw [Member.Puts, h]

theorem find?_key_spec {field : Field δ}
    (h : (fields.find? fun field => field.name == m.key) = some field) :
    field ∈ fields ∧ field.name = m.key := by
  have hname := List.find?_some h
  exact ⟨List.mem_of_find?_eq_some h, eq_of_beq hname⟩

/-- A member of the name fills the slot, which was empty. -/
theorem IsSlot.puts_own (h : IsSlot fields m.key kind get) (hputs : m.Puts fields draft next) :
    get draft = none ∧ ∃ x, Denotes kind m.value x ∧ get next = some x := by
  obtain ⟨isSet, set, hfind, hisSet, hset⟩ := h.exists_field
  obtain ⟨hunset, x, hx, rfl⟩ := (Member.puts_of_some hfind).mp hputs
  have hempty : (get draft).isSome = false := (hisSet draft).symm.trans hunset
  exact ⟨Option.isNone_iff_eq_none.mp (Option.isSome_eq_false_iff.mp hempty), x, hx, hset x draft⟩

/-- A member of another name leaves the slot alone. -/
theorem IsSlot.puts_other (h : IsSlot fields name kind get) (hkey : m.key ≠ name)
    (hputs : m.Puts fields draft next) : get next = get draft := by
  cases hfind : fields.find? fun field => field.name == m.key with
  | none => rw [(Member.puts_of_none hfind).mp hputs]
  | some field =>
    obtain ⟨-, x, -, rfl⟩ := (Member.puts_of_some hfind).mp hputs
    obtain ⟨hfield, hname⟩ := find?_key_spec hfind
    exact h.get_set_of_ne field hfield (by rwa [hname]) x draft

/-- A member of the name can be put into a draft whose slot is empty. -/
theorem IsSlot.exists_puts (h : IsSlot fields m.key kind get) (hempty : get draft = none)
    {x : kind.Value} (hx : Denotes kind m.value x) : ∃ next, m.Puts fields draft next := by
  obtain ⟨isSet, set, hfind, hisSet, -⟩ := h.exists_field
  have hunset : isSet draft = false := by
    rw [hisSet, hempty]
    rfl
  exact ⟨_, (Member.puts_of_some hfind).mpr ⟨hunset, x, hx, rfl⟩⟩

/-- Members that can be put into a draft fill each slot with the values of its name. -/
theorem IsSlot.fills (h : IsSlot fields name kind get) (hputs : PutsAll fields ms draft result) :
    Fills kind (valuesOf name ms) (get draft) (get result) := by
  induction ms generalizing draft with
  | nil =>
    obtain rfl : result = draft := hputs
    rfl
  | cons m ms ih =>
    obtain ⟨next, hm, hms⟩ := hputs
    have hrest := ih hms
    by_cases hkey : m.key = name
    · subst hkey
      obtain ⟨hempty, x, hx, hnext⟩ := h.puts_own hm
      rw [valuesOf_cons_self]
      rw [hnext] at hrest
      -- the slot is taken now, so that there is no further value
      cases hvalues : valuesOf m.key ms with
      | nil =>
        rw [hvalues] at hrest
        exact ⟨rfl, hempty, x, hx, hrest⟩
      | cons value values =>
        rw [hvalues] at hrest
        exact absurd hrest.2.1 (Option.some_ne_none x)
    · rw [valuesOf_cons_ne hkey, ← h.puts_other hkey hm]
      exact hrest

/-- Members can be put into a draft if the values of each name can fill its slot. -/
theorem exists_putsAll
    (h : ∀ field ∈ fields, ∃ get, IsSlot fields field.name field.kind get ∧
      ∃ slot, Fills field.kind (valuesOf field.name ms) (get draft) slot) :
    ∃ result, PutsAll fields ms draft result := by
  induction ms generalizing draft with
  | nil => exact ⟨draft, rfl⟩
  | cons m ms ih =>
    -- a slot that the values of its name can fill can be filled by those behind the member
    have htail : ∀ next, m.Puts fields draft next → ∃ result, PutsAll fields ms next result := by
      refine fun next hputs => ih fun field hfield => ?_
      obtain ⟨get, hget, slot, hslot⟩ := h field hfield
      refine ⟨get, hget, ?_⟩
      by_cases hkey : m.key = field.name
      · rw [← hkey, valuesOf_cons_self] at hslot
        rw [← hkey, hslot.1]
        exact ⟨_, rfl⟩
      · rw [hget.puts_other hkey hputs]
        rw [valuesOf_cons_ne hkey] at hslot
        exact ⟨slot, hslot⟩
    have hhead : ∃ next, m.Puts fields draft next := by
      cases hfind : fields.find? fun field => field.name == m.key with
      | none => exact ⟨draft, (Member.puts_of_none hfind).mpr rfl⟩
      | some field =>
        obtain ⟨hfield, hname⟩ := find?_key_spec hfind
        obtain ⟨get, hget, slot, hslot⟩ := h field hfield
        rw [hname] at hget hslot
        rw [valuesOf_cons_self] at hslot
        obtain ⟨-, hempty, x, hx, -⟩ := hslot
        exact hget.exists_puts hempty hx
    obtain ⟨next, hm⟩ := hhead
    obtain ⟨result, hms⟩ := htail next hm
    exact ⟨result, next, hm, hms⟩

/-- What has to be said of the values of a name for its slot to hold something in the end: there
is one value, which denotes that. -/
theorem fills_some_iff {values : List (List Char)} {x : kind.Value} :
    Fills kind values none (some x) ↔ ∃ value, values = [value] ∧ Denotes kind value x := by
  constructor
  · intro h
    cases values with
    | nil => exact absurd h (Option.some_ne_none x)
    | cons value values =>
      obtain ⟨rfl, -, y, hy, hx⟩ := h
      obtain rfl := Option.some.inj hx
      exact ⟨value, rfl, hy⟩
  · rintro ⟨value, rfl, hx⟩
    exact ⟨rfl, rfl, x, hx, rfl⟩

theorem fills_none_iff {values : List (List Char)} :
    Fills kind values none none ↔ values = [] := by
  constructor
  · intro h
    cases values with
    | nil => rfl
    | cons value values =>
      obtain ⟨-, -, y, -, hnone⟩ := h
      exact absurd hnone.symm (Option.some_ne_none y)
  · rintro rfl
    rfl

/-- Each value of a name denotes something of its kind. -/
theorem Fills.denotes {values : List (List Char)} {value : List Char}
    {slot result : Option kind.Value} (h : Fills kind values slot result) (hmem : value ∈ values) :
    ∃ x, Denotes kind value x := by
  cases values with
  | nil => exact absurd hmem List.not_mem_nil
  | cons first values =>
    obtain ⟨rfl, -, x, hx, -⟩ := h
    obtain rfl := List.mem_singleton.mp hmem
    exact ⟨x, hx⟩

/-- No record comes of an object with a member of a field that has no value of its kind. -/
theorem IsSlot.error_of_not_denotes {shape : Shape δ α} {members : List Member} {text : List Char}
    {value : List Char} (h : IsSlot shape.fields name kind get) (hobject : IsObjectOf members text)
    (hvalue : value ∈ valuesOf name members) (hnot : ∀ x, ¬ Denotes kind value x) :
    ∃ e, readWhole shape.read text = .error e := by
  cases hread : readWhole shape.read text with
  | error e => exact ⟨e, rfl⟩
  | ok record =>
    obtain ⟨draft, hputs, -⟩ := (Shape.readWhole_object_iff hobject).mp hread
    obtain ⟨x, hx⟩ := (h.fills hputs).denotes hvalue
    exact absurd hx (hnot x)

/-- The values of a name determine what its slot holds. -/
theorem Fills.unique {values : List (List Char)} {slot slot' : Option kind.Value}
    (h : Fills kind values none slot) (h' : Fills kind values none slot') : slot = slot' := by
  cases values with
  | nil => exact h.trans h'.symm
  | cons value values =>
    obtain ⟨-, -, x, hx, rfl⟩ := h
    obtain ⟨-, -, y, hy, rfl⟩ := h'
    rw [hx.unique hy]

end

end LoanPricing.Json
