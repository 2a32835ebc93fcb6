import LoanPricing.Toml.Document

/-!
# Keys — no table of a document has a key twice

A statement that would give a table a key a second time is refused, wherever the table came from.
So whatever a text describes, the members of each of its tables have different keys.
-/

namespace LoanPricing.Toml

/-! ## 1. Tables with distinct keys -/

/-- A value in which no table has a key twice. -/
inductive Value.Keyed : Value → Prop
  | text (s : String) : Keyed (.text s)
  | int (n : Int) : Keyed (.int n)
  | number (x : Float) : Keyed (.number x)
  | flag (b : Bool) : Keyed (.flag b)
  | moment (m : Moment) : Keyed (.moment m)
  | list {items : List Value} (h : ∀ v ∈ items, Keyed v) : Keyed (.list items)
  | table {mark : Mark} {members : List (String × Value)} (hkeys : (members.map Prod.fst).Nodup)
      (h : ∀ m ∈ members, Keyed m.2) : Keyed (.table mark members)
  | tables {items : List (List (String × Value))}
      (hkeys : ∀ members ∈ items, (members.map Prod.fst).Nodup)
      (h : ∀ members ∈ items, ∀ m ∈ members, Keyed m.2) : Keyed (.tables items)

/-- Members with distinct keys, in whose values no table has a key twice. -/
structure Members.Keyed (members : Members) : Prop where
  distinct : (members.map Prod.fst).Nodup
  values : ∀ m ∈ members, m.2.Keyed

variable {key : String} {v : Value} {members members' : Members}

theorem keyed_table_iff {mark : Mark} : (Value.table mark members).Keyed ↔ members.Keyed := by
  constructor
  · intro h
    cases h with
    | table hkeys h => exact ⟨hkeys, h⟩
  · intro h
    exact .table h.distinct h.values

theorem keyed_tables_iff {items : List Members} :
    (Value.tables items).Keyed ↔ ∀ members ∈ items, members.Keyed := by
  constructor
  · intro h members hmembers
    cases h with
    | tables hkeys h => exact ⟨hkeys members hmembers, h members hmembers⟩
  · intro h
    exact .tables (fun members hmembers => (h members hmembers).distinct)
      fun members hmembers => (h members hmembers).values

namespace Members.Keyed

theorem nil : Members.Keyed [] where
  distinct := List.nodup_nil
  values := nofun

/-- A member with a new key can be added. -/
theorem snoc (h : members.Keyed) (hnew : members.lookup key = none) (hv : v.Keyed) :
    Members.Keyed (members ++ [(key, v)]) where
  distinct := by
    rw [List.map_append, List.nodup_append]
    refine ⟨h.distinct, List.pairwise_singleton _ key, ?_⟩
    intro k hk k' hk'
    obtain ⟨m, hm, rfl⟩ := List.mem_map.mp hk
    rw [List.eq_of_mem_singleton hk']
    exact (bne_iff_ne.mp (List.lookup_eq_none_iff.mp hnew m hm)).symm
  values := by
    intro m hm
    rcases List.mem_append.mp hm with hm | hm
    · exact h.values m hm
    · rw [List.eq_of_mem_singleton hm]
      exact hv

theorem keys_replaceMember (key : String) (v : Value) (members : Members) :
    (replaceMember key v members).map Prod.fst = members.map Prod.fst := by
  rw [replaceMember, List.map_map]
  apply List.map_congr_left
  intro m _
  show (if m.1 == key then (key, v) else m).1 = m.1
  split
  · rename_i hkey
    exact (eq_of_beq hkey).symm
  · rfl

theorem replace (h : members.Keyed) (key : String) (hv : v.Keyed) :
    Members.Keyed (replaceMember key v members) where
  distinct := by
    rw [keys_replaceMember]
    exact h.distinct
  values := by
    intro m hm
    obtain ⟨m', hm', rfl⟩ := List.mem_map.mp hm
    split
    · exact hv
    · exact h.values m' hm'

theorem lookup (h : members.Keyed) (hlookup : members.lookup key = some v) : v.Keyed := by
  obtain ⟨before, after, hmembers, -⟩ := List.lookup_eq_some_iff.mp hlookup
  refine h.values (key, v) ?_
  rw [hmembers]
  exact List.mem_append_right before List.mem_cons_self

end Members.Keyed

/-! ## 2. Assignments and headers -/

theorem keyed_addMember? (h : members.Keyed) (hv : v.Keyed)
    (hadd : addMember? key v members = some members') : members'.Keyed := by
  unfold addMember? at hadd
  split at hadd
  · cases hadd
  · rename_i hnew
    rw [← Option.some.inj hadd]
    exact h.snoc (Option.not_isSome_iff_eq_none.mp hnew) hv

/-- The last of some tables changed. -/
theorem keyed_tables_dropLast {items : List Members} {inner : Members}
    (h : (Value.tables items).Keyed) (hinner : inner.Keyed) :
    (Value.tables (items.dropLast ++ [inner])).Keyed := by
  rw [keyed_tables_iff] at h ⊢
  intro members hmembers
  rcases List.mem_append.mp hmembers with hmembers | hmembers
  · exact h members (List.dropLast_subset items hmembers)
  · rw [List.eq_of_mem_singleton hmembers]
    exact hinner

/-- A table among the members changed, whatever its mark becomes. -/
theorem Members.Keyed.replaceTable {mark mark' : Mark} {inner inner' : Members}
    (h : members.Keyed) (hold : members.lookup key = some (.table mark inner))
    (hinner : inner.Keyed → inner'.Keyed) :
    Members.Keyed (replaceMember key (.table mark' inner') members) :=
  h.replace key (keyed_table_iff.mpr (hinner (keyed_table_iff.mp (h.lookup hold))))

/-- The last of some tables among the members changed. -/
theorem Members.Keyed.replaceLast {items : List Members} {inner inner' : Members}
    (h : members.Keyed) (hold : members.lookup key = some (.tables items))
    (hlast : items.getLast? = some inner) (hinner : inner.Keyed → inner'.Keyed) :
    Members.Keyed (replaceMember key (.tables (items.dropLast ++ [inner'])) members) := by
  have hitems := h.lookup hold
  have hlastKeyed := keyed_tables_iff.mp hitems inner (List.mem_of_getLast? hlast)
  exact h.replace key (keyed_tables_dropLast hitems (hinner hlastKeyed))

theorem keyed_assign {path : List String} (hv : v.Keyed) (h : members.Keyed)
    (hassign : assign key v path members = some members') : members'.Keyed := by
  -- the cases go by what stands under the first name of the path
  fun_induction assign key v path members generalizing members' with
  | case1 members => exact keyed_addMember? h hv hassign
  | case2 name path members hnew ih =>
    obtain ⟨inner', hinner', rfl⟩ := Option.map_eq_some_iff.mp hassign
    exact h.snoc hnew (keyed_table_iff.mpr (ih .nil hinner'))
  | case3 name path members inner hold ih =>
    obtain ⟨inner', hinner', rfl⟩ := Option.map_eq_some_iff.mp hassign
    exact h.replaceTable hold fun hinner => ih hinner hinner'
  | case4 name path members inner hold ih =>
    obtain ⟨inner', hinner', rfl⟩ := Option.map_eq_some_iff.mp hassign
    exact h.replaceTable hold fun hinner => ih hinner hinner'
  | case5 name path members items hold inner hlast _ ih =>
    obtain ⟨inner', hinner', rfl⟩ := Option.map_eq_some_iff.mp hassign
    exact h.replaceLast hold hlast fun hinner => ih hinner hinner'
  | case6 => cases hassign
  | case7 => cases hassign

theorem keyed_alter {change : Members → Option Members} {path : List String}
    (hchange : ∀ inner inner', inner.Keyed → change inner = some inner' → inner'.Keyed)
    (h : members.Keyed) (halter : alter change path members = some members') : members'.Keyed := by
  fun_induction alter change path members generalizing members' with
  | case1 members => exact hchange members members' h halter
  | case2 name path members hnew ih =>
    obtain ⟨inner', hinner', rfl⟩ := Option.map_eq_some_iff.mp halter
    exact h.snoc hnew (keyed_table_iff.mpr (ih .nil hinner'))
  | case3 => cases halter
  | case4 name path members mark inner _ hold ih =>
    obtain ⟨inner', hinner', rfl⟩ := Option.map_eq_some_iff.mp halter
    exact h.replaceTable hold fun hinner => ih hinner hinner'
  | case5 => cases halter
  | case6 name path members items hold inner hlast ih =>
    obtain ⟨inner', hinner', rfl⟩ := Option.map_eq_some_iff.mp halter
    exact h.replaceLast hold hlast fun hinner => ih hinner hinner'
  | case7 => cases halter

theorem keyed_openTable (h : members.Keyed) (hopen : openTable key members = some members') :
    members'.Keyed := by
  unfold openTable at hopen
  split at hopen
  · rename_i hnew
    rw [← Option.some.inj hopen]
    exact h.snoc hnew (keyed_table_iff.mpr .nil)
  · rename_i inner hold
    rw [← Option.some.inj hopen]
    exact h.replaceTable hold id
  · cases hopen

theorem keyed_appendTable (h : members.Keyed) (happend : appendTable key members = some members') :
    members'.Keyed := by
  unfold appendTable at happend
  split at happend
  · rename_i hnew
    rw [← Option.some.inj happend]
    refine h.snoc hnew (keyed_tables_iff.mpr ?_)
    intro inner hinner
    rw [List.eq_of_mem_singleton hinner]
    exact .nil
  · rename_i items hold
    rw [← Option.some.inj happend]
    refine h.replace key (keyed_tables_iff.mpr ?_)
    intro inner hinner
    rcases List.mem_append.mp hinner with hinner | hinner
    · exact keyed_tables_iff.mp (h.lookup hold) inner hinner
    · rw [List.eq_of_mem_singleton hinner]
      exact .nil
  · cases happend

/-! ## 3. Values -/

theorem keyed_scalar? {cs : List Char} (h : scalar? cs = some v) : v.Keyed := by
  unfold scalar? at h
  split at h
  · rw [← Option.some.inj h]
    exact .flag true
  split at h
  · rw [← Option.some.inj h]
    exact .flag false
  split at h
  · split at h
    · rw [← Option.some.inj h]
      exact .int _
    · cases h
  split at h
  · rw [← Option.some.inj h]
    exact .number _
  · obtain ⟨m, -, rfl⟩ := Option.map_eq_some_iff.mp h
    exact .moment m

theorem keyed_readScalar {cs rest : List Char} (h : readScalar cs = some (v, rest)) : v.Keyed := by
  obtain ⟨v', hv', heq⟩ := Option.map_eq_some_iff.mp h
  obtain ⟨rfl, -⟩ := Prod.mk.inj heq
  exact keyed_scalar? hv'

/-- What the readers find within some steps has no table with a key twice. -/
structure ReadsKeyed (steps : Nat) : Prop where
  value {depth : Nat} {cs rest : List Char} {v : Value} :
    readValue steps depth cs = some (v, rest) → v.Keyed
  items {depth : Nat} {cs rest : List Char} {vs : List Value} :
    readItems steps depth cs = some (vs, rest) → ∀ v ∈ vs, v.Keyed
  pairs {depth : Nat} {members members' : Members} {cs rest : List Char} :
    readPairs steps depth members cs = some (members', rest) → members.Keyed → members'.Keyed

namespace ReadsKeyed

variable {steps depth : Nat} {cs rest : List Char}

theorem readValue_succ (ih : ReadsKeyed steps)
    (h : readValue (steps + 1) depth cs = some (v, rest)) : v.Keyed := by
  unfold readValue at h
  split at h
  · cases h
  · cases h
  · obtain ⟨⟨items, rest'⟩, hread, heq⟩ := Option.map_eq_some_iff.mp h
    obtain ⟨rfl, -⟩ := Prod.mk.inj heq
    exact .list (ih.items hread)
  · obtain ⟨⟨members, rest'⟩, hread, heq⟩ := Option.map_eq_some_iff.mp h
    obtain ⟨rfl, -⟩ := Prod.mk.inj heq
    exact keyed_table_iff.mpr (ih.pairs hread .nil)
  · obtain ⟨⟨s, rest'⟩, -, heq⟩ := Option.map_eq_some_iff.mp h
    obtain ⟨rfl, -⟩ := Prod.mk.inj heq
    exact .text _
  · obtain ⟨⟨s, rest'⟩, -, heq⟩ := Option.map_eq_some_iff.mp h
    obtain ⟨rfl, -⟩ := Prod.mk.inj heq
    exact .text _
  · exact keyed_readScalar h

theorem readItems_succ (ih : ReadsKeyed steps) {vs : List Value}
    (h : readItems (steps + 1) depth cs = some (vs, rest)) : ∀ v ∈ vs, v.Keyed := by
  unfold readItems at h
  split at h
  · obtain ⟨rfl, -⟩ := Prod.mk.inj (Option.some.inj h)
    exact nofun
  · split at h
    · cases h
    rename_i v rest' hread
    split at h
    · obtain ⟨⟨vs', rest''⟩, hmore, heq⟩ := Option.map_eq_some_iff.mp h
      obtain ⟨rfl, -⟩ := Prod.mk.inj heq
      exact List.forall_mem_cons.mpr ⟨ih.value hread, ih.items hmore⟩
    · obtain ⟨rfl, -⟩ := Prod.mk.inj (Option.some.inj h)
      exact List.forall_mem_cons.mpr ⟨ih.value hread, nofun⟩
    · cases h
  · cases h

theorem readPairs_succ (ih : ReadsKeyed steps)
    (h : readPairs (steps + 1) depth members cs = some (members', rest))
    (hmembers : members.Keyed) : members'.Keyed := by
  unfold readPairs at h
  split at h
  · obtain ⟨rfl, -⟩ := Prod.mk.inj (Option.some.inj h)
    exact hmembers
  · split at h
    · cases h
    split at h
    · cases h
    rename_i v rest' hread
    split at h
    · -- a comma: the other pairs go into the members that have this one
      rename_i hassign _
      exact ih.pairs h (keyed_assign (ih.value hread) hmembers hassign)
    · rename_i hassign _
      obtain ⟨rfl, -⟩ := Prod.mk.inj (Option.some.inj h)
      exact keyed_assign (ih.value hread) hmembers hassign
    · cases h
  · cases h

end ReadsKeyed

/-- The three readers call each other with one step less. -/
theorem readsKeyed (steps : Nat) : ReadsKeyed steps := by
  induction steps with
  | zero => exact ⟨nofun, nofun, nofun⟩
  | succ steps ih => exact ⟨ih.readValue_succ, ih.readItems_succ, ih.readPairs_succ⟩

/-! ## 4. Documents -/

/-- A statement that does not assign a value in which a table has a key twice. -/
def Statement.Keyed : Statement → Prop
  | .assign _ _ v => v.Keyed
  | _ => True

theorem keyed_readStatement {steps : Nat} {cs rest : List Char} {statement : Statement}
    (h : readStatement steps cs = some (statement, rest)) : statement.Keyed := by
  unfold readStatement at h
  split at h
  · split at h
    · obtain ⟨rfl, -⟩ := Prod.mk.inj (Option.some.inj h)
      trivial
    · cases h
  · split at h
    · obtain ⟨rfl, -⟩ := Prod.mk.inj (Option.some.inj h)
      trivial
    · cases h
  · split at h
    · obtain ⟨⟨v, rest'⟩, hread, heq⟩ := Option.map_eq_some_iff.mp h
      obtain ⟨rfl, -⟩ := Prod.mk.inj heq
      exact (readsKeyed steps).value hread
    · cases h

theorem keyed_readStatements {steps : Nat} {cs : List Char} {statements : List Statement}
    (h : readStatements steps cs = some statements) : ∀ s ∈ statements, s.Keyed := by
  induction steps generalizing cs statements with
  | zero => cases h
  | succ steps ih =>
    unfold readStatements at h
    split at h
    · cases h
    · rw [← Option.some.inj h]
      exact nofun
    split at h
    · cases h
    rename_i statement rest hread
    split at h
    · cases h
    obtain ⟨statements', hmore, rfl⟩ := Option.map_eq_some_iff.mp h
    exact List.forall_mem_cons.mpr ⟨keyed_readStatement hread, ih hmore⟩

/-- Every statement that is carried out keeps the keys of every table distinct. -/
theorem keyed_carryOut {place : List String} {statements : List Statement}
    (hstatements : ∀ s ∈ statements, s.Keyed) (h : members.Keyed)
    (hcarry : carryOut place members statements = some members') : members'.Keyed := by
  induction statements generalizing place members with
  | nil =>
    rw [← Option.some.inj hcarry]
    exact h
  | cons statement statements ih =>
    obtain ⟨hstatement, hmore⟩ := List.forall_mem_cons.mp hstatements
    cases statement with
    | table path key =>
      unfold carryOut at hcarry
      split at hcarry
      · rename_i halter
        exact ih hmore (keyed_alter (fun _ _ => keyed_openTable) h halter) hcarry
      · cases hcarry
    | tables path key =>
      unfold carryOut at hcarry
      split at hcarry
      · rename_i halter
        exact ih hmore (keyed_alter (fun _ _ => keyed_appendTable) h halter) hcarry
      · cases hcarry
    | assign path key v =>
      unfold carryOut at hcarry
      split at hcarry
      · rename_i halter
        exact ih hmore (keyed_alter (fun _ _ => keyed_assign hstatement) h halter) hcarry
      · cases hcarry

/-- In a document no table has a key twice. -/
theorem keyed_parse {text : String} (h : parse text = some members) : members.Keyed := by
  unfold parse at h
  extract_lets cs at h
  cases hread : readStatements (2 * cs.length + 2) cs with
  | none =>
    rw [hread] at h
    cases h
  | some statements =>
    rw [hread] at h
    exact keyed_carryOut (keyed_readStatements hread) .nil h

end LoanPricing.Toml
