import LoanPricing.Proofs.Json.Lists

/-!
# Gathering — what every field keeps, a record keeps

A draft starts out empty and takes the values of its fields one by one, in whatever order they
stand. So what holds of the empty draft and is kept by every field holds of the draft that a record
is made of, be it an object or a list, and with whatever members that are skipped.
-/

namespace LoanPricing.Json

variable {δ α : Type} {P : δ → Prop}

/-- Whether a property of drafts is kept when a field takes a value, of those that can be read. -/
def Field.Keeps (P : δ → Prop) (field : Field δ) : Prop :=
  ∀ ⦃draft : δ⦄ ⦃value : field.kind.Value⦄ ⦃cs rest : List Char⦄,
    readValue field.kind cs = .ok (value, rest) → P draft → P (field.set value draft)

/-! ## 1. The two forms of a record -/

theorem readMembers_keeps {fields : List (Field δ)} {first : Bool} {draft result : δ}
    {cs rest : List Char} (hfields : ∀ field ∈ fields, field.Keeps P) (hdraft : P draft)
    (h : readMembers fields first draft cs = .ok (result, rest)) : P result := by
  fun_induction readMembers fields first draft cs with
  | case1 => injection h
  | case2 first draft cs after hkey =>
    rw [← (Prod.mk.inj (Except.ok.inj h)).1]
    exact hdraft
  | case3 => injection h
  | case4 => injection h
  -- a member that is none of the fields, then one that is
  | case5 first draft cs key afterKey hkey hfind afterColon hcolon after hvalue ih =>
    exact ih hdraft h
  | case6 => injection h
  | case7 => injection h
  | case8 => injection h
  | case9 first draft cs key afterKey hkey field hfind _ afterColon hcolon value after hvalue ih =>
    exact ih (hfields field (List.mem_of_find?_eq_some hfind) hvalue hdraft) h

theorem readElements_keeps {fields : List (Field δ)} {first : Bool} {draft result : δ}
    {cs rest : List Char} (hfields : ∀ field ∈ fields, field.Keeps P) (hdraft : P draft)
    (h : readElements first fields draft cs = .ok (result, rest)) : P result := by
  induction fields generalizing first draft cs with
  | nil =>
    unfold readElements at h
    cases hclose : closeList cs with
    | error f => simp [hclose, Except.map] at h
    | ok after =>
      simp only [hclose, Except.map, Except.ok.injEq, Prod.mk.injEq] at h
      rw [← h.1]
      exact hdraft
  | cons field fields ih =>
    obtain ⟨hfield, hfields⟩ := List.forall_mem_cons.mp hfields
    unfold readElements at h
    split at h
    · injection h
    · rw [← (Prod.mk.inj (Except.ok.inj h)).1]
      exact hdraft
    · split at h
      · injection h
      · rename_i hvalue
        exact ih hfields (hfield hvalue hdraft) h

/-! ## 2. Records -/

variable {shape : Shape δ α} {record : α}

theorem Shape.exists_draft_of_read (hfields : ∀ field ∈ shape.fields, field.Keeps P)
    (hstart : P shape.start) {cs rest : List Char} (h : shape.read cs = .ok (record, rest)) :
    ∃ draft, P draft ∧ shape.finish draft = .ok record := by
  obtain ⟨draft, hfinish, ⟨tail, -, hread⟩ | ⟨tail, -, hread⟩⟩ := Shape.read_eq_ok_iff.mp h
  · exact ⟨draft, readMembers_keeps hfields hstart hread, hfinish⟩
  · exact ⟨draft, readElements_keeps hfields hstart hread, hfinish⟩

/-- Every record of a list is made of a draft with what all fields keep. -/
theorem Shape.exists_draft_of_mem (hfields : ∀ field ∈ shape.fields, field.Keeps P)
    (hstart : P shape.start) {text : List Char} {records : List α}
    (h : readWhole shape.readList text = .ok records) (hrecord : record ∈ records) :
    ∃ draft, P draft ∧ shape.finish draft = .ok record := by
  obtain ⟨items, -, hitems⟩ := Shape.readWhole_list_iff.mp h
  have hmem : Except.ok record ∈ items.map (readWhole shape.read) := by
    rw [hitems]
    exact List.mem_map_of_mem hrecord
  obtain ⟨item, -, hitem⟩ := List.mem_map.mp hmem
  obtain ⟨rest, hread, -⟩ := readWhole_eq_ok_iff.mp hitem
  exact Shape.exists_draft_of_read hfields hstart hread

end LoanPricing.Json
