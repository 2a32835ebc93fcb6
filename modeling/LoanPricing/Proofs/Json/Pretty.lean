import LoanPricing.Proofs.Json.Document
import LoanPricing.Proofs.Json.Writing

/-!
# Pretty texts — spread over lines, sorted, and read back

A value that is spread over lines is a text of the grammar which means the value, except that a
number without a JSON text has become `null`. Sorting the members of its objects moves them, but
under every key the same value is found.
-/

namespace LoanPricing.Json

/-! ## 1. What a value is read as -/

mutual

/-- The document that the text of a value means. -/
def Value.document : Value → Document
  | .null => .null
  | .flag b => .flag b
  | .int n => .number (Text.ofInt n)
  | .number x => if x.isFinite then .number (Decimal.json x) else .null
  | .text s => .text s
  | .list items => .list (documents items)
  | .object members => .object (memberDocuments members)

def documents : List Value → List Document
  | [] => []
  | v :: vs => v.document :: documents vs

def memberDocuments : List (String × Value) → List (String × Document)
  | [] => []
  | (key, v) :: ms => (key, v.document) :: memberDocuments ms

end

theorem isBlanks_breakLine (level : Nat) : IsBlanks (breakLine level) := by
  intro c hc
  rcases List.mem_cons.mp hc with rfl | hc
  · rfl
  · rw [List.eq_of_mem_replicate hc]
    rfl

theorem means_int (n : Int) : Means .value (Text.ofInt n) (Document.number (Text.ofInt n)) := by
  rw [← wholeLiteral_text]
  exact .number _

theorem means_writeNumber (x : Float) :
    Means .value (writeNumber x) (Value.number x).document := by
  unfold writeNumber Value.document
  split
  · obtain ⟨l, hl⟩ := exists_literal_json x
    rw [hl]
    exact .number l
  · exact .null

theorem means_writeString (s : String) : Means .value (writeString s) (Document.text s) := by
  have hmeans := Means.string (spells_flatMap_escape s.toList)
  rwa [String.ofList_toList] at hmeans

theorem means_member (key : String) {value : List Char} {d : Document} (level : Nat)
    (h : Means .value value d) {after : List Char} (hafter : IsBlanks after) :
    Means .member (breakLine level ++ writeString key ++ ':' :: ' ' :: (value ++ after)) (key, d) := by
  have hspace : IsBlanks [' '] := by decide
  have hmember := Means.member (isBlanks_breakLine level) (spells_flatMap_escape key.toList)
    (by decide : IsBlanks []) (.element hspace h hafter)
  simpa [writeString] using hmember

theorem spread_list (v : Value) (vs : List Value) (level : Nat) :
    (Value.list (v :: vs)).spread level =
      '[' :: (spreadItems (level + 1) (v :: vs) ++ breakLine level ++ [']']) := by
  rw [Value.spread]
  · rfl
  · exact List.cons_ne_nil v vs

theorem spread_object (m : String × Value) (ms : List (String × Value)) (level : Nat) :
    (Value.object (m :: ms)).spread level =
      '{' :: (spreadMembers (level + 1) (m :: ms) ++ breakLine level ++ ['}']) := by
  rw [Value.spread]
  · rfl
  · exact List.cons_ne_nil m ms

mutual

/-- A value that is spread over lines means its document. -/
theorem Value.means_spread : ∀ (v : Value) (level : Nat),
    Means .value (v.spread level) v.document
  | .null, _ => .null
  | .flag b, _ => .flag b
  | .int n, _ => means_int n
  | .number x, _ => means_writeNumber x
  | .text s, _ => means_writeString s
  | .list [], _ => .emptyList (by decide : IsBlanks [])
  | .list (v :: vs), level => by
    have hitems := means_spreadItems (v :: vs) (level + 1) (List.cons_ne_nil v vs)
      (isBlanks_breakLine level)
    rw [spread_list, Value.document]
    exact .list hitems
  | .object [], _ => .emptyObject (by decide : IsBlanks [])
  | .object (m :: ms), level => by
    have hmembers := means_spreadMembers (m :: ms) (level + 1) (List.cons_ne_nil m ms)
      (isBlanks_breakLine level)
    rw [spread_object, Value.document]
    exact .object hmembers

theorem means_spreadItems : ∀ (vs : List Value) (level : Nat), vs ≠ [] →
    ∀ {after : List Char}, IsBlanks after →
      Means .elements (spreadItems level vs ++ after) (documents vs)
  | [], _, h => absurd rfl h
  | [v], level, _ => fun hafter => by
    rw [spreadItems, List.append_assoc]
    exact .lastElement (.element (isBlanks_breakLine level) (v.means_spread level) hafter)
  | v :: w :: vs, level, _ => fun hafter => by
    have hfirst := Means.element (isBlanks_breakLine level) (v.means_spread level)
      (by decide : IsBlanks [])
    have hmore := Means.moreElements hfirst
      (means_spreadItems (w :: vs) level (List.cons_ne_nil w vs) hafter)
    rw [spreadItems, documents]
    · simpa using hmore
    · exact List.cons_ne_nil w vs

theorem means_spreadMembers : ∀ (ms : List (String × Value)) (level : Nat), ms ≠ [] →
    ∀ {after : List Char}, IsBlanks after →
      Means .members (spreadMembers level ms ++ after) (memberDocuments ms)
  | [], _, h => absurd rfl h
  | [(key, v)], level, _ => fun hafter => by
    have hlast := Means.lastMember (means_member key level (v.means_spread level) hafter)
    rw [spreadMembers, memberDocuments, memberDocuments]
    simpa using hlast
  | (key, v) :: m :: ms, level, _ => fun hafter => by
    have hfirst := means_member key level (v.means_spread level) (by decide : IsBlanks [])
    have hmore := Means.moreMembers hfirst
      (means_spreadMembers (m :: ms) level (List.cons_ne_nil m ms) hafter)
    rw [spreadMembers, memberDocuments]
    · simpa using hmore
    · exact List.cons_ne_nil m ms

end

/-! ## 2. What is under a key -/

/-- What is under a key of an object. -/
def Document.member? (key : String) : Document → Option Document
  | .object members => members.lookup key
  | _ => none

theorem documents_eq_map (vs : List Value) : documents vs = vs.map Value.document := by
  induction vs with
  | nil => rfl
  | cons v vs ih => rw [documents, ih, List.map_cons]

theorem lookup_memberDocuments (key : String) (ms : List (String × Value)) :
    (memberDocuments ms).lookup key = (ms.lookup key).map Value.document := by
  induction ms with
  | nil => rfl
  | cons m ms ih =>
    rw [memberDocuments, List.lookup_cons, List.lookup_cons]
    cases key == m.1 with
    | true => rfl
    | false => exact ih

theorem sortedItems_eq_map (vs : List Value) : sortedItems vs = vs.map Value.sorted := by
  induction vs with
  | nil => rfl
  | cons v vs ih => rw [sortedItems, ih, List.map_cons]

theorem lookup_insertMember {key : String} (v : Value) {ms : List (String × Value)}
    (hnew : ms.lookup key = none) (wanted : String) :
    (insertMember key v ms).lookup wanted =
      if wanted == key then some v else ms.lookup wanted := by
  induction ms with
  | nil =>
    rw [insertMember, List.lookup_cons]
    cases wanted == key <;> rfl
  | cons m ms ih =>
    rw [List.lookup_cons] at hnew
    have hkey : (key == m.1) = false := by
      cases hkey : key == m.1 with
      | true => simp [hkey] at hnew
      | false => rfl
    rw [hkey] at hnew
    rw [insertMember]
    split
    · rw [List.lookup_cons]
      cases wanted == key <;> rfl
    · rw [List.lookup_cons, List.lookup_cons, ih hnew]
      cases hwanted : wanted == m.1 with
      | false => rfl
      | true =>
        -- the key of the first member is not the new one
        rw [← eq_of_beq hwanted, Bool.beq_comm] at hkey
        rw [hkey]
        rfl

/-- Sorting moves members, but finds the same under each key. -/
theorem lookup_sortedMembers {ms : List (String × Value)} (hkeys : (ms.map Prod.fst).Nodup)
    (wanted : String) :
    (sortedMembers ms).lookup wanted = (ms.lookup wanted).map Value.sorted := by
  induction ms generalizing wanted with
  | nil => rfl
  | cons m ms ih =>
    obtain ⟨key, v⟩ := m
    obtain ⟨hnew, hkeys⟩ := List.nodup_cons.mp hkeys
    have hlookup : ms.lookup key = none := List.lookup_eq_none_iff.mpr fun m hm => by
      refine bne_iff_ne.mpr ?_
      rintro rfl
      exact hnew (List.mem_map.mpr ⟨m, hm, rfl⟩)
    have hsorted : (sortedMembers ms).lookup key = none := by rw [ih hkeys, hlookup]; rfl
    rw [sortedMembers, lookup_insertMember _ hsorted, List.lookup_cons, ih hkeys]
    cases wanted == key <;> rfl

/-! ## 3. Pretty texts -/

/-- The document that the pretty text of a value means. -/
def Value.sortedDocument (v : Value) : Document :=
  v.sorted.document

theorem Value.isValue_pretty (v : Value) : IsValue v.pretty.toList := by
  rw [Value.pretty, String.toList_ofList]
  exact (v.sorted.means_spread 0).isPart

theorem Value.read_pretty (v : Value) : Document.read v.pretty = some v.sortedDocument := by
  have hnone : IsBlanks [] := by decide
  have hread := (v.sorted.means_spread 0).read_eq hnone hnone
  rwa [List.nil_append, List.append_nil] at hread

theorem Value.sortedDocument_list (items : List Value) :
    (Value.list items).sortedDocument = .list (items.map Value.sortedDocument) := by
  rw [sortedDocument, Value.sorted, Value.document, sortedItems_eq_map, documents_eq_map,
    List.map_map]
  rfl

theorem Value.member?_sortedDocument {ms : List (String × Value)} {key : String}
    (hkeys : (ms.map Prod.fst).Nodup) :
    (Value.object ms).sortedDocument.member? key = (ms.lookup key).map Value.sortedDocument := by
  rw [sortedDocument, Value.sorted, Value.document, Document.member?, lookup_memberDocuments,
    lookup_sortedMembers hkeys, Option.map_map]
  rfl

end LoanPricing.Json
