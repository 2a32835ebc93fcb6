import LoanPricing.Proofs.Json.Members
import LoanPricing.Proofs.Json.NumberText

/-!
# Writing — what is written can be read

Every string is spelled by the text that is written of it, and every value is written as a value of
the grammar. So the text of an object is that of its members, each with the text of its value, and a
reader finds them there one by one.
-/

namespace LoanPricing.Json

/-! ## 1. Strings -/

/-- The escape of a control character, without its backslash. -/
theorem isEscape_control {c : Char} (h : c.toNat < 0x20) :
    IsEscape ['u', '0', '0', Nat.digitChar (c.toNat / 16), Nat.digitChar (c.toNat % 16)] c := by
  have hhex : ∀ n < 0x20, Text.natOn? 16 Text.hexDigit? 0
      ['0', '0', Nat.digitChar (n / 16), Nat.digitChar (n % 16)] = some n ∧
        isLowSurrogate n = false ∧ isHighSurrogate n = false := by decide
  obtain ⟨hvalue, hlow, hhigh⟩ := hhex c.toNat h
  have hescape := IsEscape.unit ⟨rfl, hvalue⟩ hlow hhigh
  rwa [Char.ofNat_toNat] at hescape

theorem spells_escape (c : Char) : Spells (escape c) [c] := by
  have hshort : ∀ {letter : Char}, shortEscape? letter = some c → Spells ['\\', letter] [c] :=
    fun h => .escape (.short h) .nil
  unfold escape
  split
  · exact hshort (by subst c; rfl)
  split
  · exact hshort (by subst c; rfl)
  split
  · exact hshort (by subst c; rfl)
  split
  · exact hshort (by subst c; rfl)
  split
  · exact hshort (by subst c; rfl)
  split
  · exact hshort (by subst c; rfl)
  split
  · exact hshort (by subst c; rfl)
  split
  · rename_i hcontrol
    exact .escape (isEscape_control hcontrol) .nil
  · rename_i hquote hslash _ _ _ _ _ hcontrol
    exact .plain ⟨hquote, hslash, Nat.not_lt.mp hcontrol⟩ .nil

theorem spells_flatMap_escape (text : List Char) : Spells (text.flatMap escape) text := by
  induction text with
  | nil => exact .nil
  | cons c text ih =>
    rw [List.flatMap_cons]
    exact (spells_escape c).append ih

/-- The text of a string denotes the string. -/
theorem denotes_writeString (s : String) : Denotes .text (writeString s) s :=
  ⟨s.toList.flatMap escape, rfl, spells_flatMap_escape s.toList⟩

/-! ## 2. Values -/

theorem denotes_ofInt (n : Int32) : Denotes .int32 (Text.ofInt n.toInt) n := by
  have hlow : Int32.minValue.toInt ≤ n.toInt := n.minValue_le_toInt
  have hhigh : n.toInt ≤ Int32.maxValue.toInt := n.toInt_le
  have hmin : Int32.minValue.toInt = -0x80000000 := by decide
  have hmax : Int32.maxValue.toInt = 0x7FFFFFFF := by decide
  have hsize : (UInt64.size : Int) = 0x10000000000000000 := rfl
  exact ⟨wholeLiteral n.toInt, (wholeLiteral_text n.toInt).symm, isWhole_wholeLiteral (by omega)⟩

theorem isValue_writeNumber (x : Float) : IsValue (writeNumber x) := by
  unfold writeNumber
  split
  · obtain ⟨l, hl⟩ := exists_literal_json x
    rw [hl]
    exact .number l
  · exact .null

/-- The text of a number that is not finite denotes no number. -/
theorem not_denotes_null (x : Float) : ¬ Denotes .number ['n', 'u', 'l', 'l'] x := by
  rintro ⟨l, hl, -⟩
  obtain ⟨c, tail, htext, hc⟩ := l.exists_head
  rw [htext] at hl
  rw [← (List.cons.inj hl).1] at hc
  exact absurd hc (by decide)

/-- A number that is read back from its text is denoted by it. -/
theorem denotes_json {x : Float}
    (h : readWhole (readValue .number) (Decimal.json x) = .ok x) :
    Denotes .number (Decimal.json x) x := by
  obtain ⟨l, hl⟩ := exists_literal_json x
  obtain ⟨rest, hread, -⟩ := readWhole_eq_ok_iff.mp h
  rw [hl] at hread ⊢
  have happend : readValue .number ([] ++ (l.text ++ [])) = .ok (x, rest) := by
    rwa [List.nil_append, List.append_nil]
  exact ((readValue_eq_ok_iff (by decide) (.number l) stops_nil).mp happend).1

theorem IsValue.element {value : List Char} (h : IsValue value) : IsPart .element value := by
  have helement := @IsPart.element [] value [] (by decide) h (by decide)
  rwa [List.nil_append, List.append_nil] at helement

theorem isMember_write (key : String) {value : List Char} (h : IsValue value) :
    IsMember ⟨key, value⟩ (writeString key ++ ':' :: value) := by
  have hmember := @IsMember.intro ⟨key, value⟩ [] _ [] [] [] (by decide)
    (spells_flatMap_escape key.toList) (by decide) (by decide) h (by decide)
  simpa [writeString] using hmember

theorem IsMember.part {m : Member} {text : List Char} (h : IsMember m text) :
    IsPart .member text := by
  obtain ⟨hbefore, hkey, hbetween, hfront, hvalue, hback⟩ := h
  exact .member hbefore hkey.isBody hbetween (.element hfront hvalue hback)

theorem AreMembers.part {ms : List Member} {text : List Char} (h : AreMembers ms text) :
    IsPart .members text := by
  induction h with
  | last h => exact .lastMember h.part
  | more h _ ih => exact .moreMembers h.part ih

/-- The members of an object that is written. -/
def writtenMembers (members : List (String × Value)) : List Member :=
  members.map fun (key, v) => ⟨key, v.write⟩

mutual

/-- The text of a value is one of the grammar. -/
theorem Value.isValue_write : ∀ v : Value, IsValue v.write
  | .null => .null
  | .flag b => .flag b
  | .int n => by
    rw [Value.write, ← wholeLiteral_text]
    exact .number _
  | .number x => isValue_writeNumber x
  | .text s => (denotes_writeString s).isValue
  | .list [] => .emptyList (by decide : IsBlanks [])
  | .list (v :: vs) => .list (isPart_writeItems (v :: vs) (List.cons_ne_nil v vs))
  | .object [] => .emptyObject (by decide : IsBlanks [])
  | .object (m :: ms) => .object (areMembers_write (m :: ms) (List.cons_ne_nil m ms)).part

theorem isPart_writeItems : ∀ vs : List Value, vs ≠ [] → IsPart .elements (writeItems vs)
  | [], h => absurd rfl h
  | [v], _ => .lastElement v.isValue_write.element
  | v :: w :: vs, _ =>
    .moreElements v.isValue_write.element (isPart_writeItems (w :: vs) (List.cons_ne_nil w vs))

theorem areMembers_write : ∀ ms : List (String × Value), ms ≠ [] →
    AreMembers (writtenMembers ms) (writeMembers ms)
  | [], h => absurd rfl h
  | [(key, v)], _ => .last (isMember_write key v.isValue_write)
  | (key, v) :: m :: ms, _ => by
    have hmore := AreMembers.more (isMember_write key v.isValue_write)
      (areMembers_write (m :: ms) (List.cons_ne_nil m ms))
    rwa [List.append_assoc, List.cons_append] at hmore

end

/-- **Objects are written by their members.** The text of an object is that of members with its
keys, each with the text of its value. -/
theorem isObjectOf_write (members : List (String × Value)) :
    IsObjectOf (writtenMembers members) (Value.object members).write := by
  have hnone : IsBlanks [] := by decide
  refine ⟨[], writeMembers members, [], hnone, hnone, rfl, ?_⟩
  cases members with
  | nil => exact .inl ⟨rfl, hnone⟩
  | cons m ms => exact .inr (areMembers_write (m :: ms) (List.cons_ne_nil m ms))

end LoanPricing.Json
