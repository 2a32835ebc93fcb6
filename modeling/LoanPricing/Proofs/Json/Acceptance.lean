import LoanPricing.Proofs.Json.Members

/-!
# Acceptance — what is read has the grammar

The readers accept no more than the grammar says. A text that a value is read off, or skipped, has
the text of a value at its front, and a record that comes of an object comes of members. While a
value is skipped, what is still to come is described by the brackets that are open: behind the value
at hand, each of them is owed the rest of its items and its other half.
-/

namespace LoanPricing.Json

open Text (digit? isDigit)

/-! ## 1. Strings and numbers -/

/-- An item of a list: a value, perhaps with blanks before it. -/
def IsListItem (text : List Char) : Prop :=
  ∃ before value, IsBlanks before ∧ IsValue value ∧ text = before ++ value

/-- An item of an object: a key, a colon and a value, perhaps with blanks before each of them. -/
def IsObjectItem (text : List Char) : Prop :=
  ∃ before body between item, IsBlanks before ∧ IsBody body ∧ IsBlanks between ∧
    IsListItem item ∧ text = before ++ '"' :: (body ++ '"' :: (between ++ ':' :: item))

/-- What stands between an item and the end of its list or object: blanks, and perhaps a comma and
further items. -/
def AreFurther (items : Part) (text : List Char) : Prop :=
  IsBlanks text ∨ ∃ blanks more, IsBlanks blanks ∧ IsPart items more ∧ text = blanks ++ ',' :: more

theorem IsBlanks.append {xs ys : List Char} (hxs : IsBlanks xs) (hys : IsBlanks ys) :
    IsBlanks (xs ++ ys) :=
  List.forall_mem_append.mpr ⟨hxs, hys⟩

theorem IsListItem.elements {item further : List Char} (hitem : IsListItem item)
    (hfurther : AreFurther .elements further) : IsPart .elements (item ++ further) := by
  obtain ⟨before, value, hbefore, hvalue, rfl⟩ := hitem
  rcases hfurther with hblanks | ⟨blanks, more, hblanks, hmore, rfl⟩
  · rw [List.append_assoc]
    exact .lastElement (.element hbefore hvalue hblanks)
  · have helements := IsPart.moreElements (.element hbefore hvalue hblanks) hmore
    simpa only [List.append_assoc] using helements

theorem IsObjectItem.members {item further : List Char} (hitem : IsObjectItem item)
    (hfurther : AreFurther .members further) : IsPart .members (item ++ further) := by
  obtain ⟨before, body, between, _, hbefore, hbody, hbetween, ⟨front, value, hfront, hvalue, rfl⟩,
    rfl⟩ := hitem
  have hmember := fun (blanks : List Char) (hblanks : IsBlanks blanks) =>
    IsPart.member hbefore hbody hbetween (.element hfront hvalue hblanks)
  rcases hfurther with hblanks | ⟨blanks, more, hblanks, hmore, rfl⟩
  · simpa only [List.append_assoc, List.cons_append] using
      IsPart.lastMember (hmember further hblanks)
  · simpa only [List.append_assoc, List.cons_append] using
      IsPart.moreMembers (hmember blanks hblanks) hmore

theorem IsListItem.blanks {before item : List Char} (hbefore : IsBlanks before)
    (hitem : IsListItem item) : IsListItem (before ++ item) := by
  obtain ⟨front, value, hfront, hvalue, rfl⟩ := hitem
  exact ⟨before ++ front, value, hbefore.append hfront, hvalue, (List.append_assoc _ _ _).symm⟩

theorem IsObjectItem.blanks {before item : List Char} (hbefore : IsBlanks before)
    (hitem : IsObjectItem item) : IsObjectItem (before ++ item) := by
  obtain ⟨front, body, between, value, hfront, hbody, hbetween, hvalue, rfl⟩ := hitem
  exact ⟨before ++ front, body, between, value, hbefore.append hfront, hbody, hbetween, hvalue,
    (List.append_assoc _ _ _).symm⟩

end LoanPricing.Json
