import LoanPricing.Proofs.Json.RecordExtent

/-!
# Lists of records — a text is read item by item

A text is read as a list of records if and only if it is, blanks aside, one pair of brackets around
items with commas between them, and each item on its own is the text of the record at its place.
There is no prefix of a list: nothing is read of a text unless all of it can be read.
-/

namespace LoanPricing.Json

/-! ## 1. Blanks and whole texts -/

/-- A text of blanks only. -/
def IsBlanks (cs : List Char) : Prop :=
  ∀ c ∈ cs, isBlank c = true

instance (cs : List Char) : Decidable (IsBlanks cs) :=
  List.decidableBAll (fun c => isBlank c = true) cs

theorem skipBlanks_append {blanks : List Char} (h : IsBlanks blanks) (cs : List Char) :
    skipBlanks (blanks ++ cs) = skipBlanks cs := by
  unfold skipBlanks
  rw [List.dropWhile_append_of_pos h]

theorem skipBlanks_of_not {c : Char} (h : isBlank c = false) (cs : List Char) :
    skipBlanks (c :: cs) = c :: cs := by
  unfold skipBlanks
  rw [List.dropWhile_cons_of_neg (by rw [h]; decide)]

theorem exists_blanks (cs : List Char) :
    ∃ blanks, IsBlanks blanks ∧ cs = blanks ++ skipBlanks cs :=
  ⟨cs.takeWhile isBlank, List.all_eq_true.mp List.all_takeWhile,
    List.takeWhile_append_dropWhile.symm⟩

theorem skipBlanks_eq_nil_iff {cs : List Char} : skipBlanks cs = [] ↔ IsBlanks cs := by
  constructor
  · intro h
    obtain ⟨blanks, hblanks, hcs⟩ := exists_blanks cs
    rw [h, List.append_nil] at hcs
    rw [hcs]
    exact hblanks
  · intro h
    rw [← List.append_nil cs, skipBlanks_append h]
    rfl

theorem skipBlanks_idem (cs : List Char) : skipBlanks (skipBlanks cs) = skipBlanks cs := by
  obtain ⟨blanks, hblanks, hcs⟩ := exists_blanks cs
  conv => rhs; rw [hcs, skipBlanks_append hblanks]

/-- A whole text is read if what is left of it is blank. -/
theorem readWhole_eq_ok_iff {α : Type} {read : List Char → Reading α} {text : List Char} {v : α} :
    readWhole read text = .ok v ↔ ∃ rest, read text = .ok (v, rest) ∧ IsBlanks rest := by
  unfold readWhole
  rcases read text with f | ⟨w, after⟩
  · simp
  simp only [Except.ok.injEq, Prod.mk.injEq, ← skipBlanks_eq_nil_iff]
  split
  · rename_i hblank
    rw [Except.ok.injEq]
    constructor
    · rintro rfl
      exact ⟨after, ⟨rfl, rfl⟩, hblank⟩
    · rintro ⟨rest, ⟨rfl, -⟩, -⟩
      rfl
  · rename_i hblank
    constructor
    · intro h
      injection h
    · rintro ⟨rest, ⟨-, rfl⟩, hrest⟩
      exact absurd hrest hblank

/-! ## 2. Items -/

section

variable {δ α : Type}

theorem Shape.read_skipBlanks (shape : Shape δ α) (cs : List Char) :
    shape.read (skipBlanks cs) = shape.read cs := by
  unfold Shape.read
  rw [skipBlanks_idem]

-- The item at the front of a text, if it is the text of a record by itself.
theorem Shape.read_append {shape : Shape δ α} {item : List Char} {record : α}
    (h : readWhole shape.read item = .ok record) :
    ∃ blanks, IsBlanks blanks ∧
      ∀ cs, shape.read (item ++ cs) = .ok (record, blanks ++ cs) := by
  obtain ⟨after, hread, hafter⟩ := readWhole_eq_ok_iff.mp h
  obtain ⟨xs, rfl, hxs⟩ := Shape.read_ends hread
  refine ⟨after, hafter, fun cs => ?_⟩
  rw [List.append_assoc]
  exact hxs (after ++ cs)

-- A record begins with an opening bracket, so that it is neither the end of a list nor of a text.
theorem Shape.head?_of_read {shape : Shape δ α} {cs rest : List Char} {record : α}
    (h : shape.read cs = .ok (record, rest)) :
    (skipBlanks cs).head? ≠ some ']' ∧ (skipBlanks cs).head? ≠ none := by
  obtain ⟨draft, -, ⟨tail, hopen, -⟩ | ⟨tail, hopen, -⟩⟩ := Shape.read_eq_ok_iff.mp h
  · rw [hopen]
    exact ⟨by simp, by simp⟩
  · rw [hopen]
    exact ⟨by simp, by simp⟩

-- What is read at the front of a text is the text of the record by itself, and stays it with blanks
-- behind it.
theorem Shape.exists_item {shape : Shape δ α} {cs rest : List Char} {record : α}
    (h : shape.read cs = .ok (record, rest)) :
    ∃ xs, cs = xs ++ rest ∧
      ∀ blanks, IsBlanks blanks → readWhole shape.read (xs ++ blanks) = .ok record := by
  obtain ⟨xs, hcs, hxs⟩ := Shape.read_ends h
  exact ⟨xs, hcs, fun blanks hblanks => readWhole_eq_ok_iff.mpr ⟨blanks, hxs blanks, hblanks⟩⟩

theorem Shape.readItems_of_end {shape : Shape δ α} {first : Bool} {cs rest : List Char}
    (hnext : nextElement first cs = .ok (false, rest)) :
    shape.readItems first cs = .ok ([], rest) := by
  rw [Shape.readItems]
  split <;> simp_all

theorem Shape.readItems_of_item {shape : Shape δ α} {first : Bool} {cs item rest : List Char}
    {record : α} (hnext : nextElement first cs = .ok (true, item))
    (hread : shape.read item = .ok (record, rest)) :
    shape.readItems first cs =
      (shape.readItems false rest).map fun (records, rest) => (record :: records, rest) := by
  conv => lhs; rw [Shape.readItems]
  split
  · simp_all
  · simp_all
  · rename_i heq
    simp only [hnext, Except.ok.injEq, Prod.mk.injEq, true_and] at heq
    subst heq
    split <;> simp_all

theorem Shape.readItems_cases {shape : Shape δ α} {first : Bool} {cs rest : List Char}
    {records : List α} (h : shape.readItems first cs = .ok (records, rest)) :
    (records = [] ∧ nextElement first cs = .ok (false, rest)) ∨
      ∃ item record mid others, records = record :: others ∧
        nextElement first cs = .ok (true, item) ∧ shape.read item = .ok (record, mid) ∧
          shape.readItems false mid = .ok (others, rest) := by
  rcases hnext : nextElement first cs with f | ⟨more, item⟩
  · rw [Shape.readItems] at h
    split at h <;> simp_all
  cases more with
  | false =>
    rw [Shape.readItems_of_end hnext, Except.ok.injEq, Prod.mk.injEq] at h
    exact .inl ⟨h.1.symm, by rw [h.2]⟩
  | true =>
    rcases hread : shape.read item with f | ⟨record, mid⟩
    · rw [Shape.readItems] at h
      split at h <;> simp_all
      split at h <;> simp_all
    · rw [Shape.readItems_of_item hnext hread] at h
      obtain ⟨others, hothers, rfl⟩ := length_of_map_ok h
      exact .inr ⟨item, record, mid, others, rfl, rfl, hread, hothers⟩

theorem nextElement_end_iff {first : Bool} {cs rest : List Char} :
    nextElement first cs = .ok (false, rest) ↔ skipBlanks cs = ']' :: rest := by
  rw [nextElement_eq_ok_iff]
  simp

theorem Shape.readItems_nil_iff {shape : Shape δ α} {first : Bool} {cs rest : List Char} :
    shape.readItems first cs = .ok ([], rest) ↔ skipBlanks cs = ']' :: rest := by
  rw [← @nextElement_end_iff first]
  constructor
  · intro h
    rcases Shape.readItems_cases h with ⟨-, hnext⟩ | ⟨_, _, _, _, hrecords, -⟩
    · exact hnext
    · injection hrecords
  · exact Shape.readItems_of_end

-- One more item: it stands at the front, or behind a comma if there are items before it.
theorem Shape.readItems_cons_iff {shape : Shape δ α} {first : Bool} {cs rest : List Char}
    {record : α} {others : List α} :
    shape.readItems first cs = .ok (record :: others, rest) ↔
      ∃ front mid, (first = true ∧ front = cs ∨ first = false ∧ skipBlanks cs = ',' :: front) ∧
        shape.read front = .ok (record, mid) ∧ shape.readItems false mid = .ok (others, rest) := by
  constructor
  · intro h
    rcases Shape.readItems_cases h with ⟨hrecords, -⟩ | ⟨item, _, mid, _, hrecords, hnext, hread,
      hothers⟩
    · injection hrecords
    obtain ⟨rfl, rfl⟩ := List.cons.inj hrecords
    rcases nextElement_eq_ok_iff.mp hnext with ⟨hmore, -⟩ | ⟨-, -, -, ⟨hfirst, rfl⟩ | ⟨hfirst,
      after, hcomma, rfl⟩⟩
    · exact Bool.noConfusion hmore
    · rw [Shape.read_skipBlanks] at hread
      exact ⟨cs, mid, .inl ⟨hfirst, rfl⟩, hread, hothers⟩
    · rw [Shape.read_skipBlanks] at hread
      exact ⟨after, mid, .inr ⟨hfirst, hcomma⟩, hread, hothers⟩
  · rintro ⟨front, mid, hfront, hread, hothers⟩
    have hhead := Shape.head?_of_read hread
    have hnext : nextElement first cs = .ok (true, skipBlanks front) := by
      rcases hfront with ⟨hfirst, rfl⟩ | ⟨hfirst, hcomma⟩
      · exact nextElement_eq_ok_iff.mpr (.inr ⟨rfl, hhead.1, hhead.2, .inl ⟨hfirst, rfl⟩⟩)
      · exact nextElement_eq_ok_iff.mpr
          (.inr ⟨rfl, hhead.1, hhead.2, .inr ⟨hfirst, front, hcomma, rfl⟩⟩)
    rw [← Shape.read_skipBlanks] at hread
    rw [Shape.readItems_of_item hnext hread, hothers]
    rfl

/-! ## 3. The text of a list -/

/-- The text of a list, by the texts of its items: brackets, with commas between the items, and
blanks around the brackets. Blanks around an item belong to the item. -/
def IsListOf (items : List (List Char)) (text : List Char) : Prop :=
  ∃ before inner after, IsBlanks before ∧ IsBlanks after ∧
    text = before ++ '[' :: (inner ++ ']' :: after) ∧
      (items = [] ∧ IsBlanks inner ∨ items ≠ [] ∧ inner = [','].intercalate items)

theorem intercalate_comma (item : List Char) (items : List (List Char)) :
    [','].intercalate (item :: items) = item ++ items.flatMap fun item => ',' :: item := by
  induction items generalizing item with
  | nil => simp
  | cons next items ih =>
    rw [List.intercalate_cons_cons, ih, List.flatMap_cons, List.append_assoc]
    rfl

-- The items behind an item are a blank rest of that one, and each further item after a comma.
theorem Shape.exists_items_of_readItems {shape : Shape δ α} {cs rest : List Char}
    {records : List α} (h : shape.readItems false cs = .ok (records, rest)) :
    ∃ (blanks : List Char) (items : List (List Char)), IsBlanks blanks ∧
      cs = blanks ++ ((items.flatMap fun item => ',' :: item) ++ ']' :: rest) ∧
        items.map (readWhole shape.read) = records.map .ok := by
  induction records generalizing cs with
  | nil =>
    obtain ⟨blanks, hblanks, hcs⟩ := exists_blanks cs
    rw [Shape.readItems_nil_iff.mp h] at hcs
    exact ⟨blanks, [], hblanks, hcs, rfl⟩
  | cons record records ih =>
    obtain ⟨front, mid, ⟨hfirst, -⟩ | ⟨-, hcomma⟩, hread, hothers⟩ := Shape.readItems_cons_iff.mp h
    · exact Bool.noConfusion hfirst
    obtain ⟨xs, rfl, hxs⟩ := Shape.exists_item hread
    obtain ⟨blanks, items, hblanks, rfl, hitems⟩ := ih hothers
    obtain ⟨before, hbefore, hcs⟩ := exists_blanks cs
    -- the blanks that are left of an item belong to it
    refine ⟨before, (xs ++ blanks) :: items, hbefore, ?_, ?_⟩
    · rw [hcs, hcomma, List.flatMap_cons]
      simp only [List.append_assoc, List.cons_append]
    · rw [List.map_cons, hxs blanks hblanks, hitems, List.map_cons]

theorem Shape.readItems_of_items {shape : Shape δ α} {blanks rest : List Char}
    {items : List (List Char)} {records : List α} (hblanks : IsBlanks blanks)
    (hitems : items.map (readWhole shape.read) = records.map .ok) :
    shape.readItems false (blanks ++ ((items.flatMap fun item => ',' :: item) ++ ']' :: rest)) =
      .ok (records, rest) := by
  induction items generalizing blanks records with
  | nil =>
    obtain rfl := List.map_eq_nil_iff.mp hitems.symm
    rw [Shape.readItems_nil_iff, skipBlanks_append hblanks]
    exact skipBlanks_of_not (by decide) rest
  | cons item items ih =>
    obtain ⟨record, others, rfl, hitem, hothers⟩ := List.map_eq_cons_iff.mp hitems.symm
    obtain ⟨after, hafter, hread⟩ := Shape.read_append hitem.symm
    rw [List.flatMap_cons, List.append_assoc, List.cons_append, Shape.readItems_cons_iff]
    refine ⟨_, _, .inr ⟨rfl, ?_⟩, hread _, ih hafter hothers.symm⟩
    rw [skipBlanks_append hblanks]
    exact skipBlanks_of_not (by decide) _

-- All items of a list, the first one included.
theorem Shape.readItems_true_iff {shape : Shape δ α} {cs rest : List Char} {records : List α} :
    shape.readItems true cs = .ok (records, rest) ↔
      ∃ (inner : List Char) (items : List (List Char)), cs = inner ++ ']' :: rest ∧
        (items = [] ∧ IsBlanks inner ∨ items ≠ [] ∧ inner = [','].intercalate items) ∧
          items.map (readWhole shape.read) = records.map .ok := by
  constructor
  · intro h
    cases records with
    | nil =>
      obtain ⟨blanks, hblanks, hcs⟩ := exists_blanks cs
      rw [Shape.readItems_nil_iff.mp h] at hcs
      exact ⟨blanks, [], hcs, .inl ⟨rfl, hblanks⟩, rfl⟩
    | cons record others =>
      obtain ⟨front, mid, ⟨-, rfl⟩ | ⟨hfirst, -⟩, hread, hothers⟩ := Shape.readItems_cons_iff.mp h
      · obtain ⟨xs, rfl, hxs⟩ := Shape.exists_item hread
        obtain ⟨blanks, items, hblanks, rfl, hitems⟩ := Shape.exists_items_of_readItems hothers
        refine ⟨_, (xs ++ blanks) :: items, ?_, .inr ⟨List.cons_ne_nil _ _, rfl⟩, ?_⟩
        · rw [intercalate_comma]
          simp only [List.append_assoc]
        · rw [List.map_cons, hxs blanks hblanks, hitems, List.map_cons]
      · exact Bool.noConfusion hfirst
  · rintro ⟨inner, items, rfl, ⟨rfl, hinner⟩ | ⟨hne, rfl⟩, hitems⟩
    · obtain rfl := List.map_eq_nil_iff.mp hitems.symm
      rw [Shape.readItems_nil_iff, skipBlanks_append hinner]
      exact skipBlanks_of_not (by decide) rest
    · obtain ⟨item, items, rfl⟩ := List.exists_cons_of_ne_nil hne
      obtain ⟨record, others, rfl, hitem, hothers⟩ := List.map_eq_cons_iff.mp hitems.symm
      obtain ⟨after, hafter, hread⟩ := Shape.read_append hitem.symm
      rw [intercalate_comma, List.append_assoc, Shape.readItems_cons_iff]
      exact ⟨_, _, .inl ⟨rfl, rfl⟩, hread _, Shape.readItems_of_items hafter hothers.symm⟩

theorem Shape.readList_eq_ok_iff {shape : Shape δ α} {cs rest : List Char} {records : List α} :
    shape.readList cs = .ok (records, rest) ↔
      ∃ tail, skipBlanks cs = '[' :: tail ∧ shape.readItems true tail = .ok (records, rest) := by
  constructor
  · intro h
    unfold Shape.readList at h
    split at h
    · exact ⟨_, by assumption, h⟩
    · injection h
  · rintro ⟨tail, hopen, hitems⟩
    unfold Shape.readList
    rw [hopen]
    exact hitems

/-- **A list of records is read item by item.** A text gives the records if and only if it is the
text of a list of as many items, each of which by itself gives the record at its place. -/
theorem Shape.readWhole_list_iff {shape : Shape δ α} {text : List Char} {records : List α} :
    readWhole shape.readList text = .ok records ↔
      ∃ items, IsListOf items text ∧ items.map (readWhole shape.read) = records.map .ok := by
  rw [readWhole_eq_ok_iff]
  constructor
  · rintro ⟨after, hread, hafter⟩
    obtain ⟨tail, hopen, hread⟩ := Shape.readList_eq_ok_iff.mp hread
    obtain ⟨inner, items, rfl, hinner, hitems⟩ := Shape.readItems_true_iff.mp hread
    obtain ⟨before, hbefore, htext⟩ := exists_blanks text
    rw [hopen] at htext
    exact ⟨items, ⟨before, inner, after, hbefore, hafter, htext, hinner⟩, hitems⟩
  · rintro ⟨items, ⟨before, inner, after, hbefore, hafter, rfl, hinner⟩, hitems⟩
    refine ⟨after, Shape.readList_eq_ok_iff.mpr ⟨inner ++ ']' :: after, ?_, ?_⟩, hafter⟩
    · rw [skipBlanks_append hbefore]
      exact skipBlanks_of_not (by decide) _
    · exact Shape.readItems_true_iff.mpr ⟨inner, items, rfl, hinner, hitems⟩

end

end LoanPricing.Json
