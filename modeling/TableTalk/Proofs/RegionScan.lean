import TableTalk.Proofs.Regions
import TableTalk.Proofs.Answers

/-!
# TableTalk.Proofs.RegionScan

The search for the regions of a question, as a scan that never goes back.

## Main result

- `filters_scan`: the regions of a question are those that the scan finds.

## Proof strategy

The search tries every place, and gives blanks back one by one. What it finds at a place is one of
three things (`listAt?_of_begins`, `exists_listAt?_blank`, `listAt?_of_not_stops`), and which one it
is can be told from the blanks behind the `in` and the character behind these. A blank that was
given back is a list without names, so that the search has come to its end there with nothing.
-/

namespace TableTalk.Question

open Text

/-! ### The scan -/

/-- The blanks behind the first two characters. -/
def gap (s : List Char) : List Char :=
  (s.drop 2).takeWhile isBlank

/-- What follows the blanks behind the first two characters. -/
def behindGap (s : List Char) : List Char :=
  (s.drop 2).dropWhile isBlank

/-- The text begins with a letter or a comma. -/
def BeginsList (t : List Char) : Prop :=
  ∃ c ∈ t.head?, isLetter c = true ∨ c = ','

instance (t : List Char) : Decidable (BeginsList t) :=
  decidable_of_iff (t.head?.any (fun c => isLetter c || c = ',') = true) (by
    simp [BeginsList, Option.any_eq_true])

/-- The scan comes to its end where `in` stands before blanks, if a letter or a comma follows them,
or if there are two of them at least. -/
def Stops (s : List Char) : Prop :=
  "in".toList <+: s ∧ gap s ≠ [] ∧ (BeginsList (behindGap s) ∨ 2 ≤ (gap s).length)

instance (s : List Char) : Decidable (Stops s) :=
  inferInstanceAs (Decidable (_ ∧ _ ∧ _))

/-- The first place at which the scan comes to its end. -/
def stop? (q : List Char) : Option Nat :=
  (List.range q.length).find? fun i => decide (Stops (q.drop i))

/-- The names in a span, unless all of its fragments are blank. -/
def namesIn? (span : List Char) : Option (List (List Char)) :=
  if ∀ fragment ∈ partsOf span, ∀ c ∈ fragment, isBlank c = true then none else some (names span)

/-- The names that the scan finds: those in the longest run of letters, blanks and commas behind the
blanks at its end, if a letter or a comma stands there, and otherwise none at all. -/
def scan (q : List Char) : Option (List (List Char)) :=
  match stop? q with
  | none => none
  | some i =>
    if BeginsList (behindGap (q.drop i)) then
      namesIn? ((behindGap (q.drop i)).takeWhile isListChar)
    else none

/-! ### The search at one place -/

theorem BeginsList.front {t : List Char} (begins : BeginsList t) :
    ∃ c r, t = c :: r ∧ isListChar c = true ∧ isBlank c = false := by
  obtain ⟨c, first, letter | rfl⟩ := begins
  · obtain ⟨r, cut⟩ := List.head?_eq_some_iff.mp first
    exact ⟨c, r, cut, isListChar_of_isLetter letter, isBlank_of_isLetter letter⟩
  · obtain ⟨r, cut⟩ := List.head?_eq_some_iff.mp first
    exact ⟨',', r, cut, by decide, by decide⟩

-- Behind all of the blanks, only a letter or a comma can be of a list.
theorem not_listChar_of_not_begins {t : List Char} (begins : ¬BeginsList t)
    (solid : ∀ c ∈ t.head?, isBlank c = false) : ∀ c ∈ t.head?, isListChar c = false := by
  intro c first
  have noLetter : isLetter c = false := by
    by_contra letter
    exact begins ⟨c, first, .inl (by simpa using letter)⟩
  have noComma : c ≠ ',' := fun comma => begins ⟨c, first, .inr comma⟩
  rw [isLetter] at noLetter
  simp [isListChar, noLetter, solid c first, noComma]

theorem cut_of_in {s : List Char} (stands : "in".toList <+: s) :
    s = "in".toList ++ (gap s ++ behindGap s) := by
  obtain ⟨r, rfl⟩ := stands
  exact congrArg ("in".toList ++ ·) List.takeWhile_append_dropWhile.symm

theorem isBlank_of_mem_gap {s : List Char} {c : Char} (member : c ∈ gap s) : isBlank c = true :=
  List.mem_takeWhile_imp member

theorem front_behindGap (s : List Char) : ∀ c ∈ (behindGap s).head?, isBlank c = false :=
  front_dropWhile _

/-- Where a letter or a comma stands behind the blanks, the list begins with it. -/
theorem listAt?_of_begins {s : List Char} (stands : "in".toList <+: s) (some : gap s ≠ [])
    (begins : BeginsList (behindGap s)) :
    listAt? s = .some ((behindGap s).takeWhile isListChar) := by
  obtain ⟨c, r, cut, char, solid⟩ := begins.front
  have some' : (behindGap s).takeWhile isListChar ≠ [] := by simp [cut, char]
  have front : ∀ d ∈ ((behindGap s).takeWhile isListChar).head?, isBlank d = false := by
    rw [cut, List.takeWhile_cons_of_pos char]
    rintro d ⟨⟩
    exact solid
  have outside : ∀ d ∈ ((behindGap s).dropWhile isListChar).head?, isListChar d = false := by
    intro d first
    have stop := List.head?_dropWhile_not isListChar (behindGap s)
    rw [Option.mem_def.mp first] at stop
    simpa using stop
  have here := listAt?_list some (fun d member => isBlank_of_mem_gap member) some' front
    (fun d member => List.mem_takeWhile_imp member) outside
  rw [List.takeWhile_append_dropWhile, ← cut_of_in stands] at here
  exact here

/-- Behind an `in`, the list is looked for behind all of the blanks first. -/
theorem listAt?_of_in {s : List Char} (stands : "in".toList <+: s) :
    listAt? s = listBehind? (gap s ++ behindGap s) (gap s).length := by
  have after : afterKeyword? (· == ·) "in".toList s = .some (gap s ++ behindGap s) :=
    (afterKeyword?_beq_iff _ _ _).mpr (cut_of_in stands)
  have run : (gap s ++ behindGap s).takeWhile isBlank = gap s :=
    takeWhile_append_stop (fun c member => isBlank_of_mem_gap member) (front_behindGap s)
  rw [listAt?, after]
  simp only [run]

theorem listRun?_blank {c : Char} {r : List Char} (blank : isBlank c = true)
    (outside : ∀ d ∈ r.head?, isListChar d = false) : listRun? (c :: r) = some [c] := by
  have none : r.takeWhile isListChar = [] := by
    cases r with
    | nil => rfl
    | cons d r => simp [outside d rfl]
  simp [listRun?, isListChar_of_isBlank blank, none]

/-- Where nothing of a list stands behind two blanks or more, the last of them is given back. -/
theorem exists_listAt?_blank {s : List Char} (stands : "in".toList <+: s)
    (begins : ¬BeginsList (behindGap s)) (two : 2 ≤ (gap s).length) :
    ∃ c, isBlank c = true ∧ listAt? s = some [c] := by
  have outside := not_listChar_of_not_begins begins (front_behindGap s)
  obtain ⟨a, b, c, cut⟩ : ∃ a b c, gap s = a :: (b ++ [c]) := by
    rcases gap_cut : gap s with _ | ⟨a, r⟩
    · simp [gap_cut] at two
    · have more : r ≠ [] := by
        rintro rfl
        simp [gap_cut] at two
      exact ⟨a, r.dropLast, r.getLast more, by rw [List.dropLast_append_getLast]⟩
  have blank : isBlank c = true := isBlank_of_mem_gap (s := s) (by simp [cut])
  have length : (gap s).length = b.length + 1 + 1 := by simp [cut]
  -- All of the blanks leave no list, and all but one leave the last.
  have all : listRun? ((gap s ++ behindGap s).drop (b.length + 1 + 1)) = none := by
    rw [← length, List.drop_left]
    exact listRun?_eq_none outside
  have last : (gap s ++ behindGap s).drop (b.length + 1) = c :: behindGap s := by
    simp [cut]
  refine ⟨c, blank, ?_⟩
  rw [listAt?_of_in stands, length, listBehind?, all, Option.none_or, listBehind?, last,
    listRun?_blank blank outside, Option.some_or]

theorem listAt?_of_not_stops {s : List Char} (passed : ¬Stops s) : listAt? s = none := by
  refine listAt?_eq_none fun c d r blank char cut => passed ?_
  have stands : "in".toList <+: s := ⟨c :: d :: r, cut.symm⟩
  have gapped : gap s = c :: (d :: r).takeWhile isBlank := by simp [gap, cut, blank]
  refine ⟨stands, by simp [gapped], ?_⟩
  by_cases blank' : isBlank d = true
  · exact .inr (by simp [gapped, blank'])
  · have behind : behindGap s = d :: r := by simp [behindGap, cut, blank, blank']
    refine .inl ⟨d, by simp [behind], ?_⟩
    simpa [isListChar, isLetter, blank'] using char

theorem isSome_listAt?_of_stops {s : List Char} (stops : Stops s) :
    (listAt? s).isSome = true := by
  obtain ⟨stands, some, stops⟩ := stops
  by_cases begins : BeginsList (behindGap s)
  · simp [listAt?_of_begins stands some begins]
  · obtain ⟨c, _, here⟩ := exists_listAt?_blank stands begins (stops.resolve_left begins)
    simp [here]

/-! ### The search over all places -/

theorem stop?_cons (c : Char) (r : List Char) :
    stop? (c :: r) = if Stops (c :: r) then some 0 else (stop? r).map (· + 1) := by
  rw [stop?, List.length_cons, List.range_succ_eq_map, List.find?_cons]
  by_cases stops : Stops (c :: r)
  · simp [stops]
  · simp only [List.drop_zero, stops, decide_false, if_false, List.find?_map]
    rfl

/-- What the search finds is found at the first place at which the scan comes to its end. -/
theorem firstList?_eq (q : List Char) :
    firstList? q = (stop? q).bind fun i => listAt? (q.drop i) := by
  induction q with
  | nil => rfl
  | cons c r ih =>
    rw [firstList?, stop?_cons, ih]
    by_cases stops : Stops (c :: r)
    · obtain ⟨l, found⟩ := Option.isSome_iff_exists.mp (isSome_listAt?_of_stops stops)
      simp [stops, found]
    · rw [listAt?_of_not_stops stops, if_neg stops, Option.none_or]
      cases stop? r <;> rfl

theorem stops_of_stop? {q : List Char} {i : Nat} (found : stop? q = some i) :
    Stops (q.drop i) := by
  simpa using List.find?_some found

/-! ### Names -/

theorem names_eq_nil_iff (span : List Char) :
    names span = [] ↔ ∀ fragment ∈ partsOf span, ∀ c ∈ fragment, isBlank c = true := by
  simp [names_eq, named, List.filter_eq_nil_iff, trim_eq_nil_iff, words_eq_nil_iff]

theorem namesIn?_eq (span : List Char) :
    namesIn? span = if (names span).isEmpty then none else some (names span) := by
  simp only [namesIn?, List.isEmpty_iff, names_eq_nil_iff]

theorem names_blank {c : Char} (blank : isBlank c = true) : names [c] = [] := by
  have blanks : ∀ d ∈ [c], isBlank d = true := by simpa using blank
  have whole : partsOf [c] = [[c]] := by
    refine partsOf_cons ?_ rfl
    simp [afterSeparator?, afterJoiner?, afterComma?, blank, afterKeyword?]
  rw [names_eq_nil_iff, whole]
  simpa using blank

/-- The search for the regions is the scan. -/
theorem regionsOf?_eq_scan (q : List Char) : regionsOf? q = scan q := by
  rw [regionsOf?, scan, firstList?_eq]
  cases found : stop? q with
  | none => rfl
  | some i =>
    obtain ⟨stands, some, stops⟩ := stops_of_stop? found
    by_cases begins : BeginsList (behindGap (q.drop i))
    · simp only [Option.bind_some, listAt?_of_begins stands some begins, begins, if_true,
        namesIn?_eq]
    · obtain ⟨c, blank, here⟩ := exists_listAt?_blank stands begins (stops.resolve_left begins)
      simp only [Option.bind_some, here, begins, if_false, names_blank blank]
      rfl

/-! ### Questions -/

/-- The regions of a question are those that the scan finds in it, whatever products are known. -/
theorem filters_scan {catalog : Catalog} {products : List String}
    (vocabulary : catalog.products = products.map .text) (question : String) :
    ∃ f, filters question catalog = .ok f ∧
      f.region = (scan (lower question.toList)).map (·.map .ofList) := by
  refine ⟨_, filters_eq vocabulary question, ?_⟩
  rw [regions?, regionsOf?_eq_scan]

-- One blank before a bracket is passed over; two of them end the scan, even before a name.
theorem filters_scan_brackets :
    (∃ f, filters "Sold within (or in (EU)) in South" .sales = .ok f ∧
      f.region = some ["south"]) ∧
    ∃ f, filters "Sold in\t (EU) in South" .sales = .ok f ∧ f.region = none := by
  have vocabulary : Catalog.sales.products = ["Laptop", "Phone", "Tablet"].map .text := rfl
  obtain ⟨f, read, one⟩ := filters_scan vocabulary "Sold within (or in (EU)) in South"
  obtain ⟨g, read', two⟩ := filters_scan vocabulary "Sold in\t (EU) in South"
  refine ⟨⟨f, read, one.trans ?_⟩, g, read', two.trans ?_⟩
  · decide +kernel
  · decide +kernel

end TableTalk.Question
