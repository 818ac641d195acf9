import TableTalk.Proofs.Regions
import TableTalk.Proofs.Answers

/-!
# TableTalk.Proofs.RegionLists

Lists of regions in questions of any wording.

## Main results

- `filters_lists`: the list behind the first `in` that a blank follows is read in full, whatever
  stands before it and behind it.
- `filters_linked`: an `and` or `or` that stands directly behind another separator is not passed
  as one. It is taken for the beginning of the name behind it, and a list is read in full exactly
  if it has none.

## Proof strategy

A separator takes the blanks behind it along, and a joiner that has lost the blanks before it is
letters like those of a name (`partsOf_before_name`). Together with the name behind it, it is one
piece of the list (`IsJoined.isPiece`), so that such lists are read as those without it are.
-/

namespace TableTalk.Question

open Text

variable {catalog : Catalog} {products : List String} {question : String}

/-! ### Lists in sentences -/

/-- A list behind the first `in` that a blank follows is read in full, up to the first character
that can be of no list. -/
theorem filters_lists (vocabulary : catalog.products = products.map .text) {a b l z : List Char}
    {names : List (List Char)}
    (asked : lower question.toList = a ++ ("in".toList ++ (b ++ (l ++ z)))) (first : ¬Introduces a)
    (some : b ≠ []) (blanks : ∀ c ∈ b, isBlank c = true) (lists : Lists l names)
    (outside : ∀ c ∈ z.head?, isListChar c = false) :
    ∃ f, filters question catalog = .ok f ∧ f.region = .some (names.map .ofList) := by
  refine ⟨_, filters_eq vocabulary question, ?_⟩
  have found := regionsOf?_of_lists first some blanks lists outside
  rw [regions?, asked, found]
  rfl

-- Names that begin and end like separators, between separators of all kinds.
theorem filters_lists_inland :
    ∃ f, filters "Begin: sales in\tInland  Sand ,, Orinoco or andover AND andover; in west" .sales =
        .ok f ∧
      f.region = some ["inland  sand", "orinoco", "andover", "andover"] := by
  have vocabulary : Catalog.sales.products = ["Laptop", "Phone", "Tablet"].map .text := rfl
  have inland : IsName "inland  sand".toList :=
    .more (w := "inland".toList) (b := "  ".toList) ⟨by decide, by decide, by decide, by decide⟩
      (by decide) (by decide) (.word (by decide))
  have orinoco : IsName "orinoco".toList := .word (by decide)
  have andover : IsName "andover".toList := .word (by decide)
  have commas : IsSeparator " ,, ".toList := .commas (by decide) (by decide)
  have or : IsSeparator " or ".toList := isSeparator_spaced (.inr rfl)
  have and : IsSeparator " and ".toList := isSeparator_spaced (.inl rfl)
  have first : ¬Introduces "begin: sales ".toList := by
    have space : ∀ c ∈ "begin: sales ".toList, isBlank c = true → c = ' ' := by decide
    rintro ⟨c, blank, inside⟩
    obtain rfl := space c (inside.subset (by simp)) blank
    exact absurd inside (by decide)
  exact filters_lists vocabulary (a := "begin: sales ".toList) (b := ['\t'])
    (z := "; in west".toList) (by decide +kernel) first (by decide) (by decide)
    (.more inland commas (.more orinoco or (.more andover and (.one andover))))
    (by rintro c ⟨⟩; decide)

/-! ### Joiners behind separators -/

/-- Nothing, or `and` or `or` with blanks behind it. -/
inductive IsExtra : List Char → Prop
  | none : IsExtra []
  | joiner {w b : List Char} (joins : w = "and".toList ∨ w = "or".toList) (some : b ≠ [])
    (blanks : ∀ c ∈ b, isBlank c = true) : IsExtra (w ++ b)

/-- What stands between two names: a separator, and perhaps a joiner behind it. -/
structure Link where
  separator : List Char
  extra : List Char
  isSeparator : IsSeparator separator
  isExtra : IsExtra extra

/-- Names with links between them. -/
def linked (first : List Char) : List (Link × List Char) → List Char
  | [] => first
  | (link, name) :: more => first ++ (link.separator ++ linked (link.extra ++ name) more)

/-- A name, and perhaps a joiner before it. -/
def IsJoined (e : List Char) : Prop :=
  ∃ x n, e = x ++ n ∧ IsExtra x ∧ IsName n

theorem Link.isJoined (link : Link) {n : List Char} (name : IsName n) :
    IsJoined (link.extra ++ n) :=
  ⟨_, _, rfl, link.isExtra, name⟩

theorem IsName.isJoined {n : List Char} (name : IsName n) : IsJoined n :=
  ⟨[], n, rfl, .none, name⟩

theorem IsExtra.listChars {x : List Char} (extra : IsExtra x) :
    ∀ c ∈ x, isListChar c = true := by
  cases extra with
  | none => simp
  | joiner joins some blanks =>
    intro c member
    rcases List.mem_append.mp member with inside | inside
    · exact isListChar_of_isLetter (letters_of_joins joins c inside)
    · exact isListChar_of_isBlank (blanks c inside)

/-- A joiner that is left before a name is one piece with it. -/
theorem IsJoined.isPiece {e : List Char} (joined : IsJoined e) : IsPiece e := by
  obtain ⟨x, n, rfl, extra, name⟩ := joined
  cases extra with
  | none => exact name.isPiece
  | @joiner w b joins some blanks =>
    have letters := letters_of_joins joins
    obtain ⟨c, r, rfl⟩ : ∃ c r, w = c :: r := by
      rcases joins with rfl | rfl <;> exact ⟨_, _, rfl⟩
    have letter := letters c List.mem_cons_self
    obtain ⟨r', c', back, letter'⟩ := name.ends_letter
    refine ⟨⟨c, _, rfl, letter⟩, trim_eq_self ?_ ?_, ?_⟩
    · rintro d ⟨⟩
      exact isBlank_of_isLetter letter
    · intro d last
      rw [back, ← List.append_assoc, List.getLast?_concat] at last
      cases last
      exact isBlank_of_isLetter letter'
    · intro t part rest ends parts'
      have whole := partsOf_before_name letters blanks name ends (name.partsOf ends parts')
      simpa using whole

theorem front_linked {first : List Char} (joined : IsJoined first)
    (more : List (Link × List Char)) : ∀ c ∈ (linked first more).head?, isBlank c = false := by
  obtain ⟨c, r, rfl, letter⟩ := joined.isPiece.begins
  cases more <;> (rintro d ⟨⟩; exact isBlank_of_isLetter letter)

theorem listChars_linked {first : List Char} {more : List (Link × List Char)}
    (joined : IsJoined first) (named : ∀ item ∈ more, IsName item.2) :
    ∀ c ∈ linked first more, isListChar c = true := by
  have here {e : List Char} (joined : IsJoined e) : ∀ c ∈ e, isListChar c = true := by
    obtain ⟨x, n, rfl, extra, name⟩ := joined
    intro c member
    rcases List.mem_append.mp member with inside | inside
    · exact extra.listChars c inside
    · exact name.listChars c inside
  induction more generalizing first with
  | nil => exact here joined
  | cons item more ih =>
    obtain ⟨link, name⟩ := item
    obtain ⟨isName, later⟩ := List.forall_mem_cons.mp named
    intro c member
    simp only [linked, List.mem_append] at member
    rcases member with inside | inside | inside
    · exact here joined c inside
    · exact link.isSeparator.listChars c inside
    · exact ih (link.isJoined isName) later c inside

/-- Each name is found with the joiner that its link leaves before it. -/
theorem names_linked {first : List Char} {more : List (Link × List Char)}
    (joined : IsJoined first) (named : ∀ item ∈ more, IsName item.2) :
    names (linked first more) = first :: more.map fun (link, name) => link.extra ++ name := by
  induction more generalizing first with
  | nil => exact joined.isPiece.names_alone
  | cons item more ih =>
    obtain ⟨link, name⟩ := item
    obtain ⟨isName, later⟩ := List.forall_mem_cons.mp named
    have next := link.isJoined isName
    rw [linked, joined.isPiece.names_separator link.isSeparator (front_linked next more),
      ih next later]
    rfl

theorem regionsOf?_linked {first : List Char} {more : List (Link × List Char)}
    (joined : IsJoined first) (named : ∀ item ∈ more, IsName item.2) :
    regionsOf? ("sales in ".toList ++ linked first more) =
      some (first :: more.map fun (link, name) => link.extra ++ name) := by
  obtain ⟨c, r, cut, _⟩ := joined.isPiece.begins
  have some' : linked first more ≠ [] := by
    cases more <;> simp [linked, cut]
  have closed : ¬Opens ("sales ".toList ++ ['i']) := by decide
  have found : firstList? ("sales in ".toList ++ (linked first more ++ [])) =
      some (linked first more) :=
    firstList?_list (b := [' ']) closed (by simp) (by decide) some' (front_linked joined more)
      (listChars_linked joined named) (by simp)
  rw [List.append_nil] at found
  rw [regionsOf?, found]
  simp [names_linked joined named]

/-- In a list behind `sales in`, a joiner directly behind another separator is read as the
beginning of the name behind it. The names are read exactly if there is no such joiner. -/
theorem filters_linked (vocabulary : catalog.products = products.map .text) {first : List Char}
    {more : List (Link × List Char)} (isName : IsName first) (named : ∀ item ∈ more, IsName item.2)
    (asked : lower question.toList = "sales in ".toList ++ linked first more) :
    ∃ f, filters question catalog = .ok f ∧
      f.region = some ((first :: more.map fun (link, name) => link.extra ++ name).map .ofList) ∧
      (f.region = some ((first :: more.map (·.2)).map .ofList) ↔
        ∀ item ∈ more, item.1.extra = []) := by
  have read : regions? question =
      some ((first :: more.map fun (link, name) => link.extra ++ name).map .ofList) := by
    rw [regions?, asked, regionsOf?_linked isName.isJoined named]
    rfl
  refine ⟨_, filters_eq vocabulary question, read, ?_⟩
  rw [read]
  simp

-- A comma before `and` takes the blank that `and` needs.
theorem filters_linked_comma_and :
    ∃ f, filters "Sales in north, south, and east or west" .sales = .ok f ∧
      f.region = some ["north", "south", "and east", "west"] ∧
      f.region ≠ some ["north", "south", "east", "west"] := by
  have vocabulary : Catalog.sales.products = ["Laptop", "Phone", "Tablet"].map .text := rfl
  have comma : IsSeparator ", ".toList := .commas (by decide) (by decide)
  have or : IsSeparator " or ".toList := isSeparator_spaced (.inr rfl)
  have and : IsExtra "and ".toList :=
    .joiner (w := "and".toList) (b := [' ']) (.inl rfl) (by decide) (by decide)
  let more : List (Link × List Char) :=
    [(⟨_, _, comma, .none⟩, "south".toList), (⟨_, _, comma, and⟩, "east".toList),
      (⟨_, _, or, .none⟩, "west".toList)]
  have named : ∀ item ∈ more, IsName item.2 := by
    simp only [more, List.forall_mem_cons]
    exact ⟨.word (by decide), .word (by decide), .word (by decide), by simp⟩
  have asked : lower "Sales in north, south, and east or west".toList =
      "sales in north, south, and east or west".toList := by decide +kernel
  obtain ⟨f, filtered, read, whole⟩ :=
    filters_linked vocabulary (.word (w := "north".toList) (by decide)) named asked
  refine ⟨f, filtered, read, fun all => ?_⟩
  have none := whole.mp all (⟨_, _, comma, and⟩, "east".toList) (by simp [more])
  cases none

/-- A list of three that is written with a comma before `and` is not read as it was meant. -/
theorem filters_north_south_and_east :
    filters "sales in north, south, and east" .sales =
      .ok { region := some ["north", "south", "and east"] } := by
  have vocabulary : Catalog.sales.products = ["Laptop", "Phone", "Tablet"].map .text := rfl
  have region : regions? "sales in north, south, and east" =
      some ["north", "south", "and east"] := by decide +kernel
  have product : product? (["Laptop", "Phone", "Tablet"].map String.lowered)
      "sales in north, south, and east" = none := by decide +kernel
  rw [filters_eq vocabulary, region, product]

end TableTalk.Question
