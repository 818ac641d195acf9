import TableTalk.Question.Region
import TableTalk.Proofs.Letters

/-!
# TableTalk.Proofs.Regions

Lists of regions, as a question writes them, are read back as they were written.

## Main results

- `names_of_lists`: the names of a list are found in it, in order, whatever separators stand between
  them.
- `regionsOf?_of_lists`: the list is found behind the first `in` that a blank follows.

## Proof strategy

A list is split at the places where a separator begins. None begins within a name
(`afterSeparator?_word`), and at a separator all of it is taken away (`IsSeparator.partsOf`). Each
piece of a list is thus a lemma about the parts of the text that it stands before, and the list is
an induction over its pieces.
-/

namespace TableTalk.Question

open Text

/-! ### Lists -/

/-- A word of a name: letters that are not a separator. -/
structure IsNameWord (w : List Char) : Prop where
  nonempty : w ≠ []
  letters : ∀ c ∈ w, isLetter c = true
  notAnd : w ≠ "and".toList
  notOr : w ≠ "or".toList

instance (w : List Char) : Decidable (IsNameWord w) :=
  decidable_of_iff (w ≠ [] ∧ (∀ c ∈ w, isLetter c = true) ∧ w ≠ "and".toList ∧ w ≠ "or".toList)
    ⟨fun ⟨nonempty, letters, notAnd, notOr⟩ => ⟨nonempty, letters, notAnd, notOr⟩,
      fun ⟨nonempty, letters, notAnd, notOr⟩ => ⟨nonempty, letters, notAnd, notOr⟩⟩

/-- A name: words with blanks between them. -/
inductive IsName : List Char → Prop
  | word {w : List Char} (word : IsNameWord w) : IsName w
  | more {w b n : List Char} (word : IsNameWord w) (some : b ≠ [])
    (blanks : ∀ c ∈ b, isBlank c = true) (rest : IsName n) : IsName (w ++ (b ++ n))

/-- A separator: `and` or `or` between blanks, or commas among which blanks may stand. -/
inductive IsSeparator : List Char → Prop
  | joiner {b w b' : List Char} (some : b ≠ []) (blanks : ∀ c ∈ b, isBlank c = true)
    (joins : w = "and".toList ∨ w = "or".toList) (some' : b' ≠ [])
    (blanks' : ∀ c ∈ b', isBlank c = true) : IsSeparator (b ++ (w ++ b'))
  | commas {s : List Char} (comma : ',' ∈ s) (all : ∀ c ∈ s, c = ',' ∨ isBlank c = true) :
    IsSeparator s

theorem isSeparator_spaced {w : List Char} (joins : w = "and".toList ∨ w = "or".toList) :
    IsSeparator ([' '] ++ (w ++ [' '])) :=
  .joiner (by simp) (by decide) joins (by simp) (by decide)

/-- A text that lists names. -/
inductive Lists : List Char → List (List Char) → Prop
  | one {n : List Char} (name : IsName n) : Lists n [n]
  | more {n sep s : List Char} {ns : List (List Char)} (name : IsName n)
    (separator : IsSeparator sep) (rest : Lists s ns) : Lists (n ++ (sep ++ s)) (n :: ns)

/-! ### The ends of names -/

/-- The text does not begin with a letter. -/
def EndsWord (t : List Char) : Prop :=
  ∀ c ∈ t.head?, isLetter c = false

theorem EndsWord.of_blanks {b t : List Char} (some : b ≠ []) (blanks : ∀ c ∈ b, isBlank c = true) :
    EndsWord (b ++ t) := by
  obtain ⟨c, b, rfl⟩ := List.exists_cons_of_ne_nil some
  intro d first
  cases first
  exact isLetter_of_isBlank (blanks c List.mem_cons_self)

theorem IsNameWord.isWord {w : List Char} (word : IsNameWord w) : IsWord w :=
  ⟨word.nonempty, fun c member => isBlank_of_isLetter (word.letters c member)⟩

theorem IsNameWord.begins {w : List Char} (word : IsNameWord w) :
    ∃ c r, w = c :: r ∧ isLetter c = true := by
  obtain ⟨c, r, rfl⟩ := List.exists_cons_of_ne_nil word.nonempty
  exact ⟨c, r, rfl, word.letters c List.mem_cons_self⟩

theorem IsNameWord.ends {w : List Char} (word : IsNameWord w) :
    ∃ r c, w = r ++ [c] ∧ isLetter c = true := by
  rcases List.eq_nil_or_concat w with none | ⟨r, c, rfl⟩
  · exact absurd none word.nonempty
  · exact ⟨r, c, by simp, word.letters c (by simp)⟩

-- A name begins with a word that ends where another character follows.
theorem IsName.begins {n : List Char} (name : IsName n) :
    ∃ w t, IsNameWord w ∧ n = w ++ t ∧ EndsWord t := by
  cases name with
  | word word => exact ⟨n, [], word, by simp, by simp [EndsWord]⟩
  | more word some blanks rest => exact ⟨_, _, word, rfl, .of_blanks some blanks⟩

theorem IsName.begins_letter {n : List Char} (name : IsName n) :
    ∃ c r, n = c :: r ∧ isLetter c = true := by
  obtain ⟨w, t, word, rfl, _⟩ := name.begins
  obtain ⟨c, r, rfl, letter⟩ := word.begins
  exact ⟨c, r ++ t, by simp, letter⟩

theorem IsName.ends_letter {n : List Char} (name : IsName n) :
    ∃ r c, n = r ++ [c] ∧ isLetter c = true := by
  induction name with
  | word word => exact word.ends
  | @more w b n _ _ _ _ ih =>
    obtain ⟨r, c, rfl, letter⟩ := ih
    exact ⟨w ++ (b ++ r), c, by simp, letter⟩

theorem IsName.trim_eq {n : List Char} (name : IsName n) : trim n = n := by
  obtain ⟨c, r, front, letter⟩ := name.begins_letter
  obtain ⟨r', c', back, letter'⟩ := name.ends_letter
  refine trim_eq_self ?_ ?_
  · intro d first
    rw [front] at first
    cases first
    exact isBlank_of_isLetter letter
  · intro d last
    rw [back, List.getLast?_concat] at last
    cases last
    exact isBlank_of_isLetter letter'

theorem Lists.begins {s : List Char} {ns : List (List Char)} (lists : Lists s ns) :
    ∃ c r, s = c :: r ∧ isLetter c = true := by
  cases lists with
  | one name => exact name.begins_letter
  | @more n sep s ns name separator rest =>
    obtain ⟨c, r, rfl, letter⟩ := name.begins_letter
    exact ⟨c, r ++ (sep ++ s), by simp, letter⟩

theorem Lists.ends_letter {s : List Char} {ns : List (List Char)} (lists : Lists s ns) :
    ∃ r c, s = r ++ [c] ∧ isLetter c = true := by
  induction lists with
  | one name => exact name.ends_letter
  | @more n sep s ns _ _ _ ih =>
    obtain ⟨r, c, rfl, letter⟩ := ih
    exact ⟨n ++ (sep ++ r), c, by simp, letter⟩

theorem Lists.front {s : List Char} {ns : List (List Char)} (lists : Lists s ns) :
    ∀ c ∈ s.head?, isBlank c = false := by
  obtain ⟨c, r, rfl, letter⟩ := lists.begins
  rintro d ⟨⟩
  exact isBlank_of_isLetter letter

theorem IsSeparator.endsWord {sep : List Char} (separator : IsSeparator sep) (t : List Char) :
    EndsWord (sep ++ t) := by
  cases separator with
  | joiner some blanks =>
    rw [List.append_assoc]
    exact .of_blanks some blanks
  | commas comma all =>
    obtain ⟨c, r, rfl⟩ := List.exists_cons_of_ne_nil (List.ne_nil_of_mem comma)
    intro d first
    cases first
    rcases all c List.mem_cons_self with rfl | blank
    · rfl
    · exact isLetter_of_isBlank blank

/-! ### Separators -/

theorem solid_append {w : List Char} (word : IsNameWord w) (t : List Char) :
    ∀ c ∈ (w ++ t).head?, isBlank c = false := by
  obtain ⟨c, r, rfl, letter⟩ := word.begins
  intro d first
  cases first
  exact isBlank_of_isLetter letter

-- A word of a name is not taken for a separator.
theorem afterJoiner?_word {j : String} {b w t : List Char} (plain : w ≠ j.toList)
    (joiner : ∀ c ∈ j.toList, isLetter c = true) (blanks : ∀ c ∈ b, isBlank c = true)
    (word : IsNameWord w) (ends : EndsWord t) : afterJoiner? j (b ++ (w ++ t)) = none := by
  rw [afterJoiner?, dropWhile_append_stop blanks (solid_append word t)]
  split
  · rfl
  · cases after : afterKeyword? (· == ·) j.toList (w ++ t) with
    | none => rfl
    | some r =>
      have cut : w ++ t = j.toList ++ r := (afterKeyword?_beq_iff _ _ _).mp after
      -- A blank behind the joiner would end the word there, and the word would be the joiner.
      have noBlank : r.takeWhile isBlank = [] := by
        by_contra some
        have first : EndsWord r := by
          rw [← List.takeWhile_append_dropWhile (p := isBlank) (l := r)]
          exact .of_blanks some fun c member => List.mem_takeWhile_imp member
        refine plain ?_
        rw [← takeWhile_append_stop word.letters ends, cut,
          takeWhile_append_stop joiner first]
      simp [noBlank]

theorem afterComma?_word {b w : List Char} (blanks : ∀ c ∈ b, isBlank c = true)
    (word : IsNameWord w) (t : List Char) : afterComma? (b ++ (w ++ t)) = none := by
  rw [afterComma?, dropWhile_append_stop blanks (solid_append word t)]
  obtain ⟨c, r, rfl, letter⟩ := word.begins
  have noComma : c ≠ ',' := ne_of_isLetter letter (by decide)
  simp [noComma]

/-- No separator begins at a word of a name, nor at blanks before it. -/
theorem afterSeparator?_word {b w t : List Char} (blanks : ∀ c ∈ b, isBlank c = true)
    (word : IsNameWord w) (ends : EndsWord t) : afterSeparator? (b ++ (w ++ t)) = none := by
  rw [afterSeparator?, afterJoiner?_word word.notAnd (by decide) blanks word ends,
    afterJoiner?_word word.notOr (by decide) blanks word ends, afterComma?_word blanks word]
  rfl

theorem afterSeparator?_letter {c : Char} (letter : isLetter c = true) (r : List Char) :
    afterSeparator? (c :: r) = none := by
  have solid : isBlank c = false := isBlank_of_isLetter letter
  have noComma : c ≠ ',' := ne_of_isLetter letter (by decide)
  simp [afterSeparator?, afterJoiner?, afterComma?, solid, noComma]

theorem afterJoiner?_joiner {j : String} {b b' s : List Char} (some : b ≠ [])
    (blanks : ∀ c ∈ b, isBlank c = true) (solid : ∀ c ∈ j.toList, isBlank c = false)
    (nonempty : j.toList ≠ []) (some' : b' ≠ []) (blanks' : ∀ c ∈ b', isBlank c = true)
    (front : ∀ c ∈ s.head?, isBlank c = false) :
    afterJoiner? j (b ++ (j.toList ++ (b' ++ s))) = .some s := by
  have behind : ∀ c ∈ (j.toList ++ (b' ++ s)).head?, isBlank c = false := by
    obtain ⟨c, r, cut⟩ := List.exists_cons_of_ne_nil nonempty
    intro d first
    rw [cut] at first
    cases first
    exact solid c (by simp [cut])
  have after : afterKeyword? (· == ·) j.toList (j.toList ++ (b' ++ s)) = .some (b' ++ s) :=
    (afterKeyword?_beq_iff _ _ _).mpr rfl
  simp [afterJoiner?, takeWhile_append_stop blanks behind,
    dropWhile_append_stop blanks behind, some, after, takeWhile_append_stop blanks' front,
    dropWhile_append_stop blanks' front, some']

theorem afterSeparator?_joiner {b w b' s : List Char} (some : b ≠ [])
    (blanks : ∀ c ∈ b, isBlank c = true) (joins : w = "and".toList ∨ w = "or".toList)
    (some' : b' ≠ []) (blanks' : ∀ c ∈ b', isBlank c = true)
    (front : ∀ c ∈ s.head?, isBlank c = false) :
    afterSeparator? (b ++ (w ++ (b' ++ s))) = .some s := by
  rcases joins with rfl | rfl
  · rw [afterSeparator?,
      afterJoiner?_joiner some blanks (by decide) (by decide) some' blanks' front]
    rfl
  · have notAnd : afterJoiner? "and" (b ++ ("or".toList ++ (b' ++ s))) = none := by
      have behind : ∀ c ∈ ("or".toList ++ (b' ++ s)).head?, isBlank c = false := by
        rintro c ⟨⟩
        decide
      rw [afterJoiner?, dropWhile_append_stop blanks behind]
      split <;> rfl
    rw [afterSeparator?, notAnd,
      afterJoiner?_joiner some blanks (by decide) (by decide) some' blanks' front]
    rfl

theorem afterSeparator?_comma {b : List Char} (blanks : ∀ c ∈ b, isBlank c = true)
    (s : List Char) : afterSeparator? (b ++ ',' :: s) = some (s.dropWhile isBlank) := by
  have behind : ∀ c ∈ (',' :: s).head?, isBlank c = false := by
    rintro c ⟨⟩
    decide
  have noJoiner (j : String) (k : Char) (ks : List Char) (cut : j.toList = k :: ks)
      (other : (k == ',') = false) : afterJoiner? j (b ++ ',' :: s) = none := by
    rw [afterJoiner?, dropWhile_append_stop blanks behind, cut, afterKeyword?, other]
    split <;> rfl
  rw [afterSeparator?, noJoiner "and" 'a' ['n', 'd'] rfl rfl, noJoiner "or" 'o' ['r'] rfl rfl,
    afterComma?, dropWhile_append_stop blanks behind]
  rfl

theorem exists_of_afterJoiner? {j : String} {s rest : List Char}
    (after : afterJoiner? j s = some rest) :
    ∃ b b', s = b ++ (j.toList ++ (b' ++ rest)) ∧ b ≠ [] ∧ (∀ c ∈ b, isBlank c = true) ∧
      b' ≠ [] ∧ ∀ c ∈ b', isBlank c = true := by
  have front := List.takeWhile_append_dropWhile (p := isBlank) (l := s)
  rw [afterJoiner?] at after
  split at after
  · cases after
  next some =>
    cases behind : afterKeyword? (· == ·) j.toList (s.dropWhile isBlank) with
    | none => simp [behind] at after
    | some r =>
      have cut : s.dropWhile isBlank = j.toList ++ r := (afterKeyword?_beq_iff _ _ _).mp behind
      have back := List.takeWhile_append_dropWhile (p := isBlank) (l := r)
      simp only [behind] at after
      split at after
      · cases after
      next some' =>
        cases after
        refine ⟨s.takeWhile isBlank, r.takeWhile isBlank, ?_, by simpa using some,
          fun c member => List.mem_takeWhile_imp member, by simpa using some',
          fun c member => List.mem_takeWhile_imp member⟩
        rw [back, ← cut, front]

theorem exists_of_afterComma? {s rest : List Char} (after : afterComma? s = some rest) :
    ∃ b b', s = b ++ ',' :: (b' ++ rest) ∧ (∀ c ∈ b, isBlank c = true) ∧
      ∀ c ∈ b', isBlank c = true := by
  have front := List.takeWhile_append_dropWhile (p := isBlank) (l := s)
  rw [afterComma?] at after
  split at after
  next r cut =>
    cases after
    have back := List.takeWhile_append_dropWhile (p := isBlank) (l := r)
    refine ⟨s.takeWhile isBlank, r.takeWhile isBlank, ?_,
      fun c member => List.mem_takeWhile_imp member, fun c member => List.mem_takeWhile_imp member⟩
    rw [back, ← cut, front]
  · cases after

-- What is passed as a separator is one.
theorem exists_of_afterSeparator? {s rest : List Char} (after : afterSeparator? s = some rest) :
    ∃ sep, s = sep ++ rest ∧ IsSeparator sep := by
  have joined {j : String} (joins : j.toList = "and".toList ∨ j.toList = "or".toList)
      (after : afterJoiner? j s = some rest) : ∃ sep, s = sep ++ rest ∧ IsSeparator sep := by
    obtain ⟨b, b', cut, some, blanks, some', blanks'⟩ := exists_of_afterJoiner? after
    exact ⟨_, by rw [cut]; simp, .joiner some blanks joins some' blanks'⟩
  rw [afterSeparator?, Option.or_eq_some_iff, Option.or_eq_some_iff] at after
  rcases after with (after | ⟨_, after⟩) | ⟨_, after⟩
  · exact joined (.inl rfl) after
  · exact joined (.inr rfl) after
  · obtain ⟨b, b', cut, blanks, blanks'⟩ := exists_of_afterComma? after
    refine ⟨b ++ ',' :: b', by rw [cut]; simp, .commas (by simp) fun c member => ?_⟩
    rcases List.mem_append.mp member with inside | inside
    · exact .inr (blanks c inside)
    · exact (List.mem_cons.mp inside).imp id (blanks' c)

theorem IsSeparator.ne_nil {sep : List Char} (separator : IsSeparator sep) : sep ≠ [] := by
  cases separator with
  | joiner some => simp [some]
  | commas comma => exact List.ne_nil_of_mem comma

/-! ### Parts -/

theorem length_afterSeparator?_le {c : Char} {r rest : List Char}
    (after : afterSeparator? (c :: r) = some rest) : rest.length ≤ r.length := by
  obtain ⟨sep, cut, separator⟩ := exists_of_afterSeparator? after
  have lengths := congrArg List.length cut
  have some := List.length_pos_of_ne_nil separator.ne_nil
  simp only [List.length_cons, List.length_append] at lengths
  omega

theorem parts_eq_parts {f g : Nat} {s : List Char} (hf : s.length ≤ f) (hg : s.length ≤ g) :
    parts f s = parts g s := by
  -- Both run along the text, and what is left behind a separator is shorter.
  induction f generalizing g s with
  | zero =>
    cases s with
    | nil => cases g <;> rfl
    | cons c r => simp at hf
  | succ f ih =>
    cases s with
    | nil => cases g <;> rfl
    | cons c r =>
      cases g with
      | zero => simp at hg
      | succ g =>
        simp only [List.length_cons, Nat.add_le_add_iff_right] at hf hg
        rw [parts, parts]
        cases after : afterSeparator? (c :: r) with
        | none => rw [ih hf hg]
        | some rest =>
          have shorter := length_afterSeparator?_le after
          simp only
          rw [ih (Nat.le_trans shorter hf) (Nat.le_trans shorter hg)]

/-- The parts of a list, with as much fuel as they take. -/
def partsOf (s : List Char) : List (List Char) :=
  parts s.length s

theorem partsOf_separator {c : Char} {r rest : List Char}
    (after : afterSeparator? (c :: r) = some rest) : partsOf (c :: r) = [] :: partsOf rest := by
  rw [partsOf, List.length_cons, parts, after]
  simp only
  rw [partsOf, parts_eq_parts (length_afterSeparator?_le after) (Nat.le_refl _)]

theorem partsOf_cons {c : Char} {r part : List Char} {rest : List (List Char)}
    (after : afterSeparator? (c :: r) = none) (parts' : partsOf r = part :: rest) :
    partsOf (c :: r) = (c :: part) :: rest := by
  rw [partsOf, List.length_cons, parts, after]
  simp only
  rw [← partsOf, parts']

theorem partsOf_word {w t part : List Char} {rest : List (List Char)}
    (letters : ∀ c ∈ w, isLetter c = true) (parts' : partsOf t = part :: rest) :
    partsOf (w ++ t) = (w ++ part) :: rest := by
  induction w with
  | nil => exact parts'
  | cons c w ih =>
    have more := ih fun d member => letters d (List.mem_cons_of_mem _ member)
    exact partsOf_cons (afterSeparator?_letter (letters c List.mem_cons_self) _) more

theorem partsOf_blanks {b w t part : List Char} {rest : List (List Char)}
    (blanks : ∀ c ∈ b, isBlank c = true) (word : IsNameWord w) (ends : EndsWord t)
    (parts' : partsOf (w ++ t) = part :: rest) :
    partsOf (b ++ (w ++ t)) = (b ++ part) :: rest := by
  induction b with
  | nil => exact parts'
  | cons c b ih =>
    have more := ih fun d member => blanks d (List.mem_cons_of_mem _ member)
    exact partsOf_cons (afterSeparator?_word blanks word ends) more

-- Letters are part of the same part as a name behind them, as the blanks between are no separator.
theorem partsOf_before_name {w b n t part : List Char} {rest : List (List Char)}
    (letters : ∀ c ∈ w, isLetter c = true) (blanks : ∀ c ∈ b, isBlank c = true) (name : IsName n)
    (ends : EndsWord t) (parts' : partsOf (n ++ t) = part :: rest) :
    partsOf (w ++ (b ++ (n ++ t))) = (w ++ (b ++ part)) :: rest := by
  obtain ⟨w', t', word', rfl, ends'⟩ := name.begins
  have inner : EndsWord (t' ++ t) := by
    cases t' with
    | nil => exact ends
    | cons c t' => exact ends'
  rw [List.append_assoc] at parts' ⊢
  exact partsOf_word letters (partsOf_blanks blanks word' inner parts')

-- A name is part of the first part of a list that begins with it.
theorem IsName.partsOf {n t part : List Char} {rest : List (List Char)} (name : IsName n)
    (ends : EndsWord t) (parts' : partsOf t = part :: rest) :
    partsOf (n ++ t) = (n ++ part) :: rest := by
  induction name with
  | word word => exact partsOf_word word.letters parts'
  | more word some blanks name ih =>
    have whole := partsOf_before_name word.letters blanks name ends ih
    simpa using whole

/-- The names among parts. -/
def named (ps : List (List Char)) : List (List Char) :=
  (ps.map trim).filter (!·.isEmpty)

theorem named_nil_cons (ps : List (List Char)) : named ([] :: ps) = named ps := rfl

theorem names_eq (s : List Char) : names s = named (partsOf s) := rfl

theorem exists_cut_at_comma {s : List Char} (comma : ',' ∈ s)
    (all : ∀ c ∈ s, c = ',' ∨ isBlank c = true) :
    ∃ b r, s = b ++ ',' :: r ∧ ∀ c ∈ b, isBlank c = true := by
  induction s with
  | nil => cases comma
  | cons c s ih =>
    rcases all c List.mem_cons_self with rfl | blank
    · exact ⟨[], s, rfl, by simp⟩
    · have noComma : ',' ≠ c := by
        rintro rfl
        exact absurd blank (by decide)
      have later : ',' ∈ s := (List.mem_cons.mp comma).resolve_left noComma
      obtain ⟨b, r, cut, blanks⟩ := ih later fun d member => all d (List.mem_cons_of_mem _ member)
      exact ⟨c :: b, r, by rw [cut]; rfl, List.forall_mem_cons.mpr ⟨blank, blanks⟩⟩

-- Commas end the part before them, and leave no name.
theorem partsOf_commas {s : List Char} (front : ∀ c ∈ s.head?, isBlank c = false) (n : Nat)
    {sep : List Char} (short : sep.length ≤ n) (comma : ',' ∈ sep)
    (all : ∀ c ∈ sep, c = ',' ∨ isBlank c = true) :
    ∃ ps, partsOf (sep ++ s) = [] :: ps ∧ named ps = names s := by
  -- On the length, as the first comma takes the blanks behind it along.
  induction n generalizing sep with
  | zero =>
    rw [List.eq_nil_of_length_eq_zero (Nat.le_zero.mp short)] at comma
    cases comma
  | succ n ih =>
    obtain ⟨b, r, rfl, blanks⟩ := exists_cut_at_comma comma all
    have after := afterSeparator?_comma blanks (r ++ s)
    have here : partsOf (b ++ ',' :: r ++ s) = [] :: partsOf ((r ++ s).dropWhile isBlank) := by
      rw [List.append_assoc, List.cons_append]
      cases b with
      | nil => exact partsOf_separator after
      | cons c b => exact partsOf_separator after
    refine ⟨_, here, ?_⟩
    by_cases more : ',' ∈ r
    · -- A further comma ends an empty part.
      have later : ∀ c ∈ r, c = ',' ∨ isBlank c = true := fun c member => all c (by simp [member])
      obtain ⟨b', r', rfl, blanks'⟩ := exists_cut_at_comma more later
      have solid : ∀ c ∈ (',' :: r' ++ s).head?, isBlank c = false := by
        rintro c ⟨⟩
        decide
      rw [List.append_assoc, dropWhile_append_stop blanks' solid]
      have shorter : (',' :: r').length ≤ n := by
        simp only [List.length_append, List.length_cons] at short ⊢
        omega
      obtain ⟨ps, parts', names'⟩ := ih shorter List.mem_cons_self fun c member => later c (by
        rcases List.mem_cons.mp member with rfl | member
        · simp
        · simp [member])
      rw [parts', named_nil_cons, names']
    · have blanks' : ∀ c ∈ r, isBlank c = true := by
        intro c member
        refine (all c (by simp [member])).resolve_left ?_
        rintro rfl
        exact more member
      rw [dropWhile_append_stop blanks' front, names_eq]

/-- A separator ends the part before it, and leaves no name. -/
theorem IsSeparator.partsOf {sep s : List Char} (separator : IsSeparator sep)
    (front : ∀ c ∈ s.head?, isBlank c = false) :
    ∃ ps, partsOf (sep ++ s) = [] :: ps ∧ named ps = names s := by
  cases separator with
  | @joiner b w b' some blanks joins some' blanks' =>
    have after := afterSeparator?_joiner some blanks joins some' blanks' front
    obtain ⟨c, b, rfl⟩ := List.exists_cons_of_ne_nil some
    refine ⟨_, ?_, names_eq s⟩
    rw [List.append_assoc, List.append_assoc]
    exact partsOf_separator after
  | commas comma all => exact partsOf_commas front _ (Nat.le_refl _) comma all

/-- A text that no list takes apart: it stands in one part, and is found as it is. -/
structure IsPiece (e : List Char) : Prop where
  begins : ∃ c r, e = c :: r ∧ isLetter c = true
  trimmed : trim e = e
  whole : ∀ {t part rest}, EndsWord t → partsOf t = part :: rest →
    partsOf (e ++ t) = (e ++ part) :: rest

theorem IsPiece.named_cons {e : List Char} (piece : IsPiece e) (ps : List (List Char)) :
    named (e :: ps) = e :: named ps := by
  obtain ⟨c, r, rfl, _⟩ := piece.begins
  rw [named, List.map_cons, piece.trimmed]
  rfl

theorem IsPiece.names_alone {e : List Char} (piece : IsPiece e) : names e = [e] := by
  have parts' : partsOf (e ++ []) = (e ++ []) :: [] := piece.whole (by simp [EndsWord]) rfl
  rw [List.append_nil] at parts'
  rw [names_eq, parts', piece.named_cons]
  rfl

theorem IsPiece.names_separator {e sep s : List Char} (piece : IsPiece e)
    (separator : IsSeparator sep) (front : ∀ c ∈ s.head?, isBlank c = false) :
    names (e ++ (sep ++ s)) = e :: names s := by
  obtain ⟨ps, parts', names'⟩ := separator.partsOf front
  rw [names_eq, piece.whole (separator.endsWord s) parts', List.append_nil, piece.named_cons,
    names']

theorem IsName.isPiece {n : List Char} (name : IsName n) : IsPiece n :=
  ⟨name.begins_letter, name.trim_eq, name.partsOf⟩

/-- The names of a list are found in it, in order. -/
theorem names_of_lists {s : List Char} {ns : List (List Char)} (lists : Lists s ns) :
    names s = ns := by
  induction lists with
  | one name => exact name.isPiece.names_alone
  | more name separator rest ih => rw [name.isPiece.names_separator separator rest.front, ih]

/-! ### The list of a question -/

theorem isListChar_of_isLetter {c : Char} (letter : isLetter c = true) : isListChar c = true := by
  rw [isLetter] at letter
  rw [isListChar, letter]
  rfl

theorem isListChar_of_isBlank {c : Char} (blank : isBlank c = true) : isListChar c = true := by
  rw [isListChar, blank, Bool.or_true]
  rfl

/-- Somewhere in the text a blank follows an `in`. -/
def Introduces (s : List Char) : Prop :=
  ∃ c, isBlank c = true ∧ ['i', 'n', c] <:+: s

/-- Somewhere in the text an `in` is followed by a blank and a character of a list. -/
def Opens (s : List Char) : Prop :=
  ∃ c d, isBlank c = true ∧ isListChar d = true ∧ ['i', 'n', c, d] <:+: s

theorem Opens.mono {s t : List Char} (h : Opens s) (held : s <:+: t) : Opens t := by
  obtain ⟨c, d, blank, char, inside⟩ := h
  exact ⟨c, d, blank, char, inside.trans held⟩

theorem Opens.of_tail {c : Char} {s : List Char} (h : Opens s) : Opens (c :: s) :=
  h.mono (List.suffix_cons c s).isInfix

theorem Opens.of_append {a s : List Char} (h : Opens (a ++ s)) (none : 'i' ∉ a) : Opens s := by
  induction a with
  | nil => exact h
  | cons e a ih =>
    obtain ⟨c, d, blank, char, inside⟩ := h
    refine ih ?_ fun member => none (List.mem_cons_of_mem _ member)
    rcases List.infix_cons_iff.mp inside with front | later
    · exact absurd (List.mem_cons.mpr (.inl (List.cons_prefix_cons.mp front).1)) none
    · exact ⟨c, d, blank, char, later⟩

theorem Opens.introduces {s : List Char} (h : Opens s) : Introduces s := by
  obtain ⟨c, d, blank, _, inside⟩ := h
  exact ⟨c, blank, (List.prefix_append ['i', 'n', c] [d]).isInfix.trans inside⟩

-- The last character of the four is not needed for an `in` before a blank.
theorem Opens.introduces_of_concat {s : List Char} {e : Char} (h : Opens (s ++ [e])) :
    Introduces s := by
  obtain ⟨c, d, blank, _, a, b, cut⟩ := h
  refine ⟨c, blank, a, ?_⟩
  rcases List.eq_nil_or_concat b with rfl | ⟨b, f, rfl⟩
  · have same : a ++ ['i', 'n', c] ++ [d] = s ++ [e] := by simpa using cut
    exact ⟨[], by simpa using (List.append_inj' same rfl).1⟩
  · have same : a ++ ['i', 'n', c, d] ++ b ++ [f] = s ++ [e] := by simpa using cut
    exact ⟨d :: b, by simpa using (List.append_inj' same rfl).1⟩

theorem listRun?_eq_none {s : List Char} (outside : ∀ c ∈ s.head?, isListChar c = false) :
    listRun? s = none := by
  cases s with
  | nil => rfl
  | cons c s => simp [listRun?, outside c rfl]

theorem listAt?_eq_none {s : List Char}
    (none : ∀ c d r, isBlank c = true → isListChar d = true → s ≠ 'i' :: 'n' :: c :: d :: r) :
    listAt? s = .none := by
  rw [listAt?]
  cases after : afterKeyword? (· == ·) "in".toList s with
  | none => rfl
  | some r =>
    have cut : s = "in".toList ++ r := (afterKeyword?_beq_iff _ _ _).mp after
    rcases r with _ | ⟨c, r⟩
    · rfl
    · by_cases blank : isBlank c = true
      · -- No character of a list follows the blank, so that it is the only one.
        have outside : ∀ d ∈ r.head?, isListChar d = false := by
          intro d first
          obtain ⟨r', rfl⟩ := List.head?_eq_some_iff.mp first
          by_contra char
          exact none c d r' blank (by simpa using char) cut
        have alone : r.takeWhile isBlank = [] := by
          cases r with
          | nil => rfl
          | cons d r =>
            have solid : isBlank d = false := by
              by_contra blank'
              have char := outside d rfl
              rw [isListChar_of_isBlank (by simpa using blank')] at char
              cases char
            simp [solid]
        simp [blank, alone, listBehind?, listRun?_eq_none outside]
      · simp [blank, listBehind?]

theorem listAt?_list {b l z : List Char} (some : b ≠ []) (blanks : ∀ c ∈ b, isBlank c = true)
    (some' : l ≠ []) (front : ∀ c ∈ l.head?, isBlank c = false)
    (inside : ∀ c ∈ l, isListChar c = true) (outside : ∀ c ∈ z.head?, isListChar c = false) :
    listAt? ("in".toList ++ (b ++ (l ++ z))) = .some l := by
  have after : afterKeyword? (· == ·) "in".toList ("in".toList ++ (b ++ (l ++ z))) =
      .some (b ++ (l ++ z)) := (afterKeyword?_beq_iff _ _ _).mpr rfl
  have solid : ∀ c ∈ (l ++ z).head?, isBlank c = false := by
    obtain ⟨c, r, rfl⟩ := List.exists_cons_of_ne_nil some'
    exact front
  have run : (l ++ z).takeWhile isListChar = l := takeWhile_append_stop inside outside
  have all : listRun? (l ++ z) = .some l := by
    simp [listRun?, run, some']
  obtain ⟨c, b, rfl⟩ := List.exists_cons_of_ne_nil some
  -- The list is looked for behind all of the blanks first, and found there.
  simp only [listAt?, after, takeWhile_append_stop blanks solid, List.length_cons, listBehind?]
  rw [← List.length_cons, List.drop_left, all]
  rfl

theorem firstList?_eq_none {s : List Char} (none : ¬Opens s) : firstList? s = .none := by
  induction s with
  | nil => rfl
  | cons c r ih =>
    have here : listAt? (c :: r) = .none := by
      refine listAt?_eq_none fun d e r' blank char eq => none ⟨d, e, blank, char, ?_⟩
      rw [eq]
      exact (List.prefix_append ['i', 'n', d, e] r').isInfix
    rw [firstList?, here, ih fun h => none h.of_tail]
    rfl

theorem isSome_listRun? {c : Char} (char : isListChar c = true) (r : List Char) :
    (listRun? (c :: r)).isSome = true := by
  simp [listRun?, char]

-- The list may begin behind more blanks than one, but behind one of them it begins for certain.
theorem isSome_listBehind? {c : Char} {s : List Char} (behindOne : (listRun? s).isSome = true)
    (most : Nat) : (listBehind? (c :: s) (most + 1)).isSome = true := by
  induction most with
  | zero =>
    rw [listBehind?, Option.isSome_or, Bool.or_eq_true]
    exact .inl behindOne
  | succ most ih => rw [listBehind?, Option.isSome_or, ih, Bool.or_true]

/-- A list is found exactly if one opens. -/
theorem isSome_firstList?_iff (s : List Char) : (firstList? s).isSome = true ↔ Opens s := by
  constructor
  · intro found
    by_contra none
    rw [firstList?_eq_none none] at found
    cases found
  · rintro ⟨c, d, blank, char, a, b, rfl⟩
    induction a with
    | nil =>
      have opened : firstList? ('i' :: 'n' :: c :: d :: b) =
          (listAt? ('i' :: 'n' :: c :: d :: b)).or (firstList? ('n' :: c :: d :: b)) := rfl
      have after : afterKeyword? (· == ·) "in".toList ('i' :: 'n' :: c :: d :: b) =
          some (c :: d :: b) := rfl
      have here : (listAt? ('i' :: 'n' :: c :: d :: b)).isSome = true := by
        simp only [listAt?, after, List.takeWhile_cons, blank, if_true, List.length_cons]
        exact isSome_listBehind? (isSome_listRun? char b) _
      rw [show [] ++ ['i', 'n', c, d] ++ b = 'i' :: 'n' :: c :: d :: b from rfl, opened,
        Option.isSome_or, here, Bool.true_or]
    | cons e a ih =>
      rw [List.cons_append, List.cons_append, firstList?, Option.isSome_or, ih, Bool.or_true]

instance (s : List Char) : Decidable (Opens s) :=
  decidable_of_iff _ (isSome_firstList?_iff s)

-- A text in which no list opens is passed over up to the next `i`.
theorem firstList?_append {a t : List Char} (none : ¬Opens (a ++ ['i'])) :
    firstList? (a ++ 'i' :: t) = firstList? ('i' :: t) := by
  induction a with
  | nil => rfl
  | cons c r ih =>
    have here : listAt? (c :: (r ++ 'i' :: t)) = .none := by
      refine listAt?_eq_none fun d e r' blank char eq => none ?_
      -- The four characters stand in the text that is passed, or end with the `i` behind it.
      rcases r with _ | ⟨f, _ | ⟨g, _ | ⟨h, r⟩⟩⟩
      · cases eq
      · cases eq
        exact absurd blank (by decide)
      · cases eq
        exact ⟨d, 'i', blank, char, List.infix_refl _⟩
      · cases eq
        exact ⟨d, e, blank, char, (List.prefix_append ['i', 'n', d, e] (r ++ ['i'])).isInfix⟩
    rw [List.cons_append, firstList?, here, ih fun h => none h.of_tail]
    rfl

theorem IsNameWord.listChars {w : List Char} (word : IsNameWord w) :
    ∀ c ∈ w, isListChar c = true :=
  fun c member => isListChar_of_isLetter (word.letters c member)

theorem IsName.listChars {n : List Char} (name : IsName n) : ∀ c ∈ n, isListChar c = true := by
  induction name with
  | word word => exact word.listChars
  | more word some blanks rest ih =>
    intro c member
    rcases List.mem_append.mp member with inside | inside
    · exact word.listChars c inside
    · rcases List.mem_append.mp inside with inside | inside
      · exact isListChar_of_isBlank (blanks c inside)
      · exact ih c inside

theorem letters_of_joins {w : List Char} (joins : w = "and".toList ∨ w = "or".toList) :
    ∀ c ∈ w, isLetter c = true := by
  rcases joins with rfl | rfl <;> decide

theorem IsSeparator.listChars {sep : List Char} (separator : IsSeparator sep) :
    ∀ c ∈ sep, isListChar c = true := by
  intro c member
  cases separator with
  | joiner some blanks joins some' blanks' =>
    rcases List.mem_append.mp member with inside | inside
    · exact isListChar_of_isBlank (blanks c inside)
    · rcases List.mem_append.mp inside with inside | inside
      · exact isListChar_of_isLetter (letters_of_joins joins c inside)
      · exact isListChar_of_isBlank (blanks' c inside)
  | commas comma all =>
    rcases all c member with rfl | blank
    · decide
    · exact isListChar_of_isBlank blank

theorem Lists.listChars {s : List Char} {ns : List (List Char)} (lists : Lists s ns) :
    ∀ c ∈ s, isListChar c = true := by
  induction lists with
  | one name => exact name.listChars
  | more name separator rest ih =>
    intro c member
    rcases List.mem_append.mp member with inside | inside
    · exact name.listChars c inside
    · rcases List.mem_append.mp inside with inside | inside
      · exact separator.listChars c inside
      · exact ih c inside

theorem Lists.ne_nil {s : List Char} {ns : List (List Char)} (lists : Lists s ns) : ns ≠ [] := by
  cases lists <;> simp

theorem regionsOf?_eq_none {q : List Char} (none : ¬Introduces q) : regionsOf? q = .none := by
  rw [regionsOf?, firstList?_eq_none fun h => none h.introduces]

-- The list behind the first `in` that opens one, up to a character of no list.
theorem firstList?_list {a b l z : List Char} (closed : ¬Opens (a ++ ['i'])) (some : b ≠ [])
    (blanks : ∀ c ∈ b, isBlank c = true) (some' : l ≠ [])
    (front : ∀ c ∈ l.head?, isBlank c = false) (inside : ∀ c ∈ l, isListChar c = true)
    (outside : ∀ c ∈ z.head?, isListChar c = false) :
    firstList? (a ++ ("in".toList ++ (b ++ (l ++ z)))) = .some l := by
  have here := listAt?_list some blanks some' front inside outside
  have skipped : firstList? (a ++ ("in".toList ++ (b ++ (l ++ z)))) =
      firstList? ("in".toList ++ (b ++ (l ++ z))) := firstList?_append closed
  have opened : firstList? ("in".toList ++ (b ++ (l ++ z))) =
      (listAt? ("in".toList ++ (b ++ (l ++ z)))).or (firstList? ('n' :: (b ++ (l ++ z)))) := rfl
  rw [skipped, opened, here, Option.some_or]

/-- The names behind the first `in` that a blank follows, up to a character of no list. -/
theorem regionsOf?_of_lists {a b l z : List Char} {ns : List (List Char)} (none : ¬Introduces a)
    (some : b ≠ []) (blanks : ∀ c ∈ b, isBlank c = true) (lists : Lists l ns)
    (outside : ∀ c ∈ z.head?, isListChar c = false) :
    regionsOf? (a ++ ("in".toList ++ (b ++ (l ++ z)))) = .some ns := by
  obtain ⟨c, r, cut, letter⟩ := lists.begins
  have some' : l ≠ [] := by simp [cut]
  have closed : ¬Opens (a ++ ['i']) := fun h => none h.introduces_of_concat
  rw [regionsOf?, firstList?_list closed some blanks some' lists.front lists.listChars outside]
  simp [names_of_lists lists, lists.ne_nil]

end TableTalk.Question
