import TableTalk.Proofs.Regions

/-!
# TableTalk.Proofs.RegionNames

Which names of regions can be found at all: those of letters and blanks that no separator takes
apart.

## Main results

- `isPlain_of_regionsOf?`: every name that is found in a question is of this form.
- `regionsOf?_of_isPlain`: every name of this form is found behind the first `in` that opens a list.
-/

namespace TableTalk.Question

open Text

/-! ### Names without separators -/

/-- A name that can be read from a list as it is. -/
structure IsPlain (n : List Char) : Prop where
  nonempty : n ≠ []
  chars : ∀ c ∈ n, isLetter c = true ∨ isBlank c = true
  front : ∀ c ∈ n.head?, isBlank c = false
  back : ∀ c ∈ n.getLast?, isBlank c = false
  whole : ∀ sep, IsSeparator sep → ¬sep <:+: n

/-- Where a text begins with a separator, one is passed, if perhaps a longer one. -/
theorem IsSeparator.afterSeparator?_ne_none {sep : List Char} (separator : IsSeparator sep)
    (t : List Char) : afterSeparator? (sep ++ t) ≠ none := by
  cases separator with
  | @joiner b w b' some blanks joins some' blanks' =>
    have run : b' ++ t = (b' ++ t.takeWhile isBlank) ++ t.dropWhile isBlank := by simp
    have blanks'' : ∀ c ∈ b' ++ t.takeWhile isBlank, isBlank c = true := by
      intro c member
      rcases List.mem_append.mp member with inside | inside
      · exact blanks' c inside
      · exact List.mem_takeWhile_imp inside
    rw [List.append_assoc, List.append_assoc, run,
      afterSeparator?_joiner some blanks joins (by simp [some']) blanks'' (front_dropWhile t)]
    simp
  | commas comma all =>
    obtain ⟨b, r, rfl, blanks⟩ := exists_cut_at_comma comma all
    rw [List.append_assoc, List.cons_append, afterSeparator?_comma blanks]
    simp

/-! ### Parts -/

theorem partsOf_ne_nil (s : List Char) : partsOf s ≠ [] := by
  cases s with
  | nil => simp [partsOf, parts]
  | cons c r =>
    rw [partsOf, List.length_cons, parts]
    split
    · simp
    · split <;> simp

/-- Parts are made along the text: a separator begins with an empty part, and any other character
belongs to the part that begins behind it. -/
theorem partsOf_induction {motive : List Char → List (List Char) → Prop} (nil : motive [] [[]])
    (separator : ∀ c r rest, afterSeparator? (c :: r) = some rest →
      motive rest (partsOf rest) → motive (c :: r) ([] :: partsOf rest))
    (char : ∀ c r part ps, afterSeparator? (c :: r) = none → motive r (part :: ps) →
      motive (c :: r) ((c :: part) :: ps)) (s : List Char) : motive s (partsOf s) := by
  -- On the length, as what is left behind a separator is shorter.
  induction long : s.length using Nat.strong_induction_on generalizing s with
  | _ n ih =>
    cases s with
    | nil => exact nil
    | cons c r =>
      cases after : afterSeparator? (c :: r) with
      | some rest =>
        have shorter : rest.length < n := by
          have le := length_afterSeparator?_le after
          simp only [List.length_cons] at long
          omega
        rw [partsOf_separator after]
        exact separator c r rest after (ih _ shorter rest rfl)
      | none =>
        obtain ⟨part, ps, parts'⟩ := List.exists_cons_of_ne_nil (partsOf_ne_nil r)
        have shorter : r.length < n := by
          simp only [List.length_cons] at long
          omega
        have rest := ih _ shorter r rfl
        rw [parts'] at rest
        rw [partsOf_cons after parts']
        exact char c r part ps after rest

/-- Wherever a part is cut, its rest stands in the list with no separator at its beginning. -/
def Unbroken (s part : List Char) : Prop :=
  ∀ x y, part = x ++ y → y ≠ [] → ∃ z, y ++ z <:+ s ∧ afterSeparator? (y ++ z) = none

theorem Unbroken.of_suffix {s s' part : List Char} (unbroken : Unbroken s part)
    (suffix : s <:+ s') : Unbroken s' part := by
  intro x y cut some
  obtain ⟨z, inside, none⟩ := unbroken x y cut some
  exact ⟨z, inside.trans suffix, none⟩

theorem unbroken_nil (s : List Char) : Unbroken s [] := by
  intro x y cut some
  exact absurd (List.append_eq_nil_iff.mp cut.symm).2 some

theorem unbroken_of_mem_partsOf {s part : List Char} (member : part ∈ partsOf s) :
    Unbroken s part := by
  -- The first part is the front of the list, so that it is unbroken with one more character.
  suffices all : (∀ part ∈ (partsOf s).head?, part <+: s) ∧ ∀ part ∈ partsOf s, Unbroken s part from
    all.2 part member
  refine partsOf_induction
    (motive := fun s ps => (∀ part ∈ ps.head?, part <+: s) ∧ ∀ part ∈ ps, Unbroken s part)
    ?nil ?separator ?char s
  case nil => simp [unbroken_nil]
  case separator =>
    intro c r rest after ⟨_, unbroken⟩
    obtain ⟨sep, cut, _⟩ := exists_of_afterSeparator? after
    have suffix : rest <:+ c :: r := ⟨sep, cut.symm⟩
    refine ⟨by simp, List.forall_mem_cons.mpr ⟨unbroken_nil _, ?_⟩⟩
    exact fun part member => (unbroken part member).of_suffix suffix
  case char =>
    intro c r part ps none ⟨front, unbroken⟩
    obtain ⟨z, rfl⟩ := front part rfl
    have suffix : part ++ z <:+ c :: (part ++ z) := List.suffix_cons c _
    obtain ⟨first, later⟩ := List.forall_mem_cons.mp unbroken
    refine ⟨by simp, List.forall_mem_cons.mpr ⟨?_, ?_⟩⟩
    · intro x y cut some
      cases x with
      | nil =>
        obtain rfl : c :: part = y := cut
        exact ⟨z, List.suffix_refl _, none⟩
      | cons d x => exact first.of_suffix suffix x y (List.cons.inj cut).2 some
    · exact fun part' member => (later part' member).of_suffix suffix

/-- No separator stands in a part. -/
theorem not_infix_of_mem_partsOf {s part sep : List Char} (member : part ∈ partsOf s)
    (separator : IsSeparator sep) : ¬sep <:+: part := by
  rintro ⟨x, y, cut⟩
  have behind : sep ++ y ≠ [] := by simp [separator.ne_nil]
  rw [List.append_assoc] at cut
  obtain ⟨z, _, none⟩ := unbroken_of_mem_partsOf member x (sep ++ y) cut.symm behind
  rw [List.append_assoc] at none
  exact separator.afterSeparator?_ne_none _ none

theorem infix_of_mem_partsOf {s part : List Char} (member : part ∈ partsOf s) : part <:+: s := by
  by_cases empty : part = []
  · rw [empty]
    exact List.nil_infix
  · obtain ⟨z, inside, _⟩ := unbroken_of_mem_partsOf member [] part rfl empty
    exact (List.prefix_append part z).isInfix.trans inside.isInfix

-- A list without separators is its only part.
theorem partsOf_eq_singleton {s : List Char} (whole : ∀ sep, IsSeparator sep → ¬sep <:+: s) :
    partsOf s = [s] := by
  induction s with
  | nil => rfl
  | cons c r ih =>
    have rest := ih fun sep separator inside =>
      whole sep separator (inside.trans (List.suffix_cons c r).isInfix)
    refine partsOf_cons ?_ rest
    by_contra some
    obtain ⟨rest, after⟩ := Option.ne_none_iff_exists'.mp some
    obtain ⟨sep, cut, separator⟩ := exists_of_afterSeparator? after
    exact whole sep separator ⟨[], rest, cut.symm⟩

theorem whole_iff (s : List Char) :
    (∀ sep, IsSeparator sep → ¬sep <:+: s) ↔ partsOf s = [s] := by
  constructor
  · exact partsOf_eq_singleton
  · intro alone sep separator
    have member : s ∈ partsOf s := by simp [alone]
    exact not_infix_of_mem_partsOf member separator

/-! ### Plain names -/

theorem isPlain_iff (n : List Char) :
    IsPlain n ↔ n ≠ [] ∧ (∀ c ∈ n, isLetter c = true ∨ isBlank c = true) ∧ trim n = n ∧
      partsOf n = [n] := by
  constructor
  · intro ⟨nonempty, chars, front, back, whole⟩
    exact ⟨nonempty, chars, trim_eq_self front back, (whole_iff n).mp whole⟩
  · intro ⟨nonempty, chars, trimmed, alone⟩
    have front := front_trim n
    have back := back_trim n
    rw [trimmed] at front back
    exact ⟨nonempty, chars, front, back, (whole_iff n).mpr alone⟩

instance (n : List Char) : Decidable (IsPlain n) :=
  decidable_of_iff' _ (isPlain_iff n)

theorem IsPlain.listChars {n : List Char} (plain : IsPlain n) : ∀ c ∈ n, isListChar c = true := by
  intro c member
  rcases plain.chars c member with letter | blank
  · exact isListChar_of_isLetter letter
  · exact isListChar_of_isBlank blank

theorem isPlain_of_mem_names {s n : List Char} (chars : ∀ c ∈ s, isListChar c = true)
    (member : n ∈ names s) : IsPlain n := by
  rw [names_eq, named, List.mem_filter, List.mem_map] at member
  obtain ⟨⟨part, member, rfl⟩, some⟩ := member
  obtain ⟨b, b', cut, _, _⟩ := exists_eq_trim_padded part
  have inside : trim part <:+: part := ⟨b, b', cut.symm⟩
  have whole (sep : List Char) (separator : IsSeparator sep) : ¬sep <:+: trim part :=
    fun held => not_infix_of_mem_partsOf member separator (held.trans inside)
  refine ⟨by simpa using some, fun c member' => ?_, front_trim part, back_trim part, whole⟩
  have char : isListChar c = true :=
    chars c ((inside.trans (infix_of_mem_partsOf member)).subset member')
  have noComma : c ≠ ',' := by
    rintro rfl
    obtain ⟨x, y, cut⟩ := List.append_of_mem member'
    exact whole [','] (.commas (by simp) (by simp)) ⟨x, y, by simp [cut]⟩
  simpa [isListChar, isLetter, noComma] using char

theorem names_of_isPlain {n : List Char} (plain : IsPlain n) : names n = [n] := by
  simp [names_eq, named, partsOf_eq_singleton plain.whole, trim_eq_self plain.front plain.back,
    plain.nonempty]

/-! ### Questions -/

theorem listChars_of_listRun? {s l : List Char} (run : listRun? s = some l) :
    ∀ c ∈ l, isListChar c = true := by
  rw [listRun?] at run
  split at run
  next => cases run
  next =>
    cases run
    exact fun c member => List.mem_takeWhile_imp member

-- Wherever a list begins, it is the run of its characters there.
theorem exists_of_listBehind? {s l : List Char} {most : Nat}
    (found : listBehind? s most = some l) : ∃ a t, s = a ++ t ∧ listRun? t = some l := by
  induction most with
  | zero => cases found
  | succ most ih =>
    rw [listBehind?, Option.or_eq_some_iff] at found
    rcases found with run | ⟨_, later⟩
    · exact ⟨_, _, (List.take_append_drop (most + 1) s).symm, run⟩
    · exact ih later

theorem exists_of_firstList? {q l : List Char} (found : firstList? q = some l) :
    ∃ a t, q = a ++ t ∧ listRun? t = some l := by
  induction q with
  | nil => cases found
  | cons c r ih =>
    rw [firstList?, Option.or_eq_some_iff] at found
    rcases found with here | ⟨_, later⟩
    · rw [listAt?] at here
      split at here
      next => cases here
      next s after =>
        obtain ⟨a, t, cut, run⟩ := exists_of_listBehind? here
        refine ⟨"in".toList ++ a, t, ?_, run⟩
        rw [(afterKeyword?_beq_iff _ _ _).mp after, cut, List.append_assoc]
    · obtain ⟨a, t, rfl, run⟩ := ih later
      exact ⟨c :: a, t, rfl, run⟩

theorem listChars_of_firstList? {q l : List Char} (found : firstList? q = some l) :
    ∀ c ∈ l, isListChar c = true := by
  obtain ⟨_, _, _, run⟩ := exists_of_firstList? found
  exact listChars_of_listRun? run

theorem exists_of_regionsOf? {q : List Char} {ns : List (List Char)}
    (found : regionsOf? q = some ns) : ∃ l, firstList? q = some l ∧ names l = ns ∧ ns ≠ [] := by
  rw [regionsOf?] at found
  split at found
  next => cases found
  next l first =>
    split at found
    next => cases found
    next nonempty =>
      cases found
      exact ⟨l, first, rfl, by simpa using nonempty⟩

/-- Every name that is found in a question is plain. -/
theorem isPlain_of_regionsOf? {q : List Char} {ns : List (List Char)}
    (found : regionsOf? q = some ns) : ∀ n ∈ ns, IsPlain n := by
  obtain ⟨l, first, rfl, _⟩ := exists_of_regionsOf? found
  exact fun n member => isPlain_of_mem_names (listChars_of_firstList? first) member

/-- A plain name at the end of a question is found behind the first `in` that opens a list. -/
theorem regionsOf?_of_isPlain {a n : List Char} (closed : ¬Opens (a ++ ['i'])) (plain : IsPlain n) :
    regionsOf? (a ++ ("in".toList ++ ' ' :: n)) = some [n] := by
  have first : firstList? (a ++ ("in".toList ++ ([' '] ++ (n ++ [])))) = some n :=
    firstList?_list closed (by simp) (by decide) plain.nonempty plain.front plain.listChars
      (by simp)
  rw [List.append_nil] at first
  rw [regionsOf?, show ' ' :: n = [' '] ++ n from rfl, first]
  simp [names_of_isPlain plain]

end TableTalk.Question
