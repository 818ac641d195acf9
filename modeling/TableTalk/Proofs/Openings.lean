import TableTalk.Proofs.Statements

/-!
# TableTalk.Proofs.Openings

The description of any text, told from its words.

## Main result

- `describe_words`: the description of a text by its first words and by those that begin with
  `FROM`.

## Proof strategy

Openings are compared with the normal form of a text, in which a space stands between two words. An
opening without spaces lies within the first word (`begins_join_iff`), and one that ends in a space
ends with the first word (`afterOpening?_join_iff`). A source that is reached behind at least one
character begins a word behind the first (`reachesSource_join_iff`).
-/

namespace TableTalk.Statement

open Text

/-! ### Letters -/

/-- The capital letter that a character stands for in a description: its capital form, but the long
s stands for an S, the dotless and the dotted capital I for an I, and the kelvin sign for a K. -/
def capital (c : Char) : Char :=
  if c = 'ſ' then 'S'
  else if c = 'ı' ∨ c = 'İ' then 'I'
  else if c = '\u212a' then 'K'
  else c.toUpper

/-- Whether a text writes a keyword in capital letters, as descriptions read it. -/
def Writes (keyword : String) (w : List Char) : Prop :=
  w.map capital = keyword.toList

instance (keyword : String) (w : List Char) : Decidable (Writes keyword w) :=
  inferInstanceAs (Decidable (_ = _))

/-- Whether a text begins with a keyword in capital letters. -/
def Begins (keyword : String) (s : List Char) : Prop :=
  ∃ u v, s = u ++ v ∧ Writes keyword u

/-- All characters of a keyword come before the small letters of ASCII. -/
def IsCapital (keyword : String) : Prop :=
  ∀ k ∈ keyword.toList, k.toNat < 97

instance (keyword : String) : Decidable (IsCapital keyword) :=
  inferInstanceAs (Decidable (∀ k ∈ keyword.toList, _))

/-- A keyword is one word of capital letters or signs. -/
structure IsKeyword (keyword : String) : Prop where
  word : IsWord keyword.toList
  plain : IsCapital keyword

instance (keyword : String) : Decidable (IsKeyword keyword) :=
  decidable_of_iff (IsWord keyword.toList ∧ IsCapital keyword)
    ⟨fun ⟨word, plain⟩ => ⟨word, plain⟩, fun ⟨word, plain⟩ => ⟨word, plain⟩⟩

theorem IsKeyword.plain_spaced {keyword : String} (keyWord : IsKeyword keyword) :
    IsCapital (keyword ++ " ") := by
  intro k member
  rw [String.toList_append] at member
  rcases List.mem_append.mp member with inside | inside
  · exact keyWord.plain k inside
  · obtain rfl := List.mem_singleton.mp inside
    decide

theorem sameLetter_iff_cases (k c : Char) :
    sameLetter k c = true ↔ sameAsciiLetter k c = true ∨ (k.toLower = 's' ∧ c = 'ſ') ∨
      (k.toLower = 'i' ∧ (c = 'ı' ∨ c = 'İ')) ∨ (k.toLower = 'k' ∧ c = '\u212a') := by
  rw [sameLetter, Bool.or_eq_true]
  apply or_congr_right
  split
  next small => simp [small]
  next small => simp [small]
  next small => simp [small]
  next notS notI notK => simp_all

theorem sameLetter_iff {k : Char} (bound : k.toNat < 97) (c : Char) :
    sameLetter k c = true ↔ capital c = k := by
  have notLower : k.isLower = false := by
    by_contra lower
    have bounds : 97 ≤ k.toNat ∧ k.toNat ≤ 122 := by
      simpa [Char.isLower, UInt32.le_iff_toNat_le] using lower
    omega
  have small {s S : Char} (form : S.toNat + 32 = s.toNat) (low : 65 ≤ S.toNat)
      (high : S.toNat ≤ 90) : k.toLower = s ↔ k = S := by
    rw [← Char.toNat_inj, ← Char.toNat_inj, toNat_toLower]
    split <;> omega
  -- The letters beyond ASCII are their own capital forms, and stand in no keyword.
  have apart : k ≠ 'ſ' ∧ k ≠ 'ı' ∧ k ≠ 'İ' ∧ k ≠ '\u212a' := by
    refine ⟨?_, ?_, ?_, ?_⟩ <;> (rintro rfl; exact absurd bound (by decide))
  obtain ⟨long, dotless, dotted, kelvin⟩ := apart
  rw [sameLetter_iff_cases, sameAsciiLetter_iff notLower,
    small (S := 'S') rfl (by decide) (by decide), small (S := 'I') rfl (by decide) (by decide),
    small (S := 'K') rfl (by decide) (by decide)]
  unfold capital
  split
  next same =>
    subst same
    simp [long, eq_comm]
  next =>
    split
    next same => rcases same with rfl | rfl <;> simp [dotless, dotted, eq_comm]
    next =>
      split
      next same =>
        subst same
        simp [kelvin, eq_comm]
      next => simp_all

theorem forall₂_sameLetter_iff {ks : List Char} (bound : ∀ k ∈ ks, k.toNat < 97)
    (w : List Char) :
    List.Forall₂ (fun k c => sameLetter k c = true) ks w ↔ w.map capital = ks := by
  induction ks generalizing w with
  | nil => simp
  | cons k ks ih =>
    have rest := ih fun c hc => bound c (List.mem_cons_of_mem _ hc)
    cases w with
    | nil => simp
    | cons c w => simp [rest, sameLetter_iff (bound k List.mem_cons_self)]

theorem afterOpening?_iff {opening : String} (plain : IsCapital opening) (s r : List Char) :
    afterOpening? opening s = some r ↔ ∃ w, s = w ++ r ∧ Writes opening w := by
  simp only [afterOpening?_eq_some_iff, forall₂_sameLetter_iff plain, Writes]

theorem opensWith_iff {opening : String} (plain : IsCapital opening) (s : List Char) :
    opensWith opening s = true ↔ Begins opening s := by
  rw [opensWith, Option.isSome_iff_exists]
  simp only [afterOpening?_iff plain]
  constructor
  · rintro ⟨r, w, cut, written⟩
    exact ⟨w, r, cut, written⟩
  · rintro ⟨w, r, cut, written⟩
    exact ⟨r, w, cut, written⟩

theorem writes_append_iff (a b : String) (w : List Char) :
    Writes (a ++ b) w ↔ ∃ u v, w = u ++ v ∧ Writes a u ∧ Writes b v := by
  rw [Writes, String.toList_append, List.map_eq_append_iff]
  rfl

-- A sign stands for itself alone.
theorem capital_eq_iff {k : Char} (sign : k.toNat < 65) (c : Char) : capital c = k ↔ c = k := by
  rw [← sameLetter_iff (by omega), sameLetter_iff_cases, sameAsciiLetter, decide_eq_true_iff]
  have small (s : Char) (low : 97 ≤ s.toNat) : k.toLower ≠ s := by
    rw [Ne, ← Char.toNat_inj, toNat_toLower]
    split <;> omega
  simp only [small 's' (by decide), small 'i' (by decide), small 'k' (by decide), false_and,
    or_false]
  rw [← Char.toNat_inj, ← Char.toNat_inj, toNat_toLower, toNat_toLower]
  split <;> split <;> omega

theorem writes_singleton_iff {k : Char} (sign : k.toNat < 65) (w : List Char) :
    Writes (.singleton k) w ↔ w = [k] := by
  rw [Writes, String.toList_singleton, List.map_eq_singleton_iff]
  constructor
  · rintro ⟨c, rfl, upper⟩
    rw [(capital_eq_iff sign c).mp upper]
  · rintro rfl
    exact ⟨k, rfl, (capital_eq_iff sign k).mpr rfl⟩

theorem writes_space_iff (w : List Char) : Writes " " w ↔ w = [' '] :=
  writes_singleton_iff (k := ' ') (by decide) w

/-- A keyword is written by words only. -/
theorem Writes.isWord {keyword : String} {w : List Char} (written : Writes keyword w)
    (keyWord : IsKeyword keyword) : IsWord w := by
  have kept : ∀ b ∈ blanks, capital b = b := by decide
  refine .of_map kept ?_
  rw [written]
  exact keyWord.word

/-! ### Openings of words -/

variable {ws : List (List Char)}

/-- A space of a text in normal form stands between two of its words. -/
theorem exists_of_join_eq_append_space (all : ∀ w ∈ ws, IsWord w) {x y : List Char}
    (cut : join [' '] ws = x ++ ' ' :: y) : ∃ us vs, ws = us ++ vs ∧ us ≠ [] ∧ vs ≠ [] ∧
      x = join [' '] us ∧ y = join [' '] vs := by
  induction ws generalizing x with
  | nil => simp [join] at cut
  | cons w ws ih =>
    have solid := (all w List.mem_cons_self).2
    have outside : ' ' ∉ w := fun inside => absurd (solid ' ' inside) (by decide)
    by_cases last : ws = []
    · subst last
      simp only [join] at cut
      exact absurd (by simp [cut]) outside
    · rw [join_cons [' '] w last, List.append_assoc] at cut
      obtain ⟨z, rfl, behind⟩ := exists_of_append_eq_append_cons outside cut
      cases z with
      | nil =>
        obtain ⟨-, rfl⟩ := List.cons.inj behind
        exact ⟨[w], ws, rfl, by simp, last, by simp [join], rfl⟩
      | cons d z =>
        obtain ⟨rfl, inner⟩ := List.cons.inj behind
        obtain ⟨us, vs, rfl, some, more, rfl, rfl⟩ :=
          ih (fun v member => all v (List.mem_cons_of_mem _ member)) inner
        refine ⟨w :: us, vs, rfl, by simp, more, ?_, rfl⟩
        rw [join_cons [' '] w some, List.append_assoc]
        rfl

/-- A keyword begins a text in normal form exactly if it begins the first word. -/
theorem begins_join_iff {keyword : String} (keyWord : IsKeyword keyword)
    (all : ∀ w ∈ ws, IsWord w) :
    Begins keyword (join [' '] ws) ↔ ∃ w ∈ ws.head?, Begins keyword w := by
  constructor
  · rintro ⟨u, v, cut, written⟩
    have word := written.isWord keyWord
    have outside : ' ' ∉ u := fun inside => absurd (word.2 ' ' inside) (by decide)
    rcases ws with _ | ⟨w, ws⟩
    · exact absurd (List.append_eq_nil_iff.mp cut.symm).1 word.1
    · refine ⟨w, rfl, u, ?_⟩
      by_cases last : ws = []
      · subst last
        exact ⟨v, cut, written⟩
      · rw [join_cons [' '] w last, List.append_assoc] at cut
        obtain ⟨z, front, -⟩ := exists_of_append_eq_append_cons outside cut.symm
        exact ⟨z, front, written⟩
  · rintro ⟨w, first, u, v, rfl, written⟩
    obtain ⟨rest, rfl⟩ := List.head?_eq_some_iff.mp first
    by_cases last : rest = []
    · subst last
      exact ⟨u, v, rfl, written⟩
    · exact ⟨u, v ++ ([' '] ++ join [' '] rest), by simp [join_cons [' '] _ last], written⟩

/-- A keyword with a space behind it is passed at the front of a text in normal form exactly if it
is the first word and not the last. -/
theorem afterOpening?_join_iff {keyword : String} (keyWord : IsKeyword keyword)
    (all : ∀ w ∈ ws, IsWord w) (r : List Char) :
    afterOpening? (keyword ++ " ") (join [' '] ws) = some r ↔
      ∃ w rest, ws = w :: rest ∧ rest ≠ [] ∧ Writes keyword w ∧ r = join [' '] rest := by
  rw [afterOpening?_iff keyWord.plain_spaced]
  simp only [writes_append_iff]
  constructor
  · rintro ⟨_, cut, u, v, rfl, written, space⟩
    obtain rfl := (writes_space_iff v).mp space
    rw [List.append_assoc] at cut
    obtain ⟨us, rest, rfl, _, more, rfl, rfl⟩ := exists_of_join_eq_append_space all cut
    -- The keyword is a word, so that only one word stands before the space.
    have words' : words (join [' '] us) = us := words_join fun w member => all w (by simp [member])
    rw [words_of_isWord (written.isWord keyWord)] at words'
    refine ⟨join [' '] us, rest, ?_, more, written, rfl⟩
    conv_lhs => rw [← words']
    rfl
  · rintro ⟨w, rest, rfl, more, written, rfl⟩
    have space : Writes " " [' '] := (writes_space_iff _).mpr rfl
    exact ⟨w ++ [' '], join_cons [' '] w more, w, [' '], rfl, written, space⟩

theorem reachesSource_iff (s : List Char) :
    reachesSource s = true ↔ ∃ x y, s = x ++ y ∧ x ≠ [] ∧ Begins " FROM" y := by
  have plain : IsCapital " FROM" := by decide
  induction s with
  | nil =>
    simp only [reachesSource, Bool.false_eq_true, false_iff, not_exists, not_and]
    intro x y cut some
    exact absurd (List.append_eq_nil_iff.mp cut.symm).1 some
  | cons c r ih =>
    rw [reachesSource, Bool.or_eq_true, opensWith_iff plain]
    constructor
    · rintro (here | later)
      · exact ⟨[c], r, rfl, by simp, here⟩
      · obtain ⟨x, y, rfl, _, source⟩ := ih.mp later
        exact ⟨c :: x, y, rfl, by simp, source⟩
    · rintro ⟨x, y, cut, some, source⟩
      obtain ⟨d, x, rfl⟩ := List.exists_cons_of_ne_nil some
      obtain ⟨rfl, rfl⟩ := List.cons.inj cut
      by_cases first : x = []
      · subst first
        exact .inl source
      · exact .inr (ih.mpr ⟨x, y, rfl, first, source⟩)

theorem mem_tail_iff {w : List Char} :
    w ∈ ws.tail ↔ ∃ us vs, us ≠ [] ∧ ws = us ++ w :: vs := by
  constructor
  · intro later
    cases ws with
    | nil => cases later
    | cons first rest =>
      obtain ⟨us, vs, rfl⟩ := List.append_of_mem later
      exact ⟨first :: us, vs, by simp, rfl⟩
  · rintro ⟨us, vs, some, rfl⟩
    rw [List.tail_append_of_ne_nil some]
    simp

/-- A source is reached in a text in normal form exactly if a word behind the first begins with
`FROM`. -/
theorem reachesSource_join_iff (all : ∀ w ∈ ws, IsWord w) :
    reachesSource (join [' '] ws) = true ↔ ∃ w ∈ ws.tail, Begins "FROM" w := by
  have keyWord : IsKeyword "FROM" := by decide
  rw [reachesSource_iff]
  constructor
  · rintro ⟨x, _, cut, _, _, v, rfl, written⟩
    obtain ⟨space, u, rfl, blank, source⟩ := (writes_append_iff " " "FROM" _).mp written
    obtain rfl := (writes_space_iff space).mp blank
    have cut' : join [' '] ws = x ++ ' ' :: (u ++ v) := by simpa using cut
    obtain ⟨us, vs, rfl, some, _, rfl, behind⟩ := exists_of_join_eq_append_space all cut'
    have others := (List.forall_mem_append.mp all).2
    obtain ⟨w, first, begins⟩ := (begins_join_iff keyWord others).mp ⟨u, v, behind.symm, source⟩
    obtain ⟨vs, rfl⟩ := List.head?_eq_some_iff.mp first
    exact ⟨w, mem_tail_iff.mpr ⟨us, vs, some, rfl⟩, begins⟩
  · rintro ⟨w, later, begins⟩
    obtain ⟨us, vs, some, rfl⟩ := mem_tail_iff.mp later
    obtain ⟨front, others⟩ := List.forall_mem_append.mp all
    obtain ⟨u, v, cut, written⟩ := (begins_join_iff keyWord others).mpr ⟨w, rfl, begins⟩
    have nonempty : join [' '] us ≠ [] := by
      obtain ⟨c, r, first, _⟩ := exists_cons_join some front
      simp [first]
    have space : Writes " " [' '] := (writes_space_iff _).mpr rfl
    have source : Writes " FROM" (' ' :: u) :=
      (writes_append_iff " " "FROM" _).mpr ⟨[' '], u, rfl, space, written⟩
    refine ⟨join [' '] us, ' ' :: join [' '] (w :: vs), ?_, nonempty, ' ' :: u, v, ?_, source⟩
    · rw [join_append [' '] some (by simp), List.append_assoc]
      rfl
    · rw [cut]
      rfl

theorem begins_append_iff {a b : String} (plain : IsCapital a) (s : List Char) :
    Begins (a ++ b) s ↔ ∃ r, afterOpening? a s = some r ∧ Begins b r := by
  simp only [afterOpening?_iff plain]
  constructor
  · rintro ⟨_, r, rfl, written⟩
    obtain ⟨u, v, rfl, front, back⟩ := (writes_append_iff a b _).mp written
    exact ⟨v ++ r, ⟨u, by rw [List.append_assoc], front⟩, v, r, rfl, back⟩
  · rintro ⟨_, ⟨u, rfl, front⟩, v, r, rfl, back⟩
    exact ⟨u ++ v, r, by rw [List.append_assoc], (writes_append_iff a b _).mpr
      ⟨u, v, rfl, front, back⟩⟩

theorem begins_spaced_join_iff {keyword b : String} (keyWord : IsKeyword keyword)
    (all : ∀ w ∈ ws, IsWord w) :
    Begins (keyword ++ " " ++ b) (join [' '] ws) ↔
      ∃ w rest, ws = w :: rest ∧ rest ≠ [] ∧ Writes keyword w ∧ Begins b (join [' '] rest) := by
  simp only [begins_append_iff keyWord.plain_spaced, afterOpening?_join_iff keyWord all]
  constructor
  · rintro ⟨_, ⟨w, rest, cut, more, written, rfl⟩, behind⟩
    exact ⟨w, rest, cut, more, written, behind⟩
  · rintro ⟨w, rest, cut, more, written, behind⟩
    exact ⟨_, ⟨w, rest, cut, more, written, rfl⟩, behind⟩

/-! ### Descriptions -/

/-- The words of a text select all columns: `SELECT`, a star, and a word that begins with `FROM`. -/
def SelectsAll (ws : List (List Char)) : Prop :=
  (∃ w ∈ ws[0]?, Writes "SELECT" w) ∧ ws[1]? = some ['*'] ∧ ∃ w ∈ ws[2]?, Begins "FROM" w

/-- The words of a text select columns: `SELECT`, and a word that begins with `FROM` behind at least
one other. -/
def Selects (ws : List (List Char)) : Prop :=
  (∃ w ∈ ws[0]?, Writes "SELECT" w) ∧ ∃ k, 2 ≤ k ∧ ∃ w ∈ ws[k]?, Begins "FROM" w

/-- The first word of a text begins with a keyword. -/
def Starts (keyword : String) (ws : List (List Char)) : Prop :=
  ∃ w ∈ ws[0]?, Begins keyword w

theorem opensWith_all_iff (all : ∀ w ∈ ws, IsWord w) :
    opensWith "SELECT * FROM" (join [' '] ws) = true ↔ SelectsAll ws := by
  have parts : "SELECT * FROM" = "SELECT" ++ " " ++ ("*" ++ " " ++ "FROM") := rfl
  rw [opensWith_iff (by decide), parts, begins_spaced_join_iff (by decide) all]
  constructor
  · rintro ⟨w, rest, rfl, _, select, behind⟩
    obtain ⟨-, others⟩ := List.forall_mem_cons.mp all
    obtain ⟨v, rest, rfl, _, star, source⟩ :=
      (begins_spaced_join_iff (by decide) others).mp behind
    obtain rfl := (writes_singleton_iff (k := '*') (by decide) v).mp star
    obtain ⟨-, last⟩ := List.forall_mem_cons.mp others
    obtain ⟨u, first, begins⟩ := (begins_join_iff (by decide) last).mp source
    rw [List.head?_eq_getElem?] at first
    exact ⟨⟨w, rfl, select⟩, rfl, u, first, begins⟩
  · rintro ⟨⟨w, atFirst, select⟩, atStar, u, atSource, begins⟩
    obtain ⟨v, v', u', rest, rfl⟩ : ∃ v v' u' rest, ws = v :: v' :: u' :: rest := by
      rcases ws with _ | ⟨v, _ | ⟨v', _ | ⟨u', rest⟩⟩⟩ <;> simp at atSource
      exact ⟨v, v', u', rest, rfl⟩
    obtain rfl : v = w := by simpa using atFirst
    obtain rfl : v' = ['*'] := by simpa using atStar
    obtain rfl : u' = u := by simpa using atSource
    obtain ⟨-, others⟩ := List.forall_mem_cons.mp all
    obtain ⟨-, last⟩ := List.forall_mem_cons.mp others
    refine ⟨v, _, rfl, by simp, select, ?_⟩
    rw [begins_spaced_join_iff (by decide) others]
    exact ⟨['*'], _, rfl, by simp, by decide, (begins_join_iff (by decide) last).mpr
      ⟨u', rfl, begins⟩⟩

theorem reaches_iff (all : ∀ w ∈ ws, IsWord w) :
    (afterOpening? "SELECT " (join [' '] ws)).any reachesSource = true ↔ Selects ws := by
  have parts : "SELECT " = "SELECT" ++ " " := rfl
  have select_iff (r : List Char) :
      afterOpening? ("SELECT" ++ " ") (join [' '] ws) = some r ↔ ∃ w rest,
        ws = w :: rest ∧ rest ≠ [] ∧ Writes "SELECT" w ∧ r = join [' '] rest :=
    afterOpening?_join_iff (by decide) all r
  rw [Option.any_eq_true, parts]
  simp only [select_iff]
  constructor
  · rintro ⟨_, ⟨w, rest, rfl, _, written, rfl⟩, reached⟩
    obtain ⟨-, others⟩ := List.forall_mem_cons.mp all
    obtain ⟨u, later, begins⟩ := (reachesSource_join_iff others).mp reached
    obtain ⟨k, inside⟩ := List.mem_iff_getElem?.mp later
    refine ⟨⟨w, rfl, written⟩, k + 2, by omega, u, ?_, begins⟩
    simpa [List.getElem?_tail] using inside
  · rintro ⟨⟨w, atFirst, written⟩, k, two, u, inside, begins⟩
    obtain ⟨rest, rfl⟩ : ∃ rest, ws = w :: rest := by
      rcases ws with _ | ⟨v, rest⟩
      · simp at atFirst
      · obtain rfl : v = w := by simpa using atFirst
        exact ⟨rest, rfl⟩
    obtain ⟨-, others⟩ := List.forall_mem_cons.mp all
    obtain ⟨k, rfl⟩ := Nat.exists_eq_add_of_le' two
    have later : u ∈ rest.tail := by
      refine List.mem_iff_getElem?.mpr ⟨k, ?_⟩
      simpa [List.getElem?_tail] using inside
    have some : rest ≠ [] := by
      rintro rfl
      cases later
    exact ⟨_, ⟨w, rest, rfl, some, written, rfl⟩,
      (reachesSource_join_iff others).mpr ⟨u, later, begins⟩⟩

theorem opensWith_join_iff {keyword : String} (keyWord : IsKeyword keyword)
    (all : ∀ w ∈ ws, IsWord w) :
    opensWith keyword (join [' '] ws) = true ↔ Starts keyword ws := by
  rw [opensWith_iff keyWord.plain, begins_join_iff keyWord all, Starts, List.head?_eq_getElem?]

-- A character has one capital form, so that keywords of different first letters exclude each other.
theorem Starts.first_eq {a b : String} {k l : Char} {ks ls : List Char} (starts : Starts a ws)
    (starts' : Starts b ws) (spelled : a.toList = k :: ks) (spelled' : b.toList = l :: ls) :
    k = l := by
  obtain ⟨_, first, u, v, rfl, written⟩ := starts
  obtain ⟨_, first', u', v', rfl, written'⟩ := starts'
  rw [Writes, spelled] at written
  rw [Writes, spelled'] at written'
  obtain ⟨c, w, rfl, upper, -⟩ := List.map_eq_cons_iff.mp written
  obtain ⟨d, w', rfl, upper', -⟩ := List.map_eq_cons_iff.mp written'
  have same := Option.some.inj (first.symm.trans first')
  rw [List.cons_append, List.cons_append] at same
  rw [← upper, ← upper', (List.cons.inj same).1]

theorem Kind.sentence_injective : Function.Injective Kind.sentence := by
  intro a b same
  cases a <;> cases b <;> first | rfl | exact absurd same (by decide)

/-- What the words of a text tell of it, where the first condition that they meet decides. -/
structure Kind.ToldBy (kind : Kind) (ws : List (List Char)) : Prop where
  allColumns : kind = .allColumns ↔ SelectsAll ws
  someColumns : kind = .someColumns ↔ ¬SelectsAll ws ∧ Selects ws
  insertion : kind = .insertion ↔ ¬SelectsAll ws ∧ ¬Selects ws ∧ Starts "INSERT" ws
  update : kind = .update ↔ ¬SelectsAll ws ∧ ¬Selects ws ∧ Starts "UPDATE" ws
  deletion : kind = .deletion ↔ ¬SelectsAll ws ∧ ¬Selects ws ∧ Starts "DELETE" ws
  other : kind = .other ↔ ¬SelectsAll ws ∧ ¬Selects ws ∧ ¬Starts "INSERT" ws ∧
    ¬Starts "UPDATE" ws ∧ ¬Starts "DELETE" ws

theorem kindOf_join (all : ∀ w ∈ ws, IsWord w) : (kindOf (join [' '] ws)).ToldBy ws := by
  have apart {a b : String} {k l : Char} {ks ls : List Char} (spelled : a.toList = k :: ks)
      (spelled' : b.toList = l :: ls) (other : k ≠ l) (starts : Starts a ws) : ¬Starts b ws :=
    fun starts' => other (starts.first_eq starts' spelled spelled')
  have insert_iff : opensWith "INSERT" (join [' '] ws) = true ↔ Starts "INSERT" ws :=
    opensWith_join_iff (by decide) all
  have update_iff : opensWith "UPDATE" (join [' '] ws) = true ↔ Starts "UPDATE" ws :=
    opensWith_join_iff (by decide) all
  have delete_iff : opensWith "DELETE" (join [' '] ws) = true ↔ Starts "DELETE" ws :=
    opensWith_join_iff (by decide) all
  rw [kindOf]
  by_cases columns : SelectsAll ws
  · rw [if_pos ((opensWith_all_iff all).mpr columns)]
    constructor <;> simp [columns]
  rw [if_neg (mt (opensWith_all_iff all).mp columns)]
  by_cases select : Selects ws
  · rw [if_pos ((reaches_iff all).mpr select)]
    constructor <;> simp [columns, select]
  rw [if_neg (mt (reaches_iff all).mp select)]
  by_cases insert : Starts "INSERT" ws
  · have notUpdate : ¬Starts "UPDATE" ws := apart rfl rfl (by decide) insert
    have notDelete : ¬Starts "DELETE" ws := apart rfl rfl (by decide) insert
    rw [if_pos (insert_iff.mpr insert)]
    constructor <;> simp [columns, select, insert, notUpdate, notDelete]
  rw [if_neg (mt insert_iff.mp insert)]
  by_cases update : Starts "UPDATE" ws
  · have notDelete : ¬Starts "DELETE" ws := apart rfl rfl (by decide) update
    rw [if_pos (update_iff.mpr update)]
    constructor <;> simp [columns, select, insert, update, notDelete]
  rw [if_neg (mt update_iff.mp update)]
  by_cases delete : Starts "DELETE" ws
  · rw [if_pos (delete_iff.mpr delete)]
    constructor <;> simp [columns, select, insert, update, delete]
  rw [if_neg (mt delete_iff.mp delete)]
  constructor <;> simp [columns, select, insert, update, delete]

/-- Any text is described by its words, and different kinds are described differently. -/
theorem describe_words (text : String) :
    ∃ ws kind, Reads text.toList ws ∧ (Service.describe text).outcome = .ok kind ∧
      kind.ToldBy ws ∧ Function.Injective Kind.sentence := by
  refine ⟨words text.toList, _, (reads_iff _ _).mpr rfl, Service.outcome_describe text, ?_,
    Kind.sentence_injective⟩
  exact kindOf_join fun _ => isWord_of_mem_words

-- A word that begins with `FROM` need not be `FROM`, and one directly behind `SELECT` is none.
example : Kind.ofText "ſelect * fromage" = .allColumns ∧ Kind.ofText "SELECT FROM x" = .other ∧
    Kind.ofText " ınserted" = .insertion := by decide

end TableTalk.Statement
