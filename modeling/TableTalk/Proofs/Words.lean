import TableTalk.Text.Blank
import Mathlib

/-!
# TableTalk.Proofs.Words

The words of a text, and the two readings that throw blanks away.

## Main results

- `reads_iff`: `words` cuts a text exactly as a reader does who passes blanks and takes each word up
  to the next blank.
- `words_append_cons`: words split at a blank. All that is said here of words follows from it.
- `isNormal_collapse`: in the normal form of a text the only blank is the space, and each space
  stands between two characters that are not blank.
- `words_collapse`, `words_trim`: neither reading changes the words.
-/

namespace TableTalk.Text

-- The library can also decide this along all characters there are, which takes too long and must
-- not be tried first.
instance decidableForallMem (p : Char → Prop) [DecidablePred p] (s : List Char) :
    Decidable (∀ c ∈ s, p c) :=
  List.decidableBAll p s

/-! ### Runs at the front of a text -/

theorem takeWhile_append_stop {p : Char → Bool} {w t : List Char} (inside : ∀ c ∈ w, p c = true)
    (outside : ∀ c ∈ t.head?, p c = false) : (w ++ t).takeWhile p = w := by
  rw [List.takeWhile_append_of_pos inside]
  cases t with
  | nil => simp
  | cons c t => simp [outside c rfl]

theorem dropWhile_append_stop {p : Char → Bool} {w t : List Char} (inside : ∀ c ∈ w, p c = true)
    (outside : ∀ c ∈ t.head?, p c = false) : (w ++ t).dropWhile p = t := by
  rw [List.dropWhile_append_of_pos inside]
  cases t with
  | nil => rfl
  | cons c t => simp [outside c rfl]

/-! ### Blanks -/

theorem isBlank_space : isBlank ' ' = true := by decide

theorem isBlank_iff_mem (c : Char) : isBlank c = true ↔ c ∈ blanks :=
  List.contains_iff_mem

/-- A character with a property that no blank has is not blank. -/
theorem isBlank_eq_false_of {p : Char → Bool} (apart : ∀ b ∈ blanks, p b = false) {c : Char}
    (holds : p c = true) : isBlank c = false := by
  by_contra blank
  have member : c ∈ blanks := (isBlank_iff_mem c).mp (by simpa using blank)
  rw [apart c member] at holds
  cases holds

/-! ### Words -/

/-- A word has at least one character, and no blank. -/
def IsWord (w : List Char) : Prop :=
  w ≠ [] ∧ ∀ c ∈ w, isBlank c = false

instance (w : List Char) : Decidable (IsWord w) :=
  inferInstanceAs (Decidable (_ ∧ _))

/-- What a reader takes from a text: blanks are passed, and behind them a word is taken up to the
next blank or the end. -/
inductive Reads : List Char → List (List Char) → Prop
  | done {b : List Char} : (∀ c ∈ b, isBlank c = true) → Reads b []
  | word {b w r : List Char} {ws : List (List Char)} : (∀ c ∈ b, isBlank c = true) → IsWord w →
      (∀ c ∈ r.head?, isBlank c = true) → Reads r ws → Reads (b ++ w ++ r) (w :: ws)

/-- A change of letters that keeps the blanks makes words of words only. -/
theorem IsWord.of_map {f : Char → Char} (kept : ∀ b ∈ blanks, f b = b) {w : List Char}
    (word : IsWord (w.map f)) : IsWord w := by
  obtain ⟨nonempty, solid⟩ := word
  refine ⟨by simpa using nonempty, fun c member => ?_⟩
  have changed := solid (f c) (List.mem_map_of_mem member)
  -- A blank would be kept, and stand in the word.
  by_contra blank
  have kept' : f c = c := kept c ((isBlank_iff_mem c).mp (by simpa using blank))
  rw [kept'] at changed
  exact blank changed

theorem pieces_ne_nil (s : List Char) : pieces s ≠ [] := by
  cases s with
  | nil => simp [pieces]
  | cons c r =>
    simp only [pieces]
    split
    · simp
    · split <;> simp

theorem pieces_append_cons (x y : List Char) {c : Char} (blank : isBlank c = true) :
    pieces (x ++ c :: y) = pieces x ++ pieces y := by
  induction x with
  | nil => simp [pieces, blank]
  | cons a x ih =>
    simp only [List.cons_append, pieces, ih]
    split
    · rfl
    · obtain ⟨p, ps, first⟩ := List.exists_cons_of_ne_nil (pieces_ne_nil x)
      simp [first]

theorem words_append_cons (x y : List Char) {c : Char} (blank : isBlank c = true) :
    words (x ++ c :: y) = words x ++ words y := by
  rw [words, pieces_append_cons x y blank, List.filter_append]
  rfl

@[simp] theorem words_nil : words [] = [] := rfl

theorem words_cons (y : List Char) {c : Char} (blank : isBlank c = true) :
    words (c :: y) = words y :=
  words_append_cons [] y blank

-- Blanks belong to no word.
theorem words_eq_nil_iff (s : List Char) : words s = [] ↔ ∀ c ∈ s, isBlank c = true := by
  induction s with
  | nil => simp
  | cons a s ih =>
    by_cases blank : isBlank a = true
    · simp [words_cons s blank, ih, blank]
    · obtain ⟨p, ps, first⟩ := List.exists_cons_of_ne_nil (pieces_ne_nil s)
      simp [words, pieces, blank, first]

theorem words_blanks_append (b s : List Char) (blanks : ∀ c ∈ b, isBlank c = true) :
    words (b ++ s) = words s := by
  induction b with
  | nil => rfl
  | cons a b ih =>
    rw [List.cons_append, words_cons _ (blanks a List.mem_cons_self)]
    exact ih fun c hc => blanks c (List.mem_cons_of_mem _ hc)

theorem words_append_blanks (s b : List Char) (blanks : ∀ c ∈ b, isBlank c = true) :
    words (s ++ b) = words s := by
  cases b with
  | nil => simp
  | cons a b =>
    have rest : words b = [] :=
      (words_eq_nil_iff b).mpr fun c hc => blanks c (List.mem_cons_of_mem _ hc)
    rw [words_append_cons s b (blanks a List.mem_cons_self), rest, List.append_nil]

theorem words_of_isWord {w : List Char} (word : IsWord w) : words w = [w] := by
  obtain ⟨nonempty, solid⟩ := word
  have whole : pieces w = [w] := by
    -- A word that is taken apart may end in nothing, and the induction passes through that.
    clear nonempty
    induction w with
    | nil => rfl
    | cons a w ih =>
      have tail := ih fun c hc => solid c (List.mem_cons_of_mem _ hc)
      simp [pieces, solid a List.mem_cons_self, tail]
  simp [words, whole, nonempty]

-- A word at the front of a text, up to a blank or the end, is its first word.
theorem words_isWord_append {w r : List Char} (word : IsWord w)
    (ends : ∀ c ∈ r.head?, isBlank c = true) : words (w ++ r) = w :: words r := by
  cases r with
  | nil => simp [words_of_isWord word]
  | cons c r =>
    have blank : isBlank c = true := ends c rfl
    rw [words_append_cons w r blank, words_of_isWord word, words_cons r blank]
    rfl

theorem isWord_of_mem_words {s w : List Char} (member : w ∈ words s) : IsWord w := by
  obtain ⟨piece, nonempty⟩ := List.mem_filter.mp member
  refine ⟨by simpa using nonempty, ?_⟩
  clear member nonempty
  induction s generalizing w with
  | nil =>
    simp only [pieces, List.mem_singleton] at piece
    simp [piece]
  | cons a s ih =>
    obtain ⟨p, ps, first⟩ := List.exists_cons_of_ne_nil (pieces_ne_nil s)
    simp only [pieces, first] at piece ih
    split at piece
    · rcases List.mem_cons.mp piece with rfl | old
      · simp
      · exact ih old
    · next solid =>
      rcases List.mem_cons.mp piece with rfl | old
      · simp only [List.mem_cons, forall_eq_or_imp]
        exact ⟨by simpa using solid, ih List.mem_cons_self⟩
      · exact ih (List.mem_cons_of_mem _ old)

theorem Reads.words_eq {s : List Char} {ws : List (List Char)} (h : Reads s ws) :
    words s = ws := by
  induction h with
  | done blanks => exact (words_eq_nil_iff _).mpr blanks
  | word blanks word ends _ ih =>
    rw [List.append_assoc, words_blanks_append _ _ blanks, words_isWord_append word ends, ih]

theorem Reads.cons_blank {a : Char} {s : List Char} {ws : List (List Char)}
    (blank : isBlank a = true) (h : Reads s ws) : Reads (a :: s) ws := by
  cases h with
  | done blanks => exact .done (by simpa [blank] using blanks)
  | @word b w r ws blanks word ends rest =>
    exact .word (b := a :: b) (by simpa [blank] using blanks) word ends rest

-- A character that is not blank joins the word behind it, or is a word of its own.
theorem Reads.cons_solid {a : Char} {s : List Char} {ws : List (List Char)}
    (solid : isBlank a = false) (h : Reads s ws) : ∃ vs, Reads (a :: s) vs := by
  have alone : IsWord [a] := ⟨by simp, by simpa using solid⟩
  cases h with
  | done blanks =>
    refine ⟨[[a]], .word (b := []) (w := [a]) (by simp) alone ?_ (.done blanks)⟩
    exact fun c hc => blanks c (List.mem_of_mem_head? hc)
  | @word b w r ws blanks word ends rest =>
    cases b with
    | nil =>
      have longer : IsWord (a :: w) := ⟨by simp, by simpa [solid] using word.2⟩
      exact ⟨(a :: w) :: ws, .word (b := []) (by simp) longer ends rest⟩
    | cons c b =>
      have ends' : ∀ d ∈ (c :: b ++ w ++ r).head?, isBlank d = true := by
        simpa using blanks c List.mem_cons_self
      exact ⟨[a] :: w :: ws, .word (b := []) (w := [a]) (by simp) alone ends'
        (.word blanks word ends rest)⟩

theorem exists_reads (s : List Char) : ∃ ws, Reads s ws := by
  induction s with
  | nil => exact ⟨[], .done (by simp)⟩
  | cons a s ih =>
    obtain ⟨ws, h⟩ := ih
    by_cases blank : isBlank a = true
    · exact ⟨ws, h.cons_blank blank⟩
    · exact h.cons_solid (by simpa using blank)

/-- The words of a text are those that a reader takes from it, and no others. -/
theorem reads_iff (s : List Char) (ws : List (List Char)) : Reads s ws ↔ words s = ws := by
  constructor
  · exact Reads.words_eq
  · rintro rfl
    obtain ⟨ws, h⟩ := exists_reads s
    rwa [h.words_eq]

/-! ### Trimming -/

theorem trim_append_blanks (s b : List Char) (blanks : ∀ c ∈ b, isBlank c = true) :
    trim (s ++ b) = trim s := by
  have back : ∀ t, trimEnd (t ++ b) = trimEnd t := fun t => by
    have reversed : ∀ c ∈ b.reverse, isBlank c = true := by simpa using blanks
    rw [trimEnd, List.reverse_append, List.dropWhile_append_of_pos reversed, trimEnd]
  -- If all of the text is blank, the blanks at its front reach into those behind it.
  by_cases all : ∀ c ∈ s, isBlank c = true
  · have front : b.dropWhile isBlank = [] := List.dropWhile_eq_nil_iff.mpr blanks
    have none : s.dropWhile isBlank = [] := List.dropWhile_eq_nil_iff.mpr all
    rw [trim, trim, List.dropWhile_append_of_pos all, front, none]
  · have some : s.dropWhile isBlank ≠ [] := fun h => all (List.dropWhile_eq_nil_iff.mp h)
    rw [trim, List.dropWhile_append, if_neg (by simpa using some), back, trim]

/-- Blanks around a text do not show in its trimmed form. -/
theorem trim_padded (b s b' : List Char) (blanks : ∀ c ∈ b, isBlank c = true)
    (blanks' : ∀ c ∈ b', isBlank c = true) : trim (b ++ s ++ b') = trim s := by
  rw [trim_append_blanks _ _ blanks', trim, List.dropWhile_append_of_pos blanks, trim]

/-- What trimming takes away is blank. -/
theorem exists_eq_trim_padded (s : List Char) : ∃ b b', s = b ++ trim s ++ b' ∧
    (∀ c ∈ b, isBlank c = true) ∧ ∀ c ∈ b', isBlank c = true := by
  let t := s.dropWhile isBlank
  refine ⟨s.takeWhile isBlank, (t.reverse.takeWhile isBlank).reverse, ?_, ?_, ?_⟩
  · have back := List.takeWhile_append_dropWhile (p := isBlank) (l := t.reverse)
    have cut : trim s ++ (t.reverse.takeWhile isBlank).reverse = t := by
      rw [trim, trimEnd, ← List.reverse_append, back, List.reverse_reverse]
    rw [List.append_assoc, cut, List.takeWhile_append_dropWhile]
  · exact fun c hc => List.mem_takeWhile_imp hc
  · exact fun c hc => List.mem_takeWhile_imp (List.mem_reverse.mp hc)

@[simp] theorem words_trim (s : List Char) : words (trim s) = words s := by
  obtain ⟨b, b', cut, blanks, blanks'⟩ := exists_eq_trim_padded s
  have whole := congrArg words cut
  rw [words_append_blanks _ _ blanks', words_blanks_append _ _ blanks] at whole
  exact whole.symm

/-- A text without blanks at its ends is trimmed to itself. -/
theorem trim_eq_self {s : List Char} (front : ∀ c ∈ s.head?, isBlank c = false)
    (back : ∀ c ∈ s.getLast?, isBlank c = false) : trim s = s := by
  obtain ⟨b, b', cut, blanks, blanks'⟩ := exists_eq_trim_padded s
  have noFront : b = [] := by
    cases b with
    | nil => rfl
    | cons c b =>
      have solid := front c (by rw [cut]; simp)
      rw [blanks c List.mem_cons_self] at solid
      cases solid
  have noBack : b' = [] := by
    rcases List.eq_nil_or_concat b' with none | ⟨b', c, rfl⟩
    · exact none
    · have solid := back c (by rw [cut]; simp)
      rw [blanks' c (by simp)] at solid
      cases solid
  rw [noFront, noBack, List.nil_append, List.append_nil] at cut
  exact cut.symm

theorem front_dropWhile (s : List Char) :
    ∀ c ∈ (s.dropWhile isBlank).head?, isBlank c = false := by
  intro c first
  have stop := List.head?_dropWhile_not isBlank s
  rw [first] at stop
  exact stop

theorem front_trim (s : List Char) : ∀ c ∈ (trim s).head?, isBlank c = false := by
  intro c first
  obtain ⟨t, cut⟩ : trim s <+: s.dropWhile isBlank :=
    List.reverse_suffix.mp (by simpa [trim, trimEnd] using List.dropWhile_suffix isBlank)
  refine front_dropWhile s c ?_
  rw [← cut, List.head?_append, first]
  rfl

theorem back_trim (s : List Char) : ∀ c ∈ (trim s).getLast?, isBlank c = false := by
  intro c last
  rw [trim, trimEnd, List.getLast?_reverse] at last
  exact front_dropWhile _ c last

/-- A text is trimmed to nothing exactly if it has no words. -/
theorem trim_eq_nil_iff (s : List Char) : trim s = [] ↔ words s = [] := by
  constructor
  · intro empty
    rw [← words_trim, empty, words_nil]
  · intro none
    have all : s.dropWhile isBlank = [] :=
      List.dropWhile_eq_nil_iff.mpr ((words_eq_nil_iff s).mp none)
    rw [trim, all]
    rfl

/-! ### The normal form -/

theorem join_cons (sep t : List Char) {ts : List (List Char)} (more : ts ≠ []) :
    join sep (t :: ts) = t ++ sep ++ join sep ts := by
  cases ts with
  | nil => contradiction
  | cons u ts => rfl

theorem join_eq_intercalate (sep : List Char) (ts : List (List Char)) :
    join sep ts = sep.intercalate ts := by
  induction ts with
  | nil => rfl
  | cons t ts ih =>
    cases ts with
    | nil => simp [join]
    | cons u ts => rw [join, ih, List.intercalate_cons_cons]

theorem join_append (sep : List Char) {ts us : List (List Char)} (some : ts ≠ [])
    (more : us ≠ []) : join sep (ts ++ us) = join sep ts ++ sep ++ join sep us := by
  induction ts with
  | nil => contradiction
  | cons t ts ih =>
    cases ts with
    | nil => simpa [join] using join_cons sep t more
    | cons u ts =>
      have rest := ih (by simp)
      rw [List.cons_append, join_cons sep t (by simp), rest, join_cons sep t (by simp)]
      simp only [List.append_assoc]

theorem splitOnP_join {p : Char → Bool} {c : Char} (stop : p c = true)
    {lines : List (List Char)} (some : lines ≠ []) :
    (join [c] lines).splitOnP p = lines.flatMap (·.splitOnP p) := by
  induction lines with
  | nil => exact absurd rfl some
  | cons line lines ih =>
    by_cases last : lines = []
    · subst last
      simp [join]
    · rw [join_cons _ _ last, List.append_assoc, List.singleton_append,
        List.splitOnP_append_cons _ _ stop, ih last, List.flatMap_cons]

theorem words_join {ws : List (List Char)} (all : ∀ w ∈ ws, IsWord w) :
    words (join [' '] ws) = ws := by
  induction ws with
  | nil => rfl
  | cons w ws ih =>
    have word := all w List.mem_cons_self
    have rest := ih fun v hv => all v (List.mem_cons_of_mem _ hv)
    cases ws with
    | nil => exact words_of_isWord word
    | cons v vs =>
      rw [join_cons [' '] w (by simp), List.append_assoc, List.singleton_append,
        words_append_cons w _ isBlank_space, words_of_isWord word, rest]
      rfl

/-- The only blank is the space, and each space stands behind the front of the text and before a
character that is not blank. -/
def IsNormal (s : List Char) : Prop :=
  ∀ x b y, s = x ++ b :: y → isBlank b = true →
    b = ' ' ∧ x ≠ [] ∧ ∃ c r, y = c :: r ∧ isBlank c = false

-- A character that does not occur in the front part of a text stands behind that part.
theorem exists_of_append_eq_append_cons {w r x y : List Char} {b : Char} (outside : b ∉ w)
    (cut : w ++ r = x ++ b :: y) : ∃ z, x = w ++ z ∧ r = z ++ b :: y := by
  rcases List.append_eq_append_iff.mp cut with ⟨z, front, back⟩ | ⟨z, front, back⟩
  · exact ⟨z, front, back⟩
  · cases z with
    | nil => exact ⟨[], by simpa using front.symm, by simpa using back.symm⟩
    | cons d z =>
      obtain ⟨rfl, -⟩ := List.cons.inj back
      exact absurd (by simp [front]) outside

theorem exists_cons_join {ws : List (List Char)} (some : ws ≠ []) (all : ∀ w ∈ ws, IsWord w) :
    ∃ c r, join [' '] ws = c :: r ∧ isBlank c = false := by
  obtain ⟨w, vs, rfl⟩ := List.exists_cons_of_ne_nil some
  obtain ⟨nonempty, solid⟩ := all w List.mem_cons_self
  obtain ⟨c, t, rfl⟩ := List.exists_cons_of_ne_nil nonempty
  have first := solid c List.mem_cons_self
  cases vs with
  | nil => exact ⟨c, t, rfl, first⟩
  | cons v vs => exact ⟨c, _, rfl, first⟩

theorem isNormal_join {ws : List (List Char)} (all : ∀ w ∈ ws, IsWord w) :
    IsNormal (join [' '] ws) := by
  induction ws with
  | nil =>
    intro x b y cut
    simp [join] at cut
  | cons w ws ih =>
    obtain ⟨nonempty, solid⟩ := all w List.mem_cons_self
    have others : ∀ v ∈ ws, IsWord v := fun v hv => all v (List.mem_cons_of_mem _ hv)
    intro x b y cut blank
    have outside : b ∉ w := fun inside => by simp [solid b inside] at blank
    -- The blank lies in no word, so it is the space behind the first one or stands further on.
    by_cases last : ws = []
    · subst last
      simp only [join] at cut
      exact absurd (by simp [cut]) outside
    · rw [join_cons [' '] w last, List.append_assoc] at cut
      obtain ⟨z, rfl, behind⟩ := exists_of_append_eq_append_cons outside cut
      refine (?_ : b = ' ' ∧ _).imp_right fun next => ⟨by simp [nonempty], next⟩
      cases z with
      | nil =>
        obtain ⟨rfl, rfl⟩ := List.cons.inj behind
        exact ⟨rfl, exists_cons_join last others⟩
      | cons d z =>
        obtain ⟨-, inner⟩ := List.cons.inj behind
        obtain ⟨space, -, next⟩ := ih others z b y inner blank
        exact ⟨space, next⟩

/-- The normal form of a text has its words. -/
@[simp] theorem words_collapse (s : List Char) : words (collapse s) = words s :=
  words_join fun _ => isWord_of_mem_words

theorem isNormal_collapse (s : List Char) : IsNormal (collapse s) :=
  isNormal_join fun _ => isWord_of_mem_words

/-- The normal form depends on the words alone. -/
theorem collapse_eq_of_words_eq {s t : List Char} (same : words s = words t) :
    collapse s = collapse t :=
  congrArg (join [' ']) same

-- A blank in a text in normal form is followed by a character that is not blank.
theorem IsNormal.behind_space {s x y : List Char} (normal : IsNormal s) (cut : s = x ++ ' ' :: y) :
    ∃ c r, y = c :: r ∧ isBlank c = false :=
  (normal x ' ' y cut (by decide)).2.2

-- In a text in normal form a part behind a space holds a word.
theorem words_ne_nil_behind_space {s x p y : List Char} (normal : IsNormal s)
    (cut : s = x ++ ' ' :: (p ++ y)) (some : p ≠ []) : words p ≠ [] := by
  obtain ⟨c, r, next, solid⟩ := normal.behind_space cut
  obtain ⟨d, p, rfl⟩ := List.exists_cons_of_ne_nil some
  obtain ⟨rfl, -⟩ := List.cons.inj next
  intro none
  have blank := (words_eq_nil_iff _).mp none d List.mem_cons_self
  simp [solid] at blank

theorem IsNormal.oneLine {s : List Char} (normal : IsNormal s) : '\n' ∉ s := by
  intro inside
  obtain ⟨x, y, cut⟩ := List.append_of_mem inside
  obtain ⟨space, -⟩ := normal x '\n' y cut (by decide)
  cases space

end TableTalk.Text
