import TableTalk.Proofs.Keywords
import TableTalk.Statement.Grammar

/-!
# TableTalk.Proofs.Grammar

What the check of a statement accepts, said in words and said in characters.

## Main result

`accepts_iff`: a text is accepted exactly if its words are those of a statement, and exactly if its
normal form has the shape of one.

## Proof strategy

The check looks for `FROM` at every character in turn. A character-level shape (`HasForm`) lists the
parts of an accepted text and says nothing of the search. Because a word splits at a blank
(`words_append_cons`), the parts of the shape are runs of words; because no blank of a normal form
is followed by another one, the projection and the predicate hold at least one word each.
-/

namespace TableTalk.Statement

open Text

/-! ### The two descriptions -/

/-- The words of a statement: a verb; `FROM` behind at least one more word; the name of a table; and
nothing, or `WHERE` and at least one word. -/
def IsStatement (ws : List (List Char)) : Prop :=
  (∃ verb ∈ verbs, ∃ w ∈ ws[0]?, Spells verb w) ∧
  ∃ k, 2 ≤ k ∧ (∃ w ∈ ws[k]?, Spells "FROM" w) ∧
    (∃ w ∈ ws[k + 1]?, ∀ c ∈ w, isNameChar c = true) ∧
    (ws.length = k + 2 ∨ (∃ w ∈ ws[k + 2]?, Spells "WHERE" w) ∧ k + 3 < ws.length)

/-- The words of a source: `FROM`, the name of a table, and nothing, or `WHERE` and at least one
word. -/
def IsSourceWords (ts : List (List Char)) : Prop :=
  ∃ f n e, ts = f :: n :: e ∧ Spells "FROM" f ∧ (∀ c ∈ n, isNameChar c = true) ∧
    (e = [] ∨ ∃ w q, e = w :: q ∧ Spells "WHERE" w ∧ q ≠ [])

/-- At least one character, on one line. -/
def IsLine (s : List Char) : Prop :=
  s ≠ [] ∧ '\n' ∉ s

/-- Nothing, or `WHERE` between spaces and a predicate. -/
def IsEnding (s : List Char) : Prop :=
  s = [] ∨ ∃ w q, s = ' ' :: w ++ ' ' :: q ∧ Spells "WHERE" w ∧ IsLine q

/-- `FROM` between spaces, the name of a table, and an ending. -/
def IsTail (s : List Char) : Prop :=
  ∃ f n e, s = ' ' :: f ++ ' ' :: n ++ e ∧ Spells "FROM" f ∧ n ≠ [] ∧
    (∀ c ∈ n, isNameChar c = true) ∧ IsEnding e

/-- A verb, a space, a projection, and a tail. -/
def HasForm (s : List Char) : Prop :=
  ∃ verb ∈ verbs, ∃ v p t, s = v ++ ' ' :: p ++ t ∧ Spells verb v ∧ IsLine p ∧ IsTail t

/-! ### The check in characters -/

private theorem afterWord?_spaced_iff (keyword : String)
    (capitals : ∀ k ∈ keyword.toList, k.isLower = false) (s r : List Char) :
    afterWord? (" " ++ keyword ++ " ") s = some r ↔
      ∃ w, s = ' ' :: w ++ ' ' :: r ∧ Spells keyword w := by
  have capitals' : ∀ k ∈ (" " ++ keyword ++ " ").toList, k.isLower = false := by
    simpa [String.toList_append, or_imp, forall_and] using capitals
  rw [afterWord?, afterKeyword?_ascii_iff capitals']
  simp only [spells_append_iff, spells_space_iff]
  constructor
  · rintro ⟨_, rfl, _, _, rfl, ⟨_, w, rfl, rfl, spelled⟩, rfl⟩
    exact ⟨w, by simp, spelled⟩
  · rintro ⟨w, rfl, spelled⟩
    exact ⟨' ' :: w ++ [' '], by simp, ' ' :: w, [' '], rfl, ⟨[' '], w, rfl, rfl, spelled⟩, rfl⟩

theorem afterWord?_verb_iff {verb : String} (member : verb ∈ verbs) (s r : List Char) :
    afterWord? (verb ++ " ") s = some r ↔ ∃ v, s = v ++ ' ' :: r ∧ Spells verb v := by
  have capitals : ∀ verb ∈ verbs, ∀ k ∈ (verb ++ " ").toList, k.isLower = false := by decide
  rw [afterWord?, afterKeyword?_ascii_iff (capitals verb member)]
  simp only [spells_append_iff, spells_space_iff]
  constructor
  · rintro ⟨_, rfl, v, _, rfl, spelled, rfl⟩
    exact ⟨v, by simp, spelled⟩
  · rintro ⟨v, rfl, spelled⟩
    exact ⟨v ++ [' '], by simp, v, [' '], rfl, spelled, rfl⟩

theorem isCondition_iff {s : List Char} (line : '\n' ∉ s) :
    isCondition s = true ↔ IsEnding s := by
  have where_iff := afterWord?_spaced_iff "WHERE" (by decide) s
  rw [isCondition, Bool.or_eq_true, List.isEmpty_iff, IsEnding, Option.any_eq_true]
  refine or_congr_right ?_
  constructor
  · rintro ⟨q, found, nonempty⟩
    obtain ⟨w, cut, spelled⟩ := (where_iff q).mp found
    refine ⟨w, q, cut, spelled, by simpa using nonempty, fun inside => line ?_⟩
    simp [cut, inside]
  · rintro ⟨w, q, cut, spelled, nonempty, -⟩
    exact ⟨q, (where_iff q).mpr ⟨w, cut, spelled⟩, by simpa using nonempty⟩

-- A name ends where an ending begins: the space is no character of a name.
theorem IsEnding.ends_name {e : List Char} (ending : IsEnding e) :
    ∀ c ∈ e.head?, isNameChar c = false := by
  rcases ending with rfl | ⟨w, q, rfl, -⟩
  · rintro c ⟨⟩
  · rintro c ⟨⟩
    decide

theorem isSource_iff {s : List Char} (line : '\n' ∉ s) : isSource s = true ↔ IsTail s := by
  have from_iff := afterWord?_spaced_iff "FROM" (by decide) s
  constructor
  · intro accepted
    rw [isSource] at accepted
    split at accepted
    next => cases accepted
    next r found =>
      obtain ⟨f, cut, spelled⟩ := (from_iff r).mp found
      have halves := List.takeWhile_append_dropWhile (p := isNameChar) (l := r)
      simp only [Bool.and_eq_true, Bool.not_eq_true', List.isEmpty_eq_false_iff] at accepted
      have inner : '\n' ∉ r.dropWhile isNameChar := fun inside =>
        line (by simp [cut, (List.dropWhile_sublist _).mem inside])
      refine ⟨f, r.takeWhile isNameChar, r.dropWhile isNameChar, ?_, spelled, accepted.1, ?_,
        (isCondition_iff inner).mp accepted.2⟩
      · simp [cut, halves]
      · exact fun c hc => List.mem_takeWhile_imp hc
  · rintro ⟨f, n, e, cut, spelled, nonempty, name, ending⟩
    -- The name is read as far as it goes, which is up to the ending.
    have taken := Text.takeWhile_append_stop name ending.ends_name
    have dropped := Text.dropWhile_append_stop name ending.ends_name
    have found : afterWord? " FROM " s = some (n ++ e) :=
      (from_iff (n ++ e)).mpr ⟨f, by simp [cut], spelled⟩
    have inner : '\n' ∉ e := fun inside => line (by simp [cut, inside])
    simp [isSource, found, taken, dropped, nonempty, (isCondition_iff inner).mpr ending]

theorem isProjected_iff {s : List Char} (line : '\n' ∉ s) :
    isProjected s = true ↔ ∃ p t, s = p ++ t ∧ IsLine p ∧ IsTail t := by
  induction s with
  | nil =>
    simp only [isProjected, Bool.false_eq_true, false_iff, not_exists, not_and]
    rintro p t cut ⟨nonempty, -⟩
    exact absurd (List.append_eq_nil_iff.mp cut.symm).1 nonempty
  | cons c r ih =>
    -- The source begins behind this character, or the projection goes on.
    simp only [List.mem_cons, not_or] at line
    rw [isProjected, Bool.or_eq_true, isSource_iff line.2, ih line.2]
    constructor
    · rintro (tail | ⟨p, t, rfl, longer, tail⟩)
      · exact ⟨[c], r, rfl, ⟨by simp, by simpa using line.1⟩, tail⟩
      · exact ⟨c :: p, t, rfl, ⟨by simp, by simpa using ⟨line.1, longer.2⟩⟩, tail⟩
    · rintro ⟨p, t, cut, ⟨nonempty, -⟩, tail⟩
      obtain ⟨d, p, rfl⟩ := List.exists_cons_of_ne_nil nonempty
      obtain ⟨rfl, rfl⟩ := List.cons.inj cut
      cases p with
      | nil => exact .inl tail
      | cons e p =>
        have inner : '\n' ∉ e :: p := fun inside => line.2 (List.mem_append_left t inside)
        exact .inr ⟨e :: p, t, rfl, ⟨by simp, inner⟩, tail⟩

theorem hasShape_iff {s : List Char} (line : '\n' ∉ s) : hasShape s = true ↔ HasForm s := by
  simp only [hasShape, List.any_eq_true, Option.any_eq_true]
  constructor
  · rintro ⟨verb, member, r, found, projected⟩
    obtain ⟨v, cut, spelled⟩ := (afterWord?_verb_iff member s r).mp found
    have inner : '\n' ∉ r := fun inside => line (by simp [cut, inside])
    obtain ⟨p, t, rfl, projection, tail⟩ := (isProjected_iff inner).mp projected
    exact ⟨verb, member, v, p, t, by simp [cut], spelled, projection, tail⟩
  · rintro ⟨verb, member, v, p, t, cut, spelled, projection, tail⟩
    have inner : '\n' ∉ p ++ t := fun inside =>
      line (by rw [cut, List.append_assoc, List.cons_append]; simp [List.mem_append.mp inside])
    exact ⟨verb, member, p ++ t, (afterWord?_verb_iff member s _).mpr ⟨v, by simp [cut], spelled⟩,
      (isProjected_iff inner).mpr ⟨p, t, rfl, projection, tail⟩⟩

/-! ### From characters to words -/

theorem exists_of_getElem?_eq_some {α : Type} {l : List α} {k : Nat} {a : α}
    (found : l[k]? = some a) : ∃ x y, l = x ++ a :: y ∧ x.length = k := by
  obtain ⟨inside, rfl⟩ := List.getElem?_eq_some_iff.mp found
  refine ⟨l.take k, l.drop (k + 1), ?_, by simp; omega⟩
  rw [List.getElem_cons_drop, List.take_append_drop]

-- The words of a statement as consecutive parts.
theorem isStatement_iff (ws : List (List Char)) :
    IsStatement ws ↔ ∃ v p t, ws = v :: p ++ t ∧ (∃ verb ∈ verbs, Spells verb v) ∧ p ≠ [] ∧
      IsSourceWords t := by
  constructor
  · rintro ⟨⟨verb, member, v, first, spelled⟩, k, two, ⟨f, atFrom, from_spelled⟩,
      ⟨n, atName, name⟩, ending⟩
    -- The index cuts the words at `FROM`; it is at least two, so the verb stands before the cut.
    obtain ⟨x, y, rfl, rfl⟩ := exists_of_getElem?_eq_some atFrom
    obtain ⟨u, p, rfl⟩ := List.exists_cons_of_length_pos (show 0 < x.length by omega)
    obtain rfl : u = v := by simpa using first
    obtain ⟨z, e, rfl, none⟩ := exists_of_getElem?_eq_some
      (show y[0]? = some n by simpa [List.getElem?_append] using atName)
    obtain rfl := List.eq_nil_of_length_eq_zero none
    refine ⟨u, p, f :: n :: e, by simp, ⟨verb, member, spelled⟩, ?_, f, n, e, rfl, from_spelled,
      name, ?_⟩
    · rintro rfl
      simp at two
    · rcases ending with last | ⟨⟨w, atWhere, where_spelled⟩, more⟩
      · left
        simpa using last
      · obtain ⟨z, q, rfl, none⟩ := exists_of_getElem?_eq_some
          (show e[0]? = some w by simpa [List.getElem?_append] using atWhere)
        obtain rfl := List.eq_nil_of_length_eq_zero none
        refine .inr ⟨w, q, by simp, where_spelled, ?_⟩
        rintro rfl
        simp at more
  · rintro ⟨v, p, _, rfl, ⟨verb, member, spelled⟩, some, f, n, e, rfl, from_spelled, name, ending⟩
    have positive := List.length_pos_iff.mpr some
    refine ⟨⟨verb, member, v, by simp, spelled⟩, p.length + 1, by omega, ⟨f, by simp, from_spelled⟩,
      ⟨n, by simp, name⟩, ?_⟩
    rcases ending with rfl | ⟨w, q, rfl, where_spelled, more⟩
    · left
      simp
    · have positive' := List.length_pos_iff.mpr more
      refine .inr ⟨⟨w, by simp, where_spelled⟩, ?_⟩
      simp
      omega

theorem isWord_of_isNameChar {n : List Char} (some : n ≠ []) (name : ∀ c ∈ n, isNameChar c = true) :
    IsWord n := by
  have apart : ∀ b ∈ blanks, isNameChar b = false := by decide
  exact ⟨some, fun c hc => isBlank_eq_false_of apart (name c hc)⟩

theorem isWord_keyword : ∀ keyword ∈ "FROM" :: "WHERE" :: verbs, IsWord keyword.toList := by
  decide

theorem IsEnding.begins_blank {e : List Char} (ending : IsEnding e) :
    ∀ c ∈ e.head?, isBlank c = true := by
  rcases ending with rfl | ⟨w, q, rfl, -⟩
  · simp
  · simp [isBlank_space]

-- The spaces of a tail cut its words, and the name ends at the end or at the space of `WHERE`.
theorem IsTail.isSourceWords {s x t : List Char} (normal : IsNormal s) (cut : s = x ++ t)
    (tail : IsTail t) : IsSourceWords (words t) := by
  obtain ⟨f, n, e, rfl, from_spelled, some, name, ending⟩ := tail
  have fromWord := words_of_isWord (from_spelled.isWord (isWord_keyword "FROM" (by simp)))
  have whole : ' ' :: f ++ ' ' :: n ++ e = ' ' :: (f ++ ' ' :: (n ++ e)) := by simp
  refine ⟨f, n, words e, ?_, from_spelled, name, ?_⟩
  · rw [whole, words_cons _ isBlank_space, words_append_cons _ _ isBlank_space, fromWord,
      words_isWord_append (isWord_of_isNameChar some name) ending.begins_blank]
    rfl
  · rcases ending with rfl | ⟨w, q, rfl, where_spelled, predicate⟩
    · exact .inl rfl
    · have whereWord := words_of_isWord (where_spelled.isWord (isWord_keyword "WHERE" (by simp)))
      have last : s = x ++ ' ' :: f ++ ' ' :: n ++ ' ' :: w ++ ' ' :: (q ++ []) := by simp [cut]
      refine .inr ⟨w, words q, ?_, where_spelled, words_ne_nil_behind_space normal last predicate.1⟩
      rw [words_append_cons (' ' :: w) q isBlank_space, words_cons w isBlank_space, whereWord]
      rfl

theorem HasForm.isStatement {s : List Char} (normal : IsNormal s) (form : HasForm s) :
    IsStatement (words s) := by
  obtain ⟨verb, member, v, p, t, cut, spelled, projection, tail⟩ := form
  have verbWord := words_of_isWord (spelled.isWord (isWord_keyword verb (by simp [member])))
  have source := tail.isSourceWords normal cut
  obtain ⟨f, n, e, rfl, -⟩ := tail
  have whole : s = v ++ ' ' :: (p ++ ' ' :: (f ++ ' ' :: n ++ e)) := by simp [cut]
  have behind : words (' ' :: f ++ ' ' :: n ++ e) = words (f ++ ' ' :: n ++ e) :=
    words_cons _ isBlank_space
  refine (isStatement_iff _).mpr ⟨v, words p, _, ?_, ⟨verb, member, spelled⟩,
    words_ne_nil_behind_space normal whole projection.1, source⟩
  rw [whole, words_append_cons _ _ isBlank_space, words_append_cons _ _ isBlank_space, verbWord,
    behind]
  rfl

/-! ### From words to characters -/

theorem isLine_join {us : List (List Char)} (some : us ≠ []) (all : ∀ u ∈ us, IsWord u) :
    IsLine (join [' '] us) := by
  obtain ⟨c, r, first, -⟩ := exists_cons_join some all
  exact ⟨by simp [first], (isNormal_join all).oneLine⟩

theorem IsSourceWords.isTail {ts : List (List Char)} (all : ∀ w ∈ ts, IsWord w)
    (source : IsSourceWords ts) : IsTail (' ' :: join [' '] ts) := by
  obtain ⟨f, n, e, rfl, from_spelled, name, ending⟩ := source
  have named : n ≠ [] := (all n (by simp)).1
  refine ⟨f, n, ?_⟩
  rcases ending with rfl | ⟨w, q, rfl, where_spelled, more⟩
  · exact ⟨[], by simp [join], from_spelled, named, name, .inl rfl⟩
  · have back : join [' '] (n :: w :: q) = n ++ (' ' :: w ++ ' ' :: join [' '] q) := by
      rw [join_cons [' '] n (by simp), join_cons [' '] w more]
      simp
    have predicate : IsLine (join [' '] q) := isLine_join more fun u hu => all u (by simp [hu])
    refine ⟨' ' :: w ++ ' ' :: join [' '] q, ?_, from_spelled, named, name,
      .inr ⟨w, join [' '] q, rfl, where_spelled, predicate⟩⟩
    rw [join_cons [' '] f (by simp), back]
    simp

theorem IsSourceWords.ne_nil {ts : List (List Char)} (source : IsSourceWords ts) : ts ≠ [] := by
  obtain ⟨f, n, e, rfl, -⟩ := source
  simp

theorem IsStatement.hasForm {ws : List (List Char)} (all : ∀ w ∈ ws, IsWord w)
    (statement : IsStatement ws) : HasForm (join [' '] ws) := by
  obtain ⟨v, p, t, rfl, ⟨verb, member, spelled⟩, some, source⟩ := (isStatement_iff ws).mp statement
  refine ⟨verb, member, v, join [' '] p, ' ' :: join [' '] t, ?_, spelled,
    isLine_join some fun u hu => all u (by simp [hu]),
    source.isTail fun u hu => all u (by simp [hu])⟩
  rw [List.cons_append, join_cons [' '] v (by simp [some]), join_append [' '] some source.ne_nil]
  simp

theorem hasForm_collapse_iff (s : List Char) : HasForm (collapse s) ↔ IsStatement (words s) := by
  constructor
  · intro form
    have statement := form.isStatement (isNormal_collapse s)
    rwa [words_collapse] at statement
  · exact IsStatement.hasForm fun _ => isWord_of_mem_words

/-- A text is accepted exactly if its words are those of a statement, and exactly if its normal form
has the form of one. -/
theorem accepts_iff (text : String) :
    (accepts text = true ↔ ∃ ws, Reads text.toList ws ∧ IsStatement ws) ∧
      (accepts text = true ↔ HasForm (collapse text.toList)) := by
  have form : accepts text = true ↔ HasForm (collapse text.toList) :=
    hasShape_iff (isNormal_collapse _).oneLine
  refine ⟨?_, form⟩
  rw [form, hasForm_collapse_iff]
  constructor
  · intro statement
    exact ⟨_, (reads_iff _ _).mpr rfl, statement⟩
  · rintro ⟨ws, reads, statement⟩
    rwa [reads.words_eq]

/-- `FROM` may itself stand in the projection, and no other letter stands for an `S`. -/
example : accepts "select FROM\tFROM x" = true ∧ accepts "ſelect a FROM x" = false := by decide

end TableTalk.Statement
