import TableTalk.Proofs.Grammar
import TableTalk.Statement.Description

/-!
# TableTalk.Proofs.Description

The description of a text that has the form of a statement.

## Main result

`kindOf_describes`: the description names the statement's own verb, and is never the one that is
left for texts that begin like no statement.

## Proof strategy

Descriptions are chosen by openings in which more letters count as equal than in the grammar. A
spelled verb therefore opens the text for the description too (`opensWith_of_spells`); and it opens
no other description, because the four verbs differ in their first letters, and differ there even
with the additional letters (`not_opensWith_of_spells`).
-/

namespace TableTalk.Statement

open Text

/-- The kinds that may describe a statement with the given first word. -/
def Kind.Describes (kind : Kind) (w : List Char) : Prop :=
  (Spells "SELECT" w ∧ (kind = .allColumns ∨ kind = .someColumns)) ∨
    (Spells "INSERT" w ∧ kind = .insertion) ∨ (Spells "UPDATE" w ∧ kind = .update) ∨
    (Spells "DELETE" w ∧ kind = .deletion)

/-! ### Openings -/

theorem afterOpening?_eq_some_iff (opening : String) (s r : List Char) :
    afterOpening? opening s = some r ↔
      ∃ w, s = w ++ r ∧ List.Forall₂ (fun k c => sameLetter k c = true) opening.toList w :=
  afterKeyword?_eq_some_iff sameLetter opening.toList s r

-- Letters that are equal for the grammar are equal for the description.
theorem Spells.sameLetters {keyword : String} {w : List Char}
    (capitals : ∀ k ∈ keyword.toList, k.isLower = false) (spelled : Spells keyword w) :
    List.Forall₂ (fun k c => sameLetter k c = true) keyword.toList w := by
  refine ((forall₂_sameAsciiLetter_iff capitals w).mpr spelled).imp fun k c same => ?_
  rw [sameLetter, same, Bool.true_or]

theorem capitals_of_mem_verbs : ∀ verb ∈ verbs, ∀ k ∈ verb.toList, k.isLower = false := by
  decide

theorem opensWith_of_spells {verb : String} {v : List Char} (member : verb ∈ verbs)
    (spelled : Spells verb v) (r : List Char) : opensWith verb (v ++ r) = true := by
  rw [opensWith, Option.isSome_iff_exists]
  exact ⟨r, (afterOpening?_eq_some_iff _ _ _).mpr
    ⟨v, rfl, Spells.sameLetters (capitals_of_mem_verbs verb member) spelled⟩⟩

-- A character has one capital form, so a first letter of another verb does not open a text.
theorem sameLetter_first {k k' c : Char} (first : k ∈ ['S', 'U', 'D', 'I'])
    (first' : k' ∈ ['S', 'U', 'D', 'I']) (other : k ≠ k') (upper : c.toUpper = k') :
    sameLetter k c = false := by
  -- No other letter has this capital form, so there are two characters to look at.
  have form : c = k' ∨ c = k'.toLower := by
    have code := congrArg Char.toNat upper
    rw [toNat_toUpper] at code
    split at code
    · right
      rw [← Char.toNat_inj, toNat_toLower]
      split <;> omega
    · exact .inl (Char.toNat_inj.mp code)
  have apart : ∀ k ∈ ['S', 'U', 'D', 'I'], ∀ k' ∈ ['S', 'U', 'D', 'I'], k ≠ k' →
      sameLetter k k' = false ∧ sameLetter k k'.toLower = false := by decide
  obtain ⟨same, lower⟩ := apart k first k' first' other
  rcases form with rfl | rfl
  · exact same
  · exact lower

theorem afterOpening?_eq_none {verb opening : String} {v : List Char} {k k' : Char}
    {ks ks' : List Char} (opens : opening.toList = k :: ks) (spells : verb.toList = k' :: ks')
    (first : k ∈ ['S', 'U', 'D', 'I']) (first' : k' ∈ ['S', 'U', 'D', 'I']) (other : k ≠ k')
    (spelled : Spells verb v) (r : List Char) : afterOpening? opening (v ++ r) = none := by
  rw [Spells, spells] at spelled
  obtain ⟨c, u, rfl, upper, -⟩ := List.map_eq_cons_iff.mp spelled
  rw [afterOpening?, opens, List.cons_append, afterKeyword?,
    sameLetter_first first first' other upper]
  rfl

/-! ### Forms -/

theorem reachesSource_append {p t : List Char} (some : p ≠ [])
    (source : opensWith " FROM" t = true) : reachesSource (p ++ t) = true := by
  induction p with
  | nil => contradiction
  | cons c p ih =>
    rw [List.cons_append, reachesSource, Bool.or_eq_true]
    cases p with
    | nil => exact .inl source
    | cons d p => exact .inr (ih (by simp))

theorem opensWith_from_of_isTail {t : List Char} (tail : IsTail t) :
    opensWith " FROM" t = true := by
  obtain ⟨f, n, e, rfl, spelled, -⟩ := tail
  have capitals : ∀ k ∈ " FROM".toList, k.isLower = false := by decide
  have spaced : Spells " FROM" (' ' :: f) :=
    (spells_append_iff " " "FROM" _).mpr ⟨[' '], f, rfl, rfl, spelled⟩
  rw [opensWith, Option.isSome_iff_exists]
  exact ⟨' ' :: n ++ e, (afterOpening?_eq_some_iff _ _ _).mpr
    ⟨' ' :: f, by simp, Spells.sameLetters capitals spaced⟩⟩

theorem kindOf_select {v p t : List Char} (spelled : Spells "SELECT" v) (some : p ≠ [])
    (tail : IsTail t) :
    kindOf (v ++ ' ' :: (p ++ t)) = .allColumns ∨ kindOf (v ++ ' ' :: (p ++ t)) = .someColumns := by
  have capitals : ∀ k ∈ "SELECT ".toList, k.isLower = false := by decide
  have spaced : Spells "SELECT " (v ++ [' ']) :=
    (spells_append_iff "SELECT" " " _).mpr ⟨v, [' '], rfl, spelled, rfl⟩
  have behind : afterOpening? "SELECT " (v ++ ' ' :: (p ++ t)) = Option.some (p ++ t) :=
    (afterOpening?_eq_some_iff _ _ _).mpr
      ⟨v ++ [' '], by simp, Spells.sameLetters capitals spaced⟩
  have reached := reachesSource_append some (opensWith_from_of_isTail tail)
  rw [kindOf, behind]
  split
  · exact .inl rfl
  · right
    simp [reached]

/-- A text that begins with another verb than `SELECT` is described by its first opening. -/
theorem kindOf_not_select {verb : String} {v : List Char} {k : Char} {ks : List Char}
    (spells : verb.toList = k :: ks) (first : k ∈ ['U', 'D', 'I']) (spelled : Spells verb v)
    (r : List Char) :
    kindOf (v ++ r) = if opensWith "INSERT" (v ++ r) then .insertion
      else if opensWith "UPDATE" (v ++ r) then .update
      else if opensWith "DELETE" (v ++ r) then .deletion else .other := by
  have first' : k ∈ ['S', 'U', 'D', 'I'] := List.mem_cons_of_mem _ first
  have other : 'S' ≠ k := by
    rintro rfl
    revert first
    decide
  have all : afterOpening? "SELECT * FROM" (v ++ r) = none :=
    afterOpening?_eq_none rfl spells (by decide) first' other spelled r
  have some : afterOpening? "SELECT " (v ++ r) = none :=
    afterOpening?_eq_none rfl spells (by decide) first' other spelled r
  rw [kindOf, some, opensWith, all]
  rfl

theorem kindOf_describes {s : List Char} (form : HasForm s) :
    ∃ v r, s = v ++ r ∧ IsWord v ∧ (∀ c ∈ r.head?, isBlank c = true) ∧ (kindOf s).Describes v := by
  obtain ⟨verb, member, v, p, t, cut, spelled, projection, tail⟩ := form
  obtain rfl : s = v ++ ' ' :: (p ++ t) := by simp [cut]
  -- The verb decides, since the openings of the other verbs fail at their first letter.
  have opened := opensWith_of_spells member spelled (' ' :: (p ++ t))
  refine ⟨v, ' ' :: (p ++ t), rfl, spelled.isWord (isWord_keyword verb (by simp [member])),
    by simp [isBlank_space], ?_⟩
  have verb_cases : verb = "SELECT" ∨ verb = "UPDATE" ∨ verb = "DELETE" ∨ verb = "INSERT" := by
    simpa [verbs] using member
  rcases verb_cases with rfl | rfl | rfl | rfl
  · exact .inl ⟨spelled, kindOf_select spelled projection.1 tail⟩
  · have insert : afterOpening? "INSERT" (v ++ ' ' :: (p ++ t)) = none :=
      afterOpening?_eq_none rfl rfl (by decide) (by decide) (by decide) spelled _
    refine .inr (.inr (.inl ⟨spelled, ?_⟩))
    rw [kindOf_not_select rfl (by decide) spelled, opensWith, insert, opened]
    rfl
  · have insert : afterOpening? "INSERT" (v ++ ' ' :: (p ++ t)) = none :=
      afterOpening?_eq_none rfl rfl (by decide) (by decide) (by decide) spelled _
    have update : afterOpening? "UPDATE" (v ++ ' ' :: (p ++ t)) = none :=
      afterOpening?_eq_none rfl rfl (by decide) (by decide) (by decide) spelled _
    refine .inr (.inr (.inr ⟨spelled, ?_⟩))
    rw [kindOf_not_select rfl (by decide) spelled, opensWith, insert, opensWith, update, opened]
    rfl
  · refine .inr (.inl ⟨spelled, ?_⟩)
    rw [kindOf_not_select rfl (by decide) spelled, opened]
    rfl

theorem Kind.Describes.sentence_ne {kind : Kind} {w : List Char} (describes : kind.Describes w) :
    kind.sentence ≠ Kind.other.sentence := by
  rcases describes with ⟨-, rfl | rfl⟩ | ⟨-, rfl⟩ | ⟨-, rfl⟩ | ⟨-, rfl⟩ <;> decide

end TableTalk.Statement
