import TableTalk.Question.Cue
import TableTalk.Proofs.Keywords

/-!
# TableTalk.Proofs.Cues

The operation of a question, by the cues that occur in it.

## Main results

- `operationOf_eq`: an average is asked for if its cue occurs, else a count, else a total, and else
  a selection.
- `not_infix_spaced`: of all cues only `how many` can lie across a space, and then the texts on both
  sides of it show that.
-/

namespace TableTalk

/-! ### Occurrence -/

namespace Text

theorem afterKeyword?_isSome_iff (t s : List Char) :
    (afterKeyword? (· == ·) t s).isSome = true ↔ t <+: s := by
  rw [Option.isSome_iff_exists]
  constructor
  · rintro ⟨r, after⟩
    exact ⟨r, ((afterKeyword?_beq_iff _ _ _).mp after).symm⟩
  · rintro ⟨r, cut⟩
    exact ⟨r, (afterKeyword?_beq_iff _ _ _).mpr cut.symm⟩

theorem occursIn_iff (t s : List Char) : occursIn t s = true ↔ t <:+: s := by
  induction s with
  | nil => simp [occursIn]
  | cons c r ih =>
    rw [occursIn, Bool.or_eq_true, afterKeyword?_isSome_iff, ih, List.infix_cons_iff]

-- What occurs in two texts with a character between them occurs in one of the two, or lies across
-- the character.
theorem infix_append_cons {t x y : List Char} {c : Char} (occurs : t <:+: x ++ c :: y) :
    t <:+: x ∨ t <:+: y ∨ ∃ l r, t = l ++ c :: r ∧ l <:+ x ∧ r <+: y := by
  have front {l r : List Char} (left : l <:+ x) (right : r <+: c :: y) :
      l ++ r <:+: x ∨ ∃ r', l ++ r = l ++ c :: r' ∧ r' <+: y := by
    cases r with
    | nil => exact .inl (by simpa using left.isInfix)
    | cons d r =>
      obtain ⟨rfl, inner⟩ := List.cons_prefix_cons.mp right
      exact .inr ⟨r, rfl, inner⟩
  rcases List.infix_append_iff.mp occurs with inside | inside | ⟨l, r, rfl, left, right⟩
  · exact .inl inside
  · rcases List.infix_cons_iff.mp inside with right | inside
    · rcases front List.nil_suffix right with empty | ⟨r, cut, right⟩
      · exact .inl empty
      · exact .inr (.inr ⟨[], r, cut, List.nil_suffix, right⟩)
    · exact .inr (.inl inside)
  · rcases front left right with inside | ⟨r', cut, right'⟩
    · exact .inl inside
    · exact .inr (.inr ⟨l, r', cut, left, right'⟩)

end Text

namespace Question

theorem operationOf_eq (q : List Char) :
    operationOf q =
      if "average".toList <:+: q then .average
      else if "how many".toList <:+: q then .count
      else if "total".toList <:+: q then .sum
      else .select := by
  simp only [operationOf, cues, List.foldl_cons, List.foldl_nil, Text.occursIn_iff]

/-! ### Cues and spaces -/

/-- The text is one of the cues. -/
def IsCue (t : List Char) : Prop :=
  t ∈ cues.map (·.1.toList)

theorem IsCue.cases {t : List Char} (cue : IsCue t) :
    t = "total".toList ∨ t = "how many".toList ∨ t = "average".toList := by
  simpa [IsCue, cues] using cue

-- A cue with a space is `how many`.
theorem IsCue.across_space {l r : List Char} (cue : IsCue (l ++ ' ' :: r)) :
    l = "how".toList ∧ r = "many".toList := by
  have inside : ' ' ∈ l ++ ' ' :: r := by simp
  rcases cue.cases with total | many | average
  · rw [total] at inside
    exact absurd inside (by decide)
  · -- The space is the one behind `how`, as there is none in `many`.
    have cut : "how".toList ++ ' ' :: "many".toList = l ++ ' ' :: r := many.symm
    obtain ⟨u, left, right⟩ := Text.exists_of_append_eq_append_cons (by decide) cut
    cases u with
    | nil => exact ⟨by simpa using left, (List.cons.inj right).2.symm⟩
    | cons c u =>
      have second : ' ' ∈ "many".toList := by
        rw [(List.cons.inj right).2]
        simp
      exact absurd second (by decide)
  · rw [average] at inside
    exact absurd inside (by decide)

theorem IsCue.no_comma {t : List Char} (cue : IsCue t) : ',' ∉ t := by
  rcases cue.cases with rfl | rfl | rfl <;> decide

theorem IsCue.ne_nil {t : List Char} (cue : IsCue t) : t ≠ [] := by
  rcases cue.cases with rfl | rfl | rfl <;> decide

/-- No cue occurs in two texts with a space between them that it does not occur in, unless they
show the two words of `how many`. -/
theorem not_infix_spaced {t x y : List Char} (cue : IsCue t) (left : ¬t <:+: x)
    (right : ¬t <:+: y) (apart : ¬"how".toList <:+ x ∨ ¬"many".toList <+: y) :
    ¬t <:+: x ++ ' ' :: y := by
  intro occurs
  rcases Text.infix_append_cons occurs with inside | inside | ⟨l, r, rfl, how, many⟩
  · exact left inside
  · exact right inside
  · obtain ⟨rfl, rfl⟩ := cue.across_space
    exact apart.elim (· how) (· many)

theorem not_infix_comma {t x y : List Char} (cue : IsCue t) (left : ¬t <:+: x)
    (right : ¬t <:+: y) : ¬t <:+: x ++ ',' :: y := by
  intro occurs
  rcases Text.infix_append_cons occurs with inside | inside | ⟨l, r, rfl, _⟩
  · exact left inside
  · exact right inside
  · exact cue.no_comma (by simp)

end Question

end TableTalk
