import TableTalk.Proofs.Cues

/-!
# TableTalk.Proofs.Precedence

Which of several cues decides about a question, and what becomes of it when the question grows.

## Main result

- `classify_precedence`: a question asks for the operation of the highest rank whose cue occurs in
  it, and more text around a question never lowers the rank.

## Proof strategy

Lower-casing looks beyond a character only to choose between two forms of a small sigma. With the
two forms taken for one it works letter by letter (`map_settled_lower`), so that the lower-case form
of a part stands in that of the whole. A cue has no sigma and cannot see the difference
(`infix_map_settled_iff`).
-/

namespace TableTalk

/-! ### Lower case of parts -/

namespace Text

/-- A character, the final form of a small sigma taken for its usual one. -/
def settled (c : Char) : Char :=
  if c = 'ς' then 'σ' else c

/-- A text without a small sigma of either form. -/
def NoSigma (t : List Char) : Prop :=
  'σ' ∉ t ∧ 'ς' ∉ t

instance (t : List Char) : Decidable (NoSigma t) :=
  inferInstanceAs (Decidable (_ ∧ _))

theorem map_settled_lowerAfter (before : Bool) (s : List Char) :
    (lowerAfter before s).map settled = s.flatMap fun c => (lowerAlone c).map settled := by
  induction s generalizing before with
  | nil => rfl
  | cons c r ih =>
    have here : (if c = 'Σ' then [if before && !meetsCased r then 'ς' else 'σ']
        else lowerAlone c).map settled = (lowerAlone c).map settled := by
      split
      next sigma =>
        -- What stands around a capital sigma only chooses between the two forms.
        have alone : (lowerAlone 'Σ').map settled = ['σ'] := by decide
        rw [sigma, alone]
        split <;> rfl
      next => rfl
    rw [lowerAfter, List.map_append, here, ih, List.flatMap_cons]

theorem map_settled_lower (s : List Char) :
    (lower s).map settled = s.flatMap fun c => (lowerAlone c).map settled :=
  map_settled_lowerAfter false s

theorem map_settled_eq_iff {t : List Char} (plain : NoSigma t) (u : List Char) :
    u.map settled = t ↔ u = t := by
  constructor
  · intro same
    have kept : ∀ c ∈ u, settled c = c := by
      intro c member
      have inside : settled c ∈ t := same ▸ List.mem_map_of_mem member
      unfold settled at inside ⊢
      split at inside
      next => exact absurd inside plain.1
      next other => rw [if_neg other]
    rw [← same, List.map_congr_left kept, List.map_id']
  · rintro rfl
    have kept : ∀ c ∈ u, settled c = c := by
      intro c member
      refine if_neg ?_
      rintro rfl
      exact plain.2 member
    rw [List.map_congr_left kept, List.map_id']

theorem infix_map_settled_iff {t : List Char} (plain : NoSigma t) (s : List Char) :
    t <:+: s.map settled ↔ t <:+: s := by
  constructor
  · rintro ⟨_, _, cut⟩
    obtain ⟨_, _, rfl, cut, _⟩ := List.map_eq_append_iff.mp cut.symm
    obtain ⟨_, u, rfl, _, middle⟩ := List.map_eq_append_iff.mp cut
    obtain rfl := (map_settled_eq_iff plain u).mp middle
    exact List.infix_append _ _ _
  · intro inside
    have same : t.map settled = t := (map_settled_eq_iff plain t).mpr rfl
    exact same ▸ inside.map settled

/-- What occurs in the lower-case form of a part of a text occurs in that of the text, unless it has
a sigma. -/
theorem infix_lower_mono {t part s : List Char} (plain : NoSigma t) (inside : part <:+: s)
    (occurs : t <:+: lower part) : t <:+: lower s := by
  obtain ⟨front, back, rfl⟩ := inside
  rw [← infix_map_settled_iff plain, map_settled_lower] at occurs ⊢
  rw [List.flatMap_append, List.flatMap_append]
  exact occurs.trans (List.infix_append _ _ _)

end Text

/-! ### Ranks -/

/-- The rank of an operation among those that a question may ask for at once. -/
def Operation.rank : Operation → Nat
  | select => 0
  | sum => 1
  | count => 2
  | average => 3

namespace Question

/-- The words that ask for an operation; a selection has none of its own. -/
def phrase? : Operation → Option String
  | .select => none
  | .sum => some "total"
  | .count => some "how many"
  | .average => some "average"

/-- The words for an operation occur in a question, whatever the case of their letters. -/
def Asks (question : String) (operation : Operation) : Prop :=
  ∃ cue ∈ phrase? operation, cue.toList <:+: Text.lower question.toList

theorem asks_iff_cases (question : String) (operation : Operation) :
    Asks question operation ↔
      (operation = .sum ∧ "total".toList <:+: Text.lower question.toList) ∨
      (operation = .count ∧ "how many".toList <:+: Text.lower question.toList) ∨
      (operation = .average ∧ "average".toList <:+: Text.lower question.toList) := by
  cases operation <;> simp [Asks, phrase?]

theorem noSigma_phrase : ∀ operation, ∀ cue ∈ phrase? operation, Text.NoSigma cue.toList := by
  intro operation
  cases operation <;> simp [phrase?] <;> decide

theorem rank_le_of_asks {question : String} {operation : Operation}
    (asked : Asks question operation) : operation.rank ≤ (classify question).rank := by
  rw [asks_iff_cases] at asked
  rw [classify, operationOf_eq]
  rcases asked with ⟨rfl, occurs⟩ | ⟨rfl, occurs⟩ | ⟨rfl, occurs⟩
  · rw [if_pos occurs]
    split
    · decide
    · split <;> decide
  · rw [if_pos occurs]
    split <;> decide
  · rw [if_pos occurs]

theorem asks_classify (question : String) :
    Asks question (classify question) ∨ classify question = .select := by
  rw [classify, operationOf_eq]
  split
  next occurs => exact .inl ⟨"average", rfl, occurs⟩
  split
  next occurs => exact .inl ⟨"how many", rfl, occurs⟩
  split
  next occurs => exact .inl ⟨"total", rfl, occurs⟩
  · exact .inr rfl

theorem Asks.mono {part question : String} {operation : Operation}
    (inside : part.toList <:+: question.toList) (asked : Asks part operation) :
    Asks question operation := by
  obtain ⟨cue, phrased, occurs⟩ := asked
  exact ⟨cue, phrased, Text.infix_lower_mono (noSigma_phrase operation cue phrased) inside occurs⟩

theorem rank_classify_mono {part question : String} (inside : part.toList <:+: question.toList) :
    (classify part).rank ≤ (classify question).rank := by
  rcases asks_classify part with asked | none
  · exact rank_le_of_asks (asked.mono inside)
  · rw [none]
    exact Nat.zero_le _

/-- A question asks for the operation of the highest rank whose words occur in it, and for a
selection if none do; text around it never lowers the rank. -/
theorem classify_precedence :
    (∀ question : String,
      (Asks question (classify question) ∧
        ∀ operation, Asks question operation → operation.rank ≤ (classify question).rank) ∨
      (classify question = .select ∧ ∀ operation, ¬Asks question operation)) ∧
    ∀ before question after : String,
      max (classify before).rank (max (classify question).rank (classify after).rank) ≤
        (classify (before ++ question ++ after)).rank := by
  constructor
  · intro question
    rcases asks_classify question with asked | selection
    · exact .inl ⟨asked, fun _ => rank_le_of_asks⟩
    · -- An operation with words of its own has a higher rank than a selection.
      refine .inr ⟨selection, fun operation asked => ?_⟩
      have low := rank_le_of_asks asked
      rw [selection] at low
      rw [asks_iff_cases] at asked
      rcases asked with ⟨rfl, -⟩ | ⟨rfl, -⟩ | ⟨rfl, -⟩ <;> exact absurd low (by decide)
  · intro before question after
    have cut : (before ++ question ++ after).toList =
        before.toList ++ question.toList ++ after.toList := by
      rw [String.toList_append, String.toList_append]
    refine max_le (rank_classify_mono ?_) (max_le (rank_classify_mono ?_) (rank_classify_mono ?_))
    · rw [cut, List.append_assoc]
      exact (List.prefix_append _ _).isInfix
    · rw [cut]
      exact List.infix_append _ _ _
    · rw [cut]
      exact (List.suffix_append _ _).isInfix

-- The sigma is final before the cue and not behind it, and the dotted I becomes two characters.
example : classify "ΟΔΟΣ TOTAL İ" = .sum ∧ classify "how many averageΣ" = .average := by decide

end Question

end TableTalk
