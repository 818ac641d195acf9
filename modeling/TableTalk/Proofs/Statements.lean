import TableTalk.Proofs.Description
import TableTalk.Service

/-!
# TableTalk.Proofs.Statements

The two services for statements. Both trim a text before they look at it, and trimming changes
neither the words of a text nor, with them, what the grammar and the description see of it.

Main result: `validate_explain_agree`. The two refuse the same texts as missing; one refuses as
malformed exactly what the other calls invalid; and what is explained is explained by its own verb.
-/

namespace TableTalk.Service

open Statement

/-! ### Trimmed texts -/

theorem normalise_ofText? (text : Option String) :
    normalise (.ofText? text) = .ofList (Text.trim (text.getD "").toList) := by
  cases text with
  | none => rfl
  | some s => simp [normalise, Value.ofText?, Value.display, Scalar.shown]

theorem words_normalise (text : Option String) :
    Text.words (normalise (.ofText? text)).toList = Text.words (text.getD "").toList := by
  rw [normalise_ofText?, String.toList_ofList, Text.words_trim]

-- A text is blank exactly if it has no words.
theorem normalise_eq_empty_iff (text : Option String) :
    normalise (.ofText? text) = "" ↔ Text.words (text.getD "").toList = [] := by
  rw [normalise_ofText?, ← Text.trim_eq_nil_iff, ← String.toList_inj, String.toList_ofList]
  rfl

theorem accepts_normalise (text : Option String) :
    accepts (normalise (.ofText? text)) = accepts (text.getD "") := by
  rw [accepts, Text.collapse_eq_of_words_eq (words_normalise text), accepts]

/-! ### Outcomes -/

theorem outcome_validate (v : Value) :
    (validate v).outcome =
      if normalise v = "" then .error .missingStatement else .ok ⟨accepts (normalise v)⟩ := by
  by_cases blank : normalise v = ""
  · simp [validate, blank]
  · simp [validate, blank]

theorem outcome_describe (text : String) : (describe text).outcome = .ok (Kind.ofText text) := by
  by_cases other : Kind.ofText text = .other
  · simp [describe, other]
  · simp [describe, other]

theorem outcome_explain (v : Value) :
    (explain v).outcome =
      if normalise v = "" then .error .missingStatement
      else if accepts (normalise v) then .ok ⟨normalise v, (Kind.ofText (normalise v)).sentence⟩
      else .error .malformedStatement := by
  by_cases blank : normalise v = ""
  · simp [explain, blank]
  · by_cases accepted : accepts (normalise v) = true
    · simp [explain, blank, accepted, outcome_describe]
    · simp [explain, blank, accepted]

/-! ### Agreement -/

theorem describes_of_accepts {text : String} (accepted : accepts text = true) :
    ∃ w ws, Text.words text.toList = w :: ws ∧ (Kind.ofText text).Describes w := by
  have form : HasForm (Text.collapse text.toList) :=
    (hasShape_iff (Text.isNormal_collapse _).oneLine).mp accepted
  obtain ⟨v, r, cut, word, ends, describes⟩ := kindOf_describes form
  refine ⟨v, Text.words r, ?_, describes⟩
  rw [← Text.words_collapse, cut, Text.words_isWord_append word ends]

/-- The two services for statements agree with the grammar and with each other on every text, given
or not. -/
theorem validate_explain_agree (text : Option String) :
    ((validate (.ofText? text)).outcome = .error .missingStatement ↔
      normalise (.ofText? text) = "") ∧
    ((explain (.ofText? text)).outcome = .error .missingStatement ↔
      normalise (.ofText? text) = "") ∧
    (normalise (.ofText? text) = "" ↔ Text.Reads (text.getD "").toList []) ∧
    (normalise (.ofText? text) ≠ "" →
      (validate (.ofText? text)).outcome = .ok ⟨accepts (text.getD "")⟩ ∧
      ((explain (.ofText? text)).outcome = .error .malformedStatement ↔
        accepts (text.getD "") = false)) ∧
    (accepts (text.getD "") = true → ∃ w ws, ∃ kind : Kind,
      Text.Reads (text.getD "").toList (w :: ws) ∧
      (explain (.ofText? text)).outcome = .ok ⟨normalise (.ofText? text), kind.sentence⟩ ∧
      kind.Describes w ∧ kind.sentence ≠ Kind.other.sentence) := by
  rw [outcome_validate, outcome_explain, accepts_normalise]
  refine ⟨?_, ?_, ?_, ?_, ?_⟩
  · split <;> simp [*]
  · split
    · simp [*]
    · split <;> simp [*]
  · rw [normalise_eq_empty_iff, Text.reads_iff]
  · intro some
    cases accepted : accepts (text.getD "") <;> simp [some]
  · -- The description is that of the normal form, whose first word is the verb of the text.
    intro accepted
    rw [← accepts_normalise] at accepted
    obtain ⟨w, ws, first, describes⟩ := describes_of_accepts accepted
    rw [words_normalise] at first
    have some : normalise (.ofText? text) ≠ "" := by
      rw [ne_eq, normalise_eq_empty_iff, first]
      simp
    refine ⟨w, ws, _, (Text.reads_iff _ _).mpr first, ?_, describes, describes.sentence_ne⟩
    rw [if_neg some, if_pos (accepts_normalise text ▸ accepted)]

/-- An insertion with blanks around it is explained as an insertion. -/
theorem explain_padded_insertion :
    accepts " insert a from t\n" = true ∧
      ∃ w ws, ∃ kind : Kind, Text.Reads " insert a from t\n".toList (w :: ws) ∧
        (explain (.text " insert a from t\n")).outcome =
          .ok ⟨normalise (.text " insert a from t\n"), kind.sentence⟩ ∧
        kind.Describes w ∧ kind.sentence ≠ Kind.other.sentence :=
  ⟨by decide, (validate_explain_agree (some " insert a from t\n")).2.2.2.2 (by decide)⟩

end TableTalk.Service
