import TableTalk.Execution.PseudoQuery
import TableTalk.Proofs.Description

/-!
# TableTalk.Proofs.Rendering

Pseudo-queries as statements. The grammar and the description see a text word by word, and blanks in
filter values move the words of a pseudo-query about; but values stand behind `WHERE` alone, where
any words will do.

## Main results

- `words_chars`: the words of a pseudo-query, of which all but those of the condition are known.
- `accepts_render`: a pseudo-query over a table with a proper name is a statement, and is described
  by its projection.
-/

namespace TableTalk

/-- The name of the table is one that the grammar knows as such. -/
def QueryIntent.ProperTable (intent : QueryIntent) : Prop :=
  intent.sourceTable ≠ "" ∧ ∀ c ∈ intent.sourceTable.toList, Statement.isNameChar c = true

instance (intent : QueryIntent) : Decidable intent.ProperTable :=
  inferInstanceAs (Decidable (_ ∧ _))

namespace PseudoQuery

open Text Statement

/-! ### Words -/

theorem isWord_projection (operation : Operation) : IsWord (projection operation).toList := by
  cases operation <;> decide

-- Clauses begin with a word of their own, whatever their values are.
theorem clauses_begin {f : FilterSet} (some : clauses f ≠ []) :
    ∃ c t, join " AND ".toList (clauses f) = c :: t ∧ isBlank c = false := by
  obtain ⟨_ | names, _ | name⟩ := f
  · exact absurd rfl some
  · exact ⟨'p', _, rfl, by decide⟩
  · exact ⟨'r', _, rfl, by decide⟩
  · exact ⟨'r', _, rfl, by decide⟩

-- A condition is nothing, or `WHERE` and at least one word.
theorem words_condition (f : FilterSet) :
    words (condition f) = [] ∨ ∃ q, words (condition f) = "WHERE".toList :: q ∧ q ≠ [] := by
  unfold condition
  split
  · exact .inl rfl
  next some =>
    obtain ⟨c, t, first, solid⟩ := clauses_begin (by simpa using some)
    refine .inr ⟨words (join " AND ".toList (clauses f)), ?_, ?_⟩
    · have cut := words_append_cons " WHERE".toList (join " AND ".toList (clauses f))
        isBlank_space
      exact cut
    · rw [first, ne_eq, words_eq_nil_iff]
      intro blank
      rw [blank c List.mem_cons_self] at solid
      cases solid

theorem condition_ends (f : FilterSet) : ∀ c ∈ (condition f).head?, isBlank c = true := by
  unfold condition
  split
  · rintro c ⟨⟩
  · rintro c ⟨⟩
    decide

/-- The words of a pseudo-query. -/
theorem words_chars {intent : QueryIntent} (proper : intent.ProperTable) :
    words (chars intent) = "SELECT".toList :: (projection intent.operation).toList ::
      "FROM".toList :: intent.sourceTable.toList :: words (condition intent.filters) := by
  have table : IsWord intent.sourceTable.toList :=
    isWord_of_isNameChar (by simpa using proper.1) proper.2
  have cut : chars intent = "SELECT".toList ++ ' ' :: ((projection intent.operation).toList ++
      ' ' :: ("FROM".toList ++ ' ' :: (intent.sourceTable.toList ++
        condition intent.filters))) := by
    unfold chars
    simp
  rw [cut, words_append_cons _ _ isBlank_space, words_append_cons _ _ isBlank_space,
    words_append_cons _ _ isBlank_space,
    words_of_isWord (isWord_projection _), words_isWord_append table (condition_ends _)]
  rfl

/-! ### The grammar and the description -/

theorem isStatement_words {intent : QueryIntent} (proper : intent.ProperTable) :
    IsStatement (words (chars intent)) := by
  rw [words_chars proper, isStatement_iff]
  refine ⟨"SELECT".toList, [(projection intent.operation).toList], _, rfl,
    ⟨"SELECT", by decide, by decide⟩, by simp, "FROM".toList, intent.sourceTable.toList,
    words (condition intent.filters), rfl, by decide, proper.2, ?_⟩
  refine (words_condition intent.filters).imp_right ?_
  rintro ⟨q, cut, some⟩
  exact ⟨"WHERE".toList, q, cut, by decide, some⟩

theorem kindOf_opening (operation : Operation) (r : List Char) :
    kindOf ("SELECT ".toList ++ ((projection operation).toList ++ (" FROM ".toList ++ r))) =
      if operation = .select then .allColumns else .someColumns := by
  cases operation <;> rfl

theorem kindOf_words {intent : QueryIntent} (proper : intent.ProperTable) :
    kindOf (collapse (chars intent)) =
      if intent.operation = .select then .allColumns else .someColumns := by
  rw [collapse, words_chars proper, join_cons _ _ (by simp), join_cons _ _ (by simp),
    join_cons _ _ (by simp)]
  have opening := kindOf_opening intent.operation
    (join [' '] (intent.sourceTable.toList :: words (condition intent.filters)))
  simpa using opening

end PseudoQuery

/-- A pseudo-query over a table with a proper name is a statement, whatever the values of its
filters are, and is described by its projection. -/
theorem QueryIntent.accepts_render {intent : QueryIntent} (proper : intent.ProperTable) :
    Statement.accepts intent.render = true ∧
      Statement.Kind.ofText intent.render =
        if intent.operation = .select then .allColumns else .someColumns := by
  have shown : intent.render.toList = PseudoQuery.chars intent := String.toList_ofList
  constructor
  · rw [Statement.accepts, shown, Statement.hasShape_iff (Text.isNormal_collapse _).oneLine,
      Statement.hasForm_collapse_iff]
    exact PseudoQuery.isStatement_words proper
  · rw [Statement.Kind.ofText, shown]
    exact PseudoQuery.kindOf_words proper

/-- Line breaks and keywords in a value do not matter. -/
theorem QueryIntent.accepts_render_keywords :
    let intent : QueryIntent :=
      { sourceTable := "sales", operation := .count
        filters := { region := some ["\n FROM x WHERE ", ""] } }
    intent.ProperTable ∧ Statement.accepts intent.render = true ∧
      Statement.Kind.ofText intent.render = .someColumns := by
  intro intent
  have proper : intent.ProperTable := by decide
  exact ⟨proper, accepts_render proper⟩

end TableTalk
