import TableTalk.Proofs.Openings

/-!
# TableTalk.Proofs.Projections

What the description of a selection has to do with its projection.

## Main results

- `describe_star_before_column`: a statement may be said to select all columns although its
  projection is not the star alone.
- `describe_projection`: that is said of the star alone, and of a star with a word behind it that
  begins with `FROM`; of any other projection it is said that it selects specific columns.

## Proof strategy

The check of a statement takes the fewest characters for the projection behind which a source
begins (`projection?`). A source begins at a space, so that these are the fewest words, too
(`projection?_join`). The description looks at the second and the third word of a statement, which
are the first of the projection or, behind a star that is all of it, the word of the source.
-/

namespace TableTalk.Statement

open Text

variable {ws p : List (List Char)}

/-! ### Runs of words and of characters -/

/-- At least one word behind the verb of a statement, with a source behind it. -/
def Projects (ws p : List (List Char)) : Prop :=
  ∃ v t, ws = v :: p ++ t ∧ p ≠ [] ∧ IsSourceWords t

/-- The projection of a statement: the fewest words behind the verb that a source follows. -/
structure IsProjection (ws p : List (List Char)) : Prop where
  projects : Projects ws p
  least : ∀ q, Projects ws q → p.length ≤ q.length

/-- The fewest characters, at least one, behind which a source begins. -/
def projection? : List Char → Option (List Char)
  | [] => none
  | c :: r => if isSource r then some [c] else (projection? r).map (c :: ·)

/-- The check of a statement stops behind its projection. -/
theorem isSome_projection? (s : List Char) : (projection? s).isSome = isProjected s := by
  induction s with
  | nil => rfl
  | cons c r ih =>
    rw [projection?, isProjected]
    split
    next source => simp [source]
    next other => simp [other, ih]

theorem projection?_eq_some {p t : List Char} (some : p ≠ []) (source : isSource t = true)
    (least : ∀ q u, p ++ t = q ++ u → q ≠ [] → isSource u = true → p.length ≤ q.length) :
    projection? (p ++ t) = .some p := by
  induction p with
  | nil => contradiction
  | cons c p ih =>
    rw [List.cons_append, projection?]
    split
    next here =>
      have short := least [c] (p ++ t) rfl (by simp) here
      obtain rfl : p = [] := by simpa using short
      rfl
    next other =>
      have more : p ≠ [] := by
        rintro rfl
        exact other source
      have rest : projection? (p ++ t) = .some p := by
        refine ih more fun q u cut _ source' => ?_
        have longer := least (c :: q) u (by simp [cut]) (by simp) source'
        simpa using longer
      rw [rest]
      rfl

theorem Projects.from_behind (projects : Projects ws p) :
    p.length ≠ 0 ∧ ∃ f ∈ ws[p.length + 1]?, Spells "FROM" f := by
  obtain ⟨v, _, rfl, some, f, n, e, rfl, spelled, -⟩ := projects
  exact ⟨by simpa using some, f, by simp, spelled⟩

theorem exists_isProjection (statement : IsStatement ws) : ∃ p, IsProjection ws p := by
  obtain ⟨v, p, t, cut, -, some, source⟩ := (isStatement_iff ws).mp statement
  have found : ∃ n p, Projects ws p ∧ p.length = n := ⟨_, p, ⟨v, t, cut, some, source⟩, rfl⟩
  classical
  obtain ⟨p, projects, shortest⟩ := Nat.find_spec found
  refine ⟨p, projects, fun q other => ?_⟩
  rw [shortest]
  exact Nat.find_min' found ⟨q, other, rfl⟩

theorem IsProjection.unique {q : List (List Char)} (first : IsProjection ws p)
    (second : IsProjection ws q) : p = q := by
  obtain ⟨v, t, cut, -⟩ := first.projects
  obtain ⟨v', t', cut', -⟩ := second.projects
  have same := (List.cons.inj (cut.symm.trans cut')).2
  have long := le_antisymm (first.least q second.projects) (second.least p first.projects)
  exact List.append_inj_left same long

/-! ### Characters of a projection -/

theorem isSource_join_iff {us vs : List (List Char)} (all : ∀ w ∈ us ++ vs, IsWord w)
    (some : us ≠ []) (more : vs ≠ []) :
    isSource (' ' :: join [' '] vs) = true ↔ IsSourceWords vs := by
  have cut : join [' '] (us ++ vs) = join [' '] us ++ ' ' :: join [' '] vs := by
    rw [join_append [' '] some more, List.append_assoc]
    rfl
  obtain ⟨-, others⟩ := List.forall_mem_append.mp all
  have line : '\n' ∉ ' ' :: join [' '] vs := by simpa using (isNormal_join others).oneLine
  rw [isSource_iff line]
  refine ⟨fun tail => ?_, IsSourceWords.isTail others⟩
  have source := tail.isSourceWords (isNormal_join all) cut
  rwa [words_cons _ isBlank_space, words_join others] at source

theorem length_join_mono {us vs : List (List Char)} (front : us <+: vs) :
    (join [' '] us).length ≤ (join [' '] vs).length := by
  obtain ⟨rest, rfl⟩ := front
  by_cases none : us = []
  · subst none
    exact Nat.zero_le _
  by_cases last : rest = []
  · rw [last, List.append_nil]
  · rw [join_append [' '] none last, List.append_assoc, List.length_append]
    exact Nat.le_add_right _ _

/-- The characters that the check takes for the projection are those of its words. -/
theorem projection?_join {v : List Char} {t : List (List Char)} (projection : IsProjection ws p)
    (cut : ws = v :: p ++ t) (all : ∀ w ∈ ws, IsWord w) (some : p ≠ []) (source : IsSourceWords t) :
    projection? (join [' '] (p ++ t)) = .some (join [' '] p) := by
  have others : ∀ w ∈ p ++ t, IsWord w := fun w member => all w (by simp [cut, member])
  rw [join_append [' '] some source.ne_nil, List.append_assoc]
  refine projection?_eq_some ?_ ((isSource_join_iff others some source.ne_nil).mpr source) ?_
  · obtain ⟨c, r, first, -⟩ := exists_cons_join some fun w member => others w (by simp [member])
    simp [first]
  intro q u run _ source'
  have whole : join [' '] (p ++ t) = q ++ u := by
    rw [join_append [' '] some source.ne_nil, List.append_assoc, ← run]
  have line : '\n' ∉ u := fun inside =>
    (isNormal_join others).oneLine (by rw [whole]; exact List.mem_append_right q inside)
  -- The source begins with a space, which stands between two words.
  obtain ⟨f, n, e, begins, -⟩ := (isSource_iff line).mp source'
  obtain ⟨y, rfl⟩ : ∃ y, u = ' ' :: y := ⟨f ++ ' ' :: n ++ e, by simp [begins]⟩
  obtain ⟨us, vs, parts, some', more, rfl, rfl⟩ := exists_of_join_eq_append_space others whole
  have source'' : IsSourceWords vs := (isSource_join_iff (parts ▸ others) some' more).mp source'
  have short := projection.least us ⟨v, vs, by simp [cut, parts], some', source''⟩
  exact length_join_mono
    (List.prefix_of_prefix_length_le ⟨t, rfl⟩ ⟨vs, parts.symm⟩ short)

/-! ### Descriptions of projections -/

theorem Spells.writes {keyword : String} {w : List Char}
    (capitals : ∀ k ∈ keyword.toList, k.isLower = false) (plain : IsCapital keyword)
    (spelled : Spells keyword w) : Writes keyword w :=
  (forall₂_sameLetter_iff plain w).mp (Spells.sameLetters capitals spelled)

/-- The words begin like all of a table: a star alone, or a star and a word that begins with
`FROM`. -/
def IsStarred (p : List (List Char)) : Prop :=
  p = [['*']] ∨ ∃ u r, p = ['*'] :: u :: r ∧ Begins "FROM" u

theorem selectsAll_iff {v f : List Char} {r : List (List Char)} (some : p ≠ [])
    (select : Writes "SELECT" v) (source : Begins "FROM" f) :
    SelectsAll (v :: p ++ f :: r) ↔ IsStarred p := by
  rcases p with _ | ⟨star, _ | ⟨u, p⟩⟩
  · contradiction
  · simp [SelectsAll, IsStarred, select, source]
  · simp [SelectsAll, IsStarred, select]

theorem selects_of_source {v f : List Char} {r : List (List Char)} (some : p ≠ [])
    (select : Writes "SELECT" v) (source : Begins "FROM" f) : Selects (v :: p ++ f :: r) := by
  have positive := List.length_pos_iff.mpr some
  exact ⟨⟨v, rfl, select⟩, p.length + 1, by omega, f, by simp, source⟩

/-- What is said of a selection by its projection. -/
structure Kind.Tells (kind : Kind) (p : List (List Char)) : Prop where
  allColumns : kind.sentence = Kind.allColumns.sentence ↔ IsStarred p
  someColumns : kind.sentence = Kind.someColumns.sentence ↔ ¬IsStarred p

theorem Kind.ToldBy.tells {kind : Kind} {v : List Char} {t : List (List Char)}
    (told : kind.ToldBy (v :: p ++ t)) (some : p ≠ []) (select : Writes "SELECT" v)
    (source : IsSourceWords t) : kind.Tells p := by
  obtain ⟨f, n, e, rfl, spelled, -⟩ := source
  have begins : Begins "FROM" f :=
    ⟨f, [], by simp, Spells.writes (by decide) (by decide) spelled⟩
  have all := selectsAll_iff (r := n :: e) some select begins
  have selects := selects_of_source (r := n :: e) some select begins
  constructor
  · rw [Kind.sentence_injective.eq_iff, told.allColumns, all]
  · rw [Kind.sentence_injective.eq_iff, told.someColumns, all]
    exact and_iff_left selects

/-- A selection has one projection, which the check of the statement stops behind, and it is said to
select all columns exactly if the projection is a star or begins with one before a word that begins
with `FROM`. -/
theorem describe_projection {text : String} (accepted : accepts text = true)
    (reads : Reads text.toList ws) (select : ∃ v ∈ ws[0]?, Spells "SELECT" v) :
    ∃ p kind, IsProjection ws p ∧ (∀ q, IsProjection ws q → q = p) ∧
      (afterWord? "SELECT " (collapse text.toList)).bind projection? = some (join [' '] p) ∧
      (Service.describe text).outcome = .ok kind ∧ kind.Tells p := by
  obtain rfl := reads.words_eq
  have all : ∀ w ∈ words text.toList, IsWord w := fun _ => isWord_of_mem_words
  have statement : IsStatement (words text.toList) := by
    rw [← hasForm_collapse_iff]
    exact (hasShape_iff (isNormal_collapse _).oneLine).mp accepted
  obtain ⟨p, projection⟩ := exists_isProjection statement
  obtain ⟨v, t, cut, some, source⟩ := projection.projects
  obtain ⟨u, first, spelled⟩ := select
  obtain rfl : v = u := by simpa [cut] using first
  have written : Writes "SELECT" v := Spells.writes (by decide) (by decide) spelled
  refine ⟨p, _, projection, fun q other => other.unique projection, ?_,
    Service.outcome_describe text, ?_⟩
  · have whole : collapse text.toList = v ++ ' ' :: join [' '] (p ++ t) := by
      rw [collapse, cut, List.cons_append, join_cons [' '] v (by simp [some]), List.append_assoc]
      rfl
    have behind : afterWord? "SELECT " (collapse text.toList) = .some (join [' '] (p ++ t)) :=
      (afterWord?_verb_iff (show "SELECT" ∈ verbs by decide) _ _).mpr ⟨v, whole, spelled⟩
    rw [behind]
    exact projection?_join projection cut all some source
  · have told := kindOf_join all
    rw [cut] at told
    rw [Kind.ofText, collapse, cut]
    exact told.tells some written source

/-- A statement that selects more than a star is said to select all columns. -/
theorem describe_star_before_column :
    let text := "SELECT * FROMX a FROM t"
    let p := ["*", "FROMX", "a"].map String.toList
    accepts text = true ∧ p ≠ [['*']] ∧
      ∃ ws kind, Reads text.toList ws ∧ (∃ v ∈ ws[0]?, Spells "SELECT" v) ∧ IsProjection ws p ∧
        (Service.describe text).outcome = .ok kind ∧
        kind.sentence = Kind.allColumns.sentence := by
  intro text p
  have projects : Projects (words text.toList) p :=
    ⟨"SELECT".toList, ["FROM", "t"].map String.toList, by decide, by decide, "FROM".toList,
      "t".toList, [], by decide, by decide, by decide, .inl rfl⟩
  refine ⟨by decide, by decide, words text.toList, .allColumns, (reads_iff _ _).mpr rfl,
    ⟨"SELECT".toList, by decide, by decide⟩, ⟨projects, fun q other => ?_⟩, ?_, rfl⟩
  · -- Behind fewer words there is no `FROM`.
    obtain ⟨some, f, behind, spelled⟩ := other.from_behind
    have none : ∀ n < 3, n ≠ 0 → ∀ f ∈ (words text.toList)[n + 1]?, ¬Spells "FROM" f := by decide
    by_contra short
    exact none q.length (not_le.mp short) some f behind spelled
  · rw [Service.outcome_describe]
    decide

/-- The projection goes on behind a `FROM` that no table follows, and is starred nevertheless. -/
theorem describe_two_sources :
    let text := "select *  from a, b FROM t\n"
    let ws := ["select", "*", "from", "a,", "b", "FROM", "t"].map String.toList
    accepts text = true ∧ Reads text.toList ws ∧ (∃ v ∈ ws[0]?, Spells "SELECT" v) ∧
      ∃ p kind, IsProjection ws p ∧ (∀ q, IsProjection ws q → q = p) ∧
        (afterWord? "SELECT " (collapse text.toList)).bind projection? = some (join [' '] p) ∧
        (Service.describe text).outcome = .ok kind ∧ kind.Tells p := by
  intro text ws
  have accepted : accepts text = true := by decide
  have reads : Reads text.toList ws := (reads_iff _ _).mpr (by decide)
  have select : ∃ v ∈ ws[0]?, Spells "SELECT" v := ⟨"select".toList, by decide, by decide⟩
  exact ⟨accepted, reads, select, describe_projection accepted reads select⟩

end TableTalk.Statement
