import TableTalk.Execution.PseudoQuery
import TableTalk.Proofs.Keywords

/-!
# TableTalk.Proofs.Literals

Pseudo-queries, read back. Filter values may hold any characters, among them those that
pseudo-queries are written with; the reader below finds the end of each value, so that no value can
be taken for something else.

## Main results

- `readLiteral?_eq_some_iff`: a literal is read up to its closing quote and no further.
- `readNames?_eq_some_iff`: a list of literals is read up to the parenthesis behind it.
- `read?_render`: the reader takes exactly the pseudo-queries of intents whose table has no space in
  its name, and gives back the intent. Two such intents with one pseudo-query are equal.

## Proof strategy

Each reader has one lemma, an equivalence between what it returns and how the text is put together.
The lemma of a reader uses those of the readers that it calls, and no lemma looks into another
reader.
-/

namespace TableTalk

/-- The name of the table has no space. -/
def QueryIntent.SpaceFree (intent : QueryIntent) : Prop :=
  ' ' ∉ intent.sourceTable.toList

namespace PseudoQuery

open Text

/-! ### Literals -/

/-- A text with each quote written twice. -/
def doubled (s : List Char) : List Char :=
  s.flatMap fun c => if c = '\x27' then ['\x27', '\x27'] else [c]

/-- The text does not begin with a quote. -/
def NoQuote (s : List Char) : Prop :=
  s.head? ≠ some '\x27'

/-- The text of a literal whose opening quote is read, and what stands behind the literal: two
quotes are one of the text, and one alone ends it. -/
def readInside? : List Char → Option (List Char × List Char)
  | [] => none
  | '\x27' :: '\x27' :: r => (readInside? r).map fun (s, rest) => ('\x27' :: s, rest)
  | '\x27' :: r => some ([], r)
  | c :: r => (readInside? r).map fun (s, rest) => (c :: s, rest)

/-- The text of the literal at the front, and what stands behind it. -/
def readLiteral? : List Char → Option (List Char × List Char)
  | '\x27' :: r => readInside? r
  | _ => none

theorem literal_append (s r : List Char) :
    literal s ++ r = '\x27' :: (doubled s ++ '\x27' :: r) := by
  simp [literal, doubled]

-- Doubled quotes are read in pairs and never end the literal, whatever stands behind them.
theorem readInside?_append (s t : List Char) :
    readInside? (doubled s ++ t) = (readInside? t).map fun (more, rest) => (s ++ more, rest) := by
  induction s with
  | nil => simp [doubled]
  | cons c s ih =>
    by_cases quote : c = '\x27'
    · subst quote
      have step : doubled ('\x27' :: s) = '\x27' :: '\x27' :: doubled s := by simp [doubled]
      rw [step, List.cons_append, List.cons_append, readInside?, ih, Option.map_map]
      rfl
    · have step : doubled (c :: s) = c :: doubled s := by simp [doubled, quote]
      rw [step, List.cons_append]
      simp [readInside?, quote, ih, Function.comp_def]

theorem readInside?_doubled (s : List Char) {r : List Char} (ends : NoQuote r) :
    readInside? (doubled s ++ '\x27' :: r) = some (s, r) := by
  have closed : readInside? ('\x27' :: r) = some ([], r) := by
    cases r with
    | nil => rfl
    | cons c r =>
      have other : c ≠ '\x27' := by simpa [NoQuote] using ends
      simp [readInside?, other]
  rw [readInside?_append, closed]
  simp

theorem eq_of_readInside? {t s r : List Char} (found : readInside? t = some (s, r)) :
    t = doubled s ++ '\x27' :: r ∧ NoQuote r := by
  fun_induction readInside? t generalizing s r with
  | case1 => cases found
  | case2 t ih =>
    obtain ⟨⟨s', r'⟩, inner, same⟩ := Option.map_eq_some_iff.mp found
    obtain ⟨rfl, rfl⟩ := Prod.mk.inj same
    obtain ⟨rfl, ends⟩ := ih inner
    exact ⟨by simp [doubled], ends⟩
  | case3 t alone =>
    obtain ⟨rfl, rfl⟩ := Prod.mk.inj (Option.some.inj found)
    refine ⟨by simp [doubled], ?_⟩
    cases t with
    | nil => simp [NoQuote]
    | cons c t =>
      have other : c ≠ '\x27' := fun quote => alone t (by rw [quote])
      simpa [NoQuote] using other
  | case4 c t _ quote ih =>
    obtain ⟨⟨s', r'⟩, inner, same⟩ := Option.map_eq_some_iff.mp found
    obtain ⟨rfl, rfl⟩ := Prod.mk.inj same
    obtain ⟨rfl, ends⟩ := ih inner
    have other : c ≠ '\x27' := quote
    exact ⟨by simp [doubled, other], ends⟩

/-- A literal is read up to its closing quote and no further. -/
theorem readLiteral?_eq_some_iff (t s r : List Char) :
    readLiteral? t = some (s, r) ↔ t = literal s ++ r ∧ NoQuote r := by
  rw [literal_append]
  constructor
  · intro found
    unfold readLiteral? at found
    split at found
    · next t =>
      obtain ⟨rfl, ends⟩ := eq_of_readInside? found
      exact ⟨rfl, ends⟩
    · cases found
  · rintro ⟨rfl, ends⟩
    exact readInside?_doubled s ends

/-! ### Lists of literals -/

theorem length_lt_of_readLiteral? {t s r : List Char} (found : readLiteral? t = some (s, r)) :
    r.length < t.length := by
  obtain ⟨rfl, -⟩ := (readLiteral?_eq_some_iff t s r).mp found
  simp [literal]
  omega

/-- The texts of the literals at the front, at least one, with a comma and a space between two and a
parenthesis behind the last, and what stands behind the parenthesis. -/
def readSome? (t : List Char) : Option (List (List Char) × List Char) :=
  match _found : readLiteral? t with
  | some (s, ')' :: r) => some ([s], r)
  | some (s, ',' :: ' ' :: r) => (readSome? r).map fun (ss, rest) => (s :: ss, rest)
  | _ => none
termination_by t.length
decreasing_by
  have shorter := length_lt_of_readLiteral? ‹readLiteral? t = _›
  simp only [List.length_cons] at shorter
  omega

/-- The texts of a list of literals, which may be empty, and what stands behind its parenthesis. -/
def readNames? : List Char → Option (List (List Char) × List Char)
  | ')' :: r => some ([], r)
  | t => readSome? t

theorem readSome?_eq (t : List Char) :
    readSome? t =
      match readLiteral? t with
      | some (s, ')' :: r) => some ([s], r)
      | some (s, ',' :: ' ' :: r) => (readSome? r).map fun (ss, rest) => (s :: ss, rest)
      | _ => none := by
  rw [readSome?]
  split <;> simp [*]

theorem readSome?_join {names : List (List Char)} (some : names ≠ []) (r : List Char) :
    readSome? (join [',', ' '] (names.map literal) ++ ')' :: r) = .some (names, r) := by
  induction names with
  | nil => contradiction
  | cons s names ih =>
    cases names with
    | nil =>
      have found : readLiteral? (literal s ++ ')' :: r) = .some (s, ')' :: r) :=
        (readLiteral?_eq_some_iff _ _ _).mpr ⟨rfl, by simp [NoQuote]⟩
      rw [List.map_singleton, join, readSome?_eq, found]
      rfl
    | cons s' names =>
      have rest := ih (by simp)
      have found (t : List Char) :
          readLiteral? (literal s ++ ',' :: ' ' :: t) = .some (s, ',' :: ' ' :: t) :=
        (readLiteral?_eq_some_iff _ _ _).mpr ⟨rfl, by simp [NoQuote]⟩
      have cut : join [',', ' '] ((s :: s' :: names).map literal) ++ ')' :: r =
          literal s ++ ',' :: ' ' :: (join [',', ' '] ((s' :: names).map literal) ++ ')' :: r) := by
        rw [List.map_cons, join_cons _ _ (by simp)]
        simp
      rw [cut, readSome?_eq, found]
      simp only [rest, Option.map_some]

theorem eq_of_readSome? {t r : List Char} {names : List (List Char)}
    (found : readSome? t = some (names, r)) :
    names ≠ [] ∧ t = join [',', ' '] (names.map literal) ++ ')' :: r := by
  fun_induction readSome? t generalizing names r with
  | case1 t s t' inner =>
    obtain ⟨rfl, rfl⟩ := Prod.mk.inj (Option.some.inj found)
    obtain ⟨rfl, -⟩ := (readLiteral?_eq_some_iff _ _ _).mp inner
    exact ⟨by simp, rfl⟩
  | case2 t s t' inner ih =>
    obtain ⟨⟨names', r'⟩, more, same⟩ := Option.map_eq_some_iff.mp found
    obtain ⟨rfl, rfl⟩ := Prod.mk.inj same
    obtain ⟨some, rfl⟩ := ih more
    obtain ⟨rfl, -⟩ := (readLiteral?_eq_some_iff _ _ _).mp inner
    refine ⟨by simp, ?_⟩
    rw [List.map_cons, join_cons _ _ (by simpa using some)]
    simp
  | case3 => cases found

/-- A list of literals is read up to the parenthesis behind it. -/
theorem readNames?_eq_some_iff (t r : List Char) (names : List (List Char)) :
    readNames? t = some (names, r) ↔ t = join [',', ' '] (names.map literal) ++ ')' :: r := by
  -- A literal begins with a quote, so that a list that begins with the parenthesis is empty.
  constructor
  · intro found
    unfold readNames? at found
    split at found
    · obtain ⟨rfl, rfl⟩ := Prod.mk.inj (Option.some.inj found)
      rfl
    · exact (eq_of_readSome? found).2
  · rintro rfl
    cases names with
    | nil => rfl
    | cons s names =>
      have whole := readSome?_join (List.cons_ne_nil s names) r
      obtain ⟨t, first⟩ :
          ∃ t, join [',', ' '] ((s :: names).map literal) ++ ')' :: r = '\x27' :: t := by
        cases names with
        | nil => exact ⟨_, literal_append s _⟩
        | cons s' names =>
          rw [List.map_cons, join_cons _ _ (by simp), List.append_assoc, List.append_assoc]
          exact ⟨_, literal_append s _⟩
      rw [first] at whole ⊢
      exact whole

/-! ### Conditions -/

/-- The rest of a text behind another one at its front. -/
def behind? (front : String) (t : List Char) : Option (List Char) :=
  afterKeyword? (· == ·) front.toList t

theorem behind?_eq_some_iff (front : String) (t r : List Char) :
    behind? front t = some r ↔ t = front.toList ++ r :=
  afterKeyword?_beq_iff _ _ _

/-- The regions that the clause at the front admits, and what stands behind it. -/
def readRegions? (t : List Char) : Option (List String × List Char) := do
  let (names, r) ← readNames? (← behind? "region IN (" t)
  return (names.map .ofList, r)

/-- The product that the clause at the front admits, and what stands behind it. -/
def readProduct? (t : List Char) : Option (String × List Char) := do
  let (name, r) ← readLiteral? (← behind? "product = " t)
  return (.ofList name, r)

/-- The product that a text admits which is its clause and nothing else. -/
def readLastProduct? (t : List Char) : Option String :=
  match readProduct? t with
  | some (name, []) => some name
  | _ => none

/-- The filters of a condition, from its first clause on. -/
def readClauses? (t : List Char) : Option FilterSet :=
  match readRegions? t with
  | some (names, []) => some { region := names }
  | some (names, r) => do
    let name ← readLastProduct? (← behind? " AND " r)
    return { region := names, product := name }
  | none => do
    let name ← readLastProduct? t
    return { product := name }

/-- The filters of what stands behind the table. -/
def readCondition? (t : List Char) : Option FilterSet :=
  if t.isEmpty then some {} else (behind? " WHERE " t).bind readClauses?

theorem regionClause_append (names : List String) (r : List Char) :
    regionClause names ++ r =
      "region IN (".toList ++
        (join [',', ' '] ((names.map String.toList).map literal) ++ ')' :: r) := by
  unfold regionClause
  simp only [List.map_map, Function.comp_def, List.append_assoc, List.singleton_append]

theorem productClause_append (name : String) (r : List Char) :
    productClause name ++ r = "product = ".toList ++ (literal name.toList ++ r) := by
  unfold productClause
  rw [List.append_assoc]

theorem readRegions?_eq_some_iff (t r : List Char) (names : List String) :
    readRegions? t = some (names, r) ↔ t = regionClause names ++ r := by
  rw [regionClause_append]
  simp only [readRegions?, Option.bind_eq_bind, Option.bind_eq_some_iff, behind?_eq_some_iff,
    readNames?_eq_some_iff, Option.pure_def, Option.some.injEq, Prod.exists, Prod.mk.injEq]
  constructor
  · rintro ⟨t', rfl, ss, r', rfl, rfl, rfl⟩
    simp
  · rintro rfl
    exact ⟨_, rfl, names.map String.toList, r, rfl, by simp, rfl⟩

theorem readProduct?_eq_some_iff (t r : List Char) (name : String) :
    readProduct? t = some (name, r) ↔ t = productClause name ++ r ∧ NoQuote r := by
  rw [productClause_append]
  simp only [readProduct?, Option.bind_eq_bind, Option.bind_eq_some_iff, behind?_eq_some_iff,
    readLiteral?_eq_some_iff, Option.pure_def, Option.some.injEq, Prod.exists, Prod.mk.injEq]
  constructor
  · rintro ⟨t', rfl, s, r', ⟨rfl, ends⟩, rfl, rfl⟩
    rw [String.toList_ofList (l := s)]
    exact ⟨rfl, ends⟩
  · rintro ⟨rfl, ends⟩
    exact ⟨_, rfl, name.toList, r, ⟨rfl, ends⟩, String.ofList_toList, rfl⟩

theorem readLastProduct?_eq_some_iff (t : List Char) (name : String) :
    readLastProduct? t = some name ↔ t = productClause name := by
  have all : readLastProduct? t = some name ↔ readProduct? t = some (name, []) := by
    unfold readLastProduct?
    split <;> simp_all
  rw [all, readProduct?_eq_some_iff, List.append_nil]
  simp [NoQuote]

-- The two clauses begin with different letters.
theorem readRegions?_productClause (name : String) : readRegions? (productClause name) = none := by
  rfl

theorem readClauses?_eq_some_iff (t : List Char) (f : FilterSet) :
    readClauses? t = some f ↔ clauses f ≠ [] ∧ t = join " AND ".toList (clauses f) := by
  constructor
  · intro found
    unfold readClauses? at found
    split at found
    next names regions =>
      obtain rfl := Option.some.inj found
      have cut := (readRegions?_eq_some_iff _ _ _).mp regions
      rw [List.append_nil] at cut
      exact ⟨List.cons_ne_nil _ _, cut⟩
    next names r _ regions =>
      simp only [Option.bind_eq_bind, Option.bind_eq_some_iff, behind?_eq_some_iff,
        readLastProduct?_eq_some_iff, Option.pure_def] at found
      obtain ⟨r', rfl, name, rfl, same⟩ := found
      obtain rfl := Option.some.inj same
      have cut := (readRegions?_eq_some_iff _ _ _).mp regions
      rw [← List.append_assoc] at cut
      exact ⟨List.cons_ne_nil _ _, cut⟩
    next =>
      simp only [Option.bind_eq_bind, Option.bind_eq_some_iff, readLastProduct?_eq_some_iff,
        Option.pure_def] at found
      obtain ⟨name, rfl, same⟩ := found
      obtain rfl := Option.some.inj same
      exact ⟨List.cons_ne_nil _ _, rfl⟩
  · rintro ⟨some, rfl⟩
    obtain ⟨_ | names, _ | name⟩ := f
    · exact absurd rfl some
    · have last := (readLastProduct?_eq_some_iff (productClause name) name).mpr rfl
      change readClauses? (productClause name) = _
      rw [readClauses?, readRegions?_productClause, last]
      rfl
    · have regions : readRegions? (regionClause names) = .some (names, []) :=
        (readRegions?_eq_some_iff _ _ _).mpr (List.append_nil _).symm
      change readClauses? (regionClause names) = _
      rw [readClauses?, regions]
    · have regions : readRegions? (regionClause names ++ " AND ".toList ++ productClause name) =
          .some (names, " AND ".toList ++ productClause name) :=
        (readRegions?_eq_some_iff _ _ _).mpr (List.append_assoc _ _ _)
      have behind : behind? " AND " (" AND ".toList ++ productClause name) =
          .some (productClause name) := (behind?_eq_some_iff _ _ _).mpr rfl
      have last := (readLastProduct?_eq_some_iff (productClause name) name).mpr rfl
      change readClauses? (regionClause names ++ " AND ".toList ++ productClause name) = _
      rw [readClauses?, regions]
      change (behind? " AND " (" AND ".toList ++ productClause name)).bind _ = _
      rw [behind, Option.bind_some, last]
      rfl

theorem readCondition?_eq_some_iff (t : List Char) (f : FilterSet) :
    readCondition? t = some f ↔ t = condition f := by
  have none_iff : clauses f = [] ↔ f = {} := by
    obtain ⟨_ | names, _ | name⟩ := f <;> simp [clauses]
  unfold readCondition? condition
  by_cases empty : clauses f = []
  · obtain rfl := none_iff.mp empty
    cases t with
    | nil => simp [empty]
    | cons c t =>
      simp [Option.bind_eq_some_iff, readClauses?_eq_some_iff, empty]
  · have other : f ≠ {} := fun same => empty (none_iff.mpr same)
    cases t with
    | nil => simp [empty, other.symm]
    | cons c t =>
      simp only [List.isEmpty_cons, Bool.false_eq_true, if_false, Option.bind_eq_some_iff,
        behind?_eq_some_iff, readClauses?_eq_some_iff, List.isEmpty_iff, empty, ne_eq,
        not_false_eq_true, true_and]
      constructor
      · rintro ⟨r, cut, rfl⟩
        exact cut
      · intro cut
        exact ⟨_, cut, rfl⟩

/-! ### Intents -/

/-- The operation with a projection. -/
def operationOf? (name : String) : Option Operation :=
  Operation.all.find? fun operation => projection operation = name

theorem operationOf?_eq_some_iff (name : String) (operation : Operation) :
    operationOf? name = some operation ↔ projection operation = name := by
  constructor
  · intro found
    simpa using List.find?_some found
  · rintro rfl
    cases operation <;> rfl

/-- The word at the front, up to the next space, and the rest from this space on. -/
def cutAtSpace (t : List Char) : List Char × List Char :=
  (t.takeWhile (· ≠ ' '), t.dropWhile (· ≠ ' '))

theorem cutAtSpace_append {w r : List Char} (solid : ' ' ∉ w) (ends : ∀ c ∈ r.head?, c = ' ') :
    cutAtSpace (w ++ r) = (w, r) := by
  have inside : ∀ c ∈ w, decide (c ≠ ' ') = true := by
    intro c member
    rw [decide_eq_true_iff]
    rintro rfl
    exact solid member
  have outside : ∀ c ∈ r.head?, decide (c ≠ ' ') = false := by simpa using ends
  rw [cutAtSpace, takeWhile_append_stop inside outside, dropWhile_append_stop inside outside]

theorem cutAtSpace_cut (t : List Char) : (cutAtSpace t).1 ++ (cutAtSpace t).2 = t :=
  List.takeWhile_append_dropWhile

theorem cutAtSpace_solid (t : List Char) : ' ' ∉ (cutAtSpace t).1 := by
  intro inside
  simpa using List.mem_takeWhile_imp inside

/-- The intent of a pseudo-query. -/
def readChars? (t : List Char) : Option QueryIntent := do
  let (name, r) := cutAtSpace (← behind? "SELECT " t)
  let operation ← operationOf? (.ofList name)
  let (table, r') := cutAtSpace (← behind? " FROM " r)
  let filters ← readCondition? r'
  return { sourceTable := .ofList table, operation, filters }

theorem projection_spaceFree (operation : Operation) : ' ' ∉ (projection operation).toList := by
  cases operation <;> decide

theorem condition_begins (f : FilterSet) : ∀ c ∈ (condition f).head?, c = ' ' := by
  unfold condition
  split
  · rintro c ⟨⟩
  · rintro c ⟨⟩
    rfl

theorem chars_eq (intent : QueryIntent) :
    chars intent = "SELECT ".toList ++ ((projection intent.operation).toList ++
      (" FROM ".toList ++ (intent.sourceTable.toList ++ condition intent.filters))) := by
  unfold chars
  simp only [List.append_assoc]

theorem readChars?_chars {intent : QueryIntent} (spaceFree : intent.SpaceFree) :
    readChars? (chars intent) = some intent := by
  have ends : ∀ c ∈ (" FROM ".toList ++
      (intent.sourceTable.toList ++ condition intent.filters)).head?, c = ' ' := by
    rintro c ⟨⟩
    rfl
  have named := cutAtSpace_append (projection_spaceFree intent.operation) ends
  have tabled := cutAtSpace_append spaceFree (condition_begins intent.filters)
  have operated := (operationOf?_eq_some_iff _ intent.operation).mpr rfl
  have filtered := (readCondition?_eq_some_iff _ intent.filters).mpr rfl
  rw [chars_eq, readChars?, (behind?_eq_some_iff "SELECT " _ _).mpr rfl]
  simp only [Option.bind_eq_bind, Option.bind_some, named, String.ofList_toList, operated,
    (behind?_eq_some_iff " FROM " _ _).mpr rfl, tabled, filtered]
  rfl

theorem eq_of_readChars? {t : List Char} {intent : QueryIntent}
    (found : readChars? t = some intent) : t = chars intent ∧ intent.SpaceFree := by
  simp only [readChars?, Option.bind_eq_bind, Option.bind_eq_some_iff, behind?_eq_some_iff,
    operationOf?_eq_some_iff, readCondition?_eq_some_iff, Option.pure_def, Option.some.injEq]
    at found
  obtain ⟨u, rfl, operation, named, v, behind, filters, conditioned, rfl⟩ := found
  have front := cutAtSpace_cut u
  rw [behind, ← cutAtSpace_cut v, conditioned] at front
  refine ⟨?_, by simpa [QueryIntent.SpaceFree] using cutAtSpace_solid v⟩
  rw [chars_eq, ← front]
  simp only [named, String.toList_ofList]

end PseudoQuery

namespace QueryIntent

/-- The intent of a pseudo-query. -/
def read? (text : String) : Option QueryIntent :=
  PseudoQuery.readChars? text.toList

theorem read?_eq_some_iff (text : String) (intent : QueryIntent) :
    read? text = some intent ↔ text = intent.render ∧ intent.SpaceFree := by
  rw [render, ← String.toList_inj, String.toList_ofList]
  constructor
  · exact PseudoQuery.eq_of_readChars?
  · rintro ⟨cut, spaceFree⟩
    rw [read?, cut]
    exact PseudoQuery.readChars?_chars spaceFree

/-- The pseudo-query of an intent whose table has no space in its name is read as this intent; no
other text is, and it is the pseudo-query of no other such intent. -/
theorem read?_render {intent : QueryIntent} (spaceFree : intent.SpaceFree) :
    read? intent.render = some intent ∧
    (∀ text, read? text = some intent → text = intent.render) ∧
    ∀ other : QueryIntent, other.SpaceFree → other.render = intent.render → other = intent := by
  have found := (read?_eq_some_iff _ _).mpr ⟨rfl, spaceFree⟩
  refine ⟨found, fun text read => ((read?_eq_some_iff _ _).mp read).1, ?_⟩
  intro other spaceFree' same
  have found' := (read?_eq_some_iff _ other).mpr ⟨rfl, spaceFree'⟩
  rw [same, found] at found'
  exact (Option.some.inj found').symm

/-- Values that imitate the ends of literals and the clauses behind them are read back. -/
theorem read?_render_imitation :
    let intent : QueryIntent :=
      { sourceTable := "sales", operation := .sum
        filters := { region := some ["') AND product = 'x", "", "', '"], product := some "'" } }
    ' ' ∉ intent.sourceTable.toList ∧ read? intent.render = some intent := by
  intro intent
  have spaceFree : intent.SpaceFree := by
    rw [SpaceFree]
    decide
  exact ⟨spaceFree, (read?_render spaceFree).1⟩

end QueryIntent

end TableTalk
