import TableTalk.Evaluation.Verdict
import TableTalk.Proofs.CatalogValues
import TableTalk.Proofs.DatasetAnswers

/-!
# TableTalk.Proofs.Verdicts

The judgement of answers: what a question expects is compared with what it is answered, and one
question has nothing to do with another.

## Main result

- `Evaluation.evaluate_judged`: questions get one verdict each, in order. A question that fails is
  judged wrong in everything; any other is judged by the operation, the filters and the number of
  rows that it expects, and by nothing else.

## Proof strategy

Expected filters agree with those found if they are the same fields in any order
(`FilterSet.agrees_iff`), and a number is compared by what it stands for (`Value.equalsInt_iff`).
What the clock shows changes the time of an answer only (`Service.ask_timed`), so that a verdict is
the same as if its question had been asked alone (`judged_judge`).
-/

namespace TableTalk

/-! ### Values that are equal -/

/-- The number that is meant, if it is finite. -/
def Number.rational? : Number → Option ℚ
  | int i => some i
  | double (.finite negative units) => some (Double.signed negative units / Double.one)
  | double _ => none

-- The number of units in one has more than 1000 bits; the lemma is about any number in its place.
theorem div_eq_int_iff {one : ℕ} (pos : 0 < one) (units i : ℤ) :
    (units : ℚ) / one = i ↔ units = i * one := by
  have unit : (one : ℚ) ≠ 0 := by exact_mod_cast pos.ne'
  rw [div_eq_iff unit]
  norm_cast

theorem Number.equalsInt_iff (i : Int) (n : Number) :
    n.equalsInt i = true ↔ n.rational? = some (i : ℚ) := by
  cases n with
  | int j => simp [equalsInt, rational?, eq_comm]
  | double x =>
    cases x with
    | finite negative units =>
      simp only [equalsInt, rational?, decide_eq_true_eq, Option.some_inj]
      exact (div_eq_int_iff Double.one_pos _ i).symm
    | infinite negative => simp [equalsInt, rational?]
    | nan => simp [equalsInt, rational?]

namespace Value

/-- The number that a value counts as: true counts as one, and false as zero. -/
def quantity? : Value → Option ℚ
  | bool b => some b.toNat
  | number n => n.rational?
  | _ => none

theorem equalsInt_iff (i : Int) (v : Value) :
    v.equalsInt i = true ↔ v.quantity? = some (i : ℚ) := by
  unfold equalsInt quantity?
  split
  next b =>
    rw [decide_eq_true_iff, Option.some_inj, eq_comm]
    norm_cast
  next n => exact n.equalsInt_iff i
  next => simp

theorem equalsText_iff (s : String) (v : Value) : v.equalsText s = true ↔ v = .text s := by
  unfold equalsText
  split
  next t => simp
  next other => simpa using other s

theorem equalTexts_iff (names : List String) (items : List Value) :
    equalTexts names items = true ↔ items = names.map .text := by
  induction names generalizing items with
  | nil => cases items <;> simp [equalTexts]
  | cons name names ih =>
    cases items with
    | nil => simp [equalTexts]
    | cons v items => simp [equalTexts, equalsText_iff, ih]

theorem equalsTexts_iff (names : List String) (v : Value) :
    v.equalsTexts names = true ↔ v = .texts names := by
  unfold equalsTexts
  split
  next items => simp [equalTexts_iff, texts]
  next other => simpa [texts] using other _

/-- An object with these fields, in any order. -/
def IsRecord (fields : List (String × Value)) (v : Value) : Prop :=
  ∃ found, v = .object found ∧ found.Perm (fields.map fun (key, value) => (.text key, value))

theorem find?_eq_some_iff {key : String} {v : Value} {fields : List (Scalar × Value)}
    (distinct : (fields.map Prod.fst).Nodup) :
    find? key fields = some v ↔ (.text key, v) ∈ fields := by
  induction fields with
  | nil => simp [find?]
  | cons field fields ih =>
    obtain ⟨other, w⟩ := field
    rw [List.map_cons, List.nodup_cons] at distinct
    rw [find?_cons, List.mem_cons, Prod.mk.injEq]
    split
    next same =>
      have fresh : (.text key, v) ∉ fields := fun member =>
        distinct.1 (List.mem_map.mpr ⟨_, member, same.symm⟩)
      simp [same, fresh, eq_comm]
    next different =>
      simp [ih distinct.2, Ne.symm different]

theorem mem_of_find? {key : String} {v : Value} {fields : List (Scalar × Value)}
    (found : find? key fields = some v) : (.text key, v) ∈ fields := by
  obtain ⟨⟨other, w⟩, first, rfl⟩ := Option.map_eq_some_iff.mp found
  have same : other = .text key := by simpa using List.find?_some first
  exact same ▸ List.mem_of_find?_eq_some first

/-- Fields are those of a record in some order if there are as many and each of the record is
found. -/
theorem isRecord_object_iff {fields : List (String × Value)}
    (distinct : (fields.map Prod.fst).Nodup) (found : List (Scalar × Value)) :
    IsRecord fields (.object found) ↔
      found.length = fields.length ∧ ∀ field ∈ fields, find? field.1 found = some field.2 := by
  have keys : ((fields.map fun field => (Scalar.text field.1, field.2)).map Prod.fst).Nodup := by
    rw [List.map_map]
    have texts := distinct.map (f := Scalar.text) fun _ _ => Scalar.text.inj
    rwa [List.map_map] at texts
  constructor
  · rintro ⟨_, same, perm⟩
    obtain rfl := Value.object.inj same
    refine ⟨by simpa using perm.length_eq, fun field member => ?_⟩
    rw [find?_eq_some_iff ((perm.map Prod.fst).nodup_iff.mpr keys)]
    exact perm.mem_iff.mpr (List.mem_map_of_mem member)
  · rintro ⟨length, all⟩
    refine ⟨found, rfl, List.Perm.symm (List.Subperm.perm_of_length_le ?_ (by simp [length]))⟩
    refine List.subperm_of_subset keys.of_map fun field wanted => ?_
    obtain ⟨⟨key, v⟩, member, rfl⟩ := List.mem_map.mp wanted
    exact mem_of_find? (all (key, v) member)

theorem find?_setField (key other : String) (v : Value) (fields : List (Scalar × Value)) :
    find? key (setField (.text other) v fields) =
      if other = key then some v else find? key fields := by
  induction fields with
  | nil => simp [setField, find?]
  | cons field fields ih =>
    obtain ⟨first, w⟩ := field
    rw [setField]
    split
    next same =>
      subst same
      by_cases apart : other = key <;> simp [find?_cons, apart]
    next different =>
      rw [find?_cons, find?_cons, ih]
      by_cases same : first = .text key
      · have apart : other ≠ key := fun equal => different (equal ▸ same)
        simp [same, apart]
      · simp [same]

end Value

-- A test for one value is passed by what is found if this value is found.
theorem any_eq_iff {test : Value → Bool} {w : Value} (found : Option Value)
    (only : ∀ v, test v = true ↔ v = w) : found.any test = true ↔ found = some w := by
  cases found <;> simp [only]

theorem FilterSet.distinct_active (f : FilterSet) : (f.active.map Prod.fst).Nodup := by
  obtain ⟨region, product⟩ := f
  cases region <;> cases product <;> simp [active]

/-- Filters agree with the object that has the active ones as its fields, in any order. -/
theorem FilterSet.agrees_iff (f : FilterSet) (v : Value) :
    f.agrees v = true ↔ v.IsRecord f.active := by
  unfold agrees
  split
  next fields =>
    rw [Value.isRecord_object_iff f.distinct_active]
    have region (names : List String) := any_eq_iff (Value.find? "region" fields)
      (Value.equalsTexts_iff names)
    have product (name : String) := any_eq_iff (Value.find? "product" fields)
      (Value.equalsText_iff name)
    obtain ⟨regions, products⟩ := f
    cases regions <;> cases products <;> simp [active, region, product, and_assoc]
  next other =>
    have none : ¬v.IsRecord f.active := fun ⟨found, same, _⟩ => other found same
    simp [none]

theorem Value.texts_inj {names others : List String} (same : texts names = texts others) :
    names = others :=
  List.map_injective_iff.mpr (fun _ _ => by simp) (Value.list.inj same)

/-- Regions in the place of those found are the same ones if the filters still agree. -/
theorem FilterSet.region_of_isRecord {f : FilterSet} {names : List String}
    (same : (Value.record { f with region := some names }.active).IsRecord f.active) :
    f.region = some names := by
  obtain ⟨length, all⟩ := (Value.isRecord_object_iff f.distinct_active _).mp same
  obtain ⟨_ | regions, product⟩ := f
  · cases product <;> simp [active] at length
  · have found := all ("region", .texts regions) (by simp [active])
    have replaced : Value.texts names = .texts regions := by
      simpa [active, Value.find?_cons] using found
    exact congrArg some (Value.texts_inj replaced).symm

/-! ### Questions and the clock -/

namespace Service

variable {c : Configuration} {supply : Supply}

/-- A working clock decides how long an answer takes and nothing else. -/
theorem ask_timed (works : supply.clock.Works) (question : Value) :
    ∃ latency, (ask c none none question supply).1.outcome =
      (ask c none none question {}).1.outcome.map fun a => { a with latency } := by
  obtain ⟨latency, timed⟩ := works.time_succeeds
  have fresh : ({} : Supply).clock.time.1 = .ok 0 := rfl
  refine ⟨latency, ?_⟩
  by_cases blank : normalise question = ""
  · simp only [ask, blank]
    rfl
  · rw [outcome_ask_dataset blank, outcome_ask_dataset blank, timed, fresh]
    cases c.makeDataset.outcome with
    | error e => rfl
    | ok dataset =>
      cases c.catalog with
      | error e => rfl
      | ok k =>
        simp only [Traced.bind_ok]
        cases (answer (normalise question) dataset.store k).outcome <;> rfl

theorem clock_ask (works : supply.clock.Works) (question : Value) :
    (ask c none none question supply).2.clock.Works := by
  simp only [ask]
  split
  · exact works
  · split
    · exact works
    · exact works.read.2.read.2

end Service

namespace Evaluation

/-! ### What a question expects -/

section

variable (fields : List (Scalar × Value))

/-- The operation is the expected one; a selection is expected unless another is. -/
def ExpectsOperation (operation : Operation) : Prop :=
  (Value.find? "expected_operation" fields).getD (.text "SELECT") = .text operation.name

/-- The filters are the expected ones, in any order; none are expected unless some are. -/
def ExpectsFilters (filters : FilterSet) : Prop :=
  ((Value.find? "expected_filters" fields).getD (.object [])).IsRecord filters.active

/-- The number of rows is the expected one, if one is expected. -/
def ExpectsCount (count : Nat) : Prop :=
  ∀ v, Value.find? "expected_matched_count" fields = some v →
    v = .null ∨ v.quantity? = some (count : ℚ)

theorem judgeOperation_iff (operation : Operation) :
    Verdict.judgeOperation fields operation = true ↔ ExpectsOperation fields operation := by
  unfold Verdict.judgeOperation ExpectsOperation
  cases Value.find? "expected_operation" fields with
  | none => cases operation <;> simp [Operation.name]
  | some v => exact v.equalsText_iff operation.name

theorem judgeFilters_iff (filters : FilterSet) :
    Verdict.judgeFilters fields filters = true ↔ ExpectsFilters fields filters :=
  filters.agrees_iff _

theorem judgeCount_iff (count : Nat) :
    Verdict.judgeCount fields count = true ↔ ExpectsCount fields count := by
  unfold Verdict.judgeCount ExpectsCount
  split
  next absent => simp [absent]
  next absent => simp [absent]
  next v nonnull given =>
    have solid : v ≠ .null := nonnull
    simp [given, solid, Value.equalsInt_iff]

end

/-! ### Verdicts -/

/-- A verdict on the question of an object is right, by the answer to this question alone. -/
inductive Judged (c : Configuration) (fields : List (Scalar × Value)) : Verdict → Prop
  | failed {question : Value} {e : Error}
    (asks : Value.find? "question" fields = some question)
    (fails : (Service.ask c none none question {}).1.outcome = .error e) :
    Judged c fields {
      question
      error := some (e.message c.wording)
      latency := 0
      operationOk := false
      filtersOk := false
      countOk := false
      matchedCount := none
      pseudoQuery := ""
      success := false }
  | answered {v : Verdict} {a : Answer}
    (asks : Value.find? "question" fields = some v.question)
    (answers : (Service.ask c none none v.question {}).1.outcome = .ok a)
    (faultless : v.error = none)
    (matched : v.matchedCount = some a.execution.matchedCount)
    (rendered : v.pseudoQuery = a.execution.renderedQuery)
    (operation : v.operationOk = true ↔ ExpectsOperation fields a.intent.operation)
    (filters : v.filtersOk = true ↔ ExpectsFilters fields a.intent.filters)
    (count : v.countOk = true ↔ ExpectsCount fields a.execution.matchedCount)
    (success : v.success = true ↔ ExpectsOperation fields a.intent.operation ∧
      ExpectsFilters fields a.intent.filters ∧ ExpectsCount fields a.execution.matchedCount) :
    Judged c fields v

variable {c : Configuration} {fields : List (Scalar × Value)} {supply : Supply}

section

variable {question : Value}

theorem outcome_judge_error {e : Error}
    (fails : (Service.ask c none none question supply).1.outcome = .error e) :
    (judge c question fields supply).1.outcome = .ok (Verdict.failed c.wording question e) := by
  simp only [judge, fails]

theorem outcome_judge_ok {a : Answer}
    (answers : (Service.ask c none none question supply).1.outcome = .ok a) :
    (judge c question fields supply).1.outcome = .ok (Verdict.ofAnswer fields question a) := by
  simp only [judge, answers]

/-- What the clock shows and what was asked before does not matter to a verdict. -/
theorem judged_judge (asks : Value.find? "question" fields = some question)
    (works : supply.clock.Works) :
    ∃ v, (judge c question fields supply).1.outcome = .ok v ∧ Judged c fields v := by
  obtain ⟨latency, timed⟩ := Service.ask_timed (c := c) works question
  cases alone : (Service.ask c none none question {}).1.outcome with
  | error e =>
    rw [alone] at timed
    exact ⟨_, outcome_judge_error timed, .failed asks alone⟩
  | ok a =>
    rw [alone] at timed
    have operation := judgeOperation_iff fields a.intent.operation
    have filters := judgeFilters_iff fields a.intent.filters
    have count := judgeCount_iff fields a.execution.matchedCount
    refine ⟨_, outcome_judge_ok timed,
      .answered asks alone rfl rfl rfl operation filters count ?_⟩
    rw [← operation, ← filters, ← count, ← Bool.and_eq_true, ← Bool.and_eq_true, ← Bool.and_assoc]
    rfl

end

theorem clock_judge (works : supply.clock.Works) (question : Value) :
    (judge c question fields supply).2.clock.Works :=
  Service.clock_ask works question

theorem evaluate_cons {question : Value} (asks : Value.find? "question" fields = some question)
    (rest : List Value) :
    (evaluate c (.object fields :: rest) supply).1.outcome =
      (judge c question fields supply).1.outcome.bind fun first =>
        (evaluate c rest (judge c question fields supply).2).1.outcome.bind fun others =>
          .ok (first :: others) := by
  have required : (Value.object fields).required "question" = .ok question := by
    simp [Value.required, asks]
  simp [evaluate, required]

/-! ### Expectations that are filled in -/

/-- The answer to the question of an object, if it is asked alone. -/
def AnsweredBy (c : Configuration) (fields : List (Scalar × Value)) (a : Answer) : Prop :=
  ∃ question, Value.find? "question" fields = some question ∧
    (Service.ask c none none question {}).1.outcome = .ok a

/-- A question with what its answer was for its expectations. -/
def filled (fields : List (Scalar × Value)) (a : Answer) : List (Scalar × Value) :=
  Value.setField (.text "expected_matched_count") (.int a.execution.matchedCount)
    (Value.setField (.text "expected_filters") (.record a.intent.filters.active)
      (Value.setField (.text "expected_operation") (.text a.intent.operation.name) fields))

/-- A question with expectations from its answer, and whether they are right: other regions or
another operation are not. -/
inductive FilledIn (fields : List (Scalar × Value)) (a : Answer) :
    List (Scalar × Value) → Bool → Prop
  | rightly : FilledIn fields a (filled fields a) true
  | otherRegions {names : List String} (other : a.intent.filters.region ≠ some names) :
    FilledIn fields a (Value.setField (.text "expected_filters")
      (.record { a.intent.filters with region := some names }.active) (filled fields a)) false
  | otherOperation {v : Value} (other : v ≠ .text a.intent.operation.name) :
    FilledIn fields a (Value.setField (.text "expected_operation") v (filled fields a)) false

theorem find?_filled (key : String) (a : Answer) :
    Value.find? key (filled fields a) =
      if "expected_matched_count" = key then some (.int a.execution.matchedCount)
      else if "expected_filters" = key then some (.record a.intent.filters.active)
      else if "expected_operation" = key then some (.text a.intent.operation.name)
      else Value.find? key fields := by
  simp only [filled, Value.find?_setField]

theorem FilledIn.question {found : List (Scalar × Value)} {a : Answer} {success : Bool}
    (filledIn : FilledIn fields a found success) :
    Value.find? "question" found = Value.find? "question" fields := by
  cases filledIn <;> simp [Value.find?_setField, find?_filled]

theorem expects_filled (a : Answer) :
    ExpectsOperation (filled fields a) a.intent.operation ∧
      ExpectsFilters (filled fields a) a.intent.filters ∧
      ExpectsCount (filled fields a) a.execution.matchedCount := by
  refine ⟨by simp [ExpectsOperation, find?_filled], ?_, ?_⟩
  · simp only [ExpectsFilters, find?_filled]
    exact ⟨_, rfl, .refl _⟩
  · intro v given
    rw [find?_filled, if_pos rfl] at given
    obtain rfl := Option.some_inj.mp given
    exact .inr (congrArg some (Int.cast_natCast _))

/-- What a question is answered with passes as its expectations, and other regions or another
operation do not. -/
theorem Judged.success_of_filledIn {found : List (Scalar × Value)} {v : Verdict} {a : Answer}
    {success : Bool} (judged : Judged c found v) (answered : AnsweredBy c fields a)
    (filledIn : FilledIn fields a found success) : v.success = success := by
  obtain ⟨question, asks, answers⟩ := answered
  rw [← filledIn.question] at asks
  cases judged with
  | failed asks' fails =>
    obtain rfl := Option.some_inj.mp (asks'.symm.trans asks)
    rw [answers] at fails
    cases fails
  | answered asks' answers' _ _ _ _ _ _ succeeds =>
    obtain rfl := Option.some_inj.mp (asks'.symm.trans asks)
    obtain rfl := Except.ok.inj (answers'.symm.trans answers)
    cases filledIn with
    | rightly => exact succeeds.mpr (expects_filled _)
    | otherRegions other =>
      refine Bool.eq_false_iff.mpr fun passed => other ?_
      have same := (succeeds.mp passed).2.1
      simp only [ExpectsFilters, Value.find?_setField] at same
      exact FilterSet.region_of_isRecord same
    | otherOperation other =>
      refine Bool.eq_false_iff.mpr fun passed => other ?_
      have same := (succeeds.mp passed).1
      simpa [ExpectsOperation, Value.find?_setField] using same

/-! ### Evaluations -/

/-- Objects that each ask something get one verdict each, in order, and each verdict is right by the
answer to its own question alone. What a question is answered with passes as its expectations, and
other regions or another operation do not. -/
theorem evaluate_judged (c : Configuration) {objects : List (List (Scalar × Value))}
    (asking : ∀ fields ∈ objects, ∃ question, Value.find? "question" fields = some question)
    (works : supply.clock.Works) :
    ∃ verdicts, (evaluate c (objects.map .object) supply).1.outcome = .ok verdicts ∧
      List.Forall₂ (Judged c) objects verdicts ∧
      ∀ fields a success, AnsweredBy c fields a →
        List.Forall₂ (fun found v => FilledIn fields a found success → v.success = success)
          objects verdicts := by
  have judged : ∃ verdicts, (evaluate c (objects.map .object) supply).1.outcome = .ok verdicts ∧
      List.Forall₂ (Judged c) objects verdicts := by
    induction objects generalizing supply with
    | nil => exact ⟨[], rfl, .nil⟩
    | cons fields objects ih =>
      obtain ⟨⟨question, asks⟩, asking⟩ := List.forall_mem_cons.mp asking
      obtain ⟨v, first, judged⟩ := judged_judge asks works
      obtain ⟨verdicts, others, rest⟩ := ih asking (clock_judge works question)
      refine ⟨v :: verdicts, ?_, .cons judged rest⟩
      rw [List.map_cons, evaluate_cons asks, first, Traced.bind_ok, others, Traced.bind_ok]
  obtain ⟨verdicts, evaluated, judged⟩ := judged
  refine ⟨verdicts, evaluated, judged, fun fields a success answered => ?_⟩
  exact judged.imp fun found v right filledIn => right.success_of_filledIn answered filledIn

/-- A question that is missing, and one about a table without rows that expects false for zero. -/
theorem evaluate_judged_missing :
    let c : Configuration := { environment := [("DATASET_SIZE", "0")] }
    let objects : List (List (Scalar × Value)) := [[(.text "question", .null)],
      [(.text "question", .text "show sales"), (.text "expected_matched_count", .bool false)]]
    ∃ first second, (evaluate c (objects.map .object) {}).1.outcome = .ok [first, second] ∧
      first.error = some "Missing query" ∧ first.success = false ∧ second.success = true := by
  intro c objects
  have asking : ∀ fields ∈ objects, ∃ question, Value.find? "question" fields = some question := by
    simp [objects, Value.find?_cons]
  have works : ({} : Supply).clock.Works := by
    rintro reading ⟨⟩
  obtain ⟨verdicts, evaluated, judged, -⟩ := evaluate_judged c asking works
  obtain ⟨first, rest, missing, others, rfl⟩ := List.forall₂_cons_left_iff.mp judged
  obtain ⟨second, none, answered, last, rfl⟩ := List.forall₂_cons_left_iff.mp others
  obtain rfl := List.forall₂_nil_left_iff.mp last
  have refused : (Service.ask c none none .null {}).1.outcome = .error .missingQuestion := rfl
  have found : (Service.ask c none none (.text "show sales") {}).1.outcome.toOption.map
      (fun a => (a.intent, a.execution.matchedCount)) = some (⟨"sales", .select, {}⟩, 0) := by
    decide +kernel
  have null : Value.find? "question" [(.text "question", .null)] = some .null := rfl
  refine ⟨first, second, evaluated, ?_⟩
  cases missing with
  | answered asks answers =>
    rw [← Option.some_inj.mp (null.symm.trans asks), refused] at answers
    cases answers
  | failed asks fails =>
    obtain rfl := Option.some_inj.mp (null.symm.trans asks)
    obtain rfl := Except.error.inj (refused.symm.trans fails)
    refine ⟨rfl, rfl, ?_⟩
    cases answered with
    | failed asks fails =>
      obtain rfl := Option.some_inj.mp asks
      rw [fails] at found
      cases found
    | answered asks answers _ _ _ _ _ _ success =>
      rw [← Option.some_inj.mp asks] at answers
      rw [answers] at found
      obtain ⟨intent, count⟩ := Prod.mk.inj (Option.some_inj.mp found)
      rw [success, intent, count]
      refine ⟨rfl, ⟨[], rfl, .refl _⟩, fun v given => .inr ?_⟩
      obtain rfl := Option.some_inj.mp given
      simp [Value.quantity?]

end Evaluation

end TableTalk
