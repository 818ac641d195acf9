import TableTalk.Proofs.Answers
import TableTalk.Proofs.CatalogFiles
import TableTalk.Proofs.Seeding
import TableTalk.Http

/-!
# TableTalk.Proofs.DatasetAnswers

Questions that are answered from the dataset and the catalog of a configuration, whatever the file
of the catalog holds.

## Main results

- `Service.spares_ask`: a question that is not blank is never refused, however it fails.
- `Service.holds_ask`: the answer to a question has each property that the names in the vocabulary
  of the catalog have, if lists and records inherit it (`Value.Closed`). Such a property is to be
  sent as it is, unless halves of pairs stand alone in it (`Value.closed_sendable`).
-/

namespace TableTalk

/-! ### Values that are sent as they are -/

namespace Value

/-- A property of values that lists and records have if their parts have it. -/
structure Closed (P : Value → Prop) : Prop where
  null : P .null
  int (i : Int) : P (.int i)
  text (s : String) : P (.text s)
  list {items : List Value} (each : ∀ v ∈ items, P v) : P (.list items)
  record {fields : List (String × Value)} (each : ∀ field ∈ fields, P field.2) :
    P (.record fields)

namespace Closed

variable {P : Value → Prop}

theorem ofText? (closed : Closed P) (s : Option String) : P (.ofText? s) := by
  cases s with
  | none => exact closed.null
  | some s => exact closed.text s

theorem texts (closed : Closed P) (items : List String) : P (.texts items) := by
  refine closed.list fun v member => ?_
  obtain ⟨s, -, rfl⟩ := List.mem_map.mp member
  exact closed.text s

end Closed

/-- A value that is its own form for another program. -/
def Portable (v : Value) : Prop :=
  v.portable? = some v

theorem portable_list {items : List Value} (portable : ∀ v ∈ items, v.Portable) :
    Portable (.list items) := by
  have all : portableItems? items = some items := by
    induction items with
    | nil => rfl
    | cons v rest ih =>
      have first := portable v List.mem_cons_self
      have others := ih fun w member => portable w (List.mem_cons_of_mem _ member)
      rw [Portable] at first
      simp [portableItems?, first, others]
  simp [Portable, portable?, all]

theorem portable_record {fields : List (String × Value)}
    (portable : ∀ field ∈ fields, field.2.Portable) : Portable (.record fields) := by
  have all : portableFields? (fields.map fun field => (.text field.1, field.2)) =
      some (fields.map fun field => (.text field.1, field.2)) := by
    induction fields with
    | nil => rfl
    | cons field rest ih =>
      have first := portable field List.mem_cons_self
      have others := ih fun f member => portable f (List.mem_cons_of_mem _ member)
      rw [Portable] at first
      simp [portableFields?, Scalar.portableKey?, first, others, Scalar.shown]
  simp [Portable, portable?, record, all]

theorem closed_portable : Closed Portable where
  null := rfl
  int _ := rfl
  text _ := rfl
  list := portable_list
  record := portable_record

/-- A text in which halves of pairs stand alone is this value, or an item of a list or the value of
a field in it. -/
inductive HoldsTorn : Value → Prop
  | torn (codes : List Nat) : HoldsTorn (.torn codes)
  | item {items : List Value} {v : Value} (member : v ∈ items) (inside : HoldsTorn v) :
    HoldsTorn (.list items)
  | field {fields : List (Scalar × Value)} {key : Scalar} {v : Value}
    (member : (key, v) ∈ fields) (inside : HoldsTorn v) : HoldsTorn (.object fields)

theorem HoldsTorn.of_record {fields : List (String × Value)} (name : String) {v : Value}
    (member : (name, v) ∈ fields) (inside : v.HoldsTorn) : HoldsTorn (.record fields) :=
  .field (List.mem_map.mpr ⟨(name, v), member, rfl⟩) inside

theorem portableItems?_eq_none {items : List Value} {v : Value} (member : v ∈ items)
    (formless : v.portable? = none) : portableItems? items = none := by
  induction items with
  | nil => cases member
  | cons w rest ih =>
    rcases List.mem_cons.mp member with rfl | inside
    · simp [portableItems?, formless]
    · simp [portableItems?, ih inside]

theorem portableFields?_eq_none {fields : List (Scalar × Value)} {key : Scalar} {v : Value}
    (member : (key, v) ∈ fields) (formless : v.portable? = none) :
    portableFields? fields = none := by
  induction fields with
  | nil => cases member
  | cons other rest ih =>
    rcases List.mem_cons.mp member with rfl | inside
    · simp [portableFields?, formless]
    · simp [portableFields?, ih inside]

/-- Such a value has no form to be sent in. -/
theorem HoldsTorn.portable?_eq_none {v : Value} (holds : v.HoldsTorn) : v.portable? = none := by
  induction holds with
  | torn codes => rfl
  | item member _ formless => simp [portable?, portableItems?_eq_none member formless]
  | field member _ formless => simp [portable?, portableFields?_eq_none member formless]

theorem Portable.not_holdsTorn {v : Value} (portable : v.Portable) : ¬v.HoldsTorn := fun holds => by
  rw [Portable, holds.portable?_eq_none] at portable
  cases portable

/-- A value that is its own form for another program, unless such a text stands in it. -/
def Sendable (v : Value) : Prop :=
  ¬v.HoldsTorn → v.Portable

theorem closed_sendable : Closed Sendable where
  null _ := closed_portable.null
  int i _ := closed_portable.int i
  text s _ := closed_portable.text s
  list each whole := portable_list fun v member =>
    each v member fun inside => whole (.item member inside)
  record each whole := portable_record fun field member =>
    each field member fun inside => whole (.of_record field.1 member inside)

end Value

/-! ### What an answer is made of -/

section

variable {P : Value → Prop}

/-- A row whose product and region have a property, and whose amount is a whole number. -/
structure Row.Has (P : Value → Prop) (row : Row) : Prop where
  product : P row.product
  region : P row.region
  amount : ∃ i, row.amount = .int i

theorem Row.Has.toValue (closed : Value.Closed P) {row : Row} (has : row.Has P) :
    P row.toValue := by
  obtain ⟨i, amount⟩ := has.amount
  refine closed.record fun field member => ?_
  simp only [List.mem_cons, List.not_mem_nil, or_false] at member
  rcases member with rfl | rfl | rfl | rfl | rfl
  · exact closed.int _
  · exact has.product
  · exact has.region
  · rw [amount]
    exact closed.int _
  · exact closed.text _

theorem mem_of_mem_slice {α : Type} {start stop : Int} {items : List α} {a : α}
    (member : a ∈ slice start stop items) : a ∈ items :=
  List.mem_of_mem_take (List.mem_of_mem_drop member)

theorem Operation.holds_run (closed : Value.Closed P) (operation : Operation) {rows : List Row}
    (has : ∀ row ∈ rows, row.Has P) {preview : Int} {outcome : Outcome}
    (ran : operation.run rows preview = .ok outcome) : P outcome.wrapped := by
  have listed : P (Outcome.rows (slice 0 preview rows)).wrapped := by
    refine closed.list fun v member => ?_
    obtain ⟨row, shown, rfl⟩ := List.mem_map.mp member
    exact (has row (mem_of_mem_slice shown)).toValue closed
  cases operation with
  | count =>
    obtain rfl := Except.ok.inj ran
    exact closed.record (List.forall_mem_singleton.mpr (closed.int _))
  | sum =>
    obtain ⟨total, added⟩ := totalFrom_whole (fun row member => (has row member).amount) 0
    rw [run, added] at ran
    obtain rfl := Except.ok.inj ran
    exact closed.record (List.forall_mem_singleton.mpr (closed.int total))
  | select =>
    obtain rfl := Except.ok.inj ran
    exact listed
  | average =>
    obtain rfl := Except.ok.inj ran
    exact listed

theorem QueryIntent.holds_toValue (closed : Value.Closed P) (intent : QueryIntent) :
    P intent.toValue := by
  have filters : P intent.filters.toValue := by
    refine closed.record fun field member => ?_
    simp only [List.mem_cons, List.not_mem_nil, or_false] at member
    rcases member with rfl | rfl
    · cases intent.filters.region with
      | none => exact closed.null
      | some names => exact closed.texts names
    · exact closed.ofText? _
  refine closed.record fun field member => ?_
  simp only [List.mem_cons, List.not_mem_nil, or_false] at member
  rcases member with rfl | rfl | rfl
  · exact closed.text _
  · exact closed.text _
  · exact filters

theorem Http.holds_answerValue (closed : Value.Closed P) {a : Answer}
    (result : P a.execution.outcome.wrapped) : P (answerValue a) := by
  refine closed.record fun field member => ?_
  simp only [List.mem_cons, List.not_mem_nil, or_false] at member
  rcases member with rfl | rfl | rfl | rfl | rfl | rfl | rfl | rfl
  · exact closed.text _
  · exact result
  · exact closed.text _
  · exact closed.text _
  · exact closed.int _
  · exact a.intent.holds_toValue closed
  · exact closed.int _
  · exact closed.ofText? _

end

/-- The rows of the only table of a dataset are its rows. -/
theorem Dataset.rows_of_store {dataset : Dataset} {name : String} {rows : List Row}
    (listed : dataset.store.rows name = .ok rows) : rows = dataset.rows := by
  unfold Dataset.store at listed
  split at listed
  next table _ =>
    by_cases same : table = name
    · simpa [Store.rows, Store.ofTables, setTable, tableRows?, same] using listed.symm
    · simp [Store.rows, Store.ofTables, setTable, tableRows?, same] at listed
  next => simp [Store.rows, tableRows?] at listed

/-! ### The dataset -/

namespace Configuration

variable {c : Configuration} {settings : Settings}

theorem outcome_makeDataset (loaded : c.settings = .ok settings) :
    c.makeDataset.outcome =
      c.catalog.bind fun k =>
        (Seed.sales k settings.datasetSize settings.datasetSeed).bind fun rows =>
          (nameable k.tableName).bind fun _ => .ok { tableName := k.tableName, rows } := by
  simp [makeDataset, loaded]

/-- Every row of the dataset is made from the catalog. -/
theorem madeFrom_of_makeDataset (loaded : c.settings = .ok settings) {dataset : Dataset}
    (made : c.makeDataset.outcome = .ok dataset) :
    ∃ k, c.catalog = .ok k ∧ ∀ row ∈ dataset.rows, row.MadeFrom k := by
  rw [outcome_makeDataset loaded] at made
  obtain ⟨k, found, made⟩ := bind_eq_ok_iff.mp made
  obtain ⟨rows, sold, made⟩ := bind_eq_ok_iff.mp made
  obtain ⟨_, -, made⟩ := bind_eq_ok_iff.mp made
  obtain rfl := Except.ok.inj made
  exact ⟨k, found, Seed.madeFrom_of_sales sold⟩

end Configuration

namespace Service

variable {c : Configuration} {v : Value} {supply : Supply}

theorem outcome_ask_dataset (nonblank : normalise v ≠ "") :
    (ask c none none v supply).1.outcome =
      c.makeDataset.outcome.bind fun dataset =>
        c.catalog.bind fun k =>
          supply.clock.time.1.bind fun latency =>
            (answer (normalise v) dataset.store k).outcome.bind fun (intent, execution) =>
              .ok { question := normalise v, intent, execution, latency } := by
  have made := c.outcome_dataset supply.datasetMade
  simp only [ask, String.isEmpty_iff, nonblank, if_false, Traced.outcome_bind, Traced.outcome_pure,
    Traced.bind_ok, Traced.outcome_liftM, Traced.outcome_log]
  rw [made]
  cases c.makeDataset.outcome with
  | error e => rfl
  | ok dataset =>
    simp only [Traced.bind_ok, Configuration.catalogOr]
    cases c.catalog with
    | error e => rfl
    | ok k =>
      simp only [Traced.bind_ok]
      cases supply.clock.time.1 with
      | error e => rfl
      | ok latency => cases (answer (normalise v) dataset.store k).outcome <;> rfl

end Service

/-! ### Failures -/

theorem FilterSet.spares_apply (f : FilterSet) (rows : List Row) : Spares (f.apply rows) := by
  have region (row : Row) : Spares (f.admitsRegion row) := by
    unfold admitsRegion
    split <;> simp [Value.spares_lowered]
  have product (row : Row) : Spares (f.admitsProduct row) := by
    unfold admitsProduct
    split <;> simp [Value.spares_lowered]
  induction rows with
  | nil => simp [apply]
  | cons row rest ih => simp [apply, admits, region, product, ih]

theorem spares_totalFrom (sum : Number) (rows : List Row) : Spares (totalFrom sum rows) := by
  induction rows generalizing sum with
  | nil => simp [totalFrom]
  | cons row rest ih => simp [totalFrom, Number.spares_add, ih]

theorem Operation.spares_run (operation : Operation) (rows : List Row) (preview : Int) :
    Spares (operation.run rows preview) := by
  cases operation <;> simp [run, spares_totalFrom]

theorem QueryIntent.spares_execute (intent : QueryIntent) (rows : List Row) (preview : Int) :
    Spares (intent.execute rows preview).outcome := by
  rw [outcome_execute]
  refine (spares_bind _ _).mpr ⟨intent.filters.spares_apply _, fun _ _ => ?_⟩
  exact (spares_bind _ _).mpr ⟨intent.operation.spares_run _ _, fun _ _ => spares_ok _⟩

theorem Question.spares_intent (question : String) (k : Catalog) :
    Spares (intent question k) := by
  have filtered : Spares (filters question k) := by
    simp [filters, Catalog.spares_productNames]
  refine (spares_bind _ _).mpr ⟨filtered, fun _ _ => ?_⟩
  refine (spares_bind _ _).mpr ⟨spares_mapError fun _ => rfl, fun _ _ => ?_⟩
  split
  · exact (spares_throw _).mpr rfl
  · exact spares_pure _

theorem Store.spares_rows (store : Store) (name : String) : Spares (store.rows name) := by
  unfold rows
  split <;> simp

theorem Clock.spares_time (clock : Clock) : Spares clock.time.1 := by
  simp [time, millisecondsBetween, Number.spares_sub, Number.spares_mul, Number.spares_truncate]

theorem Seed.spares_sales (k : Catalog) (count seed : Int) : Spares (sales k count seed) := by
  simp [sales]

namespace Configuration

theorem spares_nameable (v : Value) : Spares (nameable v) := by
  unfold nameable
  split <;> simp

theorem spares_makeDataset {c : Configuration} {settings : Settings}
    (loaded : c.settings = .ok settings) : Spares c.makeDataset.outcome := by
  rw [outcome_makeDataset loaded]
  refine (spares_bind _ _).mpr ⟨c.spares_catalog, fun k _ => ?_⟩
  refine (spares_bind _ _).mpr ⟨Seed.spares_sales _ _ _, fun rows _ => ?_⟩
  exact (spares_bind _ _).mpr ⟨spares_nameable _, fun _ _ => spares_ok _⟩

end Configuration

namespace Service

variable {c : Configuration} {settings : Settings} {v : Value} {supply : Supply}

theorem spares_answer (question : String) (store : Store) (k : Catalog) :
    Spares (answer question store k).outcome := by
  rw [outcome_answer]
  refine (spares_bind _ _).mpr ⟨Question.spares_intent _ _, fun intent _ => ?_⟩
  refine (spares_bind _ _).mpr ⟨store.spares_rows _, fun rows _ => ?_⟩
  exact (spares_bind _ _).mpr ⟨intent.spares_execute _ _, fun _ _ => spares_ok _⟩

/-- A question that is not blank is not refused, however it fails. -/
theorem spares_ask (loaded : c.settings = .ok settings) (nonblank : normalise v ≠ "") :
    Spares (ask c none none v supply).1.outcome := by
  rw [outcome_ask_dataset nonblank]
  refine (spares_bind _ _).mpr ⟨Configuration.spares_makeDataset loaded, fun dataset _ => ?_⟩
  refine (spares_bind _ _).mpr ⟨c.spares_catalog, fun k _ => ?_⟩
  refine (spares_bind _ _).mpr ⟨supply.clock.spares_time, fun latency _ => ?_⟩
  exact (spares_bind _ _).mpr ⟨spares_answer _ _ _, fun _ _ => spares_ok _⟩

/-! ### Answers -/

variable {P : Value → Prop}

theorem holds_answer (closed : Value.Closed P) {question : String} {dataset : Dataset} {k : Catalog}
    {intent : QueryIntent} {execution : Execution} (has : ∀ row ∈ dataset.rows, row.Has P)
    (answered : (answer question dataset.store k).outcome = .ok (intent, execution)) :
    P execution.outcome.wrapped := by
  rw [outcome_answer] at answered
  obtain ⟨intent, -, answered⟩ := bind_eq_ok_iff.mp answered
  obtain ⟨rows, listed, answered⟩ := bind_eq_ok_iff.mp answered
  obtain ⟨execution, executed, answered⟩ := bind_eq_ok_iff.mp answered
  obtain ⟨rfl, rfl⟩ := Prod.mk.inj (Except.ok.inj answered)
  obtain rfl := Dataset.rows_of_store listed
  rw [QueryIntent.outcome_execute] at executed
  obtain ⟨matched, applied, executed⟩ := bind_eq_ok_iff.mp executed
  obtain ⟨outcome, ran, executed⟩ := bind_eq_ok_iff.mp executed
  obtain rfl := Except.ok.inj executed
  have sub := FilterSet.apply_sublist applied
  exact intent.operation.holds_run closed (fun row member => has row (sub.subset member)) ran

/-- An answer from the dataset has a property if the names in the vocabulary have it. -/
theorem holds_ask (closed : Value.Closed P) (loaded : c.settings = .ok settings)
    (named : ∀ k, c.catalog = .ok k → ∀ name ∈ k.products ++ k.regions, P name)
    (nonblank : normalise v ≠ "") {a : Answer}
    (asked : (ask c none none v supply).1.outcome = .ok a) : P (Http.answerValue a) := by
  rw [outcome_ask_dataset nonblank] at asked
  obtain ⟨dataset, made, asked⟩ := bind_eq_ok_iff.mp asked
  obtain ⟨k, -, asked⟩ := bind_eq_ok_iff.mp asked
  obtain ⟨latency, -, asked⟩ := bind_eq_ok_iff.mp asked
  obtain ⟨⟨intent, execution⟩, answered, asked⟩ := bind_eq_ok_iff.mp asked
  obtain rfl := Except.ok.inj asked
  obtain ⟨k, found, source⟩ := Configuration.madeFrom_of_makeDataset loaded made
  refine Http.holds_answerValue closed (holds_answer closed (fun row member => ?_) answered)
  have madeFrom := source row member
  exact ⟨named k found _ (List.mem_append_left _ madeFrom.product),
    named k found _ (List.mem_append_right _ madeFrom.region), madeFrom.amount⟩

end Service

end TableTalk
