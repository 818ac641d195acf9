import TableTalk.Session
import TableTalk.Proofs.Sales

/-!
# TableTalk.Proofs.Snapshots

A store is a snapshot of the tables that it was built from.

Main result: `store_snapshot`. Whatever is requested after a store was built, as long as no other
store is built and nothing is configured, what is asked of the store is answered as if it was asked
at once, from the tables that were given.

A request keeps what the answers depend on (`step_keeps`), and so does every sequence of requests
(`after_keeps`). What the tables of a store are is read off the tables that it was built from
(`tableNames_ofTables`, `rows_ofTables`).
-/

namespace TableTalk

/-! ### Tables that are given -/

namespace Store

/-- The rows that tables give under a name: those that are given last. -/
def givenRows? (name : String) (tables : List Table) : Option (List Row) :=
  tableRows? name tables.reverse

theorem tableRows?_append (name : String) (tables others : List Table) :
    tableRows? name (tables ++ others) = (tableRows? name tables).or (tableRows? name others) := by
  rw [tableRows?, List.find?_append, Option.map_or]
  rfl

theorem tableRows?_foldl (name : String) (tables built : List Table) :
    tableRows? name (tables.foldl (fun built (n, rows) => setTable n rows built) built) =
      (givenRows? name tables).or (tableRows? name built) := by
  induction tables generalizing built with
  | nil => rfl
  | cons table rest ih =>
    obtain ⟨n, rows⟩ := table
    rw [List.foldl_cons, ih, givenRows?, givenRows?, List.reverse_cons, tableRows?_append,
      Option.or_assoc, tableRows?_setTable]
    congr 1
    by_cases same : name = n
    · simp [same, tableRows?]
    · simp [same, Ne.symm same, tableRows?]

/-- A store holds the rows that were given, and no table besides. -/
theorem rows_ofTables (name : String) (tables : List Table) :
    (ofTables tables).rows name =
      match givenRows? name tables with
      | some rows => .ok rows
      | none => .error (.unknownTable name) := by
  have found : tableRows? name (ofTables tables).tables = givenRows? name tables := by
    rw [ofTables, tableRows?_foldl]
    exact Option.or_none
  cases given : givenRows? name tables with
  | none => simp [rows, found, given]
  | some held => simp [rows, found, given]

theorem givenRows?_eq_none_iff (name : String) (tables : List Table) :
    givenRows? name tables = none ↔ name ∉ tables.map (·.1) := by
  rw [givenRows?, tableRows?_eq_none_iff ⟨tables.reverse⟩, tableNames, List.map_reverse,
    List.mem_reverse]

theorem names_foldl (tables built : List Table) :
    (tables.foldl (fun built (n, rows) => setTable n rows built) built).map (·.1) =
      built.map (·.1) ++ ((tables.map (·.1)).filter (· ∉ built.map (·.1))).eraseDups := by
  induction tables generalizing built with
  | nil => simp
  | cons table rest ih =>
    obtain ⟨n, rows⟩ := table
    rw [List.foldl_cons, ih, names_setTable, List.map_cons]
    by_cases old : n ∈ built.map (·.1)
    · simp only [if_pos old]
      rw [List.filter_cons_of_neg (by simpa using old)]
    · have new : (rest.map (·.1)).filter (· ∉ built.map (·.1) ++ [n]) =
          ((rest.map (·.1)).filter (· ∉ built.map (·.1))).filter (!· == n) := by
        rw [List.filter_filter]
        refine List.filter_congr fun other _ => ?_
        rw [Bool.eq_iff_iff]
        simp [or_comm]
      simp only [if_neg old, new]
      rw [List.filter_cons_of_pos (by simpa using old), List.eraseDups_cons, List.append_assoc]
      rfl

/-- The names of a store are those that were given, in the order in which they came first. -/
theorem tableNames_ofTables (tables : List Table) :
    (ofTables tables).tableNames = (tables.map (·.1)).eraseDups := by
  rw [tableNames, ofTables, names_foldl]
  simp

end Store

namespace Session

/-! ### Sequences of requests -/

/-- The session after requests. -/
def after (s : Session) : List Request → Session
  | [] => s
  | request :: rest => (s.step request).2.after rest

theorem run_cons (s : Session) (request : Request) (rest : List Request) :
    s.run (request :: rest) = (s.step request).1 :: (s.step request).2.run rest := rfl

theorem run_append (s : Session) (first rest : List Request) :
    s.run (first ++ rest) = s.run first ++ (s.after first).run rest := by
  induction first generalizing s with
  | nil => rfl
  | cons request others ih =>
    rw [List.cons_append, run_cons, run_cons, ih, List.cons_append]
    rfl

/-- What answers from a store depend on is the same in two sessions. -/
structure Keeps (s s' : Session) : Prop where
  store : s'.store = s.store
  configuration : s'.configuration = s.configuration
  threshold : s'.threshold = s.threshold

theorem Keeps.refl (s : Session) : s.Keeps s :=
  ⟨rfl, rfl, rfl⟩

theorem Keeps.trans {s s' s'' : Session} (first : s.Keeps s') (second : s'.Keeps s'') :
    s.Keeps s'' :=
  ⟨second.store.trans first.store, second.configuration.trans first.configuration,
    second.threshold.trans first.threshold⟩

/-- A request that neither builds a store nor configures: it adds a row to a list that stores are
built from, tries to change a row of the store, or only asks. -/
inductive Steady : Request → Prop where
  | append (table : String) (row : Row) : Steady (.change (.append table row))
  | setField (table : String) (index : Int) (field : String) (value : Value) :
      Steady (.change (.setField table index field value))
  | inquiry (i : Inquiry) : Steady (.inquiry i)

theorem step_keeps (s : Session) {request : Request} (steady : Steady request) :
    s.Keeps (s.step request).2 := by
  cases steady with
  | append table row => exact ⟨s.step_append table row, rfl, rfl⟩
  | setField table index field value =>
    rw [step_setField]
    exact .refl s
  | inquiry i =>
    rw [step_inquiry]
    exact ⟨rfl, rfl, rfl⟩

theorem after_keeps (s : Session) {requests : List Request}
    (steady : ∀ request ∈ requests, Steady request) : s.Keeps (s.after requests) := by
  induction requests generalizing s with
  | nil => exact Keeps.refl s
  | cons request rest ih =>
    have first := s.step_keeps (steady request List.mem_cons_self)
    exact first.trans (ih _ fun r member => steady r (List.mem_cons_of_mem _ member))

/-! ### Questions about a store -/

/-- An inquiry about the store that was built last. -/
inductive OfStore : Inquiry → Prop where
  | tableNames : OfStore .tableNames
  | rows (table : String) : OfStore (.stored table)
  | execution (intent : QueryIntent) (preview : Int) : OfStore (.storedExecution intent preview)
  | ask (text : Value) (catalog : Option Catalog) (clock : Clock) :
      OfStore (.ask text .stored catalog clock)

/-- Whether the dataset has been made does not matter to a question about a store. -/
theorem ask_store (c : Configuration) (store : Store) (given : Option Catalog) (text : Value)
    (clock : Clock) (made made' : Bool) :
    (Service.ask c (some store) given text { clock, datasetMade := made }).1 =
      (Service.ask c (some store) given text { clock, datasetMade := made' }).1 := by
  simp only [Service.ask]
  split
  next => rfl
  next => split <;> rfl

theorem inquire_of_keeps {s s' : Session} (keeps : s.Keeps s') {i : Inquiry} (ofStore : OfStore i) :
    (s'.inquire i).1 = (s.inquire i).1 := by
  cases ofStore with
  | tableNames => simp only [inquire, keeps.store]
  | rows table => simp only [inquire, keeps.store]
  | execution intent preview => simp only [inquire, keeps.store]
  | ask text catalog clock =>
    simp only [inquire, storeOf?, keeps.store, keeps.configuration]
    rw [ask_store _ _ _ _ _ s'.datasetMade s.datasetMade]

theorem step_of_keeps {s s' : Session} (keeps : s.Keeps s') {i : Inquiry} (ofStore : OfStore i) :
    (s'.step (.inquiry i)).1 = (s.step (.inquiry i)).1 := by
  simp only [step, inquire_of_keeps keeps ofStore, keeps.threshold]

/-! ### Snapshots -/

/-- A request that builds a store from tables. -/
inductive Builds (s : Session) : Request → List Table → Prop where
  | tables (tables : List Table) : Builds s (.change (.build tables)) tables
  -- The one table of sales that are made up by the catalog of the session.
  | sales {table : String} {count seed : Int} {catalog : Catalog} {rows : List Row}
      (read : s.configuration.catalog = .ok catalog)
      (made : Seed.sales catalog count seed = .ok rows) :
      Builds s (.change (.buildSeeded table count seed)) [(table, rows)]

theorem Builds.store {s : Session} {building : Request} {tables : List Table}
    (built : s.Builds building tables) : (s.step building).2.store = .ofTables tables := by
  cases built with
  | tables tables => rfl
  | sales read made => simp [step, change, read, made, Except.bind, Session.built]

/-- Why a field of a row cannot be set: there is no such table, no such row, or the row is
frozen. -/
def setFault (tables : List Table) (table : String) (index : Int) : Error :=
  match Store.givenRows? table tables with
  | none => .unknownTable table
  | some rows =>
    if -(rows.length : Int) ≤ index ∧ index < rows.length then .frozenRow else .rowOutOfRange

theorem refusal_eq {s : Session} {tables : List Table} (holds : s.store = .ofTables tables)
    (table : String) (index : Int) : s.refusal table index = setFault tables table index := by
  rw [refusal, holds, Store.rows_ofTables, setFault]
  cases Store.givenRows? table tables <;> rfl

/-- A store is a snapshot of the tables that it was built from. After any requests that neither
build a store nor configure, a question about it is answered as at once; its names are those that
were given, in the order in which they came first, each with the rows that were given last; no other
name is known; and no attempt to change a row succeeds or changes anything. -/
theorem store_snapshot {s : Session} {building : Request} {tables : List Table}
    (built : s.Builds building tables) {requests : List Request}
    (steady : ∀ request ∈ requests, Steady request) :
    let fresh := (s.step building).2
    let later := fresh.after requests
    (∀ i, OfStore i →
      fresh.run (requests ++ [.inquiry i]) = fresh.run requests ++ fresh.run [.inquiry i]) ∧
    (later.step (.inquiry .tableNames)).1.outcome = .ok (.names (tables.map (·.1)).eraseDups) ∧
    (∀ name rows, Store.givenRows? name tables = some rows →
      (later.step (.inquiry (.stored name))).1.outcome = .ok (.rows rows)) ∧
    (∀ name, (later.step (.inquiry (.stored name))).1.outcome = .error (.unknownTable name) ↔
      name ∉ tables.map (·.1)) ∧
    ∀ table index field value, later.step (.change (.setField table index field value)) =
      (⟨[], .error (setFault tables table index)⟩, later) := by
  intro fresh later
  have keeps : fresh.Keeps later := fresh.after_keeps steady
  have holds : later.store = .ofTables tables := keeps.store.trans built.store
  have stored (name : String) : (later.step (.inquiry (.stored name))).1.outcome =
      ((Store.ofTables tables).rows name).map .rows := by
    rw [← holds]
    simp only [step, inquire, Traced.outcome_bind, Traced.outcome_liftM]
    cases later.store.rows name <;> rfl
  refine ⟨?_, ?_, ?_, ?_, ?_⟩
  · intro i ofStore
    rw [run_append, run_cons, run_cons, step_of_keeps keeps ofStore]
    rfl
  · simp only [step, inquire, Traced.outcome_pure, holds, Store.tableNames_ofTables]
  · intro name rows given
    rw [stored, Store.rows_ofTables, given]
    rfl
  · intro name
    rw [stored, Store.rows_ofTables, ← Store.givenRows?_eq_none_iff]
    cases Store.givenRows? name tables <;> simp [Except.map]
  · intro table index field value
    simp only [step, change, refusal_eq holds]

-- A table that is given twice has the rows given last; one that rows are added to later is unknown.
theorem store_snapshot_appended :
    let row := Sale.row ⟨1, "Laptop", "North", 300, .ofUnixSeconds 0⟩
    let fresh := (({} : Session).step
      (.change (.build [("sales", [row]), ("archive", []), ("sales", [row, row])]))).2
    let later := fresh.after [.change (.append "returns" row), .change (.append "sales" row),
      .change (.setField "sales" (-1) "amount" (.int 0)), .inquiry (.stored "sales")]
    (later.step (.inquiry .tableNames)).1.outcome = .ok (.names ["sales", "archive"]) ∧
    (later.step (.inquiry (.stored "sales"))).1.outcome = .ok (.rows [row, row]) ∧
    (later.step (.inquiry (.stored "returns"))).1.outcome = .error (.unknownTable "returns") := by
  intro row fresh later
  have steady : ∀ request ∈ [Request.change (.append "returns" row),
      .change (.append "sales" row), .change (.setField "sales" (-1) "amount" (.int 0)),
      .inquiry (.stored "sales")], Steady request := by
    simp only [List.forall_mem_cons]
    exact ⟨.append .., .append .., .setField .., .inquiry _, fun _ none => by cases none⟩
  obtain ⟨-, names, given, unknown, -⟩ := store_snapshot (s := {}) (.tables _) steady
  exact ⟨names, given "sales" [row, row] rfl, (unknown "returns").mpr (by simp)⟩

end Session

end TableTalk
