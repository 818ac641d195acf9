import TableTalk.Http
import TableTalk.Question.Extraction
import TableTalk.Evaluation.Report

/-!
# TableTalk.Session

What requests that follow each other share: a configuration with the threshold of its records, a
store, and the lists of rows that stores are built from. A request is a change or an inquiry. An
inquiry changes none of these; all that it can leave behind is that the dataset has been made, which
only the records of later requests show.
-/

namespace TableTalk

/-- What the requests of a session share. -/
structure Session where
  configuration : Configuration := {}
  -- The level below which records are dropped.
  threshold : Log.Level := Log.info
  -- Whether the dataset of the configuration has been made.
  datasetMade : Bool := true
  -- The store that was built last.
  store : Store := {}
  -- The lists of rows that the store was built from, and what was added to them since.
  sources : List Table := []

namespace Session

/-! ### Requests -/

/-- A request that may change what is shared. -/
inductive Change where
  -- Environment and catalog are replaced.
  | configure (configuration : Configuration)
  -- A store is built from named lists of rows.
  | build (tables : List Table)
  -- A store is built from one list of made-up sales.
  | buildSeeded (table : String) (count seed : Int)
  -- A row is added to one of the lists that stores are built from.
  | append (table : String) (row : Row)
  -- A field of a stored row is set, which always fails.
  | setField (table : String) (index : Int) (field : String) (value : Value)

/-- Where the rows that a question is asked about come from. -/
inductive Source where
  | dataset
  | stored
  | given (store : Store)

/-- A request that only asks. Where a catalog is wanted and none is given, it is that of the
configuration. -/
inductive Inquiry where
  | settings
  | threshold
  | catalog
  | dataset
  | authentic (sent expected : Option String)
  | accepts (text : String)
  | description (text : String)
  | operation (question : String)
  | filters (question : String) (catalog : Option Catalog)
  | intent (question : String) (catalog : Option Catalog)
  | rendering (intent : QueryIntent)
  | admitted (rows : List Row) (filters : FilterSet)
  | aggregate (operation : Operation) (rows : List Row) (preview : Int)
  | execution (intent : QueryIntent) (rows : List Row) (preview : Int)
  | sales (catalog : Option Catalog) (count seed : Int)
  | tableNames
  | stored (table : String)
  | storedExecution (intent : QueryIntent) (preview : Int)
  | validate (text : Value)
  | explain (text : Value)
  | ask (text : Value) (source : Source) (catalog : Option Catalog) (clock : Clock)
  | respond (request : Http.Request) (started : Bool) (clock : Clock)
  | evaluate (questions : List Value) (clock : Clock)
  | run (content : Option String) (now : Timestamp) (place : String) (clock : Clock)

inductive Request where
  | change (c : Change)
  | inquiry (i : Inquiry)

inductive Reply where
  | done
  | settings (s : Settings)
  | threshold (level : Log.Level)
  | catalog (c : Catalog)
  | dataset (d : Dataset)
  | truth (b : Bool)
  | text (s : String)
  | operation (o : Operation)
  | filters (f : FilterSet)
  | intent (i : QueryIntent)
  | outcome (o : Outcome)
  | execution (e : Execution)
  | rows (rows : List Row)
  | names (names : List String)
  | size (n : Nat)
  | validation (v : Validation)
  | explanation (e : Explanation)
  | answer (a : Answer)
  | response (r : Http.Response)
  | verdicts (verdicts : List Evaluation.Verdict)
  | run (r : Evaluation.Run)

/-! ### Changes -/

-- The session with another configuration. The threshold follows the settings, and stays as it is
-- if they are wrong.
def reconfigured (s : Session) (c : Configuration) : Session :=
  { s with
    configuration := c
    datasetMade := false
    threshold :=
      match c.settings with
      | .ok settings => Log.threshold settings.logLevel
      | .error _ => s.threshold }

/-- The session with a store built from named lists of rows. -/
def built (s : Session) (tables : List Table) : Session :=
  { s with store := .ofTables tables, sources := (Store.ofTables tables).tables }

/-- The list of rows that a store is built from, after a row is added to it. -/
def extended (s : Session) (table : String) (row : Row) : List Row :=
  (tableRows? table s.sources).getD [] ++ [row]

/-- Why a field of a stored row cannot be set. -/
def refusal (s : Session) (table : String) (index : Int) : Error :=
  match s.store.rows table with
  | .error e => e
  | .ok rows =>
    if -(rows.length : Int) ≤ index ∧ index < rows.length then .frozenRow else .rowOutOfRange

/-- The reply to a change, and the session after it. -/
def change (s : Session) : Change → Except Error Reply × Session
  | .configure c => (c.settings.map fun _ => .done, s.reconfigured c)
  | .build tables => (.ok (.names (Store.ofTables tables).tableNames), s.built tables)
  | .buildSeeded table count seed =>
    match s.configuration.catalog.bind fun k => Seed.sales k count seed with
    | .error e => (.error e, s)
    | .ok rows => (.ok (.names [table]), s.built [(table, rows)])
  | .append table row =>
    let rows := s.extended table row
    (.ok (.size rows.length), { s with sources := setTable table rows s.sources })
  | .setField table index _ _ => (.error (s.refusal table index), s)

/-! ### Inquiries -/

/-- The store of a source, unless it is the dataset. -/
def storeOf? (s : Session) : Source → Option Store
  | .dataset => none
  | .stored => some s.store
  | .given store => some store

/-- The response to a request over HTTP. A server that is started for it makes the dataset first,
and does not come up if that fails. A request that cannot be sent has no response. -/
def respond (s : Session) (request : Http.Request) (started : Bool) (clock : Clock) :
    Traced Http.Response × Bool :=
  let (start, made) :=
    if started then
      let (dataset, made) := s.configuration.dataset s.datasetMade
      (⟨dataset.records, dataset.outcome.map fun _ => ()⟩, made)
    else ((pure () : Traced Unit), s.datasetMade)
  match start.outcome with
  | .error e => (⟨start.records, .error e⟩, made)
  | .ok _ =>
    match request.unsendable? with
    | some text => (⟨start.records, .error (.notAscii text)⟩, made)
    | none =>
      let ((records, response), supply) :=
        Http.respond s.configuration request { clock, datasetMade := made }
      (⟨start.records ++ records, .ok response⟩, supply.datasetMade)

/-- The reply to an inquiry, and whether the dataset has been made after it. -/
def inquire (s : Session) : Inquiry → Traced Reply × Bool
  | .settings => (do return .settings (← s.configuration.settings), s.datasetMade)
  | .threshold => (pure (.threshold s.threshold), s.datasetMade)
  | .catalog => (do return .catalog (← s.configuration.catalog), s.datasetMade)
  | .dataset =>
    let (dataset, made) := s.configuration.dataset s.datasetMade
    (do return .dataset (← dataset), made)
  | .authentic sent (some expected) =>
    (pure (.truth (Http.isAuthenticated sent expected)), s.datasetMade)
  | .authentic sent none =>
    (do return .truth (Http.isAuthenticated sent (← s.configuration.settings).apiKey),
      s.datasetMade)
  | .accepts text => (pure (.truth (Statement.accepts text)), s.datasetMade)
  | .description text => (do return .text (← Service.describe text).sentence, s.datasetMade)
  | .operation question => (pure (.operation (Question.classify question)), s.datasetMade)
  | .filters question catalog =>
    (do return .filters (← Question.filters question (← s.configuration.catalogOr catalog)),
      s.datasetMade)
  | .intent question catalog =>
    (do return .intent (← Question.extract question (← s.configuration.catalogOr catalog)),
      s.datasetMade)
  | .rendering intent => (pure (.text intent.render), s.datasetMade)
  | .admitted rows filters => (do return .rows (← filters.apply rows), s.datasetMade)
  | .aggregate operation rows preview =>
    (do return .outcome (← operation.run rows preview), s.datasetMade)
  | .execution intent rows preview =>
    (do return .execution (← intent.execute rows preview), s.datasetMade)
  | .sales catalog count seed =>
    (do return .rows (← Seed.sales (← s.configuration.catalogOr catalog) count seed),
      s.datasetMade)
  | .tableNames => (pure (.names s.store.tableNames), s.datasetMade)
  | .stored table => (do return .rows (← s.store.rows table), s.datasetMade)
  | .storedExecution intent preview =>
    (do return .execution (← intent.execute (← s.store.rows intent.sourceTable) preview),
      s.datasetMade)
  | .validate text => (do return .validation (← Service.validate text), s.datasetMade)
  | .explain text => (do return .explanation (← Service.explain text), s.datasetMade)
  | .ask text source catalog clock =>
    let (asked, supply) := Service.ask s.configuration (s.storeOf? source) catalog text
      { clock, datasetMade := s.datasetMade }
    (do return .answer (← asked), supply.datasetMade)
  | .respond request started clock =>
    let (responded, made) := s.respond request started clock
    (do return .response (← responded), made)
  | .evaluate questions clock =>
    let (judged, supply) := Evaluation.evaluate s.configuration questions
      { clock, datasetMade := s.datasetMade }
    (do return .verdicts (← judged), supply.datasetMade)
  | .run content now place clock =>
    let (ran, supply) := Evaluation.run s.configuration content now place
      { clock, datasetMade := s.datasetMade }
    (do return .run (← ran), supply.datasetMade)

/-! ### Steps -/

/-- The reply to a request and the session after it, with the records that are not dropped. -/
def step (s : Session) : Request → Traced Reply × Session
  | .change c =>
    let (outcome, s') := s.change c
    (⟨[], outcome⟩, s')
  | .inquiry i =>
    let (reply, datasetMade) := s.inquire i
    (⟨reply.records.filter (·.passes s.threshold), reply.outcome⟩, { s with datasetMade })

/-- An inquiry leaves all that is shared as it is, but for whether the dataset has been made. -/
theorem step_inquiry (s : Session) (i : Inquiry) :
    (s.step (.inquiry i)).2 = { s with datasetMade := (s.inquire i).2 } := rfl

/-- An attempt to set a field of a stored row leaves everything as it is. -/
theorem step_setField (s : Session) (table : String) (index : Int) (field : String) (v : Value) :
    (s.step (.change (.setField table index field v))).2 = s := rfl

/-- A row that is added to a list leaves the store as it is. -/
theorem step_append (s : Session) (table : String) (row : Row) :
    (s.step (.change (.append table row))).2.store = s.store := rfl

/-- The replies to requests, each made in the session that the ones before it left. -/
def run (s : Session) : List Request → List (Traced Reply)
  | [] => []
  | request :: rest =>
    let (reply, s') := s.step request
    reply :: run s' rest

end Session

end TableTalk
