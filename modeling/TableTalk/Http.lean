import TableTalk.Service
import TableTalk.Http.Address
import TableTalk.Value.Portable

/-!
# TableTalk.Http

The service over HTTP. A request is answered in steps, each of which can end it: the path, the
method, the JSON text of a body, the key, the fields of the body, and the handler. Nothing that
stands behind the key is looked at without it. A failure that no step expects is answered by the
server itself. A browser that asks beforehand whether it may make a request from another site is
answered before all of these.
-/

namespace TableTalk.Http

/-! ### Messages -/

structure Request where
  method : String
  path : String
  headers : List (String × String) := []
  body : List UInt8 := []

inductive Content where
  | json (v : Value)
  | text (s : String)
  -- The faults of a request, as a JSON list.
  | faults (faults : List Fault)

structure Response where
  status : Nat
  content : Content

def detail (status : Nat) (v : Value) : Response :=
  ⟨status, .json (.record [("detail", v)])⟩

/-- The answer of the server to a failure that nothing else answers. -/
def serverFailure : Response :=
  ⟨500, .text "Internal Server Error"⟩

namespace Request

/-- The value of a header, whose name may be written in any case. -/
def header? (r : Request) (name : String) : Option String :=
  (r.headers.find? fun (n, _) => n.toLower = name).map (·.2)

def verb (r : Request) : String :=
  r.method.toUpper

-- Whether the value of a header names JSON, or a type that is written in it.
def namesJson (value : String) : Bool :=
  let type := Text.lower (Text.trim (value.toList.takeWhile (· ≠ ';')))
  match type.splitOn '/' with
  | [main, sub] =>
    main == "application".toList && (sub == "json".toList || "+json".toList.isSuffixOf sub)
  | _ => false

/-- Whether the body of a request is one of JSON, by the type that the request says it has, or as
the platform has it if the request says none. -/
def bearsJson (r : Request) (p : Platform) : Bool :=
  match r.header? "content-type" with
  | none | some "" => p.readsUntyped
  | some value => namesJson value

-- The first text of a header that has no form to be sent in, which only ASCII has.
def unsendable? (r : Request) : Option String :=
  (r.headers.flatMap fun (name, value) => [name, value]).find? fun s =>
    s.toList.any fun c => 0x80 ≤ c.toNat

end Request

/-! ### The key -/

/-- Whether a key that was sent is the expected one; an empty key never is. -/
def isAuthenticated (sent : Option String) (expected : String) : Bool :=
  match sent with
  | none => false
  | some key => !key.isEmpty && !expected.isEmpty && key = expected

def keyHeader : String := "x-api-key"

def unauthorized : Response :=
  detail 401 (.text "Unauthorized. Invalid API Key.")

/-! ### Bodies -/

inductive BodyFault where
  | faults (faults : List Fault)
  -- It is JSON, but no value can be made of it.
  | unreadable

/-- The fault of a kind at a place in the body of a request. -/
def bodyFault (kind : FaultKind) (place : List Step) : Fault :=
  { kind, place := .key "body" :: place }

/-- The value that the bytes of a JSON text write. -/
def readBody (p : Platform) (bytes : List UInt8) : Except BodyFault Value :=
  match Text.decode? bytes with
  | none => .error .unreadable
  | some codes =>
    match Json.read p.jsonRoom codes with
    | .ok v => .ok v
    | .error (.malformed place) => .error (.faults [bodyFault .malformedJson [.index place]])
    | .error (.beyond _) => .error .unreadable

/-- The body of a request, if it has one: the value that its JSON writes, or else its bytes. -/
def Request.content? (r : Request) (p : Platform) : Except BodyFault (Option Value) :=
  if r.body.isEmpty then .ok none
  else if r.bearsJson p then (readBody p r.body).map some
  else .ok (some (.bytes r.body))

def BodyFault.response : BodyFault → Response
  | faults fs => ⟨422, .faults fs⟩
  | unreadable => detail 400 (.text "There was an error parsing the body")

/-- The text in a body: under its key, where null and no text are the same. -/
def queryOf : Option Value → Except BodyFault Value
  | none => .error (.faults [bodyFault .missing []])
  | some (.object fields) =>
    match Value.find? "query" fields with
    | none | some .null => .ok .null
    | some (.text s) => .ok (.text s)
    | some (.torn codes) => .ok (.torn codes)
    | some _ => .error (.faults [bodyFault .stringExpected [.key "query"]])
  | some _ => .error (.faults [bodyFault .bodyExpected []])

/-! ### Handlers -/

/-- A response with a value, which needs a form that can be sent. -/
def send (v : Value) : Except Error Response :=
  match v.portable? with
  | some v => .ok ⟨200, .json v⟩
  | none => .error .unwritable

/-- A response with a value that repeats a query, which needs such a form, too. -/
def sendBack (query v : Value) : Except Error Response := do
  let _ ← send query
  send v

def handleValidate (w : Wording) (query : Value) : Traced Response :=
  let checked := Service.validate query
  ⟨checked.records, .ok (match checked.outcome with
    | .ok v => ⟨200, .json (.record [("valid", .bool v.valid), ("message", .text v.message)])⟩
    | .error e => detail 400 (.text (e.message w)))⟩

def handleExplain (w : Wording) (query : Value) : Traced Response :=
  let explained := Service.explain query
  ⟨explained.records, match explained.outcome with
    | .ok x =>
      sendBack query (.record [("query", .text x.query), ("explanation", .text x.explanation)])
    | .error e => .ok (detail 400 (.text (e.message w)))⟩

def answerValue (a : Answer) : Value :=
  .record
    [("question", .text a.question), ("result", a.execution.outcome.wrapped),
     ("explanation", .text a.explanation), ("pseudo_sql", .text a.execution.renderedQuery),
     ("matched_count", .int a.execution.matchedCount), ("intent", a.intent.toValue),
     ("latency_ms", .int a.latency), ("fallback", .ofText? a.execution.fallback)]

/-- The response to a question that was not asked. -/
def questionMissing (w : Wording) : Response :=
  detail 400 (.record [("error", .text (Error.missingQuestion.message w)),
    ("example", .text "Try: 'Show total sales in North region last month'")])

/-- The response to a question that failed for any other reason. -/
def questionFailed : Response :=
  detail 500 (.record [("error", .text "Server error"),
    ("message", .text "Please try again later")])

def handleQuery (c : Configuration) (query : Value) (supply : Supply) : Traced Response × Supply :=
  let (asked, supply') := Service.ask c none none query supply
  (match asked.outcome with
    | .ok a => ⟨asked.records, sendBack query (answerValue a)⟩
    | .error .missingQuestion => ⟨asked.records, .ok (questionMissing c.wording)⟩
    | .error _ =>
      ⟨asked.records ++ [⟨Log.error, "copilot.api.routers.query", "Copilot.query failed"⟩],
        .ok questionFailed⟩,
   supply')

-- A text of the catalog, which a response needs to be one.
def catalogText (v : Value) : Except Error Value :=
  match checkText [] v with
  | .ok s => .ok (.scalar s)
  | .error faults => .error (.invalid "CatalogResponse" faults)

def catalogField (f : Field) : Except Error Value := do
  return .record [("name", ← catalogText f.name), ("type", ← catalogText f.type),
    ("description", ← catalogText f.description)]

def catalogValue (k : Catalog) : Except Error Value := do
  return .record
    [("table", ← catalogText k.tableName), ("description", ← catalogText k.description),
     ("fields", .list (← k.fields.mapM catalogField)),
     ("products", .list (← k.products.mapM catalogText)),
     ("regions", .list (← k.regions.mapM catalogText)),
     ("operations", .texts (Operation.all.map Operation.name)),
     ("preview_rows", .int k.previewRows)]

def handleCatalog (c : Configuration) : Traced Response := do
  send (← catalogValue (← c.catalog))

/-! ### Routes -/

inductive Route where
  | validate
  | explain
  | query
  | catalog
  | health
  deriving DecidableEq, Repr

namespace Route

def all : List Route := [validate, explain, query, catalog, health]

def path : Route → String
  | validate => "/validate"
  | explain => "/explain"
  | query => "/query"
  | catalog => "/catalog"
  | health => "/health"

def method : Route → String
  | validate | explain | query => "POST"
  | catalog | health => "GET"

-- The route of a path, behind which an end of line may stand.
def ofPath? (path : List Char) : Option Route :=
  all.find? fun route => path = route.path.toList || path = route.path.toList ++ ['\n']

end Route

/-- The route that a request asks for; slashes at the end of an unknown path do not matter. -/
def Request.route? (r : Request) : Option Route :=
  let path := Address.path r.path.toList
  (Route.ofPath? path).or (Route.ofPath? (Address.withoutEnd path))

def serve (c : Configuration) (route : Route) (body : Option Value) (supply : Supply) :
    Traced Response × Supply :=
  match route with
  | .health => (pure ⟨200, .json (.record [("status", .text "ok")])⟩, supply)
  | .catalog => (handleCatalog c, supply)
  | .validate | .explain | .query =>
    match queryOf body with
    | .error fault => (pure fault.response, supply)
    | .ok query =>
      match route with
      | .validate => (handleValidate c.wording query, supply)
      | .explain => (handleExplain c.wording query, supply)
      | _ => handleQuery c query supply

/-- The response to a request with a route, whose body is this: that of the handler if the key is
right, and a refusal otherwise. -/
def guarded (c : Configuration) (r : Request) (route : Route) (body : Option Value)
    (supply : Supply) : Traced Response × Supply :=
  match c.settings with
  | .error e => (throw e, supply)
  | .ok settings =>
    if isAuthenticated (r.header? keyHeader) settings.apiKey then serve c route body supply
    else
      (⟨[⟨Log.warning, "copilot.api.auth", "Rejected request with missing/invalid API key"⟩],
        .ok unauthorized⟩, supply)

/-- The response to a request, before the server answers failures. -/
def route (c : Configuration) (r : Request) (supply : Supply) : Traced Response × Supply :=
  match r.route? with
  | none => (pure (detail 404 (.text "Not Found")), supply)
  | some route =>
    if r.verb ≠ route.method then
      (pure (detail 405 (.text "Method Not Allowed")), supply)
    else
      match route with
      | .health => serve c .health none supply
      | .catalog => guarded c r .catalog none supply
      | route =>
        match r.content? c.platform with
        | .error fault => (pure fault.response, supply)
        | .ok body => guarded c r route body supply

/-- The response to a request, or that of the server if there is none, with the records that it
leaves. -/
def routed (c : Configuration) (r : Request) (supply : Supply) :
    (List Log.Record × Response) × Supply :=
  let (routed, supply') := route c r supply
  ((routed.records, match routed.outcome with
    | .ok response => response
    | .error _ => serverFailure), supply')

/-! ### Other sites -/

def siteMethods : List String :=
  ["DELETE", "GET", "HEAD", "OPTIONS", "PATCH", "POST", "PUT"]

/-- The response to the question of a browser whether a page of another site may use a method. -/
def permission (method : String) : Response :=
  if siteMethods.contains method then ⟨200, .text "OK"⟩
  else ⟨400, .text "Disallowed CORS method"⟩

/-- The method that a request asks leave for, if it is such a question. -/
def Request.wishedMethod? (r : Request) : Option String :=
  if r.verb = "OPTIONS" && (r.header? "origin").isSome then
    r.header? "access-control-request-method"
  else none

/-! ### Requests -/

/-- The response to a request, with the records that it leaves. Of a response to a request for the
head alone nothing else is sent. -/
def respond (c : Configuration) (r : Request) (supply : Supply) :
    (List Log.Record × Response) × Supply :=
  match r.wishedMethod? with
  | some method => (([], permission method), supply)
  | none =>
    let ((records, response), supply') := routed c r supply
    ((records, if r.verb = "HEAD" then { response with content := .text "" } else response),
      supply')

end TableTalk.Http
