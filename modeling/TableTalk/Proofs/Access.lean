import TableTalk.Proofs.Bodies

/-!
# TableTalk.Proofs.Access

What a request without the key gets, and that one with the key does not get it.

Main result: `respond_key`. On every route but that of the health of the service, a request without
the key is refused, and two configurations on one platform that agree on the key cannot be told
apart by it.

A body of JSON is read before the key is looked at, so that one that cannot be read is refused as
such with or without the key. The handlers are looked at only for the statuses they answer with.
-/

namespace TableTalk.Http

/-! ### Keys -/

/-- The request has the key, which is not empty. -/
def Request.HasKey (r : Request) (key : String) : Prop :=
  key ≠ "" ∧ r.header? keyHeader = some key

instance (r : Request) (key : String) : Decidable (r.HasKey key) :=
  inferInstanceAs (Decidable (_ ∧ _))

theorem isAuthenticated_iff (r : Request) (key : String) :
    isAuthenticated (r.header? keyHeader) key = true ↔ r.HasKey key := by
  rw [Request.HasKey]
  cases sent : r.header? keyHeader with
  | none => simp [isAuthenticated]
  | some s =>
    simp only [isAuthenticated, Bool.and_eq_true, Bool.not_eq_true', decide_eq_true_iff,
      Option.some.injEq]
    constructor
    · rintro ⟨⟨-, some⟩, same⟩
      exact ⟨by simpa using some, same⟩
    · rintro ⟨some, rfl⟩
      exact ⟨by simpa using some, rfl⟩

theorem Request.not_hasKey_of_headers_eq_nil {r : Request} (none : r.headers = []) (key : String) :
    ¬r.HasKey key := by
  rintro ⟨-, sent⟩
  simp [Request.header?, none] at sent

/-! ### Routes -/

/-- The request is one for the route. -/
structure Request.AsksFor (r : Request) (route : Route) : Prop where
  routed : r.route? = some route
  method : r.verb = route.method

theorem Request.asksFor_of_path {r : Request} {route : Route} (path : r.path = route.path)
    (method : r.verb = route.method) : r.AsksFor route := by
  refine ⟨?_, method⟩
  rw [Request.route?, path]
  cases route <;> decide

/-- The body of a request as far as its route takes one. -/
def Request.received (r : Request) (p : Platform) (route : Route) :
    Except BodyFault (Option Value) :=
  match route with
  | .validate | .explain | .query => r.content? p
  | .catalog | .health => .ok none

theorem route_locked {c : Configuration} {r : Request} {route : Route} (asked : r.AsksFor route)
    (locked : route ≠ .health) (supply : Supply) :
    Http.route c r supply =
      match r.received c.platform route with
      | .error fault => (pure fault.response, supply)
      | .ok body => guarded c r route body supply := by
  rw [Http.route, asked.routed]
  simp only [asked.method, ne_eq, not_true_eq_false, if_false]
  cases route with
  | health => contradiction
  | catalog => rfl
  | validate => rfl
  | explain => rfl
  | query => rfl

/-- Nothing else is done with such a request than to route it. -/
theorem respond_locked {c : Configuration} {r : Request} {route : Route}
    (asked : r.AsksFor route) (supply : Supply) :
    respond c r supply = routed c r supply := by
  have method : r.verb = "POST" ∨ r.verb = "GET" := by
    rw [asked.method]
    cases route <;> decide
  have wish : r.wishedMethod? = none := by
    rcases method with post | get
    · simp [Request.wishedMethod?, post]
    · simp [Request.wishedMethod?, get]
  have whole : r.verb ≠ "HEAD" := by
    rcases method with post | get
    · simp [post]
    · simp [get]
  simp [respond, wish, whole]

/-! ### Without the key -/

def rejection : Log.Record :=
  ⟨Log.warning, "copilot.api.auth", "Rejected request with missing/invalid API key"⟩

/-- What a request without the key gets, with the records that it leaves. -/
def Request.refusal (r : Request) (p : Platform) (route : Route) : List Log.Record × Response :=
  match r.received p route with
  | .ok _ => ([rejection], unauthorized)
  | .error fault => ([], fault.response)

theorem guarded_refused {c : Configuration} {settings : Settings}
    (loaded : c.settings = .ok settings) {r : Request} (keyless : ¬r.HasKey settings.apiKey)
    (route : Route) (body : Option Value) (supply : Supply) :
    guarded c r route body supply = (⟨[rejection], .ok unauthorized⟩, supply) := by
  rw [← isAuthenticated_iff, Bool.not_eq_true] at keyless
  rw [guarded, loaded]
  simp [keyless, rejection]

/-- A body that cannot be read is no JSON, or no value can be made of it. -/
theorem fault_of_readBody {p : Platform} {bytes : List UInt8} {fault : BodyFault}
    (failed : readBody p bytes = .error fault) :
    (∃ place, fault = .faults [bodyFault .malformedJson [.index place]]) ∨
      fault = .unreadable := by
  unfold readBody at failed
  split at failed
  next => exact .inr (Except.error.inj failed).symm
  next =>
    split at failed
    next => cases failed
    next place _ => exact .inl ⟨place, (Except.error.inj failed).symm⟩
    next => exact .inr (Except.error.inj failed).symm

theorem fault_of_content? {p : Platform} {r : Request} {fault : BodyFault}
    (failed : r.content? p = .error fault) :
    (∃ place, fault = .faults [bodyFault .malformedJson [.index place]]) ∨
      fault = .unreadable := by
  unfold Request.content? at failed
  split at failed
  next => cases failed
  next =>
    split at failed
    next =>
      cases read : readBody p r.body with
      | ok v => simp [read, Except.map] at failed
      | error fault' =>
        obtain rfl : fault' = fault := by simpa [read, Except.map] using failed
        exact fault_of_readBody read
    next => cases failed

theorem fault_of_received {p : Platform} {r : Request} {route : Route} {fault : BodyFault}
    (failed : r.received p route = .error fault) :
    (∃ place, fault = .faults [bodyFault .malformedJson [.index place]]) ∨
      fault = .unreadable := by
  cases route with
  | catalog => cases failed
  | health => cases failed
  | validate => exact fault_of_content? failed
  | explain => exact fault_of_content? failed
  | query => exact fault_of_content? failed

/-- A request without the key is refused, and what it gets shows nothing of the configuration. -/
theorem respond_refused {c : Configuration} {settings : Settings}
    (loaded : c.settings = .ok settings) {r : Request} {route : Route} (asked : r.AsksFor route)
    (locked : route ≠ .health) (keyless : ¬r.HasKey settings.apiKey) (supply : Supply) :
    respond c r supply = (r.refusal c.platform route, supply) := by
  rw [respond_locked asked, routed, route_locked asked locked, Request.refusal]
  cases r.received c.platform route with
  | error fault => rfl
  | ok body => simp only [guarded_refused loaded keyless]

/-! ### With the key -/

theorem guarded_keyed {c : Configuration} {settings : Settings}
    (loaded : c.settings = .ok settings) {r : Request} (keyed : r.HasKey settings.apiKey)
    (route : Route) (body : Option Value) (supply : Supply) :
    guarded c r route body supply = serve c route body supply := by
  simp [guarded, loaded, (isAuthenticated_iff r settings.apiKey).mpr keyed]

/-- The statuses that a response from behind the key may have. -/
def openStatuses : List Nat := [200, 400, 422, 500]

theorem status_send {v : Value} {response : Response} (sent : send v = .ok response) :
    response.status = 200 := by
  unfold send at sent
  split at sent
  next => cases sent; rfl
  next => cases sent

theorem status_sendBack {query v : Value} {response : Response}
    (sent : sendBack query v = .ok response) : response.status = 200 := by
  cases echo : send query with
  | error e => simp [sendBack, echo, bind, Except.bind] at sent
  | ok _ => exact status_send (by simpa [sendBack, echo, bind, Except.bind] using sent)

theorem status_queryOf {body : Option Value} {fault : BodyFault} {response : Response}
    (failed : queryOf body = .error fault)
    (answered : (pure fault.response : Traced Response).outcome = .ok response) :
    response.status ∈ openStatuses := by
  obtain rfl : fault.response = response := Except.ok.inj answered
  unfold queryOf at failed
  split at failed
  next =>
    cases failed
    simp [openStatuses, BodyFault.response]
  next =>
    split at failed <;> cases failed
    simp [openStatuses, BodyFault.response]
  next =>
    cases failed
    simp [openStatuses, BodyFault.response]

theorem status_handleValidate {w : Wording} {query : Value} {response : Response}
    (handled : (handleValidate w query).outcome = .ok response) :
    response.status ∈ openStatuses := by
  simp only [handleValidate, Except.ok.injEq] at handled
  subst handled
  cases (Service.validate query).outcome with
  | ok v => simp [openStatuses]
  | error e => simp [openStatuses, detail]

theorem status_handleExplain {w : Wording} {query : Value} {response : Response}
    (handled : (handleExplain w query).outcome = .ok response) :
    response.status ∈ openStatuses := by
  simp only [handleExplain] at handled
  split at handled
  next => simp [openStatuses, status_sendBack handled]
  next =>
    cases handled
    simp [openStatuses, detail]

theorem status_handleQuery {c : Configuration} {query : Value} {supply : Supply}
    {response : Response}
    (handled : (handleQuery c query supply).1.outcome = .ok response) :
    response.status ∈ openStatuses := by
  simp only [handleQuery] at handled
  split at handled
  next => simp [openStatuses, status_sendBack handled]
  next =>
    cases handled
    simp [openStatuses, questionMissing, detail]
  next =>
    cases handled
    simp [openStatuses, questionFailed, detail]

theorem status_handleCatalog {c : Configuration} {response : Response}
    (handled : (handleCatalog c).outcome = .ok response) : response.status ∈ openStatuses := by
  cases read : c.catalog with
  | error e => simp [handleCatalog, read] at handled
  | ok k =>
    cases written : catalogValue k with
    | error e => simp [handleCatalog, read, written] at handled
    | ok v =>
      have sent : send v = .ok response := by simpa [handleCatalog, read, written] using handled
      simp [openStatuses, status_send sent]

theorem status_serve {c : Configuration} {route : Route} {body : Option Value} {supply : Supply}
    {response : Response} (served : (serve c route body supply).1.outcome = .ok response) :
    response.status ∈ openStatuses := by
  cases route with
  | health =>
    cases served
    simp [openStatuses]
  | catalog => exact status_handleCatalog served
  | validate =>
    simp only [serve] at served
    split at served
    next failed => exact status_queryOf failed served
    next => exact status_handleValidate served
  | explain =>
    simp only [serve] at served
    split at served
    next failed => exact status_queryOf failed served
    next => exact status_handleExplain served
  | query =>
    simp only [serve] at served
    split at served
    next failed => exact status_queryOf failed served
    next => exact status_handleQuery served

/-- With the key, a request is answered with one of these statuses. -/
theorem status_respond {c : Configuration} {settings : Settings}
    (loaded : c.settings = .ok settings) {r : Request} {route : Route} (asked : r.AsksFor route)
    (locked : route ≠ .health) (keyed : r.HasKey settings.apiKey) (supply : Supply) :
    (respond c r supply).1.2.status ∈ openStatuses := by
  rw [respond_locked asked, routed, route_locked asked locked]
  cases received : r.received c.platform route with
  | error fault =>
    obtain ⟨place, rfl⟩ | rfl := fault_of_received received
    · simp [openStatuses, BodyFault.response]
    · simp [openStatuses, BodyFault.response, detail]
  | ok body =>
    simp only [guarded_keyed loaded keyed]
    split
    next served => exact status_serve served
    next => simp [openStatuses, serverFailure]

/-! ### Nothing shows without the key -/

/-- What may be said to a request without the key: that the key is missing, or that its body cannot
be read. -/
inductive Request.Refuses (r : Request) (p : Platform) (route : Route) : Response → Prop where
  | keyless {body : Option Value} (readable : r.received p route = .ok body) :
      Refuses r p route unauthorized
  -- The body is no JSON from some place on.
  | malformed {place : Nat}
      (broken : r.received p route =
        .error (.faults [bodyFault .malformedJson [.index place]])) :
      Refuses r p route ⟨422, .faults [bodyFault .malformedJson [.index place]]⟩
  -- The body is more than is read: no text, an integer too long, or values too deep.
  | unreadable (beyond : r.received p route = .error .unreadable) :
      Refuses r p route (detail 400 (.text "There was an error parsing the body"))

theorem refusal_refuses (r : Request) (p : Platform) (route : Route) :
    r.Refuses p route (r.refusal p route).2 := by
  rw [Request.refusal]
  cases received : r.received p route with
  | ok body => exact .keyless received
  | error fault =>
    obtain ⟨place, rfl⟩ | rfl := fault_of_received received
    · exact .malformed received
    · exact .unreadable received

/-- A request that is the same, or one whose body can be read as well. -/
def Request.Alike (r r' : Request) (p : Platform) (route : Route) : Prop :=
  r' = r ∨ ∃ body body', r.received p route = .ok body ∧ r'.received p route = .ok body'

theorem refusal_congr {r r' : Request} {p : Platform} {route : Route}
    (alike : r.Alike r' p route) : r'.refusal p route = r.refusal p route := by
  obtain rfl | ⟨body, body', read, read'⟩ := alike
  · rfl
  · rw [Request.refusal, Request.refusal, read, read']

/-- Nothing shows without the key. A request for a locked route is refused then, and nothing is used
up for it; the refusal and its records are the same whatever else is configured on the same
platform, and whatever a body says that can be read. With the key, no request is refused for lack
of it. -/
theorem respond_key {c : Configuration} {settings : Settings} (loaded : c.settings = .ok settings)
    {r : Request} {route : Route} (asked : r.AsksFor route) (locked : route ≠ .health)
    (supply : Supply) :
    (¬r.HasKey settings.apiKey →
      r.Refuses c.platform route (respond c r supply).1.2 ∧ (respond c r supply).2 = supply ∧
      ∀ c' settings', c'.platform = c.platform → c'.settings = .ok settings' →
        settings'.apiKey = settings.apiKey →
        ∀ body supply', r.Alike { r with body } c.platform route →
          (respond c' { r with body } supply').1 = (respond c r supply).1) ∧
    (r.HasKey settings.apiKey → (respond c r supply).1.2.status ≠ 401) := by
  constructor
  · intro keyless
    rw [respond_refused loaded asked locked keyless]
    refine ⟨refusal_refuses r c.platform route, rfl, ?_⟩
    intro c' settings' beneath loaded' same body supply' alike
    have asked' : { r with body }.AsksFor route := ⟨asked.routed, asked.method⟩
    have keyless' : ¬{ r with body }.HasKey settings'.apiKey := by
      rwa [same]
    rw [respond_refused loaded' asked' locked keyless', beneath, refusal_congr alike]
  · intro keyed
    have status := status_respond loaded asked locked keyed supply
    intro unauthorized
    rw [unauthorized] at status
    exact absurd status (by decide)

theorem respond_key_catalog :
    let r : Request := { method := "GET", path := "/catalog" }
    let keyed : Request := { r with headers := [("X-API-Key", "123")] }
    r.Refuses {} .catalog (respond {} r {}).1.2 ∧ (respond {} keyed {}).1.2.status ≠ 401 := by
  intro r keyed
  have asked : r.AsksFor .catalog := Request.asksFor_of_path rfl (by decide +kernel)
  have asked' : keyed.AsksFor .catalog := Request.asksFor_of_path rfl (by decide +kernel)
  have loaded : ({} : Configuration).settings = .ok {} := rfl
  have keyless : ¬r.HasKey "123" := Request.not_hasKey_of_headers_eq_nil rfl _
  have key : keyed.HasKey "123" := by decide +kernel
  exact ⟨((respond_key loaded asked (by decide) {}).1 keyless).1,
    (respond_key loaded asked' (by decide) {}).2 key⟩

/-! ### Written requests -/

/-- The header of a request whose body is JSON. -/
def jsonHeader : String × String :=
  ("content-type", "application/json")

theorem toUpper_post : "POST".toUpper = "POST" := by decide +kernel

theorem toLower_contentType : "content-type".toLower = "content-type" := by decide +kernel

theorem toLower_xApiKey : "x-api-key".toLower = "x-api-key" := by decide +kernel

theorem Request.bearsJson_of_header {r : Request} (typed : r.header? "content-type" = jsonHeader.2)
    (p : Platform) : r.bearsJson p = true := by
  have named : namesJson jsonHeader.2 = true := by decide
  rw [bearsJson, typed]
  exact named

/-- A request to have a statement checked, with nothing but a body of JSON. -/
def Request.toValidate (body : List Char) : Request :=
  { method := "POST", path := "/validate", headers := [jsonHeader], body := Text.bytesOf body }

namespace Request

theorem asksFor_toValidate (body : List Char) : (toValidate body).AsksFor .validate := by
  exact asksFor_of_path rfl toUpper_post

theorem not_hasKey_toValidate (body : List Char) (key : String) :
    ¬(toValidate body).HasKey key := by
  have other : (toValidate body).header? keyHeader = none := by
    simp [header?, toValidate, jsonHeader, toLower_contentType, keyHeader]
  rintro ⟨-, sent⟩
  simp [other] at sent

theorem received_toValidate (p : Platform) {body : List Char} (given : body ≠ []) :
    (toValidate body).received p .validate = (readBody p (Text.bytesOf body)).map some := by
  refine content?_json (by simpa [toValidate, Text.bytesOf] using given) ?_
  exact bearsJson_of_header (by simp [header?, toValidate, jsonHeader, toLower_contentType]) p

end Request

-- The first body is JSON as well as the second, but the response to it is not that of a missing
-- key.
theorem respond_integer_too_long :
    let long := List.replicate 4301 '1'
    ({} : Configuration).settings = .ok {} ∧
    (∀ body, ¬(Request.toValidate body).HasKey ({} : Settings).apiKey) ∧
    Json.read ({} : Platform).jsonRoom long = .error (.beyond (.integerTooLong 4301)) ∧
    (respond {} (.toValidate long) {}).1.2.status = 400 ∧
    (respond {} (.toValidate ['1']) {}).1.2.status = 401 := by
  intro long
  have loaded : ({} : Configuration).settings = .ok {} := rfl
  have keyless (body : List Char) := Request.not_hasKey_toValidate body ({} : Settings).apiKey
  have overlong : Json.Overlong long := .replicate (by decide)
  have size : long.length = 4301 := List.length_replicate
  have ascii : ∀ c ∈ long, Text.IsAscii c := fun c member => by
    rw [List.eq_of_mem_replicate member]
    decide
  have answered (body : List Char) :
      respond {} (.toValidate body) {} = ((Request.toValidate body).refusal {} .validate, {}) :=
    respond_refused loaded (Request.asksFor_toValidate body) (by decide) (keyless body) {}
  refine ⟨loaded, keyless, ?_, ?_, ?_⟩
  · rw [overlong.read, size]
  · have unread := readBody_beyond (p := {}) ascii (overlong.numbers.read _)
    have given : long ≠ [] := List.ne_nil_of_length_eq_add_one size
    rw [answered, Request.refusal, Request.received_toValidate {} given, unread]
    rfl
  · have readable : (readBody {} (Text.bytesOf ['1'])).isOk = true := by decide +kernel
    rw [answered, Request.refusal, Request.received_toValidate {} (List.cons_ne_nil _ _)]
    cases read : readBody {} (Text.bytesOf ['1']) with
    | error fault => simp [read, Except.isOk, Except.toBool] at readable
    | ok body => rfl

end TableTalk.Http
