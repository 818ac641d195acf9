import TableTalk.Proofs.Access
import TableTalk.Proofs.DatasetAnswers

/-!
# TableTalk.Proofs.Endpoints

What the three routes for texts make of the services behind them.

## Main result

- `respond_mirrors`: for every configuration whose settings load, with any catalog file, a request
  with the key is answered as the service would answer, and a failure of the service is answered by
  the route, not by the server.

## Proof strategy

A request that puts a query is passed on to the handler of its route (`respond_puts`). The routes
for statements have no other failures than refusals. The route for questions tells a blank question
from all other failures by the error, which is right since no other step fails with that error
(`Service.spares_ask`); and the answer can be sent, unless halves of pairs stand alone in it
(`Service.holds_ask`).
-/

namespace TableTalk.Http

/-! ### Requests that put a query -/

/-- The fields of a body hold this query: null, which none is the same as, or a text. -/
inductive Carries (fields : List (Scalar × Value)) : Value → Prop where
  | absent (held : Value.find? "query" fields = none) : Carries fields .null
  | null (held : Value.find? "query" fields = some .null) : Carries fields .null
  | text {s : String} (held : Value.find? "query" fields = some (.text s)) :
      Carries fields (.text s)
  -- A text in which halves of pairs stand alone.
  | torn {codes : List Nat} (held : Value.find? "query" fields = some (.torn codes)) :
      Carries fields (.torn codes)

/-- A posted request for a route, with the key, whose body is read as an object that holds this
query. -/
structure Request.Puts (r : Request) (p : Platform) (route : Route) (key : String)
    (query : Value) : Prop where
  asked : r.AsksFor route
  posted : route.method = "POST"
  keyed : r.HasKey key
  carried : ∃ fields, r.content? p = .ok (some (.object fields)) ∧ Carries fields query

theorem Carries.queryOf_eq {fields : List (Scalar × Value)} {query : Value}
    (carried : Carries fields query) : queryOf (some (.object fields)) = .ok query := by
  cases carried <;> simp [queryOf, *]

/-- The response to a request that ended like this. -/
def Response.ofOutcome : Except Error Response → Response
  | .ok response => response
  | .error _ => serverFailure

section

variable {c : Configuration} {settings : Settings} {r : Request} {route : Route} {query : Value}

theorem Request.Puts.received (puts : r.Puts c.platform route settings.apiKey query) :
    ∃ body, r.received c.platform route = .ok body ∧ queryOf body = .ok query := by
  obtain ⟨fields, parsed, carried⟩ := puts.carried
  have posted := puts.posted
  refine ⟨_, ?_, carried.queryOf_eq⟩
  cases route with
  | validate => exact parsed
  | explain => exact parsed
  | query => exact parsed
  | catalog => simp [Route.method] at posted
  | health => simp [Route.method] at posted

theorem respond_puts (loaded : c.settings = .ok settings)
    (puts : r.Puts c.platform route settings.apiKey query) (supply : Supply) :
    ∃ body, queryOf body = .ok query ∧
      (respond c r supply).1.2 = .ofOutcome (serve c route body supply).1.outcome := by
  have locked : route ≠ .health := by
    rintro rfl
    exact absurd puts.posted (by decide)
  obtain ⟨body, received, found⟩ := puts.received
  refine ⟨body, found, ?_⟩
  rw [respond_locked puts.asked, routed, route_locked puts.asked locked, received]
  simp only [guarded_keyed loaded puts.keyed]
  cases (serve c route body supply).1.outcome <;> rfl

theorem respond_validate (loaded : c.settings = .ok settings)
    (puts : r.Puts c.platform .validate settings.apiKey query) (supply : Supply) :
    (respond c r supply).1.2 = .ofOutcome (handleValidate c.wording query).outcome := by
  obtain ⟨body, found, answered⟩ := respond_puts loaded puts supply
  simpa [serve, found] using answered

theorem respond_explain (loaded : c.settings = .ok settings)
    (puts : r.Puts c.platform .explain settings.apiKey query) (supply : Supply) :
    (respond c r supply).1.2 = .ofOutcome (handleExplain c.wording query).outcome := by
  obtain ⟨body, found, answered⟩ := respond_puts loaded puts supply
  simpa [serve, found] using answered

theorem respond_query (loaded : c.settings = .ok settings)
    (puts : r.Puts c.platform .query settings.apiKey query) (supply : Supply) :
    (respond c r supply).1.2 = .ofOutcome (handleQuery c query supply).1.outcome := by
  obtain ⟨body, found, answered⟩ := respond_puts loaded puts supply
  simpa [serve, found] using answered

end

/-! ### Responses -/

/-- The response to a statement that was not given. -/
def textRequired : Response :=
  detail 400 (.text "Query is required.")

/-- The response with a verdict on a statement. -/
def verdict (v : Validation) : Response :=
  ⟨200, .json (.record [("valid", .bool v.valid), ("message", .text v.message)])⟩

theorem verdict_inj {v w : Validation} : verdict v = verdict w ↔ v = w := by
  constructor
  · intro same
    have fields : v.valid = w.valid ∧ v.message = w.message := by
      simpa [verdict, Value.record] using same
    cases v
    cases w
    simpa using fields.1
  · rintro rfl
    rfl

/-- The response to a statement that is not explained since it does not follow the grammar. -/
def notExplained : Response :=
  detail 400 (.text "Invalid SQL query. Cannot explain.")

/-- The response with what a statement does. -/
def explained (x : Explanation) : Response :=
  ⟨200, .json (.record [("query", .text x.query), ("explanation", .text x.explanation)])⟩

/-- The response to a question that was not asked. -/
def questionRequired : Response :=
  detail 400 (.record [("error", .text "Missing query"),
    ("example", .text "Try: 'Show total sales in North region last month'")])

/-- The response with the answer to a question. -/
def answered (a : Answer) : Response :=
  ⟨200, .json (answerValue a)⟩

/-- A response is sent as it is, if the query that it repeats could be, too. -/
theorem sendBack_eq {query v : Value} (echo : query.Portable) (portable : v.Portable) :
    sendBack query v = .ok ⟨200, .json v⟩ := by
  rw [Value.Portable] at echo portable
  simp [sendBack, send, echo, portable, bind, Except.bind]

/-! ### Handlers -/

section

variable {c : Configuration} {w : Wording} {query : Value} {supply : Supply}

theorem outcome_handleValidate (w : Wording) (query : Value) :
    (handleValidate w query).outcome =
      .ok (if normalise query = "" then textRequired
        else verdict ⟨Statement.accepts (normalise query)⟩) := by
  rw [handleValidate, Service.outcome_validate]
  by_cases blank : normalise query = ""
  · rw [if_pos blank, if_pos blank]
    rfl
  · rw [if_neg blank, if_neg blank]
    rfl

theorem handleExplain_blank (blank : normalise query = "") :
    (handleExplain w query).outcome = .ok textRequired := by
  rw [handleExplain, Service.outcome_explain, if_pos blank]
  rfl

theorem handleExplain_invalid (nonblank : normalise query ≠ "")
    (invalid : Statement.accepts (normalise query) = false) :
    (handleExplain w query).outcome = .ok notExplained := by
  rw [handleExplain, Service.outcome_explain, if_neg nonblank, invalid]
  rfl

theorem handleExplain_valid {x : Explanation}
    (described : (Service.explain query).outcome = .ok x) :
    (handleExplain w query).outcome =
      sendBack query
        (.record [("query", .text x.query), ("explanation", .text x.explanation)]) := by
  rw [handleExplain, described]

theorem portable_explained (x : Explanation) :
    (Value.record [("query", .text x.query), ("explanation", .text x.explanation)]).Portable :=
  Value.closed_portable.record (by simp [Value.closed_portable.text])

theorem handleQuery_blank (blank : normalise query = "") :
    (handleQuery c query supply).1.outcome = .ok questionRequired := by
  have required : questionMissing c.wording = questionRequired := rfl
  simp [handleQuery, Service.ask, blank, required]

theorem handleQuery_ok {a : Answer}
    (asked : (Service.ask c none none query supply).1.outcome = .ok a) :
    (handleQuery c query supply).1.outcome = sendBack query (answerValue a) := by
  simp [handleQuery, asked]

theorem handleQuery_error {e : Error} (spared : e.isRefusal = false)
    (failed : (Service.ask c none none query supply).1.outcome = .error e) :
    (handleQuery c query supply).1.outcome = .ok questionFailed := by
  rw [handleQuery]
  simp only [failed]
  split
  next => exact absurd ‹_› (by simp)
  next missing =>
    obtain rfl := Except.error.inj missing
    simp at spared
  next => rfl

end

/-! ### Mirrors of the services -/

/-- A value that is no text in which halves of pairs stand alone. -/
def Whole (v : Value) : Prop :=
  ∀ codes, v ≠ .torn codes

/-- The names in the vocabulary of the catalog, if there is one, have this property. -/
def Names (c : Configuration) (good : Value → Prop) : Prop :=
  ∀ k, c.catalog = .ok k → ∀ name ∈ k.products ++ k.regions, good name

theorem Carries.portable {fields : List (Scalar × Value)} {query : Value}
    (carried : Carries fields query) (whole : Whole query) : query.Portable := by
  cases carried with
  | absent => exact Value.closed_portable.null
  | null => exact Value.closed_portable.null
  | text => exact Value.closed_portable.text _
  | torn => exact absurd rfl (whole _)

theorem sendBack_torn {query : Value} (torn : ¬Whole query) (v : Value) :
    sendBack query v = .error .unwritable := by
  simp only [Whole, not_forall, not_not] at torn
  obtain ⟨codes, rfl⟩ := torn
  rfl

theorem status_ofOutcome_sendBack (query v : Value) :
    (Response.ofOutcome (sendBack query v)).status ≠ 400 := by
  cases sent : sendBack query v with
  | ok response => simp [Response.ofOutcome, status_sendBack sent]
  | error e => simp [Response.ofOutcome, serverFailure]

/-- The response says what the service says that checks a statement. -/
structure MirrorsValidate (query : Value) (response : Response) : Prop where
  required : response = textRequired ↔ normalise query = ""
  checked : normalise query ≠ "" →
    ∃ v, (Service.validate query).outcome = .ok v ∧ response = verdict v

/-- The response says what the service says that explains a statement. -/
structure MirrorsExplain (query : Value) (response : Response) : Prop where
  required : response = textRequired ↔ normalise query = ""
  malformed : (Service.validate query).outcome = .ok ⟨false⟩ → response = notExplained
  described : Whole query → (Service.validate query).outcome = .ok ⟨true⟩ →
    ∃ x, (Service.explain query).outcome = .ok x ∧ response = explained x

/-- The response says how the service ended that answers a question. -/
structure MirrorsAsk (query : Value) (asked : Except Error Answer) (response : Response) :
    Prop where
  missing : response = questionRequired ↔ normalise query = ""
  told : Whole query → ∀ a, asked = .ok a → ¬(answerValue a).HoldsTorn → response = answered a
  failed : normalise query ≠ "" → ∀ e, asked = .error e → response = questionFailed

/-- A name as most vocabularies have them: a text, with all its characters whole or not, or an
integer. -/
inductive IsEntry : Value → Prop where
  | text (s : String) : IsEntry (.text s)
  | torn (codes : List Nat) : IsEntry (.torn codes)
  | int (i : Int) : IsEntry (.int i)

theorem IsEntry.portable {v : Value} (entry : IsEntry v) (whole : Whole v) : v.Portable := by
  cases entry with
  | text s => exact Value.closed_portable.text s
  | torn codes => exact absurd rfl (whole codes)
  | int i => exact Value.closed_portable.int i

theorem IsEntry.sendable {v : Value} (entry : IsEntry v) : v.Sendable := fun whole =>
  entry.portable fun codes same => whole (same ▸ .torn codes)

section

variable {c : Configuration} {settings : Settings} {r : Request} {query : Value}

theorem mirrorsValidate (loaded : c.settings = .ok settings)
    (puts : r.Puts c.platform .validate settings.apiKey query) (supply : Supply) :
    MirrorsValidate query (respond c r supply).1.2 := by
  rw [respond_validate loaded puts, outcome_handleValidate, Response.ofOutcome]
  by_cases blank : normalise query = ""
  · rw [if_pos blank]
    exact ⟨iff_of_true rfl blank, fun nonblank => absurd blank nonblank⟩
  · have other (v : Validation) : verdict v ≠ textRequired := fun same =>
      absurd (congrArg Response.status same) (by simp [verdict, textRequired, detail])
    rw [if_neg blank]
    exact ⟨iff_of_false (other _) blank, fun _ =>
      ⟨_, by rw [Service.outcome_validate, if_neg blank], rfl⟩⟩

theorem mirrorsExplain (loaded : c.settings = .ok settings)
    (puts : r.Puts c.platform .explain settings.apiKey query) (supply : Supply) :
    MirrorsExplain query (respond c r supply).1.2 := by
  obtain ⟨_, -, carried⟩ := puts.carried
  rw [respond_explain loaded puts]
  by_cases blank : normalise query = ""
  · rw [handleExplain_blank blank]
    exact ⟨iff_of_true rfl blank, by simp [Service.outcome_validate, blank],
      by simp [Service.outcome_validate, blank]⟩
  cases valid : Statement.accepts (normalise query) with
  | false =>
    have other : notExplained ≠ textRequired := by
      simp [notExplained, textRequired, detail, Value.record]
    rw [handleExplain_invalid blank valid]
    exact ⟨iff_of_false other blank, fun _ => rfl,
      by simp [Service.outcome_validate, blank, valid]⟩
  | true =>
    obtain ⟨x, described⟩ : ∃ x, (Service.explain query).outcome = .ok x :=
      ⟨_, by rw [Service.outcome_explain, if_neg blank, if_pos valid]⟩
    have malformed : (Service.validate query).outcome ≠ .ok ⟨false⟩ := by
      simp [Service.outcome_validate, blank, valid]
    rw [handleExplain_valid described]
    by_cases whole : Whole query
    · have other : explained x ≠ textRequired := fun same =>
        absurd (congrArg Response.status same) (by simp [explained, textRequired, detail])
      rw [sendBack_eq (carried.portable whole) (portable_explained x)]
      exact ⟨iff_of_false other blank, fun invalid => absurd invalid malformed,
        fun _ _ => ⟨x, described, rfl⟩⟩
    · have other : serverFailure ≠ textRequired := fun same =>
        absurd (congrArg Response.status same) (by simp [serverFailure, textRequired, detail])
      rw [sendBack_torn whole]
      exact ⟨iff_of_false other blank, fun invalid => absurd invalid malformed,
        fun whole' => absurd whole' whole⟩

theorem mirrorsAsk (loaded : c.settings = .ok settings) (named : Names c IsEntry)
    (puts : r.Puts c.platform .query settings.apiKey query) (supply : Supply) :
    MirrorsAsk query (Service.ask c none none query supply).1.outcome
      (respond c r supply).1.2 := by
  obtain ⟨_, -, carried⟩ := puts.carried
  rw [respond_query loaded puts]
  by_cases blank : normalise query = ""
  · have asked : (Service.ask c none none query supply).1.outcome = .error .missingQuestion := by
      simp [Service.ask, blank]
    rw [handleQuery_blank blank, asked]
    exact ⟨iff_of_true rfl blank, by simp, fun nonblank => absurd blank nonblank⟩
  have other {response : Response} (status : response.status ≠ 400) :
      response = questionRequired ↔ normalise query = "" :=
    iff_of_false (fun same => status (congrArg Response.status same)) blank
  cases asked : (Service.ask c none none query supply).1.outcome with
  | error e =>
    have spared := Service.spares_ask loaded blank e asked
    rw [handleQuery_error spared asked]
    exact ⟨other (by simp [Response.ofOutcome, questionFailed, detail]), by simp,
      fun _ _ _ => rfl⟩
  | ok a =>
    rw [handleQuery_ok asked]
    refine ⟨other (status_ofOutcome_sendBack query _), fun whole b told sound => ?_, by simp⟩
    obtain rfl := Except.ok.inj told
    have sendable := Service.holds_ask Value.closed_sendable loaded
      (fun k found name member => (named k found name member).sendable) blank asked
    rw [sendBack_eq (carried.portable whole) (sendable sound)]
    rfl

/-- Where the names are whole, so are the answers. -/
theorem not_holdsTorn_ask (loaded : c.settings = .ok settings) (named : Names c IsEntry)
    (names : Names c Whole) {supply : Supply} {a : Answer}
    (asked : (Service.ask c none none query supply).1.outcome = .ok a) :
    ¬(answerValue a).HoldsTorn := by
  have nonblank : normalise query ≠ "" := fun blank => by simp [Service.ask, blank] at asked
  have portable := Service.holds_ask Value.closed_portable loaded
    (fun k found name member => (named k found name member).portable (names k found name member))
    nonblank asked
  exact portable.not_holdsTorn

end

section

variable {query : Value} {response : Response}

theorem MirrorsValidate.eq_verdict_iff (mirrors : MirrorsValidate query response) (v : Validation) :
    response = verdict v ↔ (Service.validate query).outcome = .ok v := by
  by_cases blank : normalise query = ""
  · rw [mirrors.required.mpr blank]
    simp [textRequired, verdict, detail, Service.outcome_validate, blank]
  · obtain ⟨w, checked, rfl⟩ := mirrors.checked blank
    rw [checked, Except.ok.injEq, verdict_inj]

theorem MirrorsExplain.status_iff (mirrors : MirrorsExplain query response) (whole : Whole query) :
    response.status = 200 ↔ (Service.validate query).outcome = .ok ⟨true⟩ := by
  by_cases blank : normalise query = ""
  · rw [mirrors.required.mpr blank]
    simp [textRequired, detail, Service.outcome_validate, blank]
  cases valid : Statement.accepts (normalise query) with
  | false =>
    have checked : (Service.validate query).outcome = .ok ⟨false⟩ := by
      rw [Service.outcome_validate, if_neg blank, valid]
    rw [mirrors.malformed checked]
    simp [notExplained, detail, checked]
  | true =>
    have checked : (Service.validate query).outcome = .ok ⟨true⟩ := by
      rw [Service.outcome_validate, if_neg blank, valid]
    obtain ⟨x, -, rfl⟩ := mirrors.described whole checked
    exact iff_of_true rfl checked

theorem MirrorsValidate.ne_serverFailure (mirrors : MirrorsValidate query response) :
    response ≠ serverFailure := by
  rintro rfl
  by_cases blank : normalise query = ""
  · exact absurd (congrArg Response.status (mirrors.required.mpr blank)) (by decide)
  · obtain ⟨v, -, same⟩ := mirrors.checked blank
    exact absurd (congrArg Response.status same) (by simp [serverFailure, verdict])

theorem MirrorsExplain.ne_serverFailure (mirrors : MirrorsExplain query response)
    (whole : Whole query) : response ≠ serverFailure := by
  rintro rfl
  by_cases blank : normalise query = ""
  · exact absurd (congrArg Response.status (mirrors.required.mpr blank)) (by decide)
  cases checked : (Service.validate query).outcome with
  | error e => simp [Service.outcome_validate, blank] at checked
  | ok v =>
    rcases v with ⟨_ | _⟩
    · exact absurd (congrArg Response.status (mirrors.malformed checked)) (by decide)
    · obtain ⟨x, -, same⟩ := mirrors.described whole checked
      exact absurd (congrArg Response.status same) (by simp [serverFailure, explained])

theorem MirrorsAsk.ne_serverFailure {asked : Except Error Answer}
    (mirrors : MirrorsAsk query asked response) (whole : Whole query)
    (sound : ∀ a, asked = .ok a → ¬(answerValue a).HoldsTorn) : response ≠ serverFailure := by
  rintro rfl
  by_cases blank : normalise query = ""
  · exact absurd (congrArg Response.status (mirrors.missing.mpr blank)) (by decide)
  cases ended : asked with
  | error e =>
    have same := mirrors.failed blank e ended
    simp [serverFailure, questionFailed, detail] at same
  | ok a =>
    exact absurd (congrArg Response.status (mirrors.told whole a ended (sound a ended)))
      (by simp [serverFailure, answered])

end

/-! ### All routes -/

/-- The routes for texts mirror the services, and contain their failures. Whatever the file of the
catalog holds, if the names of its vocabulary are texts or integers, a request with the key is
answered as the service ends: a blank text is refused, and nothing else is refused as one; a
statement is explained exactly if it is found valid; and a question that fails is answered by the
route. The server answers no failure, unless halves of pairs that stand alone are to be sent, which
are those of the query or of a name. -/
theorem respond_mirrors {c : Configuration} {settings : Settings}
    (loaded : c.settings = .ok settings) (named : Names c IsEntry) (query : Value) :
    (∀ r, r.Puts c.platform .validate settings.apiKey query → ∀ supply,
      MirrorsValidate query (respond c r supply).1.2) ∧
    (∀ r, r.Puts c.platform .explain settings.apiKey query → ∀ supply,
      MirrorsExplain query (respond c r supply).1.2) ∧
    (∀ r, r.Puts c.platform .query settings.apiKey query → ∀ supply,
      MirrorsAsk query (Service.ask c none none query supply).1.outcome
        (respond c r supply).1.2) ∧
    (Names c Whole → ∀ supply a, (Service.ask c none none query supply).1.outcome = .ok a →
      ¬(answerValue a).HoldsTorn) ∧
    (Whole query →
      (∀ r r', r.Puts c.platform .explain settings.apiKey query →
        r'.Puts c.platform .validate settings.apiKey query → ∀ supply supply',
          (respond c r supply).1.2.status = 200 ↔ (respond c r' supply').1.2 = verdict ⟨true⟩) ∧
      ∀ route r, r.Puts c.platform route settings.apiKey query → ∀ supply,
        (route = .query → ∀ a, (Service.ask c none none query supply).1.outcome = .ok a →
          ¬(answerValue a).HoldsTorn) →
        (respond c r supply).1.2 ≠ serverFailure) := by
  refine ⟨fun r puts => mirrorsValidate loaded puts, fun r puts => mirrorsExplain loaded puts,
    fun r puts => mirrorsAsk loaded named puts,
    fun names _ _ => not_holdsTorn_ask loaded named names, fun whole => ⟨?_, ?_⟩⟩
  · intro r r' puts puts' supply supply'
    rw [(mirrorsExplain loaded puts supply).status_iff whole,
      (mirrorsValidate loaded puts' supply').eq_verdict_iff]
  · intro route r puts supply sound
    have posted := puts.posted
    cases route with
    | validate => exact (mirrorsValidate loaded puts supply).ne_serverFailure
    | explain => exact (mirrorsExplain loaded puts supply).ne_serverFailure whole
    | query => exact (mirrorsAsk loaded named puts supply).ne_serverFailure whole (sound rfl)
    | catalog => simp [Route.method] at posted
    | health => simp [Route.method] at posted

/-! ### Posted bodies -/

/-- Whether a body is read as an object that holds this scalar as its query. -/
def holdsQuery (p : Platform) (body : List Char) (s : Scalar) : Bool :=
  match readBody p (Text.bytesOf body) with
  | .ok (.object fields) =>
    match Value.find? "query" fields with
    | some (.scalar t) => t = s
    | _ => false
  | _ => false

theorem exists_of_holdsQuery {p : Platform} {body : List Char} {s : Scalar}
    (holds : holdsQuery p body s = true) :
    ∃ fields, readBody p (Text.bytesOf body) = .ok (.object fields) ∧
      Value.find? "query" fields = some (.scalar s) := by
  unfold holdsQuery at holds
  split at holds
  next fields read =>
    refine ⟨fields, read, ?_⟩
    split at holds
    next found => rw [found, of_decide_eq_true holds]
    next => simp at holds
  next => simp at holds

namespace Request

/-- A request that posts a body of some type, with the key of the standard settings. -/
def postAs (type : String) (route : Route) (body : List Char) : Request :=
  { method := "POST", path := route.path, headers := [(keyHeader, "123"), ("content-type", type)],
    body := Text.bytesOf body }

/-- A request that posts JSON. -/
def post (route : Route) (body : List Char) : Request :=
  postAs jsonHeader.2 route body

section

variable {type : String} {route : Route} {body : List Char}

theorem asksFor_postAs (posted : route.method = "POST") :
    (postAs type route body).AsksFor route := by
  exact asksFor_of_path rfl (toUpper_post.trans posted.symm)

theorem hasKey_postAs : (postAs type route body).HasKey "123" :=
  ⟨by decide, by simp [header?, postAs, keyHeader, toLower_xApiKey]⟩

theorem header?_postAs : (postAs type route body).header? "content-type" = some type := by
  simp [header?, postAs, keyHeader, toLower_xApiKey, toLower_contentType]

theorem content?_post (p : Platform) (given : body ≠ []) :
    (post route body).content? p = (readBody p (Text.bytesOf body)).map some := by
  have bytes : (post route body).body ≠ [] := by simpa [post, postAs, Text.bytesOf] using given
  rw [content?_json bytes (bearsJson_of_header header?_postAs p)]
  rfl

theorem puts_post {p : Platform} {query : Value} (posted : route.method = "POST")
    {fields : List (Scalar × Value)} (read : readBody p (Text.bytesOf body) = .ok (.object fields))
    (carried : Carries fields query) : (post route body).Puts p route "123" query := by
  have given : body ≠ [] := by
    rintro rfl
    cases read
  refine ⟨asksFor_postAs posted, posted, hasKey_postAs, fields, ?_, carried⟩
  rw [content?_post p given, read]
  rfl

theorem puts_text {p : Platform} {s : String} (posted : route.method = "POST")
    (holds : holdsQuery p body (.text s) = true) :
    (post route body).Puts p route "123" (.text s) := by
  obtain ⟨fields, read, held⟩ := exists_of_holdsQuery holds
  exact puts_post posted read (.text held)

theorem puts_torn {p : Platform} {codes : List Nat} (posted : route.method = "POST")
    (holds : holdsQuery p body (.torn codes) = true) :
    (post route body).Puts p route "123" (.torn codes) := by
  obtain ⟨fields, read, held⟩ := exists_of_holdsQuery holds
  exact puts_post posted read (.torn held)

end

end Request

/-- A body with a statement. -/
def statementBody : List Char :=
  "\x7b\"query\": \"SELECT a FROM t\"\x7d".toList

theorem holdsQuery_statementBody :
    holdsQuery {} statementBody (.text "SELECT a FROM t") = true := by
  decide +kernel

theorem outcome_validate_statement :
    (Service.validate (.text "SELECT a FROM t")).outcome = .ok ⟨true⟩ := by
  have nonblank : normalise (.text "SELECT a FROM t") ≠ "" := by decide
  have valid : Statement.accepts (normalise (.text "SELECT a FROM t")) = true := rfl
  rw [Service.outcome_validate, if_neg nonblank, valid]

/-- With a catalog file that is no YAML, a statement is explained, and a question fails. -/
theorem respond_mirrors_broken_catalog :
    let c : Configuration := { catalogSource := .file "\x7b" }
    (∃ x, (Service.explain (.text "SELECT a FROM t")).outcome = .ok x ∧
      (respond c (.post .explain statementBody) {}).1.2 = explained x) ∧
    (respond c (.post .query statementBody) {}).1.2 = questionFailed := by
  intro c
  have loaded : c.settings = .ok {} := rfl
  have broken : ∃ e, c.catalog = .error e := by
    have unread : (Yaml.read c.platform.catalogRoom "\x7b").isOk = false := by decide +kernel
    cases read : Yaml.read c.platform.catalogRoom "\x7b" with
    | error e => exact ⟨e, by simp [c, Configuration.catalog, read, bind, Except.bind]⟩
    | ok v => simp [read, Except.isOk, Except.toBool] at unread
  obtain ⟨e, broken⟩ := broken
  have named : Names c IsEntry := by
    intro k found
    simp [broken] at found
  have nonblank : normalise (.text "SELECT a FROM t") ≠ "" := by decide
  have failed : (Service.ask c none none (.text "SELECT a FROM t") {}).1.outcome = .error e := by
    rw [Service.outcome_ask_dataset nonblank, Configuration.outcome_makeDataset loaded, broken]
    rfl
  have puts {route : Route} (posted : route.method = "POST") :
      (Request.post route statementBody).Puts c.platform route "123" (.text "SELECT a FROM t") :=
    Request.puts_text posted holdsQuery_statementBody
  obtain ⟨-, explains, asks, -⟩ := respond_mirrors loaded named (.text "SELECT a FROM t")
  have whole : Whole (.text "SELECT a FROM t") := fun _ => by simp
  exact ⟨(explains _ (puts rfl) {}).described whole outcome_validate_statement,
    (asks _ (puts rfl) {}).failed nonblank e failed⟩

/-! ### Requests that are not mirrored -/

/-- A statement in which a half of a pair stands alone. -/
def tornStatement : Value :=
  .torn ("SELECT ".toList.map Char.toNat ++ 0xd800 :: " FROM t".toList.map Char.toNat)

def tornBody : List Char :=
  "\x7b\"query\": \"SELECT \\ud800 FROM t\"\x7d".toList

/-- A statement with such a half is valid, but its explanation cannot repeat it. -/
theorem respond_tornBody :
    (Request.post .explain tornBody).Puts {} .explain "123" tornStatement ∧
      (Service.validate tornStatement).outcome = .ok ⟨true⟩ ∧
      (respond {} (.post .explain tornBody) {}).1.2 = serverFailure := by
  have loaded : ({} : Configuration).settings = .ok {} := rfl
  have puts : (Request.post .explain tornBody).Puts {} .explain "123" tornStatement :=
    Request.puts_torn rfl (by decide +kernel)
  have nonblank : normalise tornStatement ≠ "" := by decide
  have valid : Statement.accepts (normalise tornStatement) = true := rfl
  refine ⟨puts, by rw [Service.outcome_validate, if_neg nonblank, valid], ?_⟩
  have described := Service.outcome_explain tornStatement
  rw [if_neg nonblank, if_pos valid] at described
  have half : ¬Whole tornStatement := fun whole => whole _ rfl
  rw [respond_explain loaded puts, handleExplain_valid described, sendBack_torn half]
  rfl

/-- A body with a statement behind an integer of so many digits. -/
def longBody (digits : Nat) : List Char :=
  "\x7b\"n\":".toList ++ (List.replicate digits '1' ++
    ",\"query\": \"SELECT a FROM t\"\x7d".toList)

theorem read_longBody :
    Json.read ({} : Platform).jsonRoom ((longBody 4301).map Char.toNat) =
      .error (.beyond (.integerTooLong 4301)) := by
  have overlong : Json.Overlong (List.replicate 4301 '1') := .replicate (by decide)
  have ends : Json.EndsNumber (",\"query\": \"SELECT a FROM t\"\x7d".toList.map Char.toNat) :=
    ⟨by decide, by decide⟩
  have read := overlong.numbers.read_field ends 999
  have parts : (longBody 4301).map Char.toNat = "\x7b\"n\":".toList.map Char.toNat ++
      (List.replicate 4301 '1' ++ ",\"query\": \"SELECT a FROM t\"\x7d".toList).map Char.toNat :=
    List.map_append
  rw [List.length_map, List.length_replicate, ← List.map_append] at read
  rw [parts]
  exact read

theorem readBody_longBody :
    readBody {} (Text.bytesOf (longBody 4301)) = .error .unreadable := by
  refine readBody_beyond ?_ read_longBody
  refine List.forall_mem_append.mpr ⟨by decide, List.forall_mem_append.mpr ⟨?_, by decide⟩⟩
  intro c member
  rw [List.eq_of_mem_replicate member]
  decide

/-- A statement behind an integer of too many digits is not looked at, though one behind a single
digit is. -/
theorem respond_longBody :
    (Request.post .validate (longBody 1)).Puts {} .validate "123" (.text "SELECT a FROM t") ∧
      (respond {} (.post .validate (longBody 1)) {}).1.2 = verdict ⟨true⟩ ∧
      Json.read ({} : Platform).jsonRoom ((longBody 4301).map Char.toNat) =
        .error (.beyond (.integerTooLong 4301)) ∧
      (respond {} (.post .validate (longBody 4301)) {}).1.2 = BodyFault.unreadable.response := by
  have loaded : ({} : Configuration).settings = .ok {} := rfl
  have puts : (Request.post .validate (longBody 1)).Puts {} .validate "123"
      (.text "SELECT a FROM t") := Request.puts_text rfl (by decide +kernel)
  refine ⟨puts, ?_, read_longBody, ?_⟩
  · rw [(mirrorsValidate loaded puts {}).eq_verdict_iff, outcome_validate_statement]
  · have asked : (Request.post .validate (longBody 4301)).AsksFor .validate :=
      Request.asksFor_postAs rfl
    have received : (Request.post .validate (longBody 4301)).received {} .validate =
        .error .unreadable := by
      rw [Request.received, Request.content?_post {} (by decide), readBody_longBody]
      rfl
    rw [respond_locked asked, routed, route_locked asked (by decide), received]
    rfl

/-- Whether a catalog is of this table, with a single product and a single region, and shows so many
rows. -/
def isSmall (table product region : Scalar) (preview : Int) : Catalog → Bool
  | ⟨_, .scalar t, _, _, [.scalar p], [.scalar r], n⟩ =>
    decide (t = table ∧ p = product ∧ r = region ∧ n = preview)
  | _ => false

theorem eq_of_isSmall {table product region : Scalar} {preview : Int} {k : Catalog}
    (small : isSmall table product region preview k = true) :
    k.tableName = .scalar table ∧ k.products = [.scalar product] ∧ k.regions = [.scalar region] ∧
      k.previewRows = preview := by
  unfold isSmall at small
  split at small
  next =>
    obtain ⟨rfl, rfl, rfl, rfl⟩ := of_decide_eq_true small
    exact ⟨rfl, rfl, rfl, rfl⟩
  next => cases small

/-- A vocabulary with a region that is half of a pair. -/
def tornCatalog : Configuration where
  catalogSource := .file "table:\n  name: t\nvocabulary:\n  products: [p]\n  regions: [\"\\ud800\"]"

def tornRegion : Value :=
  .torn [0xd800]

theorem exists_tornCatalog :
    ∃ k, tornCatalog.catalog = .ok k ∧ k.tableName = .text "t" ∧ k.products = ["p"].map .text ∧
      k.regions = [tornRegion] ∧ k.previewRows = 5 := by
  have read : tornCatalog.catalog.toOption.any
      (isSmall (.text "t") (.text "p") (.torn [0xd800]) 5) = true := by
    decide +kernel
  cases found : tornCatalog.catalog with
  | error e => simp [found, Except.toOption] at read
  | ok k =>
    rw [found] at read
    exact ⟨k, rfl, eq_of_isSmall read⟩

/-- An answer that lists rows with such a region holds it. -/
theorem holdsTorn_answerValue {a : Answer} {row : Row} {others : List Row}
    (listed : a.execution.outcome = .rows (row :: others)) (torn : row.region = tornRegion) :
    (answerValue a).HoldsTorn := by
  have region : row.region.HoldsTorn := by
    rw [torn]
    exact .torn _
  have result : a.execution.outcome.wrapped.HoldsTorn := by
    rw [listed]
    exact .item List.mem_cons_self (.of_record "region" (by simp) region)
  exact .of_record "result" (by simp) result

/-- A question for all rows. -/
def showBody : List Char :=
  "\x7b\"query\": \"show\"\x7d".toList

theorem intent_show {k : Catalog} (named : k.tableName = .text "t")
    (products : k.products = ["p"].map .text) :
    Question.intent "show" k = .ok { sourceTable := "t", operation := .select } := by
  have nowhere : Question.regions? "show" = none := rfl
  have lowered : ["p"].map String.lowered = ["p"] := rfl
  have nothing : Question.product? ["p"] "show" = none := rfl
  have selects : Question.classify "show" = .select := rfl
  rw [Question.intent_eq named products, lowered, nowhere, nothing, selects]

/-- The first row of the dataset has the only region. -/
theorem sales_tornCatalog {k : Catalog} (products : k.products = ["p"].map .text)
    (regions : k.regions = [tornRegion]) :
    ∃ row others, Seed.sales k 100 42 = .ok (row :: others) ∧ row.region = tornRegion := by
  have someProducts : k.products ≠ [] := by simp [products]
  have someRegions : k.regions ≠ [] := by simp [regions]
  have sold := Seed.sales_eq someProducts someRegions 100 42
  cases drawn : Seed.amounts 42 (Int.toNat 100) with
  | nil => exact absurd (drawn ▸ Seed.length_amounts 42 (Int.toNat 100)) (by decide)
  | cons amount amounts =>
    rw [drawn, List.mapIdx_cons] at sold
    exact ⟨_, _, sold, by simp [Seed.saleAt, regions]⟩

theorem apply_empty (rows : List Row) : ({} : FilterSet).apply rows = .ok rows := by
  induction rows with
  | nil => rfl
  | cons row rest ih =>
    rw [FilterSet.apply, ih]
    rfl

theorem execute_all (row : Row) (others : List Row) :
    ∃ execution, (QueryIntent.execute { sourceTable := "t", operation := .select } (row :: others)
        5).outcome = .ok execution ∧ execution.outcome = .rows (row :: others.take 4) := by
  have front : slice 0 5 (row :: others) = row :: others.take 4 := by simp [slice_zero, front]
  rw [QueryIntent.outcome_execute, apply_empty, Traced.bind_ok, Operation.run, front]
  exact ⟨_, rfl, rfl⟩

theorem ask_tornCatalog :
    ∃ a row others, (Service.ask tornCatalog none none (.text "show") {}).1.outcome = .ok a ∧
      a.execution.outcome = .rows (row :: others) ∧ row.region = tornRegion := by
  have loaded : tornCatalog.settings = .ok {} := rfl
  obtain ⟨k, found, named, products, regions, preview⟩ := exists_tornCatalog
  obtain ⟨row, others, sold, torn⟩ := sales_tornCatalog products regions
  have made : tornCatalog.makeDataset.outcome =
      .ok { tableName := .text "t", rows := row :: others } := by
    have sold' : Seed.sales k ({} : Settings).datasetSize ({} : Settings).datasetSeed =
        .ok (row :: others) := sold
    rw [Configuration.outcome_makeDataset loaded, found, Traced.bind_ok, sold', Traced.bind_ok,
      named]
    rfl
  have listed : (Dataset.store ⟨.text "t", row :: others⟩).rows "t" = .ok (row :: others) := by
    simp [Dataset.store, Store.ofTables, Store.rows, setTable, tableRows?]
  have works : ({} : Clock).Works := by rintro reading ⟨⟩
  obtain ⟨latency, timed⟩ := works.time_succeeds
  obtain ⟨execution, executed, shown⟩ := execute_all row others
  have question : normalise (.text "show") = "show" := rfl
  refine ⟨⟨"show", { sourceTable := "t", operation := .select }, execution, latency⟩, row, _, ?_,
    shown, torn⟩
  rw [Service.outcome_ask_dataset (by rw [question]; decide), question, made, Traced.bind_ok, found,
    Traced.bind_ok, timed, Traced.bind_ok, Service.outcome_answer, intent_show named products,
    Traced.bind_ok, listed, Traced.bind_ok, preview, executed]
  rfl

/-- The service answers a question on rows with such a region, but the answer cannot be sent. -/
theorem respond_tornCatalog :
    Names tornCatalog IsEntry ∧
      (Request.post .query showBody).Puts tornCatalog.platform .query "123" (.text "show") ∧
      (∃ a, (Service.ask tornCatalog none none (.text "show") {}).1.outcome = .ok a) ∧
      (respond tornCatalog (.post .query showBody) {}).1.2 = serverFailure := by
  have loaded : tornCatalog.settings = .ok {} := rfl
  have puts : (Request.post .query showBody).Puts tornCatalog.platform .query "123"
      (.text "show") := Request.puts_text rfl (by decide +kernel)
  have entries : Names tornCatalog IsEntry := by
    intro k found name member
    obtain ⟨k', found', -, products, regions, -⟩ := exists_tornCatalog
    obtain rfl := Except.ok.inj (found.symm.trans found')
    rw [products, regions] at member
    simp only [List.map_cons, List.map_nil, List.cons_append, List.nil_append, List.mem_cons,
      List.not_mem_nil, or_false] at member
    rcases member with rfl | rfl
    · exact .text "p"
    · exact .torn [0xd800]
  obtain ⟨a, row, others, asked, listed, torn⟩ := ask_tornCatalog
  refine ⟨entries, puts, ⟨a, asked⟩, ?_⟩
  have formless := (holdsTorn_answerValue listed torn).portable?_eq_none
  rw [respond_query loaded puts, handleQuery_ok asked, sendBack, send, send, formless]
  rfl

/-- What is not sent as JSON is not read as JSON, though it would hold a statement. -/
theorem respond_plainBody :
    holdsQuery {} statementBody (.text "SELECT a FROM t") = true ∧
      (respond {} (.postAs "text/plain" .validate statementBody) {}).1.2 =
        BodyFault.response (.faults [bodyFault .bodyExpected []]) := by
  refine ⟨holdsQuery_statementBody, ?_⟩
  have loaded : ({} : Configuration).settings = .ok {} := rfl
  have asked : (Request.postAs "text/plain" .validate statementBody).AsksFor .validate :=
    Request.asksFor_postAs rfl
  have received : (Request.postAs "text/plain" .validate statementBody).received {} .validate =
      .ok (some (.bytes (Text.bytesOf statementBody))) := by
    refine Request.content?_other (by decide) ?_
    have named : Request.namesJson "text/plain" = false := by decide
    rw [Request.bearsJson, Request.header?_postAs]
    exact named
  rw [respond_locked asked, routed, route_locked asked (by decide), received]
  simp only [guarded_keyed loaded Request.hasKey_postAs]
  rfl

-- A text in which a half of a pair stands alone is not sent back, be it a statement or a name of
-- the vocabulary; and no statement is found behind an integer too long, or in what is no JSON.
theorem respond_unmirrored :
    ({} : Configuration).settings = .ok {} ∧ tornCatalog.settings = .ok {} ∧
    ((Request.post .explain tornBody).Puts {} .explain "123" tornStatement ∧
      (Service.validate tornStatement).outcome = .ok ⟨true⟩ ∧
      (respond {} (.post .explain tornBody) {}).1.2 = serverFailure) ∧
    (Names tornCatalog IsEntry ∧
      (Request.post .query showBody).Puts tornCatalog.platform .query "123" (.text "show") ∧
      (∃ a, (Service.ask tornCatalog none none (.text "show") {}).1.outcome = .ok a) ∧
      (respond tornCatalog (.post .query showBody) {}).1.2 = serverFailure) ∧
    ((Request.post .validate (longBody 1)).Puts {} .validate "123" (.text "SELECT a FROM t") ∧
      (respond {} (.post .validate (longBody 1)) {}).1.2 = verdict ⟨true⟩ ∧
      Json.read ({} : Platform).jsonRoom ((longBody 4301).map Char.toNat) =
        .error (.beyond (.integerTooLong 4301)) ∧
      (respond {} (.post .validate (longBody 4301)) {}).1.2 = BodyFault.unreadable.response) ∧
    (holdsQuery {} statementBody (.text "SELECT a FROM t") = true ∧
      (respond {} (.postAs "text/plain" .validate statementBody) {}).1.2 =
        BodyFault.response (.faults [bodyFault .bodyExpected []])) :=
  ⟨rfl, rfl, respond_tornBody, respond_tornCatalog, respond_longBody, respond_plainBody⟩

end TableTalk.Http
