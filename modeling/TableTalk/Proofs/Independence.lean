import TableTalk.Proofs.Snapshots

/-!
# TableTalk.Proofs.Independence

Requests that only ask do not influence each other.

## Main result

- `Session.inquiries_independent`: without an inquiry, all other requests are answered as with it;
  inquiries between two changes may be made in any order; and a process that keeps what it makes
  answers like one that makes everything anew, whatever it keeps and from whichever request on.

## Proof strategy

What an answer depends on is the platform, a configuration by its settings, its catalog and its
wording only, the store, and the lists that stores are built from. Sessions with the same of these
are alike (`Session.Alike`). Alike sessions answer each request alike and stay alike
(`Session.Alike.step`), and an inquiry leaves a session alike to itself. A process that keeps things
shows requests a configuration like its own (`Memory.Agrees.alike_shown`), so that it runs through
sessions alike to those without memory.
-/

namespace TableTalk

/-! ### What is looked up in a configuration -/

/-- Two configurations with the same settings and the same catalog, on the same platform and with
the same wording. -/
structure Configuration.Alike (c c' : Configuration) : Prop where
  settings : c'.settings = c.settings
  catalog : c'.catalog = c.catalog
  platform : c'.platform = c.platform
  wording : c'.wording = c.wording

namespace Configuration

variable {c c' : Configuration}

theorem Alike.refl (c : Configuration) : c.Alike c :=
  ⟨rfl, rfl, rfl, rfl⟩

theorem Alike.makeDataset (alike : c.Alike c') : c'.makeDataset = c.makeDataset := by
  simp only [Configuration.makeDataset, alike.settings, alike.catalog]

theorem Alike.outcome_dataset (alike : c.Alike c') (made made' : Bool) :
    (c'.dataset made').1.outcome = (c.dataset made).1.outcome := by
  rw [Configuration.outcome_dataset, Configuration.outcome_dataset, alike.makeDataset]

theorem Alike.catalogOr (alike : c.Alike c') (given : Option Catalog) :
    c'.catalogOr given = c.catalogOr given := by
  cases given with
  | none => exact alike.catalog
  | some k => rfl

end Configuration

/-- Two computations end in the same way, and leave the same readings of the clock. -/
structure EndsAlike {α : Type} (x y : Traced α × Supply) : Prop where
  outcome : y.1.outcome = x.1.outcome
  clock : y.2.clock = x.2.clock

-- The clock is the same whether or not the dataset has been made.
theorem Supply.clock_made (clock : Clock) (made made' : Bool) :
    (Supply.mk clock made').clock = (Supply.mk clock made).clock := rfl

section

variable {c c' : Configuration} {supply supply' : Supply}

theorem Service.ask_alike (alike : c.Alike c') (clock : supply'.clock = supply.clock)
    (store : Option Store) (given : Option Catalog) (text : Value) :
    EndsAlike (ask c store given text supply) (ask c' store given text supply') := by
  have made := alike.outcome_dataset supply.datasetMade supply'.datasetMade
  unfold ask
  simp only [alike.catalogOr, clock]
  split
  · exact ⟨rfl, clock⟩
  · -- Both are prepared with the same outcome, and only the records can tell them apart.
    cases store with
    | some store =>
      simp only [Traced.outcome_bind, Traced.outcome_liftM, Traced.outcome_pure]
      split <;> exact ⟨rfl, rfl⟩
    | none =>
      simp only [Traced.outcome_bind, Traced.outcome_liftM, Traced.outcome_pure, made]
      split <;> exact ⟨rfl, rfl⟩

namespace Http

theorem handleQuery_alike (alike : c.Alike c') (clock : supply'.clock = supply.clock)
    (query : Value) : EndsAlike (handleQuery c query supply) (handleQuery c' query supply') := by
  have asked := Service.ask_alike alike clock none none query
  refine ⟨?_, asked.clock⟩
  simp only [handleQuery, asked.outcome, alike.wording]
  split <;> rfl

theorem handleCatalog_alike (alike : c.Alike c') : handleCatalog c' = handleCatalog c := by
  simp only [handleCatalog, alike.catalog]

theorem serve_alike (alike : c.Alike c') (clock : supply'.clock = supply.clock) (route : Route)
    (body : Option Value) :
    EndsAlike (serve c route body supply) (serve c' route body supply') := by
  cases route with
  | health => exact ⟨rfl, clock⟩
  | catalog => exact ⟨congrArg Traced.outcome (handleCatalog_alike alike), clock⟩
  | validate =>
    simp only [serve, alike.wording]
    split <;> exact ⟨rfl, clock⟩
  | explain =>
    simp only [serve, alike.wording]
    split <;> exact ⟨rfl, clock⟩
  | query =>
    simp only [serve]
    split
    · exact ⟨rfl, clock⟩
    · exact handleQuery_alike alike clock _

theorem guarded_alike (alike : c.Alike c') (clock : supply'.clock = supply.clock) (r : Request)
    (route : Route) (body : Option Value) :
    EndsAlike (guarded c r route body supply) (guarded c' r route body supply') := by
  unfold guarded
  rw [alike.settings]
  split
  · exact ⟨rfl, clock⟩
  · split
    · exact serve_alike alike clock _ _
    · exact ⟨rfl, clock⟩

theorem route_alike (alike : c.Alike c') (clock : supply'.clock = supply.clock) (r : Request) :
    EndsAlike (route c r supply) (route c' r supply') := by
  unfold route
  rw [alike.platform]
  split
  · exact ⟨rfl, clock⟩
  · split
    · exact ⟨rfl, clock⟩
    · split
      · exact serve_alike alike clock _ _
      · exact guarded_alike alike clock _ _ _
      · split
        · exact ⟨rfl, clock⟩
        · exact guarded_alike alike clock _ _ _

/-- A response depends on a configuration by what alike ones have in common, and not on whether the
dataset has been made. -/
theorem respond_alike (alike : c.Alike c') (clock : supply'.clock = supply.clock) (r : Request) :
    (respond c' r supply').1.2 = (respond c r supply).1.2 := by
  have routed' := (route_alike alike clock r).outcome
  unfold respond
  split
  · rfl
  · simp only [routed, routed']

end Http

namespace Evaluation

theorem judge_alike (alike : c.Alike c') (clock : supply'.clock = supply.clock) (question : Value)
    (fields : List (Scalar × Value)) :
    EndsAlike (judge c question fields supply) (judge c' question fields supply') := by
  have asked := Service.ask_alike alike clock none none question
  refine ⟨?_, asked.clock⟩
  simp only [judge, asked.outcome, alike.wording]

theorem evaluate_alike (alike : c.Alike c') (questions : List Value)
    (clock : supply'.clock = supply.clock) :
    EndsAlike (evaluate c questions supply) (evaluate c' questions supply') := by
  induction questions generalizing supply supply' with
  | nil => exact ⟨rfl, clock⟩
  | cons v vs ih =>
    unfold evaluate
    split
    next question fields _ =>
      have first := judge_alike alike clock question fields
      have others := ih first.clock
      refine ⟨?_, others.clock⟩
      simp only [Traced.outcome_bind, first.outcome, others.outcome]
    · exact ⟨rfl, clock⟩
    · exact ⟨rfl, clock⟩

theorem run_alike (alike : c.Alike c') (clock : supply'.clock = supply.clock)
    (content : Option String) (now : Timestamp) (place : String) :
    EndsAlike (run c content now place supply) (run c' content now place supply') := by
  simp only [run, alike.platform]
  split
  · exact ⟨rfl, clock⟩
  next values _ =>
    have judged := evaluate_alike alike values clock
    refine ⟨?_, judged.clock⟩
    simp only [Traced.outcome_bind, judged.outcome]

end Evaluation

end

namespace Session

/-! ### Sessions that answer alike -/

/-- Two sessions with the same of all that an answer depends on. -/
structure Alike (s s' : Session) : Prop where
  lookups : s.configuration.Alike s'.configuration
  threshold : s'.threshold = s.threshold
  store : s'.store = s.store
  sources : s'.sources = s.sources

variable {s s' : Session}

/-- A request ends with the failure of the dataset if the server is started for it, or unsent, or
with the response of the service. -/
theorem outcome_respond (s : Session) (request : Http.Request) (started : Bool) (clock : Clock) :
    ∃ made, (s.respond request started clock).1.outcome =
      (if started then s.configuration.makeDataset.outcome.map (fun _ => ()) else .ok ()).bind
        fun _ => match request.unsendable? with
          | some text => .error (.notAscii text)
          | none => .ok (Http.respond s.configuration request ⟨clock, made⟩).1.2 := by
  cases started with
  | false =>
    refine ⟨s.datasetMade, ?_⟩
    simp only [Session.respond, Bool.false_eq_true, if_false, Traced.outcome_pure]
    cases request.unsendable? <;> rfl
  | true =>
    refine ⟨(s.configuration.dataset s.datasetMade).2, ?_⟩
    simp only [Session.respond, if_true, Configuration.outcome_dataset]
    cases s.configuration.makeDataset.outcome with
    | error e => rfl
    | ok d => cases request.unsendable? <;> rfl

theorem Alike.respond (alike : s.Alike s') (request : Http.Request) (started : Bool)
    (clock : Clock) :
    (s'.respond request started clock).1.outcome =
      (s.respond request started clock).1.outcome := by
  obtain ⟨made, ends⟩ := s.outcome_respond request started clock
  obtain ⟨made', ends'⟩ := s'.outcome_respond request started clock
  have responded := Http.respond_alike alike.lookups (Supply.clock_made clock made made') request
  rw [ends, ends', alike.lookups.makeDataset, responded]

theorem Alike.inquire (alike : s.Alike s') (i : Inquiry) :
    (s'.inquire i).1.outcome = (s.inquire i).1.outcome := by
  have lookups := alike.lookups
  cases i with
  | dataset =>
    simp only [Session.inquire, Traced.outcome_bind,
      lookups.outcome_dataset s.datasetMade s'.datasetMade]
  | authentic sent expected => cases expected <;> simp only [Session.inquire, lookups.settings]
  | ask text source catalog clock =>
    have stores : s'.storeOf? source = s.storeOf? source := by
      cases source <;> simp only [storeOf?, alike.store]
    have asked := Service.ask_alike lookups
      (Supply.clock_made clock s.datasetMade s'.datasetMade) (s.storeOf? source) catalog text
    simp only [Session.inquire, Traced.outcome_bind, stores, asked.outcome]
  | respond request started clock =>
    simp only [Session.inquire, Traced.outcome_bind, alike.respond]
  | evaluate questions clock =>
    have judged := Evaluation.evaluate_alike lookups questions
      (Supply.clock_made clock s.datasetMade s'.datasetMade)
    simp only [Session.inquire, Traced.outcome_bind, judged.outcome]
  | run content now place clock =>
    have ran := Evaluation.run_alike lookups
      (Supply.clock_made clock s.datasetMade s'.datasetMade) content now place
    simp only [Session.inquire, Traced.outcome_bind, ran.outcome]
  | _ =>
    simp only [Session.inquire, lookups.settings, lookups.catalog, lookups.catalogOr, alike.store,
      alike.threshold]

/-- Alike sessions answer a request alike, and stay alike. -/
theorem Alike.step (alike : s.Alike s') (request : Request) :
    (s'.step request).1.outcome = (s.step request).1.outcome ∧
      (s.step request).2.Alike (s'.step request).2 := by
  have ⟨lookups, threshold, store, sources⟩ := alike
  cases request with
  | inquiry i => exact ⟨alike.inquire i, lookups, threshold, store, sources⟩
  | change c =>
    cases c with
    | configure c =>
      refine ⟨rfl, .refl c, ?_, store, sources⟩
      simp only [Session.step, change, reconfigured, threshold]
    | build tables => exact ⟨rfl, lookups, threshold, rfl, rfl⟩
    | buildSeeded table count seed =>
      simp only [Session.step, change, lookups.catalog]
      split
      · exact ⟨rfl, alike⟩
      · exact ⟨rfl, lookups, threshold, rfl, rfl⟩
    | append table row =>
      refine ⟨?_, lookups, threshold, store, ?_⟩
      · simp only [Session.step, change, extended, sources]
      · simp only [Session.step, change, extended, sources]
    | setField table index field value =>
      refine ⟨?_, alike⟩
      simp only [Session.step, change, refusal, store]

/-- An inquiry leaves a session alike to itself: all it can change is whether the dataset has been
made. -/
theorem alike_step_inquiry (s : Session) (i : Inquiry) : s.Alike (s.step (.inquiry i)).2 :=
  ⟨.refl _, rfl, rfl, rfl⟩

/-! ### The ends of requests -/

/-- How a request ends. -/
def outcome (s : Session) (request : Request) : Except Error Reply :=
  (s.step request).1.outcome

/-- How requests end that follow each other. -/
def outcomes (s : Session) (requests : List Request) : List (Except Error Reply) :=
  (s.run requests).map (·.outcome)

theorem outcomes_cons (s : Session) (request : Request) (rest : List Request) :
    s.outcomes (request :: rest) = s.outcome request :: (s.step request).2.outcomes rest := rfl

theorem outcomes_append (s : Session) (first rest : List Request) :
    s.outcomes (first ++ rest) = s.outcomes first ++ (s.after first).outcomes rest := by
  rw [outcomes, run_append, List.map_append]
  rfl

theorem length_outcomes (s : Session) (requests : List Request) :
    (s.outcomes requests).length = requests.length := by
  induction requests generalizing s with
  | nil => rfl
  | cons request rest ih => simp [outcomes_cons, ih]

theorem Alike.outcomes (alike : s.Alike s') (requests : List Request) :
    s'.outcomes requests = s.outcomes requests := by
  induction requests generalizing s s' with
  | nil => rfl
  | cons request rest ih =>
    obtain ⟨same, later⟩ := alike.step request
    rw [outcomes_cons, outcomes_cons, ih later]
    exact congrArg (· :: _) same

/-- Behind an inquiry, requests end as without it. -/
theorem outcomes_inquiry (s : Session) (i : Inquiry) (rest : List Request) :
    s.outcomes (.inquiry i :: rest) = s.outcome (.inquiry i) :: s.outcomes rest := by
  rw [outcomes_cons, (s.alike_step_inquiry i).outcomes]

theorem outcomes_inquiries (s : Session) (asked : List Inquiry) (rest : List Request) :
    s.outcomes (asked.map .inquiry ++ rest) =
      asked.map (fun i => s.outcome (.inquiry i)) ++ s.outcomes rest := by
  induction asked with
  | nil => rfl
  | cons i asked ih =>
    rw [List.map_cons, List.cons_append, outcomes_inquiry, ih]
    rfl

/-! ### Processes that keep what they make -/

/-- What a process keeps. -/
structure Memory where
  settings : Option Settings := none
  catalog : Option Catalog := none
  dataset : Option Dataset := none

namespace Memory

/-- A configuration in which is found what is kept, and what the configuration of the process makes
of the rest, on the same platform and in the same words. -/
structure Shows (m : Memory) (c shown : Configuration) : Prop where
  settings : shown.settings = (m.settings.map .ok).getD c.settings
  catalog : shown.catalog = (m.catalog.map .ok).getD c.catalog
  dataset : ∀ d ∈ m.dataset, shown.makeDataset.outcome = .ok d
  platform : shown.platform = c.platform
  wording : shown.wording = c.wording

/-- What is kept behind a request: to what was kept before it, it may have added what was made for
it. A failure is not kept. -/
structure Keeps (m : Memory) (shown : Configuration) (m' : Memory) : Prop where
  settings : m'.settings = m.settings ∨ m'.settings = shown.settings.toOption
  catalog : m'.catalog = m.catalog ∨ m'.catalog = shown.catalog.toOption
  dataset : m'.dataset = m.dataset ∨ m'.dataset = shown.makeDataset.outcome.toOption

/-- All that is kept is what the configuration makes. -/
structure Agrees (m : Memory) (c : Configuration) : Prop where
  settings : ∀ s ∈ m.settings, c.settings = .ok s
  catalog : ∀ k ∈ m.catalog, c.catalog = .ok k
  dataset : ∀ d ∈ m.dataset, c.makeDataset.outcome = .ok d

theorem agrees_empty (c : Configuration) : Agrees {} c :=
  ⟨by rintro _ ⟨⟩, by rintro _ ⟨⟩, by rintro _ ⟨⟩⟩

theorem Keeps.refl (m : Memory) (c : Configuration) : m.Keeps c m :=
  ⟨.inl rfl, .inl rfl, .inl rfl⟩

theorem getD_eq_of_kept {α : Type} {kept : Option α} {made : Except Error α}
    (agrees : ∀ a ∈ kept, made = .ok a) : (kept.map .ok).getD made = made := by
  cases kept with
  | none => rfl
  | some a => exact (agrees a rfl).symm

theorem kept_of_made {α : Type} {kept kept' : Option α} {made : Except Error α}
    (agrees : ∀ a ∈ kept, made = .ok a) (keeps : kept' = kept ∨ kept' = made.toOption) :
    ∀ a ∈ kept', made = .ok a := by
  rcases keeps with rfl | rfl
  · exact agrees
  · intro a member
    cases made with
    | error e => cases member
    | ok b =>
      cases member
      rfl

variable {m m' : Memory} {c shown : Configuration}

theorem Agrees.alike_shown (agrees : m.Agrees c) (shows : m.Shows c shown) : c.Alike shown :=
  ⟨shows.settings.trans (getD_eq_of_kept agrees.settings),
    shows.catalog.trans (getD_eq_of_kept agrees.catalog), shows.platform, shows.wording⟩

theorem Agrees.shows (agrees : m.Agrees c) : m.Shows c c :=
  ⟨(getD_eq_of_kept agrees.settings).symm, (getD_eq_of_kept agrees.catalog).symm, agrees.dataset,
    rfl, rfl⟩

theorem Agrees.keeps (agrees : m.Agrees c) (alike : c.Alike shown) (keeps : m.Keeps shown m') :
    m'.Agrees c := by
  obtain ⟨settings, catalog, dataset⟩ := keeps
  rw [alike.settings] at settings
  rw [alike.catalog] at catalog
  rw [alike.makeDataset] at dataset
  exact ⟨kept_of_made agrees.settings settings, kept_of_made agrees.catalog catalog,
    kept_of_made agrees.dataset dataset⟩

end Memory

/-- A session that is served with memory. -/
structure Process where
  session : Session
  memory : Memory := {}

namespace Process

/-- A step of a process, with the end of the request. A request is served by what is kept, and made
anew is only the rest. What of it is kept from then on is left open, so that anything may be made
first by any request. -/
inductive Step (p : Process) : Request → Except Error Reply → Process → Prop
  | serve {request : Request} {shown : Configuration} {kept : Memory}
    (other : ∀ c, request ≠ .change (.configure c))
    (shows : p.memory.Shows p.session.configuration shown) (keeps : p.memory.Keeps shown kept) :
    Step p request ({ p.session with configuration := shown }.outcome request)
      ⟨{ ({ p.session with configuration := shown }.step request).2 with
          configuration := p.session.configuration }, kept⟩
  -- With another configuration nothing is kept of the one before.
  | configure {c : Configuration} {kept : Memory} (keeps : Memory.Keeps {} c kept) :
    Step p (.change (.configure c)) (p.session.outcome (.change (.configure c)))
      ⟨(p.session.step (.change (.configure c))).2, kept⟩

/-- A process serves requests that follow each other, with these ends. -/
inductive Runs : Process → List Request → List (Except Error Reply) → Prop
  | nil {p : Process} : Runs p [] []
  | cons {p p' : Process} {request : Request} {outcome : Except Error Reply}
    {rest : List Request} {outcomes : List (Except Error Reply)}
    (step : p.Step request outcome p') (later : Runs p' rest outcomes) :
    Runs p (request :: rest) (outcome :: outcomes)

variable {p p' : Process} {request : Request} {outcome : Except Error Reply}

theorem configuration_step (s : Session) (other : ∀ c, request ≠ .change (.configure c)) :
    (s.step request).2.configuration = s.configuration := by
  cases request with
  | inquiry i => rfl
  | change change =>
    cases change with
    | configure c => exact absurd rfl (other c)
    | buildSeeded table count seed =>
      simp only [Session.step, Session.change]
      split <;> rfl
    | _ => rfl

/-- A process whose memory agrees with its configuration serves a request as the session alone
does, and its memory agrees again. -/
theorem Step.alike (agrees : p.memory.Agrees p.session.configuration)
    (step : p.Step request outcome p') :
    outcome = p.session.outcome request ∧ (p.session.step request).2.Alike p'.session ∧
      p'.memory.Agrees p'.session.configuration := by
  cases step with
  | @serve _ shown kept other shows keeps =>
    have lookups := agrees.alike_shown shows
    have alike : p.session.Alike { p.session with configuration := shown } :=
      ⟨lookups, rfl, rfl, rfl⟩
    obtain ⟨same, later⟩ := alike.step request
    refine ⟨same, ⟨?_, later.threshold, later.store, later.sources⟩, agrees.keeps lookups keeps⟩
    rw [configuration_step p.session other]
    exact .refl _
  | @configure c kept keeps =>
    refine ⟨rfl, ⟨.refl c, rfl, rfl, rfl⟩, ?_⟩
    exact (Memory.agrees_empty c).keeps (.refl c) keeps

theorem Step.exists (agrees : p.memory.Agrees p.session.configuration) (request : Request) :
    ∃ p', p.Step request (p.session.outcome request) p' := by
  by_cases configures : ∃ c, request = .change (.configure c)
  · obtain ⟨c, rfl⟩ := configures
    exact ⟨_, .configure (.refl _ c)⟩
  · exact ⟨_, .serve (fun c same => configures ⟨c, same⟩) agrees.shows (.refl _ _)⟩

/-- A process runs as its session does alone. -/
theorem runs_iff (agrees : p.memory.Agrees p.session.configuration) (requests : List Request)
    (outcomes : List (Except Error Reply)) :
    p.Runs requests outcomes ↔ outcomes = p.session.outcomes requests := by
  induction requests generalizing p outcomes with
  | nil =>
    constructor
    · rintro ⟨⟩
      rfl
    · rintro rfl
      exact .nil
  | cons request rest ih =>
    constructor
    · intro runs
      cases runs with
      | cons step later =>
        obtain ⟨same, alike, agrees'⟩ := step.alike agrees
        rw [(ih agrees' _).mp later, alike.outcomes, same]
        rfl
    · rintro rfl
      obtain ⟨p', step⟩ := Step.exists agrees request
      obtain ⟨_, alike, agrees'⟩ := step.alike agrees
      refine .cons step ((ih agrees' _).mpr ?_)
      exact (alike.outcomes rest).symm

end Process

/-! ### Inquiries -/

/-- Inquiries do not influence other requests. Without one of them, the others end as with it. Any
inquiries between the same requests end each as if it was the only one, and leave the others as they
are, so that their order does not matter. And the same is answered by every process that starts with
nothing kept, from whichever requests on it keeps the settings, the catalog and the dataset. -/
theorem inquiries_independent (s : Session) (first rest : List Request) :
    (∀ i, s.outcomes (first ++ rest) =
      (s.outcomes (first ++ .inquiry i :: rest)).eraseIdx first.length) ∧
    (∀ asked : List Inquiry, s.outcomes (first ++ (asked.map .inquiry ++ rest)) =
      s.outcomes first ++ (asked.map (fun i => (s.after first).outcome (.inquiry i)) ++
        (s.after first).outcomes rest)) ∧
    ∀ requests outcomes, Process.Runs ⟨s, {}⟩ requests outcomes ↔
      outcomes = s.outcomes requests := by
  refine ⟨?_, ?_, ?_⟩
  · intro i
    have before : first.length = (s.outcomes first).length := (s.length_outcomes first).symm
    rw [outcomes_append, outcomes_append, outcomes_inquiry, before,
      List.eraseIdx_append_of_length_le (Nat.le_refl _), Nat.sub_self, List.eraseIdx_cons_zero]
  · intro asked
    rw [outcomes_append, outcomes_inquiries]
  · exact Process.runs_iff (p := ⟨s, {}⟩) (Memory.agrees_empty _)

end Session

end TableTalk
