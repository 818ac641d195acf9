import TableTalk.Proofs.Statements
import TableTalk.Proofs.Sales
import TableTalk.Proofs.Elapsed

/-!
# TableTalk.Proofs.Answers

The service for questions, from the text of a question to the fields of the answer.

## Main result

- `Service.ask_contract`: over a store of sales, by a catalog whose names are texts, there are two
  ways to fail, a blank question and an unknown table; every other question is answered, and the
  fields of the answer are those of one intent on one table.

## Proof strategy

The intent of a question cannot fail on texts (`Question.intent_eq`), its execution cannot fail on
sales (`QueryIntent.execute_sales`), and the clock cannot keep an answer from being timed
(`Clock.Works.time_succeeds`). What is left of the service is the lookup of the table.
-/

namespace TableTalk

/-! ### Intents over names that are texts -/

namespace Catalog

theorem keywords_texts (names : List String) :
    keywords (names.map .text) = .ok (names.map fun name => .text name.lowered) := by
  induction names with
  | nil => rfl
  | cons name rest ih =>
    rw [List.map_cons, keywords, ih]
    rfl

theorem searchable_texts (position : Nat) (names : List String) :
    searchable position (names.map .text) = .ok names := by
  induction names generalizing position with
  | nil => rfl
  | cons name rest ih =>
    rw [List.map_cons, searchable, ih]
    rfl

theorem productNames_texts {catalog : Catalog} {names : List String}
    (vocabulary : catalog.products = names.map .text) :
    catalog.productNames = .ok (names.map String.lowered) := by
  have searched := searchable_texts 0 (names.map String.lowered)
  rw [List.map_map] at searched
  rw [productNames, productKeywords, vocabulary, keywords_texts]
  exact searched

end Catalog

/-- If all products are texts, all of them can be found. -/
theorem Question.productAmong_texts (question : String) (names : List String) :
    productAmong question (names.map .text) (names.map String.lowered) =
      product? (names.map String.lowered) question := by
  cases names <;> rfl

theorem Question.filters_eq {catalog : Catalog} {names : List String}
    (vocabulary : catalog.products = names.map .text) (question : String) :
    filters question catalog = .ok {
      region := regions? question
      product := product? (names.map String.lowered) question } := by
  rw [filters, Catalog.productNames_texts vocabulary, vocabulary, ← productAmong_texts]
  rfl

/-- What a question is found to ask for, its three parts side by side. -/
theorem Question.intent_eq {catalog : Catalog} {table : String} {names : List String}
    (named : catalog.tableName = .text table) (vocabulary : catalog.products = names.map .text)
    (question : String) :
    intent question catalog = .ok {
      sourceTable := table
      operation := classify question
      filters := {
        region := regions? question
        product := product? (names.map String.lowered) question } } := by
  rw [intent, filters_eq vocabulary, named, QueryIntent.checkTable, checkName_text]
  rfl

theorem Question.outcome_extract (question : String) (catalog : Catalog) :
    (extract question catalog).outcome = intent question catalog := by
  rw [extract, Traced.outcome_bind, Traced.outcome_liftM]
  cases intent question catalog <;> simp

/-! ### Answers -/

/-- The answer to a question tells what its intent comes to on sales. -/
structure Answer.Tells (answer : Answer) (question : String) (intent : QueryIntent) (preview : Int)
    (sales : List Sale) : Prop where
  asked : answer.question = question
  understood : answer.intent = intent
  executed : answer.execution.IsOf intent preview sales
  sentence : answer.explanation =
    "Found " ++ toString answer.execution.matchedCount ++ " records matching your criteria"

namespace Service

variable {c : Configuration} {store : Store} {given : Option Catalog} {catalog : Catalog}
  {supply : Supply}

theorem outcome_answer (question : String) (store : Store) (catalog : Catalog) :
    (answer question store catalog).outcome =
      (Question.intent question catalog).bind fun intent =>
        (store.rows intent.sourceTable).bind fun rows =>
          (intent.execute rows catalog.previewRows).outcome.bind fun execution =>
            .ok (intent, execution) := by
  simp [answer, Question.outcome_extract]

theorem ask_blank {v : Value} (blank : normalise v = "") :
    (ask c (some store) given v supply).1.outcome = .error .missingQuestion := by
  simp [ask, blank]

theorem outcome_ask {v : Value} (nonblank : normalise v ≠ "")
    (found : c.catalogOr given = .ok catalog) :
    (ask c (some store) given v supply).1.outcome =
      supply.clock.time.1.bind fun latency =>
        (answer (normalise v) store catalog).outcome.bind fun (intent, execution) =>
          .ok { question := normalise v, intent, execution, latency } := by
  simp only [ask, String.isEmpty_iff, nonblank, if_false, Traced.outcome_bind, Traced.outcome_pure,
    Traced.bind_ok, Traced.outcome_liftM, found, Traced.outcome_log]
  cases supply.clock.time.1 with
  | error e => rfl
  | ok latency => cases (answer (normalise v) store catalog).outcome <;> rfl

theorem ask_unknown {v : Value} {intent : QueryIntent} (nonblank : normalise v ≠ "")
    (found : c.catalogOr given = .ok catalog) (works : supply.clock.Works)
    (understood : Question.intent (normalise v) catalog = .ok intent)
    (absent : intent.sourceTable ∉ store.tableNames) :
    (ask c (some store) given v supply).1.outcome = .error (.unknownTable intent.sourceTable) := by
  obtain ⟨latency, timed⟩ := works.time_succeeds
  rw [outcome_ask nonblank found, timed, Traced.bind_ok, outcome_answer, understood,
    Traced.bind_ok, Store.rows_of_not_mem absent, Traced.bind_error, Traced.bind_error]

theorem ask_tells {v : Value} {intent : QueryIntent} {sales : List Sale}
    (nonblank : normalise v ≠ "") (found : c.catalogOr given = .ok catalog)
    (works : supply.clock.Works)
    (understood : Question.intent (normalise v) catalog = .ok intent)
    (held : store.Holds intent.sourceTable sales) :
    ∃ a, (ask c (some store) given v supply).1.outcome = .ok a ∧
      a.Tells (normalise v) intent catalog.previewRows sales := by
  obtain ⟨latency, timed⟩ := works.time_succeeds
  obtain ⟨execution, ran, executed⟩ := intent.execute_sales sales catalog.previewRows
  refine ⟨⟨normalise v, intent, execution, latency⟩, ?_, rfl, rfl, executed, rfl⟩
  rw [outcome_ask nonblank found, timed, Traced.bind_ok, outcome_answer, understood,
    Traced.bind_ok, held.rows, Traced.bind_ok, ran, Traced.bind_ok, Traced.bind_ok]

/-! ### The contract -/

/-- A text between two others. -/
def padded (before after text : String) : String :=
  before ++ text ++ after

theorem normalise_padded {before after : String}
    (blanks : ∀ c ∈ before.toList, Text.isBlank c = true)
    (blanks' : ∀ c ∈ after.toList, Text.isBlank c = true) (text : Option String) :
    normalise (.ofText? (text.map (padded before after))) = normalise (.ofText? text) := by
  cases text with
  | none => rfl
  | some s =>
    simp only [normalise_ofText?, Option.map_some, Option.getD_some, padded, String.toList_append]
    rw [Text.trim_padded _ _ _ blanks blanks']

theorem ask_eq_of_normalise_eq {v w : Value} (same : normalise v = normalise w) :
    ask c (some store) given v supply = ask c (some store) given w supply := by
  rw [ask, ask, same]

/-- Over a store of sales, by a catalog whose names are texts, a question is refused if it is blank
or its table is unknown, and answered otherwise. Blanks around it do not count. -/
theorem ask_contract {table : String} {names : List String} (c : Configuration)
    (named : catalog.tableName = .text table) (vocabulary : catalog.products = names.map .text)
    (sold : store.OfSales) (works : supply.clock.Works) (text : Option String) :
    let question := normalise (.ofText? text)
    let outcome := (ask c (some store) (some catalog) (.ofText? text) supply).1.outcome
    (outcome = .error .missingQuestion ↔ question = "") ∧
    (∀ w, Error.missingQuestion.message w = "Missing query") ∧
    (question ≠ "" →
      (outcome = .error (.unknownTable table) ↔ table ∉ store.tableNames) ∧
      (table ∈ store.tableNames → ∃ answer intent sales, outcome = .ok answer ∧
        (Question.extract question catalog).outcome = .ok intent ∧ store.Holds table sales ∧
        answer.Tells question intent catalog.previewRows sales)) ∧
    ∀ before after : String, (∀ c ∈ before.toList, Text.isBlank c = true) →
      (∀ c ∈ after.toList, Text.isBlank c = true) →
      ask c (some store) (some catalog) (.ofText? (text.map (padded before after))) supply =
        ask c (some store) (some catalog) (.ofText? text) supply := by
  intro question outcome
  have found : c.catalogOr (some catalog) = .ok catalog := rfl
  have understood := Question.intent_eq named vocabulary question
  have unknown (nonblank : question ≠ "") (absent : table ∉ store.tableNames) :
      outcome = .error (.unknownTable table) := ask_unknown nonblank found works understood absent
  have answered (nonblank : question ≠ "") (present : table ∈ store.tableNames) :
      ∃ answer intent sales, outcome = .ok answer ∧
        (Question.extract question catalog).outcome = .ok intent ∧ store.Holds table sales ∧
        answer.Tells question intent catalog.previewRows sales := by
    obtain ⟨sales, held⟩ := sold.holds present
    obtain ⟨answer, ok, tells⟩ := ask_tells nonblank found works understood held
    exact ⟨answer, _, sales, ok, (Question.outcome_extract _ _).trans understood, held, tells⟩
  refine ⟨⟨?_, ask_blank⟩, fun _ => rfl, ?_, ?_⟩
  · intro missing
    by_contra nonblank
    by_cases present : table ∈ store.tableNames
    · obtain ⟨answer, _, _, ok, _⟩ := answered nonblank present
      rw [ok] at missing
      cases missing
    · rw [unknown nonblank present] at missing
      cases missing
  · intro nonblank
    refine ⟨⟨?_, unknown nonblank⟩, answered nonblank⟩
    intro failed present
    obtain ⟨answer, _, _, ok, _⟩ := answered nonblank present
    rw [ok] at failed
    cases failed
  · intro before after blanks blanks'
    exact ask_eq_of_normalise_eq (normalise_padded blanks blanks' text)

/-- A question over two sales is answered. -/
theorem ask_two_sales :
    let store : Store := ⟨[("sales", [⟨1, "Laptop", "North", 300, .ofUnixSeconds 0⟩,
      ⟨2, "Phone", "South", 120, .ofUnixSeconds 60⟩].map Sale.row)]⟩
    let supply : Supply := { clock := ⟨[.int 7, .double (.finite false Double.one)]⟩ }
    ∃ answer intent sales,
      (ask {} (some store) (some .sales) (.text " how many laptops in north ") supply).1.outcome =
        .ok answer ∧
      (Question.extract "how many laptops in north" .sales).outcome = .ok intent ∧
      store.Holds "sales" sales ∧
      answer.Tells "how many laptops in north" intent 5 sales := by
  intro store supply
  have sold : store.OfSales := by
    intro table member
    rw [List.mem_singleton.mp member]
    exact ⟨_, rfl⟩
  have works : supply.clock.Works := by
    intro reading member
    rcases List.mem_cons.mp member with rfl | member
    · exact Nat.le_of_ble_eq_true rfl
    · rw [List.mem_singleton.mp member]
      exact .intro _ _ (Nat.le_mul_of_pos_left _ (by decide))
  have vocabulary : Catalog.sales.products = ["Laptop", "Phone", "Tablet"].map .text := rfl
  exact ((ask_contract {} rfl vocabulary sold works (some " how many laptops in north ")).2.2.1
    (by decide)).2 (by decide)

end Service

end TableTalk
