import TableTalk.Execution
import TableTalk.Store
import Mathlib

/-!
# TableTalk.Proofs.Sales

Tables of sales: rows whose products and regions are texts and whose amounts are whole numbers. On
such rows no intent fails, and what is made of them is said without errors and without values of
unknown kind.

## Main results

- `FilterSet.apply_sales`: the rows that pass filters are those that the filters admit, in order.
- `QueryIntent.execute_sales`: an intent is executed on every table of sales, and the fields of the
  result agree with each other.
-/

namespace TableTalk

/-- One sale of a product, given by its name, in a region. -/
structure Sale where
  id : Int
  product : String
  region : String
  amount : Int
  date : Timestamp

/-- The row of a sale. -/
def Sale.row (sale : Sale) : Row :=
  { id := sale.id, product := .text sale.product, region := .text sale.region,
    amount := .int sale.amount, date := sale.date }

/-! ### Filters -/

namespace FilterSet

/-- A sale has what filters ask for. -/
def Admits (f : FilterSet) (sale : Sale) : Prop :=
  (∀ names ∈ f.region, sale.region.lowered ∈ names) ∧
    ∀ name ∈ f.product, sale.product.lowered = name

instance (f : FilterSet) (sale : Sale) : Decidable (f.Admits sale) :=
  inferInstanceAs (Decidable (_ ∧ _))

theorem admitsRegion_row (f : FilterSet) (sale : Sale) :
    f.admitsRegion sale.row = .ok (decide (∀ names ∈ f.region, sale.region.lowered ∈ names)) := by
  cases region : f.region with
  | none => simp [admitsRegion, region]
  | some names =>
    simp only [admitsRegion, region, Sale.row, Value.lowered, Except.map, Option.mem_def,
      Option.some.injEq, forall_eq']
    congr 1
    rw [Bool.eq_iff_iff]
    simp

theorem admitsProduct_row (f : FilterSet) (sale : Sale) :
    f.admitsProduct sale.row = .ok (decide (∀ name ∈ f.product, sale.product.lowered = name)) := by
  cases product : f.product with
  | none => simp [admitsProduct, product]
  | some name => simp [admitsProduct, product, Sale.row, Value.lowered, Except.map]

theorem admits_row (f : FilterSet) (sale : Sale) :
    f.admits sale.row = .ok (decide (f.Admits sale)) := by
  rw [admits, admitsRegion_row, admitsProduct_row]
  by_cases region : ∀ names ∈ f.region, sale.region.lowered ∈ names
  · have both : f.Admits sale ↔ ∀ name ∈ f.product, sale.product.lowered = name :=
      and_iff_right region
    rw [decide_eq_true region, decide_eq_decide.mpr both]
    rfl
  · have neither : ¬f.Admits sale := fun admitted => region admitted.1
    rw [decide_eq_false region, decide_eq_false neither]
    rfl

/-- The sales that filters admit, in order. -/
def matching (f : FilterSet) (sales : List Sale) : List Sale :=
  sales.filter fun sale => f.Admits sale

theorem matching_cons (f : FilterSet) (sale : Sale) (rest : List Sale) :
    f.matching (sale :: rest) =
      if f.Admits sale then sale :: f.matching rest else f.matching rest := by
  simp [matching, List.filter_cons]

theorem apply_sales (f : FilterSet) (sales : List Sale) :
    f.apply (sales.map Sale.row) = .ok ((f.matching sales).map Sale.row) := by
  induction sales with
  | nil => rfl
  | cons sale rest ih =>
    rw [List.map_cons, apply, admits_row, ih, matching_cons]
    by_cases admitted : f.Admits sale
    · rw [decide_eq_true admitted, if_pos admitted]
      rfl
    · rw [decide_eq_false admitted, if_neg admitted]
      rfl

end FilterSet

/-! ### Operations -/

theorem totalFrom_sales (sum : Int) (sales : List Sale) :
    totalFrom (.int sum) (sales.map Sale.row) =
      .ok (.int (sum + (sales.map Sale.amount).sum)) := by
  induction sales generalizing sum with
  | nil => simp [totalFrom]
  | cons sale rest ih =>
    have added : (Number.int sum).add sale.row.amount = .ok (.int (sum + sale.amount)) := rfl
    rw [List.map_cons, totalFrom, added, List.map_cons, List.sum_cons, ← Int.add_assoc]
    exact ih (sum + sale.amount)

/-- The first items, as many as `stop` says; a negative number says how many are left out at the
end. -/
def front {α : Type} (stop : Int) (items : List α) : List α :=
  items.take (if stop < 0 then items.length - stop.natAbs else stop.toNat)

theorem front_map {α β : Type} (g : α → β) (stop : Int) (items : List α) :
    front stop (items.map g) = (front stop items).map g := by
  rw [front, List.length_map, front, List.map_take]

theorem slice_zero {α : Type} (stop : Int) (items : List α) :
    slice 0 stop items = front stop items := by
  simp [slice, front]

theorem isPrefix_front {α : Type} (stop : Int) (items : List α) : front stop items <+: items :=
  List.take_prefix _ _

theorem length_front {α : Type} (stop : Int) (items : List α) :
    ((front stop items).length : Int) =
      if 0 ≤ stop then min stop items.length else max 0 (items.length + stop) := by
  rw [front, List.length_take]
  split <;> split <;> omega

namespace Operation

/-- What an answer shows of the sales that filters admit. -/
def shown (operation : Operation) (preview : Int) (sales : List Sale) : Value :=
  match operation with
  | count => .record [("count", .int sales.length)]
  | sum => .record [("total", .int (sales.map Sale.amount).sum)]
  | select | average => .list ((front preview sales).map fun sale => sale.row.toValue)

/-- What an operation makes of sales. -/
def outcomeOn (operation : Operation) (preview : Int) (sales : List Sale) : Outcome :=
  match operation with
  | count => .count sales.length
  | sum => .total (.int (sales.map Sale.amount).sum)
  | select | average => .rows ((front preview sales).map Sale.row)

theorem run_sales (operation : Operation) (sales : List Sale) (preview : Int) :
    operation.run (sales.map Sale.row) preview = .ok (operation.outcomeOn preview sales) := by
  have listed : slice 0 preview (sales.map Sale.row) = (front preview sales).map Sale.row := by
    rw [slice_zero, front_map]
  cases operation with
  | count => rw [run, List.length_map, outcomeOn]
  | sum =>
    rw [run, totalFrom_sales, Int.zero_add]
    rfl
  | select => rw [run, listed, outcomeOn]
  | average => rw [run, listed, outcomeOn]

theorem wrapped_outcomeOn (operation : Operation) (preview : Int) (sales : List Sale) :
    (operation.outcomeOn preview sales).wrapped = operation.shown preview sales := by
  cases operation <;> simp [outcomeOn, shown, Outcome.wrapped]

end Operation

/-! ### Executions -/

/-- The result of executing an intent on sales: its fields, and how they belong together. -/
structure Execution.IsOf (execution : Execution) (intent : QueryIntent) (preview : Int)
    (sales : List Sale) : Prop where
  rendered : execution.renderedQuery = intent.render
  counted : execution.matchedCount = (intent.filters.matching sales).length
  shown : execution.outcome.wrapped =
    intent.operation.shown preview (intent.filters.matching sales)
  noted : execution.fallback.isSome ↔ intent.operation = .average

namespace QueryIntent

theorem isSome_note (intent : QueryIntent) : intent.note.isSome ↔ intent.operation = .average := by
  unfold note
  split <;> simp_all

theorem outcome_execute (intent : QueryIntent) (rows : List Row) (preview : Int) :
    (intent.execute rows preview).outcome =
      (intent.filters.apply rows).bind fun matched =>
        (intent.operation.run matched preview).bind fun outcome =>
          .ok ⟨outcome, intent.render, matched.length, intent.note⟩ := by
  by_cases average : intent.operation = .average
  · simp [execute, average]
  · simp [execute, average]

theorem outcome_execute_sales (intent : QueryIntent) (sales : List Sale) (preview : Int) :
    (intent.execute (sales.map Sale.row) preview).outcome = .ok {
      outcome := intent.operation.outcomeOn preview (intent.filters.matching sales)
      renderedQuery := intent.render
      matchedCount := (intent.filters.matching sales).length
      fallback := intent.note } := by
  rw [outcome_execute, FilterSet.apply_sales, Traced.bind_ok, Operation.run_sales, Traced.bind_ok,
    List.length_map]

theorem execute_sales (intent : QueryIntent) (sales : List Sale) (preview : Int) :
    ∃ execution, (intent.execute (sales.map Sale.row) preview).outcome = .ok execution ∧
      execution.IsOf intent preview sales :=
  ⟨_, intent.outcome_execute_sales sales preview, rfl, rfl, Operation.wrapped_outcomeOn _ _ _,
    intent.isSome_note⟩

end QueryIntent

/-! ### Stores -/

namespace Store

/-- A table of the store consists of these sales. -/
def Holds (store : Store) (name : String) (sales : List Sale) : Prop :=
  tableRows? name store.tables = some (sales.map Sale.row)

/-- All tables of the store consist of sales. -/
def OfSales (store : Store) : Prop :=
  ∀ table ∈ store.tables, ∃ sales : List Sale, table.2 = sales.map Sale.row

theorem Holds.rows {store : Store} {name : String} {sales : List Sale}
    (held : store.Holds name sales) : store.rows name = .ok (sales.map Sale.row) := by
  rw [Holds] at held
  simp only [Store.rows, held]

theorem tableRows?_eq_none_iff (store : Store) (name : String) :
    tableRows? name store.tables = none ↔ name ∉ store.tableNames := by
  rw [tableRows?, Option.map_eq_none_iff, List.find?_eq_none, tableNames, List.mem_map]
  simp only [decide_eq_true_eq, not_exists, not_and]

theorem rows_of_not_mem {store : Store} {name : String} (absent : name ∉ store.tableNames) :
    store.rows name = .error (.unknownTable name) := by
  rw [← tableRows?_eq_none_iff] at absent
  simp only [rows, absent]

theorem OfSales.holds {store : Store} (sold : store.OfSales) {name : String}
    (present : name ∈ store.tableNames) : ∃ sales, store.Holds name sales := by
  have found : tableRows? name store.tables ≠ none := by
    rw [Ne, tableRows?_eq_none_iff]
    exact not_not_intro present
  obtain ⟨rows, found⟩ := Option.ne_none_iff_exists'.mp found
  rw [tableRows?, Option.map_eq_some_iff] at found
  obtain ⟨table, first, rfl⟩ := found
  obtain ⟨sales, eq⟩ := sold table (List.mem_of_find?_eq_some first)
  exact ⟨sales, by rw [Holds, tableRows?, first, Option.map_some, eq]⟩

end Store

end TableTalk
