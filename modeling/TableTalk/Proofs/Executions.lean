import TableTalk.Proofs.Sales

/-!
# TableTalk.Proofs.Executions

What the execution of an intent on sales reports, and how the reports on different sales and for
different filters hang together.

## Main results

- `QueryIntent.execute_reports`: every execution succeeds, counts the sales that the filters admit
  before it cuts a list, and lists, counts or sums these sales.
- `FilterSet.tallies_laws`: counts and sums add up over regions without a common name and over sales
  in two parts; the order of the sales, the order and the repetition of names, and the case of
  letters in a sale do not matter.

## Proof strategy

An execution depends on the sales that the filters admit, in order, and a count and a sum do not
depend on that order (`FilterSet.tallies_of_perm`). What is left of each law is to say which sales
are admitted on its two sides.
-/

namespace TableTalk

/-! ### Reports -/

/-- A list shows the first sales of `found`, as many as `preview` says; a negative number says how
many are left out at the end. -/
structure Shows (preview : Int) (found listed : List Sale) : Prop where
  front : listed <+: found
  length : (listed.length : Int) =
    if 0 ≤ preview then min preview found.length else max 0 (found.length + preview)

theorem shows_front (preview : Int) (found : List Sale) :
    Shows preview found (front preview found) :=
  ⟨isPrefix_front preview found, length_front preview found⟩

/-- What an execution reports when its filters admit the sales `found`. -/
structure Execution.Reports (execution : Execution) (intent : QueryIntent) (preview : Int)
    (found : List Sale) : Prop where
  matched : execution.matchedCount = found.length
  count : intent.operation = .count → execution.outcome = .count found.length
  total : intent.operation = .sum →
    execution.outcome = .total (.int (found.map Sale.amount).sum)
  list : intent.operation = .select ∨ intent.operation = .average →
    ∃ listed, execution.outcome = .rows (listed.map Sale.row) ∧ Shows preview found listed
  fallback : execution.fallback.isSome ↔ intent.operation = .average

theorem FilterSet.matching_empty (sales : List Sale) : ({} : FilterSet).matching sales = sales := by
  refine List.filter_eq_self.mpr fun sale _ => ?_
  simp [Admits]

theorem FilterSet.matching_nowhere {f : FilterSet} (nowhere : f.region = some [])
    (sales : List Sale) : f.matching sales = [] := by
  refine List.filter_eq_nil_iff.mpr fun sale _ => ?_
  simp [Admits, nowhere]

theorem QueryIntent.exists_reports (intent : QueryIntent) (sales : List Sale) (preview : Int) :
    ∃ execution, (intent.execute (sales.map Sale.row) preview).outcome = .ok execution ∧
      execution.Reports intent preview (intent.filters.matching sales) := by
  refine ⟨_, intent.outcome_execute_sales sales preview, ?_⟩
  constructor
  case matched => rfl
  case count =>
    intro counts
    simp only [counts, Operation.outcomeOn]
  case total =>
    intro sums
    simp only [sums, Operation.outcomeOn]
  case list =>
    intro lists
    refine ⟨_, ?_, shows_front preview _⟩
    rcases lists with lists | lists <;> simp only [lists, Operation.outcomeOn]
  case fallback => exact intent.isSome_note

/-- Every intent is executed on every list of sales, and reports on the sales that its filters
admit, whatever part of them it lists. An average comes to what a selection comes to. Without
filters every row passes, and under an empty list of regions none does. -/
theorem QueryIntent.execute_reports (intent : QueryIntent) (sales : List Sale) (preview : Int) :
    (∃ execution, (intent.execute (sales.map Sale.row) preview).outcome = .ok execution ∧
      execution.Reports intent preview (sales.filter fun sale => intent.filters.Admits sale)) ∧
    (∀ table, ∃ average select,
      ({ intent with operation := .average }.execute (sales.map Sale.row) preview).outcome =
        .ok average ∧
      ({ intent with operation := .select, sourceTable := table }.execute (sales.map Sale.row)
        preview).outcome = .ok select ∧
      average.outcome = select.outcome ∧ average.matchedCount = select.matchedCount) ∧
    ({} : FilterSet).apply (sales.map Sale.row) = .ok (sales.map Sale.row) ∧
    { intent.filters with region := some [] }.apply (sales.map Sale.row) = .ok [] := by
  refine ⟨intent.exists_reports sales preview, ?_, ?_, ?_⟩
  · intro table
    exact ⟨_, _, outcome_execute_sales _ sales preview, outcome_execute_sales _ sales preview,
      rfl, rfl⟩
  · rw [FilterSet.apply_sales, FilterSet.matching_empty]
  · rw [FilterSet.apply_sales, FilterSet.matching_nowhere rfl]
    rfl

/-- Of three sales a list without the last two shows one, and still three match. -/
example (a b c : Sale) :
    ((QueryIntent.execute {} ([a, b, c].map Sale.row) (-2)).outcome.map fun execution =>
      (execution.outcome, execution.matchedCount)) = .ok (.rows [a.row], 3) :=
  rfl

/-! ### Tallies -/

namespace FilterSet

/-- Under a set of filters `n` of these rows match in every execution, which is what a count comes
to, and a sum comes to `total`. -/
def Tallies (f : FilterSet) (rows : List Row) (n : Nat) (total : Int) : Prop :=
  ∀ (intent : QueryIntent) (preview : Int), intent.filters = f →
    ∃ execution, (intent.execute rows preview).outcome = .ok execution ∧
      execution.matchedCount = n ∧
      (intent.operation = .count → execution.outcome = .count n) ∧
      (intent.operation = .sum → execution.outcome = .total (.int total))

/-- Two sets of filters name the same product, and the same regions in whatever order and however
often. -/
structure SameNames (f g : FilterSet) : Prop where
  product : f.product = g.product
  region : Option.Rel (fun names names' => ∀ name, name ∈ names ↔ name ∈ names') f.region g.region

/-- The sales that filters admit decide on the tallies, in whatever order. -/
theorem tallies_of_perm {f : FilterSet} {sales found : List Sale}
    (same : (f.matching sales).Perm found) :
    f.Tallies (sales.map Sale.row) found.length (found.map Sale.amount).sum := by
  rintro intent preview rfl
  obtain ⟨execution, executed, reports⟩ := intent.exists_reports sales preview
  have counted := same.length_eq
  have summed := (same.map Sale.amount).sum_eq
  refine ⟨execution, executed, ?_, ?_, ?_⟩
  · rw [reports.matched, counted]
  · intro counts
    rw [reports.count counts, counted]
  · intro sums
    rw [reports.total sums, summed]

theorem tallies_matching (f : FilterSet) (sales : List Sale) :
    f.Tallies (sales.map Sale.row) (f.matching sales).length
      ((f.matching sales).map Sale.amount).sum :=
  tallies_of_perm (.refl _)

/-! ### Parts -/

theorem tallies_of_perm_append {f : FilterSet} {sales found found' : List Sale}
    (same : (f.matching sales).Perm (found ++ found')) :
    f.Tallies (sales.map Sale.row) (found.length + found'.length)
      ((found.map Sale.amount).sum + (found'.map Sale.amount).sum) := by
  have whole := tallies_of_perm same
  rwa [List.length_append, List.map_append, List.sum_append] at whole

theorem admits_append_iff (names names' : List String) (product : Option String) (sale : Sale) :
    ({ region := some (names ++ names'), product } : FilterSet).Admits sale ↔
      ({ region := some names, product } : FilterSet).Admits sale ∨
        ({ region := some names', product } : FilterSet).Admits sale := by
  simp only [Admits, Option.mem_def, Option.some.injEq, forall_eq', List.mem_append]
  exact or_and_right

/-- Under two lists of regions without a common name the sales fall into two parts. -/
theorem matching_append_perm {names names' : List String} (disjoint : names.Disjoint names')
    (product : Option String) (sales : List Sale) :
    (matching { region := some (names ++ names'), product } sales).Perm
      (matching { region := some names, product } sales ++
        matching { region := some names', product } sales) := by
  induction sales with
  | nil => rfl
  | cons sale rest ih =>
    rw [matching_cons, matching_cons, matching_cons]
    simp only [admits_append_iff]
    by_cases first : ({ region := some names, product } : FilterSet).Admits sale
    · -- The region of the sale stands in the first list, and so not in the second.
      have notSecond : ¬({ region := some names', product } : FilterSet).Admits sale :=
        fun second => disjoint (first.1 names rfl) (second.1 names' rfl)
      simpa [first, notSecond] using ih
    · by_cases second : ({ region := some names', product } : FilterSet).Admits sale
      · simp only [first, second, or_true, if_true, if_false]
        exact (ih.cons sale).trans List.perm_middle.symm
      · simpa [first, second] using ih

theorem matching_append (f : FilterSet) (sales sales' : List Sale) :
    f.matching (sales ++ sales') = f.matching sales ++ f.matching sales' :=
  List.filter_append ..

/-! ### Order, repetition and case -/

end FilterSet

/-- Two sales of the same amount whose names differ at most in the case of their letters. -/
structure Sale.Alike (a b : Sale) : Prop where
  product : a.product.lowered = b.product.lowered
  region : a.region.lowered = b.region.lowered
  amount : a.amount = b.amount

namespace FilterSet

theorem admits_iff_of_alike {f g : FilterSet} {a b : Sale} (names : f.SameNames g)
    (alike : a.Alike b) : f.Admits a ↔ g.Admits b := by
  obtain ⟨product, region⟩ := names
  rw [Admits, Admits, product, alike.product, alike.region]
  refine and_congr_left fun _ => ?_
  generalize f.region = admitted, g.region = admitted' at region
  cases region with
  | none => rfl
  | some same => simp [same]

/-- The same positions match. -/
theorem admits_alike {f g : FilterSet} {sales sales' : List Sale} (names : f.SameNames g)
    (alike : List.Forall₂ Sale.Alike sales sales') :
    (sales.map Sale.row).map f.admits = (sales'.map Sale.row).map g.admits := by
  induction alike with
  | nil => rfl
  | cons here _ ih =>
    simp only [List.map_cons, admits_row, decide_eq_decide.mpr (admits_iff_of_alike names here), ih]

theorem matching_alike {f g : FilterSet} {sales sales' : List Sale} (names : f.SameNames g)
    (alike : List.Forall₂ Sale.Alike sales sales') :
    List.Forall₂ Sale.Alike (f.matching sales) (g.matching sales') := by
  induction alike with
  | nil => exact .nil
  | cons here _ ih =>
    rw [matching_cons, matching_cons]
    simp only [admits_iff_of_alike names here]
    split
    · exact .cons here ih
    · exact ih

theorem amounts_alike {sales sales' : List Sale} (alike : List.Forall₂ Sale.Alike sales sales') :
    sales.map Sale.amount = sales'.map Sale.amount := by
  induction alike with
  | nil => rfl
  | cons here _ ih => rw [List.map_cons, List.map_cons, here.amount, ih]

/-- Counts and sums add up over regions and over sales, and know neither the order of sales and
names nor the case of letters. -/
theorem tallies_laws :
    (∀ (product : Option String) (sales : List Sale) (names names' : List String),
      names.Disjoint names' → ∃ n total n' total',
        Tallies { region := some names, product } (sales.map Sale.row) n total ∧
        Tallies { region := some names', product } (sales.map Sale.row) n' total' ∧
        Tallies { region := some (names ++ names'), product } (sales.map Sale.row) (n + n')
          (total + total')) ∧
    (∀ (f : FilterSet) (sales sales' : List Sale), ∃ n total n' total',
      f.Tallies (sales.map Sale.row) n total ∧ f.Tallies (sales'.map Sale.row) n' total' ∧
      f.Tallies (sales.map Sale.row ++ sales'.map Sale.row) (n + n') (total + total')) ∧
    (∀ (f : FilterSet) (sales sales' : List Sale), sales.Perm sales' → ∃ n total,
      f.Tallies (sales.map Sale.row) n total ∧ f.Tallies (sales'.map Sale.row) n total) ∧
    ∀ (f g : FilterSet) (sales sales' : List Sale), f.SameNames g →
      List.Forall₂ Sale.Alike sales sales' →
      (sales.map Sale.row).map f.admits = (sales'.map Sale.row).map g.admits ∧ ∃ n total,
        f.Tallies (sales.map Sale.row) n total ∧ g.Tallies (sales'.map Sale.row) n total := by
  refine ⟨?_, ?_, ?_, ?_⟩
  · intro product sales names names' disjoint
    exact ⟨_, _, _, _, tallies_matching _ _, tallies_matching _ _,
      tallies_of_perm_append (matching_append_perm disjoint product sales)⟩
  · intro f sales sales'
    refine ⟨_, _, _, _, tallies_matching f sales, tallies_matching f sales', ?_⟩
    rw [← List.map_append]
    exact tallies_of_perm_append (.of_eq (f.matching_append sales sales'))
  · intro f sales sales' order
    exact ⟨_, _, tallies_of_perm (order.filter _), tallies_matching f sales'⟩
  · intro f g sales sales' names alike
    have found := matching_alike names alike
    refine ⟨admits_alike names alike, _, _, tallies_matching f sales, ?_⟩
    rw [found.length_eq, amounts_alike found]
    exact tallies_matching g sales'

/-- The laws on three sales, of which two are made in the south: a region may be named twice, and
written in capital letters. -/
theorem tallies_three_sales :
    let north : Sale := ⟨1, "Laptop", "North", 300, .ofUnixSeconds 0⟩
    let south : Sale := ⟨2, "Phone", "South", 120, .ofUnixSeconds 60⟩
    let loud : Sale := ⟨3, "PHONE", "SOUTH", 120, .ofUnixSeconds 90⟩
    let sales := [north, south, south]
    let once : FilterSet := { region := some ["north", "south"], product := some "phone" }
    let twice : FilterSet := { region := some ["south", "south", "north"], product := some "phone" }
    (["north"].Disjoint ["south", "south"] ∧ ∃ n total n' total',
      Tallies { region := some ["north"] } (sales.map Sale.row) n total ∧
      Tallies { region := some ["south", "south"] } (sales.map Sale.row) n' total' ∧
      Tallies { region := some ["north", "south", "south"] } (sales.map Sale.row) (n + n')
        (total + total')) ∧
    (sales.Perm [south, south, north] ∧ ∃ n total, once.Tallies (sales.map Sale.row) n total ∧
      once.Tallies ([south, south, north].map Sale.row) n total) ∧
    (once.SameNames twice ∧ List.Forall₂ Sale.Alike sales [north, loud, south] ∧
      (sales.map Sale.row).map once.admits =
        ([north, loud, south].map Sale.row).map twice.admits ∧ ∃ n total,
          once.Tallies (sales.map Sale.row) n total ∧
          twice.Tallies ([north, loud, south].map Sale.row) n total) := by
  intro north south loud sales once twice
  have disjoint : ["north"].Disjoint ["south", "south"] := by simp
  have order : sales.Perm [south, south, north] := sales.reverse_perm.symm
  have names : once.SameNames twice := ⟨rfl, .some (by simp [or_comm])⟩
  have same (sale : Sale) : sale.Alike sale := ⟨rfl, rfl, rfl⟩
  have alike : List.Forall₂ Sale.Alike sales [north, loud, south] :=
    .cons (same _) (.cons ⟨by decide, by decide, rfl⟩ (.cons (same _) .nil))
  obtain ⟨regions, -, orders, cases⟩ := tallies_laws
  exact ⟨⟨disjoint, regions none sales _ _ disjoint⟩, ⟨order, orders once _ _ order⟩, names, alike,
    cases once twice _ _ names alike⟩

end FilterSet

end TableTalk
