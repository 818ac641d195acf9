import TableTalk.Seed
import TableTalk.Proofs.Sales
import TableTalk.Proofs.Outcomes

/-!
# TableTalk.Proofs.Seeding

Made-up sales, as far as they depend on how many there are and on the seed.

Main result: `sales_grow`. More sales begin with the fewer ones, amounts included, and another seed
changes nothing but amounts.

An amount uses up as many words of the generator as it takes until one is small enough, so that
nothing is said of the words: the generator behind some amounts is the one that the next amount is
drawn from (`amounts_succ`), whatever that is.
-/

namespace TableTalk

/-! ### Amounts -/

namespace Seed

/-- One amount more is drawn from the generator behind the others, and leaves them as they are. -/
theorem amounts_succ (seed : Int) (count : Nat) :
    amounts seed (count + 1) = amounts seed count ++
      [leastAmount + (amountsFrom (Twister.ofSeed seed) count).1.draw.1] := by
  rw [amounts, amounts, ← Array.toList_push]
  rfl

theorem length_amounts (seed : Int) (count : Nat) : (amounts seed count).length = count := by
  induction count with
  | zero => rfl
  | succ count ih => rw [amounts_succ, List.length_append, ih, List.length_singleton]

theorem amounts_start (seed : Int) {fewer more : Nat} (le : fewer ≤ more) :
    amounts seed fewer <+: amounts seed more := by
  induction more, le using Nat.le_induction with
  | base => exact List.prefix_rfl
  | succ more _ ih =>
    rw [amounts_succ]
    exact ih.trans (List.prefix_append _ _)

/-! ### Sales -/

section

variable {catalog : Catalog} (products : catalog.products ≠ []) (regions : catalog.regions ≠ [])

include products regions

theorem sales_eq (count seed : Int) :
    sales catalog count seed = .ok ((amounts seed count.toNat).mapIdx (saleAt catalog)) := by
  simp [sales, products, regions]

end

theorem mapIdx_start {α β : Type} (f : Nat → α → β) {xs ys : List α} (start : xs <+: ys) :
    xs.mapIdx f <+: ys.mapIdx f := by
  obtain ⟨rest, rfl⟩ := start
  rw [List.mapIdx_append]
  exact List.prefix_append _ _

end Seed

/-! ### Rows of a catalog -/

/-- A row whose product and region are from the vocabularies of a catalog, and whose amount is a
whole number. -/
structure Row.MadeFrom (catalog : Catalog) (row : Row) : Prop where
  product : row.product ∈ catalog.products
  region : row.region ∈ catalog.regions
  amount : ∃ i, row.amount = .int i

namespace Seed

theorem getD_mod_mem {items : List Value} (some : items ≠ []) (i : Nat) :
    items.getD (i % items.length) .null ∈ items := by
  have inside : i % items.length < items.length := Nat.mod_lt i (List.length_pos_iff.mpr some)
  rw [List.getD_eq_getElem _ _ inside]
  exact List.getElem_mem inside

theorem saleAt_madeFrom {catalog : Catalog} (products : catalog.products ≠ [])
    (regions : catalog.regions ≠ []) (i amount : Nat) :
    (saleAt catalog i amount).MadeFrom catalog :=
  ⟨getD_mod_mem products i, getD_mod_mem regions i, _, rfl⟩

theorem madeFrom_of_sales {catalog : Catalog} {count seed : Int} {rows : List Row}
    (made : sales catalog count seed = .ok rows) : ∀ row ∈ rows, row.MadeFrom catalog := by
  unfold sales at made
  split at made
  next => cases made
  next possible =>
    intro row member
    obtain rfl := Except.ok.inj made
    obtain ⟨i, inside, rfl⟩ := List.mem_mapIdx.mp member
    -- There is a sale, so that there is a product and a region.
    have sold : 0 < count := by
      rw [length_amounts] at inside
      omega
    simp only [sold, decide_true, Bool.true_and, Bool.or_eq_true, List.isEmpty_iff, not_or]
      at possible
    exact saleAt_madeFrom possible.1 possible.2 _ _

end Seed

/-! ### Filters on more rows -/

namespace FilterSet

theorem apply_append (f : FilterSet) (xs ys : List Row) :
    f.apply (xs ++ ys) =
      (f.apply xs).bind fun found => (f.apply ys).bind fun others => .ok (found ++ others) := by
  induction xs with
  | nil => cases h : f.apply ys <;> simp [apply, h, Except.bind]
  | cons row rest ih =>
    rw [List.cons_append, apply, apply, ih]
    cases f.admits row with
    | error e => rfl
    | ok admitted =>
      cases f.apply rest with
      | error e => rfl
      | ok found =>
        cases f.apply ys with
        | error e => rfl
        | ok others => cases admitted <;> rfl

theorem apply_start {f : FilterSet} {rows more found : List Row} (start : rows <+: more)
    (applied : f.apply more = .ok found) : ∃ first, f.apply rows = .ok first ∧ first <+: found := by
  obtain ⟨rest, rfl⟩ := start
  rw [apply_append] at applied
  obtain ⟨first, passed, rested⟩ := bind_eq_ok_iff.mp applied
  obtain ⟨others, -, same⟩ := bind_eq_ok_iff.mp rested
  exact ⟨first, passed, others, Except.ok.inj same⟩

theorem apply_sublist {f : FilterSet} {rows found : List Row} (applied : f.apply rows = .ok found) :
    found.Sublist rows := by
  induction rows generalizing found with
  | nil =>
    obtain rfl := Except.ok.inj applied
    exact List.Sublist.refl _
  | cons row rest ih =>
    obtain ⟨admitted, -, rested⟩ := bind_eq_ok_iff.mp applied
    obtain ⟨others, passed, same⟩ := bind_eq_ok_iff.mp rested
    have sub : others.Sublist rest := ih passed
    obtain rfl := Except.ok.inj same
    cases admitted with
    | false => exact sub.cons row
    | true => exact sub.cons_cons row

end FilterSet

/-! ### Rows without amounts -/

/-- A row in which the amount does not count. -/
def Row.unpriced (row : Row) : Row :=
  { row with amount := .int 0 }

namespace Seed

theorem unpriced_saleAt (catalog : Catalog) (i amount : Nat) :
    (saleAt catalog i amount).unpriced = (saleAt catalog i 0).unpriced := rfl

theorem unpriced_mapIdx (catalog : Catalog) {xs ys : List Nat} (same : xs.length = ys.length) :
    (xs.mapIdx (saleAt catalog)).map Row.unpriced =
      (ys.mapIdx (saleAt catalog)).map Row.unpriced := by
  refine List.ext_getElem (by simp [same]) fun i _ _ => ?_
  simp only [List.getElem_map, List.getElem_mapIdx]
  rw [unpriced_saleAt, ← unpriced_saleAt]

end Seed

/-- What filters admit does not depend on amounts. -/
theorem FilterSet.apply_unpriced (f : FilterSet) (rows : List Row) :
    f.apply (rows.map Row.unpriced) = (f.apply rows).map (·.map Row.unpriced) := by
  induction rows with
  | nil => rfl
  | cons row rest ih =>
    have admits : f.admits row.unpriced = f.admits row := rfl
    rw [List.map_cons, apply, apply, admits, ih]
    cases f.admits row with
    | error e => rfl
    | ok admitted =>
      cases f.apply rest with
      | error e => rfl
      | ok found => cases admitted <;> rfl

/-! ### Executions -/

/-- Two executions of an operation that amounts alone tell apart. -/
structure Execution.Alike (operation : Operation) (e e' : Execution) : Prop where
  counted : e.matchedCount = e'.matchedCount
  rendered : e.renderedQuery = e'.renderedQuery
  noted : e.fallback = e'.fallback
  count : operation = .count → e.outcome = e'.outcome
  listed : operation = .select ∨ operation = .average → ∃ found found',
    e.outcome = .rows found ∧ e'.outcome = .rows found' ∧ found.map Row.id = found'.map Row.id

theorem totalFrom_whole {rows : List Row} (whole : ∀ row ∈ rows, ∃ i, row.amount = .int i)
    (sum : Int) : ∃ total, totalFrom (.int sum) rows = .ok (.int total) := by
  induction rows generalizing sum with
  | nil => exact ⟨sum, rfl⟩
  | cons row rest ih =>
    obtain ⟨i, amount⟩ := whole row List.mem_cons_self
    obtain ⟨total, rested⟩ := ih (fun r member => whole r (List.mem_cons_of_mem _ member)) (sum + i)
    refine ⟨total, ?_⟩
    rw [totalFrom, amount]
    exact rested

theorem Operation.run_whole (operation : Operation) {rows : List Row}
    (whole : ∀ row ∈ rows, ∃ i, row.amount = .int i) (preview : Int) :
    ∃ outcome, operation.run rows preview = .ok outcome := by
  cases operation with
  | count => exact ⟨_, rfl⟩
  | sum =>
    obtain ⟨total, added⟩ := totalFrom_whole whole 0
    exact ⟨.total (.int total), by rw [run, added]; rfl⟩
  | select => exact ⟨_, rfl⟩
  | average => exact ⟨_, rfl⟩

theorem Operation.run_alike (operation : Operation) {rows rows' : List Row}
    (same : rows.map Row.unpriced = rows'.map Row.unpriced) (preview : Int) {o o' : Outcome}
    (ran : operation.run rows preview = .ok o) (ran' : operation.run rows' preview = .ok o') :
    (operation = .count → o = o') ∧ (operation = .select ∨ operation = .average →
      ∃ found found', o = .rows found ∧ o' = .rows found' ∧
        found.map Row.id = found'.map Row.id) := by
  have ids : rows.map Row.id = rows'.map Row.id := by
    have unpriced (rows : List Row) : rows.map Row.id = (rows.map Row.unpriced).map Row.id := by
      rw [List.map_map]
      rfl
    rw [unpriced, same, ← unpriced]
  have listed : (slice 0 preview rows).map Row.id = (slice 0 preview rows').map Row.id := by
    rw [slice_zero, slice_zero, ← front_map, ids, front_map]
  cases operation with
  | count =>
    have lengths : rows.length = rows'.length := by simpa using congrArg List.length same
    obtain rfl := Except.ok.inj ran
    obtain rfl := Except.ok.inj ran'
    simp [lengths]
  | sum => simp
  | select =>
    obtain rfl := Except.ok.inj ran
    obtain rfl := Except.ok.inj ran'
    simp [listed]
  | average =>
    obtain rfl := Except.ok.inj ran
    obtain rfl := Except.ok.inj ran'
    simp [listed]

/-- On rows that differ in whole amounts only, an intent fails alike or is executed alike. -/
theorem QueryIntent.execute_alike (intent : QueryIntent) {rows rows' : List Row}
    (same : rows.map Row.unpriced = rows'.map Row.unpriced)
    (whole : ∀ row ∈ rows, ∃ i, row.amount = .int i)
    (whole' : ∀ row ∈ rows', ∃ i, row.amount = .int i) (preview : Int) :
    (∃ e, (intent.execute rows preview).outcome = .error e ∧
      (intent.execute rows' preview).outcome = .error e) ∨
    ∃ x x', (intent.execute rows preview).outcome = .ok x ∧
      (intent.execute rows' preview).outcome = .ok x' ∧ x.Alike intent.operation x' := by
  have applied : (intent.filters.apply rows).map (·.map Row.unpriced) =
      (intent.filters.apply rows').map (·.map Row.unpriced) := by
    rw [← FilterSet.apply_unpriced, same, FilterSet.apply_unpriced]
  rw [outcome_execute, outcome_execute]
  cases found : intent.filters.apply rows with
  | error e =>
    cases found' : intent.filters.apply rows' with
    | ok zs' => simp [found, found', Except.map] at applied
    | error e' =>
      obtain rfl : e = e' := by simpa [found, found', Except.map] using applied
      exact .inl ⟨e, rfl, rfl⟩
  | ok zs =>
    cases found' : intent.filters.apply rows' with
    | error e' => simp [found, found', Except.map] at applied
    | ok zs' =>
      have sameFound : zs.map Row.unpriced = zs'.map Row.unpriced := by
        simpa [found, found', Except.map] using applied
      obtain ⟨o, ran⟩ := intent.operation.run_whole
        (fun row member => whole row ((FilterSet.apply_sublist found).subset member)) preview
      obtain ⟨o', ran'⟩ := intent.operation.run_whole
        (fun row member => whole' row ((FilterSet.apply_sublist found').subset member)) preview
      have lengths : zs.length = zs'.length := by simpa using congrArg List.length sameFound
      obtain ⟨count, listed⟩ := intent.operation.run_alike sameFound preview ran ran'
      refine .inr ⟨⟨o, intent.render, zs.length, intent.note⟩,
        ⟨o', intent.render, zs'.length, intent.note⟩, ?_, ?_, lengths, rfl, rfl, count, listed⟩
      · rw [Traced.bind_ok, ran, Traced.bind_ok]
      · rw [Traced.bind_ok, ran', Traced.bind_ok]

/-! ### More sales, and other seeds -/

namespace Seed

/-- Names that are all texts make sales. -/
theorem exists_eq_map_row {catalog : Catalog} {count seed : Int} {rows : List Row}
    (named : ∀ name ∈ catalog.products ++ catalog.regions, ∃ s, name = .text s)
    (made : sales catalog count seed = .ok rows) :
    ∃ sold : List Sale, rows = sold.map Sale.row := by
  have sold : ∀ row ∈ rows, row ∈ Set.range Sale.row := by
    intro row member
    obtain ⟨product, region, amount, whole⟩ := madeFrom_of_sales made row member
    obtain ⟨p, hp⟩ := named _ (List.mem_append_left _ product)
    obtain ⟨r, hr⟩ := named _ (List.mem_append_right _ region)
    refine ⟨⟨row.id, p, r, amount, row.date⟩, ?_⟩
    rw [Sale.row, ← hp, ← hr, ← whole]
  have rowwise : rows ∈ Set.range (List.map Sale.row) := by
    rw [Set.range_list_map]
    exact sold
  obtain ⟨sales, same⟩ := rowwise
  exact ⟨sales, same.symm⟩

/-- More sales begin with the fewer ones, and so do those of them that filters admit. Two seeds make
sales that differ in their amounts only, on which an intent comes to the same but for amounts. Where
all names are texts, no filter and no intent fails. -/
theorem sales_grow {catalog : Catalog} (products : catalog.products ≠ [])
    (regions : catalog.regions ≠ []) :
    (∀ (seed : Int) (fewer more : Nat), fewer ≤ more → ∃ rows rows',
      sales catalog fewer seed = .ok rows ∧ sales catalog more seed = .ok rows' ∧
      rows <+: rows' ∧ ∀ (f : FilterSet) (found' : List Row), f.apply rows' = .ok found' →
        ∃ found, f.apply rows = .ok found ∧ found <+: found') ∧
    (∀ (seed seed' : Int) (count : Nat), ∃ rows rows',
      sales catalog count seed = .ok rows ∧ sales catalog count seed' = .ok rows' ∧
      rows.map Row.unpriced = rows'.map Row.unpriced ∧
      ∀ (intent : QueryIntent) (preview : Int),
        (∃ e, (intent.execute rows preview).outcome = .error e ∧
          (intent.execute rows' preview).outcome = .error e) ∨
        ∃ x x', (intent.execute rows preview).outcome = .ok x ∧
          (intent.execute rows' preview).outcome = .ok x' ∧ x.Alike intent.operation x') ∧
    ((∀ name ∈ catalog.products ++ catalog.regions, ∃ s, name = .text s) →
      ∀ (seed : Int) (count : Nat), ∃ rows, sales catalog count seed = .ok rows ∧
        (∀ f : FilterSet, ∃ found, f.apply rows = .ok found) ∧
        ∀ (intent : QueryIntent) (preview : Int),
          ∃ x, (intent.execute rows preview).outcome = .ok x) := by
  have made (count : Nat) (seed : Int) := sales_eq products regions count seed
  have whole (count : Nat) (seed : Int) := fun row member =>
    (madeFrom_of_sales (made count seed) row member).amount
  refine ⟨?_, ?_, ?_⟩
  · intro seed fewer more le
    have start := mapIdx_start (saleAt catalog) (amounts_start seed le)
    exact ⟨_, _, made fewer seed, made more seed, start, fun _ _ => FilterSet.apply_start start⟩
  · intro seed seed' count
    have lengths : (amounts seed count).length = (amounts seed' count).length := by
      rw [length_amounts, length_amounts]
    have same := unpriced_mapIdx catalog lengths
    exact ⟨_, _, made count seed, made count seed', same, fun intent preview =>
      intent.execute_alike same (whole count seed) (whole count seed') preview⟩
  · intro named seed count
    obtain ⟨sold, rows⟩ := exists_eq_map_row named (made count seed)
    refine ⟨_, made count seed, fun f => ?_, fun intent preview => ?_⟩
    · exact ⟨_, by rw [rows, f.apply_sales]⟩
    · obtain ⟨x, executed, -⟩ := intent.execute_sales sold preview
      exact ⟨x, by rw [rows, executed]⟩

/-- From one seed, a thousand standard sales begin with the first two of them; and as many laptops
are counted among the sales from another seed. -/
theorem sales_grow_standard :
    let laptops : QueryIntent := ⟨"sales", .count, { product := some "Laptop" }⟩
    ∃ two rows rows' x x', sales .sales 2 7 = .ok two ∧ sales .sales 1000 7 = .ok rows ∧
      sales .sales 1000 42 = .ok rows' ∧ two <+: rows ∧
      rows.map Row.unpriced = rows'.map Row.unpriced ∧
      (laptops.execute rows 5).outcome = .ok x ∧ (laptops.execute rows' 5).outcome = .ok x' ∧
      x.Alike .count x' := by
  intro laptops
  have products : Catalog.sales.products ≠ [] := by simp [Catalog.sales]
  have regions : Catalog.sales.regions ≠ [] := by simp [Catalog.sales]
  have named : ∀ name ∈ Catalog.sales.products ++ Catalog.sales.regions, ∃ s, name = .text s := by
    simp [Catalog.sales]
  obtain ⟨grows, prices, answers⟩ := sales_grow products regions
  obtain ⟨two, rows, first, made, start, -⟩ := grows 7 2 1000 (by decide)
  obtain ⟨_, rows', again, made', unpriced, executed⟩ := prices 7 42 1000
  obtain ⟨_, once, -, answered⟩ := answers named 7 1000
  obtain rfl := Except.ok.inj (made.symm.trans again)
  obtain rfl := Except.ok.inj (made.symm.trans once)
  obtain ⟨x, found⟩ := answered laptops 5
  obtain ⟨e, failed, -⟩ | ⟨y, x', found', executed', alike⟩ := executed laptops 5
  · rw [found] at failed
    cases failed
  · exact ⟨two, rows, rows', y, x', first, made, made', start, unpriced, found', executed', alike⟩

end Seed

end TableTalk
