import TableTalk.Proofs.Seeding

/-!
# TableTalk.Proofs.Turns

Made-up sales, counted by product and region.

## Main result

- `Seed.count_sales`: how many sales there are of a product, and of a product in a region, in closed
  form.

## Proof strategy

Products and regions take turns, so that a sale has a product exactly if its position is congruent
to the place of the product in the catalog (`Seed.product_admits_iff`), and likewise for regions. A
product and a region meet at the positions that solve two congruences: at none, or at those of one
residue modulo the least common multiple. Positions of one residue are counted by
`Nat.count_modEq_card`.
-/

namespace TableTalk

/-! ### Residues -/

/-- How many of the first numbers have a residue. -/
theorem count_modEq {r v : Nat} (small : v < r) (n : Nat) :
    n.count (· ≡ v [MOD r]) = (n + r - 1 - v) / r := by
  have pos : 0 < r := Nat.zero_lt_of_lt small
  rw [Nat.count_modEq_card n pos, Nat.mod_eq_of_lt small]
  have cut : n + r - 1 - v = r * (n / r) + (n % r + r - 1 - v) := by
    have := Nat.div_add_mod n r
    omega
  rw [cut, Nat.mul_add_div pos]
  congr 1
  have below : n % r < r := Nat.mod_lt n pos
  split
  next later => exact (Nat.div_eq_of_lt_le (by omega) (by omega)).symm
  next => exact (Nat.div_eq_of_lt (by omega)).symm

theorem modEq_and_modEq_iff {p r k j c : Nat} (ofK : c ≡ k [MOD p]) (ofJ : c ≡ j [MOD r])
    (i : Nat) :
    i ≡ k [MOD p] ∧ i ≡ j [MOD r] ↔ i ≡ c [MOD p.lcm r] := by
  constructor
  · rintro ⟨atK, atJ⟩
    exact Nat.mod_lcm (atK.trans ofK.symm) (atJ.trans ofJ.symm)
  · intro both
    exact ⟨(both.of_dvd (Nat.dvd_lcm_left p r)).trans ofK,
      (both.of_dvd (Nat.dvd_lcm_right p r)).trans ofJ⟩

/-- Two congruences that agree as far as they overlap have one solution below the least common
multiple. -/
theorem existsUnique_modEq {p r k j : Nat} (posP : 0 < p) (posR : 0 < r)
    (agree : k ≡ j [MOD p.gcd r]) : ∃! c, c < p.lcm r ∧ c ≡ k [MOD p] ∧ c ≡ j [MOD r] := by
  obtain ⟨ofK, ofJ⟩ := (Nat.chineseRemainder' agree).property
  have below := Nat.chineseRemainder'_lt_lcm agree posP.ne' posR.ne'
  refine ⟨_, ⟨below, ofK, ofJ⟩, ?_⟩
  rintro c ⟨small, both⟩
  exact ((modEq_and_modEq_iff ofK ofJ c).mp both).eq_of_lt_of_lt small below

theorem count_modEq_of_dvd {r v n : Nat} (small : v < r) (whole : r ∣ n) :
    (n + r - 1 - v) / r = n / r := by
  obtain ⟨q, rfl⟩ := whole
  have cut : r * q + r - 1 - v = r * q + (r - 1 - v) := by omega
  have pos : 0 < r := Nat.zero_lt_of_lt small
  rw [cut, Nat.mul_add_div pos, Nat.div_eq_of_lt (by omega), Nat.mul_div_cancel_left q pos]
  rfl

/-! ### Positions -/

theorem countP_mapIdx {α β : Type} {f : Nat → α → β} {p : β → Bool} {q : Nat → Bool}
    (same : ∀ i a, p (f i a) = q i) (items : List α) :
    (items.mapIdx f).countP p = (List.range items.length).countP q := by
  induction items using List.reverseRecOn with
  | nil => rfl
  | append_singleton items a ih =>
    rw [List.mapIdx_concat, List.countP_append, ih, List.length_append, List.length_singleton,
      List.range_succ, List.countP_append]
    simp [same]

namespace Seed

/-- The sale that is made at a position of names, with an amount. -/
def turn (products regions : List String) (i amount : Nat) : Sale where
  id := i + 1
  product := products.getD (i % products.length) ""
  region := regions.getD (i % regions.length) ""
  amount := amount
  date := { year, month := i % 12 + 1, day := i % 28 + 1 }

section

variable {catalog : Catalog} {products regions : List String}
  (ofProducts : catalog.products = products.map .text)
  (ofRegions : catalog.regions = regions.map .text)
  (someProducts : products ≠ []) (someRegions : regions ≠ [])

theorem getD_texts {names : List String} (some : names ≠ []) (i : Nat) :
    (names.map Value.text).getD (i % (names.map Value.text).length) .null =
      .text (names.getD (i % names.length) "") := by
  have inside : i % names.length < names.length := Nat.mod_lt i (List.length_pos_iff.mpr some)
  rw [List.length_map, List.getD_eq_getElem _ _ (by simpa using inside),
    List.getD_eq_getElem _ _ inside, List.getElem_map]

include ofProducts ofRegions someProducts someRegions

theorem saleAt_eq (i amount : Nat) :
    saleAt catalog i amount = (turn products regions i amount).row := by
  rw [saleAt, ofProducts, ofRegions, getD_texts someProducts, getD_texts someRegions]
  rfl

theorem sales_eq_turns (count : Nat) (seed : Int) :
    sales catalog count seed =
      .ok (((amounts seed count).mapIdx (turn products regions)).map Sale.row) := by
  have products' : catalog.products ≠ [] := by simpa [ofProducts] using someProducts
  have regions' : catalog.regions ≠ [] := by simpa [ofRegions] using someRegions
  rw [sales_eq products' regions', Int.toNat_natCast]
  refine congrArg Except.ok (List.ext_getElem (by simp) fun i _ _ => ?_)
  simp only [List.getElem_map, List.getElem_mapIdx]
  exact saleAt_eq ofProducts ofRegions someProducts someRegions i _

end

/-- Names that are distinct in lower case take turns. -/
theorem lowered_turn_iff {names : List String} (distinct : (names.map String.lowered).Nodup)
    {k : Nat} (inside : k < names.length) (i : Nat) :
    (names.getD (i % names.length) "").lowered = names[k].lowered ↔ i ≡ k [MOD names.length] := by
  have inside' : i % names.length < names.length := Nat.mod_lt i (by omega)
  have places : names[i % names.length].lowered = names[k].lowered ↔ i % names.length = k := by
    rw [← distinct.getElem_inj_iff, List.getElem_map, List.getElem_map]
    · simpa using inside'
    · simpa using inside
  rw [List.getD_eq_getElem _ _ inside', places, Nat.ModEq, Nat.mod_eq_of_lt inside]

end Seed

/-! ### Counting -/

/-- Counting the rows that filters admit comes to this number. -/
def FilterSet.CountsTo (f : FilterSet) (rows : List Row) (number : Nat) : Prop :=
  ∀ (table : String) (preview : Int), ∃ e,
    (QueryIntent.execute ⟨table, .count, f⟩ rows preview).outcome = .ok e ∧
      e.outcome = .count number ∧ e.matchedCount = number

theorem FilterSet.countsTo_sales (f : FilterSet) (sold : List Sale) :
    f.CountsTo (sold.map Sale.row) (sold.countP fun sale => f.Admits sale) := by
  intro table preview
  have number : ((f.matching sold).map Sale.row).length =
      sold.countP fun sale => f.Admits sale := by
    rw [List.length_map, matching, List.countP_eq_length_filter]
  rw [QueryIntent.outcome_execute, f.apply_sales, ← number]
  exact ⟨_, rfl, rfl, rfl⟩

namespace Seed

theorem countsTo_turns {products regions : List String} {f : FilterSet} {p : Nat → Prop}
    [DecidablePred p] (admits : ∀ i amount, f.Admits (turn products regions i amount) ↔ p i)
    (count : Nat) (seed : Int) :
    f.CountsTo (((amounts seed count).mapIdx (turn products regions)).map Sale.row)
      (count.count p) := by
  have same (i amount : Nat) :
      decide (f.Admits (turn products regions i amount)) = decide (p i) :=
    decide_eq_decide.mpr (admits i amount)
  have counted := f.countsTo_sales ((amounts seed count).mapIdx (turn products regions))
  rwa [countP_mapIdx same, length_amounts, ← Nat.count] at counted

section

variable {products regions : List String}

theorem product_admits_iff (distinct : (products.map String.lowered).Nodup) {k : Nat}
    (inside : k < products.length) (i amount : Nat) :
    ({ product := some products[k].lowered } : FilterSet).Admits (turn products regions i amount) ↔
      i ≡ k [MOD products.length] := by
  rw [← lowered_turn_iff distinct inside i]
  simp [FilterSet.Admits, turn]

theorem pair_admits_iff (distinct : (products.map String.lowered).Nodup)
    (distinct' : (regions.map String.lowered).Nodup) {k j : Nat} (inside : k < products.length)
    (inside' : j < regions.length) (i amount : Nat) :
    ({ product := some products[k].lowered, region := some [regions[j].lowered] } :
      FilterSet).Admits (turn products regions i amount) ↔
        i ≡ k [MOD products.length] ∧ i ≡ j [MOD regions.length] := by
  rw [← lowered_turn_iff distinct inside i, ← lowered_turn_iff distinct' inside' i]
  simp [FilterSet.Admits, turn, and_comm]

/-- A product and a region whose places differ where the two cycles overlap never meet. -/
theorem not_meet {p r k j : Nat} (disagree : ¬k ≡ j [MOD p.gcd r]) (i : Nat) :
    ¬(i ≡ k [MOD p] ∧ i ≡ j [MOD r]) := by
  rintro ⟨atK, atJ⟩
  exact disagree ((atK.of_dvd (Nat.gcd_dvd_left p r)).symm.trans
    (atJ.of_dvd (Nat.gcd_dvd_right p r)))

theorem countsTo_product (distinct : (products.map String.lowered).Nodup) {k : Nat}
    (inside : k < products.length) (count : Nat) (seed : Int) :
    ({ product := some products[k].lowered } : FilterSet).CountsTo
      (((amounts seed count).mapIdx (turn products regions)).map Sale.row)
      ((count + products.length - 1 - k) / products.length) := by
  rw [← count_modEq inside]
  exact countsTo_turns (product_admits_iff distinct inside) count seed

section

variable (distinct : (products.map String.lowered).Nodup)
  (distinct' : (regions.map String.lowered).Nodup) {k j : Nat} (inside : k < products.length)
  (inside' : j < regions.length) (count : Nat) (seed : Int)

include distinct distinct'

theorem countsTo_pair_apart (disagree : ¬k ≡ j [MOD products.length.gcd regions.length]) :
    ({ product := some products[k].lowered, region := some [regions[j].lowered] } :
      FilterSet).CountsTo (((amounts seed count).mapIdx (turn products regions)).map Sale.row)
      0 := by
  have never (i amount : Nat) := (pair_admits_iff distinct distinct' inside inside' i amount).trans
    (iff_false_intro (not_meet disagree i))
  have counted := countsTo_turns never count seed
  rwa [Nat.count_false] at counted

theorem countsTo_pair_meeting {c : Nat} (small : c < products.length.lcm regions.length)
    (ofK : c ≡ k [MOD products.length]) (ofJ : c ≡ j [MOD regions.length]) :
    ({ product := some products[k].lowered, region := some [regions[j].lowered] } :
      FilterSet).CountsTo (((amounts seed count).mapIdx (turn products regions)).map Sale.row)
      ((count + products.length.lcm regions.length - 1 - c) /
        products.length.lcm regions.length) := by
  rw [← count_modEq small]
  refine countsTo_turns (fun i amount => ?_) count seed
  rw [pair_admits_iff distinct distinct' inside inside', modEq_and_modEq_iff ofK ofJ]

theorem countsTo_pair_coprime (coprime : products.length.Coprime regions.length)
    (whole : products.length * regions.length ∣ count) :
    ({ product := some products[k].lowered, region := some [regions[j].lowered] } :
      FilterSet).CountsTo (((amounts seed count).mapIdx (turn products regions)).map Sale.row)
      (count / (products.length * regions.length)) := by
  have agree : k ≡ j [MOD products.length.gcd regions.length] := by
    rw [coprime.gcd_eq_one]
    exact Nat.modEq_one
  obtain ⟨c, ⟨small, ofK, ofJ⟩, -⟩ := existsUnique_modEq (by omega) (by omega) agree
  have counted :=
    countsTo_pair_meeting distinct distinct' inside inside' count seed small ofK ofJ
  rw [coprime.lcm_eq_mul] at small counted
  rwa [count_modEq_of_dvd small whole] at counted

end

end

/-- Cycles whose lengths have a common factor have places that never meet. -/
theorem exists_places_apart {p r : Nat} (pos : 0 < p) (pos' : 0 < r) (common : ¬p.Coprime r) :
    ∃ k j, k < p ∧ j < r ∧ ¬k ≡ j [MOD p.gcd r] := by
  have factor : 1 < p.gcd r := by
    have some : 0 < p.gcd r := Nat.gcd_pos_of_pos_left r pos
    have other : p.gcd r ≠ 1 := common
    omega
  have long : p.gcd r ≤ r := Nat.gcd_le_right p pos'
  refine ⟨0, 1, pos, by omega, ?_⟩
  rw [Nat.ModEq, Nat.zero_mod, Nat.mod_eq_of_lt factor]
  exact Nat.zero_ne_one

/-- How many sales are made of a product, and of a product in a region, where names are distinct in
lower case. With `p` products and `r` regions, the product at place `k` stands at every `p`-th
position, and meets the region at place `j` at every position of one residue modulo `p.lcm r`, or
nowhere. -/
theorem count_sales {catalog : Catalog} {products regions : List String}
    (ofProducts : catalog.products = products.map .text)
    (ofRegions : catalog.regions = regions.map .text)
    (someProducts : products ≠ []) (someRegions : regions ≠ [])
    (distinct : (products.map String.lowered).Nodup)
    (distinct' : (regions.map String.lowered).Nodup) :
    let p := products.length
    let r := regions.length
    (∀ (n : Nat) (seed : Int), ∃ rows, sales catalog n seed = .ok rows ∧
      (∀ k (_ : k < p), ({ product := some products[k].lowered } : FilterSet).CountsTo rows
        ((n + p - 1 - k) / p)) ∧
      ∀ k (_ : k < p) j (_ : j < r),
        let pair : FilterSet :=
          { product := some products[k].lowered, region := some [regions[j].lowered] }
        (¬k ≡ j [MOD p.gcd r] → pair.CountsTo rows 0) ∧
        (k ≡ j [MOD p.gcd r] → ∃! c, c < p.lcm r ∧ c ≡ k [MOD p] ∧ c ≡ j [MOD r]) ∧
        (∀ c < p.lcm r, c ≡ k [MOD p] → c ≡ j [MOD r] →
          pair.CountsTo rows ((n + p.lcm r - 1 - c) / p.lcm r)) ∧
        (p.Coprime r → p * r ∣ n → pair.CountsTo rows (n / (p * r)))) ∧
    (¬p.Coprime r → ∃ k j, ∃ (_ : k < p) (_ : j < r), ∀ (n : Nat) (seed : Int), ∃ rows,
      sales catalog n seed = .ok rows ∧
      ({ product := some products[k].lowered, region := some [regions[j].lowered] } :
        FilterSet).CountsTo rows 0) := by
  intro p r
  have pos : 0 < p := List.length_pos_iff.mpr someProducts
  have pos' : 0 < r := List.length_pos_iff.mpr someRegions
  have made := sales_eq_turns ofProducts ofRegions someProducts someRegions
  constructor
  · intro n seed
    refine ⟨_, made n seed, fun k hk => countsTo_product distinct hk n seed, ?_⟩
    intro k hk j hj
    refine ⟨?_, existsUnique_modEq pos pos', ?_, ?_⟩
    · exact countsTo_pair_apart distinct distinct' hk hj n seed
    · intro c
      exact countsTo_pair_meeting distinct distinct' hk hj n seed
    · exact countsTo_pair_coprime distinct distinct' hk hj n seed
  · intro common
    obtain ⟨k, j, hk, hj, disagree⟩ := exists_places_apart pos pos' common
    exact ⟨k, j, hk, hj, fun n seed =>
      ⟨_, made n seed, countsTo_pair_apart distinct distinct' hk hj n seed disagree⟩⟩

-- Of a hundred sales of three products in four regions, 34 are of the first product, and 8 of those
-- are in the second region, which it meets first at position 9.
theorem count_sales_standard :
    ∃ rows, sales .sales 100 42 = .ok rows ∧
      ({ product := some "laptop" } : FilterSet).CountsTo rows 34 ∧
      ({ product := some "laptop", region := some ["south"] } : FilterSet).CountsTo rows 8 := by
  have distinct : (["Laptop", "Phone", "Tablet"].map String.lowered).Nodup := by decide +kernel
  have distinct' : (["North", "South", "East", "West"].map String.lowered).Nodup := by
    decide +kernel
  have laptop : "Laptop".lowered = "laptop" := by decide +kernel
  have south : "South".lowered = "south" := by decide +kernel
  have products : Catalog.sales.products = ["Laptop", "Phone", "Tablet"].map .text := rfl
  obtain ⟨rows, made, ofProduct, ofPair⟩ :=
    (count_sales products rfl (by simp) (by simp) distinct distinct').1 100 42
  have single := ofProduct 0 (by decide)
  have pair := (ofPair 0 (by decide) 1 (by decide)).2.2.1 9 (by decide) (by decide) (by decide)
  simp only [List.getElem_cons_zero, List.getElem_cons_succ, laptop, south] at single pair
  exact ⟨rows, made, single, pair⟩

end Seed

end TableTalk
