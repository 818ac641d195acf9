import TableTalk.Proofs.Recurrence
import TableTalk.Proofs.Seeding

/-!
# TableTalk.Proofs.Draws

Made-up sales, one by one.

## Main result

- `Seed.sales_table`: sales cannot be made only if there is one to make and no product or no region;
  and what stands in each sale, by its position.

## Proof strategy

A draw takes words until one of them is small enough. That it ends is not in its definition, which
tries a number of words and then gives up; it never does, since the words of a generator cannot all
be too large (`Twister.exists_below`). So an amount comes from an accepted word, by `Twister.Draws`,
and its bounds are those of such a word.
-/

namespace TableTalk

namespace Twister

/-! ### Draws -/

/-- The number that the next word stands for. -/
def number (t : Twister) : Nat :=
  (t.next.1 >>> 22).toNat

/-- A number is drawn from a generator, and this is the one behind it: the first number below a
thousand is accepted. -/
inductive Draws : Twister → Nat → Twister → Prop
  | accept {t : Twister} (small : t.number < 1000) : Draws t t.number t.next.2
  | reject {t t' : Twister} {k : Nat} (large : 1000 ≤ t.number) (again : Draws t.next.2 k t') :
    Draws t k t'

theorem Draws.lt {t t' : Twister} {k : Nat} (drawn : t.Draws k t') : k < 1000 := by
  induction drawn with
  | accept small => exact small
  | reject _ _ ih => exact ih

theorem draws_drawFrom {fuel : Nat} {t : Twister}
    (below : ∃ i < fuel, (temper (t.ahead i) >>> 22).toNat < 1000) :
    t.Draws (drawFrom fuel t).1 (drawFrom fuel t).2 := by
  induction fuel generalizing t with
  | zero =>
    obtain ⟨i, impossible, -⟩ := below
    exact absurd impossible (Nat.not_lt_zero i)
  | succ fuel ih =>
    by_cases small : t.number < 1000
    · have drawn : drawFrom (fuel + 1) t = (t.number, t.next.2) := if_pos small
      rw [drawn]
      exact .accept small
    · have drawn : drawFrom (fuel + 1) t = drawFrom fuel t.next.2 := if_neg small
      rw [drawn]
      refine .reject (Nat.not_lt.mp small) (ih ?_)
      obtain ⟨i, inside, accepted⟩ := below
      cases i with
      | zero => exact absurd accepted (by rwa [← next_fst])
      | succ i => exact ⟨i, Nat.lt_of_succ_lt_succ inside, by rwa [ahead_next]⟩

/-- A draw ends with a number. -/
theorem draws_draw {t : Twister} (full : t.words.size = size) : t.Draws t.draw.1 t.draw.2 :=
  draws_drawFrom (exists_below full)

theorem Draws.full {t t' : Twister} {k : Nat} (drawn : t.Draws k t') (full : t.words.size = size) :
    t'.words.size = size := by
  induction drawn with
  | accept _ => exact size_next full
  | reject _ _ ih => exact ih (size_next full)

/-! ### Generators from seeds -/

theorem repeat_keeps {α : Type} {p : α → Prop} {f : α → α} (step : ∀ a, p a → p (f a)) (n : Nat)
    {a : α} (start : p a) : p (Nat.repeat f n a) := by
  induction n with
  | zero => exact start
  | succ n ih => exact step _ ih

theorem size_spread (first : UInt32) : (spread first).size = size := by
  have grows (n : Nat) : (Nat.repeat (fun words : Array UInt32 => words.push
      (1812433253 * stir (wordAt words (words.size - 1)) + UInt32.ofNat words.size)) n
        #[first]).size = n + 1 := by
    induction n with
    | zero => rfl
    | succ n ih => rw [Nat.repeat, Array.size_push, ih]
  exact grows (size - 1)

theorem size_place (words : Array UInt32) (i : Nat) (w : UInt32) :
    (place words i w).1.size = words.size := by
  rw [place]
  split <;> simp

theorem size_mixKey (key : Array UInt32) (state : (Array UInt32 × Nat) × Nat) :
    (mixKey key state).1.1.size = state.1.1.size :=
  size_place _ _ _

theorem size_mixPosition (state : Array UInt32 × Nat) :
    (mixPosition state).1.size = state.1.size :=
  size_place _ _ _

theorem size_ofKey (key : Array UInt32) : (ofKey key).words.size = size := by
  have keyed := repeat_keeps (p := fun state => state.1.1.size = size) (f := mixKey key)
    (fun state full => (size_mixKey key state).trans full) (max size key.size)
    (a := ((spread 19650218, 1), 0)) (size_spread 19650218)
  have mixed := repeat_keeps (p := fun state => state.1.size = size) (f := mixPosition)
    (fun state full => (size_mixPosition state).trans full) (size - 1) keyed
  rw [ofKey, Array.size_setIfInBounds]
  exact mixed

theorem size_ofSeed (seed : Int) : (ofSeed seed).words.size = size :=
  size_ofKey _

end Twister

namespace Seed

/-! ### Amounts -/

/-- The generator behind so many amounts. -/
def generatorAt (seed : Int) (i : Nat) : Twister :=
  (amountsFrom (.ofSeed seed) i).1

theorem generatorAt_zero (seed : Int) : generatorAt seed 0 = .ofSeed seed := by
  simp only [generatorAt, amountsFrom, Nat.repeat]

theorem generatorAt_succ (seed : Int) (i : Nat) :
    generatorAt seed (i + 1) = (generatorAt seed i).draw.2 := by
  simp only [generatorAt, amountsFrom, Nat.repeat]

theorem full_generatorAt (seed : Int) (i : Nat) :
    (generatorAt seed i).words.size = Twister.size := by
  induction i with
  | zero => rw [generatorAt_zero, Twister.size_ofSeed]
  | succ i ih =>
    rw [generatorAt_succ]
    exact (Twister.draws_draw ih).full ih

theorem draws_generatorAt (seed : Int) (i : Nat) :
    (generatorAt seed i).Draws (generatorAt seed i).draw.1 (generatorAt seed (i + 1)) := by
  rw [generatorAt_succ]
  exact Twister.draws_draw (full_generatorAt seed i)

theorem getElem_amounts (seed : Int) {count i : Nat} (inside : i < (amounts seed count).length) :
    (amounts seed count)[i] = leastAmount + (generatorAt seed i).draw.1 := by
  induction count with
  | zero => exact absurd inside (Nat.not_lt_zero i)
  | succ count ih =>
    rw [length_amounts] at inside
    rcases Nat.lt_succ_iff_lt_or_eq.mp inside with before | rfl
    · rw [← ih (by rwa [length_amounts])]
      simp only [amounts_succ]
      exact List.getElem_append_left _
    · simp only [amounts_succ]
      rw [List.getElem_append_right (by rw [length_amounts]), List.getElem_singleton]
      rfl

end Seed

/-! ### Dates -/

namespace Timestamp

theorem le_daysIn (year : Int) (month : Nat) : 28 ≤ daysIn year month := by
  unfold daysIn
  grind

/-- There is such a date in every month. -/
theorem dateFault?_eq_none {year : Int} (low : 1 ≤ year) (high : year ≤ 9999) {month day : Nat}
    (inYear : 1 ≤ month ∧ month ≤ 12) (inMonth : 1 ≤ day ∧ day ≤ 28) :
    ({ year, month, day } : Timestamp).dateFault? = none := by
  have long : 28 ≤ daysIn year month := le_daysIn year month
  have yearProper : ¬(year < 1 ∨ 9999 < year) := by omega
  have monthProper : ¬(month < 1 ∨ 12 < month) := by omega
  have dayProper : ¬(day < 1 ∨ daysIn year month < day) := by omega
  simp only [dateFault?, Bool.or_eq_true, decide_eq_true_eq, yearProper, monthProper, dayProper,
    if_false]

end Timestamp

/-! ### Sales -/

/-- What stands in the sale at a position, counted from zero. -/
structure Row.IsSaleAt (catalog : Catalog) (i : Nat) (row : Row) : Prop where
  id : row.id = i + 1
  product : catalog.products[i % catalog.products.length]? = some row.product
  region : catalog.regions[i % catalog.regions.length]? = some row.region
  amount : ∃ a : Int, row.amount = .int a ∧ 100 ≤ a ∧ a ≤ 1099
  date : row.date = { year := 2023, month := i % 12 + 1, day := i % 28 + 1 }
  dateExists : row.date.dateFault? = none
  timeExists : row.date.timeFault? = none

namespace Seed

theorem getElem?_mod {items : List Value} (some : items ≠ []) (i : Nat) :
    items[i % items.length]? = .some (items.getD (i % items.length) .null) := by
  have inside : i % items.length < items.length := Nat.mod_lt i (List.length_pos_iff.mpr some)
  rw [List.getD_eq_getElem _ _ inside, List.getElem?_eq_getElem inside]

theorem saleAt_isSaleAt {catalog : Catalog} (products : catalog.products ≠ [])
    (regions : catalog.regions ≠ []) (i : Nat) {k : Nat} (small : k < 1000) :
    (saleAt catalog i (leastAmount + k)).IsSaleAt catalog i where
  id := rfl
  product := getElem?_mod products i
  region := getElem?_mod regions i
  amount := ⟨(leastAmount + k : Nat), rfl, by simp only [leastAmount]; omega,
    by simp only [leastAmount]; omega⟩
  date := rfl
  dateExists := Timestamp.dateFault?_eq_none (by decide) (by decide) (by omega) (by omega)
  timeExists := rfl

/-- Sales in a table, one for each position, with amounts drawn from a seed. -/
structure IsTable (catalog : Catalog) (seed : Int) (rows : List Row) : Prop where
  sale : ∀ (i : Nat) (_ : i < rows.length), rows[i].IsSaleAt catalog i
  increasing : (rows.map Row.id).Pairwise (· < ·)
  positive : ∀ row ∈ rows, 0 < row.id
  -- The generators follow each other: each is the one behind the draw of an amount.
  drawn : ∃ generators : Nat → Twister, generators 0 = .ofSeed seed ∧
    ∀ (i : Nat) (_ : i < rows.length), ∃ k, (generators i).Draws k (generators (i + 1)) ∧
      rows[i].amount = .int (100 + k)

theorem isTable_saleAt {catalog : Catalog} {count : Nat}
    (possible : 0 < count → catalog.products ≠ [] ∧ catalog.regions ≠ []) (seed : Int) :
    IsTable catalog seed ((amounts seed count).mapIdx (saleAt catalog)) where
  sale i inside := by
    have sold : 0 < count := by
      rw [List.length_mapIdx, length_amounts] at inside
      omega
    rw [List.getElem_mapIdx, getElem_amounts]
    exact saleAt_isSaleAt (possible sold).1 (possible sold).2 i (draws_generatorAt seed i).lt
  increasing := by
    rw [List.pairwise_iff_getElem]
    intro i j _ _ before
    simp only [List.getElem_map, List.getElem_mapIdx, saleAt]
    omega
  positive := by
    intro row member
    obtain ⟨i, _, rfl⟩ := List.mem_mapIdx.mp member
    simp only [saleAt]
    omega
  drawn := by
    refine ⟨generatorAt seed, generatorAt_zero seed, fun i _ => ⟨_, draws_generatorAt seed i, ?_⟩⟩
    rw [List.getElem_mapIdx, getElem_amounts, saleAt, leastAmount]
    push_cast
    rfl

theorem sales_cases (catalog : Catalog) (count seed : Int) :
    (0 < count ∧ (catalog.products = [] ∨ catalog.regions = [])) ∧
        sales catalog count seed = .error .emptyVocabulary ∨
      ¬(0 < count ∧ (catalog.products = [] ∨ catalog.regions = [])) ∧
        sales catalog count seed = .ok ((amounts seed count.toNat).mapIdx (saleAt catalog)) := by
  by_cases impossible : 0 < count ∧ (catalog.products = [] ∨ catalog.regions = [])
  · exact .inl ⟨impossible, if_pos (by simpa using impossible)⟩
  · exact .inr ⟨impossible, if_neg (by simpa using impossible)⟩

/-- Sales cannot be made only if there is one to make and no product or no region to make it of.
Else there are as many as are asked for, and none if that is less than none. -/
theorem sales_table (catalog : Catalog) (count seed : Int) :
    (sales catalog count seed = .error .emptyVocabulary ↔
      0 < count ∧ (catalog.products = [] ∨ catalog.regions = [])) ∧
    (sales catalog count seed = .error .emptyVocabulary ∨ ∃ rows,
      sales catalog count seed = .ok rows ∧ (rows.length : Int) = max count 0 ∧
        IsTable catalog seed rows) := by
  rcases sales_cases catalog count seed with ⟨impossible, failed⟩ | ⟨possible, made⟩
  · exact ⟨⟨fun _ => impossible, fun _ => failed⟩, .inl failed⟩
  · refine ⟨⟨fun failed => ?_, fun impossible => absurd impossible possible⟩,
      .inr ⟨_, made, ?_, isTable_saleAt (fun sold => ?_) seed⟩⟩
    · rw [made] at failed
      cases failed
    · rw [List.length_mapIdx, length_amounts]
      omega
    · exact not_or.mp fun none => possible ⟨by omega, none⟩

end Seed

end TableTalk
