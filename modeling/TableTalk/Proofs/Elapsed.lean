import TableTalk.Clock
import Mathlib

/-!
# TableTalk.Proofs.Elapsed

The time that a task takes can be computed whatever a working clock shows.

## Main result

- `Clock.Works.time_succeeds`: if every reading of a clock is finite and within `2 ^ 64` seconds of
  its zero, the whole milliseconds between two readings are an integer.

## Proof strategy

Rounding moves a number of double precision by at most its own size, so that every operation ends at
most twice as far from zero as it would without rounding. The bounds of the operations that lead
from two readings to the milliseconds stay far below the limit of the finite numbers.
-/

namespace TableTalk

namespace Double

/-- Finite, and not further from zero than `bound` units. -/
inductive Within (bound : Nat) : Double → Prop
  | intro (negative : Bool) (units : Nat) (small : units ≤ bound) :
    Within bound (finite negative units)

theorem Within.mono {x : Double} {bound larger : Nat} (within : x.Within bound)
    (le : bound ≤ larger) : x.Within larger := by
  obtain ⟨negative, units, small⟩ := within
  exact .intro negative units (Nat.le_trans small le)

/-! ### Rounding -/

theorem twoTo_pos (n : Nat) : 0 < twoTo n :=
  Nat.two_pow_pos n

theorem one_pos : 0 < one :=
  twoTo_pos places

theorem twoTo_add (m n : Nat) : twoTo (m + n) = twoTo m * twoTo n :=
  Nat.pow_add 2 m n

theorem twoTo_mono {m n : Nat} (le : m ≤ n) : twoTo m ≤ twoTo n :=
  Nat.pow_le_pow_right (by decide) le

theorem scaled_lt_twoTo {k m : Nat} (small : k < twoTo m) (n : Nat) :
    k * twoTo n < twoTo (m + n) := by
  rw [twoTo_add]
  exact Nat.mul_lt_mul_of_pos_right small (twoTo_pos n)

-- Numbers that 256 bits hold are far below the limit.
theorem scaled_lt_limit {k : Nat} (small : k < twoTo 256) : k * one < limit := by
  have below : 256 + places ≤ places + 1024 := by decide
  exact Nat.lt_of_lt_of_le (scaled_lt_twoTo small places) (twoTo_mono below)

theorem spacing_le (units : Nat) : spacing units ≤ units + 1 := by
  rcases Nat.eq_zero_or_pos units with rfl | pos
  · decide
  · have le : units.log2 + 1 - precision ≤ units.log2 := by
      unfold precision
      omega
    have power : 2 ^ units.log2 ≤ units := Nat.log2_self_le (by omega)
    have step : spacing units ≤ 2 ^ units.log2 := Nat.pow_le_pow_right (by decide) le
    omega

theorem nearest_le (num den : Nat) : nearest num den ≤ num / den + 1 := by
  simp only [nearest]
  split
  · omega
  · split <;> omega

-- Rounding moves a number by at most its size and one unit more.
theorem rounded_le (num den : Nat) :
    nearest num (den * spacing (num / den)) * spacing (num / den) ≤ 2 * (num / den) + 1 := by
  calc nearest num (den * spacing (num / den)) * spacing (num / den)
    _ ≤ (num / (den * spacing (num / den)) + 1) * spacing (num / den) :=
      Nat.mul_le_mul_right _ (nearest_le _ _)
    _ = num / den / spacing (num / den) * spacing (num / den) + spacing (num / den) := by
      rw [Nat.add_one_mul, Nat.div_div_eq_div_mul]
    _ ≤ num / den + (num / den + 1) :=
      Nat.add_le_add (Nat.div_mul_le_self _ _) (spacing_le _)
    _ = 2 * (num / den) + 1 := by omega

/-- A number that 256 bits hold is finite when it is rounded, and at most three times as far from
zero. -/
theorem round_within (negative : Bool) {num den bound : Nat} (small : num / den ≤ bound * one)
    (pos : 0 < bound) (fits : 3 * bound < twoTo 256) :
    (round negative num den).Within (3 * bound * one) := by
  have unit : 1 ≤ bound * one := Nat.mul_pos pos one_pos
  have near : nearest num (den * spacing (num / den)) * spacing (num / den) ≤ 3 * bound * one := by
    calc nearest num (den * spacing (num / den)) * spacing (num / den)
      _ ≤ 2 * (num / den) + 1 := rounded_le num den
      _ ≤ 2 * (bound * one) + bound * one :=
        Nat.add_le_add (Nat.mul_le_mul_left 2 small) unit
      _ = 3 * bound * one := by rw [Nat.mul_assoc, ← Nat.succ_mul]
  -- `round` is opened under its own condition only: its value is a number of more than 1000 bits.
  simp only [round]
  rw [if_pos (Nat.lt_of_le_of_lt near (scaled_lt_limit fits))]
  exact .intro negative _ near

/-! ### Operations -/

theorem ofInt_within {i : Int} {bound : Nat} (small : i.natAbs ≤ bound) (pos : 0 < bound)
    (fits : 3 * bound < twoTo 256) : (ofInt i).Within (3 * bound * one) := by
  have scaled : i.natAbs * one / 1 ≤ bound * one := by
    rw [Nat.div_one]
    exact Nat.mul_le_mul_right _ small
  rw [ofInt]
  exact round_within _ scaled pos fits

theorem neg_within {x : Double} {a : Nat} (hx : x.Within a) : x.neg.Within a := by
  obtain ⟨n, u, hu⟩ := hx
  exact .intro _ u hu

theorem natAbs_signed_add_le (n m : Bool) (u v : Nat) :
    (signed n u + signed m v).natAbs ≤ u + v := by
  unfold signed
  cases n <;> cases m <;> simp only [if_true, Bool.false_eq_true, if_false] <;> omega

theorem add_within {x y : Double} {a b : Nat} (hx : x.Within (a * one)) (hy : y.Within (b * one))
    (pos : 0 < a + b) (fits : 3 * (a + b) < twoTo 256) :
    (x.add y).Within (3 * (a + b) * one) := by
  obtain ⟨n, u, hu⟩ := hx
  obtain ⟨m, v, hv⟩ := hy
  have small : (signed n u + signed m v).natAbs / 1 ≤ (a + b) * one := by
    rw [Nat.div_one, Nat.add_mul]
    exact Nat.le_trans (natAbs_signed_add_le n m u v) (Nat.add_le_add hu hv)
  by_cases zero : signed n u + signed m v = 0
  · simp only [add, if_pos zero]
    exact .intro _ 0 (Nat.zero_le _)
  · simp only [add, if_neg zero]
    exact round_within _ small pos fits

theorem mul_within {x y : Double} {a b : Nat} (hx : x.Within (a * one)) (hy : y.Within (b * one))
    (pos : 0 < a * b) (fits : 3 * (a * b) < twoTo 256) :
    (x.mul y).Within (3 * (a * b) * one) := by
  obtain ⟨n, u, hu⟩ := hx
  obtain ⟨m, v, hv⟩ := hy
  have small : u * v / one ≤ a * b * one := by
    refine Nat.div_le_of_le_mul ?_
    calc u * v ≤ a * one * (b * one) := Nat.mul_le_mul hu hv
      _ = one * (a * b * one) := by
        rw [Nat.mul_right_comm a, ← Nat.mul_assoc a, Nat.mul_comm]
  simp only [mul]
  exact round_within _ small pos fits

end Double

namespace Number

open Double (one twoTo)

/-! ### Numbers of either kind -/

/-- Finite, and not further from zero than `bound`. -/
def Within (bound : Nat) : Number → Prop
  | int i => i.natAbs ≤ bound
  | double x => x.Within (bound * one)

theorem inRange_of_within {x : Double} {bound : Nat} (within : x.Within bound) :
    inRange x = .ok x := by
  obtain ⟨negative, units, small⟩ := within
  rfl

theorem toDouble_within {n : Number} {bound : Nat} (small : n.Within bound) (pos : 0 < bound)
    (fits : 3 * bound < twoTo 256) : ∃ x, n.toDouble = .ok x ∧ x.Within (3 * bound * one) := by
  cases n with
  | double x =>
    have within : x.Within (bound * one) := small
    -- A number that is not converted keeps its bound, which the wider one includes.
    have larger : bound * one ≤ 3 * bound * one :=
      Nat.mul_le_mul_right _ (Nat.le_mul_of_pos_left bound (by decide))
    exact ⟨x, rfl, within.mono larger⟩
  | int i =>
    have rounded : (Double.ofInt i).Within (3 * bound * one) := Double.ofInt_within small pos fits
    refine ⟨Double.ofInt i, ?_, rounded⟩
    rw [toDouble]
    exact inRange_of_within rounded

theorem sub_within {m n : Number} {bound : Nat} (hm : m.Within bound) (hn : n.Within bound)
    (pos : 0 < bound) (fits : 3 * (3 * bound + 3 * bound) < twoTo 256) :
    ∃ d, m.sub n = .ok d ∧ d.Within (3 * (3 * bound + 3 * bound)) := by
  have fewer : 3 * bound < twoTo 256 := Nat.lt_of_le_of_lt (by omega) fits
  obtain ⟨x, hx, nearX⟩ := toDouble_within hm pos fewer
  obtain ⟨y, hy, nearY⟩ := toDouble_within hn pos fewer
  have near : (double (x.add y.neg)).Within (3 * (3 * bound + 3 * bound)) :=
    Double.add_within nearX (Double.neg_within nearY) (by omega) fits
  cases m with
  | double _ => exact ⟨_, by simp only [sub, hx, hy]; rfl, near⟩
  | int i =>
    cases n with
    | double _ => exact ⟨_, by simp only [sub, hx, hy]; rfl, near⟩
    | int j =>
      have left : i.natAbs ≤ bound := hm
      have right : j.natAbs ≤ bound := hn
      have near : (i - j).natAbs ≤ 3 * (3 * bound + 3 * bound) := by omega
      exact ⟨int (i - j), rfl, near⟩

theorem mul_within {m n : Number} {a b : Nat} (hm : m.Within a) (hn : n.Within b)
    (posA : 0 < a) (posB : 0 < b) (fits : 3 * (3 * a * (3 * b)) < twoTo 256) :
    ∃ p, m.mul n = .ok p ∧ p.Within (3 * (3 * a * (3 * b))) := by
  have leftLe : 3 * a ≤ 3 * a * (3 * b) := Nat.le_mul_of_pos_right _ (by omega)
  have rightLe : 3 * b ≤ 3 * a * (3 * b) := Nat.le_mul_of_pos_left _ (by omega)
  obtain ⟨x, hx, nearX⟩ := toDouble_within hm posA (Nat.lt_of_le_of_lt (by omega) fits)
  obtain ⟨y, hy, nearY⟩ := toDouble_within hn posB (Nat.lt_of_le_of_lt (by omega) fits)
  have near : (double (x.mul y)).Within (3 * (3 * a * (3 * b))) :=
    Double.mul_within nearX nearY (by omega) fits
  cases m with
  | double _ => exact ⟨_, by simp only [mul, hx, hy]; rfl, near⟩
  | int i =>
    cases n with
    | double _ => exact ⟨_, by simp only [mul, hx, hy]; rfl, near⟩
    | int j =>
      have left : i.natAbs ≤ 3 * a := Nat.le_trans hm (Nat.le_mul_of_pos_left a (by decide))
      have right : j.natAbs ≤ 3 * b := Nat.le_trans hn (Nat.le_mul_of_pos_left b (by decide))
      have product : (i * j).natAbs ≤ 3 * a * (3 * b) := by
        rw [Int.natAbs_mul]
        exact Nat.mul_le_mul left right
      have near : (i * j).natAbs ≤ 3 * (3 * a * (3 * b)) :=
        Nat.le_trans product (Nat.le_mul_of_pos_left _ (by decide))
      exact ⟨int (i * j), rfl, near⟩

theorem truncate_of_within {n : Number} {bound : Nat} (small : n.Within bound) :
    ∃ i, n.truncate = .ok i := by
  cases n with
  | int i => exact ⟨i, rfl⟩
  | double x =>
    have within : x.Within (bound * one) := small
    obtain ⟨negative, units, near⟩ := within
    exact ⟨_, rfl⟩

end Number

namespace Clock

/-! ### Clocks -/

/-- How far from zero the readings of a working clock are, in seconds. -/
def span : Nat := 2 ^ 64

/-- A clock whose readings are finite and lie within its span. -/
def Works (clock : Clock) : Prop :=
  ∀ reading ∈ clock.readings, reading.Within span

theorem Works.read {clock : Clock} (works : clock.Works) :
    clock.read.1.Within span ∧ clock.read.2.Works := by
  obtain ⟨readings⟩ := clock
  match readings with
  | [] => exact ⟨Nat.zero_le _, works⟩
  | [last] => exact ⟨works last List.mem_cons_self, works⟩
  | reading :: next :: rest =>
    exact ⟨works reading List.mem_cons_self,
      fun r member => works r (List.mem_cons_of_mem _ member)⟩

theorem millisecondsBetween_succeeds {start stop : Number} (hstart : start.Within span)
    (hstop : stop.Within span) : ∃ ms, millisecondsBetween start stop = .ok ms := by
  -- Each rounding triples the bound, which stays far below 256 bits.
  obtain ⟨seconds, difference, near⟩ :=
    Number.sub_within hstop hstart (by decide) (by decide +kernel)
  obtain ⟨scaled, product, near⟩ :=
    Number.mul_within near (b := 1000) (n := .int 1000) (Nat.le_refl 1000) (by decide) (by decide)
      (by decide +kernel)
  obtain ⟨ms, whole⟩ := Number.truncate_of_within near
  refine ⟨ms, ?_⟩
  simp only [millisecondsBetween, difference, product, whole, bind, Except.bind]

/-- A working clock never keeps a task from being timed. -/
theorem Works.time_succeeds {clock : Clock} (works : clock.Works) : ∃ ms, clock.time.1 = .ok ms :=
  millisecondsBetween_succeeds works.read.1 works.read.2.read.1

end Clock

end TableTalk
