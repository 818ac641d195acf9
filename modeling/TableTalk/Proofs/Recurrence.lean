import TableTalk.Seed.Twister
import Mathlib.Algebra.Field.ZMod
import Mathlib.Algebra.Module.ZMod
import Mathlib.FieldTheory.Finiteness
import Mathlib.LinearAlgebra.Eigenspace.Charpoly
import Mathlib.Tactic.Abel

/-!
# TableTalk.Proofs.Recurrence

The words of a generator as one sequence without end, and how many of them can have their uppermost
bit in a row.

## Main results

- `ahead_grow`: each word grows out of the words 624, 623 and 227 places before it.
- `exists_below`: among `mostWords` words in a row there is one whose ten upper bits are a number
  below a thousand.

## Proof strategy

The generator twists its words in place, so that a word is made from some that are twisted and some
that are not. In the order in which they are given out these are always the next ones
(`wordAt_twisted_mod`), and the seam between two rounds does not show (`wordAhead_grow`).

With exclusive or as addition, 624 words in a row are a vector, and to move on by one word is a
linear map. It keeps no vector but zero: words that are all the same are zero, since half of such a
word is zero (`Window.eq_zero_of_move`). So one is no root of its characteristic polynomial, of
which the coefficients add up to one; and a sequence of as many ones as it has coefficients would
not be annihilated by it (`exists_value_ne_one`).
-/

namespace TableTalk

/-! ### Ones in a linear sequence -/

/-- A linear map that keeps no vector but zero does not make a sequence of as many ones as there are
dimensions, and one more. -/
theorem exists_value_ne_one {K V : Type} [Field K] [AddCommGroup V] [Module K V]
    [FiniteDimensional K V] {move : Module.End K V} (fixes : ∀ v, move v = v → v = 0)
    (f : V →ₗ[K] K) (v : V) : ∃ i ≤ Module.finrank K V, f (move^[i] v) ≠ 1 := by
  by_contra! ones
  have sum : f (Polynomial.aeval move move.charpoly v) = move.charpoly.eval 1 := by
    rw [Polynomial.aeval_eq_sum_range, Polynomial.eval_eq_sum_range, LinearMap.sum_apply, map_sum]
    refine Finset.sum_congr rfl fun i member => ?_
    have within : i ≤ Module.finrank K V := by
      rw [← move.charpoly_natDegree]
      exact Nat.lt_succ_iff.mp (Finset.mem_range.mp member)
    rw [LinearMap.smul_apply, map_smul, Module.End.pow_apply, ones i within, one_pow, smul_eq_mul]
  have root : move.charpoly.IsRoot 1 := by
    rw [Polynomial.IsRoot, ← sum, LinearMap.aeval_self_charpoly, LinearMap.zero_apply, map_zero]
  obtain ⟨w, kept⟩ :=
    ((Module.End.hasEigenvalue_iff_isRoot_charpoly move 1).mpr root).exists_hasEigenvector
  exact kept.2 (fixes w (by simpa using kept.apply_eq_smul))

namespace Twister

/-! ### Bits of words -/

theorem xor_and (a b m : UInt32) : (a ^^^ b) &&& m = (a &&& m) ^^^ (b &&& m) := by
  apply UInt32.toBitVec_inj.mp
  ext i
  simp [Bool.and_xor_distrib_right]

theorem toNat_and_one (w : UInt32) : (w &&& 1).toNat = w.toNat % 2 := by
  simp [Nat.and_one_is_mod]

theorem eq_zero_or_one {w : UInt32} (bit : w.toNat < 2) : w = 0 ∨ w = 1 := by
  rcases Nat.lt_succ_iff_lt_or_eq.mp bit with zero | one
  · exact .inl (UInt32.toNat_inj.mp (Nat.lt_one_iff.mp zero))
  · exact .inr (UInt32.toNat_inj.mp one)

theorem lowest_cases (w : UInt32) : w &&& 1 = 0 ∨ w &&& 1 = 1 :=
  eq_zero_or_one (by rw [toNat_and_one]; exact Nat.mod_lt _ (by decide))

theorem toNat_uppermost (w : UInt32) : (w >>> 31).toNat = w.toNat / 2 ^ 31 := by
  simp [Nat.shiftRight_eq_div_pow]

theorem uppermost_cases (w : UInt32) : w >>> 31 = 0 ∨ w >>> 31 = 1 :=
  eq_zero_or_one (by
    have bound := w.toNat_lt
    rw [toNat_uppermost]
    omega)

/-- The upper bit of one word with the lower bits of another. -/
def joinWords (a b : UInt32) : UInt32 :=
  (a &&& 0x80000000) ||| (b &&& 0x7fffffff)

theorem upper_and_lower : ∀ i < 32,
    ((0x80000000#32).getLsbD i && (0x7fffffff#32).getLsbD i) = false := by decide

theorem upper_or_lower : ∀ i < 32,
    ((0x80000000#32).getLsbD i || (0x7fffffff#32).getLsbD i) = true := by decide

theorem joinWords_eq (a b : UInt32) :
    joinWords a b = (a &&& 0x80000000) ^^^ (b &&& 0x7fffffff) := by
  apply UInt32.toBitVec_inj.mp
  refine BitVec.eq_of_getLsbD_eq fun i within => ?_
  have apart := upper_and_lower i within
  simp [joinWords, -BitVec.getLsbD_eq_getElem] at apart ⊢
  grind

theorem joinWords_self (w : UInt32) : joinWords w w = w := by
  apply UInt32.toBitVec_inj.mp
  refine BitVec.eq_of_getLsbD_eq fun i within => ?_
  have whole := upper_or_lower i within
  simp [joinWords, -BitVec.getLsbD_eq_getElem] at whole ⊢
  grind

/-- What an odd word is mixed with when it is halved. -/
def oddMask (w : UInt32) : UInt32 :=
  if w &&& 1 = 0 then 0 else 0x9908b0df

theorem oddMask_xor (a b : UInt32) : oddMask (a ^^^ b) = oddMask a ^^^ oddMask b := by
  rcases lowest_cases a with h | h <;> rcases lowest_cases b with h' | h' <;>
    simp [oddMask, xor_and, h, h']

theorem eq_zero_of_halved {w : UInt32} (zero : w >>> 1 ^^^ oddMask w = 0) : w = 0 := by
  have half : (w >>> 1).toNat = w.toNat / 2 := by simp [Nat.shiftRight_eq_div_pow]
  have same : w >>> 1 = oddMask w := UInt32.xor_eq_zero_iff.mp zero
  have parity := toNat_and_one w
  have bound := w.toNat_lt
  apply UInt32.toNat_inj.mp
  rw [same] at half
  rcases lowest_cases w with even | odd
  · simp [oddMask, even] at half parity ⊢
    omega
  · -- Half of a word has no uppermost bit, and the mask has one.
    simp [oddMask, odd] at half
    omega

/-- The word that comes next to 624 words, of which these are the first, the second and the
398th. -/
def grow (a b c : UInt32) : UInt32 :=
  c ^^^ (joinWords a b >>> 1 ^^^ oddMask (joinWords a b))

/-! ### Twisting in place -/

theorem wordAt_set_of_ne {words : Array UInt32} {i j : Nat} (w : UInt32) (other : j ≠ i) :
    wordAt (words.setIfInBounds i w) j = wordAt words j := by
  simp [wordAt, Array.getD_eq_getD_getElem?, Array.getElem?_setIfInBounds_ne other.symm]

theorem wordAt_set_self {words : Array UInt32} {i : Nat} (w : UInt32) (inside : i < words.size) :
    wordAt (words.setIfInBounds i w) i = w := by
  simp [wordAt, inside]

theorem twistAt_eq (words : Array UInt32) (i : Nat) :
    twistAt words i = words.setIfInBounds i (grow (wordAt words i)
      (wordAt words ((i + 1) % size)) (wordAt words ((i + 397) % size))) := by
  rw [grow, ← UInt32.xor_assoc]
  rfl

theorem size_twistAt (words : Array UInt32) (i : Nat) : (twistAt words i).size = words.size := by
  rw [twistAt_eq, Array.size_setIfInBounds]

theorem wordAt_twistAt_of_ne (words : Array UInt32) {i j : Nat} (other : j ≠ i) :
    wordAt (twistAt words i) j = wordAt words j := by
  rw [twistAt_eq, wordAt_set_of_ne _ other]

/-- Words of which so many are twisted. -/
def twisted (words : Array UInt32) (count : Nat) : Array UInt32 :=
  (List.range count).foldl twistAt words

theorem twisted_succ (words : Array UInt32) (count : Nat) :
    twisted words (count + 1) = twistAt (twisted words count) count := by
  rw [twisted, List.range_succ, List.foldl_append]
  rfl

theorem size_twisted (words : Array UInt32) (count : Nat) :
    (twisted words count).size = words.size := by
  induction count with
  | zero => rfl
  | succ count ih => rw [twisted_succ, size_twistAt, ih]

theorem size_twist (words : Array UInt32) : (twist words).size = words.size :=
  size_twisted words size

theorem wordAt_twisted_of_le (words : Array UInt32) {count i : Nat} (le : count ≤ i) :
    wordAt (twisted words count) i = wordAt words i := by
  induction count with
  | zero => rfl
  | succ count ih => rw [twisted_succ, wordAt_twistAt_of_ne _ (by omega), ih (by omega)]

theorem wordAt_twisted_of_lt (words : Array UInt32) {count more i : Nat} (lt : i < count)
    (le : count ≤ more) : wordAt (twisted words more) i = wordAt (twisted words count) i := by
  induction more, le using Nat.le_induction with
  | base => rfl
  | succ more le ih => rw [twisted_succ, wordAt_twistAt_of_ne _ (by omega), ih]

/-- While words are twisted in place, the next ones are found in turn: those not yet twisted, and
behind the last of them the twisted ones. -/
theorem wordAt_twisted_mod (words : Array UInt32) {i d : Nat} (inside : i < size)
    (near : d < size) :
    wordAt (twisted words i) ((i + d) % size) =
      if i + d < size then wordAt words (i + d) else wordAt (twist words) (i + d - size) := by
  split
  next before => rw [Nat.mod_eq_of_lt before, wordAt_twisted_of_le words (by omega)]
  next behind =>
    have place : (i + d) % size = i + d - size := by
      rw [Nat.mod_eq_sub_mod (by omega), Nat.mod_eq_of_lt (by omega)]
    have all : twist words = twisted words size := rfl
    have stable : wordAt (twisted words size) (i + d - size) =
        wordAt (twisted words i) (i + d - size) :=
      wordAt_twisted_of_lt words (by omega) (Nat.le_of_lt inside)
    rw [place, all, stable]

/-! ### Words in turn -/

/-- The words that grow out of some, in the order in which they are given out. -/
def wordAhead (words : Array UInt32) (k : Nat) : UInt32 :=
  wordAt (twist^[k / size] words) (k % size)

theorem wordAhead_of_lt (words : Array UInt32) {k : Nat} (lt : k < size) :
    wordAhead words k = wordAt words k := by
  rw [wordAhead, Nat.div_eq_of_lt lt, Nat.mod_eq_of_lt lt]
  rfl

theorem wordAhead_add_size (words : Array UInt32) (k : Nat) :
    wordAhead words (k + size) = wordAhead (twist words) k := by
  rw [wordAhead, Nat.add_div_right k (by decide), Nat.add_mod_right, Function.iterate_succ_apply]
  rfl

theorem wordAhead_near (words : Array UInt32) {i d : Nat} (inside : i < size) (near : d < size) :
    wordAhead words (i + d) = wordAt (twisted words i) ((i + d) % size) := by
  rw [wordAt_twisted_mod words inside near]
  split
  next before => exact wordAhead_of_lt words before
  next behind =>
    obtain ⟨j, place⟩ := Nat.exists_eq_add_of_le' (Nat.not_lt.mp behind)
    rw [place, wordAhead_add_size, Nat.add_sub_cancel, wordAhead_of_lt _ (by omega)]

theorem wordAhead_grow {words : Array UInt32} (full : words.size = size) (k : Nat) :
    wordAhead words (k + size) =
      grow (wordAhead words k) (wordAhead words (k + 1)) (wordAhead words (k + 397)) := by
  induction k using Nat.strongRecOn generalizing words with
  | ind k ih =>
    by_cases inside : k < size
    · have grown : wordAt (twisted words (k + 1)) k =
          grow (wordAt (twisted words k) k) (wordAt (twisted words k) ((k + 1) % size))
            (wordAt (twisted words k) ((k + 397) % size)) := by
        rw [twisted_succ, twistAt_eq, wordAt_set_self _ (by rwa [size_twisted, full])]
      rw [wordAhead_add_size, wordAhead_of_lt _ inside, wordAhead_of_lt words inside,
        wordAhead_near words (d := 1) inside (by decide),
        wordAhead_near words (d := 397) inside (by decide),
        ← wordAt_twisted_of_le words (Nat.le_refl k), ← grown]
      exact wordAt_twisted_of_lt words (Nat.lt_succ_self k) inside
    · -- A round later the same words are the first of the twisted ones.
      obtain ⟨j, rfl⟩ := Nat.exists_eq_add_of_le' (Nat.not_lt.mp inside)
      have before := ih j (by simp [size]) ((size_twist words).trans full)
      rw [wordAhead_add_size, before, wordAhead_add_size, Nat.add_right_comm, wordAhead_add_size,
        Nat.add_right_comm, wordAhead_add_size]

/-- The words that a generator will give out, before they are tempered. -/
def ahead (t : Twister) (i : Nat) : UInt32 :=
  wordAhead t.words (min t.given size + i)

theorem next_fst (t : Twister) : t.next.1 = temper (t.ahead 0) := by
  rw [next, ahead]
  split
  next inside =>
    have place : min t.given size + 0 = t.given := by omega
    rw [place, wordAhead_of_lt _ inside]
  next outside =>
    have place : min t.given size + 0 = 0 + size := by omega
    rw [place, wordAhead_add_size, wordAhead_of_lt _ (by decide)]

theorem ahead_next (t : Twister) (i : Nat) : t.next.2.ahead i = t.ahead (i + 1) := by
  rw [next]
  split
  next inside =>
    have place : min (t.given + 1) size + i = min t.given size + (i + 1) := by omega
    rw [ahead, ahead, place]
  next outside =>
    have place : min t.given size + (i + 1) = min 1 size + i + size := by
      simp only [size] at outside ⊢
      omega
    rw [ahead, ahead, place, wordAhead_add_size]

theorem size_next {t : Twister} (full : t.words.size = size) : t.next.2.words.size = size := by
  rw [next]
  split
  · exact full
  · rw [size_twist, full]

/-- Each word grows out of those before it. -/
theorem ahead_grow {t : Twister} (full : t.words.size = size) (i : Nat) :
    t.ahead (i + size) = grow (t.ahead i) (t.ahead (i + 1)) (t.ahead (i + 397)) := by
  simp only [ahead, ← Nat.add_assoc]
  exact wordAhead_grow full _

end Twister

/-! ### Words as vectors -/

/-- Words with exclusive or as addition. -/
def Bits : Type := UInt32

namespace Bits

instance : Zero Bits := ⟨(0 : UInt32)⟩

instance : Add Bits := ⟨fun (a b : UInt32) => a ^^^ b⟩

instance : Neg Bits := ⟨id⟩

instance : AddCommGroup Bits where
  add_assoc := UInt32.xor_assoc
  zero_add _ := UInt32.zero_xor
  add_zero _ := UInt32.xor_zero
  add_comm := UInt32.xor_comm
  neg_add_cancel _ := UInt32.xor_self
  nsmul := nsmulRec
  zsmul := zsmulRec

instance : Module (ZMod 2) Bits :=
  AddCommGroup.zmodModule fun a => by
    rw [two_nsmul]
    exact UInt32.xor_self

def wordEquiv : Bits ≃ Fin (2 ^ 32) :=
  ⟨UInt32.toFin, UInt32.ofFin, fun _ => rfl, fun _ => rfl⟩

instance : Finite Bits := Finite.of_equiv _ wordEquiv.symm

def map (f : UInt32 → UInt32) (xor : ∀ a b, f (a ^^^ b) = f a ^^^ f b) : AddMonoid.End Bits :=
  AddMonoidHom.mk' f xor

def right (k : UInt32) : AddMonoid.End Bits :=
  map (· >>> k) fun _ _ => UInt32.shiftRight_xor

def left (k : UInt32) : AddMonoid.End Bits :=
  map (· <<< k) fun _ _ => UInt32.shiftLeft_xor

def part (m : UInt32) : AddMonoid.End Bits :=
  map (· &&& m) fun a b => Twister.xor_and a b m

def halved : AddMonoid.End Bits :=
  right 1 + map Twister.oddMask Twister.oddMask_xor

def tempered : AddMonoid.End Bits :=
  (1 + right 18) * (1 + part 0xefc60000 * left 15) * (1 + part 0x9d2c5680 * left 7) *
    (1 + right 11)

def grown (a b c : Bits) : Bits :=
  c + halved (part 0x80000000 a + part 0x7fffffff b)

theorem grown_eq (a b c : UInt32) : grown a b c = Twister.grow a b c := by
  rw [Twister.grow, Twister.joinWords_eq]
  rfl

theorem grown_add (a b c a' b' c' : Bits) :
    grown (a + a') (b + b') (c + c') = grown a b c + grown a' b' c' := by
  simp only [grown, map_add]
  abel

theorem eq_zero_of_grown {a : Bits} (same : grown a a a = a) : a = 0 := by
  have zero : halved (part 0x80000000 a + part 0x7fffffff a) = 0 := by simpa [grown] using same
  have whole : part 0x80000000 a + part 0x7fffffff a = a :=
    (Twister.joinWords_eq a a).symm.trans (Twister.joinWords_self a)
  rw [whole] at zero
  exact Twister.eq_zero_of_halved zero

/-- The uppermost bit. -/
def uppermost : Bits →+ ZMod 2 :=
  AddMonoidHom.mk' (fun a : UInt32 => ((a >>> 31).toNat : ZMod 2)) fun (a b : UInt32) => by
    change (((a ^^^ b) >>> 31).toNat : ZMod 2) = ((a >>> 31).toNat + (b >>> 31).toNat : ZMod 2)
    rw [UInt32.shiftRight_xor]
    rcases Twister.uppermost_cases a with h | h <;>
      rcases Twister.uppermost_cases b with h' | h' <;> rw [h, h'] <;> decide

theorem uppermost_of_le {w : UInt32} (large : 1000 ≤ (w >>> 22).toNat) : uppermost w = 1 := by
  have bits : (w >>> 22).toNat = w.toNat / 2 ^ 22 := by simp [Nat.shiftRight_eq_div_pow]
  rcases Twister.uppermost_cases w with zero | one
  · have none := Twister.toNat_uppermost w
    rw [zero] at none
    simp at none
    omega
  · change ((w >>> 31).toNat : ZMod 2) = 1
    rw [one]
    rfl

end Bits

/-- As many words in a row as a generator has. -/
abbrev Window : Type := Fin Twister.size → Bits

namespace Window

theorem finrank : Module.finrank (ZMod 2) Window = 32 * Twister.size := by
  have cards := Module.natCard_eq_pow_finrank (K := ZMod 2) (V := Window)
  rw [Nat.card_zmod, Nat.card_fun, Nat.card_congr Bits.wordEquiv, Nat.card_fin, Nat.card_fin,
    ← pow_mul] at cards
  exact Nat.pow_right_injective le_rfl cards.symm

def moved (v : Window) (i : Fin Twister.size) : Bits :=
  if h : i + 1 < Twister.size then v ⟨i + 1, h⟩
  else .grown (v ⟨0, by decide⟩) (v ⟨1, by decide⟩) (v ⟨397, by decide⟩)

/-- On by one word. -/
def move : Module.End (ZMod 2) Window :=
  AddMonoidHom.toZModLinearMap 2 <| AddMonoidHom.mk' moved fun v w => by
    funext i
    simp only [moved, Pi.add_apply, Bits.grown_add]
    split <;> rfl

theorem eq_zero_of_move {v : Window} (same : move v = v) : v = 0 := by
  have constant : ∀ (i : Nat) (h : i < Twister.size), v ⟨i, h⟩ = v ⟨0, by decide⟩ := by
    intro i
    induction i with
    | zero => intro _; rfl
    | succ i ih =>
      intro h
      have next : moved v ⟨i, by omega⟩ = v ⟨i, by omega⟩ := congrFun same _
      rw [moved, dif_pos h, ih (by omega)] at next
      exact next
  have last : moved v ⟨623, by decide⟩ = v ⟨623, by decide⟩ := congrFun same ⟨623, by decide⟩
  rw [moved, dif_neg (by decide), constant 1, constant 397, constant 623] at last
  funext i
  rw [constant i i.isLt, Bits.eq_zero_of_grown last]
  rfl

/-- The uppermost bit of the first word as it is given out. -/
def bit : Window →ₗ[ZMod 2] ZMod 2 :=
  AddMonoidHom.toZModLinearMap 2
    ((Bits.uppermost.comp Bits.tempered).comp (Pi.evalAddMonoidHom _ ⟨0, by decide⟩))

end Window

namespace Twister

/-- The words that a generator will give out from a place on. -/
def windowAt (t : Twister) (k : Nat) : Window :=
  fun i => t.ahead (k + i)

variable {t : Twister} (full : t.words.size = size)

include full

theorem move_windowAt (k : Nat) : Window.move (t.windowAt k) = t.windowAt (k + 1) := by
  funext i
  change Window.moved (t.windowAt k) i = t.ahead (k + 1 + i)
  rw [Window.moved]
  split
  next inside =>
    change t.ahead (k + (i + 1)) = t.ahead (k + 1 + i)
    rw [Nat.add_right_comm, Nat.add_assoc]
  next last =>
    have place : k + 1 + i = k + size := by
      have bound := i.isLt
      omega
    rw [place, ahead_grow full]
    exact Bits.grown_eq _ _ _

theorem iterate_move_windowAt (k : Nat) : Window.move^[k] (t.windowAt 0) = t.windowAt k := by
  induction k with
  | zero => rfl
  | succ k ih => rw [Function.iterate_succ_apply', ih, move_windowAt full]

/-- Among so many words in a row there is one whose ten upper bits are a number below a
thousand. -/
theorem exists_below : ∃ i < mostWords, (temper (t.ahead i) >>> 22).toNat < 1000 := by
  obtain ⟨i, within, other⟩ := exists_value_ne_one (fun _ => Window.eq_zero_of_move) Window.bit
    (t.windowAt 0)
  rw [Window.finrank] at within
  rw [iterate_move_windowAt full] at other
  have inside : i < mostWords := by
    rw [mostWords]
    omega
  have bit : Window.bit (t.windowAt i) = Bits.uppermost (temper (t.ahead i)) := rfl
  rw [bit] at other
  exact ⟨i, inside, Nat.not_le.mp fun large => other (Bits.uppermost_of_le large)⟩

end Twister

end TableTalk
