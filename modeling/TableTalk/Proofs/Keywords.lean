import TableTalk.Proofs.Words
import TableTalk.Text.Case

/-!
# TableTalk.Proofs.Keywords

Keywords at the front of a text. `afterKeyword?` compares one character after the other; here it is
read as a statement about the text as a whole: the text begins with a run that spells the keyword.

Main result: `afterKeyword?_ascii_iff`. Among the ASCII letters a run spells a keyword in capital
letters exactly if its capital form is the keyword, so that no other letter can stand for one of
them.
-/

namespace TableTalk.Text

/-! ### Case of ASCII letters -/

theorem toNat_toLower (c : Char) :
    c.toLower.toNat = if 65 ≤ c.toNat ∧ c.toNat ≤ 90 then c.toNat + 32 else c.toNat := by
  have bounds : ('A'.val ≤ c.val ∧ c.val ≤ 'Z'.val) ↔ 65 ≤ c.toNat ∧ c.toNat ≤ 90 := by
    simp [UInt32.le_iff_toNat_le]
  simp only [Char.toLower, ge_iff_le, ← bounds]
  split
  next inside =>
    have upper := bounds.mp inside
    have sum : (c.val + ('a'.val - 'A'.val)).toNat = (c.toNat + 32) % 2 ^ 32 := by simp
    rw [Char.toNat, sum]
    omega
  next => rfl

theorem toNat_toUpper (c : Char) :
    c.toUpper.toNat = if 97 ≤ c.toNat ∧ c.toNat ≤ 122 then c.toNat - 32 else c.toNat := by
  have bounds : ('a'.val ≤ c.val ∧ c.val ≤ 'z'.val) ↔ 97 ≤ c.toNat ∧ c.toNat ≤ 122 := by
    simp [UInt32.le_iff_toNat_le]
  simp only [Char.toUpper, ← bounds]
  split
  next inside =>
    have lower := bounds.mp inside
    have sum : (c.val + ('A'.val - 'a'.val)).toNat = (c.toNat + (2 ^ 32 - 32)) % 2 ^ 32 := by simp
    rw [Char.toNat, sum]
    omega
  next => rfl

theorem sameAsciiLetter_iff {k : Char} (capital : k.isLower = false) (c : Char) :
    sameAsciiLetter k c = true ↔ c.toUpper = k := by
  have outside : ¬(97 ≤ k.toNat ∧ k.toNat ≤ 122) := by
    simpa [Char.isLower, UInt32.le_iff_toNat_le] using capital
  -- Only small letters change, and the keyword has none.
  rw [sameAsciiLetter, decide_eq_true_iff, ← Char.toNat_inj, ← Char.toNat_inj, toNat_toLower,
    toNat_toLower, toNat_toUpper]
  split <;> split <;> split <;> omega

/-! ### Keywords at the front of a text -/

theorem afterKeyword?_eq_some_iff (same : Char → Char → Bool) (ks s r : List Char) :
    afterKeyword? same ks s = some r ↔
      ∃ w, s = w ++ r ∧ List.Forall₂ (fun k c => same k c = true) ks w := by
  induction ks generalizing s with
  | nil =>
    simp only [afterKeyword?, List.forall₂_nil_left_iff, Option.some.injEq]
    constructor
    · rintro rfl
      exact ⟨[], rfl, rfl⟩
    · rintro ⟨w, rfl, rfl⟩
      rfl
  | cons k ks ih =>
    cases s with
    | nil =>
      simp only [afterKeyword?, reduceCtorEq, false_iff, not_exists, not_and]
      intro w empty
      obtain ⟨rfl, -⟩ := List.append_eq_nil_iff.mp empty.symm
      simp
    | cons c s =>
      simp only [afterKeyword?]
      constructor
      · intro found
        split at found
        next first =>
          obtain ⟨w, rfl, rest⟩ := (ih s).mp found
          exact ⟨c :: w, rfl, .cons first rest⟩
        next => cases found
      · rintro ⟨w, cut, matched⟩
        cases matched with
        | @cons _ d _ v first rest =>
          obtain ⟨rfl, rfl⟩ := List.cons.inj cut
          rw [if_pos first]
          exact (ih (v ++ r)).mpr ⟨v, rfl, rest⟩

-- A text written exactly as wanted stands at the front.
theorem afterKeyword?_beq_iff (t s r : List Char) :
    afterKeyword? (· == ·) t s = some r ↔ s = t ++ r := by
  simp only [afterKeyword?_eq_some_iff, beq_iff_eq, List.forall₂_eq_eq_eq]
  constructor
  · rintro ⟨w, rfl, rfl⟩
    rfl
  · rintro rfl
    exact ⟨t, rfl, rfl⟩

/-- Whether a text writes a keyword in capital letters, in whatever case of the ASCII letters. -/
def Spells (keyword : String) (w : List Char) : Prop :=
  w.map Char.toUpper = keyword.toList

instance (keyword : String) (w : List Char) : Decidable (Spells keyword w) :=
  inferInstanceAs (Decidable (_ = _))

theorem forall₂_sameAsciiLetter_iff {ks : List Char} (capitals : ∀ k ∈ ks, k.isLower = false)
    (w : List Char) :
    List.Forall₂ (fun k c => sameAsciiLetter k c = true) ks w ↔ w.map Char.toUpper = ks := by
  induction ks generalizing w with
  | nil => simp
  | cons k ks ih =>
    have rest := ih fun c hc => capitals c (List.mem_cons_of_mem _ hc)
    cases w with
    | nil => simp
    | cons c w =>
      simp [rest, sameAsciiLetter_iff (capitals k List.mem_cons_self)]

theorem afterKeyword?_ascii_iff {keyword : String}
    (capitals : ∀ k ∈ keyword.toList, k.isLower = false) (s r : List Char) :
    afterKeyword? sameAsciiLetter keyword.toList s = some r ↔
      ∃ w, s = w ++ r ∧ Spells keyword w := by
  simp only [afterKeyword?_eq_some_iff, forall₂_sameAsciiLetter_iff capitals, Spells]

/-! ### Spelled keywords -/

theorem spells_append_iff (a b : String) (w : List Char) :
    Spells (a ++ b) w ↔ ∃ u v, w = u ++ v ∧ Spells a u ∧ Spells b v := by
  rw [Spells, String.toList_append, List.map_eq_append_iff]
  rfl

theorem spells_space_iff (w : List Char) : Spells " " w ↔ w = [' '] := by
  constructor
  · intro spelled
    obtain ⟨c, rfl, upper⟩ : ∃ c, w = [c] ∧ c.toUpper = ' ' := List.map_eq_singleton_iff.mp spelled
    have code := congrArg Char.toNat upper
    rw [toNat_toUpper] at code
    have same : c.toNat = ' '.toNat := by
      split at code <;> simp at code ⊢ <;> omega
    rw [Char.toNat_inj.mp same]
  · rintro rfl
    rfl

/-- A keyword without blanks is spelled by words only: no blank is the form of another character. -/
theorem Spells.isWord {keyword : String} {w : List Char} (spelled : Spells keyword w)
    (keyWord : IsWord keyword.toList) : IsWord w := by
  have kept : ∀ b ∈ blanks, b.toUpper = b := by decide
  refine .of_map kept ?_
  rwa [spelled]

end TableTalk.Text
