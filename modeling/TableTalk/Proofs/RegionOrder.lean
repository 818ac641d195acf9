import TableTalk.Proofs.RegionNames
import TableTalk.Proofs.Answers

/-!
# TableTalk.Proofs.RegionOrder

The regions of a question as pieces of it.

## Main result

- `filters_regions`: the regions of a question are plain names, which stand in it one behind the
  other, with nothing but separators and blanks between two of them.

## Proof strategy

A list is the parts that it is split into and the separators between them (`splits_partsOf`). What
is not in the names, the blanks around a part and the parts that are blank, joins the separators
beside it (`Splits.inTurn`).
-/

namespace TableTalk.Question

open Text

/-! ### Splits -/

/-- A text consists of parts, with a separator between each two neighbours. -/
inductive Splits : List Char → List (List Char) → Prop
  | whole (p : List Char) : Splits p [p]
  | cut {p sep s : List Char} {ps : List (List Char)} (separator : IsSeparator sep)
    (rest : Splits s ps) : Splits (p ++ (sep ++ s)) (p :: ps)

/-- A split loses nothing of a list but separators. -/
theorem splits_partsOf (s : List Char) : Splits s (partsOf s) := by
  apply partsOf_induction
  case nil => exact .whole []
  case separator =>
    intro c r rest after splits
    obtain ⟨sep, cut, separator⟩ := exists_of_afterSeparator? after
    rw [cut]
    exact .cut (p := []) separator splits
  case char =>
    intro c r part ps _ splits
    cases splits with
    | whole => exact .whole (c :: r)
    | cut separator rest => exact .cut (p := c :: part) separator rest

/-! ### Names in turn -/

/-- Blanks, and separators among them. -/
inductive IsFiller : List Char → Prop
  | blanks {b : List Char} (blanks : ∀ c ∈ b, isBlank c = true) : IsFiller b
  | separator {b sep f : List Char} (blanks : ∀ c ∈ b, isBlank c = true)
    (separator : IsSeparator sep) (rest : IsFiller f) : IsFiller (b ++ (sep ++ f))

/-- A filler with a separator in it. -/
def IsGap (g : List Char) : Prop :=
  ∃ b sep f, g = b ++ (sep ++ f) ∧ (∀ c ∈ b, isBlank c = true) ∧ IsSeparator sep ∧ IsFiller f

/-- Names stand in a text one behind the other, the first of them at its front, with a gap between
each two neighbours. -/
inductive InTurn : List (List Char) → List Char → Prop
  | last (n t : List Char) : InTurn [n] (n ++ t)
  | next {n g s : List Char} {ns : List (List Char)} (gap : IsGap g) (rest : InTurn ns s) :
    InTurn (n :: ns) (n ++ (g ++ s))

theorem InTurn.append {ns : List (List Char)} {s : List Char} (inTurn : InTurn ns s)
    (t : List Char) : InTurn ns (s ++ t) := by
  induction inTurn with
  | last n u =>
    rw [List.append_assoc]
    exact .last n (u ++ t)
  | next gap _ ih =>
    rw [List.append_assoc, List.append_assoc]
    exact .next gap ih

theorem named_cons (p : List Char) (ps : List (List Char)) :
    named (p :: ps) = if trim p = [] then named ps else trim p :: named ps := by
  by_cases blank : trim p = [] <;> simp [named, blank]

theorem blanks_of_trim_eq_nil {p : List Char} (blank : trim p = []) :
    ∀ c ∈ p, isBlank c = true :=
  (words_eq_nil_iff p).mp ((trim_eq_nil_iff p).mp blank)

/-- The names among the parts of a text stand in it in turn, behind a filler. -/
theorem Splits.inTurn {s : List Char} {ps : List (List Char)} (splits : Splits s ps)
    (some : named ps ≠ []) : ∃ f t, s = f ++ t ∧ IsFiller f ∧ InTurn (named ps) t := by
  induction splits with
  | whole p =>
    rw [named_cons] at some ⊢
    by_cases blank : trim p = []
    · simp [blank, named] at some
    · obtain ⟨b, b', cut, blanks, _⟩ := exists_eq_trim_padded p
      rw [if_neg blank]
      exact ⟨b, trim p ++ b', by rw [← List.append_assoc, ← cut], .blanks blanks, .last _ _⟩
  | @cut p sep s ps separator _ ih =>
    rw [named_cons] at some ⊢
    by_cases blank : trim p = []
    · -- A blank part joins the separator behind it.
      rw [if_pos blank] at some ⊢
      obtain ⟨f, t, rfl, filler, inTurn⟩ := ih some
      refine ⟨p ++ (sep ++ f), t, by simp, ?_, inTurn⟩
      exact .separator (blanks_of_trim_eq_nil blank) separator filler
    · rw [if_neg blank]
      obtain ⟨b, b', cut, blanks, blanks'⟩ := exists_eq_trim_padded p
      by_cases last : named ps = []
      · rw [last]
        refine ⟨b, trim p ++ (b' ++ (sep ++ s)), ?_, .blanks blanks, .last _ _⟩
        rw [← List.append_assoc b, ← List.append_assoc (b ++ trim p), ← cut]
      · obtain ⟨f, t, rfl, filler, inTurn⟩ := ih last
        have gap : IsGap (b' ++ (sep ++ f)) := ⟨b', sep, f, rfl, blanks', separator, filler⟩
        refine ⟨b, trim p ++ ((b' ++ (sep ++ f)) ++ t), ?_, .blanks blanks, .next gap inTurn⟩
        have whole : p ++ (sep ++ (f ++ t)) = (b ++ trim p ++ b') ++ (sep ++ (f ++ t)) := by
          rw [← cut]
        rw [whole]
        simp only [List.append_assoc]

/-! ### Questions -/

theorem prefix_of_listRun? {t l : List Char} (run : listRun? t = some l) : l <+: t := by
  rw [listRun?] at run
  split at run
  next => cases run
  next =>
    cases run
    exact List.takeWhile_prefix isListChar

/-- The names that are found in a question stand in it in turn. -/
theorem inTurn_of_regionsOf? {q : List Char} {ns : List (List Char)}
    (found : regionsOf? q = some ns) : ∃ a s, q = a ++ s ∧ InTurn ns s := by
  obtain ⟨l, first, rfl, nonempty⟩ := exists_of_regionsOf? found
  obtain ⟨a, t, rfl, run⟩ := exists_of_firstList? first
  obtain ⟨z, rfl⟩ := prefix_of_listRun? run
  obtain ⟨f, s, cut, _, inTurn⟩ := (splits_partsOf l).inTurn nonempty
  refine ⟨a ++ f, s ++ z, ?_, inTurn.append z⟩
  conv_lhs => rw [cut]
  simp only [List.append_assoc]

theorem region_of_filters {question : String} {catalog : Catalog} {f : FilterSet}
    (found : filters question catalog = .ok f) : f.region = regions? question := by
  rw [filters] at found
  cases known : catalog.productNames with
  | error e =>
    rw [known] at found
    cases found
  | ok names =>
    rw [known] at found
    cases found
    rfl

/-- Over any catalog, the regions that are found in a question are plain names. They stand in the
question in turn, so that between two of them there is nothing but separators and blanks. -/
theorem filters_regions (question : String) (catalog : Catalog) :
    (∀ products : List String, catalog.products = products.map .text →
      ∃ f, filters question catalog = .ok f) ∧
    ∀ f, filters question catalog = .ok f → ∀ regions ∈ f.region,
      regions ≠ [] ∧ (∀ region ∈ regions, IsPlain region.toList) ∧
        ∃ a s, lower question.toList = a ++ s ∧ InTurn (regions.map String.toList) s := by
  refine ⟨fun products vocabulary => ⟨_, filters_eq vocabulary question⟩, ?_⟩
  intro f found regions held
  rw [region_of_filters found, regions?, Option.mem_def, Option.map_eq_some_iff] at held
  obtain ⟨ns, some, rfl⟩ := held
  obtain ⟨_, _, _, nonempty⟩ := exists_of_regionsOf? some
  refine ⟨by simpa using nonempty, ?_, ?_⟩
  · intro region member
    obtain ⟨n, member', rfl⟩ := List.mem_map.mp member
    rw [String.toList_ofList]
    exact isPlain_of_regionsOf? some n member'
  · have same : (ns.map String.ofList).map String.toList = ns := by
      simp [Function.comp_def]
    rw [same]
    exact inTurn_of_regionsOf? some

-- A joiner that another separator leaves without a blank before it is a name of its own.
theorem filters_regions_joiners :
    ∃ f, filters "Sold in\t Sand and and , or  or  Inland , ,oregon! in west" .sales = .ok f ∧
      f.region = some ["sand", "and", "or", "inland", "oregon"] ∧
      (∀ region ∈ ["sand", "and", "or", "inland", "oregon"], IsPlain region.toList) ∧
      ∃ a s, lower "Sold in\t Sand and and , or  or  Inland , ,oregon! in west".toList = a ++ s ∧
        InTurn (["sand", "and", "or", "inland", "oregon"].map String.toList) s := by
  have shape := filters_regions "Sold in\t Sand and and , or  or  Inland , ,oregon! in west" .sales
  obtain ⟨f, found⟩ := shape.1 ["Laptop", "Phone", "Tablet"] rfl
  have region : f.region = some ["sand", "and", "or", "inland", "oregon"] := by
    rw [region_of_filters found]
    decide +kernel
  obtain ⟨_, plain, inTurn⟩ := shape.2 f found _ region
  exact ⟨f, found, region, plain, inTurn⟩

end TableTalk.Question
