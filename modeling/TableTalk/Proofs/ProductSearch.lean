import TableTalk.Catalog.Reading
import TableTalk.Proofs.Vocabulary
import TableTalk.Proofs.RegionOrder

/-!
# TableTalk.Proofs.ProductSearch

The search for the product of a question, for vocabularies of any names: names of several words,
names that begin others, and names that begin or end with signs.

## Main results

- `filters_product`: the product is the name that stands alone at the first place where any name of
  the vocabulary does, and of several names at this place the first of the vocabulary.
- `filters_product_known`: the product is in the vocabulary, but not for an empty vocabulary and a
  question with a word in it.

## Proof strategy

The search goes from place to place (`firstName?_eq_findSome?`), and what it tries at a place is
whether names stand alone there (`standsAlone_iff`). Which name comes first is then a matter of two
lists, the places and the vocabulary, each searched from the front.
-/

namespace TableTalk.Question

open Text

/-! ### Names that stand alone -/

/-- A word begins or ends between two texts: exactly one of the characters beside the place is a
word character. -/
def WordEdge (x y : List Char) : Prop :=
  Xor (∃ c ∈ x.getLast?, isWordChar c = true) (∃ c ∈ y.head?, isWordChar c = true)

/-- A name stands behind so many characters, with an edge of a word before it and one behind it, or
behind the `s` that follows it. -/
def StandsAlone (i : Nat) (q name : List Char) : Prop :=
  ∃ a t, q = a ++ (name ++ t) ∧ a.length = i ∧ WordEdge a (name ++ t) ∧
    (WordEdge (a ++ name) t ∨ ∃ r, t = 's' :: r ∧ WordEdge (a ++ name ++ ['s']) r)

/-- A name stands alone, no name of the vocabulary does so earlier in the text, and none before it
in the vocabulary does so at its place. -/
def ComesFirst (names : List (List Char)) (q name : List Char) : Prop :=
  ∃ i before after, names = before ++ name :: after ∧ StandsAlone i q name ∧
    (∀ j < i, ∀ other ∈ names, ¬StandsAlone j q other) ∧
    ∀ other ∈ before, ¬StandsAlone i q other

theorem isBoundary_iff (x y : List Char) : isBoundary x.getLast? y = true ↔ WordEdge x y := by
  simp only [isBoundary, WordEdge, Option.mem_def, ← Option.any_eq_true]
  cases x.getLast?.any isWordChar <;> cases y.head?.any isWordChar <;> simp

theorem standsAt_iff {before : Option Char} {s name : List Char} :
    standsAt before s name = true ↔ ∃ t, s = name ++ t ∧
      (isBoundary (name.getLast?.or before) t = true ∨
        ∃ r, t = 's' :: r ∧ isBoundary (some 's') r = true) := by
  cases after : afterKeyword? (· == ·) name s with
  | none =>
    simp only [standsAt, after, Bool.false_eq_true, false_iff, not_exists, not_and]
    intro t cut
    rw [(afterKeyword?_beq_iff _ _ _).mpr cut] at after
    cases after
  | some t =>
    obtain rfl : s = name ++ t := (afterKeyword?_beq_iff _ _ _).mp after
    have singular : standsAt before (name ++ t) name = true ↔
        isBoundary (name.getLast?.or before) t = true ∨
          ∃ r, t = 's' :: r ∧ isBoundary (some 's') r = true := by
      simp only [standsAt, after, Bool.or_eq_true]
      rw [or_comm]
      apply or_congr_right
      split
      next r => simp
      next other =>
        simp only [Bool.false_eq_true, false_iff, not_exists, not_and]
        intro r plural
        exact absurd plural (other r)
    rw [singular]
    constructor
    · intro ends
      exact ⟨t, rfl, ends⟩
    · rintro ⟨u, cut, ends⟩
      rwa [List.append_cancel_left cut]

theorem StandsAlone.le_length {i : Nat} {q name : List Char} (alone : StandsAlone i q name) :
    i ≤ q.length := by
  obtain ⟨a, t, rfl, rfl, _⟩ := alone
  simp

/-- What is tried at a place of a text. -/
theorem standsAlone_iff {i : Nat} {q name : List Char} (inside : i ≤ q.length) :
    StandsAlone i q name ↔ StandsBehind i q name := by
  obtain ⟨a, s, rfl, rfl⟩ : ∃ a s, q = a ++ s ∧ a.length = i :=
    ⟨q.take i, q.drop i, (List.take_append_drop i q).symm, List.length_take_of_le inside⟩
  rw [StandsBehind, List.take_left, List.drop_left, standsAt_iff]
  have ends (t : List Char) : isBoundary (name.getLast?.or a.getLast?) t = true ↔
      WordEdge (a ++ name) t := by
    rw [← isBoundary_iff, List.getLast?_append]
  have plural (r : List Char) : isBoundary (some 's') r = true ↔
      WordEdge (a ++ name ++ ['s']) r := by
    rw [← isBoundary_iff, List.getLast?_concat]
  simp only [ends, plural, isBoundary_iff]
  constructor
  · rintro ⟨a', t, cut, length, begins, alone⟩
    obtain ⟨rfl, rfl⟩ := List.append_inj cut length.symm
    exact ⟨begins, t, rfl, alone⟩
  · rintro ⟨begins, t, rfl, alone⟩
    exact ⟨a, t, rfl, rfl, begins, alone⟩

/-! ### The search from place to place -/

/-- The name that is found behind so many characters of a text. -/
def nameBehind? (names : List (List Char)) (q : List Char) (i : Nat) : Option (List Char) :=
  nameAt? names (q.take i).getLast? (q.drop i)

/-- The search tries the places of a text in order, the one at its end included. -/
theorem firstName?_eq_findSome? (names : List (List Char)) (q : List Char) :
    firstName? names none q = (List.range (q.length + 1)).findSome? (nameBehind? names q) := by
  suffices fromPlace : ∀ n i, i + n = q.length →
      firstName? names (q.take i).getLast? (q.drop i) =
        (List.range' i (n + 1)).findSome? (nameBehind? names q) by
    rw [List.range_eq_range']
    exact fromPlace q.length 0 (Nat.zero_add _)
  intro n
  induction n with
  | zero =>
    intro i sum
    have rest : q.drop i = [] := List.drop_eq_nil_of_le (by omega)
    have here : firstName? names (q.take i).getLast? (q.drop i) = nameBehind? names q i := by
      rw [nameBehind?, rest]
      rfl
    rw [here, List.range'_one, List.findSome?_singleton]
  | succ n ih =>
    intro i sum
    have inside : i < q.length := by omega
    have places : List.range' i (n + 1 + 1) = i :: List.range' (i + 1) (n + 1) := List.range'_succ
    rw [firstName?_behind inside, ih (i + 1) (by omega), places, List.findSome?_cons, ← nameBehind?]
    cases nameBehind? names q i <;> rfl

theorem range_cut_at {i n : Nat} (inside : i ≤ n) :
    List.range (n + 1) = List.range i ++ i :: List.range' (i + 1) (n - i) := by
  have sum : n + 1 = i + (n - i + 1) := by omega
  have halves : List.range' 0 i ++ List.range' (0 + i) (n - i + 1) =
      List.range' 0 (i + (n - i + 1)) := List.range'_append_1
  rw [List.range_eq_range', List.range_eq_range', ← List.range'_succ, sum, ← halves, Nat.zero_add]

theorem nameBehind?_eq_none_iff {names : List (List Char)} {q : List Char} {i : Nat}
    (inside : i ≤ q.length) :
    nameBehind? names q i = none ↔ ∀ name ∈ names, ¬StandsAlone i q name := by
  simp only [standsAlone_iff inside]
  by_cases boundary : isBoundary (q.take i).getLast? (q.drop i) = true <;>
    simp [nameBehind?, nameAt?, boundary, StandsBehind]

theorem nameBehind?_eq_some_iff {names : List (List Char)} {q name : List Char} {i : Nat}
    (inside : i ≤ q.length) :
    nameBehind? names q i = some name ↔ StandsAlone i q name ∧
      ∃ before after, names = before ++ name :: after ∧
        ∀ other ∈ before, ¬StandsAlone i q other := by
  simp only [standsAlone_iff inside]
  exact nameAt?_eq_some_iff

/-- Nothing is found exactly if no name stands alone anywhere. -/
theorem firstName?_eq_none_iff {names : List (List Char)} {q : List Char} :
    firstName? names none q = none ↔ ∀ name ∈ names, ∀ i, ¬StandsAlone i q name := by
  rw [firstName?_eq_findSome?, List.findSome?_eq_none_iff]
  constructor
  · intro none name member i alone
    have here := none i (List.mem_range.mpr (Nat.lt_succ_of_le alone.le_length))
    exact (nameBehind?_eq_none_iff alone.le_length).mp here name member alone
  · intro none i place
    have inside : i ≤ q.length := Nat.le_of_lt_succ (List.mem_range.mp place)
    exact (nameBehind?_eq_none_iff inside).mpr fun name member => none name member i

/-- What is found is the name that comes first. -/
theorem firstName?_eq_some_iff {names : List (List Char)} {q name : List Char} :
    firstName? names none q = some name ↔ ComesFirst names q name := by
  rw [firstName?_eq_findSome?, List.findSome?_eq_some_iff]
  constructor
  · rintro ⟨earlier, i, later, cut, here, passed⟩
    -- What stands before a place in the list of places are the smaller ones.
    rw [List.range_eq_range', List.range'_eq_append_iff] at cut
    obtain ⟨k, most, rfl, rest⟩ := cut
    obtain ⟨same, _, _⟩ := List.range'_eq_cons_iff.mp rest.symm
    obtain rfl : k = i := by simpa using same
    have inside : k ≤ q.length := by
      have lengths := congrArg List.length rest
      simp only [List.length_cons, List.length_range'] at lengths
      omega
    obtain ⟨alone, before, after, cut, passed'⟩ := (nameBehind?_eq_some_iff inside).mp here
    refine ⟨k, before, after, cut, alone, ?_, passed'⟩
    intro j earlier
    have none := passed j (by simp [List.mem_range'_1, earlier])
    exact (nameBehind?_eq_none_iff (by omega)).mp none
  · rintro ⟨i, before, after, cut, alone, earlier, passed⟩
    have inside := alone.le_length
    refine ⟨_, i, _, range_cut_at inside, ?_, ?_⟩
    · exact (nameBehind?_eq_some_iff inside).mpr ⟨alone, before, after, cut, passed⟩
    · intro j member
      have smaller := List.mem_range.mp member
      exact (nameBehind?_eq_none_iff (by omega)).mpr (earlier j smaller)

theorem ComesFirst.mem {names : List (List Char)} {q name : List Char}
    (first : ComesFirst names q name) : name ∈ names := by
  obtain ⟨_, before, after, rfl, _⟩ := first
  simp

/-! ### Questions -/

section

variable {catalog : Catalog} {products : List String}

theorem productOf?_eq {names : List (List Char)} (nonempty : names ≠ []) (q : List Char) :
    productOf? names q = firstName? names none q := by
  rw [productOf?, if_neg (by simpa using nonempty)]

/-- The names of a vocabulary in lower case, as they are looked for. -/
def lowerNames (products : List String) : List (List Char) :=
  products.map fun name => lower name.toList

theorem product?_eq (products : List String) (question : String) :
    product? (products.map String.lowered) question =
      (productOf? (lowerNames products) (lower question.toList)).map .ofList := by
  have same : (products.map String.lowered).map String.toList = lowerNames products := by
    simp [lowerNames, String.lowered]
  rw [product?, same]

theorem product_eq_some_iff (nonempty : products ≠ []) (question product : String) :
    product? (products.map String.lowered) question = some product ↔
      ComesFirst (lowerNames products) (lower question.toList) product.toList := by
  have nonempty' : lowerNames products ≠ [] := by simpa [lowerNames] using nonempty
  rw [product?_eq, productOf?_eq nonempty', Option.map_eq_some_iff]
  constructor
  · rintro ⟨name, found, rfl⟩
    rw [String.toList_ofList]
    exact firstName?_eq_some_iff.mp found
  · intro first
    exact ⟨product.toList, firstName?_eq_some_iff.mpr first, String.ofList_toList⟩

theorem product_eq_none_iff (nonempty : products ≠ []) (question : String) :
    product? (products.map String.lowered) question = none ↔
      ∀ name ∈ lowerNames products, ∀ i, ¬StandsAlone i (lower question.toList) name := by
  have nonempty' : lowerNames products ≠ [] := by simpa [lowerNames] using nonempty
  rw [product?_eq, productOf?_eq nonempty', Option.map_eq_none_iff, firstName?_eq_none_iff]

/-- In a question, the product is the name that comes first among those of the vocabulary, and there
is none exactly if no name stands alone anywhere. -/
theorem filters_product (vocabulary : catalog.products = products.map .text)
    (nonempty : products ≠ []) (question : String) :
    ∃ f, filters question catalog = .ok f ∧
      (f.product = none ↔
        ∀ name ∈ lowerNames products, ∀ i, ¬StandsAlone i (lower question.toList) name) ∧
      ∀ product : String, f.product = some product ↔
        ComesFirst (lowerNames products) (lower question.toList) product.toList :=
  ⟨_, filters_eq vocabulary question, product_eq_none_iff nonempty question,
    product_eq_some_iff nonempty question⟩

-- A point stands for itself, a second `s` ends no word, and the first of two names at a place is
-- taken.
theorem filters_product_phone_cases :
    ∃ f, filters "A-C, buss or phone cases" (catalogOf ["A.C", "Bu", "Phone Case", "Phone"] []) =
        .ok f ∧
      f.product = some "phone case" ∧
      ComesFirst (lowerNames ["A.C", "Bu", "Phone Case", "Phone"])
        (lower "A-C, buss or phone cases".toList) "phone case".toList := by
  have vocabulary : (catalogOf ["A.C", "Bu", "Phone Case", "Phone"] []).products =
      ["A.C", "Bu", "Phone Case", "Phone"].map .text := rfl
  obtain ⟨f, found, _, first⟩ :=
    filters_product vocabulary (by simp) "A-C, buss or phone cases"
  have product : f.product = some "phone case" := by
    obtain rfl := Except.ok.inj (found.symm.trans (filters_eq vocabulary _))
    decide +kernel
  exact ⟨f, found, product, (first _).mp product⟩

end

/-! ### Vocabularies without names -/

/-- No character of a text is of a word. -/
def Wordless (q : List Char) : Prop :=
  ∀ c ∈ q, isWordChar c = false

instance (q : List Char) : Decidable (Wordless q) :=
  inferInstanceAs (Decidable (∀ c ∈ q, _))

theorem Wordless.not_wordEdge {x y : List Char} (wordless : Wordless (x ++ y)) :
    ¬WordEdge x y := by
  have left : ¬∃ c ∈ x.getLast?, isWordChar c = true := by
    rintro ⟨c, last, char⟩
    rw [wordless c (List.mem_append_left y (List.mem_of_getLast? last))] at char
    cases char
  have right : ¬∃ c ∈ y.head?, isWordChar c = true := by
    rintro ⟨c, first, char⟩
    rw [wordless c (List.mem_append_right x (List.mem_of_mem_head? first))] at char
    cases char
  rintro (⟨inside, _⟩ | ⟨inside, _⟩)
  · exact left inside
  · exact right inside

-- The first word of a text begins at an edge.
theorem exists_wordEdge {q : List Char} (words : ¬Wordless q) :
    ∃ a t, q = a ++ t ∧ WordEdge a t := by
  have halves := List.takeWhile_append_dropWhile (p := (! isWordChar ·)) (l := q)
  have left : ¬∃ c ∈ (q.takeWhile (! isWordChar ·)).getLast?, isWordChar c = true := by
    rintro ⟨c, last, char⟩
    have outside := List.mem_takeWhile_imp (List.mem_of_getLast? last)
    simp [char] at outside
  have right : ∃ c ∈ (q.dropWhile (! isWordChar ·)).head?, isWordChar c = true := by
    cases rest : q.dropWhile (! isWordChar ·) with
    | nil =>
      have all := List.dropWhile_eq_nil_iff.mp rest
      exact absurd (fun c member => by simpa using all c member) words
    | cons c r =>
      have stop := List.head?_dropWhile_not (! isWordChar ·) q
      exact ⟨c, rfl, by simpa [rest] using stop⟩
  exact ⟨_, _, halves.symm, .inr ⟨right, left⟩⟩

theorem standsAlone_nil_iff {i : Nat} {q : List Char} :
    StandsAlone i q [] ↔ ∃ a t, q = a ++ t ∧ a.length = i ∧ WordEdge a t := by
  constructor
  · rintro ⟨a, t, cut, length, edge, _⟩
    exact ⟨a, t, cut, length, edge⟩
  · rintro ⟨a, t, cut, length, edge⟩
    refine ⟨a, t, cut, length, edge, .inl ?_⟩
    rwa [List.append_nil]

/-- Without names, the empty name is found in every text with a word. -/
theorem productOf?_nil (q : List Char) :
    productOf? [] q = if Wordless q then none else some [] := by
  have single : productOf? [] q = firstName? [[]] none q := rfl
  rw [single]
  split
  next wordless =>
    rw [firstName?_eq_none_iff]
    intro name member i alone
    obtain rfl := List.mem_singleton.mp member
    obtain ⟨a, t, rfl, _, edge⟩ := standsAlone_nil_iff.mp alone
    exact wordless.not_wordEdge edge
  next words =>
    obtain ⟨a, t, rfl, edge⟩ := exists_wordEdge words
    have alone : StandsAlone a.length (a ++ t) [] := standsAlone_nil_iff.mpr ⟨a, t, rfl, rfl, edge⟩
    cases found : firstName? [[]] none (a ++ t) with
    | none => exact absurd alone (firstName?_eq_none_iff.mp found [] List.mem_cons_self _)
    | some name =>
      have member := (firstName?_eq_some_iff.mp found).mem
      rw [List.mem_singleton.mp member]

theorem product?_nil (question : String) :
    product? [] question = if Wordless (lower question.toList) then none else some "" := by
  have found := product?_eq [] question
  rw [List.map_nil] at found
  rw [found, lowerNames, List.map_nil, productOf?_nil]
  split <;> rfl

section

variable {catalog : Catalog} {products : List String}

theorem mem_lowered_of_product? (nonempty : products ≠ []) {question product : String}
    (found : product? (products.map String.lowered) question = some product) :
    product ∈ products.map String.lowered := by
  have member := ((product_eq_some_iff nonempty question product).mp found).mem
  obtain ⟨name, known, same⟩ := List.mem_map.mp member
  refine List.mem_map.mpr ⟨name, known, ?_⟩
  rw [String.lowered, same, String.ofList_toList]

/-- The product of a question is a name of the vocabulary, unless the vocabulary is empty and the
question has a word. The product is then empty, too, and passes no sale of a product with a name. -/
theorem filters_product_known (vocabulary : catalog.products = products.map .text)
    (question : String) :
    ∃ f keywords, filters question catalog = .ok f ∧ catalog.productKeywords = .ok keywords ∧
      ((∀ product ∈ f.product, .text product ∈ keywords) ↔
        products ≠ [] ∨ Wordless (lower question.toList)) ∧
      (products = [] →
        f.product = (if Wordless (lower question.toList) then none else some "") ∧
        (f.region = none → ∀ sales : List Sale, f.apply (sales.map Sale.row) =
          .ok ((sales.filter fun sale =>
            Wordless (lower question.toList) ∨ sale.product.lowered = "").map Sale.row))) := by
  have keywords : catalog.productKeywords = .ok (products.map fun name => .text name.lowered) := by
    rw [Catalog.productKeywords, vocabulary, Catalog.keywords_texts]
  refine ⟨_, _, filters_eq vocabulary question, keywords, ?_, ?_⟩
  · by_cases empty : products = []
    · subst empty
      rw [List.map_nil, product?_nil]
      by_cases wordless : Wordless (lower question.toList) <;> simp [wordless]
    · simp only [Option.mem_def, List.mem_map, Scalar.text.injEq, ne_eq, empty, not_false_eq_true,
        true_or, iff_true]
      intro product found
      exact List.mem_map.mp (mem_lowered_of_product? empty found)
  · rintro rfl
    rw [List.map_nil, product?_nil]
    refine ⟨rfl, fun region sales => ?_⟩
    rw [FilterSet.apply_sales, FilterSet.matching]
    congr 2
    refine List.filter_congr fun sale _ => ?_
    by_cases wordless : Wordless (lower question.toList) <;>
      simp_all [FilterSet.Admits]

end

theorem filters_product_known_signs :
    ∃ f keywords, filters "?!" (catalogOf [] ["North"]) = .ok f ∧
      (catalogOf [] ["North"]).productKeywords = .ok keywords ∧
      (∀ product ∈ f.product, .text product ∈ keywords) ∧ f.product = none ∧
      ∀ sales : List Sale, f.apply (sales.map Sale.row) = .ok (sales.map Sale.row) := by
  have vocabulary : (catalogOf [] ["North"]).products = [].map .text := rfl
  have wordless : Wordless (lower "?!".toList) := by decide +kernel
  obtain ⟨f, keywords, found, known, member, unnamed⟩ := filters_product_known vocabulary "?!"
  obtain ⟨product, passed⟩ := unnamed rfl
  have region : f.region = none := by
    rw [region_of_filters found]
    decide +kernel
  refine ⟨f, keywords, found, known, member.mpr (.inr wordless), ?_, ?_⟩
  · rw [product, if_pos wordless]
  · intro sales
    rw [passed region sales, List.filter_eq_self.mpr]
    intro sale _
    exact decide_eq_true (.inl wordless)

/-- Over a catalog file that lists no products, a question without a region gets a product that is
not in the vocabulary, and that no sale of a laptop passes. -/
theorem filters_no_products :
    ∃ catalog, Catalog.ofValue (.record [("table", .record [("name", .text "sales")])]) =
        .ok catalog ∧
      catalog.productKeywords = .ok [] ∧
      filters "show sales" catalog = .ok { region := none, product := some "" } ∧
      FilterSet.apply { region := none, product := some "" }
        [Sale.row ⟨1, "Laptop", "North", 300, .ofUnixSeconds 0⟩] = .ok [] := by
  obtain ⟨catalog, accepted, vocabulary⟩ : ∃ catalog,
      Catalog.ofValue (.record [("table", .record [("name", .text "sales")])]) = .ok catalog ∧
        catalog.products = ([] : List String).map .text :=
    ⟨_, rfl, rfl⟩
  refine ⟨catalog, accepted, ?_, ?_, ?_⟩
  · rw [Catalog.productKeywords, vocabulary, Catalog.keywords_texts]
    rfl
  · have region : regions? "show sales" = none := by decide +kernel
    have product : product? ([].map String.lowered) "show sales" = some "" := by decide +kernel
    rw [filters_eq vocabulary, region, product]
  · exact FilterSet.apply_sales _ [⟨1, "Laptop", "North", 300, .ofUnixSeconds 0⟩]

end TableTalk.Question
