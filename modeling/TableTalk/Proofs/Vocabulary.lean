import TableTalk.Proofs.RegionNames
import TableTalk.Proofs.Products
import TableTalk.Proofs.Answers

/-!
# TableTalk.Proofs.Vocabulary

Questions that name a product of the catalog and a region, word for word: what is needed of the two
names for them to be found.

Main result: `filters_howMany`.

The product is the first name of the vocabulary at the first place where one stands
(`firstName?_eq_some`), and it stands behind the space before it if it begins and ends like a word.
The region is looked for without the vocabulary, so that only the form of its name counts.
-/

namespace TableTalk.Question

open Text

/-! ### The search for a name -/

/-- A name stands in a text behind so many characters: there a word begins or ends, and a word ends
behind the name, or behind the name and an `s`. -/
def StandsBehind (i : Nat) (q name : List Char) : Prop :=
  isBoundary (q.take i).getLast? (q.drop i) = true ∧
    standsAt (q.take i).getLast? (q.drop i) name = true

instance (i : Nat) (q name : List Char) : Decidable (StandsBehind i q name) :=
  inferInstanceAs (Decidable (_ ∧ _))

/-- The name that is found behind so many characters, if the search gets there. -/
theorem nameAt?_eq_some_iff {names : List (List Char)} {i : Nat} {q name : List Char} :
    nameAt? names (q.take i).getLast? (q.drop i) = some name ↔
      StandsBehind i q name ∧ ∃ before after, names = before ++ name :: after ∧
        ∀ other ∈ before, ¬StandsBehind i q other := by
  by_cases boundary : isBoundary (q.take i).getLast? (q.drop i) = true
  · simp [nameAt?, boundary, StandsBehind, List.find?_eq_some_iff_append]
  · simp [nameAt?, boundary, StandsBehind]

theorem firstName?_behind {names : List (List Char)} {i : Nat} {q : List Char}
    (inside : i < q.length) :
    firstName? names (q.take i).getLast? (q.drop i) =
      (nameAt? names (q.take i).getLast? (q.drop i)).or
        (firstName? names (q.take (i + 1)).getLast? (q.drop (i + 1))) := by
  rw [List.drop_eq_getElem_cons inside, firstName?, List.take_succ_eq_append_getElem inside,
    List.getLast?_concat]

theorem firstName?_of_nameAt? {names : List (List Char)} {before : Option Char}
    {s name : List Char} (here : nameAt? names before s = some name) :
    firstName? names before s = some name := by
  cases s with
  | nil => exact here
  | cons c r => rw [firstName?, here, Option.some_or]

/-- A name is found if it stands somewhere, no name before it in the vocabulary stands there, and
no other name stands anywhere earlier. -/
theorem firstName?_eq_some {names : List (List Char)} {q name : List Char} {k : Nat}
    (inside : k ≤ q.length)
    (here : nameAt? names (q.take k).getLast? (q.drop k) = some name)
    (earlier : ∀ i < k, ∀ other ∈ names, StandsBehind i q other → other = name) :
    firstName? names none q = some name := by
  suffices fromPlace : ∀ n i, i + n = k →
      firstName? names (q.take i).getLast? (q.drop i) = some name from
    fromPlace k 0 (Nat.zero_add k)
  intro n
  induction n with
  | zero =>
    rintro i rfl
    exact firstName?_of_nameAt? here
  | succ n ih =>
    intro i sum
    have inside' : i < q.length := by omega
    rw [firstName?_behind inside', ih (i + 1) (by omega)]
    cases found : nameAt? names (q.take i).getLast? (q.drop i) with
    | none => rfl
    | some other =>
      obtain ⟨stands, before, after, cut, _⟩ := nameAt?_eq_some_iff.mp found
      rw [earlier i (by omega) other (by simp [cut]) stands]
      rfl

/-! ### A name between words -/

/-- A name begins and ends with a character of a word. -/
structure IsWordBounded (name : List Char) : Prop where
  first : name.head?.any isWordChar = true
  last : name.getLast?.any isWordChar = true

instance (name : List Char) : Decidable (IsWordBounded name) :=
  decidable_of_iff (name.head?.any isWordChar = true ∧ name.getLast?.any isWordChar = true)
    ⟨fun ⟨first, last⟩ => ⟨first, last⟩, fun ⟨first, last⟩ => ⟨first, last⟩⟩

theorem IsWordBounded.standsBehind {a name t : List Char} (bounded : IsWordBounded name)
    (outside : a.getLast?.any isWordChar = false) (ends : EndsRun t) :
    StandsBehind a.length (a ++ (name ++ t)) name := by
  have after : afterKeyword? (· == ·) name (name ++ t) = some t :=
    (afterKeyword?_beq_iff _ _ _).mpr rfl
  have begins : (name ++ t).head?.any isWordChar = true := by
    cases name with
    | nil => cases bounded.first
    | cons c r => exact bounded.first
  have ending (before : Option Char) : isBoundary (name.getLast?.or before) t = true := by
    cases last : name.getLast? with
    | none => simpa [last] using bounded.last
    | some c =>
      have char : isWordChar c = true := by simpa [last] using bounded.last
      simp [isBoundary, char, ends.any]
  rw [StandsBehind, List.take_left, List.drop_left]
  refine ⟨?_, ?_⟩
  · rw [isBoundary, outside, begins]
    rfl
  · rw [standsAt, after]
    simp only [ending, Bool.or_true]

/-- No other name of a vocabulary comes before the one that stands behind so many characters:
neither earlier in the text, nor at the same place and earlier in the vocabulary. -/
structure Leads (names : List (List Char)) (i : Nat) (q name : List Char) : Prop where
  earlier : ∀ j < i, ∀ other ∈ names, StandsBehind j q other → other = name
  alone : ∀ other ∈ names.takeWhile (· ≠ name), ¬StandsBehind i q other

theorem exists_cut_at_name {names : List (List Char)} {name : List Char} (member : name ∈ names) :
    ∃ after, names = names.takeWhile (· ≠ name) ++ name :: after := by
  induction names with
  | nil => cases member
  | cons other rest ih =>
    by_cases same : other = name
    · exact ⟨rest, by simp [same]⟩
    · obtain ⟨after, cut⟩ := ih ((List.mem_cons.mp member).resolve_left (Ne.symm same))
      refine ⟨after, ?_⟩
      rw [List.takeWhile_cons_of_pos (by simpa using same), List.cons_append, ← cut]

-- A name that stands somewhere and that no other name comes before is found.
theorem Leads.productOf? {names : List (List Char)} {i : Nat} {q name : List Char}
    (leads : Leads names i q name) (inside : i ≤ q.length) (member : name ∈ names)
    (stands : StandsBehind i q name) : productOf? names q = some name := by
  obtain ⟨after, cut⟩ := exists_cut_at_name member
  have here : nameAt? names (q.take i).getLast? (q.drop i) = some name :=
    nameAt?_eq_some_iff.mpr ⟨stands, _, after, cut, leads.alone⟩
  have nonempty : names.isEmpty = false := by
    rw [List.isEmpty_eq_false_iff]
    exact List.ne_nil_of_mem member
  rw [Question.productOf?, nonempty]
  exact firstName?_eq_some inside here leads.earlier

/-! ### Questions for a product in a region -/

/-- The question how many of a product were sold in a region. The product stands behind nine
characters. -/
def howMany (product region : String) : String :=
  "how many " ++ product ++ " in " ++ region

theorem lower_howMany (product region : String) :
    lower (howMany product region).toList =
      "how many ".toList ++ (lower product.toList ++ (" in ".toList ++ lower region.toList)) := by
  have spaced : (howMany product region).toList =
      "how".toList ++ ' ' :: ("many".toList ++ ' ' :: (product.toList ++ ' ' ::
        ("in".toList ++ ' ' :: region.toList))) := by
    simp [howMany]
  have how : lower "how".toList = "how".toList := by decide
  have many : lower "many".toList = "many".toList := by decide
  have within : lower "in".toList = "in".toList := by decide
  rw [spaced]
  simp only [lower_append_space, how, many, within]
  simp

section

variable {names : List String} {product : String} {region : String}

theorem product?_howMany (member : product ∈ names) (bounded : IsWordBounded (lower product.toList))
    (leads : Leads (names.map fun name => lower name.toList) 9
      (lower (howMany product region).toList) (lower product.toList)) :
    product? (names.map String.lowered) (howMany product region) = some product.lowered := by
  have stands : StandsBehind 9 (lower (howMany product region).toList) (lower product.toList) := by
    have ends : EndsRun (" in ".toList ++ lower region.toList) := by
      rintro c ⟨⟩
      decide
    rw [lower_howMany]
    exact bounded.standsBehind (a := "how many ".toList) (by decide) ends
  have inside : 9 ≤ (lower (howMany product region).toList).length := by
    rw [lower_howMany, List.length_append]
    exact Nat.le_add_right ..
  have lowered : (names.map String.lowered).map String.toList =
      names.map fun name => lower name.toList := by
    simp [String.lowered]
  rw [product?, lowered, leads.productOf? inside (List.mem_map_of_mem member) stands]
  rfl

theorem regions?_howMany (closed : ¬Opens (lower product.toList ++ " in".toList)) :
    regions? (howMany product region) = some [region.lowered] ↔
      IsPlain (lower region.toList) := by
  rw [regions?, Option.map_eq_some_iff]
  constructor
  · rintro ⟨ns, found, one⟩
    obtain ⟨n, rfl, same⟩ := List.map_eq_singleton_iff.mp one
    obtain rfl : n = lower region.toList := String.ofList_injective same
    exact isPlain_of_regionsOf? found _ List.mem_cons_self
  · intro plain
    refine ⟨[lower region.toList], ?_, rfl⟩
    have closed' : ¬Opens ("how many ".toList ++ lower product.toList ++ [' '] ++ ['i']) := by
      intro opened
      rw [List.append_assoc, List.append_assoc] at opened
      refine closed ((opened.of_append (by decide)).mono ?_)
      exact (List.prefix_append _ ['n']).isInfix.trans (by simp)
    have found := regionsOf?_of_isPlain closed' plain
    rw [lower_howMany]
    simpa using found

theorem apply_of_product_region {f : FilterSet} (ofProduct : f.product = some product)
    (ofRegion : f.region = some [region]) (sales : List Sale) :
    f.apply (sales.map Sale.row) = .ok ((sales.filter fun sale =>
      sale.product.lowered = product ∧ sale.region.lowered = region).map Sale.row) := by
  rw [FilterSet.apply_sales, FilterSet.matching]
  congr 2
  refine List.filter_congr fun sale _ => ?_
  simp [FilterSet.Admits, ofProduct, ofRegion, and_comm]

/-- In a question for a product of the catalog in a region, the product is found if its name begins
and ends like a word and no other product comes before it. The region is found exactly if its name
is plain, unless the name of the product opens a list. Where both are found, the question is about
the rows of the two. -/
theorem filters_howMany {catalog : Catalog} (vocabulary : catalog.products = names.map .text)
    (member : product ∈ names) (region : String) :
    ∃ f, filters (howMany product region) catalog = .ok f ∧
      (IsWordBounded (lower product.toList) →
        Leads (names.map fun name => lower name.toList) 9
          (lower (howMany product region).toList) (lower product.toList) →
        f.product = some product.lowered) ∧
      (¬Opens (lower product.toList ++ " in".toList) →
        (f.region = some [region.lowered] ↔ IsPlain (lower region.toList))) ∧
      (f.product = some product.lowered → f.region = some [region.lowered] →
        ∀ sales : List Sale, f.apply (sales.map Sale.row) = .ok ((sales.filter fun sale =>
          sale.product.lowered = product.lowered ∧ sale.region.lowered = region.lowered).map
            Sale.row)) :=
  ⟨_, filters_eq vocabulary _, product?_howMany member, regions?_howMany, apply_of_product_region⟩

end

/-- The catalog of the table of sales, with other products and regions. -/
def catalogOf (products regions : List String) : Catalog :=
  { Catalog.sales with products := products.map .text, regions := regions.map .text }

theorem filters_howMany_phone_case :
    ∃ f, filters (howMany "Phone Case" "New York")
        (catalogOf ["Phone Case", "Phone"] ["New York"]) = .ok f ∧
      f.product = some "phone case" ∧ f.region = some ["new york"] := by
  have plain : IsPlain (lower "New York".toList) := by decide +kernel
  have leads : Leads (["Phone Case", "Phone"].map fun name => lower name.toList) 9
      (lower (howMany "Phone Case" "New York").toList) (lower "Phone Case".toList) :=
    ⟨by decide +kernel, by decide +kernel⟩
  have vocabulary : (catalogOf ["Phone Case", "Phone"] ["New York"]).products =
      ["Phone Case", "Phone"].map .text := rfl
  obtain ⟨f, found, product, region, _⟩ :=
    filters_howMany vocabulary List.mem_cons_self "New York"
  exact ⟨f, found, product (by decide +kernel) leads, (region (by decide +kernel)).mpr plain⟩

theorem filters_catalogOf {products regions : List String} {question : String} {f : FilterSet}
    (region : regions? question = f.region)
    (product : product? (products.map String.lowered) question = f.product) :
    filters question (catalogOf products regions) = .ok f := by
  have vocabulary : (catalogOf products regions).products = products.map .text := rfl
  rw [filters_eq vocabulary, region, product]

-- A digit ends a list, a sign ends no word, a name is hidden by one before it in the vocabulary,
-- and the name of a product can open a list.
theorem filters_howMany_hidden :
    filters (howMany "Laptop" "Zone 1") (catalogOf ["Laptop"] ["Zone 1"]) =
      .ok { product := some "laptop", region := some ["zone"] } ∧
    filters (howMany "C++" "North") (catalogOf ["C++"] ["North"]) =
      .ok { product := none, region := some ["north"] } ∧
    filters (howMany "Phone Case" "North") (catalogOf ["Phone", "Phone Case"] ["North"]) =
      .ok { product := some "phone", region := some ["north"] } ∧
    filters (howMany "Cabin" "North") (catalogOf ["Cabin"] ["North"]) =
      .ok { product := some "cabin", region := some ["in north"] } :=
  ⟨filters_catalogOf (by decide +kernel) (by decide +kernel),
    filters_catalogOf (by decide +kernel) (by decide +kernel),
    filters_catalogOf (by decide +kernel) (by decide +kernel),
    filters_catalogOf (by decide +kernel) (by decide +kernel)⟩

end TableTalk.Question
