import TableTalk.Proofs.Answers
import TableTalk.Proofs.Cues
import TableTalk.Proofs.Regions
import TableTalk.Proofs.Products

/-!
# TableTalk.Proofs.Phrasing

Intents put into words, and found in them again.

## Main result

- `Service.ask_phrasing`: the question that phrases an intent in the canonical way, in letters of
  any case, is understood as this intent and answered with what it comes to.

## Proof strategy

The three parts of an intent are looked for in all of the question, so that for each it has to be
shown that the words for the other two do not count: no cue lies in a noun, in a list or across two
words (`operationOf_text`), no list begins before the `in` of the phrasing (`regionsOf?_text`), and
the first product is the noun (`productOf?_text`).
-/

namespace TableTalk.Question

open Text

/-! ### Phrasings -/

/-- The words for an operation. -/
def cueOf : Operation → List Char
  | .select => "show".toList
  | .sum => "total".toList
  | .count => "how many".toList
  | .average => "average".toList

/-- What joins two names of a list. -/
inductive Joint where
  | comma
  | and
  | or
  deriving DecidableEq, Repr

/-- A joint with its spaces. -/
def Joint.text : Joint → List Char
  | comma => ", ".toList
  | and => " and ".toList
  | or => " or ".toList

/-- Names with joints between them. -/
def listed (first : List Char) : List (Joint × List Char) → List Char
  | [] => first
  | (joint, name) :: more => first ++ (joint.text ++ listed name more)

/-- Words of a name with single spaces between them. -/
def IsSpaced (n : List Char) : Prop :=
  ∃ ws, ws ≠ [] ∧ (∀ w ∈ ws, IsNameWord w) ∧ n = join [' '] ws

/-- An intent on the table of sales, with the choices that its words leave open. -/
structure Phrasing where
  operation : Operation
  -- The product, and whether it is named in plural.
  product : Option (String × Bool)
  -- The first region, and the others with what joins each to the one before.
  regions : Option (List Char × List (Joint × List Char))

/-- The products of the catalog of sales in lower case. -/
def vocabulary : List String := ["laptop", "phone", "tablet"]

namespace Phrasing

/-- The names of the regions. -/
def names (p : Phrasing) : List (List Char) :=
  match p.regions with
  | none => []
  | some (first, more) => first :: more.map (·.2)

/-- The words for the product, or for all products. -/
def noun (p : Phrasing) : List Char :=
  match p.product with
  | none => "sales".toList
  | some (name, plural) => name.toList ++ if plural then ['s'] else []

/-- The words for the regions. -/
def tail (p : Phrasing) : List Char :=
  match p.regions with
  | none => []
  | some (first, more) => ' ' :: ("in".toList ++ ' ' :: listed first more)

/-- The phrasing in small letters. -/
def text (p : Phrasing) : List Char :=
  cueOf p.operation ++ ' ' :: (p.noun ++ p.tail)

/-- What is phrased. -/
def intent (p : Phrasing) : QueryIntent where
  sourceTable := "sales"
  operation := p.operation
  filters := {
    region := p.regions.map fun _ => p.names.map .ofList
    product := p.product.map (·.1) }

/-- The words of a phrasing are those of one intent only: its regions are named by letters and
single spaces, name no operation, and name no product unless a product comes first. -/
structure IsCanonical (p : Phrasing) : Prop where
  product : ∀ name plural, p.product = some (name, plural) → name ∈ vocabulary
  spaced : ∀ n ∈ p.names, IsSpaced n
  noCue : ∀ n ∈ p.names, ∀ cue ∈ ["total", "how many", "average"], ¬cue.toList <:+: n
  noProduct : p.product = none → ∀ n ∈ p.names, ∀ w ∈ words n, ∀ name ∈ vocabulary,
    w ≠ name.toList ∧ w ≠ name.toList ++ ['s']

end Phrasing

variable {p : Phrasing}

/-! ### Regions -/

theorem isName_join {ws : List (List Char)} (some : ws ≠ []) (words : ∀ w ∈ ws, IsNameWord w) :
    IsName (join [' '] ws) := by
  induction ws with
  | nil => exact absurd rfl some
  | cons w ws ih =>
    have word := words w List.mem_cons_self
    cases ws with
    | nil => exact .word word
    | cons v vs =>
      have rest := ih (by simp) fun u member => words u (List.mem_cons_of_mem _ member)
      rw [join_cons [' '] w (by simp), List.append_assoc]
      exact .more word (by simp) (by decide) rest

theorem IsSpaced.isName {n : List Char} (spaced : IsSpaced n) : IsName n := by
  obtain ⟨ws, some, nameWords, rfl⟩ := spaced
  exact isName_join some nameWords

theorem Joint.isSeparator (joint : Joint) : IsSeparator joint.text := by
  cases joint with
  | comma => exact .commas (by decide) (by decide)
  | and => exact isSeparator_spaced (.inl rfl)
  | or => exact isSeparator_spaced (.inr rfl)

theorem lists_listed {first : List Char} {more : List (Joint × List Char)}
    (named : ∀ n ∈ first :: more.map (·.2), IsName n) :
    Lists (listed first more) (first :: more.map (·.2)) := by
  induction more generalizing first with
  | nil => exact .one (named first List.mem_cons_self)
  | cons item more ih =>
    have rest := ih fun n member => named n (List.mem_cons_of_mem _ member)
    exact .more (named first List.mem_cons_self) item.1.isSeparator rest

namespace Phrasing

/-- The words for all products. -/
def nouns : List (List Char) :=
  "sales".toList :: vocabulary.flatMap fun name => [name.toList, name.toList ++ ['s']]

theorem IsCanonical.noun_mem (canonical : p.IsCanonical) : p.noun ∈ nouns := by
  rw [noun]
  split
  · exact List.mem_cons_self
  next name plural given =>
    refine List.mem_cons_of_mem _ (List.mem_flatMap.mpr ⟨name, canonical.product _ _ given, ?_⟩)
    cases plural <;> simp

theorem cueOf_mem (operation : Operation) : cueOf operation ∈ Operation.all.map cueOf := by
  cases operation <;> decide

theorem not_introduces {a : List Char} (none : 'i' ∉ a) : ¬Introduces a := by
  rintro ⟨c, _, inside⟩
  exact none (inside.subset List.mem_cons_self)

-- The letter of `in` stands nowhere before that of the phrasing.
theorem IsCanonical.no_in (canonical : p.IsCanonical) :
    'i' ∉ cueOf p.operation ++ ' ' :: p.noun := by
  have cue : ∀ cue ∈ Operation.all.map cueOf, 'i' ∉ cue := by decide
  have noun : ∀ noun ∈ nouns, 'i' ∉ noun := by decide
  have noCue := cue _ (cueOf_mem p.operation)
  have noNoun := noun _ canonical.noun_mem
  simp [noCue, noNoun]

theorem regionsOf?_text (canonical : p.IsCanonical) :
    regionsOf? p.text = p.regions.map fun _ => p.names := by
  have before := canonical.no_in
  have spaced := canonical.spaced
  obtain ⟨operation, product, _ | ⟨first, more⟩⟩ := p
  · rw [text, tail, List.append_nil, regionsOf?_eq_none (not_introduces before)]
    rfl
  · have before' : 'i' ∉ cueOf operation ++ ' ' :: noun ⟨operation, product, _⟩ ++ [' '] :=
      List.not_mem_append before (by decide)
    have found := regionsOf?_of_lists (b := [' ']) (z := []) (not_introduces before') (by simp)
      (by decide) (lists_listed fun n member => (spaced n member).isName) (by simp)
    simpa [text, tail, names] using found

end Phrasing

/-! ### Cues -/

theorem not_infix_joined {t x w y : List Char} (cue : IsCue t) (left : ¬t <:+: x)
    (joins : w ∈ ["and".toList, "or".toList, "in".toList]) (right : ¬t <:+: y) :
    ¬t <:+: x ++ ' ' :: (w ++ ' ' :: y) := by
  have noCue : ∀ w ∈ ["and".toList, "or".toList, "in".toList],
      (∀ t ∈ cues.map (·.1.toList), ¬t <:+: w) ∧ ¬"how".toList <:+ w := by decide
  obtain ⟨inside, how⟩ := noCue w joins
  have many : ¬"many".toList <+: w ++ ' ' :: y := by
    simp only [List.mem_cons, List.not_mem_nil, or_false] at joins
    rcases joins with rfl | rfl | rfl <;> simp
  exact not_infix_spaced cue left (not_infix_spaced cue (inside t cue) right (.inl how)) (.inr many)

theorem not_infix_listed {t first : List Char} {more : List (Joint × List Char)} (cue : IsCue t)
    (noCue : ∀ n ∈ first :: more.map (·.2), ¬t <:+: n) : ¬t <:+: listed first more := by
  induction more generalizing first with
  | nil => exact noCue first List.mem_cons_self
  | cons item more ih =>
    obtain ⟨joint, name⟩ := item
    have here := noCue first List.mem_cons_self
    have rest := ih fun n member => noCue n (List.mem_cons_of_mem _ member)
    cases joint with
    | comma =>
      have empty : ¬t <:+: [] := by simpa using cue.ne_nil
      exact not_infix_comma cue here (not_infix_spaced cue empty rest (.inl (by decide)))
    | and => exact not_infix_joined (w := "and".toList) cue here (by simp) rest
    | or => exact not_infix_joined (w := "or".toList) cue here (by simp) rest

namespace Phrasing

-- No cue lies behind the words for the operation.
theorem IsCanonical.not_infix_rest (canonical : p.IsCanonical) {t : List Char} (cue : IsCue t) :
    ¬t <:+: p.noun ++ p.tail := by
  have noCue : ∀ noun ∈ nouns, ∀ t ∈ cues.map (·.1.toList), ¬t <:+: noun := by
    decide +kernel
  have here := noCue _ canonical.noun_mem t cue
  have apart := canonical.noCue
  obtain ⟨operation, product, _ | ⟨first, more⟩⟩ := p
  · rw [tail, List.append_nil]
    exact here
  · have list : ¬t <:+: listed first more := by
      refine not_infix_listed cue fun n member => ?_
      rcases cue.cases with rfl | rfl | rfl
      · exact apart n member "total" (by simp)
      · exact apart n member "how many" (by simp)
      · exact apart n member "average" (by simp)
    exact not_infix_joined (w := "in".toList) cue here (by simp) list

/-- The only cue of a phrasing is that of its operation. -/
theorem IsCanonical.infix_text_iff (canonical : p.IsCanonical) {t : List Char} (cue : IsCue t) :
    t <:+: p.text ↔ t = cueOf p.operation := by
  constructor
  · intro occurs
    by_contra other
    have apart : ∀ o ∈ Operation.all, ∀ t ∈ cues.map (·.1.toList),
        t ≠ cueOf o → ¬t <:+: cueOf o := by decide +kernel
    -- No noun begins like `many`, so no cue lies across the space before it.
    have many : ¬"many".toList <+: p.noun ++ p.tail := by
      have first : ∀ noun ∈ nouns, noun.head? ≠ some 'm' ∧ noun ≠ [] := by decide
      obtain ⟨noM, some⟩ := first _ canonical.noun_mem
      obtain ⟨c, r, cut⟩ := List.exists_cons_of_ne_nil some
      rw [cut] at noM ⊢
      intro begins
      obtain ⟨rfl, _⟩ := List.cons_prefix_cons.mp begins
      exact noM rfl
    have here := apart p.operation (by cases p.operation <;> decide) t cue other
    exact not_infix_spaced cue here (canonical.not_infix_rest cue) (.inr many) occurs
  · rintro rfl
    exact (List.prefix_append _ _).isInfix

theorem operationOf_text (canonical : p.IsCanonical) : operationOf p.text = p.operation := by
  have average : IsCue "average".toList := by simp [IsCue, cues]
  have many : IsCue "how many".toList := by simp [IsCue, cues]
  have total : IsCue "total".toList := by simp [IsCue, cues]
  simp only [operationOf_eq, canonical.infix_text_iff average, canonical.infix_text_iff many,
    canonical.infix_text_iff total]
  cases p.operation <;> decide

end Phrasing

/-! ### Products -/

/-- The names that are looked for. -/
def keywords : List (List Char) :=
  vocabulary.map String.toList

theorem wordNames_keywords : WordNames keywords := by
  have chars : ∀ name ∈ keywords, name ≠ [] ∧ ∀ c ∈ name, isWordChar c = true := by decide
  exact fun name member => ⟨(chars name member).1, (chars name member).2⟩

theorem isRun_of_letters {w : List Char} (nonempty : w ≠ [])
    (letters : ∀ c ∈ w, isLetter c = true) : IsRun w :=
  ⟨nonempty, fun c member => isWordChar_of_isLetter (letters c member)⟩

theorem nameOf?_eq_none {w : List Char}
    (other : ∀ name ∈ vocabulary, w ≠ name.toList ∧ w ≠ name.toList ++ ['s']) :
    nameOf? keywords w = none := by
  rw [nameOf?, List.find?_eq_none]
  intro keyword member
  obtain ⟨name, known, rfl⟩ := List.mem_map.mp member
  obtain ⟨singular, plural⟩ := other name known
  simp [Fits, singular, plural]

theorem isWordChar_space : isWordChar ' ' = false := by decide

theorem nameless_join {ws : List (List Char)} {t : List Char} (some : ws ≠ [])
    (words : ∀ w ∈ ws, IsNameWord w) (other : ∀ w ∈ ws, nameOf? keywords w = none)
    (behind : NamelessBehind keywords t) : Nameless keywords (join [' '] ws ++ t) := by
  induction ws with
  | nil => exact absurd rfl some
  | cons w ws ih =>
    have word := words w List.mem_cons_self
    have run := isRun_of_letters word.nonempty word.letters
    have here := other w List.mem_cons_self
    cases ws with
    | nil => exact behind.run wordNames_keywords run here
    | cons v vs =>
      have rest := ih (by simp) (fun u member => words u (List.mem_cons_of_mem _ member))
        fun u member => other u (List.mem_cons_of_mem _ member)
      rw [join_cons [' '] w (by simp), List.append_assoc, List.append_assoc]
      exact (rest.gap wordNames_keywords isWordChar_space).run wordNames_keywords run here

-- No name lies in a word between spaces that is not one.
theorem namelessBehind_joined {w t : List Char} (run : IsRun w) (other : nameOf? keywords w = none)
    (rest : Nameless keywords t) : NamelessBehind keywords (' ' :: (w ++ ' ' :: t)) :=
  ((rest.gap wordNames_keywords isWordChar_space).run wordNames_keywords run other).gap
    wordNames_keywords isWordChar_space

theorem Joint.namelessBehind (joint : Joint) {t : List Char} (rest : Nameless keywords t) :
    NamelessBehind keywords (joint.text ++ t) := by
  cases joint with
  | comma =>
    exact (rest.gap wordNames_keywords isWordChar_space).nameless.gap wordNames_keywords (by decide)
  | and =>
    have run : IsRun "and".toList := isRun_of_letters (by decide) (by decide)
    exact namelessBehind_joined run (by decide) rest
  | or =>
    have run : IsRun "or".toList := isRun_of_letters (by decide) (by decide)
    exact namelessBehind_joined run (by decide) rest

theorem IsSpaced.nameless {n t : List Char} (spaced : IsSpaced n)
    (other : ∀ w ∈ words n, nameOf? keywords w = none) (behind : NamelessBehind keywords t) :
    Nameless keywords (n ++ t) := by
  obtain ⟨ws, some, nameWords, rfl⟩ := spaced
  rw [words_join fun w member => (nameWords w member).isWord] at other
  exact nameless_join some nameWords other behind

theorem nameless_listed {first : List Char} {more : List (Joint × List Char)}
    (spaced : ∀ n ∈ first :: more.map (·.2), IsSpaced n)
    (other : ∀ n ∈ first :: more.map (·.2), ∀ w ∈ words n, nameOf? keywords w = none) :
    Nameless keywords (listed first more) := by
  induction more generalizing first with
  | nil =>
    rw [listed, ← List.append_nil first]
    exact (spaced first List.mem_cons_self).nameless (other first List.mem_cons_self)
      (namelessBehind_nil wordNames_keywords)
  | cons item more ih =>
    have rest := ih (fun n member => spaced n (List.mem_cons_of_mem _ member))
      fun n member => other n (List.mem_cons_of_mem _ member)
    exact (spaced first List.mem_cons_self).nameless (other first List.mem_cons_self)
      (item.1.namelessBehind rest)

namespace Phrasing

-- Without a product, the words for the regions name none.
theorem IsCanonical.namelessBehind_tail (canonical : p.IsCanonical) (absent : p.product = none) :
    NamelessBehind keywords p.tail := by
  have spaced := canonical.spaced
  have other := canonical.noProduct absent
  obtain ⟨operation, product, _ | ⟨first, more⟩⟩ := p
  · exact namelessBehind_nil wordNames_keywords
  · have run : IsRun "in".toList := isRun_of_letters (by decide) (by decide)
    exact namelessBehind_joined run (by decide)
      (nameless_listed spaced fun n member w inside => nameOf?_eq_none (other n member w inside))

theorem endsRun_tail (p : Phrasing) : EndsRun p.tail := by
  intro c first
  obtain ⟨operation, product, _ | ⟨_, _⟩⟩ := p
  · cases first
  · cases first
    exact isWordChar_space

-- No words for an operation are a name.
theorem firstName?_cueOf (operation : Operation) (t : List Char) :
    firstName? keywords none (cueOf operation ++ ' ' :: t) =
      firstName? keywords (some ' ') t := by
  have passed {before : Option Char} {w : List Char} (outside : before.any isWordChar = false)
      (nonempty : w ≠ []) (letters : ∀ c ∈ w, isLetter c = true)
      (other : nameOf? keywords w = none) (t : List Char) :
      firstName? keywords before (w ++ ' ' :: t) = firstName? keywords (some ' ') t := by
    have ends : EndsRun (' ' :: t) := by
      rintro c ⟨⟩
      exact isWordChar_space
    rw [firstName?_run wordNames_keywords outside (isRun_of_letters nonempty letters) ends, other,
      Option.none_or, firstName?_gap wordNames_keywords _ isWordChar_space]
  cases operation with
  | select => exact passed rfl (by decide) (by decide) (by decide) t
  | sum => exact passed rfl (by decide) (by decide) (by decide) t
  | average => exact passed rfl (by decide) (by decide) (by decide) t
  | count =>
    have how : firstName? keywords none ("how".toList ++ ' ' :: ("many".toList ++ ' ' :: t)) =
        firstName? keywords (some ' ') ("many".toList ++ ' ' :: t) :=
      passed rfl (by decide) (by decide) (by decide) _
    have many : firstName? keywords (some ' ') ("many".toList ++ ' ' :: t) =
        firstName? keywords (some ' ') t :=
      passed rfl (by decide) (by decide) (by decide) t
    exact how.trans many

theorem IsCanonical.nameOf?_noun (canonical : p.IsCanonical) :
    nameOf? keywords p.noun = p.product.map (·.1.toList) := by
  have known : ∀ name ∈ vocabulary, ∀ plural : Bool,
      nameOf? keywords (name.toList ++ if plural then ['s'] else []) = some name.toList := by decide
  have product := canonical.product
  obtain ⟨operation, _ | ⟨name, plural⟩, regions⟩ := p
  · have sales : nameOf? keywords "sales".toList = none := by decide
    exact sales
  · exact known name (product name plural rfl) plural

theorem IsCanonical.isRun_noun (canonical : p.IsCanonical) : IsRun p.noun := by
  have all : ∀ noun ∈ nouns, noun ≠ [] ∧ ∀ c ∈ noun, isLetter c = true := by decide
  obtain ⟨nonempty, letters⟩ := all _ canonical.noun_mem
  exact isRun_of_letters nonempty letters

theorem productOf?_text (canonical : p.IsCanonical) :
    productOf? keywords p.text = p.product.map (·.1.toList) := by
  have searched : productOf? keywords p.text = firstName? keywords none p.text := rfl
  have outside : (some ' ').any isWordChar = false := isWordChar_space
  rw [searched, text, firstName?_cueOf, firstName?_run wordNames_keywords outside
    canonical.isRun_noun (endsRun_tail p), canonical.nameOf?_noun]
  cases given : p.product with
  | none =>
    -- The noun is `sales`, and the search goes on through the regions.
    rw [(canonical.namelessBehind_tail given).none]
    rfl
  | some product => rfl

end Phrasing

/-! ### Letters -/

theorem ascii_join {ws : List (List Char)} (words : ∀ w ∈ ws, IsNameWord w) :
    ∀ c ∈ join [' '] ws, c.toNat < 128 := by
  induction ws with
  | nil => rintro c ⟨⟩
  | cons w ws ih =>
    have here : ∀ c ∈ w, c.toNat < 128 := by
      intro c member
      have := toNat_of_isLetter ((words w List.mem_cons_self).letters c member)
      omega
    have rest := ih fun v member => words v (List.mem_cons_of_mem _ member)
    cases ws with
    | nil => exact here
    | cons v vs =>
      rw [join_cons [' '] w (by simp)]
      intro c member
      simp only [List.append_assoc, List.mem_append, List.mem_singleton] at member
      rcases member with inside | rfl | inside
      · exact here c inside
      · decide
      · exact rest c inside

theorem ascii_listed {first : List Char} {more : List (Joint × List Char)}
    (spaced : ∀ n ∈ first :: more.map (·.2), IsSpaced n) :
    ∀ c ∈ listed first more, c.toNat < 128 := by
  have name {n : List Char} (spaced : IsSpaced n) : ∀ c ∈ n, c.toNat < 128 := by
    obtain ⟨ws, _, words, rfl⟩ := spaced
    exact ascii_join words
  induction more generalizing first with
  | nil => exact name (spaced first List.mem_cons_self)
  | cons item more ih =>
    have rest := ih fun n member => spaced n (List.mem_cons_of_mem _ member)
    have joint : ∀ c ∈ item.1.text, c.toNat < 128 := by
      cases item.1 <;> decide
    intro c member
    simp only [listed, List.mem_append] at member
    rcases member with inside | inside | inside
    · exact name (spaced first List.mem_cons_self) c inside
    · exact joint c inside
    · exact rest c inside

namespace Phrasing

theorem IsCanonical.ascii_text (canonical : p.IsCanonical) : ∀ c ∈ p.text, c.toNat < 128 := by
  have cue : ∀ cue ∈ Operation.all.map cueOf, ∀ c ∈ cue, c.toNat < 128 := by decide
  have noun : ∀ noun ∈ nouns, ∀ c ∈ noun, c.toNat < 128 := by decide
  have tail : ∀ c ∈ p.tail, c.toNat < 128 := by
    have spaced := canonical.spaced
    obtain ⟨operation, product, _ | ⟨first, more⟩⟩ := p
    · rintro c ⟨⟩
    · have list := ascii_listed spaced
      intro c member
      simp only [Phrasing.tail, List.mem_cons, List.mem_append] at member
      rcases member with rfl | inside | rfl | inside
      · decide
      · exact (by decide : ∀ c ∈ "in".toList, c.toNat < 128) c inside
      · decide
      · exact list c inside
  intro c member
  simp only [text, List.mem_append, List.mem_cons] at member
  rcases member with inside | rfl | inside | inside
  · exact cue _ (cueOf_mem p.operation) c inside
  · decide
  · exact noun _ canonical.noun_mem c inside
  · exact tail c inside

theorem IsCanonical.lower_eq (canonical : p.IsCanonical) {question : String}
    (spelled : question.toList.map Char.toLower = p.text) : lower question.toList = p.text :=
  lower_eq_of_map_toLower spelled canonical.ascii_text

/-- Extraction undoes phrasing. -/
theorem IsCanonical.intent_eq (canonical : p.IsCanonical) {question : String}
    (spelled : question.toList.map Char.toLower = p.text) :
    Question.intent question .sales = .ok p.intent := by
  have known : Catalog.sales.products = ["Laptop", "Phone", "Tablet"].map .text := rfl
  have lowered : ["Laptop", "Phone", "Tablet"].map String.lowered = vocabulary := by decide
  have lower := canonical.lower_eq spelled
  -- The three parts are looked for in all of the question, which is the phrasing in small letters.
  rw [Question.intent_eq rfl known, lowered, classify, regions?, product?, lower,
    operationOf_text canonical, regionsOf?_text canonical, ← keywords, productOf?_text canonical]
  simp [intent, Option.map_map, Function.comp_def]

theorem begins (p : Phrasing) : ∃ c r, p.text = c :: r ∧ isLetter c = true := by
  have all : ∀ cue ∈ Operation.all.map cueOf, cue.head?.any isLetter = true := by decide
  have first := all _ (cueOf_mem p.operation)
  rw [Option.any_eq_true] at first
  obtain ⟨c, first, letter⟩ := first
  obtain ⟨r, cut⟩ := List.head?_eq_some_iff.mp first
  exact ⟨c, r ++ ' ' :: (p.noun ++ p.tail), by rw [text, cut]; rfl, letter⟩

theorem IsCanonical.ends (canonical : p.IsCanonical) :
    ∃ r c, p.text = r ++ [c] ∧ isLetter c = true := by
  have spaced := canonical.spaced
  have noun := canonical.isRun_noun
  have letters : ∀ noun ∈ nouns, ∀ c ∈ noun, isLetter c = true := by decide
  have nounLetters := letters _ canonical.noun_mem
  obtain ⟨operation, product, _ | ⟨first, more⟩⟩ := p
  · rcases List.eq_nil_or_concat (Phrasing.noun ⟨operation, product, none⟩) with none | ⟨r, c, cut⟩
    · exact absurd none noun.nonempty
    · refine ⟨cueOf operation ++ ' ' :: r, c, ?_, nounLetters c (by simp [cut])⟩
      simp [text, tail, cut]
  · have lists := lists_listed fun n member => (spaced n member).isName
    obtain ⟨r, c, cut, letter⟩ := lists.ends_letter
    refine ⟨cueOf operation ++ ' ' :: (Phrasing.noun ⟨operation, product, some (first, more)⟩ ++
      ' ' :: ("in".toList ++ ' ' :: r)), c, ?_, letter⟩
    simp [text, tail, cut]

-- A question that spells a phrasing has no blanks at its ends.
theorem IsCanonical.normalise_eq (canonical : p.IsCanonical) {question : String}
    (spelled : question.toList.map Char.toLower = p.text) :
    normalise (.text question) = question := by
  have trimmed : trim question.toList = question.toList := by
    refine trim_eq_self ?_ ?_
    · obtain ⟨c, r, cut, letter⟩ := p.begins
      intro d first
      have same : (question.toList.map Char.toLower).head? = some d.toLower := by
        rw [List.head?_map, first]
        rfl
      rw [spelled, cut] at same
      cases same
      exact isBlank_of_isLetter_toLower letter
    · obtain ⟨r, c, cut, letter⟩ := canonical.ends
      intro d last
      have same : (question.toList.map Char.toLower).getLast? = some d.toLower := by
        rw [List.getLast?_map, last]
        rfl
      rw [spelled, cut, List.getLast?_concat] at same
      cases same
      exact isBlank_of_isLetter_toLower letter
  have shown := Service.normalise_ofText? (some question)
  rw [Option.getD_some, trimmed, String.ofList_toList] at shown
  exact shown

theorem nonblank (p : Phrasing) {question : String}
    (spelled : question.toList.map Char.toLower = p.text) : question ≠ "" := by
  obtain ⟨c, r, cut, _⟩ := p.begins
  rintro rfl
  rw [cut] at spelled
  cases spelled

end Phrasing

end TableTalk.Question

namespace TableTalk.Service

open Question

/-- The question that phrases an intent, in letters of any case, is understood as this intent, and
over every table of sales it is answered with what the intent comes to. -/
theorem ask_phrasing {p : Phrasing} (canonical : p.IsCanonical) {question : String}
    (spelled : question.toList.map Char.toLower = p.text) :
    (Question.extract question .sales).outcome = .ok p.intent ∧
    ∀ {c : Configuration} {given : Option Catalog} {store : Store} {sales : List Sale}
      {supply : Supply}, c.catalogOr given = .ok .sales → store.Holds "sales" sales →
      supply.clock.Works →
      ∃ answer, (ask c (some store) given (.text question) supply).1.outcome = .ok answer ∧
        answer.Tells question p.intent 5 sales := by
  have understood := canonical.intent_eq spelled
  refine ⟨(Question.outcome_extract _ _).trans understood, ?_⟩
  intro c given store sales supply found held works
  have whole := canonical.normalise_eq spelled
  have nonblank := p.nonblank spelled
  rw [← whole] at nonblank understood
  obtain ⟨answer, ok, tells⟩ := ask_tells nonblank found works understood held
  rw [whole] at tells
  exact ⟨answer, ok, tells⟩

/-- A question about sales in two regions, with capital letters. -/
theorem ask_phrasing_two_regions :
    let sales : List Sale := [⟨1, "Laptop", "New York", 300, .ofUnixSeconds 0⟩,
      ⟨2, "Phone", "South", 120, .ofUnixSeconds 60⟩]
    let store : Store := ⟨[("sales", sales.map Sale.row)]⟩
    let intent : QueryIntent := ⟨"sales", .count, { region := some ["new york", "north"] }⟩
    (Question.extract "How Many SALES in New York or North" .sales).outcome = .ok intent ∧
    ∃ answer,
      (ask {} (some store) none (.text "How Many SALES in New York or North") {}).1.outcome =
        .ok answer ∧
      answer.Tells "How Many SALES in New York or North" intent 5 sales := by
  intro sales store intent
  let p : Phrasing :=
    ⟨.count, none, some ("new york".toList, [(.or, "north".toList)])⟩
  have canonical : p.IsCanonical := by
    refine ⟨by rintro _ _ ⟨⟩, ?_, by decide +kernel, fun _ => by decide⟩
    intro n member
    have two : n ∈ ["new york".toList, "north".toList] := member
    rcases List.mem_cons.mp two with rfl | last
    · exact ⟨["new".toList, "york".toList], by simp, by decide, rfl⟩
    · rw [List.mem_singleton.mp last]
      exact ⟨["north".toList], by simp, by decide, rfl⟩
  have spelled : "How Many SALES in New York or North".toList.map Char.toLower = p.text := by
    decide
  have works : ({} : Supply).clock.Works := by
    rintro reading ⟨⟩
  obtain ⟨understood, answered⟩ := ask_phrasing canonical spelled
  exact ⟨understood, answered rfl rfl works⟩

end TableTalk.Service
