import TableTalk.Proofs.Literals

/-!
# TableTalk.Proofs.Quoting

Where literals end. The quote that ends a literal may stand between quotes of its text and quotes
that follow it, and nothing but their number tells it from them: the text gives quotes in pairs, so
that the last quote of the first odd run is the one that ends the literal.

## Main result

- `quoteLiteral_selfDelimiting`: a literal is read up to its own end and no further, and so is a
  list of literals with its parenthesis, whatever the texts in them are.

## Proof strategy

The readers of `Proofs.Literals` take lists of characters, and what they return is known for every
text; here it is moved to strings. A run of quotes is followed two quotes at a time.
-/

namespace TableTalk

namespace PseudoQuery

open Text

/-! ### Runs of quotes -/

/-- A run of quotes inside a literal is one of half as many in its text; if their number is odd, the
last one ends the literal. -/
theorem readInside?_run (n : Nat) {r : List Char} (ends : NoQuote r) :
    readInside? (List.replicate n '\x27' ++ r) =
      if n % 2 = 1 then some (List.replicate (n / 2) '\x27', r)
      else (readInside? r).map fun (more, rest) =>
        (List.replicate (n / 2) '\x27' ++ more, rest) := by
  -- The reader takes quotes in pairs, and so does the induction.
  induction n using Nat.twoStepInduction with
  | zero => simp
  | one => exact readInside?_doubled [] ends
  | more n ih _ =>
    have half : (n + 2) / 2 = n / 2 + 1 := by omega
    rw [List.replicate_succ, List.replicate_succ, List.cons_append, List.cons_append, readInside?,
      ih, Nat.add_mod_right, half, List.replicate_succ]
    split
    · rfl
    · rw [Option.map_map]
      rfl

/-- With an even number of quotes behind it, a literal ends behind them, and half of them are in its
text. With an odd number it does not end there: it goes on as if it began there. -/
theorem readLiteral?_run (s : List Char) (n : Nat) {r : List Char} (ends : NoQuote r) :
    readLiteral? (literal s ++ (List.replicate n '\x27' ++ r)) =
      if n % 2 = 0 then some (s ++ List.replicate (n / 2) '\x27', r)
      else (readLiteral? ('\x27' :: r)).map fun (more, rest) =>
        (s ++ List.replicate ((n + 1) / 2) '\x27' ++ more, rest) := by
  -- The quote at the end of the literal is one more of the run.
  have run : literal s ++ (List.replicate n '\x27' ++ r) =
      '\x27' :: (doubled s ++ (List.replicate (n + 1) '\x27' ++ r)) := by
    rw [literal_append, List.replicate_succ, List.cons_append]
  rw [run, readLiteral?, readLiteral?, readInside?_append, readInside?_run _ ends]
  by_cases even : n % 2 = 0
  · have odd : (n + 1) % 2 = 1 := by omega
    have half : (n + 1) / 2 = n / 2 := by omega
    rw [if_pos even, if_pos odd, half]
    rfl
  · have odd : (n + 1) % 2 ≠ 1 := by omega
    rw [if_neg even, if_neg odd, Option.map_map]
    simp only [Function.comp_def, List.append_assoc]

/-! ### Quoted strings as characters -/

theorem toList_quoteLiteral (s : String) : (quoteLiteral s).toList = literal s.toList :=
  String.toList_ofList

theorem toList_quotedNames (names : List String) :
    (", ".intercalate (names.map quoteLiteral)).toList =
      join [',', ' '] ((names.map String.toList).map literal) := by
  have quoted : String.toList ∘ quoteLiteral = literal ∘ String.toList :=
    funext toList_quoteLiteral
  rw [String.toList_intercalate, join_eq_intercalate, List.map_map, List.map_map, quoted]
  rfl

end PseudoQuery

open PseudoQuery

/-! ### Strings -/

/-- The text of the literal at the front of a string, and what stands behind the literal. -/
def unquoteLiteral? (t : String) : Option (String × String) :=
  (readLiteral? t.toList).map fun (s, r) => (.ofList s, .ofList r)

/-- The texts of the literals at the front of a string, up to the parenthesis behind them, and what
stands behind the parenthesis. -/
def unquoteNames? (t : String) : Option (List String × String) :=
  (readNames? t.toList).map fun (names, r) => (names.map .ofList, .ofList r)

/-- A run of quotes. -/
def quotes (n : Nat) : String :=
  .ofList (List.replicate n '\x27')

theorem unquoteLiteral?_eq_some_iff (t s r : String) :
    unquoteLiteral? t = some (s, r) ↔ t = quoteLiteral s ++ r ∧ NoQuote r.toList := by
  have cut : t = quoteLiteral s ++ r ↔ t.toList = literal s.toList ++ r.toList := by
    rw [← String.toList_inj, String.toList_append, toList_quoteLiteral]
  rw [cut, ← readLiteral?_eq_some_iff, unquoteLiteral?, Option.map_eq_some_iff]
  constructor
  · rintro ⟨⟨s', r'⟩, found, same⟩
    obtain ⟨rfl, rfl⟩ := Prod.mk.inj same
    rwa [String.toList_ofList, String.toList_ofList]
  · intro found
    exact ⟨_, found, by simp⟩

theorem unquoteLiteral?_run (s : String) (n : Nat) {r : String} (ends : NoQuote r.toList) :
    unquoteLiteral? (quoteLiteral s ++ (quotes n ++ r)) =
      if n % 2 = 0 then some (s ++ quotes (n / 2), r)
      else (unquoteLiteral? ("'" ++ r)).map fun (more, rest) =>
        (s ++ quotes ((n + 1) / 2) ++ more, rest) := by
  have run : (quoteLiteral s ++ (quotes n ++ r)).toList =
      literal s.toList ++ (List.replicate n '\x27' ++ r.toList) := by
    rw [String.toList_append, String.toList_append, toList_quoteLiteral, quotes,
      String.toList_ofList]
  have opened : ("'" ++ r).toList = '\x27' :: r.toList := String.toList_append
  rw [unquoteLiteral?, unquoteLiteral?, run, opened, readLiteral?_run _ _ ends]
  split
  · simp [quotes]
  · rw [Option.map_map, Option.map_map]
    simp only [quotes, Function.comp_def, String.ofList_append, String.ofList_toList]

theorem unquoteNames?_eq_some_iff (t r : String) (names : List String) :
    unquoteNames? t = some (names, r) ↔
      t = ", ".intercalate (names.map quoteLiteral) ++ ")" ++ r := by
  have cut : t = ", ".intercalate (names.map quoteLiteral) ++ ")" ++ r ↔
      t.toList =
        Text.join [',', ' '] ((names.map String.toList).map literal) ++ ')' :: r.toList := by
    rw [← String.toList_inj, String.toList_append, String.toList_append, toList_quotedNames,
      List.append_assoc]
    rfl
  rw [cut, ← readNames?_eq_some_iff, unquoteNames?, Option.map_eq_some_iff]
  constructor
  · rintro ⟨⟨names', r'⟩, found, same⟩
    obtain ⟨rfl, rfl⟩ := Prod.mk.inj same
    simpa using found
  · intro found
    exact ⟨_, found, by simp⟩

-- The clause on the regions comes first, whatever the product is.
theorem head?_clauses (names : List String) (product : Option String) :
    ({ region := some names, product } : FilterSet).clauses.head? =
      some ("region IN (" ++ (", ".intercalate (names.map quoteLiteral) ++ ")")) := by
  have written : String.ofList (regionClause names) =
      "region IN (" ++ (", ".intercalate (names.map quoteLiteral) ++ ")") := by
    rw [← String.toList_inj, String.toList_ofList, String.toList_append, String.toList_append,
      toList_quotedNames, ← List.append_nil (regionClause names), regionClause_append]
    rfl
  exact congrArg some written

/-! ### Main result -/

/-- A literal is read as its text, with what stands behind it left, exactly if no quote stands
behind it. An even number of quotes behind it belong to the literal as half as many of its text,
and behind an odd number the literal goes on. A list of literals is read up to the parenthesis
behind it, with anything left, and so is the clause on the regions of any filters. -/
theorem quoteLiteral_selfDelimiting :
    (∀ t s r : String,
      unquoteLiteral? t = some (s, r) ↔ t = quoteLiteral s ++ r ∧ NoQuote r.toList) ∧
    (∀ (s : String) (n : Nat) (r : String), NoQuote r.toList →
      unquoteLiteral? (quoteLiteral s ++ (quotes n ++ r)) =
        if n % 2 = 0 then some (s ++ quotes (n / 2), r)
        else (unquoteLiteral? ("'" ++ r)).map fun (more, rest) =>
          (s ++ quotes ((n + 1) / 2) ++ more, rest)) ∧
    (∀ (t r : String) (names : List String),
      unquoteNames? t = some (names, r) ↔
        t = ", ".intercalate (names.map quoteLiteral) ++ ")" ++ r) ∧
    ∀ (names : List String) (product : Option String), ∃ t,
      ({ region := some names, product } : FilterSet).clauses.head? = some ("region IN (" ++ t) ∧
        unquoteNames? t = some (names, "") := by
  refine ⟨unquoteLiteral?_eq_some_iff, fun s n _ ends => unquoteLiteral?_run s n ends,
    unquoteNames?_eq_some_iff, ?_⟩
  intro names product
  refine ⟨_, head?_clauses names product, ?_⟩
  exact (unquoteNames?_eq_some_iff _ _ _).mpr String.append_empty.symm

/-- Texts of quotes only, and a text that imitates the end of a literal and the next one. -/
theorem quoteLiteral_selfDelimiting_quotes :
    NoQuote ") x".toList ∧
    unquoteLiteral? (quoteLiteral "''" ++ ") x") = some ("''", ") x") ∧
    unquoteLiteral? (quoteLiteral "''" ++ (quotes 2 ++ ") x")) = some ("'''", ") x") ∧
    unquoteNames? "'''''', '', ''', ''')" = some (["''", "", "', '"], "") := by
  have ends : NoQuote ") x".toList := by
    rw [NoQuote]
    decide
  obtain ⟨single, runs, list, -⟩ := quoteLiteral_selfDelimiting
  exact ⟨ends, (single _ _ _).mpr ⟨rfl, ends⟩, runs "''" 2 ") x" ends,
    (list _ _ _).mpr (by decide)⟩

end TableTalk
