import TableTalk.Intent.Checking
import Mathlib.Data.List.Find
import Mathlib.Order.Basic

/-!
# TableTalk.Proofs.Faults

What is wrong with a JSON object that is to be filters or an intent.

## Main result

- `FilterSet.ofFields_faults`: filters are made exactly of the objects whose keys and values fit,
  and they are what the object says; else each fault is reported once, in order. Within an intent
  the same faults are reported, behind those of the table and the operation.

## Proof strategy

What counts as a fault is said without the checks, each fault with its rank (`FilterSet.Faulty`). A
report is the faults in the order of their ranks (`Reports`), and reports of parts that follow each
other are put together (`Reports.append`), as the checks put theirs together. What a check finds is
a list of faults that does not look at ranks (`Finds`); that this list is a report is shown for each
part (`FilterSet.reports_faults`), and so the objects that fit are those without a fault
(`FilterSet.fits_iff`).
-/

namespace TableTalk

/-! ### JSON values -/

def Value.isString : Value → Bool
  | .text _ => true
  | _ => false

/-- A value as a JSON text of characters gives it, in which no half of a pair stands alone. -/
inductive Value.IsJson : Value → Prop
  | null : IsJson .null
  | bool (b : Bool) : IsJson (.bool b)
  | number (n : Number) : IsJson (.number n)
  | text (s : String) : IsJson (.text s)
  | list {items : List Value} (each : ∀ v ∈ items, IsJson v) : IsJson (.list items)
  | object {fields : List (Scalar × Value)}
    (keys : ∀ field ∈ fields, (Value.scalar field.1).isString)
    (each : ∀ field ∈ fields, IsJson field.2) : IsJson (.object fields)

namespace Value

theorem IsJson.of_find? {fields : List (Scalar × Value)} (json : IsJson (.object fields))
    {key : String} {v : Value} (given : find? key fields = some v) : v.IsJson := by
  cases json with
  | object keys each =>
    obtain ⟨field, found, rfl⟩ := Option.map_eq_some_iff.mp given
    exact each field (List.mem_of_find?_eq_some found)

theorem eq_text_of_isString {v : Value} (string : v.isString) : v = .text v.display := by
  cases v with
  | scalar s =>
    cases s with
    | text s => exact congrArg Value.text (display_text s).symm
    | null | bool | number | torn | bytes | date | moment => cases string
  | list | pair | set | object | enclosing => cases string

end Value

/-! ### Checks -/

/-- A check gives a value, or else the faults that it finds. -/
def Finds {α : Type} (x : Checked α) (value : α) (faults : List Fault) : Prop :=
  faults = [] ∧ x = .ok value ∨ faults ≠ [] ∧ x = .error faults

namespace Finds

variable {α : Type} {x : Checked α} {value : α} {faults : List Fault}

theorem nothing : Finds (.ok value) value [] :=
  .inl ⟨rfl, rfl⟩

theorem faultsOf_eq (finds : Finds x value faults) : faultsOf x = faults := by
  rcases finds with ⟨none, rfl⟩ | ⟨_, rfl⟩
  · rw [none, faultsOf]
  · rw [faultsOf]

theorem ok_iff (finds : Finds x value faults) {a : α} :
    x = .ok a ↔ faults = [] ∧ a = value := by
  rcases finds with ⟨none, rfl⟩ | ⟨some, rfl⟩
  · simp [none, eq_comm]
  · simp [some]

theorem map {β : Type} (f : α → β) (finds : Finds x value faults) :
    Finds (x.map f) (f value) faults := by
  rcases finds with ⟨none, rfl⟩ | ⟨some, rfl⟩
  · exact .inl ⟨none, rfl⟩
  · exact .inr ⟨some, rfl⟩

end Finds

/-- The fault of a value that is no text. -/
def textFault? (place : List Step) (v : Value) : Option Fault :=
  if v.isString then none else some (.of .stringExpected place v)

theorem textFault?_eq_some {place : List Step} {v : Value} {fault : Fault} :
    textFault? place v = some fault ↔ v.isString = false ∧ fault = .of .stringExpected place v := by
  cases string : v.isString <;> simp [textFault?, string, eq_comm]

theorem finds_checkName {v : Value} (json : v.IsJson) (place : List Step) :
    Finds (checkName place v) v.display (textFault? place v).toList := by
  cases json with
  | text s => exact .inl ⟨rfl, rfl⟩
  | null | bool | number | list | object => exact .inr ⟨List.cons_ne_nil _ _, rfl⟩

/-! ### Reports -/

/-- Ranks in the order of the places that they stand for. -/
def Precedes : Nat × Nat → Nat × Nat → Prop :=
  Prod.Lex (· < ·) (· < ·)

/-- A report has each fault once, in the order of their ranks. -/
def Reports (faulty : Nat × Nat → Fault → Prop) (faults : List Fault) : Prop :=
  ∃ ranked : List ((Nat × Nat) × Fault), faults = ranked.map Prod.snd ∧
    (ranked.map Prod.fst).Pairwise Precedes ∧ ∀ r fault, (r, fault) ∈ ranked ↔ faulty r fault

namespace Reports

variable {faulty faulty' : Nat × Nat → Fault → Prop} {faults faults' : List Fault}

theorem congr (reports : Reports faulty faults)
    (same : ∀ r fault, faulty r fault ↔ faulty' r fault) :
    Reports faulty' faults := by
  obtain ⟨ranked, listed, sorted, members⟩ := reports
  exact ⟨ranked, listed, sorted, fun r fault => (members r fault).trans (same r fault)⟩

theorem append (reports : Reports faulty faults) (reports' : Reports faulty' faults')
    (before : ∀ r r' fault fault', faulty r fault → faulty' r' fault' → Precedes r r') :
    Reports (fun r fault => faulty r fault ∨ faulty' r fault) (faults ++ faults') := by
  obtain ⟨ranked, rfl, sorted, members⟩ := reports
  obtain ⟨ranked', rfl, sorted', members'⟩ := reports'
  refine ⟨ranked ++ ranked', by rw [List.map_append], ?_, fun r fault => ?_⟩
  · rw [List.map_append, List.pairwise_append]
    refine ⟨sorted, sorted', ?_⟩
    rintro r first r' second
    obtain ⟨⟨r, fault⟩, member, rfl⟩ := List.mem_map.mp first
    obtain ⟨⟨r', fault'⟩, member', rfl⟩ := List.mem_map.mp second
    exact before r r' fault fault' ((members r fault).mp member) ((members' r' fault').mp member')
  · rw [List.mem_append, members, members']

theorem eq_nil_iff (reports : Reports faulty faults) :
    faults = [] ↔ ∀ r fault, ¬faulty r fault := by
  obtain ⟨ranked, rfl, -, members⟩ := reports
  rw [List.map_eq_nil_iff, List.eq_nil_iff_forall_not_mem]
  exact ⟨fun none r fault faulty => none _ ((members r fault).mpr faulty),
    fun none ranked member => none _ _ ((members _ _).mp member)⟩

theorem none (none : ∀ r fault, ¬faulty r fault) : Reports faulty [] :=
  ⟨[], rfl, .nil, fun r fault => ⟨fun member => absurd member List.not_mem_nil,
    fun found => absurd found (none r fault)⟩⟩

theorem single (r : Nat × Nat) (fault : Fault) :
    Reports (fun r' fault' => r' = r ∧ fault' = fault) [fault] :=
  ⟨[(r, fault)], rfl, List.pairwise_singleton _ _, by simp⟩

theorem ofOption (r : Nat × Nat) (found : Option Fault) :
    Reports (fun r' fault => r' = r ∧ found = some fault) found.toList := by
  cases found with
  | none => exact .none fun r' fault => by simp
  | some fault => exact (single r fault).congr fun r' fault' => by simp [eq_comm]

end Reports

/-- The faults of items, each by its position. -/
def itemFaults {α : Type} (check : Nat → α → Option Fault) : Nat → List α → List Fault
  | _, [] => []
  | i, a :: rest => (check i a).toList ++ itemFaults check (i + 1) rest

/-- The faults of items are ranked by their positions. -/
theorem reports_itemFaults {α : Type} (k : Nat) (check : Nat → α → Option Fault) (items : List α)
    (position : Nat) :
    Reports (fun r fault => ∃ j a, items[j]? = some a ∧ r = (k, position + j) ∧
      check (position + j) a = some fault) (itemFaults check position items) := by
  induction items generalizing position with
  | nil => exact .none fun r fault => by simp
  | cons a rest ih =>
    refine ((Reports.ofOption (k, position) (check position a)).append (ih (position + 1))
      ?_).congr ?_
    · rintro _ _ _ _ ⟨rfl, -⟩ ⟨j, _, _, rfl, -⟩
      exact .right k (by omega)
    · intro r fault
      constructor
      · rintro (⟨rfl, found⟩ | ⟨j, b, item, rfl, found⟩)
        · exact ⟨0, a, rfl, rfl, found⟩
        · have place : position + 1 + j = position + (j + 1) := by omega
          exact ⟨j + 1, b, item, by rw [place], by rwa [← place]⟩
      · rintro ⟨j, b, item, rfl, found⟩
        cases j with
        | zero =>
          obtain rfl := Option.some.inj item
          exact .inl ⟨rfl, found⟩
        | succ j =>
          have place : position + 1 + j = position + (j + 1) := by omega
          exact .inr ⟨j, b, item, by rw [place], by rwa [place]⟩

theorem itemFaults_const {α : Type} (check : α → Option Fault) (items : List α) (position : Nat) :
    itemFaults (fun _ => check) position items = items.filterMap check := by
  induction items generalizing position with
  | nil => rfl
  | cons a rest ih =>
    rw [itemFaults, ih, List.filterMap_cons]
    cases check a <;> rfl

/-! ### Faults of filters -/

namespace FilterSet

/-- A fault of the fields of an object, and its rank: first those of the region, then that of the
product, then a fault for each other key. -/
inductive Faulty (fields : List (Scalar × Value)) : Nat × Nat → Fault → Prop
  | region {v : Value} (given : Value.find? "region" fields = some v) (some : v ≠ .null)
    (other : ∀ items, v ≠ .list items) : Faulty fields (0, 0) (.of .listExpected [.key "region"] v)
  | name {items : List Value} {i : Nat} {v : Value}
    (given : Value.find? "region" fields = some (.list items)) (item : items[i]? = some v)
    (other : v.isString = false) :
    Faulty fields (0, i) (.of .stringExpected [.key "region", .index i] v)
  | product {v : Value} (given : Value.find? "product" fields = some v) (some : v ≠ .null)
    (other : v.isString = false) : Faulty fields (1, 0) (.of .stringExpected [.key "product"] v)
  | unknown {key : Scalar} {i : Nat} {v : Value} (field : fields[i]? = some (key, v))
    (notRegion : key ≠ .text "region") (notProduct : key ≠ .text "product") :
    Faulty fields (2, i) (.of .unknownKey [.key (Value.scalar key).display] v)

theorem finds_checkNames {items : List Value} (json : ∀ v ∈ items, v.IsJson) (position : Nat) :
    Finds (checkNames position items) (items.map Value.display)
      (itemFaults (fun i => textFault? [.key "region", .index i]) position items) := by
  induction items generalizing position with
  | nil => exact .nothing
  | cons v others ih =>
    have first := finds_checkName (json v List.mem_cons_self) [.key "region", .index position]
    have rest := ih (fun w member => json w (List.mem_cons_of_mem v member)) (position + 1)
    rw [Finds, itemFaults, List.append_eq_nil_iff, checkNames]
    rcases first with ⟨none, first⟩ | ⟨some, first⟩ <;>
      rcases rest with ⟨none', rest⟩ | ⟨some', rest⟩ <;>
      simp [faultsOf, *]

/-- The faults of what is given as the region. -/
def regionFaults : Option Value → List Fault
  | none | some .null => []
  | some (.list items) => itemFaults (fun i => textFault? [.key "region", .index i]) 0 items
  | some v => [.of .listExpected [.key "region"] v]

/-- The faults of what is given as the product. -/
def productFaults : Option Value → List Fault
  | none | some .null => []
  | some v => (textFault? [.key "product"] v).toList

/-- The region that is given, if it has no fault. -/
def regionOf : Option Value → Option (List String)
  | some (.list items) => some (items.map Value.display)
  | _ => none

/-- The product that is given, if it has no fault. -/
def productOf : Option Value → Option String
  | none | some .null => none
  | some v => some v.display

theorem finds_checkRegion {given : Option Value} (json : ∀ v ∈ given, v.IsJson) :
    Finds (checkRegion given) (regionOf given) (regionFaults given) := by
  cases given with
  | none => exact .nothing
  | some v =>
    cases json v rfl with
    | null => exact .nothing
    | list each => exact (finds_checkNames each 0).map some
    | bool | number | text | object => exact .inr ⟨List.cons_ne_nil _ _, rfl⟩

theorem finds_checkProduct {given : Option Value} (json : ∀ v ∈ given, v.IsJson) :
    Finds (checkProduct given) (productOf given) (productFaults given) := by
  cases given with
  | none => exact .nothing
  | some v =>
    have text := (finds_checkName (json v rfl) [.key "product"]).map some
    cases json v rfl with
    | null => exact .nothing
    | list | bool | number | text | object => exact text

theorem finds_ofFields {fields : List (Scalar × Value)} (json : (Value.object fields).IsJson) :
    Finds (ofFields fields)
      { region := regionOf (Value.find? "region" fields)
        product := productOf (Value.find? "product" fields) }
      (regionFaults (Value.find? "region" fields) ++
        (productFaults (Value.find? "product" fields) ++ unknownKeys fields)) := by
  have region : Finds (checkRegion (Value.find? "region" fields)) _ _ :=
    finds_checkRegion fun v => json.of_find?
  have product : Finds (checkProduct (Value.find? "product" fields)) _ _ :=
    finds_checkProduct fun v => json.of_find?
  rw [Finds, List.append_eq_nil_iff, List.append_eq_nil_iff, ofFields]
  rcases region with ⟨none, region⟩ | ⟨some, region⟩ <;>
    rcases product with ⟨none', product⟩ | ⟨some', product⟩ <;>
    cases unknownKeys fields <;>
    simp [faultsOf, *]

section

variable (fields : List (Scalar × Value))

theorem reports_names {items : List Value}
    (given : Value.find? "region" fields = some (.list items)) :
    Reports (fun r fault => Faulty fields r fault ∧ r.1 = 0)
      (itemFaults (fun i => textFault? [.key "region", .index i]) 0 items) := by
  refine (reports_itemFaults 0 _ items 0).congr fun r fault => ⟨?_, ?_⟩
  · rintro ⟨i, v, item, rfl, found⟩
    obtain ⟨other, rfl⟩ := textFault?_eq_some.mp found
    rw [Nat.zero_add]
    exact ⟨.name given item other, rfl⟩
  · rintro ⟨faulty, first⟩
    cases faulty with
    | region given' some other =>
      cases given.symm.trans given'
      exact absurd rfl (other items)
    | @name _ i v given' item other =>
      cases given.symm.trans given'
      refine ⟨i, v, item, by rw [Nat.zero_add], textFault?_eq_some.mpr ⟨other, ?_⟩⟩
      rw [Nat.zero_add]
    | product => cases first
    | unknown => cases first

theorem reports_noList {v : Value} (given : Value.find? "region" fields = some v)
    (some : v ≠ .null) (other : ∀ items, v ≠ .list items) :
    Reports (fun r fault => Faulty fields r fault ∧ r.1 = 0)
      [.of .listExpected [.key "region"] v] := by
  refine (Reports.single (0, 0) _).congr fun r fault => ⟨?_, ?_⟩
  · rintro ⟨rfl, rfl⟩
    exact ⟨.region given some other, rfl⟩
  · rintro ⟨faulty, first⟩
    cases faulty with
    | region given' =>
      cases given.symm.trans given'
      exact ⟨rfl, rfl⟩
    | name given' =>
      cases given.symm.trans given'
      exact absurd rfl (other _)
    | product => cases first
    | unknown => cases first

/-- Nothing is wrong with a region that is not given. -/
theorem not_faulty_first (absent : ∀ v, Value.find? "region" fields = some v → v = .null)
    (r : Nat × Nat) (fault : Fault) : ¬(Faulty fields r fault ∧ r.1 = 0) := by
  rintro ⟨faulty, first⟩
  cases faulty with
  | region given some => exact some (absent _ given)
  | name given => cases absent _ given
  | product => cases first
  | unknown => cases first

theorem reports_regionFaults :
    Reports (fun r fault => Faulty fields r fault ∧ r.1 = 0)
      (regionFaults (Value.find? "region" fields)) := by
  cases given : Value.find? "region" fields with
  | none => exact .none (not_faulty_first fields fun v given' => by cases given.symm.trans given')
  | some v =>
    by_cases null : v = .null
    · subst null
      exact .none (not_faulty_first fields fun v given' => by cases given.symm.trans given'; rfl)
    by_cases list : ∃ items, v = .list items
    · obtain ⟨items, rfl⟩ := list
      exact reports_names fields given
    · have other : ∀ items, v ≠ .list items := fun items is => list ⟨items, is⟩
      rw [regionFaults.eq_4 v null other]
      exact reports_noList fields given null other

/-- Nothing is wrong with a product that is not given. -/
theorem not_faulty_second (absent : ∀ v, Value.find? "product" fields = some v → v = .null)
    (r : Nat × Nat) (fault : Fault) : ¬(Faulty fields r fault ∧ r.1 = 1) := by
  rintro ⟨faulty, second⟩
  cases faulty with
  | product given some => exact some (absent _ given)
  | region => cases second
  | name => cases second
  | unknown => cases second

theorem reports_productFaults :
    Reports (fun r fault => Faulty fields r fault ∧ r.1 = 1)
      (productFaults (Value.find? "product" fields)) := by
  cases given : Value.find? "product" fields with
  | none => exact .none (not_faulty_second fields fun v given' => by cases given.symm.trans given')
  | some v =>
    by_cases null : v = .null
    · subst null
      exact .none (not_faulty_second fields fun v given' => by cases given.symm.trans given'; rfl)
    rw [productFaults.eq_3 v null]
    refine (Reports.ofOption (1, 0) _).congr fun r fault => ⟨?_, ?_⟩
    · rintro ⟨rfl, found⟩
      obtain ⟨other, rfl⟩ := textFault?_eq_some.mp found
      exact ⟨.product given null other, rfl⟩
    · rintro ⟨faulty, second⟩
      cases faulty with
      | product given' some other =>
        cases given.symm.trans given'
        exact ⟨rfl, textFault?_eq_some.mpr ⟨other, rfl⟩⟩
      | region => cases second
      | name => cases second
      | unknown => cases second

/-- The fault of a field whose key filters do not have. -/
def unknownFault? (field : Scalar × Value) : Option Fault :=
  if field.1 ≠ .text "region" && field.1 ≠ .text "product" then
    some (.of .unknownKey [.key (Value.scalar field.1).display] field.2)
  else none

theorem unknownKeys_eq : unknownKeys fields = itemFaults (fun _ => unknownFault?) 0 fields := by
  rw [itemFaults_const, unknownKeys, ← List.filterMap_eq_map, List.filterMap_filter]
  rfl

theorem unknownFault?_eq_some {key : Scalar} {v : Value} {fault : Fault} :
    unknownFault? (key, v) = some fault ↔ (key ≠ .text "region" ∧ key ≠ .text "product") ∧
      fault = .of .unknownKey [.key (Value.scalar key).display] v := by
  rw [unknownFault?, Option.ite_none_right_eq_some, Option.some.injEq, Bool.and_eq_true,
    decide_eq_true_iff, decide_eq_true_iff, eq_comm (a := fault)]

theorem reports_unknownKeys :
    Reports (fun r fault => Faulty fields r fault ∧ r.1 = 2) (unknownKeys fields) := by
  rw [unknownKeys_eq]
  refine (reports_itemFaults 2 _ fields 0).congr fun r fault => ⟨?_, ?_⟩
  · rintro ⟨i, ⟨key, v⟩, field, rfl, found⟩
    obtain ⟨⟨notRegion, notProduct⟩, rfl⟩ := unknownFault?_eq_some.mp found
    rw [Nat.zero_add]
    exact ⟨.unknown field notRegion notProduct, rfl⟩
  · rintro ⟨faulty, third⟩
    cases faulty with
    | unknown field notRegion notProduct =>
      exact ⟨_, _, field, by rw [Nat.zero_add],
        unknownFault?_eq_some.mpr ⟨⟨notRegion, notProduct⟩, rfl⟩⟩
    | region => cases third
    | name => cases third
    | product => cases third

/-- The faults of the region, the product and the other keys together are those of the fields. -/
theorem reports_faults :
    Reports (Faulty fields) (regionFaults (Value.find? "region" fields) ++
      (productFaults (Value.find? "product" fields) ++ unknownKeys fields)) := by
  have before {r r' : Nat × Nat} (less : r.1 < r'.1) : Precedes r r' := .left r.2 r'.2 less
  have others := (reports_productFaults fields).append (reports_unknownKeys fields)
    fun r r' _ _ ⟨_, second⟩ ⟨_, third⟩ => before (by omega)
  refine ((reports_regionFaults fields).append others
    fun r r' _ _ ⟨_, first⟩ other => before ?_).congr fun r fault => ⟨?_, fun faulty => ?_⟩
  · obtain ⟨-, second⟩ | ⟨-, third⟩ := other <;> omega
  · rintro (⟨faulty, -⟩ | ⟨faulty, -⟩ | ⟨faulty, -⟩) <;> exact faulty
  · cases faulty with
    | region given some other => exact .inl ⟨.region given some other, rfl⟩
    | name given item other => exact .inl ⟨.name given item other, rfl⟩
    | product given some other => exact .inr (.inl ⟨.product given some other, rfl⟩)
    | unknown field notRegion notProduct =>
      exact .inr (.inr ⟨.unknown field notRegion notProduct, rfl⟩)

variable {fields}

/-- The fields of an object are those of filters. -/
structure Fits (fields : List (Scalar × Value)) : Prop where
  keys : ∀ field ∈ fields, field.1 = .text "region" ∨ field.1 = .text "product"
  region : ∀ v ∈ Value.find? "region" fields,
    v = .null ∨ ∃ items, v = .list items ∧ ∀ item ∈ items, item.isString
  product : ∀ v ∈ Value.find? "product" fields, v = .null ∨ v.isString

theorem fits_iff : Fits fields ↔ ∀ r fault, ¬Faulty fields r fault := by
  constructor
  · rintro ⟨keys, region, product⟩ r fault faulty
    cases faulty with
    | region given some other =>
      obtain null | ⟨items, list, -⟩ := region _ given
      exacts [some null, other items list]
    | name given item other =>
      obtain null | ⟨items, list, each⟩ := region _ given
      · cases null
      · cases list
        have string := each _ (List.mem_of_getElem? item)
        rw [other] at string
        cases string
    | product given some other =>
      obtain null | string := product _ given
      · exact some null
      · rw [other] at string
        cases string
    | unknown field notRegion notProduct =>
      obtain known | known := keys _ (List.mem_of_getElem? field)
      exacts [notRegion known, notProduct known]
  · intro none
    refine ⟨fun field member => ?_, fun v given => ?_, fun v given => ?_⟩
    · obtain ⟨i, item⟩ := List.getElem?_of_mem member
      by_contra unknown
      obtain ⟨notRegion, notProduct⟩ := not_or.mp unknown
      exact none _ _ (.unknown item notRegion notProduct)
    · by_cases null : v = .null
      · exact .inl null
      by_cases list : ∃ items, v = .list items
      · obtain ⟨items, rfl⟩ := list
        refine .inr ⟨items, rfl, fun item member => ?_⟩
        obtain ⟨i, place⟩ := List.getElem?_of_mem member
        by_contra other
        exact none _ _ (.name given place (Bool.eq_false_iff.mpr other))
      · exact absurd (.region given null fun items is => list ⟨items, is⟩) (none _ _)
    · by_cases null : v = .null
      · exact .inl null
      · by_contra other
        exact none _ _ (.product given null
          (Bool.eq_false_iff.mpr fun string => other (.inr string)))

theorem texts_display {items : List Value} (each : ∀ item ∈ items, item.isString) :
    Value.texts (items.map Value.display) = .list items := by
  rw [Value.texts, List.map_map]
  refine congrArg Value.list ((List.map_congr_left fun item member => ?_).trans items.map_id)
  exact (Value.eq_text_of_isString (each item member)).symm

/-- Filters that are made of fields say what the fields say, and null for a missing key. -/
theorem toValue_of_fits (fits : Fits fields) :
    toValue { region := regionOf (Value.find? "region" fields)
              product := productOf (Value.find? "product" fields) } =
      .record [("region", (Value.find? "region" fields).getD .null),
        ("product", (Value.find? "product" fields).getD .null)] := by
  obtain ⟨-, region, product⟩ := fits
  have regions : ((regionOf (Value.find? "region" fields)).map Value.texts).getD .null =
      (Value.find? "region" fields).getD .null := by
    cases given : Value.find? "region" fields with
    | none => rfl
    | some v =>
      obtain rfl | ⟨items, rfl, each⟩ := region v given
      · rfl
      · exact texts_display each
  have products : Value.ofText? (productOf (Value.find? "product" fields)) =
      (Value.find? "product" fields).getD .null := by
    cases given : Value.find? "product" fields with
    | none => rfl
    | some v =>
      obtain rfl | string := product v given
      · rfl
      · rw [productOf.eq_3 v (by rintro rfl; cases string)]
        exact (Value.eq_text_of_isString string).symm
  rw [toValue, regions, products]

end

end FilterSet

/-! ### Faults of intents -/

namespace QueryIntent

/-- A fault of the fields of an object beside its filters, and its rank: first that of the table,
then that of the operation. -/
inductive Faulty (fields : List (Scalar × Value)) : Nat × Nat → Fault → Prop
  | table {v : Value} (given : Value.find? "source_table" fields = some v)
    (other : v.isString = false) :
    Faulty fields (0, 0) (.of .stringExpected [.key "source_table"] v)
  | operation {v : Value} (given : Value.find? "operation" fields = some v)
    (other : ∀ operation : Operation, v ≠ .text operation.name) :
    Faulty fields (1, 0) (.of .operationExpected [.key "operation"] v)

/-- The fault of a value that names no operation. -/
def operationFault? (v : Value) : Option Fault :=
  match checkOperation (some v) with
  | .ok _ => none
  | .error _ => some (.of .operationExpected [.key "operation"] v)

theorem checkOperation_some (v : Value) :
    (∃ operation : Operation, v = .text operation.name ∧ checkOperation (some v) = .ok operation) ∨
      (∀ operation : Operation, v ≠ .text operation.name) ∧
        checkOperation (some v) = .error [.of .operationExpected [.key "operation"] v] := by
  rw [checkOperation.eq_def]
  split
  · contradiction
  · rename_i s given
    cases given
    cases named : Operation.ofName? s with
    | some operation =>
      exact .inl ⟨operation, congrArg Value.text (Operation.ofName?_eq_some.mp named), rfl⟩
    | none =>
      refine .inr ⟨?_, rfl⟩
      rintro operation same
      cases same
      cases named.symm.trans (Operation.ofName?_eq_some.mpr rfl)
  · rename_i other given
    cases given
    exact .inr ⟨fun operation same => other _ same, rfl⟩

theorem operationFault?_eq_some {v : Value} {fault : Fault} :
    operationFault? v = some fault ↔ (∀ operation : Operation, v ≠ .text operation.name) ∧
      fault = .of .operationExpected [.key "operation"] v := by
  rw [operationFault?]
  obtain ⟨operation, rfl, checked⟩ | ⟨other, checked⟩ := checkOperation_some v
  · rw [checked]
    exact ⟨nofun, fun ⟨other, _⟩ => absurd rfl (other operation)⟩
  · rw [checked, Option.some.injEq, eq_comm (a := fault), and_iff_right other]

theorem finds_checkTable {given : Option Value} (json : ∀ v ∈ given, v.IsJson) :
    ∃ table, Finds (checkTable given) table
      (given.bind (textFault? [.key "source_table"])).toList := by
  cases given with
  | none => exact ⟨_, .nothing⟩
  | some v => exact ⟨_, finds_checkName (json v rfl) [.key "source_table"]⟩

theorem finds_checkOperation (given : Option Value) :
    ∃ operation, Finds (checkOperation given) operation (given.bind operationFault?).toList := by
  cases given with
  | none => exact ⟨_, .nothing⟩
  | some v =>
    rw [Option.bind_some, operationFault?]
    obtain ⟨operation, rfl, checked⟩ | ⟨other, checked⟩ := checkOperation_some v <;> rw [checked]
    · exact ⟨operation, .nothing⟩
    · exact ⟨.select, .inr ⟨List.cons_ne_nil _ _, rfl⟩⟩

theorem reports_head (fields : List (Scalar × Value)) :
    Reports (Faulty fields)
      (((Value.find? "source_table" fields).bind (textFault? [.key "source_table"])).toList ++
        ((Value.find? "operation" fields).bind operationFault?).toList) := by
  refine ((Reports.ofOption (0, 0) _).append (Reports.ofOption (1, 0) _) ?_).congr
    fun r fault => ⟨?_, fun faulty => ?_⟩
  · rintro _ _ _ _ ⟨rfl, -⟩ ⟨rfl, -⟩
    exact .left 0 0 Nat.zero_lt_one
  · rintro (⟨rfl, found⟩ | ⟨rfl, found⟩)
    · obtain ⟨v, given, found⟩ := Option.bind_eq_some_iff.mp found
      obtain ⟨other, rfl⟩ := textFault?_eq_some.mp found
      exact .table given other
    · obtain ⟨v, given, found⟩ := Option.bind_eq_some_iff.mp found
      obtain ⟨other, rfl⟩ := operationFault?_eq_some.mp found
      exact .operation given other
  · cases faulty with
    | table given other =>
      exact .inl ⟨rfl, Option.bind_eq_some_iff.mpr
        ⟨_, given, textFault?_eq_some.mpr ⟨other, rfl⟩⟩⟩
    | operation given other =>
      exact .inr ⟨rfl, Option.bind_eq_some_iff.mpr
        ⟨_, given, operationFault?_eq_some.mpr ⟨other, rfl⟩⟩⟩

/-- The keys that intents have. -/
def keys : List Scalar :=
  [.text "source_table", .text "operation", .text "filters"]

theorem find?_filter_keys {key : String} (known : .text key ∈ keys)
    (fields : List (Scalar × Value)) :
    Value.find? key (fields.filter fun field => field.1 ∈ keys) = Value.find? key fields := by
  rw [Value.find?, Value.find?, List.find?_filter]
  refine congrArg (Option.map Prod.snd) (List.find?_congr fun field _ => decide_eq_decide.mpr ?_)
  constructor
  · rintro ⟨-, same⟩
    exact of_decide_eq_true same
  · intro same
    exact ⟨decide_eq_true (same ▸ known), decide_eq_true same⟩

theorem ofFields_filter_keys (fields : List (Scalar × Value)) :
    ofFields (fields.filter fun field => field.1 ∈ keys) = ofFields fields := by
  rw [ofFields, find?_filter_keys (by decide), find?_filter_keys (by decide),
    find?_filter_keys (by decide), ofFields]

theorem finds_checkFilters {fields : List (Scalar × Value)} {filters : FilterSet}
    {faults : List Fault} (finds : Finds (FilterSet.ofFields fields) filters faults) :
    Finds (checkFilters (some (.object fields))) filters
      (faults.map (.under (.key "filters"))) := by
  rw [Finds, List.map_eq_nil_iff, checkFilters]
  rcases finds with ⟨none, found⟩ | ⟨some, found⟩
  · exact .inl ⟨none, by rw [found]; rfl⟩
  · exact .inr ⟨mt List.map_eq_nil_iff.mp some, by rw [found]; rfl⟩

theorem finds_ofChecked {table : Checked String} {operation : Checked Operation}
    {filters : Checked FilterSet} {sourceTable : String} {checked : Operation} {f : FilterSet}
    {faults₁ faults₂ faults₃ : List Fault} (finds₁ : Finds table sourceTable faults₁)
    (finds₂ : Finds operation checked faults₂) (finds₃ : Finds filters f faults₃) :
    Finds (ofChecked table operation filters) { sourceTable, operation := checked, filters := f }
      (faults₁ ++ faults₂ ++ faults₃) := by
  rw [Finds, List.append_eq_nil_iff, List.append_eq_nil_iff]
  rcases finds₁ with ⟨none₁, rfl⟩ | ⟨some₁, rfl⟩ <;>
    rcases finds₂ with ⟨none₂, rfl⟩ | ⟨some₂, rfl⟩ <;>
    rcases finds₃ with ⟨none₃, rfl⟩ | ⟨some₃, rfl⟩ <;>
    simp [ofChecked, faultsOf, *]

/-- An intent whose filters are an object is made if neither the table nor the operation nor the
filters have a fault; else the faults of the filters come last. -/
theorem finds_ofFields {data fields : List (Scalar × Value)} (json : (Value.object data).IsJson)
    (given : Value.find? "filters" data = some (.object fields)) {filters : FilterSet}
    {faults : List Fault} (finds : Finds (FilterSet.ofFields fields) filters faults) :
    ∃ intent head, Reports (Faulty data) head ∧ intent.filters = filters ∧
      Finds (ofFields data) intent (head ++ faults.map (.under (.key "filters"))) := by
  obtain ⟨table, finds₁⟩ := finds_checkTable fun v found => json.of_find? found
  obtain ⟨operation, finds₂⟩ := finds_checkOperation (Value.find? "operation" data)
  refine ⟨{ sourceTable := table, operation, filters }, _, reports_head data, rfl, ?_⟩
  rw [ofFields, given]
  exact finds_ofChecked finds₁ finds₂ (finds_checkFilters finds)

end QueryIntent

/-- Of a JSON object filters are made exactly if its keys are of the two that filters have, and the
values fit; the filters are then what the object says. Else each of its faults is reported once, in
their order. In an intent these faults follow those of the table and the operation, and fields with
other keys do not count. -/
theorem FilterSet.ofFields_faults {fields : List (Scalar × Value)}
    (json : (Value.object fields).IsJson) :
    (Fits fields → ∃ filters, ofFields fields = .ok filters ∧
      filters.toValue = .record [("region", (Value.find? "region" fields).getD .null),
        ("product", (Value.find? "product" fields).getD .null)]) ∧
    (¬Fits fields → ∃ faults, ofFields fields = .error faults ∧ faults ≠ [] ∧
      Reports (Faulty fields) faults) ∧
    (∀ data, (Value.object data).IsJson → Value.find? "filters" data = some (.object fields) →
      ∃ head, Reports (QueryIntent.Faulty data) head ∧
        (head = [] → Fits fields → ∃ intent, QueryIntent.ofFields data = .ok intent ∧
          ofFields fields = .ok intent.filters) ∧
        (¬(head = [] ∧ Fits fields) → QueryIntent.ofFields data =
          .error (head ++ (faultsOf (ofFields fields)).map (.under (.key "filters"))))) ∧
    ∀ data : List (Scalar × Value),
      QueryIntent.ofFields (data.filter fun field => field.1 ∈ QueryIntent.keys) =
        QueryIntent.ofFields data := by
  have finds := finds_ofFields json
  have reports := reports_faults fields
  have fits := reports.eq_nil_iff.trans fits_iff.symm
  refine ⟨fun good => ?_, fun bad => ?_, fun data json' given => ?_,
    QueryIntent.ofFields_filter_keys⟩
  · exact ⟨_, (finds.ok_iff.mpr ⟨fits.mpr good, rfl⟩), toValue_of_fits good⟩
  · obtain ⟨none, -⟩ | ⟨some, found⟩ := finds
    · exact absurd (fits.mp none) bad
    · exact ⟨_, found, some, reports⟩
  · obtain ⟨intent, head, reports', same, finds'⟩ := QueryIntent.finds_ofFields json' given finds
    refine ⟨head, reports', fun none good => ?_, fun bad => ?_⟩
    · refine ⟨intent, finds'.ok_iff.mpr ⟨?_, rfl⟩, finds.ok_iff.mpr ⟨fits.mpr good, same⟩⟩
      rw [none, fits.mpr good]
      rfl
    · rw [finds.faultsOf_eq]
      obtain ⟨none, -⟩ | ⟨-, found⟩ := finds'
      · obtain ⟨none, none'⟩ := List.append_eq_nil_iff.mp none
        exact absurd ⟨none, fits.mp (List.map_eq_nil_iff.mp none')⟩ bad
      · exact found

/-- A region that is no text, a product that is none, and a key that filters do not have. -/
theorem FilterSet.ofFields_faults_of_every_part :
    ∃ fields faults, (Value.object fields).IsJson ∧ ofFields fields = .error faults ∧
      Reports (Faulty fields) faults ∧
      faults.map (·.place) =
        [[.key "region", .index 1], [.key "product"], [.key "amount"]] := by
  let fields : List (Scalar × Value) :=
    [(.text "amount", .null), (.text "product", .int 1),
      (.text "region", .list [.text "north", .bool true])]
  have json : (Value.object fields).IsJson := by
    refine .object (by decide) (List.forall_mem_cons.mpr ⟨.null, List.forall_mem_cons.mpr
      ⟨.number _, List.forall_mem_singleton.mpr (.list ?_)⟩⟩)
    exact List.forall_mem_cons.mpr ⟨.text _, List.forall_mem_singleton.mpr (.bool _)⟩
  have bad : ¬Fits fields := fun fits => by
    have known := fits.keys _ List.mem_cons_self
    revert known
    decide
  obtain ⟨faults, found, -, reports⟩ := (ofFields_faults json).2.1 bad
  refine ⟨fields, faults, json, found, reports, ?_⟩
  cases found
  rfl

end TableTalk
