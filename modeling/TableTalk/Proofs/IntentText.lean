import TableTalk.Intent.Checking
import TableTalk.Proofs.JsonText

/-!
# TableTalk.Proofs.IntentText

Intents that are read back from their JSON texts.

## Main result

- `QueryIntent.read_json`: the text of an intent reads as the object that says the intent, and the
  check of that object gives the intent back; so no two intents have one text.

## Proof strategy

The check undoes the saying part by part: the names of regions, the two conditions, the filters and
the operation. That the text gives the object back is `Json.read_write`, as an object that says an
intent holds texts under distinct keys and is three deep.
-/

namespace TableTalk

namespace FilterSet

theorem checkNames_texts (names : List String) (position : Nat) :
    checkNames position (names.map Value.text) = .ok names := by
  induction names generalizing position with
  | nil => rfl
  | cons name others ih => rw [List.map_cons, checkNames, ih, checkName_text]

theorem checkRegion_toValue (region : Option (List String)) :
    checkRegion (some ((region.map Value.texts).getD .null)) = .ok region := by
  cases region with
  | none => rfl
  | some names =>
    rw [Option.map_some, Option.getD_some, Value.texts, checkRegion, checkNames_texts]
    rfl

theorem checkProduct_ofText? (product : Option String) :
    checkProduct (some (.ofText? product)) = .ok product := by
  cases product with
  | none => rfl
  | some name => exact congrArg (Except.map some) (checkName_text [.key "product"] name)

/-- The fields of the object that says filters. -/
def fields (f : FilterSet) : List (Scalar × Value) :=
  [(.text "region", (f.region.map Value.texts).getD .null), (.text "product", .ofText? f.product)]

theorem ofFields_fields (f : FilterSet) : ofFields f.fields = .ok f := by
  have region := checkRegion_toValue f.region
  have product := checkProduct_ofText? f.product
  have known : unknownKeys f.fields = [] := rfl
  have found : Value.find? "region" f.fields = some ((f.region.map Value.texts).getD .null) := rfl
  have found' : Value.find? "product" f.fields = some (.ofText? f.product) := rfl
  rw [ofFields, found, found', region, product, known]

end FilterSet

theorem FilterSet.wordy_toValue {room : Nat} (f : FilterSet) : Json.Wordy (room + 2) f.toValue := by
  have region : Json.Wordy (room + 1) ((f.region.map Value.texts).getD .null) := by
    cases f.region with
    | none => exact .null
    | some names => exact .texts names
  exact .record (by simp) (List.forall_mem_cons.mpr
    ⟨region, List.forall_mem_singleton.mpr (.ofText? f.product)⟩)

namespace QueryIntent

theorem wordy_toValue {room : Nat} (intent : QueryIntent) :
    Json.Wordy (room + 3) intent.toValue := by
  refine .record (by simp) (List.forall_mem_cons.mpr ⟨.text intent.sourceTable, ?_⟩)
  exact List.forall_mem_cons.mpr ⟨.text intent.operation.name,
    List.forall_mem_singleton.mpr intent.filters.wordy_toValue⟩

theorem read_toValue (intent : QueryIntent) (room : Nat) :
    Json.read (room + 3) intent.json.toList = .ok intent.toValue := by
  rw [json, String.toList_ofList]
  exact Json.read_write intent.wordy_toValue

/-- The fields of the object that says an intent. -/
def fields (intent : QueryIntent) : List (Scalar × Value) :=
  [(.text "source_table", .text intent.sourceTable),
    (.text "operation", .text intent.operation.name),
    (.text "filters", .object intent.filters.fields)]

theorem checkOperation_name (operation : Operation) :
    checkOperation (some (.text operation.name)) = .ok operation := by
  rw [checkOperation, Operation.ofName?_eq_some.mpr rfl]

theorem ofFields_fields (intent : QueryIntent) : ofFields intent.fields = .ok intent := by
  have table : Value.find? "source_table" intent.fields = some (.text intent.sourceTable) := rfl
  have operation : Value.find? "operation" intent.fields = some (.text intent.operation.name) := rfl
  have filters : Value.find? "filters" intent.fields = some (.object intent.filters.fields) := rfl
  rw [ofFields, table, operation, filters, checkTable, checkName_text, checkOperation_name,
    checkFilters, FilterSet.ofFields_fields]
  rfl

/-- The text of an intent reads, with room for three, as the object that says it, and the check of
that object gives the intent back. No two intents have one text, not even if no region is given in
one, and an empty list of regions in the other. -/
theorem read_json (intent : QueryIntent) :
    (∀ room, Json.read (room + 3) intent.json.toList = .ok intent.toValue) ∧
    (∃ fields, intent.toValue = .object fields ∧ ofFields fields = .ok intent) ∧
    ∀ other : QueryIntent, other.json = intent.json → other = intent := by
  refine ⟨intent.read_toValue, ⟨intent.fields, rfl, intent.ofFields_fields⟩, fun other same => ?_⟩
  have read := other.read_toValue 0
  rw [same, intent.read_toValue] at read
  have fields : intent.fields = other.fields := Value.object.inj (Except.ok.inj read)
  have back := other.ofFields_fields
  rw [← fields, intent.ofFields_fields] at back
  exact (Except.ok.inj back).symm

end QueryIntent

end TableTalk
