import TableTalk.Catalog.Reading
import Mathlib.Logic.Basic

/-!
# TableTalk.Proofs.CatalogValues

Catalogs that are read from values: what is kept, what is filled in, and which name is missed.

## Main result

- `Catalog.ofValue_of_wellKinded`: a catalog is read back from its value; a catalog of which some of
  the optional entries are left out is read with their defaults; and of the errors in sections of
  their kinds, that of a missing name comes first.

## Proof strategy

If the sections are of their kinds, the reader only looks entries up, and three of these can fail:
the name of the table, the fields, and the number of rows shown (`Catalog.ofValue_eq`). The fields
fail only for a name (`Field.ofValues_objects`), and the number never does
(`Value.toInteger_ne_missingKey`). A catalog of which entries are left out is a value with such
sections, whatever is left out (`Catalog.wellKinded_partly`), so that its lookups decide what is
read.
-/

namespace TableTalk

/-! ### Lookups and numbers -/

theorem Number.readIntegerAs_ne_missingKey (written : List Char) (base : Nat) (s : List Char)
    (key : String) : readIntegerAs written base s ≠ .error (.missingKey key) := by
  unfold readIntegerAs
  cases Text.readInteger mostDigits base s with
  | ok i => exact nofun
  | error fault => cases fault <;> exact nofun

namespace Value

theorem find?_cons (key : String) (other : Scalar) (v : Value) (rest : List (Scalar × Value)) :
    find? key ((other, v) :: rest) = if other = .text key then some v else find? key rest := by
  rw [find?, List.find?_cons]
  split <;> simp_all [find?]

theorem find?_append (key : String) (fields others : List (Scalar × Value)) :
    find? key (fields ++ others) = (find? key fields).or (find? key others) := by
  rw [find?, List.find?_append, Option.map_or, find?, find?]

/-- The integer of a value is never wrong for the lack of a key. -/
theorem toInteger_ne_missingKey (v : Value) (key : String) :
    v.toInteger ≠ .error (.missingKey key) := by
  unfold toInteger
  split
  · unfold Number.truncate
    split <;> exact nofun
  · exact nofun
  · exact Number.readIntegerAs_ne_missingKey _ _ _ key
  · exact Number.readIntegerAs_ne_missingKey _ _ _ key
  · exact Number.readIntegerAs_ne_missingKey _ _ _ key
  · exact nofun

end Value

/-! ### Entries -/

namespace Catalog

/-- The fields of a section: none if it is absent or nothing. -/
def sectionFields (name : String) (data : List (Scalar × Value)) : List (Scalar × Value) :=
  match Value.find? name data with
  | some (.object fields) => fields
  | _ => []

/-- The items of a list: none if it is absent. -/
def itemsOf (key : String) (fields : List (Scalar × Value)) : List Value :=
  match Value.find? key fields with
  | some (.list items) => items
  | _ => []

/-- The sections of a catalog value, and the lists in them, are of their kinds. -/
structure WellKinded (data : List (Scalar × Value)) : Prop where
  sections : ∀ name ∈ ["table", "vocabulary", "select"], ∀ v ∈ Value.find? name data,
    v.isNothing ∨ ∃ fields, v = .object fields
  fields : ∀ v ∈ Value.find? "fields" (sectionFields "table" data), ∃ items, v = .list items ∧
    ∀ item ∈ items, ∃ field, item = .object field
  names : ∀ key ∈ ["products", "regions"],
    ∀ v ∈ Value.find? key (sectionFields "vocabulary" data), ∃ items, v = .list items

/-- The table has no name, or one of its fields has none. -/
def Nameless (data : List (Scalar × Value)) : Prop :=
  Value.find? "name" (sectionFields "table" data) = none ∨
    ∃ field, .object field ∈ itemsOf "fields" (sectionFields "table" data) ∧
      Value.find? "name" field = none

/-- How many rows a selection shows, as it is given. -/
def givenPreview (data : List (Scalar × Value)) : Value :=
  (Value.find? "preview_rows" (sectionFields "select" data)).getD (.int 5)

theorem sectionFields_of_isNothing {name : String} {data : List (Scalar × Value)} {v : Value}
    (given : Value.find? name data = some v) (nothing : v.isNothing) :
    sectionFields name data = [] := by
  rw [sectionFields, given]
  cases v with
  | object fields => exact List.isEmpty_iff.mp nothing
  | scalar | list | pair | set | enclosing => rfl

theorem sectionFields_of_object {name : String} {data fields : List (Scalar × Value)}
    (given : Value.find? name data = some (.object fields)) : sectionFields name data = fields := by
  rw [sectionFields, given]

theorem sectionOf_object {name : String} {data : List (Scalar × Value)}
    (kind : ∀ v ∈ Value.find? name data, v.isNothing ∨ ∃ fields, v = .object fields) :
    sectionOf name (.object data) = .ok (.object (sectionFields name data)) := by
  cases given : Value.find? name data with
  | none =>
    rw [sectionOf, Value.optional, sectionFields, given]
    rfl
  | some v =>
    have content : sectionOf name (.object data) =
        .ok (if v.isNothing then .object [] else v) := by
      rw [sectionOf, Value.optional, given]
      rfl
    rw [content]
    by_cases nothing : v.isNothing
    · rw [if_pos nothing, sectionFields_of_isNothing given nothing]
    · obtain nothing' | ⟨fields, rfl⟩ := kind v given
      · exact absurd nothing' nothing
      · rw [if_neg nothing, sectionFields_of_object given]

theorem entries_getD {key : String} {fields : List (Scalar × Value)}
    (kind : ∀ v ∈ Value.find? key fields, ∃ items, v = .list items) :
    ((Value.find? key fields).getD (.list [])).entries = .ok (itemsOf key fields) := by
  rw [itemsOf]
  cases given : Value.find? key fields with
  | none => rfl
  | some v =>
    obtain ⟨items, rfl⟩ := kind v given
    rfl

/-- The reader looks entries up, and reads the names, the fields and the number of rows shown. -/
theorem ofValue_eq {data : List (Scalar × Value)} (kinds : WellKinded data) :
    ofValue (.object data) = do
      let tableName ← Value.required "name" (.object (sectionFields "table" data))
      let fields ← Field.ofValues (itemsOf "fields" (sectionFields "table" data))
      let previewRows ← (givenPreview data).toInteger
      return {
        version := (Value.find? "version" data).getD (.int 1)
        tableName
        description := (Value.find? "description" (sectionFields "table" data)).getD (.text "")
        fields
        products := itemsOf "products" (sectionFields "vocabulary" data)
        regions := itemsOf "regions" (sectionFields "vocabulary" data)
        previewRows } := by
  have table := sectionOf_object (kinds.sections "table" (by simp))
  have vocabulary := sectionOf_object (kinds.sections "vocabulary" (by simp))
  have selection := sectionOf_object (kinds.sections "select" (by simp))
  have fields := entries_getD fun v given => (kinds.fields v given).imp fun _ => And.left
  have products := entries_getD (kinds.names "products" (by simp))
  have regions := entries_getD (kinds.names "regions" (by simp))
  rw [ofValue, table, vocabulary, selection]
  simp only [bind, Except.bind, Value.optional, fields, products, regions]
  rfl

end Catalog

/-! ### Missing names -/

theorem Field.ofValue_object (fields : List (Scalar × Value)) :
    Field.ofValue (.object fields) = do
      let name ← Value.required "name" (.object fields)
      return {
        name
        type := (Value.find? "type" fields).getD (.text "string")
        description := (Value.find? "description" fields).getD (.text "") } :=
  rfl

theorem Value.required_object (key : String) (fields : List (Scalar × Value)) :
    Value.required key (.object fields) =
      (Value.find? key fields).elim (.error (.missingKey key)) .ok := by
  rw [required]
  cases find? key fields <;> rfl

/-- Fields are read from objects, unless one of these has no name. -/
theorem Field.ofValues_objects {items : List Value}
    (objects : ∀ item ∈ items, ∃ field, item = .object field) :
    Field.ofValues items = .error (.missingKey "name") ∧
        (∃ field, .object field ∈ items ∧ Value.find? "name" field = none) ∨
      (∃ fields, Field.ofValues items = .ok fields) ∧
        ∀ field, .object field ∈ items → Value.find? "name" field ≠ none := by
  induction items with
  | nil => exact .inr ⟨⟨[], rfl⟩, fun _ member => absurd member List.not_mem_nil⟩
  | cons item others ih =>
    obtain ⟨field, rfl⟩ := objects item List.mem_cons_self
    have rest := ih fun other member => objects other (List.mem_cons_of_mem _ member)
    rw [ofValues, ofValue_object, Value.required_object]
    cases given : Value.find? "name" field with
    | none => exact .inl ⟨rfl, field, List.mem_cons_self, given⟩
    | some name =>
      obtain ⟨failed, other, member, missing⟩ | ⟨⟨fields, read⟩, named⟩ := rest
      · rw [failed]
        exact .inl ⟨rfl, other, List.mem_cons_of_mem _ member, missing⟩
      · rw [read]
        refine .inr ⟨⟨_, rfl⟩, fun other member => ?_⟩
        obtain same | member := List.mem_cons.mp member
        · cases same
          rw [given]
          exact Option.some_ne_none name
        · exact named other member

namespace Catalog

variable {data : List (Scalar × Value)}

theorem objects_itemsOf (kinds : WellKinded data) :
    ∀ item ∈ itemsOf "fields" (sectionFields "table" data), ∃ field, item = .object field := by
  intro item member
  cases given : Value.find? "fields" (sectionFields "table" data) with
  | none =>
    rw [itemsOf, given] at member
    cases member
  | some v =>
    obtain ⟨items, rfl, objects⟩ := kinds.fields v given
    rw [itemsOf, given] at member
    exact objects item member

/-- A catalog value without a name is told by that name, whatever else is wrong; one with all names
can only be wrong in the number of rows shown. -/
theorem ofValue_cases (kinds : WellKinded data) :
    Nameless data ∧ ofValue (.object data) = .error (.missingKey "name") ∨
      ¬Nameless data ∧ ((∃ c, ofValue (.object data) = .ok c) ∨
        ∃ e, (givenPreview data).toInteger = .error e ∧ ofValue (.object data) = .error e) := by
  rw [ofValue_eq kinds, Value.required_object]
  cases named : Value.find? "name" (sectionFields "table" data) with
  | none => exact .inl ⟨.inl named, rfl⟩
  | some tableName =>
    obtain ⟨failed, missing⟩ | ⟨⟨fields, read⟩, given⟩ :=
      Field.ofValues_objects (objects_itemsOf kinds)
    · rw [failed]
      exact .inl ⟨.inr missing, rfl⟩
    · rw [read]
      refine .inr ⟨?_, ?_⟩
      · rintro (unnamed | ⟨field, member, unnamed⟩)
        · cases named.symm.trans unnamed
        · exact given field member unnamed
      · cases shown : (givenPreview data).toInteger with
        | ok n => exact .inl ⟨_, rfl⟩
        | error e => exact .inr ⟨e, rfl, rfl⟩

end Catalog

/-! ### Entries that are left out -/

namespace Catalog

/-- An entry, if it is kept. -/
def entry (kept : Bool) (key : String) (v : Value) : List (Scalar × Value) :=
  if kept then [(.text key, v)] else []

/-- What becomes of a section: it is kept, or left out, or nothing stands in its place. -/
inductive Presence where
  | kept
  | absent
  | nothing (v : Value) (isNothing : v.isNothing)

def Presence.entry (key : String) (fields : List (Scalar × Value)) :
    Presence → List (Scalar × Value)
  | kept => [(.text key, .object fields)]
  | absent => []
  | nothing v _ => [(.text key, v)]

def Presence.isKept : Presence → Bool
  | kept => true
  | absent | nothing .. => false

/-- Which of the entries that a catalog value may lack it has. -/
structure Kept where
  version : Bool
  description : Bool
  fields : Bool
  -- Of the fields by their positions.
  fieldType : Nat → Bool
  fieldDescription : Nat → Bool
  vocabulary : Presence
  products : Bool
  regions : Bool
  selection : Presence
  previewRows : Bool

/-- All entries are kept. -/
def Kept.all : Kept where
  version := true
  description := true
  fields := true
  fieldType := fun _ => true
  fieldDescription := fun _ => true
  vocabulary := .kept
  products := true
  regions := true
  selection := .kept
  previewRows := true

theorem find?_entry (key other : String) (kept : Bool) (v : Value) :
    Value.find? key (entry kept other v) = if kept && other = key then some v else none := by
  cases kept with
  | false => rfl
  | true => simp [entry, Value.find?]

theorem Presence.find?_entry_ne {key other : String} (different : other ≠ key)
    (fields : List (Scalar × Value)) (presence : Presence) :
    Value.find? key (presence.entry other fields) = none := by
  cases presence <;> simp [entry, Value.find?, different]

/-- What stands for a section is nothing or an object. -/
theorem Presence.kind_of_find?_entry {key : String} {fields : List (Scalar × Value)}
    {presence : Presence} {v : Value}
    (given : Value.find? key (presence.entry key fields) = some v) :
    v.isNothing ∨ ∃ fields, v = .object fields := by
  cases presence with
  | kept =>
    obtain rfl : .object fields = v := by simpa [Presence.entry, Value.find?] using given
    exact .inr ⟨fields, rfl⟩
  | absent => cases given
  | nothing w isNothing =>
    obtain rfl : w = v := by simpa [Presence.entry, Value.find?] using given
    exact .inl isNothing

end Catalog

namespace Field

open Catalog (entry find?_entry)

def partly (type description : Bool) (f : Field) : Value :=
  .object ((.text "name", f.name) ::
    (entry type "type" f.type ++ entry description "description" f.description))

/-- A field with the defaults of what is left out. -/
def filled (type description : Bool) (f : Field) : Field where
  name := f.name
  type := if type then f.type else .text "string"
  description := if description then f.description else .text ""

theorem ofValue_partly (type description : Bool) (f : Field) :
    Field.ofValue (f.partly type description) = .ok (f.filled type description) := by
  rw [partly, ofValue_object]
  simp only [Value.required_object, Value.find?_cons, Value.find?_append, find?_entry]
  cases type <;> cases description <;> rfl

theorem ofValues_partly (type description : Nat → Bool) (fields : List Field) :
    Field.ofValues (fields.mapIdx fun i => partly (type i) (description i)) =
      .ok (fields.mapIdx fun i => filled (type i) (description i)) := by
  induction fields generalizing type description with
  | nil => rfl
  | cons f others ih =>
    rw [List.mapIdx_cons, List.mapIdx_cons, ofValues, ofValue_partly,
      ih (fun i => type (i + 1)) (fun i => description (i + 1))]
    rfl

end Field

namespace Catalog

variable (k : Kept) (c : Catalog)

def partlyTable : List (Scalar × Value) :=
  (.text "name", c.tableName) :: (entry k.description "description" c.description ++
    entry k.fields "fields" (.list (c.fields.mapIdx fun i =>
      Field.partly (k.fieldType i) (k.fieldDescription i))))

def partlyVocabulary : List (Scalar × Value) :=
  entry k.products "products" (.list c.products) ++ entry k.regions "regions" (.list c.regions)

def partlySelection : List (Scalar × Value) :=
  entry k.previewRows "preview_rows" (.int c.previewRows)

/-- The sections of a catalog value that has only the entries that are kept. -/
def partly : List (Scalar × Value) :=
  entry k.version "version" c.version ++ ((.text "table", .object (c.partlyTable k)) ::
    (k.vocabulary.entry "vocabulary" (c.partlyVocabulary k) ++
      k.selection.entry "select" (c.partlySelection k)))

/-- A catalog with the defaults of what is left out. -/
def filled : Catalog where
  version := if k.version then c.version else .int 1
  tableName := c.tableName
  description := if k.description then c.description else .text ""
  fields :=
    if k.fields then c.fields.mapIdx fun i => Field.filled (k.fieldType i) (k.fieldDescription i)
    else []
  products := if k.vocabulary.isKept && k.products then c.products else []
  regions := if k.vocabulary.isKept && k.regions then c.regions else []
  previewRows := if k.selection.isKept && k.previewRows then c.previewRows else 5

theorem find?_partly_table :
    Value.find? "table" (c.partly k) = some (.object (c.partlyTable k)) := by
  simp [partly, Value.find?_append, find?_entry, Value.find?_cons]

theorem find?_partly_vocabulary :
    Value.find? "vocabulary" (c.partly k) =
      Value.find? "vocabulary" (k.vocabulary.entry "vocabulary" (c.partlyVocabulary k)) := by
  simp [partly, Value.find?_append, find?_entry, Value.find?_cons, Presence.find?_entry_ne]

theorem find?_partly_select :
    Value.find? "select" (c.partly k) =
      Value.find? "select" (k.selection.entry "select" (c.partlySelection k)) := by
  simp [partly, Value.find?_append, find?_entry, Value.find?_cons, Presence.find?_entry_ne]

theorem sectionFields_entry {key : String} {data fields : List (Scalar × Value)}
    {presence : Presence}
    (found : Value.find? key data = Value.find? key (presence.entry key fields)) :
    sectionFields key data = if presence.isKept then fields else [] := by
  cases presence with
  | kept =>
    change sectionFields key data = fields
    exact sectionFields_of_object (found.trans (by simp [Presence.entry, Value.find?]))
  | absent =>
    rw [sectionFields, found]
    rfl
  | nothing v isNothing =>
    exact sectionFields_of_isNothing (found.trans (by simp [Presence.entry, Value.find?])) isNothing

theorem sectionFields_table : sectionFields "table" (c.partly k) = c.partlyTable k :=
  sectionFields_of_object (find?_partly_table k c)

theorem sectionFields_vocabulary :
    sectionFields "vocabulary" (c.partly k) =
      if k.vocabulary.isKept then c.partlyVocabulary k else [] :=
  sectionFields_entry (find?_partly_vocabulary k c)

theorem sectionFields_select :
    sectionFields "select" (c.partly k) =
      if k.selection.isKept then c.partlySelection k else [] :=
  sectionFields_entry (find?_partly_select k c)

theorem find?_partlyTable_fields :
    Value.find? "fields" (c.partlyTable k) =
      if k.fields then some (.list (c.fields.mapIdx fun i =>
        Field.partly (k.fieldType i) (k.fieldDescription i))) else none := by
  simp [partlyTable, Value.find?_cons, Value.find?_append, find?_entry]

/-- A section that is kept has the entries that are kept in it. -/
theorem find?_ite {key : String} {whole kept : Bool} {fields : List (Scalar × Value)} {v : Value}
    (found : Value.find? key fields = if kept then some v else none) :
    Value.find? key (if whole then fields else []) = if whole && kept then some v else none := by
  cases whole with
  | false => rfl
  | true => exact found

theorem find?_vocabulary_products :
    Value.find? "products" (sectionFields "vocabulary" (c.partly k)) =
      if k.vocabulary.isKept && k.products then some (.list c.products) else none := by
  rw [sectionFields_vocabulary]
  exact find?_ite (by simp [partlyVocabulary, Value.find?_append, find?_entry])

theorem find?_vocabulary_regions :
    Value.find? "regions" (sectionFields "vocabulary" (c.partly k)) =
      if k.vocabulary.isKept && k.regions then some (.list c.regions) else none := by
  rw [sectionFields_vocabulary]
  exact find?_ite (by simp [partlyVocabulary, Value.find?_append, find?_entry])

theorem givenPreview_partly :
    givenPreview (c.partly k) = .int (c.filled k).previewRows := by
  have found : Value.find? "preview_rows" (sectionFields "select" (c.partly k)) =
      if k.selection.isKept && k.previewRows then some (.int c.previewRows) else none := by
    rw [sectionFields_select]
    exact find?_ite (by simp [partlySelection, find?_entry])
  rw [givenPreview, found, filled]
  split <;> rfl

theorem itemsOf_entry {key : String} {fields : List (Scalar × Value)} {kept : Bool}
    {items : List Value}
    (found : Value.find? key fields = if kept then some (.list items) else none) :
    itemsOf key fields = if kept then items else [] := by
  rw [itemsOf, found]
  cases kept <;> rfl

theorem wellKinded_partly : WellKinded (c.partly k) where
  sections := by
    rintro name member v given
    simp only [List.mem_cons, List.not_mem_nil, or_false] at member
    obtain rfl | rfl | rfl := member
    · exact .inr ⟨_, Option.some.inj (given.symm.trans (find?_partly_table k c))⟩
    · exact Presence.kind_of_find?_entry ((find?_partly_vocabulary k c).symm.trans given)
    · exact Presence.kind_of_find?_entry ((find?_partly_select k c).symm.trans given)
  fields := by
    rw [sectionFields_table, find?_partlyTable_fields]
    rintro v given
    obtain ⟨-, same⟩ := Option.ite_none_right_eq_some.mp given
    obtain rfl := Option.some.inj same
    refine ⟨_, rfl, fun item member => ?_⟩
    obtain ⟨i, _, rfl⟩ := List.mem_mapIdx.mp member
    exact ⟨_, rfl⟩
  names := by
    rintro key member v given
    simp only [List.mem_cons, List.not_mem_nil, or_false] at member
    obtain rfl | rfl := member
    · rw [find?_vocabulary_products] at given
      exact ⟨_, (Option.some.inj (Option.ite_none_right_eq_some.mp given).2).symm⟩
    · rw [find?_vocabulary_regions] at given
      exact ⟨_, (Option.some.inj (Option.ite_none_right_eq_some.mp given).2).symm⟩

/-- A catalog of which entries are left out is read with the defaults of these. -/
theorem ofValue_filled : ofValue (.object (c.partly k)) = .ok (c.filled k) := by
  have version : (Value.find? "version" (c.partly k)).getD (.int 1) = (c.filled k).version := by
    have found : Value.find? "version" (c.partly k) =
        if k.version then some c.version else none := by
      simp [partly, Value.find?_append, find?_entry, Value.find?_cons, Presence.find?_entry_ne]
    rw [found, filled]
    cases k.version <;> rfl
  have description : (Value.find? "description" (c.partlyTable k)).getD (.text "") =
      (c.filled k).description := by
    have found : Value.find? "description" (c.partlyTable k) =
        if k.description then some c.description else none := by
      simp [partlyTable, Value.find?_append, find?_entry, Value.find?_cons]
    rw [found, filled]
    cases k.description <;> rfl
  have tableName : Value.required "name" (.object (c.partlyTable k)) = .ok c.tableName := by
    simp [Value.required_object, partlyTable, Value.find?_cons]
  have fields : Field.ofValues (itemsOf "fields" (c.partlyTable k)) = .ok (c.filled k).fields := by
    rw [itemsOf_entry (find?_partlyTable_fields k c), filled]
    cases k.fields with
    | false => rfl
    | true => exact Field.ofValues_partly k.fieldType k.fieldDescription c.fields
  rw [ofValue_eq (wellKinded_partly k c), givenPreview_partly, sectionFields_table, version,
    description, tableName, fields, itemsOf_entry (find?_vocabulary_products k c),
    itemsOf_entry (find?_vocabulary_regions k c)]
  rfl

theorem mapIdx_const {α β : Type} (f : α → β) (items : List α) :
    items.mapIdx (fun _ => f) = items.map f :=
  List.ext_getElem (by simp) (by simp)

theorem partly_all : .object (c.partly .all) = c.toValue := by
  have fields : (c.fields.mapIdx fun _ => Field.partly true true) = c.fields.map fieldValue :=
    mapIdx_const _ _
  simp only [partly, partlyTable, Kept.all, fields]
  rfl

theorem filled_all : c.filled .all = c := by
  have fields : (c.fields.mapIdx fun _ => Field.filled true true) = c.fields :=
    (mapIdx_const _ _).trans (List.map_id _)
  simp only [filled, Kept.all, fields]
  rfl

end Catalog

/-- A catalog is read back from its value, and of its value any optional entries can be left out:
only they have their defaults then. Whatever else is given in sections of their kinds, the lack of a
name is an error which no other one hides, and with all names only the number of rows shown can
fail. -/
theorem Catalog.ofValue_of_wellKinded {data : List (Scalar × Value)} (kinds : WellKinded data) :
    (∀ c : Catalog, ofValue c.toValue = .ok c) ∧
    (∀ (k : Kept) (c : Catalog), ofValue (.object (c.partly k)) = .ok (c.filled k)) ∧
    (ofValue (.object data) = .error (.missingKey "name") ↔ Nameless data) ∧
    (¬Nameless data → (∃ c, ofValue (.object data) = .ok c) ∨
      ∃ e, (givenPreview data).toInteger = .error e ∧ ofValue (.object data) = .error e) := by
  refine ⟨fun c => ?_, fun k c => c.ofValue_filled k, ⟨fun missing => ?_, fun nameless => ?_⟩,
    fun named => ?_⟩
  · rw [← c.partly_all, c.ofValue_filled, c.filled_all]
  · obtain ⟨nameless, -⟩ | ⟨-, ⟨c, read⟩ | ⟨e, shown, failed⟩⟩ := ofValue_cases kinds
    · exact nameless
    · cases missing.symm.trans read
    · cases missing.symm.trans failed
      exact absurd shown (Value.toInteger_ne_missingKey _ _)
  · obtain ⟨-, missing⟩ | ⟨named, -⟩ := ofValue_cases kinds
    · exact missing
    · exact absurd nameless named
  · obtain ⟨nameless, -⟩ | ⟨-, result⟩ := ofValue_cases kinds
    · exact absurd nameless named
    · exact result

/-- A field without a name is told, although the number of rows shown is no integer either. -/
theorem Catalog.ofValue_of_unnamed_field :
    ∃ data e, WellKinded data ∧ (givenPreview data).toInteger = .error e ∧
      e ≠ .missingKey "name" ∧ ofValue (.object data) = .error (.missingKey "name") := by
  let data : List (Scalar × Value) :=
    [(.text "table", .object [(.text "name", .text "orders"),
        (.text "fields", .list [.object [(.text "type", .text "number")]])]),
      (.text "vocabulary", .null), (.text "select", .object [(.text "preview_rows", .null)])]
  have kinds : WellKinded data := by
    refine ⟨fun name member v given => ?_, fun v given => ?_, fun key member v given => ?_⟩
    · simp only [List.mem_cons, List.not_mem_nil, or_false] at member
      obtain rfl | rfl | rfl := member
      · exact .inr ⟨_, (Option.some.inj given).symm⟩
      · obtain rfl := Option.some.inj given
        exact .inl rfl
      · exact .inr ⟨_, (Option.some.inj given).symm⟩
    · obtain rfl := Option.some.inj given
      exact ⟨_, rfl, List.forall_mem_singleton.mpr ⟨_, rfl⟩⟩
    · simp only [List.mem_cons, List.not_mem_nil, or_false] at member
      obtain rfl | rfl := member <;> cases given
  have nameless : Nameless data := .inr ⟨_, List.mem_cons_self, rfl⟩
  exact ⟨data, _, kinds, rfl, nofun, (ofValue_of_wellKinded kinds).2.2.1.mpr nameless⟩

example :
    Catalog.ofValue (.record [("table", .record [("name", .text "orders")]),
      ("vocabulary", .record [("products", .texts ["Widget"]), ("regions", .texts ["Mars"])])]) =
    .ok { Catalog.sales with
      tableName := .text "orders", description := .text "", fields := []
      products := [.text "Widget"], regions := [.text "Mars"] } := rfl

end TableTalk
