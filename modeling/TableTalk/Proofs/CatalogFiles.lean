import TableTalk.Proofs.YamlNodes
import TableTalk.Configuration

/-!
# TableTalk.Proofs.CatalogFiles

How a catalog file goes wrong: in many ways, but never by an error that refuses a text.

Main result: `Configuration.spares_catalog`. Each reader is made of readers that spare texts, so
that the lemmas follow the definitions; those that call themselves are taken by induction on their
fuel.
-/

namespace TableTalk

/-! ### Numbers -/

namespace Number

theorem spares_readIntegerAs (written : List Char) (base : Nat) (s : List Char) :
    Spares (readIntegerAs written base s) :=
  spares_mapError fun fault => by cases fault <;> rfl

theorem spares_readInteger (base : Nat) (s : List Char) : Spares (readInteger base s) :=
  spares_readIntegerAs _ _ _

theorem spares_readDouble (s : List Char) : Spares (readDouble s) := by
  unfold readDouble
  split <;> simp

theorem spares_inRange (x : Double) : Spares (inRange x) := by
  unfold inRange
  split <;> simp

theorem spares_toDouble (n : Number) : Spares n.toDouble := by
  cases n with
  | int i =>
    rw [toDouble]
    exact spares_inRange _
  | double x => exact spares_ok x

theorem spares_truncate (n : Number) : Spares n.truncate := by
  unfold truncate
  split <;> simp

theorem spares_add (a b : Number) : Spares (a.add b) := by
  unfold add
  split <;> simp [spares_toDouble]

theorem spares_sub (a b : Number) : Spares (a.sub b) := by
  unfold sub
  split <;> simp [spares_toDouble]

theorem spares_mul (a b : Number) : Spares (a.mul b) := by
  unfold mul
  split <;> simp [spares_toDouble]

end Number

namespace Yaml

/-! ### Merges -/

namespace Nodes

theorem spares_mergedFromAll {flatten : Nat → Nodes → Except Error Nodes}
    (spares : ∀ n nodes, Spares (flatten n nodes)) (items : List Nat) (nodes : Nodes) :
    Spares (mergedFromAll flatten items nodes) := by
  induction items generalizing nodes with
  | nil => simp [mergedFromAll]
  | cons n rest ih =>
    unfold mergedFromAll
    split
    · simp [spares, ih]
    · simp

theorem spares_mergedFrom {flatten : Nat → Nodes → Except Error Nodes}
    (spares : ∀ n nodes, Spares (flatten n nodes)) (n : Nat) (nodes : Nodes) :
    Spares (mergedFrom flatten n nodes) := by
  unfold mergedFrom
  split
  · exact spares_mergedFromAll spares _ _
  · exact spares_mergedFromAll spares _ _
  · simp

theorem spares_flattenWith (fuel : Nat) (merged : List (Nat × Nat)) (n : Nat) (nodes : Nodes) :
    Spares (flattenWith fuel merged n nodes) := by
  induction fuel generalizing merged n nodes with
  | zero => simp [flattenWith]
  | succ fuel ih =>
    unfold flattenWith
    split
    · simp
    · simp [spares_mergedFrom, ih]

theorem spares_flatten (nodes : Nodes) (n : Nat) : Spares (nodes.flatten n) := by
  unfold flatten
  split
  · simp
  · exact spares_flattenWith _ _ _ _

end Nodes

/-! ### Scalars -/

theorem spares_readInteger (s : List Char) : Spares (readInteger s) := by
  have sixties (pieces : List (List Char)) : Spares (readSixties pieces) :=
    spares_foldlM (fun _ _ => by simp [Number.spares_readInteger]) _ _
  unfold readInteger
  extract_lets digits
  split
  split <;> simp [Number.spares_readInteger, sixties]

theorem spares_sumSixties (sum : Double) (base : Int) (parts : List Double) :
    Spares (sumSixties sum base parts) := by
  induction parts generalizing sum base with
  | nil => simp [sumSixties]
  | cons x rest ih => simp [sumSixties, Number.spares_toDouble, ih]

theorem spares_readDouble (s : List Char) : Spares (readDouble s) := by
  simp [readDouble, Number.spares_readDouble, spares_mapM, spares_sumSixties]

theorem spares_refuse (faults : List (Option Timestamp.Fault)) : Spares (refuse faults) := by
  unfold refuse
  split <;> simp

theorem spares_readDate (s : List Char) : Spares (readDate s) := by
  unfold readDate
  split
  · simp
  · simp [spares_refuse]

theorem spares_readBytes (s : List Char) : Spares (readBytes s) := by
  unfold readBytes
  split
  · split <;> simp
  · simp

theorem spares_readScalar (kind : Kind) (codes : List Nat) : Spares (readScalar kind codes) := by
  unfold readScalar
  extract_lets s
  split
  case h_2 => split <;> simp
  all_goals simp [spares_readInteger, spares_readDouble, spares_readDate, spares_readBytes]

/-! ### Making -/

namespace Making

theorem spares_textOf (nodes : Nodes) (fuel n : Nat) : Spares (textOf nodes fuel n) := by
  induction fuel generalizing n with
  | zero => simp [textOf]
  | succ fuel ih =>
    unfold textOf
    split
    · simp
    · simp
    · split
      · exact ih _
      · simp

theorem spares_scalarOf (nodes : Nodes) (n : Nat) : Spares (scalarOf nodes n) := by
  unfold scalarOf
  extract_lets kind others
  have spared (u : PUnit) : Spares (others u) := by
    refine (spares_bind _ _).mpr ⟨spares_textOf _ _ _, fun s _ => ?_⟩
    split <;> simp [spares_readScalar]
  simp [spared]

theorem spares_touch (m : Making) (n : Nat) : Spares (m.touch n) := by
  unfold touch
  split
  · split <;> simp [spares_scalarOf]
  · simp

theorem spares_touchField (m : Making) (field : Nat × Nat) : Spares (m.touchField field) := by
  simp [touchField, spares_touch]

theorem spares_touchPair (m : Making) (n : Nat) : Spares (m.touchPair n) := by
  unfold touchPair
  split <;> simp [spares_touch]

theorem spares_fill (m : Making) (n : Nat) : Spares (m.fill n) := by
  unfold fill
  split
  · exact spares_foldlM spares_touch _ _
  · exact spares_foldlM spares_touchPair _ _
  · simp [Nodes.spares_flatten, spares_foldlM spares_touchField]
  · simp [Nodes.spares_flatten, spares_foldlM spares_touchField]
  · simp

theorem spares_fillFrom (fuel place : Nat) (m : Making) : Spares (fillFrom fuel place m) := by
  induction fuel generalizing place m with
  | zero => simp [fillFrom]
  | succ fuel ih =>
    unfold fillFrom
    split
    · simp
    · simp [spares_fill, ih]

theorem spares_ofDocument (d : Document) : Spares (ofDocument d) := by
  simp [ofDocument, spares_touch, spares_fillFrom]

end Making

/-- No content of a file is refused as a text. -/
theorem spares_read (room : Nat) (content : String) : Spares (read room content) := by
  have tokens :=
    Document.spares_ofTokens (Layout.sound_tokensOf (Text.unixLineEnds content.toList)) room
  unfold read
  extract_lets s others
  have spared (u : PUnit) : Spares (others u) := by
    refine (spares_bind _ _).mpr ⟨tokens, fun d _ => ?_⟩
    cases d with
    | none => simp
    | some d => simp [Making.spares_ofDocument]
  simp [spared]

end Yaml

/-! ### Catalogs -/

namespace Value

theorem spares_entries (v : Value) : Spares v.entries := by
  unfold entries
  split <;> simp

theorem spares_required (key : String) (v : Value) : Spares (v.required key) := by
  unfold required
  split
  · split <;> simp
  · simp

theorem spares_optional (v : Value) (key : String) (default : Value) :
    Spares (v.optional key default) := by
  unfold optional
  split <;> simp

theorem spares_toInteger (v : Value) : Spares v.toInteger := by
  unfold toInteger
  split <;> simp [Number.spares_truncate, Number.spares_readInteger, Number.readIntegerCodes,
    Number.readIntegerBytes, Number.spares_readIntegerAs]

theorem spares_lowered (v : Value) : Spares v.lowered := by
  unfold lowered
  split <;> simp

end Value

theorem Field.spares_ofValue (v : Value) : Spares (Field.ofValue v) := by
  simp [Field.ofValue, Value.spares_required, Value.spares_optional]

theorem Field.spares_ofValues (vs : List Value) : Spares (Field.ofValues vs) := by
  induction vs with
  | nil => simp [Field.ofValues]
  | cons v vs ih => simp [Field.ofValues, Field.spares_ofValue, ih]

namespace Catalog

theorem spares_sectionOf (name : String) (v : Value) : Spares (sectionOf name v) := by
  simp [sectionOf, Value.spares_optional]

theorem spares_ofValue (v : Value) : Spares (ofValue v) := by
  simp [ofValue, spares_sectionOf, Value.spares_required, Value.spares_optional,
    Value.spares_entries, Value.spares_toInteger, Field.spares_ofValues]

theorem spares_keywords (names : List Value) : Spares (keywords names) := by
  induction names with
  | nil => simp [keywords]
  | cons name rest ih => simp [keywords, Value.spares_lowered, ih]

theorem spares_searchable (position : Nat) (names : List Scalar) :
    Spares (searchable position names) := by
  induction names generalizing position with
  | nil => simp [searchable]
  | cons name rest ih => cases name <;> simp [searchable, ih]

theorem spares_productNames (k : Catalog) : Spares k.productNames := by
  simp [productNames, productKeywords, spares_keywords, spares_searchable]

end Catalog

/-! ### Configurations -/

namespace Configuration

theorem spares_catalog (c : Configuration) : Spares c.catalog := by
  unfold catalog
  split
  · simp
  · simp [Yaml.spares_read, Catalog.spares_ofValue]

end Configuration

end TableTalk
