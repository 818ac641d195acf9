import TableTalk.Row

/-!
# TableTalk.Store

Tables of rows by name, in the order in which the names came first.
-/

namespace TableTalk

abbrev Table : Type := String × List Row

/-- Tables after the rows of one are set: in place if the table is there, else at the end. -/
def setTable (name : String) (rows : List Row) : List Table → List Table
  | [] => [(name, rows)]
  | (n, r) :: rest => if n = name then (n, rows) :: rest else (n, r) :: setTable name rows rest

def tableRows? (name : String) (tables : List Table) : Option (List Row) :=
  (tables.find? fun (n, _) => n = name).map (·.2)

/-- A table that was set is found, and all others are found as before. -/
theorem tableRows?_setTable (name other : String) (rows : List Row) (tables : List Table) :
    tableRows? other (setTable name rows tables) =
      if other = name then some rows else tableRows? other tables := by
  have comm : (name = other) = (other = name) := propext ⟨Eq.symm, Eq.symm⟩
  induction tables with
  | nil => by_cases h : other = name <;> simp [setTable, tableRows?, comm, h]
  | cons table rest ih =>
    obtain ⟨n, r⟩ := table
    simp only [tableRows?] at ih
    by_cases hn : n = name
    · subst hn
      by_cases h : other = n <;> simp [setTable, tableRows?, comm, h]
    · by_cases h : n = other
      · subst h
        simp [setTable, tableRows?, hn]
      · simp [setTable, tableRows?, hn, h, ih]

/-- Setting a table changes no name, and adds its own at the end if it is new. -/
theorem names_setTable (name : String) (rows : List Row) (tables : List Table) :
    (setTable name rows tables).map (·.1) =
      if name ∈ tables.map (·.1) then tables.map (·.1) else tables.map (·.1) ++ [name] := by
  induction tables with
  | nil => simp [setTable]
  | cons table rest ih =>
    obtain ⟨n, r⟩ := table
    by_cases hn : n = name
    · simp [setTable, hn]
    · have hne : ¬name = n := fun h => hn h.symm
      simp only [setTable, hn, if_false, List.map_cons, ih, List.mem_cons, hne, false_or]
      by_cases hm : name ∈ rest.map (·.1) <;> simp [hm]

/-- A snapshot of tables that is only read. -/
structure Store where
  tables : List Table := []

namespace Store

/-- The store of named rows; rows given later under the same name take the place of the earlier. -/
def ofTables (tables : List Table) : Store :=
  ⟨tables.foldl (fun built (name, rows) => setTable name rows built) []⟩

def tableNames (s : Store) : List String :=
  s.tables.map (·.1)

def rows (s : Store) (name : String) : Except Error (List Row) :=
  match tableRows? name s.tables with
  | some rows => .ok rows
  | none => .error (.unknownTable name)

end Store

end TableTalk
