import Rebac.Json.Value
/-!
# Result rows

A row of a query's result: columns in the order of the projection. Setting a column that is there
replaces its value where it stands.
-/

namespace Rebac

/-- A result row. A row that was read from elsewhere may repeat a column; its first occurrence
counts. -/
structure Row where
  columns : Assoc Json.Value
deriving DecidableEq

namespace Row

/-- The row without columns. -/
def empty : Row := ⟨[]⟩

/-- Sets a column, in place if the row has it and at the end otherwise. -/
def insert (row : Row) (column : String) (value : Json.Value) : Row :=
  ⟨Assoc.set column value row.columns⟩

/-- The value of a column. -/
def get? (row : Row) (column : String) : Option Json.Value := Assoc.get? column row.columns

/-- The row to which columns have been set one after the other. -/
def ofList (columns : List (String × Json.Value)) : Row :=
  columns.foldl (fun row entry => row.insert entry.1 entry.2) empty

end Row

end Rebac
