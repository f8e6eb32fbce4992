import Rebac.Query.Basic
import Rebac.Row
/-!
# Answers from rows

The rows that a graph database returns become typed answers. Nothing is coerced: a column that
holds something else than it should is an error.
-/

namespace Rebac

/-- Whether one clause of a rule holds. -/
structure ClauseResult where
  clause : String
  ok : Bool
deriving DecidableEq

/-- Whether any clause grants access. -/
def isAllowed (results : List ClauseResult) : Bool := results.any (·.ok)

namespace Answer

/-- The result of one column of a point check. -/
def clauseResult (column : String) : Json.Value → Except AccessError ClauseResult
  | .bool ok => .ok ⟨column, ok⟩
  | found => .error (.columnMismatch column found .boolean)

/-- The results of a point check: the columns of its first row. -/
def access : List Row → Except AccessError (List ClauseResult)
  | [] => .error .noResult
  | row :: _ => row.columns.mapM fun (column, value) => clauseResult column value

/-- The identifier in a row of a listing. -/
def identifier (row : Row) : Except AccessError String :=
  match row.get? Query.idColumn with
  | none | some .null => .error (.missingIdentifier Query.idColumn)
  | some (.string id) => .ok id
  | some found => .error (.columnMismatch Query.idColumn found .string)

/-- The identifiers of a listing, one from each row. -/
def identifiers (rows : List Row) : Except AccessError (List String) := rows.mapM identifier

/-- The number that a count returns in its first row. -/
def count : List Row → Except AccessError UInt64
  | [] => .error .noResult
  | row :: _ =>
    match row.get? Query.totalColumn with
    | none => .error (.missingColumn Query.totalColumn)
    | some value =>
      match value.word? with
      | some n => .ok n
      | none => .error (.columnMismatch Query.totalColumn value .count)

end Answer

end Rebac
