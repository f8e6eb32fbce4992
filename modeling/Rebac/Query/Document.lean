import Rebac.Answer
/-!
# The JSON form of queries and answers
-/

namespace Rebac

open Json

/-- The name of a projection. -/
def Projection.name : Projection → String
  | .clauseColumns => "ClauseColumns"
  | .distinctIds => "DistinctIds"
  | .countDistinct => "CountDistinct"

/-- The projection of this name. -/
def Projection.ofName? (name : String) : Option Projection :=
  [.clauseColumns, .distinctIds, .countDistinct].find? fun p => p.name = name

/-- The JSON form of a pattern: an object whose only member is named for its kind. -/
def Pattern.toJson : Pattern → Value
  | .direct edge => .object [("Direct", .object [("edge", .string edge)])]
  | .chained edge via chain maxDepth =>
    .object
      [("Chained", .object
        [("edge", .string edge), ("via", .string via), ("chain", .string chain),
         ("max_depth", .ofNat maxDepth)])]

/-- The JSON form of a compiled clause. -/
def CompiledClause.toJson (c : CompiledClause) : Value :=
  .object
    [("text", .string c.text), ("pattern", c.pattern.toJson),
     ("alias", .ofOption .string c.column)]

/-- The JSON form of a plan. -/
def Plan.toJson (p : Plan) : Value :=
  .object
    [("subject_label", .string p.subjectLabel), ("object_label", .string p.objectLabel),
     ("object_bound", .bool p.objectBound),
     ("clauses", .array (p.clauses.map CompiledClause.toJson)),
     ("projection", .string p.projection.name)]

/-- The JSON form of a query. -/
def Query.toJson (q : Query) : Value :=
  .object [("text", .string q.text), ("params", .object q.params), ("plan", q.plan.toJson)]

/-- The JSON form of named values in order: an array of pairs. -/
def Row.columnsToJson (row : Row) : Value :=
  .array (row.columns.map fun (column, value) => .array [.string column, value])

/-- The JSON form of a row. -/
def Row.toJson (row : Row) : Value := .object [("columns", row.columnsToJson)]

/-- The JSON form of a clause's result. -/
def ClauseResult.toJson (r : ClauseResult) : Value :=
  .object [("clause", .string r.clause), ("ok", .bool r.ok)]

end Rebac
