import Rebac.Answer
import Rebac.Graph.Traversal
/-!
# Running queries on a graph in memory

A query is answered from its plan. A subject that is not in the graph is matched by nothing: then
there are no rows, but a count still returns its one row with zero.
-/

namespace Rebac

namespace Query

/-- A parameter that has to be a string. -/
def textParam (q : Query) (name : String) : Except AccessError String :=
  match (q.param? name).bind Json.Value.text? with
  | some s => .ok s
  | none => .error (.queryFailed (.missingText name))

/-- A parameter that bounds the number of rows, if it is given. -/
def rowCountParam (q : Query) (name : String) : Except AccessError (Option UInt64) :=
  match q.param? name with
  | none => .ok none
  | some value =>
    match value.word? with
    | some n => .ok (some n)
    | none => .error (.queryFailed (.badRowCount name))

end Query

namespace Graph

/-- The positions that a query is about: the bound object if it is in the graph, or all nodes with
the label of the objects. -/
def objects (g : Graph) (q : Query) : Except AccessError (List Nat) :=
  if q.plan.objectBound then do
    let id ← q.textParam Query.objectIdParam
    return (g.position? ⟨q.plan.objectLabel, id⟩).toList
  else return g.labelled q.plan.objectLabel

/-- The clauses of a plan, each with the positions that its pattern leads to from the subject. -/
def clauseTargets (g : Graph) (subject : Nat) (plan : Plan) : List (CompiledClause × List Nat) :=
  plan.clauses.map fun c => (c, g.targets subject c.pattern)

/-- The row of a point check: a column for each clause, named for it. -/
def clauseRow (clauses : List (CompiledClause × List Nat)) (object : Nat) : Row :=
  Row.ofList (clauses.map fun (c, targets) => (c.column.getD c.text, .bool (object ∈ targets)))

/-- The objects to which some clause leads. -/
def matching (clauses : List (CompiledClause × List Nat)) (objects : List Nat) : List Nat :=
  objects.filter fun o => clauses.any fun clause => o ∈ clause.2

/-- The identifiers of the nodes at these positions, each once. -/
def identifiers (g : Graph) (positions : List Nat) : List String :=
  (positions.filterMap fun i => g.nodes[i]?.map (·.id)).eraseDups

/-- The rows of a query about a subject that is in the graph. -/
def rows (g : Graph) (q : Query) (subject : Nat) (objects : List Nat) :
    Except AccessError (List Row) :=
  let clauses := g.clauseTargets subject q.plan
  match q.plan.projection with
  | .clauseColumns => return objects.map (clauseRow clauses)
  | .distinctIds => do
    let skip ← q.rowCountParam Query.skipParam
    let limit ← q.rowCountParam Query.limitParam
    let ids := (g.identifiers (matching clauses objects)).drop ((skip.map (·.toNat)).getD 0)
    let ids := match limit with
      | some n => ids.take n.toNat
      | none => ids
    return ids.map fun id => Row.empty.insert Query.idColumn (.string id)
  | .countDistinct =>
    return [Row.empty.insert Query.totalColumn (.ofNat (matching clauses objects).length)]

/-- The rows of a query about a subject that is not in the graph. -/
def rowsWithoutSubject : Projection → List Row
  | .countDistinct => [Row.empty.insert Query.totalColumn (.ofNat 0)]
  | _ => []

/-- The rows of a query. -/
def evaluate (g : Graph) (q : Query) : Except AccessError (List Row) := do
  let id ← q.textParam Query.subjectIdParam
  let objects ← g.objects q
  match g.position? ⟨q.plan.subjectLabel, id⟩ with
  | some subject => g.rows q subject objects
  | none => return rowsWithoutSubject q.plan.projection

end Graph

end Rebac
