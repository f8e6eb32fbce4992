import Rebac.Identifier
import Rebac.Label
import Rebac.Policy.Basic
import Rebac.Rule
/-!
# Graph patterns

A clause compiles to a pattern between the subject `s` and the object `o` of a query, and the
pattern to a condition in the query's text.
-/

namespace Rebac

/-- A pattern between subject and object; all names in it are labels. -/
inductive Pattern where
  /-- An `edge` from the subject to the object. -/
  | direct (edge : String)
  /-- An `edge`, in either direction, between the subject and a node labelled `via`, and from that
  node to the object at least one and at most `maxDepth` edges labelled `chain`. -/
  | chained (edge via chain : String) (maxDepth : Nat)
deriving DecidableEq

/-- The greatest number of edges in the chain of a compiled clause. -/
def maxTraversalDepth : Nat := 1000

/-- The pattern as a condition of a query. -/
def Pattern.text : Pattern → String
  | .direct edge => "\tEXISTS((s)-[:" ++ Identifier.quote edge ++ "]->(o))"
  | .chained edge via chain maxDepth =>
    "\tEXISTS((s)-[:" ++ Identifier.quote edge ++ "]-(:" ++ Identifier.quote via ++ ")-[:" ++
      Identifier.quote chain ++ "*.." ++ toString maxDepth ++ "]->(o))"

/-- A clause as it stands in a query. -/
structure CompiledClause where
  /-- The condition, with the name of its column if it has one. -/
  text : String
  pattern : Pattern
  /-- The result column that shows whether the condition holds. -/
  column : Option String
deriving DecidableEq

namespace Clause

/-- The pattern of a clause in a rule of `objectType`: the relation that leads to the object has to
be declared there, and its declaration says of which type an intermediate node is. -/
def pattern (clause : Clause) (objectType : String) (policy : Policy) :
    Except AccessError Pattern :=
  match clause with
  | .direct relation =>
    match policy.relation? objectType relation with
    | some found => .ok (.direct (edgeLabel found.name))
    | none => .error (.relationNotFound objectType relation)
  | .chained relation relatedType =>
    match policy.relation? objectType relatedType with
    | some found =>
      .ok (.chained (edgeLabel relation) (nodeLabel found.subjectType) (edgeLabel relatedType)
        maxTraversalDepth)
    | none => .error (.relationNotFound objectType relatedType)

end Clause

/-- Compiles one clause of a rule of `objectType`, with a result column if it is `audited`. -/
def compileClause (text objectType : String) (audited : Bool) (policy : Policy) :
    Except AccessError CompiledClause := do
  let clause ← Clause.parse text
  let pattern ← clause.pattern objectType policy
  let column := clauseColumn text
  return if audited then
    { text := pattern.text ++ " AS " ++ Identifier.quote column, pattern, column := some column }
  else { text := pattern.text, pattern, column := none }

end Rebac
