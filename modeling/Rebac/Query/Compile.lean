import Rebac.Query.Basic
/-!
# Compiling actions to queries

The rule of an action becomes a query in three ways: a point check with a column for each clause,
the listing of all objects for which a clause holds, and their number. All three compile the same
clauses and so fail for the same reasons.
-/

namespace Rebac

/-- Compiles the rule of an action of `objectType`; of several faulty clauses the first counts. -/
def compileRule (objectType action : String) (audited : Bool) (policy : Policy) :
    Except AccessError (List CompiledClause) :=
  match policy.action? objectType action with
  | some found =>
    (splitRule found.rule).mapM fun clause => compileClause clause objectType audited policy
  | none => .error (.actionNotFound objectType action)

namespace Query

/-- The clause that binds a node to a label and an identifier. -/
def matchBound (variableName typeName param : String) : String :=
  "MATCH (" ++ variableName ++ ":" ++ Identifier.quote (nodeLabel typeName) ++ " \x7bid: $" ++
    param ++ "\x7d)\n"

/-- The clause that lets the object be any node of a label. -/
def matchAll (typeName : String) : String :=
  "MATCH (o:" ++ Identifier.quote (nodeLabel typeName) ++ ")\n"

/-- The conditions of the clauses with a separator between them. -/
def joinTexts (clauses : List CompiledClause) (separator : String) : String :=
  separator.intercalate (clauses.map (·.text))

/-- The parameters of every query about a subject. -/
def subjectParams (subject : Entity) : Assoc Json.Value := [(subjectIdParam, .string subject.id)]

/-- The point check: one row with a column for each clause. -/
def access (subject : Entity) (action : String) (object : Entity) (policy : Policy) :
    Except AccessError Query := do
  let clauses ← compileRule object.typeName action true policy
  return {
    text := matchBound "s" subject.typeName subjectIdParam ++
      matchBound "o" object.typeName objectIdParam ++ "RETURN\n" ++ joinTexts clauses ",\n"
    params := Assoc.set objectIdParam (.string object.id) (subjectParams subject)
    plan := {
      subjectLabel := nodeLabel subject.typeName
      objectLabel := nodeLabel object.typeName
      objectBound := true
      clauses
      projection := .clauseColumns } }

/-- A query about the objects of a type for which a clause holds: how the conditions are joined,
what it returns, and the text that asks for it. -/
def overObjects (subject : Entity) (action objectType : String) (policy : Policy)
    (separator : String) (projection : Projection) (returns : String) :
    Except AccessError Query := do
  let clauses ← compileRule objectType action false policy
  return {
    text := matchBound "s" subject.typeName subjectIdParam ++ matchAll objectType ++ "WHERE " ++
      joinTexts clauses separator ++ returns
    params := subjectParams subject
    plan := {
      subjectLabel := nodeLabel subject.typeName
      objectLabel := nodeLabel objectType
      objectBound := false
      clauses
      projection } }

/-- The listing: the identifiers of the objects, each once. -/
def filter (subject : Entity) (action objectType : String) (policy : Policy) :
    Except AccessError Query :=
  overObjects subject action objectType policy " OR\n" .distinctIds
    ("\nRETURN DISTINCT " ++ idColumn ++ "\n")

/-- The number of objects in the listing. -/
def count (subject : Entity) (action objectType : String) (policy : Policy) :
    Except AccessError Query :=
  overObjects subject action objectType policy " OR \n" .countDistinct
    ("\nRETURN COUNT(DISTINCT " ++ idColumn ++ ") AS " ++ totalColumn)

end Query

end Rebac
