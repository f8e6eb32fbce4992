import Rebac.Pattern
/-!
# Queries

A compiled query carries its text for a graph database that reads texts, its parameters, and a plan
that says the same as the text for evaluators that do not.
-/

namespace Rebac

/-- A typed identifier: a subject that asks for access, or an object that is accessed. -/
structure Entity where
  typeName : String
  id : String
deriving DecidableEq

/-- The entity as messages name it. -/
def Entity.text (e : Entity) : String := e.typeName ++ "#" ++ e.id

/-- What the rows of a query show. -/
inductive Projection where
  /-- A column for each clause, saying whether it holds. -/
  | clauseColumns
  /-- The identifiers of the objects, each once. -/
  | distinctIds
  /-- The number of objects. -/
  | countDistinct
deriving DecidableEq

/-- What a query asks. -/
structure Plan where
  subjectLabel : String
  objectLabel : String
  /-- Whether one object is asked about, whose identifier is a parameter. -/
  objectBound : Bool
  clauses : List CompiledClause
  projection : Projection
deriving DecidableEq

/-- A query that can be run. -/
structure Query where
  text : String
  params : Assoc Json.Value
  plan : Plan
deriving DecidableEq

namespace Query

/-- The parameter that holds the identifier of the subject. -/
def subjectIdParam : String := "subject_id"

/-- The parameter that holds the identifier of the object. -/
def objectIdParam : String := "object_id"

/-- The parameter that says how many rows to leave out at the front. -/
def skipParam : String := "skip"

/-- The parameter that bounds the number of rows. -/
def limitParam : String := "limit"

/-- The column of object identifiers. -/
def idColumn : String := "o.id"

/-- The column of the number of objects. -/
def totalColumn : String := "total"

/-- The value of a parameter. -/
def param? (query : Query) (name : String) : Option Json.Value := Assoc.get? name query.params

/-- The query for `limit` of its rows after the first `skip`. -/
def withWindow (query : Query) (skip limit : UInt64) : Query :=
  { query with
    text := query.text ++ " SKIP $" ++ skipParam ++ " LIMIT $" ++ limitParam
    params :=
      Assoc.set limitParam (.ofNat limit.toNat)
        (Assoc.set skipParam (.ofNat skip.toNat) query.params) }

end Query

end Rebac
