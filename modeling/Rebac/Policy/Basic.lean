/-!
# Policies

A policy declares the object types of one namespace. A type declares relations, which are the kinds
of edges that lead to its objects, and actions, each with a rule that says by which relations a
subject may perform it. Where a name is declared twice the first declaration counts.
-/

namespace Rebac

/-- A kind of edge from a node of type `subjectType` to a node of the declaring type. -/
structure Relation where
  name : String
  subjectType : String
deriving DecidableEq

/-- Something that can be done to an object, and the rule that grants it. -/
structure Action where
  name : String
  rule : String
deriving DecidableEq

/-- A type of objects. -/
structure ObjectType where
  name : String
  relations : List Relation
  actions : List Action
deriving DecidableEq

/-- The types of one namespace. -/
structure Policy where
  namespaceName : String
  types : List ObjectType
deriving DecidableEq

namespace Policy

/-- The first type of this name. -/
def type? (policy : Policy) (typeName : String) : Option ObjectType :=
  policy.types.find? fun t => t.name = typeName

/-- The relations of a type; an unknown type has none. -/
def relationsOf (policy : Policy) (typeName : String) : List Relation :=
  match policy.type? typeName with
  | some t => t.relations
  | none => []

/-- The actions of a type; an unknown type has none. -/
def actionsOf (policy : Policy) (typeName : String) : List Action :=
  match policy.type? typeName with
  | some t => t.actions
  | none => []

/-- The first relation of this name on a type. -/
def relation? (policy : Policy) (typeName relationName : String) : Option Relation :=
  (policy.relationsOf typeName).find? fun r => r.name = relationName

/-- The first action of this name on a type. -/
def action? (policy : Policy) (typeName actionName : String) : Option Action :=
  (policy.actionsOf typeName).find? fun a => a.name = actionName

end Policy

end Rebac
