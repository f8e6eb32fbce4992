import Rebac.Error
import Rebac.Json.Shape
import Rebac.Policy.Basic
/-!
# Policy documents

The JSON form of a policy: an object with the members `namespace` and `types`; a type has a `name`,
`relations` of `name` and `type`, and `actions` of `name` and `rule`. The lists may be left out.
-/

namespace Rebac

open Json

/-- The document of a relation. -/
def Relation.shape : Shape Relation where
  name := "Relation"
  fields :=
    [⟨"name", true, fun r t => return { r with name := ← Decoder.text t }⟩,
     ⟨"type", true, fun r t => return { r with subjectType := ← Decoder.text t }⟩]
  start := ⟨"", ""⟩

/-- The document of an action. -/
def Action.shape : Shape Action where
  name := "Action"
  fields :=
    [⟨"name", true, fun a t => return { a with name := ← Decoder.text t }⟩,
     ⟨"rule", true, fun a t => return { a with rule := ← Decoder.text t }⟩]
  start := ⟨"", ""⟩

/-- The document of an object type. -/
def ObjectType.shape : Shape ObjectType where
  name := "ObjectType"
  fields :=
    [⟨"name", true, fun o t => return { o with name := ← Decoder.text t }⟩,
     ⟨"relations", false, fun o t =>
        return { o with relations := ← Decoder.listOf Relation.shape.decode t }⟩,
     ⟨"actions", false, fun o t =>
        return { o with actions := ← Decoder.listOf Action.shape.decode t }⟩]
  start := ⟨"", [], []⟩

/-- The document of a policy. -/
def Policy.shape : Shape Policy where
  name := "Policy"
  fields :=
    [⟨"namespace", true, fun p t => return { p with namespaceName := ← Decoder.text t }⟩,
     ⟨"types", false, fun p t =>
        return { p with types := ← Decoder.listOf ObjectType.shape.decode t }⟩]
  start := ⟨"", []⟩

/-- The policy that a document describes. -/
def Policy.ofDocument (document : Document) : Except AccessError Policy :=
  match Decoder.document Policy.shape.decode document with
  | .ok policy => .ok policy
  | .error fault => .error (.policyLoad (.document fault))

/-- The policy that a JSON text describes. -/
def Policy.ofText (text : String) : Except AccessError Policy :=
  Policy.ofDocument (Document.ofText text)

/-- The JSON form of a relation. -/
def Relation.toJson (r : Relation) : Value :=
  .object [("name", .string r.name), ("type", .string r.subjectType)]

/-- The JSON form of an action. -/
def Action.toJson (a : Action) : Value :=
  .object [("name", .string a.name), ("rule", .string a.rule)]

/-- The JSON form of an object type. -/
def ObjectType.toJson (o : ObjectType) : Value :=
  .object
    [("name", .string o.name), ("relations", .array (o.relations.map Relation.toJson)),
     ("actions", .array (o.actions.map Action.toJson))]

/-- The JSON form of a policy. -/
def Policy.toJson (p : Policy) : Value :=
  .object
    [("namespace", .string p.namespaceName), ("types", .array (p.types.map ObjectType.toJson))]

end Rebac
