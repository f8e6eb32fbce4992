import Rebac.Json.Fault
import Rebac.Json.Tree
/-!
# Decoding documents

A `Decoder` takes a tree to what it describes. Decoding goes from left to right and the first fault
it meets decides: a fault of the text where the tree is broken, or something unexpected before it.

A `Shape` describes a record by its fields. A record is written as an object, whose members may
stand in any order and beside members that are no fields, or as an array of the fields in the order
of the shape, from whose end optional fields may be missing.
-/

namespace Rebac.Json

/-- Takes a tree to what it describes, or to its first fault. -/
abbrev Decoder (α : Type) := Tree → Except Fault α

namespace Decoder

/-- What stands at the root of a tree; its content may be a fault of the text. -/
def found (t : Tree) : Except Fault Found :=
  match t with
  | .null => .ok .null
  | .bool b => .ok (.bool b)
  | .number (some n) => .ok (.number n)
  | .string (some s) => .ok (.string s)
  | .array _ => .ok .sequence
  | .object _ => .ok .map
  | .number none | .string none | .broken => .error .malformed

/-- Refuses a tree that is not what was expected. -/
def refuse {α : Type} (expected : Expected) : Decoder α := fun t => do
  throw (.invalidType (← found t) expected)

/-- A text, where `expected` says what it is for. -/
def textFor (expected : Expected) : Decoder String
  | .string (some s) => .ok s
  | t => refuse expected t

/-- A text. -/
def text : Decoder String := textFor .string

/-- A truth value. -/
def flag : Decoder Bool
  | .bool b => .ok b
  | t => refuse .boolean t

/-- An integer between `least` and `greatest`. -/
def integerIn (least greatest : Int) (expected : Expected) : Decoder Int
  | .number (some (.integer n)) =>
    if least ≤ n ∧ n ≤ greatest then .ok n else .error (.invalidValue n expected)
  | t => refuse expected t

/-- An unsigned word of 64 bits. -/
def unsignedWord : Decoder UInt64 := fun t =>
  return (← integerIn 0 (UInt64.size - 1) .unsignedWord t).toNat.toUInt64

/-- A signed word of 64 bits. -/
def signedWord : Decoder Int64 := fun t =>
  return Int64.ofInt (← integerIn Int64.minValue.toInt Int64.maxValue.toInt .signedWord t)

/-- A sequence of what `item` decodes. -/
def listOf {α : Type} (item : Decoder α) : Decoder (List α)
  | .array items => items.mapM item
  | t => refuse .sequence t

/-- Null for none, otherwise what `inner` decodes. -/
def optional {α : Type} (inner : Decoder α) : Decoder (Option α)
  | .null => .ok none
  | t => some <$> inner t

/-- Decodes the value of a whole document. -/
def document {α : Type} (inner : Decoder α) (d : Document) : Except Fault α := do
  let a ← inner d.root
  if d.complete then return a else throw .malformed

end Decoder

/-- A field of a record: whether it has to be there, and how its value is put into the record. -/
structure Field (α : Type) where
  name : String
  required : Bool
  read : α → Decoder α

/-- A record: its name, its fields in order, and the record in which no field has been read yet and
every optional field has its default. -/
structure Shape (α : Type) where
  name : String
  fields : List (Field α)
  start : α

namespace Shape

variable {α : Type}

/-- The field with this name. -/
def field? (shape : Shape α) (name : String) : Option (Field α) :=
  shape.fields.find? fun f => f.name = name

/-- Reads the members of an object into a record, given the names of the fields that have been read.
Members that are no fields only have to be well-formed. -/
def readMembers (shape : Shape α) (seen : List String) (record : α) :
    List (Option String × Tree) → Except Fault (List String × α)
  | [] => .ok (seen, record)
  | (none, _) :: _ => .error .malformed
  | (some name, t) :: rest =>
    match shape.field? name with
    | some f =>
      if name ∈ seen then .error (.duplicateField name)
      else
        match f.read record t with
        | .ok record => readMembers shape (name :: seen) record rest
        | .error fault => .error fault
    | none => if t.wellFormed then readMembers shape seen record rest else .error .malformed

/-- The first field, in the order of the shape, that is required and has not been read. -/
def missing? (shape : Shape α) (seen : List String) : Option String :=
  (shape.fields.find? fun f => f.required ∧ f.name ∉ seen).map (·.name)

/-- The record that an object describes. -/
def ofMembers (shape : Shape α) (members : List (Option String × Tree)) : Except Fault α := do
  let (seen, record) ← shape.readMembers [] shape.start members
  match shape.missing? seen with
  | some name => throw (.missingField name)
  | none => return record

/-- Reads the items of an array into the fields from position `i` on. -/
def readItems (shape : Shape α) (i : Nat) (record : α) :
    List (Field α) → List Tree → Except Fault α
  | [], [] => .ok record
  | [], _ :: _ => .error .malformed
  | f :: fields, [] =>
    if f.required then .error (.invalidLength i shape.name shape.fields.length)
    else readItems shape (i + 1) record fields []
  | f :: fields, t :: ts =>
    match f.read record t with
    | .ok record => readItems shape (i + 1) record fields ts
    | .error fault => .error fault

/-- The decoder of a shape. -/
def decode (shape : Shape α) : Decoder α
  | .object members => shape.ofMembers members
  | .array items => shape.readItems 0 shape.start shape.fields items
  | t => Decoder.refuse (.record shape.name) t

end Shape

end Rebac.Json
