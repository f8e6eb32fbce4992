import Rebac.Json.Number
import Rebac.Text.Quoted
/-!
# Faults of documents

Why a JSON document does not describe what it should, and how that is said.
-/

namespace Rebac.Json

/-- What stands in a document where something else was expected. -/
inductive Found where
  | null
  | bool (b : Bool)
  | number (n : Number)
  | string (s : String)
  | sequence
  | map
deriving DecidableEq

/-- What was expected at a place of a document. -/
inductive Expected where
  | string
  | boolean
  | sequence
  | unsignedWord
  | signedWord
  | path
  | record (name : String)
deriving DecidableEq

/-- Why a document was refused. -/
inductive Fault where
  /-- The text is not JSON, or goes on where it should end. -/
  | malformed
  | missingField (name : String)
  | duplicateField (name : String)
  | invalidType (found : Found) (expected : Expected)
  /-- An integer out of the range of its place. -/
  | invalidValue (n : Int) (expected : Expected)
  /-- A record written as a sequence lacks the field at position `length`. -/
  | invalidLength (length : Nat) (record : String) (fieldCount : Nat)
deriving DecidableEq

/-- The description of what was found. -/
def Found.text : Found → String
  | .null => "null"
  | .bool b => "boolean `" ++ toString b ++ "`"
  | .number (.integer n) => "integer `" ++ toString n ++ "`"
  | .number (.real x) => "floating point `" ++ (Number.real x).text ++ "`"
  | .string s => "string " ++ Text.quoted s
  | .sequence => "sequence"
  | .map => "map"

/-- The description of what was expected. -/
def Expected.text : Expected → String
  | .string => "a string"
  | .boolean => "a boolean"
  | .sequence => "a sequence"
  | .unsignedWord => "u64"
  | .signedWord => "i64"
  | .path => "path string"
  | .record name => "struct " ++ name

/-- The message of a fault. -/
def Fault.message : Fault → String
  | .malformed => "malformed JSON"
  | .missingField name => "missing field `" ++ name ++ "`"
  | .duplicateField name => "duplicate field `" ++ name ++ "`"
  | .invalidType found expected => "invalid type: " ++ found.text ++ ", expected " ++ expected.text
  | .invalidValue n expected =>
    "invalid value: integer `" ++ toString n ++ "`, expected " ++ expected.text
  | .invalidLength length record fieldCount =>
    "invalid length " ++ toString length ++ ", expected struct " ++ record ++ " with " ++
      toString fieldCount ++ " elements"

end Rebac.Json
