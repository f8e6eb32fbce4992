import Rebac.Json.Fault
import Rebac.Json.Value
/-!
# Errors

Why a request could not be answered, and the message for each cause.
-/

namespace Rebac

/-- What a result column has to hold. -/
inductive ColumnKind where
  | boolean
  | string
  | count
deriving DecidableEq

/-- Why a query could not be run. -/
inductive QueryFault where
  /-- A parameter that has to be a string is not there or is none. -/
  | missingText (parameter : String)
  /-- A parameter that bounds the number of rows is not one. -/
  | badRowCount (parameter : String)
  /-- What the database said. -/
  | reported (text : String)
deriving DecidableEq

/-- Why a file could not be read. -/
inductive FileFault where
  | missing
  | isDirectory
  | notDirectory
  /-- The path, or a part of it, has too many bytes. -/
  | nameTooLong
  /-- The path holds the character NUL, which ends every path. -/
  | nulInPath
  /-- The bytes of the file are no text. -/
  | notText
deriving DecidableEq

/-- Why a policy could not be loaded. -/
inductive PolicyFault where
  | document (fault : Json.Fault)
  | file (path : String) (fault : FileFault)
deriving DecidableEq

/-- Why settings cannot be used. -/
inductive SettingsFault where
  /-- An environment variable does not hold what its setting needs. -/
  | invalidVariable (variableName : String) (value : String)
  /-- The setting of this environment variable has to be positive. -/
  | notPositive (variableName : String)
  | noPolicyPath
deriving DecidableEq

/-- Why a request could not be answered. -/
inductive AccessError where
  | actionNotFound (objectType action : String)
  | relationNotFound (objectType relation : String)
  | malformedClause (clause : String)
  | invalidPage (page : Int64)
  | invalidLimit (limit : Int64)
  | pageOutOfRange (page : Int64) (totalPages : UInt64)
  /-- The count cache holds something that is no count. -/
  | notACount (key : String)
  | queryFailed (fault : QueryFault)
  | noResult
  | missingIdentifier (column : String)
  | missingColumn (column : String)
  | columnMismatch (column : String) (found : Json.Value) (expected : ColumnKind)
  | policyLoad (fault : PolicyFault)
  | configuration (fault : SettingsFault)
  | internal (text : String)
deriving DecidableEq

/-- The word for what a column has to hold. -/
def ColumnKind.text : ColumnKind → String
  | .boolean => "boolean"
  | .string => "string"
  | .count => "non-negative integer"

/-- The message of a failed query. -/
def QueryFault.message : QueryFault → String
  | .missingText parameter => "missing string parameter $" ++ parameter
  | .badRowCount parameter => "parameter $" ++ parameter ++ " is not a row count"
  | .reported text => text

/-- The message for a file that could not be read. -/
def FileFault.message : FileFault → String
  | .missing => "No such file or directory (os error 2)"
  | .isDirectory => "Is a directory (os error 21)"
  | .notDirectory => "Not a directory (os error 20)"
  | .nameTooLong => "File name too long (os error 36)"
  | .nulInPath => "file name contained an unexpected NUL byte"
  | .notText => "stream did not contain valid UTF-8"

/-- The message for a policy that could not be loaded. -/
def PolicyFault.message : PolicyFault → String
  | .document fault => fault.message
  | .file path fault => path ++ ": " ++ fault.message

/-- The message for settings that cannot be used. -/
def SettingsFault.message : SettingsFault → String
  | .invalidVariable variableName value => "Invalid value for " ++ variableName ++ ": " ++ value
  | .notPositive variableName => variableName ++ " must be greater than 0"
  | .noPolicyPath => "policy_path is not set"

/-- How a message describes a value. -/
def Json.Value.describe : Json.Value → String
  | .null => "null"
  | .bool b => "boolean " ++ toString b
  | .number n => "number " ++ n.text
  | .string s => "string " ++ Text.quoted s
  | .array _ => "array"
  | .object _ => "object"

/-- The message of an error. -/
def AccessError.message : AccessError → String
  | .actionNotFound objectType action =>
    "Action '" ++ action ++ "' not found for type '" ++ objectType ++ "'"
  | .relationNotFound objectType relation =>
    "Relation '" ++ relation ++ "' not found for type '" ++ objectType ++ "'"
  | .malformedClause clause => "Invalid clause format: " ++ clause
  | .invalidPage page => "Page must be greater than 0, got " ++ toString page.toInt
  | .invalidLimit limit => "Page size must be greater than 0, got " ++ toString limit.toInt
  | .pageOutOfRange page totalPages =>
    "Page " ++ toString page.toInt ++ " out of range (" ++ toString totalPages.toNat ++
      " pages available)"
  | .notACount key => "Cache value for key " ++ key ++ " is not a count"
  | .queryFailed fault => "Query execution failed: " ++ fault.message
  | .noResult => "Query returned no records"
  | .missingIdentifier column => "Row has no identifier in column '" ++ column ++ "'"
  | .missingColumn column => "Row has no column '" ++ column ++ "'"
  | .columnMismatch column found expected =>
    "Column '" ++ column ++ "' holds " ++ found.describe ++ ", expected " ++ expected.text
  | .policyLoad fault => "Failed to load policy: " ++ fault.message
  | .configuration fault => "Configuration error: " ++ fault.message
  | .internal text => "Internal error: " ++ text

end Rebac
