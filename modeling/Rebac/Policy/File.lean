import Rebac.Policy.Document
import Rebac.Text.Split
/-!
# Policies from files

A policy is loaded from a file of a working directory. The directory holds files and no directories;
of what lies above it nothing is known but that it is there. A path is followed part by part from
the left, and the first part that leads nowhere decides what is wrong with it.
-/

namespace Rebac

/-- A working directory: its files by name. -/
structure Directory where
  files : Assoc ByteArray

/-- Where a path has led to. -/
inductive Place where
  /-- The working directory. -/
  | working
  /-- A directory above it. -/
  | above
  | file (content : ByteArray)

namespace Directory

/-- The parts of a path; those that stand for the place itself are left out, but one at the end
still asks for a directory. -/
def parts (path : List Char) : List (List Char) :=
  (Text.splitOn ['/'] path).filter fun part => part ≠ [] ∧ part ≠ ['.']

/-- Whether a path can only name a directory by the way it ends. -/
def endsInDirectory (path : List Char) : Bool :=
  match (Text.splitOn ['/'] path).getLast? with
  | some part => part = [] ∨ part = ['.'] ∨ part = ['.', '.']
  | none => false

/-- The greatest number of bytes of one name. -/
def longestName : Nat := 255

/-- The greatest number of bytes of a path. -/
def longestPath : Nat := 4095

/-- What is wrong with a name that nothing has. -/
def absence (name : String) : FileFault :=
  if longestName < name.utf8ByteSize then .nameTooLong else .missing

/-- Goes one part of a path further. -/
def enter (directory : Directory) (part : List Char) : Place → Except FileFault Place
  | .file _ => .error .notDirectory
  | .above => if part = ['.', '.'] then .ok .above else .error (absence (String.ofList part))
  | .working =>
    if part = ['.', '.'] then .ok .above
    else
      match Assoc.get? (String.ofList part) directory.files with
      | some content => .ok (.file content)
      | none => .error (absence (String.ofList part))

/-- The content of the file that a path names. -/
def read (directory : Directory) (path : String) : Except FileFault ByteArray := do
  let cs := path.toList
  if '\x00' ∈ cs then throw .nulInPath
  if longestPath < path.utf8ByteSize then throw .nameTooLong
  if cs = [] then throw .missing
  let start := if cs.head? = some '/' then Place.above else Place.working
  match ← (parts cs).foldlM (fun place part => directory.enter part place) start with
  | .file content => if endsInDirectory cs then throw .notDirectory else return content
  | .working | .above => throw .isDirectory

/-- The text of the file that a path names. -/
def readText (directory : Directory) (path : String) : Except FileFault String := do
  match String.fromUTF8? (← directory.read path) with
  | some text => return text
  | none => throw .notText

end Directory

/-- The policy in a file. -/
def Policy.ofFile (directory : Directory) (path : String) : Except AccessError Policy :=
  match directory.readText path with
  | .ok text => Policy.ofText text
  | .error fault => .error (.policyLoad (.file path fault))

end Rebac
