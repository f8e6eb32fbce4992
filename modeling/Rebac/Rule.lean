import Rebac.Error
import Rebac.Text.Blank
import Rebac.Text.Split
/-!
# Rules and their clauses

A rule is a list of clauses joined by ` or`. The separator is that literal text and not a word: the
rule `owner ordinal` has the clauses `owner` and `dinal`. A clause names a relation (`owner`), or a
relation to an intermediate node and the relation that leads on from there (`member from Team`).
-/

namespace Rebac

/-- The text between two clauses of a rule. -/
def clauseSeparator : List Char := [' ', 'o', 'r']

/-- The text between the two names of a chained clause. -/
def chainSeparator : List Char := [' ', 'f', 'r', 'o', 'm', ' ']

/-- The clauses of a rule as they are written. -/
def splitRule (rule : String) : List String :=
  (Text.splitOn clauseSeparator rule.toList).map String.ofList

/-- A clause of a rule. -/
inductive Clause where
  /-- An edge from the subject straight to the object. -/
  | direct (relation : String)
  /-- An edge between the subject and an intermediate node, and a chain of edges from there. -/
  | chained (relation relatedType : String)
deriving DecidableEq

/-- The clause that a text describes. -/
def Clause.parse (text : String) : Except AccessError Clause :=
  let clause := Text.trimChars text.toList
  match Text.splitOn chainSeparator clause with
  | [_] => .ok (.direct (String.ofList clause))
  | [left, right] =>
    let relation := Text.trimChars left
    let relatedType := Text.trimChars right
    if relation ≠ [] ∧ relatedType ≠ [] then
      .ok (.chained (String.ofList relation) (String.ofList relatedType))
    else .error (.malformedClause (String.ofList clause))
  | _ => .error (.malformedClause (String.ofList clause))

/-- The result column of a clause: its text with underscores for spaces. -/
def clauseColumn (text : String) : String :=
  String.ofList ((Text.trimChars text.toList).map fun c => if c = ' ' then '_' else c)

end Rebac
