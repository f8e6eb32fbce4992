/-!
# Identifiers in query texts

Values are always passed to a query as parameters, but labels and column names cannot be, so they
stand in its text as identifiers. A plain identifier stands as it is, any other name between
backticks with the backticks in it doubled. No name can therefore end its own identifier.
-/

namespace Rebac.Identifier

/-- A letter of a plain identifier: an ASCII letter or an underscore. -/
def isLetter (c : Char) : Bool :=
  ('a' ≤ c && c ≤ 'z') || ('A' ≤ c && c ≤ 'Z') || c == '_'

/-- What may follow the first letter of a plain identifier. -/
def isPart (c : Char) : Bool := isLetter c || ('0' ≤ c && c ≤ '9')

/-- Whether a name can stand in a query text as it is. -/
def isPlain : List Char → Bool
  | [] => false
  | c :: cs => isLetter c && cs.all isPart

/-- The backtick, which encloses quoted identifiers. -/
def tick : Char := '\x60'

/-- The characters with every backtick written twice. -/
def doubled (cs : List Char) : List Char :=
  cs.flatMap fun c => if c = tick then [tick, tick] else [c]

/-- The identifier of a name, as characters. -/
def quoteChars (name : List Char) : List Char :=
  if isPlain name then name else tick :: doubled name ++ [tick]

/-- The identifier of a name. -/
def quote (name : String) : String := String.ofList (quoteChars name.toList)

end Rebac.Identifier
