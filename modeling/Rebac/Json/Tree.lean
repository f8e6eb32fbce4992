import Rebac.Json.Token
import Rebac.Json.Value
/-!
# Reading a JSON text

`Document.ofText` reads a text into a tree, as far as the text goes well: where it stops being JSON
the tree says `broken`, and nothing after that place is read. So whoever walks a tree from left to
right meets the first fault of the text where a reader of the text would meet it, and what stands
before the fault can still be looked at.

The reader is a machine over the tokens. Its state holds the arrays and objects that have been
opened and not yet closed (`Frame`), so its recursion is on the tokens alone.
-/

namespace Rebac.Json

/-- A JSON text as read. -/
inductive Tree where
  /-- The text stops being JSON here. -/
  | broken
  | null
  | bool (b : Bool)
  /-- A number, without content if it is too large for a double. -/
  | number (n : Option Number)
  /-- A string, without content if it is no text. -/
  | string (s : Option String)
  | array (items : List Tree)
  /-- The members in the order of the text, repeated names included. -/
  | object (members : List (Option String × Tree))
deriving Inhabited

/-- A text as read, and whether nothing but white space follows its value. -/
structure Document where
  root : Tree
  complete : Bool
deriving Inhabited

/-- An array or object that is open while a value inside it is read; what it holds so far comes
latest first. -/
inductive Frame where
  | array (items : List Tree)
  | object (members : List (Option String × Tree)) (key : Option String)

/-- Where a reader stands between two tokens. -/
inductive Reader where
  /-- A value is due. -/
  | value (frames : List Frame)
  /-- An array has just been opened. -/
  | inArray (frames : List Frame)
  /-- An item of an array has ended. -/
  | afterItem (items : List Tree) (frames : List Frame)
  /-- An object has just been opened. -/
  | inObject (frames : List Frame)
  /-- A key is due. -/
  | key (members : List (Option String × Tree)) (frames : List Frame)
  /-- A key has been read and its colon is due. -/
  | colon (members : List (Option String × Tree)) (key : Option String) (frames : List Frame)
  /-- A member of an object has ended. -/
  | afterMember (members : List (Option String × Tree)) (frames : List Frame)
  /-- The value of the whole text has ended. -/
  | done (root : Tree)

namespace Reader

/-- A value has ended inside the open frames. -/
def ended (t : Tree) : List Frame → Reader
  | [] => done t
  | .array items :: frames => afterItem (t :: items) frames
  | .object members k :: frames => afterMember ((k, t) :: members) frames

/-- A token where a value is due. -/
def stepValue (frames : List Frame) : Token → Option Reader
  | .null => some (ended .null frames)
  | .bool b => some (ended (.bool b) frames)
  | .number n => some (ended (.number n.number?) frames)
  | .string s => some (ended (.string s) frames)
  | .openArray => some (inArray frames)
  | .openObject => some (inObject frames)
  | _ => none

/-- The next state after a token, none where the text stops being JSON. -/
def step : Reader → Token → Option Reader
  | value frames, t => stepValue frames t
  | inArray frames, .closeArray => some (ended (.array []) frames)
  | inArray frames, t => stepValue (.array [] :: frames) t
  | afterItem items frames, .comma => some (value (.array items :: frames))
  | afterItem items frames, .closeArray => some (ended (.array items.reverse) frames)
  | inObject frames, .closeObject => some (ended (.object []) frames)
  | inObject frames, .string k => some (colon [] k frames)
  | key members frames, .string k => some (colon members k frames)
  | colon members k frames, .colon => some (value (.object members k :: frames))
  | afterMember members frames, .comma => some (key members frames)
  | afterMember members frames, .closeObject => some (ended (.object members.reverse) frames)
  | _, _ => none

/-- The tree of a text that breaks off with `t` inside the open frames. -/
def breakOff (t : Tree) : List Frame → Tree
  | [] => t
  | .array items :: frames => breakOff (.array (t :: items).reverse) frames
  | .object members k :: frames => breakOff (.object ((k, t) :: members).reverse) frames

/-- The tree read so far, when the text stops being JSON. A key that cannot be read is a member
without name. -/
def soFar : Reader → Tree
  | value frames => breakOff .broken frames
  | inArray frames => breakOff (.array [.broken]) frames
  | afterItem items frames => breakOff (.array (.broken :: items).reverse) frames
  | inObject frames => breakOff (.object [(none, .broken)]) frames
  | key members frames => breakOff (.object ((none, .broken) :: members).reverse) frames
  | colon members k frames => breakOff (.object ((k, .broken) :: members).reverse) frames
  | afterMember members frames => breakOff (.object ((none, .broken) :: members).reverse) frames
  | done root => root

/-- Reads on from a state to the end of the tokens. -/
def run : Reader → List Token → Document
  | done root, ts => ⟨root, ts.isEmpty⟩
  | r, [] => ⟨r.soFar, false⟩
  | r, t :: ts =>
    match r.step t with
    | some r => run r ts
    | none => ⟨r.soFar, false⟩

end Reader

/-- The document that tokens make. -/
def Document.ofTokens (ts : List Token) : Document := Reader.run (.value []) ts

/-- The document of a text. -/
def Document.ofText (s : String) : Document := ofTokens (Token.scan s.toList)

namespace Tree

mutual

/-- Whether the text is well-formed JSON throughout this tree. Contents do not matter: a number may
be too large and a string no text. -/
def wellFormed : Tree → Bool
  | broken => false
  | null => true
  | bool _ => true
  | number _ => true
  | string _ => true
  | array items => allWellFormed items
  | object members => membersWellFormed members

/-- `wellFormed` for all items. -/
def allWellFormed : List Tree → Bool
  | [] => true
  | t :: ts => wellFormed t && allWellFormed ts

/-- `wellFormed` for all members. -/
def membersWellFormed : List (Option String × Tree) → Bool
  | [] => true
  | (_, t) :: ms => wellFormed t && membersWellFormed ms

end

mutual

/-- The value of a tree, if it is well-formed and all its contents are there. Of members with one
name the last counts and the first gives the place. -/
def value? : Tree → Option Value
  | broken => none
  | null => some .null
  | bool b => some (.bool b)
  | number n => n.map .number
  | string s => s.map .string
  | array items => (values? items).map .array
  | object members => (members? [] members).map .object

/-- The values of all items. -/
def values? : List Tree → Option (List Value)
  | [] => some []
  | t :: ts =>
    match value? t, values? ts with
    | some v, some vs => some (v :: vs)
    | _, _ => none

/-- The values of all members, written into `found`. -/
def members? (found : List (String × Value)) :
    List (Option String × Tree) → Option (List (String × Value))
  | [] => some found
  | (some k, t) :: ms =>
    match value? t with
    | some v => members? (Assoc.set k v found) ms
    | none => none
  | (none, _) :: _ => none

end

/-- The value of the member called `name`, if the tree is an object that has one. -/
def member? (name : String) : Tree → Option Tree
  | object members => (members.find? fun m => m.1 = some name).map (·.2)
  | _ => none

end Tree

end Rebac.Json
