import Rebac.Text.Upper
/-!
# Labels

How the names of a policy become labels of the graph: a node label has its first letter in upper
case, an edge label all of them.
-/

namespace Rebac

/-- The node label of a type name. -/
def nodeLabel (name : String) : String := Text.capitalize name

/-- The edge label of a relation name. -/
def edgeLabel (name : String) : String := Text.upper name

end Rebac
