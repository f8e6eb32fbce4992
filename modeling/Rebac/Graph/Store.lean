import Std.Data.TreeMap
/-!
# A property graph in memory

Nodes are known by label and identifier and keep the order in which they were first mentioned; an
index leads from a node to its position. Links are labelled, directed and stored once. A link that
is added brings its end points with it; nothing ever removes a node.
-/

namespace Rebac

/-- A node. -/
structure Node where
  label : String
  id : String
deriving DecidableEq

/-- Nodes are compared by label and then by identifier. -/
def Node.compare : Node → Node → Ordering :=
  compareLex (compareOn Node.label) (compareOn Node.id)

instance : Std.TransCmp Node.compare :=
  inferInstanceAs (Std.TransCmp (compareLex (compareOn Node.label) (compareOn Node.id)))

instance : Std.LawfulEqCmp Node.compare where
  compare_self := Std.ReflCmp.compare_self
  eq_of_compare {a b} h := by
    cases a
    cases b
    simp_all [Node.compare, compareLex, compareOn, Ordering.then_eq_eq]

/-- A labelled, directed link between the nodes at two positions. -/
structure Link where
  source : Nat
  label : String
  target : Nat
deriving DecidableEq

/-- A property graph. -/
structure Graph where
  /-- The nodes in order of creation. -/
  nodes : Array Node
  /-- The position of each node. -/
  index : Std.TreeMap Node Nat Node.compare
  links : List Link

/-- A change of a graph. -/
inductive Change where
  | addNode (node : Node)
  | addEdge (source : Node) (label : String) (target : Node)
  | removeEdge (source : Node) (label : String) (target : Node)
deriving DecidableEq

namespace Graph

/-- The graph without nodes. -/
def empty : Graph := ⟨#[], ∅, []⟩

/-- The position of a node. -/
def position? (g : Graph) (node : Node) : Option Nat := g.index[node]?

/-- The graph with `node` in it, and the position of `node` there. -/
def ensure (g : Graph) (node : Node) : Graph × Nat :=
  match g.position? node with
  | some i => (g, i)
  | none =>
    ({ g with nodes := g.nodes.push node, index := g.index.insert node g.nodes.size },
      g.nodes.size)

/-- Adds a node, and says whether it is new. -/
def addNode (g : Graph) (node : Node) : Graph × Bool :=
  ((g.ensure node).1, (g.position? node).isNone)

/-- Adds a link unless it is there. -/
def addLink (g : Graph) (link : Link) : Graph :=
  if link ∈ g.links then g else { g with links := link :: g.links }

/-- Adds an edge and the end points that are missing, the source first. -/
def addEdge (g : Graph) (source : Node) (label : String) (target : Node) : Graph :=
  let (g, i) := g.ensure source
  let (g, j) := g.ensure target
  g.addLink ⟨i, label, j⟩

/-- Removes an edge, and says whether it was there. -/
def removeEdge (g : Graph) (source : Node) (label : String) (target : Node) : Graph × Bool :=
  match g.position? source, g.position? target with
  | some i, some j =>
    let link : Link := ⟨i, label, j⟩
    if link ∈ g.links then ({ g with links := g.links.erase link }, true) else (g, false)
  | _, _ => (g, false)

/-- The graph after a change. -/
def apply (g : Graph) : Change → Graph
  | .addNode node => (g.addNode node).1
  | .addEdge source label target => g.addEdge source label target
  | .removeEdge source label target => (g.removeEdge source label target).1

/-- The graph after a sequence of changes. -/
def applyAll (g : Graph) (changes : List Change) : Graph := changes.foldl apply g

/-- The graph that a history of changes makes out of nothing. -/
def ofHistory (changes : List Change) : Graph := empty.applyAll changes

/-- The number of nodes. -/
def nodeCount (g : Graph) : Nat := g.nodes.size

/-- The number of edges. -/
def edgeCount (g : Graph) : Nat := g.links.length

/-- Whether the node at a position has this label. -/
def hasLabel (g : Graph) (label : String) (i : Nat) : Bool :=
  g.nodes[i]?.map (·.label) = some label

/-- The positions of the nodes with this label, in order of creation. -/
def labelled (g : Graph) (label : String) : List Nat :=
  (List.range g.nodes.size).filter (g.hasLabel label)

/-- Where the links with this label lead from a position. -/
def successors (g : Graph) (label : String) (i : Nat) : List Nat :=
  (g.links.filter fun l => l.source = i ∧ l.label = label).map (·.target)

/-- From where the links with this label lead to a position. -/
def predecessors (g : Graph) (label : String) (i : Nat) : List Nat :=
  (g.links.filter fun l => l.target = i ∧ l.label = label).map (·.source)

end Graph

end Rebac
