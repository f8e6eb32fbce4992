import Mathlib.Data.Finset.Basic
import Rebac.Graph.Store
/-!
# What a history of changes makes

A graph in memory keeps its nodes twice, in an array and in an index, and its edges as links between
positions. Users of the graph see none of this: for them it is a sequence of nodes and a set of
edges between nodes. `GraphView` is that view, and the changes act on it as on plain mathematical
objects.

`Graph.Represents` ties the two together. Every change keeps it (`Represents.apply`), so the graph
of a history represents the view of that history (`represents_ofHistory`).
-/

namespace Rebac

/-- What stands at a position of a list with one more element. -/
theorem getElem?_concat_eq_some_iff {α : Type} {xs : List α} {x y : α} {i : Nat} :
    (xs ++ [x])[i]? = some y ↔ xs[i]? = some y ∨ i = xs.length ∧ x = y := by
  rw [List.getElem?_append]
  split
  · next hi =>
    have : i ≠ xs.length := by omega
    simp [this]
  · next hi =>
    have hout : xs[i]? = none := List.getElem?_eq_none (by omega)
    rw [hout, List.getElem?_singleton]
    split
    · next hz =>
      have : i = xs.length := by omega
      simp [this]
    · next hz =>
      have : i ≠ xs.length := by omega
      simp [this]

/-- A labelled, directed edge between two nodes. -/
structure Edge where
  source : Node
  label : String
  target : Node
deriving DecidableEq

/-- A property graph as its users see it. -/
structure GraphView where
  /-- The nodes, in the order in which they were first mentioned. -/
  nodes : List Node
  edges : Finset Edge

namespace GraphView

/-- Nothing has happened yet. -/
def empty : GraphView := ⟨[], ∅⟩

/-- A node is mentioned: it joins the others at the end, unless it is one of them. -/
def mention (v : GraphView) (node : Node) : GraphView :=
  if node ∈ v.nodes then v else { v with nodes := v.nodes ++ [node] }

/-- The view after a change. -/
def apply (v : GraphView) : Change → GraphView
  | .addNode node => v.mention node
  | .addEdge source label target =>
    let w := (v.mention source).mention target
    { w with edges := insert ⟨source, label, target⟩ w.edges }
  | .removeEdge source label target => { v with edges := v.edges.erase ⟨source, label, target⟩ }

/-- The view of a history of changes. -/
def ofHistory (history : List Change) : GraphView := history.foldl apply empty

/-- Mentioning a node moves no other node. -/
theorem getElem?_mention {v : GraphView} {node other : Node} {i : Nat}
    (h : v.nodes[i]? = some other) : (v.mention node).nodes[i]? = some other := by
  unfold mention
  split
  · exact h
  · obtain ⟨hi, -⟩ := List.getElem?_eq_some_iff.1 h
    rw [List.getElem?_append_left hi]
    exact h

end GraphView

namespace Graph

/-! ### The representation -/

/-- The graph `g` in memory stands for the view `v`. -/
structure Represents (g : Graph) (v : GraphView) : Prop where
  nodes_eq : g.nodes.toList = v.nodes
  /-- The index knows exactly the nodes, each at its position. -/
  position_iff : ∀ node i, g.position? node = some i ↔ v.nodes[i]? = some node
  /-- The links are exactly the edges. -/
  link_iff : ∀ i label j, (⟨i, label, j⟩ : Link) ∈ g.links ↔
    ∃ a b, v.nodes[i]? = some a ∧ v.nodes[j]? = some b ∧ (⟨a, label, b⟩ : Edge) ∈ v.edges
  /-- No link is stored twice. -/
  links_nodup : g.links.Nodup
  /-- Edges join nodes of the graph. -/
  ends_mem : ∀ e ∈ v.edges, e.source ∈ v.nodes ∧ e.target ∈ v.nodes

theorem represents_empty : empty.Represents GraphView.empty where
  nodes_eq := rfl
  position_iff node i := by simp [position?, empty, GraphView.empty]
  link_iff i label j := by simp [empty, GraphView.empty]
  links_nodup := List.nodup_nil
  ends_mem e he := by simp [GraphView.empty] at he

namespace Represents

variable {g : Graph} {v : GraphView}

theorem size_eq (h : g.Represents v) : g.nodes.size = v.nodes.length := by
  rw [← h.nodes_eq, Array.length_toList]

theorem getElem?_nodes (h : g.Represents v) (i : Nat) : g.nodes[i]? = v.nodes[i]? := by
  rw [← h.nodes_eq, Array.getElem?_toList]

/-- A node stands at one position only, the one that the index gives. -/
theorem position_unique (h : g.Represents v) {node : Node} {i j : Nat}
    (hi : v.nodes[i]? = some node) (hj : v.nodes[j]? = some node) : i = j := by
  have hpos := (h.position_iff node i).2 hi
  rw [(h.position_iff node j).2 hj] at hpos
  exact (Option.some.inj hpos).symm

theorem nodes_nodup (h : g.Represents v) : v.nodes.Nodup := by
  rw [List.nodup_iff_getElem?_ne_getElem?]
  intro i j hij hj heq
  have hlast : v.nodes[j]? = some v.nodes[j] := List.getElem?_eq_getElem hj
  have := h.position_unique (heq.trans hlast) hlast
  omega

/-- What is not in the index is no node. -/
theorem position?_eq_none_iff (h : g.Represents v) {node : Node} :
    g.position? node = none ↔ node ∉ v.nodes := by
  constructor
  · intro hnone hmem
    obtain ⟨i, hi⟩ := List.mem_iff_getElem?.1 hmem
    rw [(h.position_iff node i).2 hi] at hnone
    cases hnone
  · intro hmem
    cases hpos : g.position? node with
    | none => rfl
    | some i => exact absurd (List.mem_of_getElem? ((h.position_iff node i).1 hpos)) hmem

/-! ### Every change keeps it -/

/-- A node that was not there comes last, and the others stay where they are. -/
theorem push (h : g.Represents v) {node : Node} (hnew : node ∉ v.nodes) :
    Graph.Represents
      { g with nodes := g.nodes.push node, index := g.index.insert node g.nodes.size }
      { v with nodes := v.nodes ++ [node] } where
  nodes_eq := by simp [h.nodes_eq]
  position_iff other i := by
    show (g.index.insert node g.nodes.size)[other]? = some i ↔ (v.nodes ++ [node])[i]? = some other
    rw [Std.TreeMap.getElem?_insert, getElem?_concat_eq_some_iff, h.size_eq]
    have hold : g.index[other]? = some i ↔ v.nodes[i]? = some other := h.position_iff other i
    by_cases heq : node = other
    · -- the index points to the end, and the node stands nowhere before it
      subst heq
      have hself : Node.compare node node = .eq := Std.ReflCmp.compare_self
      have hnot : v.nodes[i]? ≠ some node := fun hi => hnew (List.mem_of_getElem? hi)
      rw [if_pos hself]
      simp [hnot, eq_comm]
    · have hne : Node.compare node other ≠ .eq := fun hc =>
        heq (Std.LawfulEqCmp.eq_of_compare hc)
      rw [if_neg hne, hold]
      simp [heq]
  link_iff i label j := by
    show (⟨i, label, j⟩ : Link) ∈ g.links ↔ _
    rw [h.link_iff i label j]
    constructor
    · intro hold
      obtain ⟨a, b, ha, hb, he⟩ := hold
      exact ⟨a, b, getElem?_concat_eq_some_iff.2 (Or.inl ha),
        getElem?_concat_eq_some_iff.2 (Or.inl hb), he⟩
    · -- no edge ends at the new node, so both ends have kept their positions
      intro hnow
      obtain ⟨a, b, ha, hb, he⟩ := hnow
      obtain ⟨hsource, htarget⟩ := h.ends_mem _ he
      refine ⟨a, b, ?_, ?_, he⟩
      · rcases getElem?_concat_eq_some_iff.1 ha with ha | ⟨-, rfl⟩
        · exact ha
        · exact absurd hsource hnew
      · rcases getElem?_concat_eq_some_iff.1 hb with hb | ⟨-, rfl⟩
        · exact hb
        · exact absurd htarget hnew
  links_nodup := h.links_nodup
  ends_mem e he := by
    obtain ⟨hsource, htarget⟩ := h.ends_mem e he
    exact ⟨List.mem_append_left _ hsource, List.mem_append_left _ htarget⟩

/-- Making sure of a node mentions it, and finds its position. -/
theorem ensure (h : g.Represents v) (node : Node) :
    (g.ensure node).1.Represents (v.mention node) ∧
      (v.mention node).nodes[(g.ensure node).2]? = some node := by
  unfold Graph.ensure GraphView.mention
  cases hpos : g.position? node with
  | some i =>
    -- the node is known, and nothing changes
    have hi := (h.position_iff node i).1 hpos
    rw [if_pos (List.mem_of_getElem? hi)]
    exact ⟨h, hi⟩
  | none =>
    have hnew : node ∉ v.nodes := h.position?_eq_none_iff.1 hpos
    rw [if_neg hnew]
    refine ⟨h.push hnew, ?_⟩
    exact getElem?_concat_eq_some_iff.2 (Or.inr ⟨h.size_eq, rfl⟩)

/-- Adding a link adds its edge. -/
theorem addLink (h : g.Represents v) {a b : Node} {i j : Nat} (ha : v.nodes[i]? = some a)
    (hb : v.nodes[j]? = some b) (label : String) :
    (g.addLink ⟨i, label, j⟩).Represents { v with edges := insert ⟨a, label, b⟩ v.edges } := by
  unfold Graph.addLink
  split
  · next hmem =>
    -- the link was there, so its edge was there
    obtain ⟨a', b', ha', hb', he⟩ := (h.link_iff i label j).1 hmem
    rw [ha] at ha'
    rw [hb] at hb'
    obtain rfl := Option.some.inj ha'
    obtain rfl := Option.some.inj hb'
    rw [Finset.insert_eq_of_mem he]
    exact h
  · next hmem =>
    refine ⟨h.nodes_eq, h.position_iff, ?_, List.nodup_cons.2 ⟨hmem, h.links_nodup⟩, ?_⟩
    · intro k label' l
      rw [List.mem_cons, h.link_iff k label' l]
      constructor
      · intro hlink
        rcases hlink with heq | ⟨c, d, hc, hd, he⟩
        · obtain ⟨rfl, rfl, rfl⟩ := Link.mk.inj heq
          exact ⟨a, b, ha, hb, Finset.mem_insert_self _ _⟩
        · exact ⟨c, d, hc, hd, Finset.mem_insert_of_mem he⟩
      · -- the edge is the new one, at the only positions it can have, or an old one
        intro hedge
        obtain ⟨c, d, hc, hd, he⟩ := hedge
        rcases Finset.mem_insert.1 he with heq | he
        · obtain ⟨rfl, rfl, rfl⟩ := Edge.mk.inj heq
          rw [h.position_unique hc ha, h.position_unique hd hb]
          exact Or.inl rfl
        · exact Or.inr ⟨c, d, hc, hd, he⟩
    · intro e he
      rcases Finset.mem_insert.1 he with rfl | he
      · exact ⟨List.mem_of_getElem? ha, List.mem_of_getElem? hb⟩
      · exact h.ends_mem e he

theorem addEdge (h : g.Represents v) (source : Node) (label : String) (target : Node) :
    (g.addEdge source label target).Represents (v.apply (.addEdge source label target)) := by
  obtain ⟨hg, hi⟩ := h.ensure source
  obtain ⟨hg', hj⟩ := hg.ensure target
  -- the target may be new, but the source keeps its position
  exact hg'.addLink (GraphView.getElem?_mention hi) hj label

/-- Taking a link out takes its edge out. -/
theorem eraseLink (h : g.Represents v) {a b : Node} {i j : Nat} (ha : v.nodes[i]? = some a)
    (hb : v.nodes[j]? = some b) (label : String) :
    Graph.Represents { g with links := g.links.erase ⟨i, label, j⟩ }
      { v with edges := v.edges.erase ⟨a, label, b⟩ } where
  nodes_eq := h.nodes_eq
  position_iff := h.position_iff
  link_iff k label' l := by
    show (⟨k, label', l⟩ : Link) ∈ g.links.erase ⟨i, label, j⟩ ↔ _
    rw [h.links_nodup.mem_erase_iff, h.link_iff k label' l]
    constructor
    · intro hlink
      obtain ⟨hne, c, d, hc, hd, he⟩ := hlink
      refine ⟨c, d, hc, hd, Finset.mem_erase.2 ⟨?_, he⟩⟩
      intro heq
      obtain ⟨rfl, rfl, rfl⟩ := Edge.mk.inj heq
      exact hne (by rw [h.position_unique hc ha, h.position_unique hd hb])
    · intro hedge
      obtain ⟨c, d, hc, hd, he⟩ := hedge
      obtain ⟨hne, he⟩ := Finset.mem_erase.1 he
      refine ⟨?_, c, d, hc, hd, he⟩
      intro heq
      obtain ⟨rfl, rfl, rfl⟩ := Link.mk.inj heq
      rw [ha] at hc
      rw [hb] at hd
      exact hne (by rw [Option.some.inj hc, Option.some.inj hd])
  links_nodup := h.links_nodup.erase _
  ends_mem e he := h.ends_mem e (Finset.mem_of_mem_erase he)

/-- An edge that is not there can be taken out of the view without effect. -/
theorem erase_of_not_mem (h : g.Represents v) {e : Edge} (he : e ∉ v.edges) :
    g.Represents { v with edges := v.edges.erase e } := by
  rw [Finset.erase_eq_of_notMem he]
  exact h

theorem removeEdge (h : g.Represents v) (source : Node) (label : String) (target : Node) :
    (g.removeEdge source label target).1.Represents
      (v.apply (.removeEdge source label target)) := by
  unfold Graph.removeEdge
  split
  · next i j hi hj =>
    -- both ends are there, and so is the link just when the edge is
    have ha := (h.position_iff source i).1 hi
    have hb := (h.position_iff target j).1 hj
    simp only
    split
    · exact h.eraseLink ha hb label
    · next hmem =>
      apply h.erase_of_not_mem
      intro he
      exact hmem ((h.link_iff i label j).2 ⟨source, target, ha, hb, he⟩)
  · next hmissing =>
    -- an end point is missing, so there is no such edge
    apply h.erase_of_not_mem
    intro he
    obtain ⟨hsource, htarget⟩ := h.ends_mem _ he
    obtain ⟨i, hi⟩ := List.mem_iff_getElem?.1 hsource
    obtain ⟨j, hj⟩ := List.mem_iff_getElem?.1 htarget
    exact hmissing i j ((h.position_iff source i).2 hi) ((h.position_iff target j).2 hj)

/-- A change does to the graph what it does to the view. -/
theorem apply (h : g.Represents v) (c : Change) : (g.apply c).Represents (v.apply c) := by
  cases c with
  | addNode node => exact (h.ensure node).1
  | addEdge source label target => exact h.addEdge source label target
  | removeEdge source label target => exact h.removeEdge source label target

/-- So does a sequence of changes. -/
theorem applyAll (h : g.Represents v) (history : List Change) :
    (g.applyAll history).Represents (history.foldl GraphView.apply v) := by
  induction history generalizing g v with
  | nil => exact h
  | cons c rest ih => exact ih (h.apply c)

end Represents

/-- The graph of a history stands for the view of that history. -/
theorem represents_ofHistory (history : List Change) :
    (ofHistory history).Represents (GraphView.ofHistory history) :=
  represents_empty.applyAll history

end Graph

end Rebac
