import Mathlib.Logic.Function.Basic
import Rebac.Graph.Traversal
/-!
# Renamed identifiers

`Graph.Renamed f g g'` says that two graphs in memory differ in nothing but the identifiers of their
nodes, and that those of the second are the images under `f` of those of the first: nodes stand at
the same positions, and the links are the same. If no two identifiers have one image, the same
changes to both graphs, with the identifiers replaced, keep them so (`Renamed.apply`,
`renamed_ofHistory`). Whatever is computed of positions, labels and links is then the same in both,
and so is what a search reaches (`Renamed.targets_eq`).
-/

namespace Rebac

variable {f : String → String}

/-- The node with the image of its identifier; its label stays. -/
def Node.rename (f : String → String) (node : Node) : Node := { node with id := f node.id }

/-- The change with the images of the identifiers in it. -/
def Change.rename (f : String → String) : Change → Change
  | .addNode node => .addNode (node.rename f)
  | .addEdge source label target => .addEdge (source.rename f) label (target.rename f)
  | .removeEdge source label target => .removeEdge (source.rename f) label (target.rename f)

theorem Node.rename_injective (hf : Function.Injective f) : Function.Injective (Node.rename f) := by
  intro a b h
  obtain ⟨hlabel, hid⟩ := Node.mk.inj h
  cases a
  cases b
  simp_all [hf.eq_iff]

/-- Two nodes compare as equal just when their images do. -/
theorem Node.compare_rename_eq_iff (hf : Function.Injective f) (a b : Node) :
    Node.compare (a.rename f) (b.rename f) = .eq ↔ Node.compare a b = .eq := by
  rw [Std.LawfulEqCmp.compare_eq_iff_eq, Std.LawfulEqCmp.compare_eq_iff_eq,
    (Node.rename_injective hf).eq_iff]

namespace Traversal

variable {g g' : Graph} {chain : String}

theorem step_congr (h : ∀ i, g'.successors chain i = g.successors chain i) (maxDepth : Nat)
    (t : Traversal) : step g' chain maxDepth t = step g chain maxDepth t := by
  unfold step
  simp only [h]

/-- A search depends on nothing but where the links of its chain lead. -/
theorem run_congr (h : ∀ i, g'.successors chain i = g.successors chain i) (maxDepth : Nat)
    (t : Traversal) : run g' chain maxDepth t = run g chain maxDepth t := by
  fun_induction run g chain maxDepth t with
  | case1 t hstep =>
    have hstep' := (step_congr h maxDepth t).trans hstep
    rw [run]
    split
    · rfl
    · next t' hsome => simp [hstep'] at hsome
  | case2 t t' hstep hless ih =>
    have hstep' := (step_congr h maxDepth t).trans hstep
    rw [run]
    split
    · next hnone => simp [hstep'] at hnone
    · next t'' hsome =>
      obtain rfl := Option.some.inj (hstep'.symm.trans hsome)
      exact ih

end Traversal

namespace Graph

/-- The second graph is the first with the images of the identifiers. -/
structure Renamed (f : String → String) (g g' : Graph) : Prop where
  nodes_eq : g'.nodes = g.nodes.map (Node.rename f)
  position?_eq : ∀ node : Node, g'.position? (node.rename f) = g.position? node
  links_eq : g'.links = g.links

theorem renamed_empty : Renamed f empty empty where
  nodes_eq := by simp [empty]
  position?_eq node := by simp [position?, empty]
  links_eq := rfl

namespace Renamed

variable {g g' : Graph}

/-! ### Every change keeps it -/

/-- The image of a new node is new, and comes to the same position. -/
theorem push (h : Renamed f g g') (hf : Function.Injective f) (node : Node) :
    Renamed f { g with nodes := g.nodes.push node, index := g.index.insert node g.nodes.size }
      { g' with
        nodes := g'.nodes.push (node.rename f)
        index := g'.index.insert (node.rename f) g'.nodes.size } where
  nodes_eq := by simp [h.nodes_eq]
  position?_eq other := by
    show (g'.index.insert (node.rename f) g'.nodes.size)[other.rename f]? =
      (g.index.insert node g.nodes.size)[other]?
    have hold : g'.index[other.rename f]? = g.index[other]? := h.position?_eq other
    have hsize : g'.nodes.size = g.nodes.size := by simp [h.nodes_eq]
    rw [Std.TreeMap.getElem?_insert, Std.TreeMap.getElem?_insert, hold, hsize]
    simp only [Node.compare_rename_eq_iff hf]
  links_eq := h.links_eq

theorem ensure (h : Renamed f g g') (hf : Function.Injective f) (node : Node) :
    Renamed f (g.ensure node).1 (g'.ensure (node.rename f)).1 ∧
      (g'.ensure (node.rename f)).2 = (g.ensure node).2 := by
  unfold Graph.ensure
  rw [h.position?_eq node]
  cases g.position? node with
  | some i => exact ⟨h, rfl⟩
  | none => exact ⟨h.push hf node, by simp [h.nodes_eq]⟩

theorem addLink (h : Renamed f g g') (link : Link) :
    Renamed f (g.addLink link) (g'.addLink link) := by
  unfold Graph.addLink
  rw [h.links_eq]
  split
  · exact h
  · exact ⟨h.nodes_eq, h.position?_eq, rfl⟩

theorem addEdge (h : Renamed f g g') (hf : Function.Injective f) (source : Node) (label : String)
    (target : Node) :
    Renamed f (g.addEdge source label target)
      (g'.addEdge (source.rename f) label (target.rename f)) := by
  obtain ⟨h₁, hi⟩ := h.ensure hf source
  obtain ⟨h₂, hj⟩ := h₁.ensure hf target
  unfold Graph.addEdge
  simp only [hi, hj]
  exact h₂.addLink _

theorem removeEdge (h : Renamed f g g') (source : Node) (label : String) (target : Node) :
    Renamed f (g.removeEdge source label target).1
      (g'.removeEdge (source.rename f) label (target.rename f)).1 := by
  unfold Graph.removeEdge
  rw [h.position?_eq source, h.position?_eq target]
  cases g.position? source with
  | none => exact h
  | some i =>
    cases g.position? target with
    | none => exact h
    | some j =>
      simp only [h.links_eq]
      split
      · exact ⟨h.nodes_eq, h.position?_eq, rfl⟩
      · exact h

theorem apply (h : Renamed f g g') (hf : Function.Injective f) (c : Change) :
    Renamed f (g.apply c) (g'.apply (c.rename f)) := by
  cases c with
  | addNode node => exact (h.ensure hf node).1
  | addEdge source label target => exact h.addEdge hf source label target
  | removeEdge source label target => exact h.removeEdge source label target

theorem applyAll (h : Renamed f g g') (hf : Function.Injective f) (history : List Change) :
    Renamed f (g.applyAll history) (g'.applyAll (history.map (Change.rename f))) := by
  induction history generalizing g g' with
  | nil => exact h
  | cons c rest ih => exact ih (h.apply hf c)

/-! ### What is the same in both graphs -/

theorem getElem?_nodes (h : Renamed f g g') (i : Nat) :
    g'.nodes[i]? = g.nodes[i]?.map (Node.rename f) := by
  simp [h.nodes_eq]

theorem hasLabel_eq (h : Renamed f g g') (label : String) (i : Nat) :
    g'.hasLabel label i = g.hasLabel label i := by
  unfold hasLabel
  rw [h.getElem?_nodes, Option.map_map]
  rfl

theorem labelled_eq (h : Renamed f g g') (label : String) :
    g'.labelled label = g.labelled label := by
  unfold labelled
  rw [h.nodes_eq, Array.size_map]
  exact List.filter_congr fun i _ => h.hasLabel_eq label i

theorem successors_eq (h : Renamed f g g') (label : String) (i : Nat) :
    g'.successors label i = g.successors label i := by
  unfold successors
  rw [h.links_eq]

theorem seeds_eq (h : Renamed f g g') (i : Nat) (edge via : String) :
    g'.seeds i edge via = g.seeds i edge via := by
  unfold seeds successors predecessors
  rw [h.links_eq, List.filter_congr fun m _ => h.hasLabel_eq via m]

theorem targets_eq (h : Renamed f g g') (i : Nat) (pattern : Pattern) :
    g'.targets i pattern = g.targets i pattern := by
  cases pattern with
  | direct edge => exact h.successors_eq edge i
  | chained edge via chain maxDepth =>
    simp only [targets, chainedTargets, h.seeds_eq, Traversal.run_congr (h.successors_eq chain)]

end Renamed

/-- The same history, with the identifiers replaced by images that are all different, makes the same
graph up to the identifiers. -/
theorem renamed_ofHistory (hf : Function.Injective f) (history : List Change) :
    Renamed f (ofHistory history) (ofHistory (history.map (Change.rename f))) :=
  renamed_empty.applyAll hf history

end Graph

end Rebac
