import Rebac.Proofs.Graph.View
/-!
# Walks

A walk follows edges of one label and may come back to where it has been. In a graph in memory it
goes from position to position, in a view from node to node, and where the graph represents the view
the two say the same (`Graph.Represents.walk_iff`).
-/

namespace Rebac

/-- `n` steps along `joined` lead from the first to the second. -/
inductive Walk {α : Type} (joined : α → α → Prop) : Nat → α → α → Prop where
  | refl (a : α) : Walk joined 0 a a
  | step {n : Nat} {a b c : α} : Walk joined n a b → joined b c → Walk joined (n + 1) a c

/-- A walk stays one where more is joined. -/
theorem Walk.mono {α : Type} {joined joined' : α → α → Prop} {n : Nat} {a b : α}
    (h : ∀ a b, joined a b → joined' a b) (hw : Walk joined n a b) : Walk joined' n a b := by
  induction hw with
  | refl a => exact .refl a
  | step _ hl ih => exact ih.step (h _ _ hl)

/-- An edge with this label leads from `a` to `b`. -/
def GraphView.HasEdge (v : GraphView) (label : String) (a b : Node) : Prop :=
  (⟨a, label, b⟩ : Edge) ∈ v.edges

instance (v : GraphView) (label : String) (a b : Node) : Decidable (v.HasEdge label a b) :=
  inferInstanceAs (Decidable ((⟨a, label, b⟩ : Edge) ∈ v.edges))

namespace Graph

/-- A link with this label leads from `i` to `j`. -/
def Linked (g : Graph) (label : String) (i j : Nat) : Prop := (⟨i, label, j⟩ : Link) ∈ g.links

theorem mem_successors {g : Graph} {label : String} {i j : Nat} :
    j ∈ g.successors label i ↔ g.Linked label i j := by
  simp only [successors, Linked, List.mem_map, List.mem_filter, decide_eq_true_eq]
  constructor
  · intro hmem
    obtain ⟨l, ⟨hl, rfl, rfl⟩, rfl⟩ := hmem
    exact hl
  · intro hl
    exact ⟨⟨i, label, j⟩, ⟨hl, rfl, rfl⟩, rfl⟩

theorem mem_predecessors {g : Graph} {label : String} {i j : Nat} :
    j ∈ g.predecessors label i ↔ g.Linked label j i := by
  simp only [predecessors, Linked, List.mem_map, List.mem_filter, decide_eq_true_eq]
  constructor
  · intro hmem
    obtain ⟨l, ⟨hl, rfl, rfl⟩, rfl⟩ := hmem
    exact hl
  · intro hl
    exact ⟨⟨j, label, i⟩, ⟨hl, rfl, rfl⟩, rfl⟩

namespace Represents

variable {g : Graph} {v : GraphView} {label : String} {a b : Node} {i j : Nat}

theorem linked_iff (h : g.Represents v) (ha : v.nodes[i]? = some a) (hb : v.nodes[j]? = some b) :
    g.Linked label i j ↔ v.HasEdge label a b := by
  unfold Linked
  rw [h.link_iff]
  constructor
  · intro hedge
    obtain ⟨a', b', ha', hb', he⟩ := hedge
    rw [ha] at ha'
    rw [hb] at hb'
    rw [Option.some.inj ha', Option.some.inj hb']
    exact he
  · intro he
    exact ⟨a, b, ha, hb, he⟩

/-- A link starts at a node. -/
theorem exists_source (h : g.Represents v) (hl : g.Linked label i j) :
    ∃ a, v.nodes[i]? = some a := by
  obtain ⟨a, -, ha, -, -⟩ := (h.link_iff i label j).1 hl
  exact ⟨a, ha⟩

/-- A link ends at a node. -/
theorem exists_target (h : g.Represents v) (hl : g.Linked label i j) :
    ∃ b, v.nodes[j]? = some b := by
  obtain ⟨-, b, -, hb, -⟩ := (h.link_iff i label j).1 hl
  exact ⟨b, hb⟩

theorem walk_iff (h : g.Represents v) {n : Nat} (ha : v.nodes[i]? = some a)
    (hb : v.nodes[j]? = some b) :
    Walk (g.Linked label) n i j ↔ Walk (v.HasEdge label) n a b := by
  constructor
  · intro hw
    induction hw generalizing b with
    | refl =>
      rw [ha] at hb
      obtain rfl := Option.some.inj hb
      exact Walk.refl a
    | step hw hl ih =>
      -- the last link comes from a node, so the walk before it leads there
      obtain ⟨c, hc⟩ := h.exists_source hl
      exact Walk.step (ih ha hc) ((h.linked_iff hc hb).1 hl)
  · intro hw
    induction hw generalizing j with
    | refl =>
      rw [h.position_unique ha hb]
      exact Walk.refl j
    | step hw he ih =>
      -- the last edge starts at a node of the graph, which has a position
      obtain ⟨hsource, -⟩ := h.ends_mem _ he
      obtain ⟨k, hk⟩ := List.mem_iff_getElem?.1 hsource
      exact Walk.step (ih ha hk) ((h.linked_iff hk hb).2 he)

end Represents

end Graph

end Rebac
