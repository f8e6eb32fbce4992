import Mathlib.Data.Finset.Card
import Rebac.Proofs.Graph.Listing
import Rebac.Proofs.Row
/-!
# What a graph keeps of its history

The view of a history is defined change by change. Here it is read off the history as a whole: its
nodes are those that are mentioned, each where it is mentioned first
(`GraphView.nodes_ofHistory`), and its edges are those that are added and not removed afterwards
(`GraphView.mem_edges_ofHistory`).

An operation on a graph in memory leaves a graph and says whether it found something to do. What it
says is true of the view, and it leaves the graph as it is when there is nothing to do; and what the
graph counts are the nodes and the edges of the view (`Graph.store_refines_view`).
-/

namespace Rebac

/-! ### The view of a whole history -/

/-- The nodes that a change mentions, in order. Removing an edge mentions none. -/
def Change.mentions : Change → List Node
  | .addNode node => [node]
  | .addEdge source _ target => [source, target]
  | .removeEdge _ _ _ => []

namespace Edge

/-- The change that adds an edge. -/
def addition (e : Edge) : Change := .addEdge e.source e.label e.target

/-- The change that removes it. -/
def removal (e : Edge) : Change := .removeEdge e.source e.label e.target

/-- The history adds the edge, and does not remove it afterwards. -/
def Stands (e : Edge) (history : List Change) : Prop :=
  ∃ before after, history = before ++ e.addition :: after ∧ e.removal ∉ after

variable {e : Edge} {source target : Node} {label : String}

theorem addEdge_eq_addition_iff :
    Change.addEdge source label target = e.addition ↔ e = ⟨source, label, target⟩ := by
  cases e
  simp [addition, eq_comm]

theorem removeEdge_eq_removal_iff :
    Change.removeEdge source label target = e.removal ↔ e = ⟨source, label, target⟩ := by
  cases e
  simp [removal, eq_comm]

theorem not_stands_nil : ¬ e.Stands [] := by
  intro hstands
  obtain ⟨before, after, heq, -⟩ := hstands
  simp at heq

/-- The last change decides, if it is about the edge; and if not, those before it do. -/
theorem stands_concat_iff {history : List Change} {c : Change} :
    e.Stands (history ++ [c]) ↔ c = e.addition ∨ e.Stands history ∧ c ≠ e.removal := by
  constructor
  · intro hstands
    obtain ⟨before, after, heq, hafter⟩ := hstands
    -- the change that adds the edge is the last one, or the last one comes after it
    rcases List.eq_nil_or_concat after with rfl | ⟨init, last, rfl⟩
    · obtain ⟨-, hend⟩ := List.append_inj' heq rfl
      exact Or.inl (List.cons.inj hend).1
    · rw [List.concat_eq_append, ← List.cons_append, ← List.append_assoc] at heq
      obtain ⟨hinit, hend⟩ := List.append_inj' heq rfl
      obtain rfl := (List.cons.inj hend).1
      simp only [List.concat_eq_append, List.mem_append, List.mem_singleton, not_or] at hafter
      exact Or.inr ⟨⟨before, init, hinit, hafter.1⟩, Ne.symm hafter.2⟩
  · intro hlast
    rcases hlast with rfl | ⟨⟨before, after, rfl, hafter⟩, hne⟩
    · exact ⟨history, [], rfl, List.not_mem_nil⟩
    · refine ⟨before, after ++ [c], by simp, ?_⟩
      simp only [List.mem_append, List.mem_singleton, not_or]
      exact ⟨hafter, Ne.symm hne⟩

end Edge

namespace GraphView

variable {v : GraphView} {mentioned : List Node}

/-- A node that is mentioned comes last if it is new. -/
theorem nodes_mention (h : v.nodes = mentioned.eraseDups) (node : Node) :
    (v.mention node).nodes = (mentioned ++ [node]).eraseDups := by
  rw [eraseDups_concat]
  unfold mention
  rw [h]
  by_cases hmem : node ∈ mentioned
  · rw [if_pos (List.mem_eraseDups.2 hmem), if_pos hmem, h]
  · rw [if_neg fun hnode => hmem (List.mem_eraseDups.1 hnode), if_neg hmem]

/-- A change mentions its nodes one after the other. -/
theorem nodes_apply (h : v.nodes = mentioned.eraseDups) (c : Change) :
    (v.apply c).nodes = (mentioned ++ c.mentions).eraseDups := by
  cases c with
  | addNode node => exact nodes_mention h node
  | addEdge source label target =>
    have hboth := nodes_mention (nodes_mention h source) target
    rw [List.append_assoc] at hboth
    exact hboth
  | removeEdge source label target =>
    rw [Change.mentions, List.append_nil]
    exact h

/-- Mentioning a node leaves the edges alone. -/
@[simp] theorem edges_mention (v : GraphView) (node : Node) : (v.mention node).edges = v.edges := by
  unfold mention
  split <;> rfl

/-- A change adds its edge, or removes it. -/
theorem mem_edges_apply {c : Change} {e : Edge} :
    e ∈ (v.apply c).edges ↔ c = e.addition ∨ e ∈ v.edges ∧ c ≠ e.removal := by
  cases c with
  | addNode node => simp [apply, Edge.addition, Edge.removal]
  | addEdge source label target =>
    have hother : Change.addEdge source label target ≠ e.removal := by simp [Edge.removal]
    simp [apply, Edge.addEdge_eq_addition_iff, hother]
  | removeEdge source label target =>
    have hother : Change.removeEdge source label target ≠ e.addition := by simp [Edge.addition]
    simp [apply, Edge.removeEdge_eq_removal_iff, hother, and_comm]

/-- Where no node stands twice, an edge brings with it the nodes that are missing. -/
theorem apply_addEdge (h : v.nodes.Nodup) (source : Node) (label : String) (target : Node) :
    v.apply (.addEdge source label target) =
      ⟨(v.nodes ++ [source, target]).eraseDups, insert ⟨source, label, target⟩ v.edges⟩ := by
  have hnodes := nodes_apply (eraseDups_of_nodup h).symm (.addEdge source label target)
  have hedges : (v.apply (.addEdge source label target)).edges =
      insert ⟨source, label, target⟩ v.edges := by
    simp [apply]
  rw [Change.mentions] at hnodes
  rw [← hnodes, ← hedges]

theorem ofHistory_concat (history : List Change) (c : Change) :
    ofHistory (history ++ [c]) = (ofHistory history).apply c := by
  simp [ofHistory]

/-- The nodes are those that the history mentions, in the order in which it first does. -/
theorem nodes_ofHistory (history : List Change) :
    (ofHistory history).nodes = (history.flatMap Change.mentions).eraseDups := by
  induction history using List.reverseRecOn with
  | nil => rfl
  | append_singleton history c ih =>
    rw [ofHistory_concat, nodes_apply ih, List.flatMap_append, List.flatMap_singleton]

/-- The edges are those that the history adds and does not remove afterwards. -/
theorem mem_edges_ofHistory {history : List Change} {e : Edge} :
    e ∈ (ofHistory history).edges ↔ e.Stands history := by
  induction history using List.reverseRecOn with
  | nil =>
    constructor
    · intro he
      exact absurd he (Finset.notMem_empty e)
    · intro hstands
      exact absurd hstands Edge.not_stands_nil
  | append_singleton history c ih =>
    rw [ofHistory_concat, mem_edges_apply, Edge.stands_concat_iff, ih]

/-- Mentioning a node keeps the others in front of it. -/
theorem prefix_mention (v : GraphView) (node : Node) : v.nodes <+: (v.mention node).nodes := by
  unfold mention
  split
  · exact List.prefix_refl _
  · exact List.prefix_append _ _

/-- No change removes a node or moves one. -/
theorem prefix_apply (v : GraphView) (c : Change) : v.nodes <+: (v.apply c).nodes := by
  cases c with
  | addNode node => exact v.prefix_mention node
  | addEdge source label target =>
    exact (v.prefix_mention source).trans ((v.mention source).prefix_mention target)
  | removeEdge source label target => exact List.prefix_refl _

/-- So nor does a sequence of changes. -/
theorem prefix_foldl_apply (v : GraphView) (changes : List Change) :
    v.nodes <+: (changes.foldl apply v).nodes := by
  induction changes generalizing v with
  | nil => exact List.prefix_refl _
  | cons c rest ih => exact (v.prefix_apply c).trans (ih (v.apply c))

/-- The link that an edge is stored as. -/
def link (v : GraphView) (e : Edge) : Link :=
  ⟨v.nodes.idxOf e.source, e.label, v.nodes.idxOf e.target⟩

end GraphView

namespace Graph.Represents

variable {g : Graph} {v : GraphView} {node source target : Node} {label : String}

/-! ### What is stored -/

theorem getElem?_eq_some_iff_idxOf (h : g.Represents v) {i : Nat} :
    v.nodes[i]? = some node ↔ node ∈ v.nodes ∧ v.nodes.idxOf node = i := by
  constructor
  · intro hi
    have hmem : node ∈ v.nodes := List.mem_of_getElem? hi
    exact ⟨hmem, h.position_unique (List.getElem?_idxOf hmem) hi⟩
  · rintro ⟨hmem, rfl⟩
    exact List.getElem?_idxOf hmem

/-- The links are what the edges are stored as. -/
theorem mem_links_iff (h : g.Represents v) {l : Link} :
    l ∈ g.links ↔ ∃ e ∈ v.edges, v.link e = l := by
  obtain ⟨i, label, j⟩ := l
  rw [h.link_iff]
  constructor
  · intro hstored
    obtain ⟨a, b, ha, hb, he⟩ := hstored
    obtain ⟨-, hi⟩ := h.getElem?_eq_some_iff_idxOf.1 ha
    obtain ⟨-, hj⟩ := h.getElem?_eq_some_iff_idxOf.1 hb
    refine ⟨_, he, ?_⟩
    rw [GraphView.link, hi, hj]
  · intro hedge
    obtain ⟨e, he, hlink⟩ := hedge
    obtain ⟨rfl, rfl, rfl⟩ := Link.mk.inj hlink
    obtain ⟨hsource, htarget⟩ := h.ends_mem e he
    exact ⟨e.source, e.target, List.getElem?_idxOf hsource, List.getElem?_idxOf htarget, he⟩

/-- Different edges are stored as different links. -/
theorem injOn_link (h : g.Represents v) : Set.InjOn v.link v.edges := by
  intro d hd e he hlink
  obtain ⟨hsource, hlabel, htarget⟩ := Link.mk.inj hlink
  obtain ⟨hds, hdt⟩ := h.ends_mem d hd
  have hs : d.source = e.source := (List.idxOf_inj hds).1 hsource
  have ht : d.target = e.target := (List.idxOf_inj hdt).1 htarget
  cases d
  cases e
  simp_all

/-- As many links are stored as there are edges. -/
theorem edgeCount_eq (h : g.Represents v) : g.edgeCount = v.edges.card := by
  have himage : g.links.toFinset = v.edges.image v.link := by
    ext l
    rw [List.mem_toFinset, h.mem_links_iff, Finset.mem_image]
  unfold edgeCount
  rw [← List.toFinset_card_of_nodup h.links_nodup, himage,
    Finset.card_image_of_injOn h.injOn_link]

/-! ### What the operations answer -/

/-- A node that is there has a position. -/
theorem exists_position? (h : g.Represents v) (hmem : node ∈ v.nodes) :
    ∃ i, g.position? node = some i :=
  ⟨v.nodes.idxOf node, (h.position_iff _ _).2 (List.getElem?_idxOf hmem)⟩

theorem ensure_of_position? {i : Nat} (hi : g.position? node = some i) :
    g.ensure node = (g, i) := by
  unfold Graph.ensure
  rw [hi]

/-- A node that is there is not added again. -/
theorem addNode_of_mem (h : g.Represents v) (hmem : node ∈ v.nodes) :
    g.addNode node = (g, false) := by
  obtain ⟨i, hi⟩ := h.exists_position? hmem
  unfold Graph.addNode
  rw [ensure_of_position? hi, hi]
  rfl

/-- A new node is added at the end. -/
theorem addNode_of_not_mem (h : g.Represents v) (hnew : node ∉ v.nodes) :
    (g.addNode node).2 = true ∧
      (g.addNode node).1.Represents { v with nodes := v.nodes ++ [node] } := by
  have hmention : v.mention node = { v with nodes := v.nodes ++ [node] } := if_neg hnew
  have hensure := (h.ensure node).1
  rw [hmention] at hensure
  refine ⟨?_, hensure⟩
  unfold Graph.addNode
  rw [h.position?_eq_none_iff.2 hnew]
  rfl

/-- An edge that is there is stored between the positions that the index gives to its ends. -/
theorem exists_link (h : g.Represents v) (he : ⟨source, label, target⟩ ∈ v.edges) :
    ∃ i j, g.position? source = some i ∧ g.position? target = some j ∧
      (⟨i, label, j⟩ : Link) ∈ g.links := by
  obtain ⟨hsource, htarget⟩ := h.ends_mem _ he
  obtain ⟨i, hi⟩ := h.exists_position? hsource
  obtain ⟨j, hj⟩ := h.exists_position? htarget
  have ha := (h.position_iff source i).1 hi
  have hb := (h.position_iff target j).1 hj
  exact ⟨i, j, hi, hj, (h.linked_iff ha hb).2 he⟩

/-- An edge that is there is not added again. -/
theorem addEdge_of_mem (h : g.Represents v) (he : ⟨source, label, target⟩ ∈ v.edges) :
    g.addEdge source label target = g := by
  obtain ⟨i, j, hi, hj, hlink⟩ := h.exists_link he
  unfold Graph.addEdge
  simp only [ensure_of_position? hi, ensure_of_position? hj]
  exact if_pos hlink

/-- An edge is found for removal when it is there. -/
theorem removeEdge_of_mem (h : g.Represents v) (he : ⟨source, label, target⟩ ∈ v.edges) :
    (g.removeEdge source label target).2 = true := by
  obtain ⟨i, j, hi, hj, hlink⟩ := h.exists_link he
  unfold Graph.removeEdge
  simp only [hi, hj, if_pos hlink]

/-- If it is not, nothing is removed. -/
theorem removeEdge_of_not_mem (h : g.Represents v) (he : ⟨source, label, target⟩ ∉ v.edges) :
    g.removeEdge source label target = (g, false) := by
  unfold Graph.removeEdge
  split
  · next i j hi hj =>
    have ha := (h.position_iff source i).1 hi
    have hb := (h.position_iff target j).1 hj
    exact if_neg fun hlink => he ((h.linked_iff ha hb).1 hlink)
  · rfl

end Graph.Represents

/-- A graph in memory keeps of any history the nodes that are mentioned, each once, in the order in
which they first are, and the edges that are added and not removed afterwards; it knows each node by
its position, and counts the nodes and the edges. To add a node says whether it is new, and puts it
at the end. To add an edge adds what is missing, first the source, then the target, then the edge.
To remove an edge says whether it was there, and takes out nothing else. What there is no need to
change stays as it is, and no change removes a node or moves one. -/
theorem Graph.store_refines_view (history : List Change) :
    let g := ofHistory history
    let v := GraphView.ofHistory history
    g.Represents v ∧
    v.nodes = (history.flatMap Change.mentions).eraseDups ∧ v.nodes.Nodup ∧
    (∀ e, e ∈ v.edges ↔ e.Stands history) ∧
    g.nodeCount = v.nodes.length ∧ g.edgeCount = v.edges.card ∧
    (∀ node,
      (node ∈ v.nodes → g.addNode node = (g, false)) ∧
      (node ∉ v.nodes → (g.addNode node).2 = true ∧
        (g.addNode node).1.Represents { v with nodes := v.nodes ++ [node] })) ∧
    (∀ source label target,
      let e : Edge := ⟨source, label, target⟩
      (g.addEdge source label target).Represents
        ⟨(v.nodes ++ [source, target]).eraseDups, insert e v.edges⟩ ∧
      (e ∈ v.edges → g.addEdge source label target = g) ∧
      (e ∈ v.edges → (g.removeEdge source label target).2 = true ∧
        (g.removeEdge source label target).1.Represents { v with edges := v.edges.erase e }) ∧
      (e ∉ v.edges → g.removeEdge source label target = (g, false))) ∧
    ∀ changes, g.nodes.toList <+: (g.applyAll changes).nodes.toList := by
  intro g v
  have h : g.Represents v := represents_ofHistory history
  refine ⟨h, GraphView.nodes_ofHistory history, h.nodes_nodup,
    fun e => GraphView.mem_edges_ofHistory, h.size_eq, h.edgeCount_eq, ?_, ?_, ?_⟩
  · intro node
    exact ⟨h.addNode_of_mem, h.addNode_of_not_mem⟩
  · intro source label target e
    refine ⟨?_, h.addEdge_of_mem, ?_, h.removeEdge_of_not_mem⟩
    · rw [← GraphView.apply_addEdge h.nodes_nodup]
      exact h.addEdge source label target
    · intro he
      exact ⟨h.removeEdge_of_mem he, h.removeEdge source label target⟩
  · intro changes
    rw [h.nodes_eq, (h.applyAll changes).nodes_eq]
    exact v.prefix_foldl_apply changes

namespace Loops

/-- A node is linked to itself, twice over, and one of the links is taken out and put back. -/
def history : List Change :=
  [.addEdge ⟨"User", "1"⟩ "MEMBER" ⟨"User", "1"⟩, .addEdge ⟨"User", "1"⟩ "TEAM" ⟨"User", "1"⟩,
   .removeEdge ⟨"User", "1"⟩ "MEMBER" ⟨"User", "1"⟩,
   .removeEdge ⟨"User", "1"⟩ "OWNER" ⟨"User", "2"⟩, .addNode ⟨"Team", "1"⟩,
   .addEdge ⟨"User", "1"⟩ "MEMBER" ⟨"User", "1"⟩]

end Loops

/-- Of that history two nodes and two edges are kept. The edge that was put back can be removed once
more, and the one that never was cannot. -/
theorem Graph.store_refines_view_loops :
    let g := ofHistory Loops.history
    let user : Node := ⟨"User", "1"⟩
    g.nodes.toList = [user, ⟨"Team", "1"⟩] ∧
      (⟨user, "MEMBER", user⟩ : Edge).Stands Loops.history ∧ g.edgeCount = 2 ∧
      g.addNode user = (g, false) ∧ (g.addNode ⟨"User", "2"⟩).2 = true ∧
      g.addEdge user "TEAM" user = g ∧ (g.removeEdge user "MEMBER" user).2 = true ∧
      g.removeEdge user "OWNER" ⟨"User", "2"⟩ = (g, false) ∧
      [user] <+: (g.applyAll [.addNode ⟨"User", "2"⟩]).nodes.toList := by
  intro g user
  obtain ⟨hview, hnodes, -, hedges, -, hcount, haddNode, hchangeEdge, hprefix⟩ :=
    store_refines_view Loops.history
  have hlist : g.nodes.toList = [user, ⟨"Team", "1"⟩] := by
    rw [hview.nodes_eq, hnodes]
    decide +kernel
  have hprefix := hprefix [.addNode ⟨"User", "2"⟩]
  rw [hlist] at hprefix
  exact ⟨hlist, (hedges _).1 (by decide +kernel), hcount.trans (by decide +kernel),
    (haddNode user).1 (by decide +kernel), ((haddNode ⟨"User", "2"⟩).2 (by decide +kernel)).1,
    (hchangeEdge user "TEAM" user).2.1 (by decide +kernel),
    ((hchangeEdge user "MEMBER" user).2.2.1 (by decide +kernel)).1,
    (hchangeEdge user "OWNER" ⟨"User", "2"⟩).2.2.2 (by decide +kernel),
    (List.prefix_append [user] _).trans hprefix⟩

end Rebac
