import Rebac.Graph.Evaluate
import Rebac.Proofs.Graph.Search
/-!
# The edges that a plan mentions

A plan names the labels of the edges that it follows. Two graphs in memory agree on some labels if
they have the same nodes in the same order and, between the same positions, the same links with
these labels; their links may be stored in any order, and all other links may differ
(`Graph.AgreesOn`). So do the graphs of two histories that come to the same nodes and the same edges
with these labels (`Graph.Represents.agreesOn`).

A search takes links in the order in which they are stored, and what it has seen and the distances
that it has noted depend on that order. What it reaches in the end does not, so patterns lead to the
same positions (`AgreesOn.mem_targets_iff`) and a query returns the same rows
(`AgreesOn.evaluate_eq`).
-/

namespace Rebac

/-- The labels of the edges that a pattern follows. -/
def Pattern.edgeLabels : Pattern → List String
  | .direct edge => [edge]
  | .chained edge _ chain _ => [edge, chain]

/-- The labels of the edges that a plan follows. -/
def Plan.edgeLabels (plan : Plan) : List String := plan.clauses.flatMap (·.pattern.edgeLabels)

/-- Both views have the same nodes in the same order, and the same edges with these labels. -/
structure GraphView.AgreesOn (labels : List String) (v w : GraphView) : Prop where
  nodes_eq : v.nodes = w.nodes
  edge_iff : ∀ e : Edge, e.label ∈ labels → (e ∈ v.edges ↔ e ∈ w.edges)

/-- Only finitely many edges have to be compared. -/
theorem GraphView.agreesOn_iff {labels : List String} {v w : GraphView} :
    v.AgreesOn labels w ↔ v.nodes = w.nodes ∧
      v.edges.filter (fun e => e.label ∈ labels) = w.edges.filter fun e => e.label ∈ labels := by
  rw [Finset.filter_inj]
  constructor
  · intro h
    exact ⟨h.nodes_eq, fun e hlabel => h.edge_iff e hlabel⟩
  · intro h
    exact ⟨h.1, fun e hlabel => h.2 hlabel⟩

instance (labels : List String) (v w : GraphView) : Decidable (v.AgreesOn labels w) :=
  decidable_of_iff' _ GraphView.agreesOn_iff

namespace Graph

/-- Both graphs have the same nodes at the same positions, and the same links with these labels. -/
structure AgreesOn (labels : List String) (g g' : Graph) : Prop where
  nodes_eq : g.nodes = g'.nodes
  position?_eq : ∀ node, g.position? node = g'.position? node
  linked_iff : ∀ label ∈ labels, ∀ i j, g.Linked label i j ↔ g'.Linked label i j

/-- Graphs agree where their views do. -/
theorem Represents.agreesOn {g g' : Graph} {v w : GraphView} {labels : List String}
    (h : g.Represents v) (h' : g'.Represents w) (hviews : v.AgreesOn labels w) :
    g.AgreesOn labels g' where
  nodes_eq := by
    apply Array.toList_inj.1
    rw [h.nodes_eq, h'.nodes_eq, hviews.nodes_eq]
  position?_eq node := by
    ext i
    rw [h.position_iff, h'.position_iff, hviews.nodes_eq]
  linked_iff label hlabel i j := by
    have hedges : ∀ a b, (⟨a, label, b⟩ : Edge) ∈ v.edges ↔ (⟨a, label, b⟩ : Edge) ∈ w.edges :=
      fun a b => hviews.edge_iff ⟨a, label, b⟩ hlabel
    unfold Linked
    simp only [h.link_iff, h'.link_iff, hviews.nodes_eq, hedges]

namespace AgreesOn

variable {labels : List String} {g g' : Graph}

theorem hasLabel_eq (h : g.AgreesOn labels g') (label : String) (i : Nat) :
    g.hasLabel label i = g'.hasLabel label i := by
  unfold hasLabel
  rw [h.nodes_eq]

theorem labelled_eq (h : g.AgreesOn labels g') (label : String) :
    g.labelled label = g'.labelled label := by
  unfold labelled
  rw [h.nodes_eq]
  exact List.filter_congr fun i _ => h.hasLabel_eq label i

theorem identifiers_eq (h : g.AgreesOn labels g') (positions : List Nat) :
    g.identifiers positions = g'.identifiers positions := by
  unfold identifiers
  rw [h.nodes_eq]

/-- A query is about the same positions. -/
theorem objects_eq (h : g.AgreesOn labels g') (q : Query) : g.objects q = g'.objects q := by
  unfold objects
  simp only [h.position?_eq, h.labelled_eq]

/-- A pattern leads to the same positions, though perhaps in another order. -/
theorem mem_targets_iff (h : g.AgreesOn labels g') {pattern : Pattern}
    (hlabels : pattern.edgeLabels ⊆ labels) (i j : Nat) :
    j ∈ g.targets i pattern ↔ j ∈ g'.targets i pattern := by
  cases pattern with
  | direct edge =>
    rw [targets, targets, mem_successors, mem_successors]
    exact h.linked_iff edge (hlabels List.mem_cons_self) i j
  | chained edge via chain maxDepth =>
    -- a search is exact in either graph, and the walks are the same in both
    have hedge : edge ∈ labels := hlabels List.mem_cons_self
    have hchain : g.Linked chain = g'.Linked chain := by
      funext k l
      exact propext (h.linked_iff chain (hlabels (by simp [Pattern.edgeLabels])) k l)
    rw [targets, targets, mem_chainedTargets, mem_chainedTargets, hchain]
    simp only [h.linked_iff edge hedge, h.hasLabel_eq]

section Plans

variable {plan : Plan}

theorem mem_targets_clause_iff (h : g.AgreesOn plan.edgeLabels g') {c : CompiledClause}
    (hc : c ∈ plan.clauses) (i j : Nat) :
    j ∈ g.targets i c.pattern ↔ j ∈ g'.targets i c.pattern := by
  apply h.mem_targets_iff
  intro label hlabel
  exact List.mem_flatMap.2 ⟨c, hc, hlabel⟩

/-- The row of a point check asks only whether a pattern leads to a position. -/
theorem clauseRow_eq (h : g.AgreesOn plan.edgeLabels g') (subject object : Nat) :
    clauseRow (g.clauseTargets subject plan) object =
      clauseRow (g'.clauseTargets subject plan) object := by
  unfold clauseRow clauseTargets
  rw [List.map_map, List.map_map]
  congr 1
  apply List.map_congr_left
  intro c hc
  have hmem := h.mem_targets_clause_iff hc subject object
  simp only [Function.comp, decide_eq_decide.2 hmem]

/-- And so does the choice of the objects that match. -/
theorem matching_eq (h : g.AgreesOn plan.edgeLabels g') (subject : Nat) (objects : List Nat) :
    matching (g.clauseTargets subject plan) objects =
      matching (g'.clauseTargets subject plan) objects := by
  unfold matching clauseTargets
  apply List.filter_congr
  intro object _
  rw [Bool.eq_iff_iff, List.any_map, List.any_map, List.any_eq_true, List.any_eq_true]
  apply exists_congr
  intro c
  apply and_congr_right
  intro hc
  show decide (object ∈ g.targets subject c.pattern) = true ↔
    decide (object ∈ g'.targets subject c.pattern) = true
  rw [decide_eq_true_iff, decide_eq_true_iff]
  exact h.mem_targets_clause_iff hc subject object

end Plans

theorem rows_eq {q : Query} (h : g.AgreesOn q.plan.edgeLabels g') (subject : Nat)
    (objects : List Nat) : g.rows q subject objects = g'.rows q subject objects := by
  have hrow : clauseRow (g.clauseTargets subject q.plan) =
      clauseRow (g'.clauseTargets subject q.plan) := by
    funext object
    exact h.clauseRow_eq subject object
  unfold rows
  simp only [hrow, h.matching_eq, h.identifiers_eq]

/-- A query returns the same rows, or fails for the same reason. -/
theorem evaluate_eq {q : Query} (h : g.AgreesOn q.plan.edgeLabels g') :
    g.evaluate q = g'.evaluate q := by
  unfold evaluate
  simp only [h.objects_eq, h.position?_eq, h.rows_eq]

end AgreesOn

end Graph

end Rebac
