import Rebac.Graph.Evaluate
import Rebac.Proofs.Rule.Meaning
/-!
# The listing of a plan

`Graph.listing` is what a query for identifiers shows before any window is cut out of it, and
`evaluate_distinctIds` says that such a query returns just that, or the part of it that the window
leaves. In the view the listing is a filter over the nodes (`Graph.Represents.listing_eq`): nothing
is lost when equal identifiers are dropped, because nodes of one label have different identifiers.
So the number that a count returns is the length of the listing
(`Graph.Represents.evaluate_countDistinct`).
-/

namespace Rebac

theorem eraseDups_of_nodup {α : Type} [BEq α] [LawfulBEq α] {xs : List α} (h : xs.Nodup) :
    xs.eraseDups = xs := by
  induction xs with
  | nil => rfl
  | cons x xs ih =>
    obtain ⟨hx, hxs⟩ := List.nodup_cons.1 h
    have hfilter : xs.filter (fun y => !y == x) = xs := by
      rw [List.filter_eq_self]
      intro y hy
      have hne : y ≠ x := fun heq => hx (heq ▸ hy)
      simpa using hne
    rw [List.eraseDups_cons, hfilter, ih hxs]

/-- To pick positions of a list and look them up is to pick elements. -/
theorem filterMap_range_filter {α β : Type} {xs : List α} {p : Nat → Bool} {q : α → Bool}
    (hpq : ∀ i x, xs[i]? = some x → p i = q x) (f : α → β) :
    ((List.range xs.length).filter p).filterMap (fun i => xs[i]?.map f) = (xs.filter q).map f := by
  -- from the end, because the positions of the others then stay as they are
  induction xs using List.reverseRecOn generalizing p with
  | nil => rfl
  | append_singleton xs x ih =>
    have hlast : p xs.length = q x := hpq xs.length x List.getElem?_concat_length
    have hinit : ∀ i y, xs[i]? = some y → p i = q y := by
      intro i y hi
      exact hpq i y (getElem?_concat_eq_some_iff.2 (Or.inl hi))
    have hlookup : ((List.range xs.length).filter p).filterMap (fun i => (xs ++ [x])[i]?.map f) =
        ((List.range xs.length).filter p).filterMap (fun i => xs[i]?.map f) := by
      apply List.filterMap_congr
      intro i hi
      have hlt : i < xs.length := List.mem_range.1 (List.mem_filter.1 hi).1
      rw [List.getElem?_append_left hlt]
    rw [List.length_append, List.length_singleton, List.range_succ, List.filter_append,
      List.filterMap_append, hlookup, ih hinit, List.filter_append, List.map_append]
    by_cases hx : q x = true
    · simp [hlast, hx]
    · simp [hlast, hx]

namespace Graph

/-- The identifiers that a plan about all objects of a label lists for a subject. -/
def listing (g : Graph) (plan : Plan) (subject : Node) : List String :=
  match g.position? subject with
  | some i => g.identifiers (matching (g.clauseTargets i plan) (g.labelled plan.objectLabel))
  | none => []

/-- The row of a listing that shows an identifier. -/
def idRow (id : String) : Row := Row.empty.insert Query.idColumn (.string id)

/-- What a window leaves of a list. -/
def windowed {α : Type} (skip limit : Option UInt64) (xs : List α) : List α :=
  let rest := xs.drop ((skip.map (·.toNat)).getD 0)
  match limit with
  | some n => rest.take n.toNat
  | none => rest

theorem windowed_nil {α : Type} (skip limit : Option UInt64) :
    windowed skip limit ([] : List α) = [] := by
  unfold windowed
  cases limit <;> simp

/-- A query for identifiers returns what its window leaves of the listing. -/
theorem evaluate_distinctIds {g : Graph} {q : Query} {id : String} {skip limit : Option UInt64}
    (hprojection : q.plan.projection = .distinctIds) (hbound : q.plan.objectBound = false)
    (hid : q.textParam Query.subjectIdParam = .ok id)
    (hskip : q.rowCountParam Query.skipParam = .ok skip)
    (hlimit : q.rowCountParam Query.limitParam = .ok limit) :
    g.evaluate q =
      .ok ((windowed skip limit (g.listing q.plan ⟨q.plan.subjectLabel, id⟩)).map idRow) := by
  have hobjects : g.objects q = .ok (g.labelled q.plan.objectLabel) := by
    simp [objects, hbound, pure, Except.pure]
  simp only [evaluate, hid, hobjects, listing, bind, Except.bind]
  cases hi : g.position? ⟨q.plan.subjectLabel, id⟩ with
  | some i =>
    simp only [rows, hprojection, hskip, hlimit, bind, Except.bind, pure, Except.pure]
    rfl
  | none =>
    -- without the subject there are no rows to cut a window out of
    simp only [rowsWithoutSubject, hprojection, pure, Except.pure, windowed_nil, List.map_nil]

theorem identifier_idRow (id : String) : Answer.identifier (idRow id) = .ok id := rfl

/-- Reading the rows of a listing gives its identifiers back. -/
theorem identifiers_idRows (ids : List String) :
    Answer.identifiers (ids.map idRow) = .ok ids := by
  unfold Answer.identifiers
  rw [mapM_eq_ok_iff, List.forall₂_map_left_iff, List.forall₂_same]
  intro id _
  exact identifier_idRow id

/-- The row of a count that shows a number. -/
def totalRow (n : Nat) : Row := Row.empty.insert Query.totalColumn (.ofNat n)

end Graph

/-! ### The listing in the view -/

namespace GraphView

open Classical in
/-- The objects of a plan to which one of its patterns leads, in order. -/
noncomputable def joined (v : GraphView) (plan : Plan) (subject : Node) : List Node :=
  v.nodes.filter fun o =>
    o.label = plan.objectLabel ∧ ∃ c ∈ plan.clauses, c.pattern.Joins v subject o

theorem mem_joined {v : GraphView} {plan : Plan} {subject o : Node} :
    o ∈ v.joined plan subject ↔
      o ∈ v.nodes ∧ o.label = plan.objectLabel ∧
        ∃ c ∈ plan.clauses, c.pattern.Joins v subject o := by
  simp [joined]

end GraphView

namespace Graph.Represents

variable {g : Graph} {v : GraphView}

/-- The objects that are joined have one label, so their identifiers differ. -/
theorem nodup_ids_joined (h : g.Represents v) (plan : Plan) (subject : Node) :
    ((v.joined plan subject).map Node.id).Nodup := by
  apply List.Nodup.map_on
  · -- label and identifier make a node
    intro a ha b hb hid
    have hlabel : a.label = b.label := by
      rw [(GraphView.mem_joined.1 ha).2.1, (GraphView.mem_joined.1 hb).2.1]
    cases a
    cases b
    simp_all
  · exact h.nodes_nodup.filter _

/-- The positions that match hold the objects that are joined. -/
theorem filterMap_matching (h : g.Represents v) {i : Nat} {subject : Node}
    (hs : v.nodes[i]? = some subject) (plan : Plan) :
    (matching (g.clauseTargets i plan) (g.labelled plan.objectLabel)).filterMap
        (fun j => g.nodes[j]?.map (·.id)) = (v.joined plan subject).map Node.id := by
  simp only [matching, labelled, List.filter_filter, h.getElem?_nodes, h.size_eq]
  -- to select positions is to select the nodes at them
  apply filterMap_range_filter
  intro j o ho
  have hlabel := h.hasLabel_iff ho plan.objectLabel
  rw [Bool.eq_iff_iff, Bool.and_eq_true, hlabel]
  simp only [clauseTargets, List.any_map, List.any_eq_true, Function.comp, decide_eq_true_eq,
    h.mem_targets hs ho]
  exact and_comm

/-- As many positions match as objects are joined. -/
theorem length_matching (h : g.Represents v) {i : Nat} {subject : Node}
    (hs : v.nodes[i]? = some subject) (plan : Plan) :
    (matching (g.clauseTargets i plan) (g.labelled plan.objectLabel)).length =
      (v.joined plan subject).length := by
  rw [← List.length_map Node.id, ← h.filterMap_matching hs plan]
  symm
  rw [List.filterMap_length_eq_length]
  -- each position that matches is one of the graph
  intro j hj
  have hlabelled : j ∈ g.labelled plan.objectLabel := (List.mem_filter.1 hj).1
  have hlt : j < g.nodes.size := List.mem_range.1 (List.mem_filter.1 hlabelled).1
  rw [Option.isSome_map, Array.getElem?_eq_getElem hlt]
  rfl

/-- An unknown subject is joined to nothing. -/
theorem joined_eq_nil (h : g.Represents v) {subject : Node} (hs : subject ∉ v.nodes)
    (plan : Plan) : v.joined plan subject = [] := by
  rw [List.eq_nil_iff_forall_not_mem]
  intro o ho
  obtain ⟨-, -, c, -, hjoins⟩ := GraphView.mem_joined.1 ho
  exact hs (h.mem_of_joins hjoins).1

/-- The listing shows the identifiers of the objects that are joined, in the order of the nodes. -/
theorem listing_eq (h : g.Represents v) (plan : Plan) (subject : Node) :
    g.listing plan subject = (v.joined plan subject).map Node.id := by
  unfold listing
  split
  · next i hi =>
    have hs := (h.position_iff subject i).1 hi
    unfold identifiers
    rw [h.filterMap_matching hs plan, eraseDups_of_nodup (h.nodup_ids_joined plan subject)]
  · next hi =>
    have hs := h.position?_eq_none_iff.1 hi
    rw [h.joined_eq_nil hs, List.map_nil]

/-- A query for the number of objects counts those that are joined. -/
theorem evaluate_countDistinct (h : g.Represents v) {q : Query} {id : String}
    (hprojection : q.plan.projection = .countDistinct) (hbound : q.plan.objectBound = false)
    (hid : q.textParam Query.subjectIdParam = .ok id) :
    g.evaluate q = .ok [totalRow (v.joined q.plan ⟨q.plan.subjectLabel, id⟩).length] := by
  have hobjects : g.objects q = .ok (g.labelled q.plan.objectLabel) := by
    simp [objects, hbound, pure, Except.pure]
  simp only [evaluate, hid, hobjects, bind, Except.bind]
  cases hi : g.position? ⟨q.plan.subjectLabel, id⟩ with
  | some i =>
    have hs := (h.position_iff _ i).1 hi
    simp only [rows, hprojection, pure, Except.pure, h.length_matching hs]
    rfl
  | none =>
    have hs := h.position?_eq_none_iff.1 hi
    simp only [rowsWithoutSubject, hprojection, pure, Except.pure, h.joined_eq_nil hs]
    rfl

end Graph.Represents

end Rebac
