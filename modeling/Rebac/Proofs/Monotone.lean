import Rebac.Proofs.Graph.History
import Rebac.Proofs.Trace
/-!
# More edges grant more

To add a node or an edge leaves every node at its place and every edge in the graph, so the view
before lies within the view after (`GraphView.within_apply`); to remove an edge is the same the
other way round (`GraphView.apply_removeEdge_within`). Each condition that a rule can make is about
walks that are there, never about walks that are missing. Whatever holds in a view therefore holds
in all views that it lies within (`ClauseHolds.mono`), and an engine lists, counts and allows no
less over their graphs (`Engine.grantsWithin_of_within`).
-/

namespace Rebac

/-! ### Views within others -/

/-- All nodes stand in the other view at the same places, and all edges are there. -/
structure GraphView.Within (v w : GraphView) : Prop where
  nodes_prefix : v.nodes <+: w.nodes
  edges_subset : v.edges ⊆ w.edges

/-- The change adds what is missing, and removes nothing. -/
def Change.IsAddition (c : Change) : Prop := ∀ e : Edge, c ≠ e.removal

theorem Change.isAddition_addNode (node : Node) : (addNode node).IsAddition := by
  intro e he
  cases he

theorem Change.isAddition_addEdge (source : Node) (label : String) (target : Node) :
    (addEdge source label target).IsAddition := by
  intro e he
  cases he

namespace GraphView

variable {v w : GraphView}

theorem within_refl (v : GraphView) : v.Within v :=
  ⟨List.prefix_refl v.nodes, Finset.Subset.refl v.edges⟩

theorem Within.trans {u : GraphView} (h : u.Within v) (h' : v.Within w) : u.Within w :=
  ⟨h.nodes_prefix.trans h'.nodes_prefix, Finset.Subset.trans h.edges_subset h'.edges_subset⟩

/-- What a change adds is added to what is there. -/
theorem within_apply {c : Change} (hc : c.IsAddition) : v.Within (v.apply c) where
  nodes_prefix := v.prefix_apply c
  edges_subset := by
    intro e he
    exact mem_edges_apply.2 (Or.inr ⟨he, hc e⟩)

/-- So is what a sequence of changes adds. -/
theorem within_foldl_apply {additions : List Change} (h : ∀ c ∈ additions, c.IsAddition) :
    v.Within (additions.foldl apply v) := by
  induction additions generalizing v with
  | nil => exact v.within_refl
  | cons c rest ih =>
    have hc : c.IsAddition := h c List.mem_cons_self
    have hrest : ∀ d ∈ rest, d.IsAddition := fun d hd => h d (List.mem_cons_of_mem c hd)
    exact (within_apply hc).trans (ih hrest)

/-- A removal takes nothing but an edge away. -/
theorem apply_removeEdge_within (source : Node) (label : String) (target : Node) :
    (v.apply (.removeEdge source label target)).Within v :=
  ⟨List.prefix_refl v.nodes, Finset.erase_subset _ _⟩

namespace Within

theorem hasEdge {label : String} {a b : Node} (h : v.Within w) (he : v.HasEdge label a b) :
    w.HasEdge label a b := h.edges_subset he

theorem mem_nodes {node : Node} (h : v.Within w) (hnode : node ∈ v.nodes) : node ∈ w.nodes :=
  h.nodes_prefix.subset hnode

end Within

end GraphView

/-! ### What holds stays -/

section Rules

variable {policy : Policy} {objectType action : String} {v w : GraphView} {s o : Node}

theorem Clause.Holds.mono {clause : Clause} (h : v.Within w)
    (hholds : clause.Holds policy objectType v s o) : clause.Holds policy objectType w s o := by
  cases clause with
  | direct relation => exact h.hasEdge hholds
  | chained relation relatedType =>
    obtain ⟨declared, hdeclared, m, hlabel, hedge, n, hpos, hle, hwalk⟩ := hholds
    refine ⟨declared, hdeclared, m, hlabel, ?_, n, hpos, hle, ?_⟩
    · exact hedge.imp h.hasEdge h.hasEdge
    · -- the same walk, so no longer than before
      exact hwalk.mono fun _ _ => h.hasEdge

theorem ClauseHolds.mono {text : String} (h : v.Within w)
    (hholds : ClauseHolds policy objectType v s o text) :
    ClauseHolds policy objectType w s o text := by
  obtain ⟨clause, hparse, hclause⟩ := hholds
  exact ⟨clause, hparse, hclause.mono h⟩

theorem Grants.mono (h : v.Within w) (hgrants : Grants policy objectType action v s o) :
    Grants policy objectType action w s o := by
  obtain ⟨text, hmem, hholds⟩ := hgrants
  exact ⟨text, hmem, hholds.mono h⟩

/-- What is granted stays granted, in the same order. -/
theorem GraphView.Within.granted_sublist (h : v.Within w) (policy : Policy) (r : Request) :
    (v.granted policy r).Sublist (w.granted policy r) := by
  unfold GraphView.granted
  refine List.Sublist.trans ?_ (h.nodes_prefix.sublist.filter _)
  apply List.monotone_filter_right
  intro o
  simp only [decide_eq_true_eq]
  intro hgranted
  exact ⟨hgranted.1, hgranted.2.mono h⟩

end Rules

/-! ### Audit trails -/

/-- Both results are about one clause, which holds in the second if it does in the first. -/
def ClauseResult.Within (before after : ClauseResult) : Prop :=
  before.clause = after.clause ∧ (before.ok = true → after.ok = true)

open Classical in
/-- Overwriting takes the same clauses from both trails, so what is left can be compared result by
result. -/
theorem GraphView.Within.forall₂_ofWrites {v w : GraphView} (h : v.Within w) (policy : Policy)
    (objectType : String) (texts : List String) (s o : Node) :
    List.Forall₂ ClauseResult.Within
      ((Assoc.ofWrites (auditTrail policy objectType texts v s o)).map fun e => ⟨e.1, e.2⟩)
      ((Assoc.ofWrites (auditTrail policy objectType texts w s o)).map fun e => ⟨e.1, e.2⟩) := by
  -- one trail that says of each clause both whether it holds before and whether it holds after
  let holds (u : GraphView) (text : String) : Bool :=
    decide (ClauseHolds policy objectType u s o text)
  let both : List (String × Bool × Bool) :=
    texts.map fun text => (clauseColumn text, holds v text, holds w text)
  have hbefore : auditTrail policy objectType texts v s o = both.map fun e => (e.1, e.2.1) := by
    rw [List.map_map]
    rfl
  have hafter : auditTrail policy objectType texts w s o = both.map fun e => (e.1, e.2.2) := by
    rw [List.map_map]
    rfl
  rw [hbefore, hafter, Assoc.ofWrites_map Prod.fst both, Assoc.ofWrites_map Prod.snd both,
    List.map_map, List.map_map, List.forall₂_map_left_iff, List.forall₂_map_right_iff,
    List.forall₂_same]
  intro e he
  -- what is left was written for some clause
  obtain ⟨earlier, later, hwrites, -⟩ := Assoc.mem_ofWrites.1 he
  have hwritten : e ∈ both := by
    rw [hwrites]
    simp
  obtain ⟨text, -, rfl⟩ := List.mem_map.1 hwritten
  refine ⟨rfl, ?_⟩
  intro hholds
  exact decide_eq_true ((of_decide_eq_true hholds).mono h)

/-! ### Engines -/

/-- Whatever an engine grants over the one session it grants over the other. -/
structure Engine.GrantsWithin (engine : Engine) (s t : Session Graph) : Prop where
  /-- Everything that is listed stays in the listing, and in order. -/
  listing : ∀ r : Request, RuleCompiles engine.policy r.objectType r.action →
    ∃ ids ids', (engine.filter r s).1 = .ok ids ∧ (engine.filter r t).1 = .ok ids' ∧
      ids.Sublist ids'
  /-- No fewer objects are counted by the backend. -/
  counting : ∀ r : Request, RuleCompiles engine.policy r.objectType r.action →
    ∃ q m n, r.countQuery engine.policy = .ok q ∧ s.backend.evaluate q = .ok [Graph.totalRow m] ∧
      t.backend.evaluate q = .ok [Graph.totalRow n] ∧ m ≤ n
  /-- Nor are they by the engine. -/
  total : ∀ (r : Request) (m n : UInt64), (engine.count r s).1 = .ok m →
    (engine.count r t).1 = .ok n → m ≤ n
  /-- A point check that is answered is answered for the same clauses, and none is taken back. -/
  check : ∀ (subject : Entity) (action : String) (object : Entity),
    RuleCompiles engine.policy object.typeName action →
    ∀ results, (engine.check subject action object s).1 = .ok results →
      ∃ results', (engine.check subject action object t).1 = .ok results' ∧
        List.Forall₂ ClauseResult.Within results results'

namespace Engine

variable {engine : Engine} {s t : Session Graph} {v w : GraphView}

/-- A total that is not in the cache is the length of the listing. -/
theorem toNat_of_count {r : Request} {n : UInt64} (hg : s.backend.Represents v)
    (hget : s.cache.get? s.now r.cacheKey = none) (hcount : (engine.count r s).1 = .ok n) :
    n.toNat = (v.granted engine.policy r).length := by
  have hcounted : r.Obtains engine.policy s n := Page.totalCount_eq_ok_iff.1 hcount
  unfold Request.Obtains at hcounted
  rw [hget] at hcounted
  obtain ⟨q, rows, hq, hrows, htotal⟩ := hcounted
  have heval := (standsFor_of_countQuery hq).evaluate_count hg
  obtain rfl := Except.ok.inj (hrows.symm.trans heval)
  exact toNat_of_count_totalRow htotal

theorem grantsWithin_of_within (hs : s.backend.Represents v) (ht : t.backend.Represents w)
    (hwithin : v.Within w) (hcache : t.cache = s.cache) (hnow : t.now = s.now) :
    engine.GrantsWithin s t where
  listing r hrule := by
    refine ⟨_, _, filter_of_represents hrule hs, filter_of_represents hrule ht, ?_⟩
    exact (hwithin.granted_sublist engine.policy r).map Node.id
  counting r hrule := by
    obtain ⟨q, hq, hcounts⟩ := exists_countQuery hrule
    refine ⟨q, _, _, hq, hcounts.evaluate_count hs, hcounts.evaluate_count ht, ?_⟩
    exact (hwithin.granted_sublist engine.policy r).length_le
  total r m n hm hn := by
    cases hget : s.cache.get? s.now r.cacheKey with
    | some value =>
      -- both read the same total in the cache
      have hget' : t.cache.get? t.now r.cacheKey = some value := by
        rw [hcache, hnow]
        exact hget
      have hsame : (engine.count r t).1 = (engine.count r s).1 := by
        unfold count
        rw [Page.totalCount_of_hit hget, Page.totalCount_of_hit hget']
      rw [hsame, hm] at hn
      rw [Except.ok.inj hn]
      exact UInt64.le_refl n
    | none =>
      have hget' : t.cache.get? t.now r.cacheKey = none := by
        rw [hcache, hnow]
        exact hget
      rw [UInt64.le_iff_toNat_le, toNat_of_count hs hget hm, toNat_of_count ht hget' hn]
      exact (hwithin.granted_sublist engine.policy r).length_le
  check subject action object hrule results hresults := by
    rw [check_eq hrule hs] at hresults
    split at hresults
    · next hboth =>
      obtain rfl := Except.ok.inj hresults
      have hboth' : subject.node ∈ w.nodes ∧ object.node ∈ w.nodes :=
        ⟨hwithin.mem_nodes hboth.1, hwithin.mem_nodes hboth.2⟩
      refine ⟨_, (check_eq hrule ht).trans (if_pos hboth'), ?_⟩
      exact hwithin.forall₂_ofWrites _ _ _ _ _
    · cases hresults

/-- However much is added to a graph, nothing that was granted is taken back. -/
theorem grantsWithin_additions (engine : Engine) (additions : List Change)
    (hadd : ∀ c ∈ additions, c.IsAddition) (hs : s.backend.Represents v) :
    engine.GrantsWithin s { s with backend := s.backend.applyAll additions } :=
  grantsWithin_of_within hs (hs.applyAll additions) (GraphView.within_foldl_apply hadd) rfl rfl

/-- Over the graph of any history, to add a node or an edge only adds to what is granted: all that
was listed is listed in the same order, no fewer objects are counted, and a point check that was
answered is answered for the same clauses, of which none is taken back. To remove an edge only takes
from what is granted, and a point check is answered or has no result as before. -/
theorem access_monotone (engine : Engine) (history : List Change) (s : Session Graph)
    (hgraph : s.backend = Graph.ofHistory history) :
    (∀ node, engine.GrantsWithin s { s with backend := (s.backend.addNode node).1 }) ∧
    (∀ source label target,
      engine.GrantsWithin s { s with backend := s.backend.addEdge source label target }) ∧
    ∀ source label target,
      let t : Session Graph :=
        { s with backend := (s.backend.removeEdge source label target).1 }
      engine.GrantsWithin t s ∧
        ∀ (subject : Entity) (action : String) (object : Entity),
          RuleCompiles engine.policy object.typeName action →
          let before := (engine.check subject action object s).1
          let after := (engine.check subject action object t).1
          ((∃ results, before = .ok results) ↔ ∃ results, after = .ok results) ∧
            (before = .error .noResult ↔ after = .error .noResult) := by
  have hs : s.backend.Represents (GraphView.ofHistory history) :=
    hgraph ▸ Graph.represents_ofHistory history
  refine ⟨?_, ?_, ?_⟩
  · intro node
    refine engine.grantsWithin_additions [.addNode node] ?_ hs
    intro c hc
    rw [List.mem_singleton.1 hc]
    exact Change.isAddition_addNode node
  · intro source label target
    refine engine.grantsWithin_additions [.addEdge source label target] ?_ hs
    intro c hc
    rw [List.mem_singleton.1 hc]
    exact Change.isAddition_addEdge source label target
  · intro source label target t
    have ht : t.backend.Represents _ := hs.removeEdge source label target
    refine ⟨grantsWithin_of_within ht hs (GraphView.apply_removeEdge_within _ _ _) rfl rfl, ?_⟩
    intro subject action object hrule before after
    -- the nodes decide whether there is a result, and they are the same
    constructor
    · exact (exists_check_eq_ok_iff hrule hs).trans (exists_check_eq_ok_iff hrule ht).symm
    · exact (check_eq_noResult_iff hrule hs).trans (check_eq_noResult_iff hrule ht).symm

/-- A document is given to the team, and the two that were listed stay; a team mate leaves, and
there is still an answer for what was reached through them. -/
theorem access_monotone_docs :
    RuleCompiles Docs.policy "Document" "read" ∧
      (∃ ids, ((ofPolicy Docs.policy).filter Docs.request { Docs.session with
        backend := Docs.session.backend.addEdge ⟨"User", "lead"⟩ "TEAM" ⟨"Document", "c"⟩ }).1 =
          .ok ids ∧ ["a", "b"].Sublist ids) ∧
      ∃ results, ((ofPolicy Docs.policy).check ⟨"user", "1"⟩ "read" ⟨"Document", "b"⟩
        { Docs.session with
          backend := (Docs.session.backend.removeEdge ⟨"User", "lead"⟩ "TEAM"
            ⟨"User", "manager"⟩).1 }).1 = .ok results := by
  have hrule : RuleCompiles Docs.policy "Document" "read" := by decide +kernel
  have hlist : ((ofPolicy Docs.policy).filter Docs.request Docs.session).1 = .ok ["a", "b"] := by
    decide +kernel
  have hcheck : ((ofPolicy Docs.policy).check ⟨"user", "1"⟩ "read" ⟨"Document", "b"⟩
      Docs.session).1 = .ok [⟨"owner", false⟩, ⟨"member_from_Team", true⟩] := by
    decide +kernel
  obtain ⟨-, hadd, hremove⟩ :=
    access_monotone (ofPolicy Docs.policy) Docs.history Docs.session rfl
  refine ⟨hrule, ?_, ?_⟩
  · obtain ⟨ids, ids', hids, hids', hsub⟩ :=
      (hadd ⟨"User", "lead"⟩ "TEAM" ⟨"Document", "c"⟩).listing Docs.request hrule
    obtain rfl := Except.ok.inj (hlist.symm.trans hids)
    exact ⟨ids', hids', hsub⟩
  · obtain ⟨-, hanswers⟩ := hremove ⟨"User", "lead"⟩ "TEAM" ⟨"User", "manager"⟩
    exact (hanswers ⟨"user", "1"⟩ "read" ⟨"Document", "b"⟩ hrule).1.1 ⟨_, hcheck⟩

end Engine

end Rebac
