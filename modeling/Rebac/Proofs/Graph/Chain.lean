import Mathlib.Order.Bounds.Defs
import Rebac.Proofs.Graph.Shortening
import Rebac.Proofs.Rule.Meaning
/-!
# How far a chained pattern leads

A chained pattern leads from a subject, over a node next to it, along a chain of links, and follows
no more links than its bound says. `Graph.ChainLength` is a length that such a chain can have, and
the search reaches a position just when the shortest one is within the bound, also where the chain
comes back to its start or to the subject (`Graph.chainedTargets_exact`).

In a graph that has no more nodes than the bound says links, the bound is never felt: whatever a
chain of any length leads to is reached. So it is with compiled clauses in all graphs of up to a
thousand nodes (`Graph.hop_bound_harmless`).
-/

namespace Rebac

/-! ### Each position is reached once -/

namespace Traversal

variable {g : Graph} {chain : String} {maxDepth depth : Nat} {t t' : Traversal}

theorem nodup_reached_visit (h : t.reached.Nodup) (next : Nat) :
    (visit maxDepth depth t next).reached.Nodup := by
  rw [reached_visit]
  split
  · exact h
  · next hnew => exact List.nodup_cons.2 ⟨hnew, h⟩

theorem nodup_reached_foldl_visit (h : t.reached.Nodup) (nexts : List Nat) :
    (nexts.foldl (visit maxDepth depth) t).reached.Nodup := by
  induction nexts generalizing t with
  | nil => exact h
  | cons next nexts ih => exact ih (nodup_reached_visit h next)

theorem nodup_reached_step (hstep : step g chain maxDepth t = some t') (h : t.reached.Nodup) :
    t'.reached.Nodup := by
  unfold step at hstep
  split at hstep
  · cases hstep
  · next i depth queue hq =>
    obtain rfl := Option.some.inj hstep
    have hrest : ({ t with queue } : Traversal).reached.Nodup := h
    exact nodup_reached_foldl_visit hrest _

/-- A search records no position twice, however many chains lead there. -/
theorem nodup_reached_run (h : t.reached.Nodup) : (run g chain maxDepth t).reached.Nodup := by
  fun_induction run g chain maxDepth t with
  | case1 t hstep => exact h
  | case2 t t' hstep hless ih => exact ih (nodup_reached_step hstep h)

end Traversal

namespace Graph

/-! ### Lengths of chains -/

/-- A chain of `n` links, at least one, leads to `j` from a node labelled `via` that an `edge` joins
to `i`, in either direction. -/
def ChainLength (g : Graph) (i : Nat) (edge via chain : String) (j n : Nat) : Prop :=
  1 ≤ n ∧ ∃ m, (g.Linked edge i m ∨ g.Linked edge m i) ∧ g.hasLabel via m = true ∧
    Walk (g.Linked chain) n m j

theorem mem_chainedTargets_iff {g : Graph} {i j maxDepth : Nat} {edge via chain : String} :
    j ∈ g.chainedTargets i edge via chain maxDepth ↔
      ∃ n ≤ max maxDepth 1, g.ChainLength i edge via chain j n := by
  rw [mem_chainedTargets]
  constructor
  · intro hwalk
    obtain ⟨m, hedge, hlabel, n, hpos, hle, hw⟩ := hwalk
    exact ⟨n, hle, hpos, m, hedge, hlabel, hw⟩
  · intro hlength
    obtain ⟨n, hle, hpos, m, hedge, hlabel, hw⟩ := hlength
    exact ⟨m, hedge, hlabel, n, hpos, hle, hw⟩

/-- A chained pattern leads to each position once, and exactly to those where a chain of at least
one link and within the bound ends. So where chains end, be it the subject or a node that they start
from, the shortest of them decides. -/
theorem chainedTargets_exact (g : Graph) (i : Nat) (edge via chain : String) (maxDepth : Nat) :
    (g.chainedTargets i edge via chain maxDepth).Nodup ∧
      (∀ j, j ∈ g.chainedTargets i edge via chain maxDepth ↔
        ∃ n ≤ max maxDepth 1, g.ChainLength i edge via chain j n) ∧
      ∀ j n, IsLeast {k | g.ChainLength i edge via chain j k} n →
        (j ∈ g.chainedTargets i edge via chain maxDepth ↔ n ≤ max maxDepth 1) := by
  refine ⟨Traversal.nodup_reached_run List.nodup_nil, fun j => mem_chainedTargets_iff, ?_⟩
  intro j n hleast
  obtain ⟨hn, hshortest⟩ := hleast
  rw [mem_chainedTargets_iff]
  constructor
  · intro hlength
    obtain ⟨k, hle, hk⟩ := hlength
    exact (hshortest hk).trans hle
  · intro hle
    exact ⟨n, hle, hn⟩

end Graph

namespace Circle

/-- Documents are read through the team mates of members. -/
def policy : Policy := ⟨"docs", [⟨"Document", [⟨"Team", "User"⟩], []⟩]⟩

/-- Of three team mates in a circle the second is next to the first. -/
def history : List Change :=
  [.addEdge ⟨"User", "1"⟩ "MEMBER" ⟨"User", "2"⟩, .addEdge ⟨"User", "2"⟩ "TEAM" ⟨"User", "3"⟩,
   .addEdge ⟨"User", "3"⟩ "TEAM" ⟨"User", "1"⟩, .addEdge ⟨"User", "1"⟩ "TEAM" ⟨"User", "2"⟩]

/-- The graph of that history. -/
def graph : Graph := .ofHistory history

end Circle

/-- The node that the chain starts from is next to the first, and three links come back to it. So it
is reached just when the bound is three or more. -/
theorem Graph.chainedTargets_exact_circle :
    IsLeast {k | Circle.graph.ChainLength 0 "MEMBER" "User" "TEAM" 1 k} 3 ∧
      ∀ maxDepth, 1 ∈ Circle.graph.chainedTargets 0 "MEMBER" "User" "TEAM" maxDepth ↔
        3 ≤ maxDepth := by
  have hnear : 1 ∉ Circle.graph.chainedTargets 0 "MEMBER" "User" "TEAM" 2 := by decide +kernel
  have hfar : 1 ∈ Circle.graph.chainedTargets 0 "MEMBER" "User" "TEAM" 3 := by decide +kernel
  obtain ⟨-, hnone, -⟩ := chainedTargets_exact Circle.graph 0 "MEMBER" "User" "TEAM" 2
  obtain ⟨-, hsome, -⟩ := chainedTargets_exact Circle.graph 0 "MEMBER" "User" "TEAM" 3
  -- no chain of one or two links leads back, and one of up to three does
  have hlong : ∀ k, Circle.graph.ChainLength 0 "MEMBER" "User" "TEAM" 1 k → 3 ≤ k := by
    intro k hk
    by_contra hshort
    exact hnear ((hnone 1).2 ⟨k, by omega, hk⟩)
  obtain ⟨n, hle, hn⟩ := (hsome 1).1 hfar
  have hleast : IsLeast {k | Circle.graph.ChainLength 0 "MEMBER" "User" "TEAM" 1 k} 3 := by
    obtain rfl : n = 3 := le_antisymm hle (hlong n hn)
    exact ⟨hn, fun k hk => hlong k hk⟩
  refine ⟨hleast, ?_⟩
  intro maxDepth
  obtain ⟨-, -, hshortest⟩ := chainedTargets_exact Circle.graph 0 "MEMBER" "User" "TEAM" maxDepth
  rw [hshortest 1 3 hleast]
  omega

/-! ### Graphs in which the bound is not felt -/

/-- The links of a graph end at its nodes. -/
theorem Graph.Represents.target_lt_nodeCount {g : Graph} {v : GraphView} (h : g.Represents v) :
    ∀ l ∈ g.links, l.target < g.nodeCount := by
  intro l hl
  have hlinked : g.Linked l.label l.source l.target := hl
  obtain ⟨b, hb⟩ := h.exists_target hlinked
  obtain ⟨hlt, -⟩ := List.getElem?_eq_some_iff.1 hb
  show l.target < g.nodes.size
  rw [h.size_eq]
  exact hlt

theorem Graph.mem_chainedTargets_of_nodeCount_le {g : Graph} {i j maxDepth : Nat}
    {edge via chain : String} (hends : ∀ l ∈ g.links, l.target < g.nodeCount)
    (hdepth : g.nodeCount ≤ maxDepth) :
    j ∈ g.chainedTargets i edge via chain maxDepth ↔
      ∃ m, (g.Linked edge i m ∨ g.Linked edge m i) ∧ g.hasLabel via m = true ∧
        Relation.TransGen (g.Linked chain) m j := by
  have hrange : ∀ k l, g.Linked chain k l → l ∈ Finset.range g.nodeCount :=
    fun k l hl => Finset.mem_range.2 (hends _ hl)
  have hcard : (Finset.range g.nodeCount).card ≤ max maxDepth 1 := by
    rw [Finset.card_range]
    exact hdepth.trans (le_max_left _ _)
  rw [mem_chainedTargets]
  simp only [Walk.exists_le_iff_transGen hrange hcard]

/-- A chained clause has no use for a longer chain than there are nodes. -/
theorem Clause.holds_chained_iff {policy : Policy} {objectType relation relatedType : String}
    {v : GraphView} {s o : Node} (hends : ∀ e ∈ v.edges, e.target ∈ v.nodes)
    (hsize : v.nodes.length ≤ maxTraversalDepth) :
    (Clause.chained relation relatedType).Holds policy objectType v s o ↔
      ∃ declared, policy.relation? objectType relatedType = some declared ∧
        ∃ m, m.label = nodeLabel declared.subjectType ∧
          (v.HasEdge (edgeLabel relation) s m ∨ v.HasEdge (edgeLabel relation) m s) ∧
          Relation.TransGen (v.HasEdge (edgeLabel relatedType)) m o := by
  have hrange : ∀ a b, v.HasEdge (edgeLabel relatedType) a b → b ∈ v.nodes.toFinset :=
    fun a b he => List.mem_toFinset.2 (hends _ he)
  have hcard : v.nodes.toFinset.card ≤ 1000 := (List.toFinset_card_le v.nodes).trans hsize
  simp only [Holds, Walk.exists_le_iff_transGen hrange hcard]

/-- The bound of a chained pattern takes nothing away in a graph whose links all end at nodes, and
that has no more of them than the bound: the pattern leads wherever a chain of any length leads. The
links of the graph of any history do end at nodes. So in such a graph with at most a thousand nodes,
a compiled chained clause leads from a subject to an object just when there is a chain, of whatever
length. -/
theorem Graph.hop_bound_harmless :
    (∀ (g : Graph) (i : Nat) (edge via chain : String) (maxDepth : Nat),
      (∀ l ∈ g.links, l.target < g.nodeCount) → g.nodeCount ≤ maxDepth →
      ∀ j, j ∈ g.chainedTargets i edge via chain maxDepth ↔
        ∃ m, (g.Linked edge i m ∨ g.Linked edge m i) ∧ g.hasLabel via m = true ∧
          Relation.TransGen (g.Linked chain) m j) ∧
    (∀ history, ∀ l ∈ (ofHistory history).links, l.target < (ofHistory history).nodeCount) ∧
    ∀ (history : List Change) (policy : Policy) (objectType text relation relatedType : String)
      (audited : Bool) (c : CompiledClause),
      let g := ofHistory history
      let v := GraphView.ofHistory history
      g.nodeCount ≤ maxTraversalDepth → Clause.parse text = .ok (.chained relation relatedType) →
      compileClause text objectType audited policy = .ok c →
      ∀ s o i j, g.position? s = some i → g.position? o = some j →
        (j ∈ g.targets i c.pattern ↔
          ∃ declared, policy.relation? objectType relatedType = some declared ∧
            ∃ m, m.label = nodeLabel declared.subjectType ∧
              (v.HasEdge (edgeLabel relation) s m ∨ v.HasEdge (edgeLabel relation) m s) ∧
              Relation.TransGen (v.HasEdge (edgeLabel relatedType)) m o) := by
  refine ⟨?_, fun history => (represents_ofHistory history).target_lt_nodeCount, ?_⟩
  · intro g i edge via chain maxDepth hends hdepth j
    exact mem_chainedTargets_of_nodeCount_le hends hdepth
  · intro history policy objectType text relation relatedType audited c g v hsize hparse hcompile
      s o i j hi hj
    have hg : g.Represents v := represents_ofHistory history
    obtain ⟨pattern, hdenotes, rfl⟩ := compileClause_eq_ok_iff.1 hcompile
    have hs := (hg.position_iff s i).1 hi
    have ho := (hg.position_iff o j).1 hj
    -- what the pattern leads to is where the clause holds, and there the bound is not felt
    have hnodes : v.nodes.length ≤ maxTraversalDepth := hg.size_eq ▸ hsize
    rw [CompiledClause.pattern_ofPattern, hg.mem_targets hs ho, hdenotes.joins_iff,
      ← Clause.holds_chained_iff (fun e he => (hg.ends_mem e he).2) hnodes]
    simp only [ClauseHolds, hparse, Except.ok.injEq, exists_eq_left']

/-- The circle has as many nodes as a chain around it has links, and a bound of that size lets the
chain come back to where it started. So does the bound of a compiled clause. -/
theorem Graph.hop_bound_harmless_circle :
    Circle.graph.nodeCount = 3 ∧ 1 ∈ Circle.graph.chainedTargets 0 "MEMBER" "User" "TEAM" 3 ∧
      ∃ c, compileClause "member from Team" "Document" true Circle.policy = .ok c ∧
        1 ∈ Circle.graph.targets 0 c.pattern := by
  obtain ⟨hgraphs, hlinks, hclauses⟩ := hop_bound_harmless
  have hsize : Circle.graph.nodeCount = 3 := by decide +kernel
  refine ⟨hsize, ?_, ?_⟩
  · have hends : ∀ l ∈ Circle.graph.links, l.target < Circle.graph.nodeCount :=
      hlinks Circle.history
    have hmember : Circle.graph.Linked "MEMBER" 0 1 := by
      show (⟨0, "MEMBER", 1⟩ : Link) ∈ Circle.graph.links
      decide +kernel
    have hteam : ∀ l ∈ [(1, 2), (2, 0), (0, 1)], Circle.graph.Linked "TEAM" l.1 l.2 := by
      show ∀ l ∈ [(1, 2), (2, 0), (0, 1)], (⟨l.1, "TEAM", l.2⟩ : Link) ∈ Circle.graph.links
      decide +kernel
    have hback : Relation.TransGen (Circle.graph.Linked "TEAM") 1 1 :=
      ((Relation.TransGen.single (hteam (1, 2) (by decide))).tail (hteam (2, 0) (by decide))).tail
        (hteam (0, 1) (by decide))
    exact (hgraphs Circle.graph 0 "MEMBER" "User" "TEAM" 3 hends hsize.le 1).2
      ⟨1, Or.inl hmember, by decide +kernel, hback⟩
  · let v := GraphView.ofHistory Circle.history
    let user (id : String) : Node := ⟨"User", id⟩
    have hmember : v.HasEdge (edgeLabel "member") (user "1") (user "2") := by decide +kernel
    have hteam : ∀ e ∈ [("2", "3"), ("3", "1"), ("1", "2")],
        v.HasEdge (edgeLabel "Team") (user e.1) (user e.2) := by decide +kernel
    have hback : Relation.TransGen (v.HasEdge (edgeLabel "Team")) (user "2") (user "2") :=
      ((Relation.TransGen.single (hteam ("2", "3") (by decide))).tail
        (hteam ("3", "1") (by decide))).tail (hteam ("1", "2") (by decide))
    have hcompile : compileClause "member from Team" "Document" true Circle.policy =
        .ok (.ofPattern true "member from Team" (.chained "MEMBER" "User" "TEAM" 1000)) := by
      decide +kernel
    have hsmall : Circle.graph.nodeCount ≤ maxTraversalDepth := by
      rw [hsize]
      decide
    have hparse : Clause.parse "member from Team" = .ok (.chained "member" "Team") := by
      decide +kernel
    have hdeclared : Circle.policy.relation? "Document" "Team" = some ⟨"Team", "User"⟩ := by
      decide +kernel
    have hfirst : Circle.graph.position? (user "1") = some 0 := by decide +kernel
    have hsecond : Circle.graph.position? (user "2") = some 1 := by decide +kernel
    refine ⟨_, hcompile, ?_⟩
    refine (hclauses Circle.history Circle.policy "Document" "member from Team" "member" "Team" true
      _ hsmall hparse hcompile (user "1") (user "2") 0 1 hfirst hsecond).2 ?_
    exact ⟨⟨"Team", "User"⟩, hdeclared, user "2", by decide +kernel, Or.inl hmember, hback⟩

end Rebac
