import Rebac.Proofs.Graph.Search
import Rebac.Proofs.Rule.Compile
/-!
# What a clause means

When a clause holds between two nodes is a matter of the edges alone: `Clause.Holds` says it without
positions, queues or compiled patterns. The positions that a pattern leads to in a graph in memory
are those at which its clause holds in the view (`Graph.Represents.mem_targets`,
`Denotes.joins_iff`).
-/

namespace Rebac

/-- When a clause of a rule on `objectType` holds between a subject and an object. -/
def Clause.Holds (policy : Policy) (objectType : String) (v : GraphView) (s o : Node) :
    Clause → Prop
  | .direct relation => v.HasEdge (edgeLabel relation) s o
  | .chained relation relatedType =>
    ∃ declared, policy.relation? objectType relatedType = some declared ∧
      ∃ m, m.label = nodeLabel declared.subjectType ∧
        (v.HasEdge (edgeLabel relation) s m ∨ v.HasEdge (edgeLabel relation) m s) ∧
        ∃ n, 1 ≤ n ∧ n ≤ 1000 ∧ Walk (v.HasEdge (edgeLabel relatedType)) n m o

/-- When a text is a clause that holds. -/
def ClauseHolds (policy : Policy) (objectType : String) (v : GraphView) (s o : Node)
    (text : String) : Prop :=
  ∃ clause, Clause.parse text = .ok clause ∧ clause.Holds policy objectType v s o

/-- When a pattern leads from a subject to an object. -/
def Pattern.Joins (v : GraphView) (s o : Node) : Pattern → Prop
  | .direct edge => v.HasEdge edge s o
  | .chained edge via chain maxDepth =>
    ∃ m, m.label = via ∧ (v.HasEdge edge s m ∨ v.HasEdge edge m s) ∧
      ∃ n, 1 ≤ n ∧ n ≤ max maxDepth 1 ∧ Walk (v.HasEdge chain) n m o

/-- A clause holds where its pattern leads. -/
theorem Denotes.joins_iff {policy : Policy} {objectType text : String} {pattern : Pattern}
    (h : Denotes policy objectType text pattern) (v : GraphView) (s o : Node) :
    pattern.Joins v s o ↔ ClauseHolds policy objectType v s o text := by
  obtain ⟨clause, hparse, hpattern⟩ := h
  have hone : ClauseHolds policy objectType v s o text ↔ clause.Holds policy objectType v s o := by
    simp only [ClauseHolds, hparse, Except.ok.injEq, exists_eq_left']
  rw [hone]
  cases clause with
  | direct relation =>
    obtain ⟨-, rfl⟩ := Clause.pattern_direct_eq_ok_iff.1 hpattern
    exact Iff.rfl
  | chained relation relatedType =>
    obtain ⟨declared, hdeclared, rfl⟩ := Clause.pattern_chained_eq_ok_iff.1 hpattern
    -- the bound is positive, so it is the bound of the walks
    have hbound : max maxTraversalDepth 1 = 1000 := by decide
    simp only [Pattern.Joins, Clause.Holds, hdeclared, hbound, Option.some.injEq, exists_eq_left']

/-- When the rule of an action lets a subject perform it on an object: some clause holds. -/
def Grants (policy : Policy) (objectType action : String) (v : GraphView) (s o : Node) : Prop :=
  ∃ text ∈ policy.clauseTexts objectType action, ClauseHolds policy objectType v s o text

/-- Some pattern of a compiled rule leads to the object when some clause of it holds. -/
theorem exists_joins_iff {policy : Policy} {objectType : String} {texts : List String}
    {patterns : List Pattern} (h : List.Forall₂ (Denotes policy objectType) texts patterns)
    (audited : Bool) (v : GraphView) (s o : Node) :
    (∃ c ∈ List.zipWith (CompiledClause.ofPattern audited) texts patterns, c.pattern.Joins v s o) ↔
      ∃ text ∈ texts, ClauseHolds policy objectType v s o text := by
  induction h with
  | nil => simp
  | cons hdenotes _ ih =>
    rw [List.zipWith_cons_cons, List.exists_mem_cons_iff, List.exists_mem_cons_iff, ih,
      CompiledClause.pattern_ofPattern, hdenotes.joins_iff]

namespace Graph.Represents

variable {g : Graph} {v : GraphView} {s o : Node} {i j : Nat}

theorem hasLabel_iff (h : g.Represents v) (ho : v.nodes[j]? = some o) (label : String) :
    g.hasLabel label j = true ↔ o.label = label := by
  simp [hasLabel, h.getElem?_nodes, ho]

/-- A pattern leads to a position when it leads to the node there. -/
theorem mem_targets (h : g.Represents v) (hs : v.nodes[i]? = some s) (ho : v.nodes[j]? = some o)
    (pattern : Pattern) : j ∈ g.targets i pattern ↔ pattern.Joins v s o := by
  cases pattern with
  | direct edge =>
    rw [targets, mem_successors]
    exact h.linked_iff hs ho
  | chained edge via chain maxDepth =>
    rw [targets, mem_chainedTargets]
    constructor
    · intro hpositions
      obtain ⟨k, hedge, hlabel, n, hpos, hle, hw⟩ := hpositions
      -- the intermediate position is an end of a link, so a node stands there
      have hk : ∃ m, v.nodes[k]? = some m := by
        rcases hedge with hl | hl
        · exact h.exists_target hl
        · exact h.exists_source hl
      obtain ⟨m, hm⟩ := hk
      refine ⟨m, (h.hasLabel_iff hm via).1 hlabel, ?_, n, hpos, hle, (h.walk_iff hm ho).1 hw⟩
      rw [← h.linked_iff hs hm, ← h.linked_iff hm hs]
      exact hedge
    · intro hnodes
      obtain ⟨m, hlabel, hedge, n, hpos, hle, hw⟩ := hnodes
      -- and an end of an edge is a node of the graph, so it has a position
      have hmem : m ∈ v.nodes := by
        rcases hedge with he | he
        · exact (h.ends_mem _ he).2
        · exact (h.ends_mem _ he).1
      obtain ⟨k, hk⟩ := List.mem_iff_getElem?.1 hmem
      refine ⟨k, ?_, (h.hasLabel_iff hk via).2 hlabel, n, hpos, hle, (h.walk_iff hk ho).2 hw⟩
      rw [h.linked_iff hs hk, h.linked_iff hk hs]
      exact hedge

/-- What a pattern joins are nodes of the graph. -/
theorem mem_of_joins (h : g.Represents v) {pattern : Pattern} (hp : pattern.Joins v s o) :
    s ∈ v.nodes ∧ o ∈ v.nodes := by
  cases pattern with
  | direct edge => exact h.ends_mem _ hp
  | chained edge via chain maxDepth =>
    obtain ⟨m, -, hedge, n, hpos, -, hw⟩ := hp
    have hsource : s ∈ v.nodes := by
      rcases hedge with he | he
      · exact (h.ends_mem _ he).1
      · exact (h.ends_mem _ he).2
    refine ⟨hsource, ?_⟩
    cases hw with
    | refl => omega
    | step _ he => exact (h.ends_mem _ he).2

end Graph.Represents

end Rebac
