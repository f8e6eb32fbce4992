import Rebac.Engine
import Rebac.Proofs.Graph.Listing
/-!
# The listing of a request

The compiled form of a request plans to list what its rule grants, so over a graph in memory an
engine lists exactly the objects for which some clause of the rule holds
(`Engine.filter_eq_granted`).
-/

namespace Rebac

/-- The node of an entity. -/
def Entity.node (e : Entity) : Node := ⟨nodeLabel e.typeName, e.id⟩

/-! ### Compiled requests -/

/-- A query about the objects of a type that stands for the rule of an action: its parameters name
the subject, and its plan has a pattern for each clause of the rule. -/
structure StandsFor (q : Query) (policy : Policy) (r : Request) (projection : Projection) :
    Prop where
  params_eq : q.params = Query.subjectParams r.subject
  subject_eq : q.plan.subjectLabel = nodeLabel r.subject.typeName
  object_eq : q.plan.objectLabel = nodeLabel r.objectType
  all_objects : q.plan.objectBound = false
  clauses_eq : ∃ patterns, List.Forall₂ (Denotes policy r.objectType)
    (policy.clauseTexts r.objectType r.action) patterns ∧
      q.plan.clauses = List.zipWith (CompiledClause.ofPattern false)
        (policy.clauseTexts r.objectType r.action) patterns
  projection_eq : q.plan.projection = projection

theorem exists_overObjects {policy : Policy} {r : Request}
    (h : RuleCompiles policy r.objectType r.action) (separator : String) (projection : Projection)
    (returns : String) :
    ∃ q, Query.overObjects r.subject r.action r.objectType policy separator projection returns =
      .ok q ∧ StandsFor q policy r projection := by
  obtain ⟨patterns, hpatterns, hrule⟩ := h.exists_patterns
  unfold Query.overObjects
  rw [hrule false]
  exact ⟨_, rfl, rfl, rfl, rfl, rfl, ⟨patterns, hpatterns, rfl⟩, rfl⟩

/-- A rule that compiles gives a listing. -/
theorem exists_filterQuery {policy : Policy} {r : Request}
    (h : RuleCompiles policy r.objectType r.action) :
    ∃ q, r.filterQuery policy = .ok q ∧ StandsFor q policy r .distinctIds :=
  exists_overObjects h _ _ _

/-- Only a rule that compiles does. -/
theorem ruleCompiles_of_filterQuery {policy : Policy} {r : Request} {q : Query}
    (hq : r.filterQuery policy = .ok q) : RuleCompiles policy r.objectType r.action := by
  obtain ⟨clauses, hclauses, -⟩ := exists_of_bind_eq_ok hq
  exact ⟨clauses, hclauses⟩

theorem standsFor_of_filterQuery {policy : Policy} {r : Request} {q : Query}
    (hq : r.filterQuery policy = .ok q) : StandsFor q policy r .distinctIds := by
  obtain ⟨q', hq', hstands⟩ := exists_filterQuery (ruleCompiles_of_filterQuery hq)
  obtain rfl := Except.ok.inj (hq.symm.trans hq')
  exact hstands

namespace StandsFor

variable {q : Query} {policy : Policy} {r : Request} {projection : Projection}

theorem textParam_eq (h : StandsFor q policy r projection) :
    q.textParam Query.subjectIdParam = .ok r.subject.id := by
  simp [Query.textParam, Query.param?, h.params_eq, Query.subjectParams, Assoc.get?,
    Json.Value.text?]

/-- Only a window bounds the number of rows. -/
theorem rowCountParam_eq (h : StandsFor q policy r projection) {name : String}
    (hname : name ≠ Query.subjectIdParam) : q.rowCountParam name = .ok none := by
  simp [Query.rowCountParam, Query.param?, h.params_eq, Query.subjectParams, Assoc.get?,
    hname.symm]

end StandsFor

/-! ### What the rule grants -/

open Classical in
/-- The objects on which a subject may perform an action, in the order in which they were first
mentioned. -/
noncomputable def GraphView.granted (v : GraphView) (policy : Policy) (r : Request) : List Node :=
  v.nodes.filter fun o =>
    o.label = nodeLabel r.objectType ∧ Grants policy r.objectType r.action v r.subject.node o

theorem StandsFor.joined_eq {q : Query} {policy : Policy} {r : Request} {projection : Projection}
    (h : StandsFor q policy r projection) (v : GraphView) :
    v.joined q.plan ⟨q.plan.subjectLabel, r.subject.id⟩ = v.granted policy r := by
  obtain ⟨patterns, hpatterns, hclauses⟩ := h.clauses_eq
  unfold GraphView.joined GraphView.granted
  rw [h.subject_eq, h.object_eq, hclauses]
  apply List.filter_congr
  intro o _
  rw [decide_eq_decide, exists_joins_iff hpatterns]
  exact Iff.rfl

/-- The plan of a request lists what the rule grants. -/
theorem StandsFor.listing_eq {q : Query} {policy : Policy} {r : Request} {projection : Projection}
    {g : Graph} {v : GraphView} (h : StandsFor q policy r projection) (hg : g.Represents v) :
    g.listing q.plan ⟨q.plan.subjectLabel, r.subject.id⟩ = (v.granted policy r).map Node.id := by
  rw [hg.listing_eq, h.joined_eq]

/-- A listing without a window shows everything that the rule grants. -/
theorem StandsFor.evaluate_eq {q : Query} {policy : Policy} {r : Request} {g : Graph}
    {v : GraphView} (h : StandsFor q policy r .distinctIds) (hg : g.Represents v) :
    g.evaluate q = .ok (((v.granted policy r).map Node.id).map Graph.idRow) := by
  have hskip : q.rowCountParam Query.skipParam = .ok none := h.rowCountParam_eq (by decide)
  have hlimit : q.rowCountParam Query.limitParam = .ok none := h.rowCountParam_eq (by decide)
  rw [Graph.evaluate_distinctIds h.projection_eq h.all_objects h.textParam_eq hskip hlimit,
    h.listing_eq hg]
  rfl

/-- No identifier is granted twice. -/
theorem nodup_ids_granted {policy : Policy} {r : Request} {g : Graph} {v : GraphView}
    (hg : g.Represents v) (hrule : RuleCompiles policy r.objectType r.action) :
    ((v.granted policy r).map Node.id).Nodup := by
  obtain ⟨q, -, hstands⟩ := exists_filterQuery hrule
  rw [← hstands.joined_eq]
  exact hg.nodup_ids_joined _ _

/-- Nothing is granted to a subject that is not in the graph. -/
theorem granted_eq_nil {policy : Policy} {r : Request} {g : Graph} {v : GraphView}
    (hg : g.Represents v) (hrule : RuleCompiles policy r.objectType r.action)
    (hsubject : r.subject.node ∉ v.nodes) : v.granted policy r = [] := by
  obtain ⟨q, -, hstands⟩ := exists_filterQuery hrule
  rw [← hstands.joined_eq, hstands.subject_eq]
  exact hg.joined_eq_nil hsubject q.plan

/-! ### The listing of an engine -/

namespace Engine

/-- An engine asks one query for a listing and reads the identifiers off its rows. -/
theorem filter_of_rows {engine : Engine} {r : Request} {s : Session Graph} {q : Query}
    {rows : List Row} (hq : r.filterQuery engine.policy = .ok q)
    (hrows : s.backend.evaluate q = .ok rows) :
    (engine.filter r s).1 = Answer.identifiers rows := by
  have hrun : (Backend.run q s.backend).1 = .ok rows := hrows
  unfold filter
  rw [hq, Access.ofExcept_ok_bind, Access.ask_bind]
  simp only [hrun]
  rfl

theorem filter_of_represents {engine : Engine} {r : Request} {s : Session Graph} {v : GraphView}
    (hrule : RuleCompiles engine.policy r.objectType r.action) (hg : s.backend.Represents v) :
    (engine.filter r s).1 = .ok ((v.granted engine.policy r).map Node.id) := by
  obtain ⟨q, hq, hstands⟩ := exists_filterQuery hrule
  rw [filter_of_rows hq (hstands.evaluate_eq hg), Graph.identifiers_idRows]

/-- Over the graph of any history, an engine lists exactly the objects for which some clause of the
rule holds: each once, in the order in which they were first mentioned, and none for a subject that
the history does not mention. -/
theorem filter_eq_granted (engine : Engine) (r : Request) (history : List Change)
    (s : Session Graph) (hgraph : s.backend = Graph.ofHistory history)
    (hrule : RuleCompiles engine.policy r.objectType r.action) :
    (engine.filter r s).1 =
        .ok (((GraphView.ofHistory history).granted engine.policy r).map Node.id) ∧
      (((GraphView.ofHistory history).granted engine.policy r).map Node.id).Nodup ∧
      (r.subject.node ∉ (GraphView.ofHistory history).nodes → (engine.filter r s).1 = .ok []) := by
  have hview : (Graph.ofHistory history).Represents (GraphView.ofHistory history) :=
    Graph.represents_ofHistory history
  have hlist := filter_of_represents hrule (hgraph ▸ hview)
  refine ⟨hlist, nodup_ids_granted hview hrule, ?_⟩
  intro hsubject
  rw [hlist, granted_eq_nil hview hrule hsubject]
  rfl

end Engine

/-! ### A policy for documents -/

namespace Docs

/-- Documents are read by their owners and by those whom a chain of team mates leads to them. -/
def policy : Policy :=
  ⟨"docs", [⟨"Document", [⟨"owner", "User"⟩, ⟨"Team", "user"⟩],
    [⟨"read", "owner or member from Team"⟩]⟩]⟩

/-- Two of three documents can be read, one as an owner's and one by a chain through a cycle. -/
def history : List Change :=
  [.addEdge ⟨"User", "1"⟩ "OWNER" ⟨"Document", "a"⟩,
   .addEdge ⟨"User", "lead"⟩ "MEMBER" ⟨"User", "1"⟩,
   .addEdge ⟨"User", "lead"⟩ "TEAM" ⟨"User", "manager"⟩,
   .addEdge ⟨"User", "manager"⟩ "TEAM" ⟨"User", "lead"⟩,
   .addEdge ⟨"User", "manager"⟩ "TEAM" ⟨"Document", "b"⟩,
   .addNode ⟨"Document", "c"⟩]

/-- Reading as user `1`. -/
def request : Request := ⟨⟨"user", "1"⟩, "read", "Document"⟩

/-- A session over that graph. -/
def session : Session Graph := ⟨Graph.ofHistory history, .empty 1000 1, 0, []⟩

end Docs

/-- What the listing shows is what the rule grants, here the documents `a` and `b`. -/
theorem Engine.filter_eq_granted_docs :
    RuleCompiles Docs.policy "Document" "read" ∧
      ((GraphView.ofHistory Docs.history).granted Docs.policy Docs.request).map Node.id =
        ["a", "b"] := by
  have hrule : RuleCompiles Docs.policy "Document" "read" := by decide +kernel
  have hrun : ((Engine.ofPolicy Docs.policy).filter Docs.request Docs.session).1 =
      .ok ["a", "b"] := by decide +kernel
  have hlist := (Engine.filter_eq_granted (Engine.ofPolicy Docs.policy) Docs.request Docs.history
    Docs.session rfl hrule).1
  rw [hrun] at hlist
  exact ⟨hrule, (Except.ok.inj hlist).symm⟩

end Rebac
