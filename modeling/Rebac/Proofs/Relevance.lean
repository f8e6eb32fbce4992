import Rebac.Proofs.Graph.Agreement
import Rebac.Proofs.Graph.History
import Rebac.Proofs.PointCheck
import Rebac.Proofs.Run
/-!
# The edges that a rule mentions

The plan of a compiled request follows edges with just those labels that the clauses of its rule
name (`StandsFor.edgeLabels_eq`, `ChecksFor.edgeLabels_eq`). So over two graphs that agree on them
each query of a request returns the same rows, and the request as a whole comes to the same answer
and leaves the same behind, whatever the cache holds (`Access.SameOver`). In this way what a graph
is asked for depends on its nodes and on the edges that are mentioned, and not on how it came to
have them (`Engine.answers_depend_on_mentioned_edges`).
-/

namespace Rebac

/-! ### The labels of a rule -/

/-- The labels of the edges that a clause is about. -/
def Clause.edgeLabels : Clause → List String
  | .direct relation => [edgeLabel relation]
  | .chained relation relatedType => [edgeLabel relation, edgeLabel relatedType]

/-- The labels of the edges that a text mentions, if it is a clause. -/
def clauseEdgeLabels (text : String) : List String :=
  match Clause.parse text with
  | .ok clause => clause.edgeLabels
  | .error _ => []

/-- The labels of the edges that the rule of an action mentions. -/
def Policy.edgeLabels (policy : Policy) (objectType action : String) : List String :=
  (policy.clauseTexts objectType action).flatMap clauseEdgeLabels

/-- A clause and its pattern are about the same edges. -/
theorem Denotes.edgeLabels_eq {policy : Policy} {objectType text : String} {pattern : Pattern}
    (h : Denotes policy objectType text pattern) :
    pattern.edgeLabels = clauseEdgeLabels text := by
  obtain ⟨clause, hparse, hpattern⟩ := h
  unfold clauseEdgeLabels
  rw [hparse]
  cases clause with
  | direct relation =>
    obtain ⟨-, rfl⟩ := Clause.pattern_direct_eq_ok_iff.1 hpattern
    rfl
  | chained relation relatedType =>
    obtain ⟨declared, -, rfl⟩ := Clause.pattern_chained_eq_ok_iff.1 hpattern
    rfl

/-- So are the clauses of a rule and what they compile to, with columns or without. -/
theorem edgeLabels_zipWith {policy : Policy} {objectType : String} {texts : List String}
    {patterns : List Pattern} (h : List.Forall₂ (Denotes policy objectType) texts patterns)
    (audited : Bool) :
    (List.zipWith (CompiledClause.ofPattern audited) texts patterns).flatMap
      (·.pattern.edgeLabels) = texts.flatMap clauseEdgeLabels := by
  induction h with
  | nil => rfl
  | cons hdenotes _ ih =>
    rw [List.zipWith_cons_cons, List.flatMap_cons, List.flatMap_cons, ih,
      CompiledClause.pattern_ofPattern, hdenotes.edgeLabels_eq]

theorem StandsFor.edgeLabels_eq {q : Query} {policy : Policy} {r : Request}
    {projection : Projection} (h : StandsFor q policy r projection) :
    q.plan.edgeLabels = policy.edgeLabels r.objectType r.action := by
  obtain ⟨patterns, hpatterns, hclauses⟩ := h.clauses_eq
  unfold Plan.edgeLabels
  rw [hclauses]
  exact edgeLabels_zipWith hpatterns false

theorem ChecksFor.edgeLabels_eq {q : Query} {policy : Policy} {subject object : Entity}
    {action : String} (h : ChecksFor q policy subject action object) :
    q.plan.edgeLabels = policy.edgeLabels object.typeName action := by
  obtain ⟨patterns, hpatterns, hclauses⟩ := h.clauses_eq
  unfold Plan.edgeLabels
  rw [hclauses]
  exact edgeLabels_zipWith hpatterns true

/-! ### Requests over two graphs -/

namespace Access

variable {α β : Type} {g g' : Graph}

/-- Whether a session is over the one graph or over the other, the request is answered the same and
leaves the same behind, the graph apart. -/
def SameOver (g g' : Graph) (m : Access Graph α) : Prop :=
  ∀ s : Session Graph, s.backend = g →
    (m s).2.backend = g ∧ m { s with backend := g' } = ((m s).1, { (m s).2 with backend := g' })

theorem sameOver_ofExcept (answer : Except AccessError α) : SameOver g g' (ofExcept answer) :=
  fun _ hs => ⟨hs, rfl⟩

theorem sameOver_of_error {m : Access Graph α} {e : AccessError} (h : ∀ s, m s = (.error e, s)) :
    SameOver g g' m := by
  intro s hs
  rw [h, h]
  exact ⟨hs, rfl⟩

theorem sameOver_pure (a : α) : SameOver g g' (pure a) := fun _ hs => ⟨hs, rfl⟩

theorem sameOver_cached (key : String) : SameOver g g' (cached key) := fun _ hs => ⟨hs, rfl⟩

theorem sameOver_store (key : String) (value : Json.Value) : SameOver g g' (store key value) :=
  fun _ hs => ⟨hs, rfl⟩

/-- A query looks at the graph, but what it returns is the same. -/
theorem sameOver_ask {q : Query} (h : g.evaluate q = g'.evaluate q) : SameOver g g' (ask q) := by
  intro s hs
  refine ⟨hs, ?_⟩
  show (g'.evaluate q, _) = (s.backend.evaluate q, _)
  rw [hs, h]
  rfl

/-- The second part of a request has to be considered only for what the first part can come to. -/
theorem SameOver.bind {m : Access Graph α} {f : α → Access Graph β} (hm : SameOver g g' m)
    (hf : ∀ a s s', m s = (.ok a, s') → SameOver g g' (f a)) : SameOver g g' (m >>= f) := by
  intro s hs
  obtain ⟨hgraph, hother⟩ := hm s hs
  cases ha : (m s).1 with
  | error e =>
    have hhere : m s = (.error e, (m s).2) := Prod.ext ha rfl
    rw [ha] at hother
    rw [bind_of_eq_error hhere, bind_of_eq_error hother]
    exact ⟨hgraph, rfl⟩
  | ok a =>
    have hhere : m s = (.ok a, (m s).2) := Prod.ext ha rfl
    rw [ha] at hother
    rw [bind_of_eq_ok hhere, bind_of_eq_ok hother]
    exact hf a s _ hhere _ hgraph

/-- One query, made from a request, and an answer that is read off its rows. -/
theorem sameOver_askOnce {query : Except AccessError Query}
    {read : List Row → Except AccessError α}
    (h : ∀ q, query = .ok q → g.evaluate q = g'.evaluate q) :
    SameOver g g' (ofExcept query >>= fun q => ask q >>= fun rows => ofExcept (read rows)) := by
  apply (sameOver_ofExcept query).bind
  intro q s s' hq
  exact (sameOver_ask (h q (Prod.mk.inj hq).1)).bind fun rows _ _ _ =>
    sameOver_ofExcept (read rows)

end Access

section Requests

variable {g g' : Graph} {policy : Policy} {r : Request} {limit page : Int64}

/-- Where graphs agree on the labels of a rule, the queries of its requests return the same rows. -/
theorem StandsFor.evaluate_eq_of_agreesOn {q : Query} {projection : Projection}
    (hstands : StandsFor q policy r projection)
    (h : g.AgreesOn (policy.edgeLabels r.objectType r.action) g') :
    g.evaluate q = g'.evaluate q := by
  rw [← hstands.edgeLabels_eq] at h
  exact h.evaluate_eq

/-- A window leaves the plan of a listing as it is. -/
theorem StandsFor.evaluate_withWindow_eq_of_agreesOn {q : Query} {projection : Projection}
    (hstands : StandsFor q policy r projection)
    (h : g.AgreesOn (policy.edgeLabels r.objectType r.action) g') (skip size : UInt64) :
    g.evaluate (q.withWindow skip size) = g'.evaluate (q.withWindow skip size) := by
  have hplan : (q.withWindow skip size).plan = q.plan := rfl
  rw [← hstands.edgeLabels_eq, ← hplan] at h
  exact h.evaluate_eq

namespace Page

/-- The window for a page of a listing, when the total is known. -/
def windowOf (listing : Query) (limit page : Int64) (total : UInt64) :
    Except AccessError Window :=
  let pages := totalPages total limit.toUInt64
  if pages < page.toUInt64 then .error (.pageOutOfRange page pages)
  else .ok ⟨listing.withWindow (skip page.toUInt64 limit.toUInt64) limit.toUInt64, pages⟩

/-- Past the checks of its arguments, a window is made of the listing and the total. -/
theorem window_eq_bind {σ : Type} [Backend σ] (hpage : ¬ page ≤ 0) (hlimit : ¬ limit ≤ 0) :
    (window policy r limit page : Access σ Window) =
      Access.ofExcept (r.filterQuery policy) >>= fun listing =>
        totalCount policy r >>= fun total =>
          Access.ofExcept (windowOf listing limit page total) := by
  unfold window
  rw [if_neg hpage, if_neg hlimit]
  show (Access.ofExcept _ >>= _) = _
  congr 1
  funext listing
  congr 1
  funext total
  unfold windowOf
  by_cases hmissing : totalPages total limit.toUInt64 < page.toUInt64
  · simp only [hmissing, if_true]
    rfl
  · simp only [hmissing, if_false]
    rfl

/-- A total is the same, whether it is found in the cache or counted. -/
theorem sameOver_totalCount (h : g.AgreesOn (policy.edgeLabels r.objectType r.action) g') :
    Access.SameOver g g' (totalCount policy r) := by
  apply (Access.sameOver_cached r.cacheKey).bind
  intro found _ _ _
  cases found with
  | some value =>
    dsimp only
    cases value.word? with
    | some total => exact Access.sameOver_pure total
    | none => exact Access.sameOver_of_error fun _ => rfl
  | none =>
    apply (Access.sameOver_ofExcept (r.countQuery policy)).bind
    intro q _ _ hq
    have hstands := standsFor_of_countQuery (Prod.mk.inj hq).1
    apply (Access.sameOver_ask (hstands.evaluate_eq_of_agreesOn h)).bind
    intro rows _ _ _
    apply (Access.sameOver_ofExcept (Answer.count rows)).bind
    intro total _ _ _
    exact (Access.sameOver_store _ _).bind fun _ _ _ _ => Access.sameOver_pure total

/-- So are the number of pages and the window for each page. -/
theorem sameOver_window (h : g.AgreesOn (policy.edgeLabels r.objectType r.action) g') :
    Access.SameOver g g' (window policy r limit page) := by
  by_cases hpage : page ≤ 0
  · exact Access.sameOver_of_error fun _ => window_of_page_le hpage
  by_cases hlimit : limit ≤ 0
  · exact Access.sameOver_of_error fun _ => window_of_limit_le hpage hlimit
  rw [window_eq_bind hpage hlimit]
  apply (Access.sameOver_ofExcept (r.filterQuery policy)).bind
  intro listing _ _ _
  apply (sameOver_totalCount h).bind
  intro total _ _ _
  exact Access.sameOver_ofExcept (windowOf listing limit page total)

/-- What a window asks for is a part of the listing. -/
theorem exists_of_window_eq_ok {s s' : Session Graph} {w : Window}
    (hw : window policy r limit page s = (.ok w, s')) :
    ∃ q skip size, r.filterQuery policy = .ok q ∧ w.query = q.withWindow skip size := by
  by_cases hpage : page ≤ 0
  · rw [window_of_page_le hpage] at hw
    cases hw
  by_cases hlimit : limit ≤ 0
  · rw [window_of_limit_le hpage hlimit] at hw
    cases hw
  rw [window_eq_bind hpage hlimit] at hw
  obtain ⟨q, s₁, hq, hrest⟩ := Access.exists_of_bind_eq_ok hw
  obtain ⟨total, s₂, -, hlast⟩ := Access.exists_of_bind_eq_ok hrest
  have hwindow : windowOf q limit page total = .ok w := (Prod.mk.inj hlast).1
  simp only [windowOf] at hwindow
  split at hwindow
  · cases hwindow
  · rw [← Except.ok.inj hwindow]
    exact ⟨q, _, _, (Prod.mk.inj hq).1, rfl⟩

end Page

namespace Engine

variable {engine : Engine}

theorem sameOver_check {subject object : Entity} {action : String}
    (h : g.AgreesOn (engine.policy.edgeLabels object.typeName action) g') :
    Access.SameOver g g' (engine.check subject action object) := by
  apply Access.sameOver_askOnce
  intro q hq
  rw [← (checksFor_of_accessQuery hq).edgeLabels_eq] at h
  exact h.evaluate_eq

theorem sameOver_filter (h : g.AgreesOn (engine.policy.edgeLabels r.objectType r.action) g') :
    Access.SameOver g g' (engine.filter r) := by
  apply Access.sameOver_askOnce
  intro q hq
  exact (standsFor_of_filterQuery hq).evaluate_eq_of_agreesOn h

theorem sameOver_filterPaginated
    (h : g.AgreesOn (engine.policy.edgeLabels r.objectType r.action) g') :
    Access.SameOver g g' (engine.filterPaginated r limit page) := by
  apply (Page.sameOver_window h).bind
  intro w s s' hw
  obtain ⟨q, skip, size, hq, hquery⟩ := Page.exists_of_window_eq_ok hw
  have hrows := (standsFor_of_filterQuery hq).evaluate_withWindow_eq_of_agreesOn h skip size
  rw [hquery]
  apply (Access.sameOver_ask hrows).bind
  intro rows _ _ _
  apply (Access.sameOver_ofExcept (Answer.identifiers rows)).bind
  intro ids _ _ _
  exact Access.sameOver_pure _

end Engine

end Requests

/-- Two histories come to the same as far as some labels go if they mention the same nodes first, in
the same order, and of each edge with these labels both or neither add it and do not remove it
afterwards. -/
theorem GraphView.agreesOn_ofHistory_iff {labels : List String} {history history' : List Change} :
    (ofHistory history).AgreesOn labels (ofHistory history') ↔
      (history.flatMap Change.mentions).eraseDups = (history'.flatMap Change.mentions).eraseDups ∧
        ∀ e : Edge, e.label ∈ labels → (e.Stands history ↔ e.Stands history') := by
  rw [← nodes_ofHistory, ← nodes_ofHistory]
  simp only [← mem_edges_ofHistory]
  constructor
  · intro h
    exact ⟨h.nodes_eq, h.edge_iff⟩
  · intro h
    exact ⟨h.1, h.2⟩

/-- A query returns the same over the graphs of any two histories that come to the same nodes in the
same order and to the same edges among those that its plan mentions. So an engine answers a request
the same over both if they come to the same edges among those that its rule mentions: it checks,
lists, counts and cuts into pages alike, and leaves the same in the cache. In which order edges are
added and removed makes no difference, nor does how often, nor do edges with other labels. -/
theorem Engine.answers_depend_on_mentioned_edges (engine : Engine)
    (history history' : List Change) :
    let g := Graph.ofHistory history
    let g' := Graph.ofHistory history'
    let v := GraphView.ofHistory history
    let w := GraphView.ofHistory history'
    (∀ labels : List String, v.AgreesOn labels w ↔
      (history.flatMap Change.mentions).eraseDups = (history'.flatMap Change.mentions).eraseDups ∧
        ∀ e : Edge, e.label ∈ labels → (e.Stands history ↔ e.Stands history')) ∧
    (∀ q : Query, v.AgreesOn q.plan.edgeLabels w → (Backend.run q g).1 = (Backend.run q g').1) ∧
    ∀ (subject : Entity) (action objectType : String),
      v.AgreesOn (engine.policy.edgeLabels objectType action) w →
      (∀ id, Access.SameOver g g' (engine.check subject action ⟨objectType, id⟩)) ∧
      Access.SameOver g g' (engine.filter ⟨subject, action, objectType⟩) ∧
      Access.SameOver g g' (engine.count ⟨subject, action, objectType⟩) ∧
      (∀ limit page,
        Access.SameOver g g' (engine.filterPaginated ⟨subject, action, objectType⟩ limit page)) ∧
      ∀ page, Access.SameOver g g' (engine.filterPage ⟨subject, action, objectType⟩ page) := by
  intro g g' v w
  have hg : g.Represents v := Graph.represents_ofHistory history
  have hg' : g'.Represents w := Graph.represents_ofHistory history'
  refine ⟨fun labels => GraphView.agreesOn_ofHistory_iff, ?_, ?_⟩
  · intro q hviews
    exact (hg.agreesOn hg' hviews).evaluate_eq
  · intro subject action objectType hviews
    have hagree : g.AgreesOn (engine.policy.edgeLabels objectType action) g' :=
      hg.agreesOn hg' hviews
    refine ⟨?_, sameOver_filter hagree, Page.sameOver_totalCount hagree, ?_, ?_⟩
    · intro id
      exact sameOver_check hagree
    · intro limit page
      exact sameOver_filterPaginated hagree
    · intro page
      exact sameOver_filterPaginated hagree

/-! ### The same documents once more -/

/-- The nodes are there before any edge. One edge is added and removed again, one is added twice,
one has a label that no rule mentions, and the others come in another order. -/
def Docs.rebuilt : List Change :=
  [.addNode ⟨"User", "1"⟩, .addNode ⟨"Document", "a"⟩, .addNode ⟨"User", "lead"⟩,
   .addNode ⟨"User", "manager"⟩, .addNode ⟨"Document", "b"⟩, .addNode ⟨"Document", "c"⟩,
   .addEdge ⟨"User", "1"⟩ "OWNER" ⟨"Document", "c"⟩,
   .addEdge ⟨"User", "manager"⟩ "TEAM" ⟨"Document", "b"⟩,
   .addEdge ⟨"User", "manager"⟩ "TEAM" ⟨"User", "lead"⟩,
   .addEdge ⟨"User", "lead"⟩ "TEAM" ⟨"User", "manager"⟩,
   .removeEdge ⟨"User", "1"⟩ "OWNER" ⟨"Document", "c"⟩,
   .addEdge ⟨"User", "lead"⟩ "MEMBER" ⟨"User", "1"⟩,
   .addEdge ⟨"User", "1"⟩ "LIKES" ⟨"Document", "c"⟩,
   .addEdge ⟨"User", "1"⟩ "OWNER" ⟨"Document", "a"⟩,
   .addEdge ⟨"User", "1"⟩ "OWNER" ⟨"Document", "a"⟩]

/-- Other links are stored, and in another order, and the second page shows the same document. -/
theorem Engine.answers_depend_on_mentioned_edges_docs :
    (Graph.ofHistory Docs.history).links ≠ (Graph.ofHistory Docs.rebuilt).links ∧
      (∃ q, Docs.request.filterQuery Docs.policy = .ok q ∧
        (GraphView.ofHistory Docs.history).AgreesOn q.plan.edgeLabels
          (GraphView.ofHistory Docs.rebuilt) ∧
        (Backend.run q (Graph.ofHistory Docs.rebuilt)).1 = .ok (["a", "b"].map Graph.idRow)) ∧
      (GraphView.ofHistory Docs.history).AgreesOn (Docs.policy.edgeLabels "Document" "read")
        (GraphView.ofHistory Docs.rebuilt) ∧
      ((ofPolicy Docs.policy).filterPaginated Docs.request 1 2
        { Docs.session with backend := Graph.ofHistory Docs.rebuilt }).1 =
          .ok ⟨2, 2, [["b"]]⟩ := by
  have hviews : (GraphView.ofHistory Docs.history).AgreesOn
      (Docs.policy.edgeLabels "Document" "read") (GraphView.ofHistory Docs.rebuilt) := by
    decide +kernel
  have hrule : RuleCompiles Docs.policy "Document" "read" := by decide +kernel
  have hrows : (Docs.request.filterQuery Docs.policy).bind (Graph.ofHistory Docs.history).evaluate =
      .ok (["a", "b"].map Graph.idRow) := by decide +kernel
  have hpage : ((ofPolicy Docs.policy).filterPaginated Docs.request 1 2 Docs.session).1 =
      .ok ⟨2, 2, [["b"]]⟩ := by decide +kernel
  obtain ⟨-, hqueries, hrequests⟩ :=
    answers_depend_on_mentioned_edges (ofPolicy Docs.policy) Docs.history Docs.rebuilt
  refine ⟨by decide +kernel, ?_, hviews, ?_⟩
  · obtain ⟨q, hq, hstands⟩ := exists_filterQuery (r := Docs.request) hrule
    have hplan : (GraphView.ofHistory Docs.history).AgreesOn q.plan.edgeLabels
        (GraphView.ofHistory Docs.rebuilt) := by
      rw [hstands.edgeLabels_eq]
      exact hviews
    refine ⟨q, hq, hplan, ?_⟩
    rw [hq] at hrows
    rw [← hqueries q hplan]
    exact hrows
  · obtain ⟨-, -, -, hpages, -⟩ := hrequests ⟨"user", "1"⟩ "read" "Document" hviews
    have hsame : (ofPolicy Docs.policy).filterPaginated Docs.request 1 2
        { Docs.session with backend := Graph.ofHistory Docs.rebuilt } = _ :=
      (hpages 1 2 Docs.session rfl).2
    rw [hsame]
    exact hpage

end Rebac
