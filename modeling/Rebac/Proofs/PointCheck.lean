import Rebac.Proofs.Answer
import Rebac.Proofs.Listing
/-!
# Point checks

A point check shows the clauses of a rule by their columns, and a column that comes up again is
overwritten. So what it answers is the audit trail of the rule as far as it is not overwritten
(`Engine.check_eq`): it never grants what the listing leaves out
(`Engine.check_agrees_with_filter`), but it shows every clause, and grants whatever a clause grants,
only for rules whose columns are different (`Engine.audit_trail_iff`).
-/

namespace Rebac

open Classical in
/-- For each clause of a rule its column, and whether it holds. -/
noncomputable def auditTrail (policy : Policy) (objectType : String) (texts : List String)
    (v : GraphView) (s o : Node) : List (String × Bool) :=
  texts.map fun text => (clauseColumn text, decide (ClauseHolds policy objectType v s o text))

/-- The last of some clauses that have this column. -/
def LastWith (texts : List String) (column text : String) : Prop :=
  ∃ before after, texts = before ++ text :: after ∧ clauseColumn text = column ∧
    column ∉ after.map clauseColumn

theorem LastWith.mem {texts : List String} {column text : String}
    (h : LastWith texts column text) : text ∈ texts := by
  obtain ⟨before, after, rfl, -, -⟩ := h
  simp

section AuditTrail

variable {policy : Policy} {objectType : String} {texts : List String} {v : GraphView} {s o : Node}

theorem names_auditTrail :
    Assoc.names (auditTrail policy objectType texts v s o) = texts.map clauseColumn := by
  simp [Assoc.names, auditTrail]

open Classical in
/-- What is left of the trail when columns are overwritten: the last clause of each column. -/
theorem mem_ofWrites_auditTrail {column : String} {ok : Bool} :
    (column, ok) ∈ Assoc.ofWrites (auditTrail policy objectType texts v s o) ↔
      ∃ text, LastWith texts column text ∧
        (ok = true ↔ ClauseHolds policy objectType v s o text) := by
  rw [Assoc.mem_ofWrites]
  constructor
  · intro hlast
    obtain ⟨before, after, heq, hafter⟩ := hlast
    -- cutting the trail at a write cuts the rule at its clause
    obtain ⟨texts₁, rest, rfl, -, hrest⟩ := List.map_eq_append_iff.1 heq
    obtain ⟨text, texts₂, rfl, htext, rfl⟩ := List.map_eq_cons_iff.1 hrest
    obtain ⟨rfl, rfl⟩ := Prod.mk.inj htext
    refine ⟨text, ⟨texts₁, texts₂, rfl, rfl, ?_⟩, decide_eq_true_iff⟩
    rw [show texts₂.map _ = auditTrail policy objectType texts₂ v s o from rfl,
      names_auditTrail] at hafter
    exact hafter
  · intro hclause
    obtain ⟨text, ⟨before, after, rfl, rfl, hafter⟩, hok⟩ := hclause
    refine ⟨auditTrail policy objectType before v s o, auditTrail policy objectType after v s o,
      ?_, ?_⟩
    · have hdecide : ok = decide (ClauseHolds policy objectType v s o text) := by
        rw [Bool.eq_iff_iff, decide_eq_true_iff]
        exact hok
      simp [auditTrail, hdecide]
    · rw [names_auditTrail]
      exact hafter

/-- What is left of the trail allows something when some clause holds that is the last with its
column. -/
theorem isAllowed_ofWrites_auditTrail :
    isAllowed ((Assoc.ofWrites (auditTrail policy objectType texts v s o)).map
        fun e => ⟨e.1, e.2⟩) = true ↔
      ∃ text ∈ texts, LastWith texts (clauseColumn text) text ∧
        ClauseHolds policy objectType v s o text := by
  simp only [isAllowed, List.any_map, List.any_eq_true, Function.comp]
  constructor
  · intro hallowed
    obtain ⟨⟨column, ok⟩, hmem, hok⟩ := hallowed
    obtain ⟨text, hlast, hholds⟩ := mem_ofWrites_auditTrail.1 hmem
    obtain ⟨-, -, -, hcolumn, -⟩ := id hlast
    exact ⟨text, hlast.mem, hcolumn ▸ hlast, hholds.1 hok⟩
  · intro hclause
    obtain ⟨text, -, hlast, hholds⟩ := hclause
    refine ⟨(clauseColumn text, true), mem_ofWrites_auditTrail.2 ⟨text, hlast, ?_⟩, rfl⟩
    exact ⟨fun _ => hholds, fun _ => rfl⟩

/-- If no two clauses have one column, each is the last with its column. -/
theorem lastWith_of_nodup {text : String} (hnodup : (texts.map clauseColumn).Nodup)
    (hmem : text ∈ texts) : LastWith texts (clauseColumn text) text := by
  obtain ⟨before, after, rfl⟩ := List.append_of_mem hmem
  refine ⟨before, after, rfl, rfl, ?_⟩
  rw [List.map_append, List.map_cons] at hnodup
  exact (List.nodup_cons.1 (List.nodup_append.1 hnodup).2.1).1

end AuditTrail

/-! ### The query of a point check -/

/-- A query that stands for a point check: its parameters name subject and object, and its plan has
a column for each clause of the rule. -/
structure ChecksFor (q : Query) (policy : Policy) (subject : Entity) (action : String)
    (object : Entity) : Prop where
  subject_param : q.textParam Query.subjectIdParam = .ok subject.id
  object_param : q.textParam Query.objectIdParam = .ok object.id
  subject_eq : q.plan.subjectLabel = nodeLabel subject.typeName
  object_eq : q.plan.objectLabel = nodeLabel object.typeName
  one_object : q.plan.objectBound = true
  clauses_eq : ∃ patterns, List.Forall₂ (Denotes policy object.typeName)
    (policy.clauseTexts object.typeName action) patterns ∧
      q.plan.clauses = List.zipWith (CompiledClause.ofPattern true)
        (policy.clauseTexts object.typeName action) patterns
  projection_eq : q.plan.projection = .clauseColumns

theorem exists_accessQuery {policy : Policy} {action : String} (subject object : Entity)
    (h : RuleCompiles policy object.typeName action) :
    ∃ q, Query.access subject action object policy = .ok q ∧
      ChecksFor q policy subject action object := by
  obtain ⟨patterns, hpatterns, hrule⟩ := h.exists_patterns
  unfold Query.access
  rw [hrule true]
  exact ⟨_, rfl, rfl, rfl, rfl, rfl, rfl, ⟨patterns, hpatterns, rfl⟩, rfl⟩

/-- Only a rule that compiles gives a point check. -/
theorem ruleCompiles_of_accessQuery {policy : Policy} {action : String} {subject object : Entity}
    {q : Query} (hq : Query.access subject action object policy = .ok q) :
    RuleCompiles policy object.typeName action := by
  obtain ⟨clauses, hclauses, -⟩ := exists_of_bind_eq_ok hq
  exact ruleCompiles_of_compileRule hclauses

theorem checksFor_of_accessQuery {policy : Policy} {action : String} {subject object : Entity}
    {q : Query} (hq : Query.access subject action object policy = .ok q) :
    ChecksFor q policy subject action object := by
  obtain ⟨q', hq', hchecks⟩ := exists_accessQuery subject object (ruleCompiles_of_accessQuery hq)
  obtain rfl := Except.ok.inj (hq.symm.trans hq')
  exact hchecks

open Classical in
/-- The columns of a point check are those of the audit trail, with what it says of each clause. -/
theorem Graph.Represents.columns_eq {g : Graph} {v : GraphView} {s o : Node} {i j : Nat}
    (h : g.Represents v) (hs : v.nodes[i]? = some s) (ho : v.nodes[j]? = some o)
    {policy : Policy} {objectType : String} {texts : List String} {patterns : List Pattern}
    (hpatterns : List.Forall₂ (Denotes policy objectType) texts patterns) :
    (List.zipWith (CompiledClause.ofPattern true) texts patterns).map
        (fun c => (c.column.getD c.text, Json.Value.bool (j ∈ g.targets i c.pattern))) =
      (auditTrail policy objectType texts v s o).map fun e => (e.1, .bool e.2) := by
  induction hpatterns with
  | nil => rfl
  | cons hdenotes _ ih =>
    have hjoins := (h.mem_targets hs ho _).trans (hdenotes.joins_iff v s o)
    rw [List.zipWith_cons_cons, List.map_cons, ih, CompiledClause.pattern_ofPattern,
      decide_eq_decide.2 hjoins]
    rfl

/-- A point check returns one row if both nodes are there, and else none. -/
theorem ChecksFor.evaluate_eq {q : Query} {policy : Policy} {subject object : Entity}
    {action : String} {g : Graph} {v : GraphView} (h : ChecksFor q policy subject action object)
    (hg : g.Represents v) :
    ∃ rows, g.evaluate q = .ok rows ∧
      Answer.access rows =
        if subject.node ∈ v.nodes ∧ object.node ∈ v.nodes then
          .ok ((Assoc.ofWrites (auditTrail policy object.typeName
            (policy.clauseTexts object.typeName action) v subject.node object.node)).map
              fun e => ⟨e.1, e.2⟩)
        else .error .noResult := by
  have hobjects : g.objects q = .ok (g.position? object.node).toList := by
    simp [Graph.objects, h.one_object, h.object_param, h.object_eq, Entity.node, bind, Except.bind,
      pure, Except.pure]
  have hsubject : (⟨q.plan.subjectLabel, subject.id⟩ : Node) = subject.node := by
    rw [h.subject_eq]
    rfl
  simp only [Graph.evaluate, h.subject_param, hobjects, hsubject, bind, Except.bind]
  -- first whether the subject is there, then whether the object is
  cases hi : g.position? subject.node with
  | none =>
    have hmissing := hg.position?_eq_none_iff.1 hi
    refine ⟨[], ?_, ?_⟩
    · simp [Graph.rowsWithoutSubject, h.projection_eq, pure, Except.pure]
    · rw [if_neg fun hboth => hmissing hboth.1]
      rfl
  | some i =>
    have hs := (hg.position_iff subject.node i).1 hi
    simp only [Graph.rows, h.projection_eq, pure, Except.pure]
    refine ⟨_, rfl, ?_⟩
    cases hj : g.position? object.node with
    | none =>
      have hmissing := hg.position?_eq_none_iff.1 hj
      rw [if_neg fun hboth => hmissing hboth.2]
      rfl
    | some j =>
      have ho := (hg.position_iff object.node j).1 hj
      rw [if_pos ⟨List.mem_of_getElem? hs, List.mem_of_getElem? ho⟩]
      obtain ⟨patterns, hpatterns, hclauses⟩ := h.clauses_eq
      -- the row is written column by column, with what the trail says of each clause
      apply Answer.access_of_booleans
      rw [← Assoc.ofWrites_map, ← hg.columns_eq hs ho hpatterns, ← hclauses]
      unfold Graph.clauseRow Graph.clauseTargets
      rw [Row.columns_ofList, List.map_map]
      rfl

namespace Engine

section PointChecks

variable {engine : Engine} {subject object : Entity} {action : String} {s : Session Graph}
  {v : GraphView}

theorem check_of_rows {q : Query} {rows : List Row}
    (hq : Query.access subject action object engine.policy = .ok q)
    (hrows : s.backend.evaluate q = .ok rows) :
    (engine.check subject action object s).1 = Answer.access rows := by
  have hrun : (Backend.run q s.backend).1 = .ok rows := hrows
  unfold check
  rw [hq, Access.ofExcept_ok_bind, Access.ask_bind]
  simp only [hrun]
  rfl

/-- A point check answers what is left of the audit trail. -/
theorem check_eq (hrule : RuleCompiles engine.policy object.typeName action)
    (hg : s.backend.Represents v) :
    (engine.check subject action object s).1 =
      if subject.node ∈ v.nodes ∧ object.node ∈ v.nodes then
        .ok ((Assoc.ofWrites (auditTrail engine.policy object.typeName
          (engine.policy.clauseTexts object.typeName action) v subject.node object.node)).map
            fun e => ⟨e.1, e.2⟩)
      else .error .noResult := by
  obtain ⟨q, hq, hchecks⟩ := exists_accessQuery subject object hrule
  obtain ⟨rows, hrows, haccess⟩ := hchecks.evaluate_eq hg
  rw [check_of_rows hq hrows, haccess]

/-- A point check is answered for nodes that are both there. -/
theorem exists_check_eq_ok_iff (hrule : RuleCompiles engine.policy object.typeName action)
    (hg : s.backend.Represents v) :
    (∃ results, (engine.check subject action object s).1 = .ok results) ↔
      subject.node ∈ v.nodes ∧ object.node ∈ v.nodes := by
  rw [check_eq hrule hg]
  by_cases hboth : subject.node ∈ v.nodes ∧ object.node ∈ v.nodes <;> simp [hboth]

/-- And it has no result for others. -/
theorem check_eq_noResult_iff (hrule : RuleCompiles engine.policy object.typeName action)
    (hg : s.backend.Represents v) :
    (engine.check subject action object s).1 = .error .noResult ↔
      ¬ (subject.node ∈ v.nodes ∧ object.node ∈ v.nodes) := by
  rw [check_eq hrule hg]
  by_cases hboth : subject.node ∈ v.nodes ∧ object.node ∈ v.nodes <;> simp [hboth]

/-- An object is listed when the rule grants it. -/
theorem id_mem_granted_iff {policy : Policy} (hobject : object.node ∈ v.nodes) :
    object.id ∈ (v.granted policy ⟨subject, action, object.typeName⟩).map Node.id ↔
      Grants policy object.typeName action v subject.node object.node := by
  simp only [List.mem_map, GraphView.granted, List.mem_filter, decide_eq_true_eq]
  constructor
  · intro hlisted
    obtain ⟨o, ⟨-, hlabel, hgrants⟩, hid⟩ := hlisted
    -- label and identifier make the node
    have ho : o = object.node := by
      cases o
      simp_all [Entity.node]
    exact ho ▸ hgrants
  · intro hgrants
    exact ⟨object.node, ⟨hobject, rfl, hgrants⟩, rfl⟩

/-- A point check answers for nodes that are both there, with one result for each column of the
rule: whether the last clause with that column holds. What it allows is listed; and if no two
clauses have one column, it allows what is listed. -/
theorem check_agrees_with_filter (engine : Engine) (subject : Entity) (action : String)
    (object : Entity) (history : List Change) (s : Session Graph)
    (hgraph : s.backend = Graph.ofHistory history)
    (hrule : RuleCompiles engine.policy object.typeName action) :
    let v := GraphView.ofHistory history
    let texts := engine.policy.clauseTexts object.typeName action
    let answer := (engine.check subject action object s).1
    ((∃ results, answer = .ok results) ↔ subject.node ∈ v.nodes ∧ object.node ∈ v.nodes) ∧
      (¬ (subject.node ∈ v.nodes ∧ object.node ∈ v.nodes) → answer = .error .noResult) ∧
      (∀ results, answer = .ok results →
        results.map (·.clause) = (texts.map clauseColumn).eraseDups ∧
        ∀ result ∈ results, ∃ text, LastWith texts result.clause text ∧
          (result.ok = true ↔
            ClauseHolds engine.policy object.typeName v subject.node object.node text)) ∧
      ∃ ids, (engine.filter ⟨subject, action, object.typeName⟩ s).1 = .ok ids ∧
        (∀ results, answer = .ok results → isAllowed results = true → object.id ∈ ids) ∧
        (subject.node ∈ v.nodes → object.node ∈ v.nodes → (texts.map clauseColumn).Nodup →
          ∃ results, answer = .ok results ∧ (isAllowed results = true ↔ object.id ∈ ids)) := by
  intro v texts answer
  have hg : s.backend.Represents v := hgraph ▸ Graph.represents_ofHistory history
  have hanswer : answer = _ := check_eq hrule hg
  have hlist : (engine.filter ⟨subject, action, object.typeName⟩ s).1 = _ :=
    filter_of_represents hrule hg
  by_cases hboth : subject.node ∈ v.nodes ∧ object.node ∈ v.nodes
  · rw [if_pos hboth] at hanswer
    refine ⟨⟨fun _ => hboth, fun _ => ⟨_, hanswer⟩⟩, absurd hboth, ?_, _, hlist, ?_, ?_⟩
    · intro results hresults
      obtain rfl := Except.ok.inj (hanswer.symm.trans hresults)
      constructor
      · rw [List.map_map]
        exact (Assoc.names_ofWrites _).trans (congrArg _ names_auditTrail)
      · intro result hresult
        obtain ⟨⟨column, ok⟩, hmem, rfl⟩ := List.mem_map.1 hresult
        exact mem_ofWrites_auditTrail.1 hmem
    · intro results hresults hallowed
      obtain rfl := Except.ok.inj (hanswer.symm.trans hresults)
      obtain ⟨text, htext, -, hholds⟩ := isAllowed_ofWrites_auditTrail.1 hallowed
      exact (id_mem_granted_iff hboth.2).2 ⟨text, htext, hholds⟩
    · intro _ _ hnodup
      refine ⟨_, hanswer, ?_⟩
      rw [isAllowed_ofWrites_auditTrail, id_mem_granted_iff hboth.2]
      constructor
      · intro hallowed
        obtain ⟨text, htext, -, hholds⟩ := hallowed
        exact ⟨text, htext, hholds⟩
      · intro hgrants
        obtain ⟨text, htext, hholds⟩ := hgrants
        exact ⟨text, htext, lastWith_of_nodup hnodup htext, hholds⟩
  · -- without both nodes there is no result, and nothing to compare
    rw [if_neg hboth] at hanswer
    have hnone : ∀ results, answer ≠ .ok results := by
      intro results hresults
      rw [hanswer] at hresults
      cases hresults
    refine ⟨⟨?_, fun h => absurd h hboth⟩, fun _ => hanswer, ?_, _, hlist, ?_, ?_⟩
    · intro hok
      obtain ⟨results, hresults⟩ := hok
      exact absurd hresults (hnone results)
    · intro results hresults
      exact absurd hresults (hnone results)
    · intro results hresults
      exact absurd hresults (hnone results)
    · intro hsubject hobject
      exact absurd ⟨hsubject, hobject⟩ hboth

/-- A chain of team mates leads user `1` to the document `b`: the check allows it, as it is listed.
-/
theorem check_agrees_with_filter_docs :
    RuleCompiles Docs.policy "Document" "read" ∧
      ∃ results, ((ofPolicy Docs.policy).check ⟨"user", "1"⟩ "read" ⟨"Document", "b"⟩
          Docs.session).1 = .ok results ∧
        results.map (·.clause) = ["owner", "member_from_Team"] ∧ isAllowed results = true := by
  have hrule : RuleCompiles Docs.policy "Document" "read" := by decide +kernel
  have hlist : ((ofPolicy Docs.policy).filter ⟨⟨"user", "1"⟩, "read", "Document"⟩ Docs.session).1 =
      .ok ["a", "b"] := by decide +kernel
  have hsubject : Entity.node ⟨"user", "1"⟩ ∈ (GraphView.ofHistory Docs.history).nodes := by
    decide +kernel
  have hobject : Entity.node ⟨"Document", "b"⟩ ∈ (GraphView.ofHistory Docs.history).nodes := by
    decide +kernel
  obtain ⟨-, -, hresults, ids, hids, -, hagree⟩ := check_agrees_with_filter (ofPolicy Docs.policy)
    ⟨"user", "1"⟩ "read" ⟨"Document", "b"⟩ Docs.history Docs.session rfl hrule
  obtain rfl := Except.ok.inj (hlist.symm.trans hids)
  obtain ⟨results, hanswer, hallowed⟩ := hagree hsubject hobject (by decide +kernel)
  refine ⟨hrule, results, hanswer, ?_, hallowed.2 (by decide)⟩
  rw [(hresults results hanswer).1]
  decide +kernel

/-- A point check for nodes that are both there shows every clause of the rule just when no two
clauses have one column. It allows what some clause grants just when such a clause is not followed
by another with its column. -/
theorem audit_trail_iff (engine : Engine) (subject : Entity) (action : String) (object : Entity)
    (history : List Change) (s : Session Graph) (hgraph : s.backend = Graph.ofHistory history)
    (hrule : RuleCompiles engine.policy object.typeName action)
    (hsubject : subject.node ∈ (GraphView.ofHistory history).nodes)
    (hobject : object.node ∈ (GraphView.ofHistory history).nodes) :
    let v := GraphView.ofHistory history
    let texts := engine.policy.clauseTexts object.typeName action
    ∃ results, (engine.check subject action object s).1 = .ok results ∧
      (results.length = texts.length ↔ (texts.map clauseColumn).Nodup) ∧
      (results = (auditTrail engine.policy object.typeName texts v subject.node object.node).map
        (fun e => ⟨e.1, e.2⟩) ↔ (texts.map clauseColumn).Nodup) ∧
      (isAllowed results = true ↔
        ∃ text ∈ texts, LastWith texts (clauseColumn text) text ∧
          ClauseHolds engine.policy object.typeName v subject.node object.node text) := by
  intro v texts
  have hg : s.backend.Represents v := hgraph ▸ Graph.represents_ofHistory history
  have hanswer : (engine.check subject action object s).1 = _ := check_eq hrule hg
  rw [if_pos ⟨hsubject, hobject⟩] at hanswer
  refine ⟨_, hanswer, ?_, ?_, isAllowed_ofWrites_auditTrail⟩
  · -- as many entries as clauses: no column was dropped
    have hclauses : (texts.map clauseColumn).length = texts.length := List.length_map _
    rw [← length_eraseDups_eq_iff, hclauses, ← names_auditTrail, ← Assoc.names_ofWrites]
    unfold Assoc.names
    rw [List.length_map, List.length_map]
  · have hinj : Function.Injective fun e : String × Bool => (⟨e.1, e.2⟩ : ClauseResult) := by
      intro a b hab
      exact Prod.ext (ClauseResult.mk.inj hab).1 (ClauseResult.mk.inj hab).2
    rw [(List.map_injective_iff.2 hinj).eq_iff, Assoc.ofWrites_eq_self_iff, names_auditTrail]

/-- The clauses of that rule have different columns, so both are shown. -/
theorem audit_trail_iff_docs :
    RuleCompiles Docs.policy "Document" "read" ∧
      ∃ results, ((ofPolicy Docs.policy).check ⟨"user", "1"⟩ "read" ⟨"Document", "b"⟩
        Docs.session).1 = .ok results ∧ results.length = 2 := by
  have hrule : RuleCompiles Docs.policy "Document" "read" := by decide +kernel
  have hclauses : (Docs.policy.clauseTexts "Document" "read").length = 2 := by decide +kernel
  have hcolumns : ((Docs.policy.clauseTexts "Document" "read").map clauseColumn).Nodup := by
    decide +kernel
  obtain ⟨results, hanswer, hlength, -, -⟩ := audit_trail_iff (ofPolicy Docs.policy)
    ⟨"user", "1"⟩ "read" ⟨"Document", "b"⟩ Docs.history Docs.session rfl hrule
    (by decide +kernel) (by decide +kernel)
  exact ⟨hrule, results, hanswer, (hlength.2 hcolumns).trans hclauses⟩

end PointChecks

end Engine

/-! ### A rule whose clauses have one column -/

namespace SharedColumn

/-- A relation is called like the column of the clause before it. -/
def policy : Policy :=
  ⟨"docs", [⟨"Document", [⟨"Team", "User"⟩, ⟨"member_from_Team", "User"⟩],
    [⟨"read", "member from Team or member_from_Team"⟩]⟩]⟩

/-- A team mate leads user `1` to the document `5`. -/
def history : List Change :=
  [.addEdge ⟨"User", "1"⟩ "MEMBER" ⟨"User", "lead"⟩,
   .addEdge ⟨"User", "lead"⟩ "TEAM" ⟨"Document", "5"⟩]

/-- A session over that graph. -/
def session : Session Graph := ⟨Graph.ofHistory history, .empty 1000 1, 0, []⟩

end SharedColumn

/-- The first clause holds and the listing shows the document, but the second clause overwrites the
column of the first, and the check denies what the rule grants. -/
theorem Engine.check_denies_shared_column :
    RuleCompiles SharedColumn.policy "Document" "read" ∧
      Entity.node ⟨"User", "1"⟩ ∈ (GraphView.ofHistory SharedColumn.history).nodes ∧
      Entity.node ⟨"Document", "5"⟩ ∈ (GraphView.ofHistory SharedColumn.history).nodes ∧
      (SharedColumn.policy.clauseTexts "Document" "read").map clauseColumn =
        ["member_from_Team", "member_from_Team"] ∧
      ClauseHolds SharedColumn.policy "Document" (GraphView.ofHistory SharedColumn.history)
        (Entity.node ⟨"User", "1"⟩) (Entity.node ⟨"Document", "5"⟩) "member from Team" ∧
      ((Engine.ofPolicy SharedColumn.policy).check ⟨"User", "1"⟩ "read" ⟨"Document", "5"⟩
        SharedColumn.session).1 = .ok [⟨"member_from_Team", false⟩] ∧
      ((Engine.ofPolicy SharedColumn.policy).filter ⟨⟨"User", "1"⟩, "read", "Document"⟩
        SharedColumn.session).1 = .ok ["5"] := by
  refine ⟨by decide +kernel, by decide +kernel, by decide +kernel, by decide +kernel, ?_,
    by decide +kernel, by decide +kernel⟩
  have hmember : (GraphView.ofHistory SharedColumn.history).HasEdge "MEMBER"
      (Entity.node ⟨"User", "1"⟩) (Entity.node ⟨"User", "lead"⟩) := by decide +kernel
  have hteam : (GraphView.ofHistory SharedColumn.history).HasEdge "TEAM"
      (Entity.node ⟨"User", "lead"⟩) (Entity.node ⟨"Document", "5"⟩) := by decide +kernel
  refine ⟨.chained "member" "Team", by decide +kernel, ⟨"Team", "User"⟩, by decide +kernel,
    Entity.node ⟨"User", "lead"⟩, by decide +kernel, Or.inl ?_, 1, Nat.le_refl 1, by decide, ?_⟩
  · have hlabel : edgeLabel "member" = "MEMBER" := by decide +kernel
    rw [hlabel]
    exact hmember
  · have hlabel : edgeLabel "Team" = "TEAM" := by decide +kernel
    rw [hlabel]
    exact (Walk.refl _).step hteam

end Rebac
