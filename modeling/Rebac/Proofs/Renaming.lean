import Rebac.Proofs.Count
import Rebac.Proofs.Graph.Renaming
import Rebac.Proofs.PointCheck
/-!
# Identifiers mean nothing

Labels say what a node is and identifiers only which one, so nothing that an engine computes may
depend on how an identifier is spelled. Requests compile to the same text and the same plan for
every subject and object, whose identifiers are parameters (`Query.access_rename`,
`Query.overObjects_rename`). And on a graph in which each identifier is replaced by another, a query
about the replaced ones returns the rows that it returned, with the replaced identifiers in them
(`Graph.Renamed.evaluate_eq`).
-/

namespace Rebac

variable {f : String → String}

/-! ### Names of things with other identifiers -/

/-- The value with its image in place of a text. -/
def Json.Value.rename (f : String → String) : Json.Value → Json.Value
  | .string s => .string (f s)
  | value => value

/-- The row with the images of the identifiers, which are the texts in it. -/
def Row.rename (f : String → String) (row : Row) : Row :=
  ⟨row.columns.map fun column => (column.1, column.2.rename f)⟩

/-- The query with the images of the identifiers, which are the texts among its parameters. -/
def Query.rename (f : String → String) (q : Query) : Query :=
  { q with params := q.params.map fun param => (param.1, param.2.rename f) }

/-- The entity with the image of its identifier. -/
def Entity.rename (f : String → String) (e : Entity) : Entity := { e with id := f e.id }

/-- The request of a subject with the image of its identifier. -/
def Request.rename (f : String → String) (r : Request) : Request :=
  { r with subject := r.subject.rename f }

theorem Assoc.get?_map {α β : Type} (h : α → β) (name : String) (m : Assoc α) :
    Assoc.get? name (m.map fun e => (e.1, h e.2)) = (Assoc.get? name m).map h := by
  induction m with
  | nil => rfl
  | cons entry rest ih => by_cases hname : entry.1 = name <;> simp [Assoc.get?, hname, ih]

theorem Json.Value.word?_rename (value : Json.Value) : (value.rename f).word? = value.word? := by
  cases value <;> rfl

theorem Json.Value.text?_rename (value : Json.Value) :
    (value.rename f).text? = value.text?.map f := by
  cases value <;> rfl

namespace Query

theorem param?_rename (q : Query) (name : String) :
    (q.rename f).param? name = (q.param? name).map (Json.Value.rename f) :=
  Assoc.get?_map _ name q.params

/-- A parameter that is a text becomes its image. -/
theorem textParam_rename (q : Query) (name : String) :
    (q.rename f).textParam name = (q.textParam name).map f := by
  unfold textParam
  rw [param?_rename]
  cases q.param? name with
  | none => rfl
  | some value =>
    simp only [Option.map_some, Option.bind_some, Json.Value.text?_rename]
    cases value.text? <;> rfl

/-- A parameter that bounds the number of rows is none. -/
theorem rowCountParam_rename (q : Query) (name : String) :
    (q.rename f).rowCountParam name = q.rowCountParam name := by
  unfold rowCountParam
  rw [param?_rename]
  cases q.param? name with
  | none => rfl
  | some value => simp only [Option.map_some, Json.Value.word?_rename]

theorem withWindow_rename (q : Query) (skip limit : UInt64) :
    (q.rename f).withWindow skip limit = (q.withWindow skip limit).rename f := by
  unfold withWindow rename
  simp only
  rw [← Assoc.set_map, ← Assoc.set_map]
  rfl

/-! ### Compiling -/

theorem access_rename (subject : Entity) (action : String) (object : Entity) (policy : Policy) :
    access (subject.rename f) action (object.rename f) policy =
      (access subject action object policy).map (rename f) := by
  unfold access
  show (compileRule object.typeName action true policy >>= _) = _
  cases compileRule object.typeName action true policy <;> rfl

theorem overObjects_rename (subject : Entity) (action objectType : String) (policy : Policy)
    (separator : String) (projection : Projection) (returns : String) :
    overObjects (subject.rename f) action objectType policy separator projection returns =
      (overObjects subject action objectType policy separator projection returns).map
        (rename f) := by
  unfold overObjects
  cases compileRule objectType action false policy <;> rfl

end Query

/-! ### Running -/

theorem eraseDups_map (hf : Function.Injective f) (ids : List String) :
    (ids.map f).eraseDups = ids.eraseDups.map f := by
  induction ids using List.reverseRecOn with
  | nil => rfl
  | append_singleton ids id ih =>
    have hmem : f id ∈ ids.map f ↔ id ∈ ids := List.mem_map_of_injective hf
    rw [List.map_append, List.map_singleton, eraseDups_concat, eraseDups_concat, ih]
    by_cases hid : id ∈ ids
    · rw [if_pos hid, if_pos (hmem.2 hid)]
    · rw [if_neg hid, if_neg fun himage => hid (hmem.1 himage), List.map_append,
        List.map_singleton]

theorem Row.map_rename_idRow (ids : List String) :
    (ids.map Graph.idRow).map (rename f) = (ids.map f).map Graph.idRow := by
  rw [List.map_map, List.map_map]
  rfl

/-- A window leaves the images of what it leaves. -/
theorem Graph.windowed_map (skip limit : Option UInt64) (ids : List String) :
    windowed skip limit (ids.map f) = (windowed skip limit ids).map f := by
  unfold windowed
  cases limit <;> simp

/-- Every column of a point check is a truth value. -/
theorem Graph.columns_clauseRow (clauses : List (CompiledClause × List Nat)) (object : Nat) :
    ∃ columns : Assoc Bool,
      (clauseRow clauses object).columns = columns.map fun e => (e.1, .bool e.2) := by
  let writes : List (String × Bool) :=
    clauses.map fun clause => (clause.1.column.getD clause.1.text, decide (object ∈ clause.2))
  refine ⟨Assoc.ofWrites writes, ?_⟩
  rw [← Assoc.ofWrites_map, clauseRow, Row.columns_ofList, List.map_map]
  rfl

/-- A point check returns nothing but such rows. -/
theorem Graph.exists_clauseRow {g : Graph} {q : Query} {rows : List Row} {row : Row}
    (hprojection : q.plan.projection = .clauseColumns) (hrows : g.evaluate q = .ok rows)
    (hrow : row ∈ rows) : ∃ clauses object, row = clauseRow clauses object := by
  obtain ⟨id, -, hrows⟩ := exists_of_bind_eq_ok hrows
  obtain ⟨objects, -, hrows⟩ := exists_of_bind_eq_ok hrows
  split at hrows
  · simp only [Graph.rows, hprojection] at hrows
    obtain rfl := Except.ok.inj hrows
    obtain ⟨object, -, rfl⟩ := List.mem_map.1 hrow
    exact ⟨_, object, rfl⟩
  · rw [hprojection] at hrows
    obtain rfl := Except.ok.inj hrows
    cases hrow

/-- So there is nothing in them to rename. -/
theorem Row.rename_clauseRow (clauses : List (CompiledClause × List Nat)) (object : Nat) :
    (Graph.clauseRow clauses object).rename f = Graph.clauseRow clauses object := by
  obtain ⟨columns, hcolumns⟩ := Graph.columns_clauseRow clauses object
  have hsame : (Graph.clauseRow clauses object).columns.map
      (fun column => (column.1, column.2.rename f)) = (Graph.clauseRow clauses object).columns := by
    rw [hcolumns, List.map_map]
    rfl
  exact congrArg Row.mk hsame

theorem Row.map_rename_of_clauseColumns {g : Graph} {q : Query} {rows : List Row}
    (hprojection : q.plan.projection = .clauseColumns) (hrows : g.evaluate q = .ok rows) :
    rows.map (rename f) = rows := by
  have hsame : ∀ row ∈ rows, row.rename f = id row := by
    intro row hrow
    obtain ⟨clauses, object, rfl⟩ := Graph.exists_clauseRow hprojection hrows hrow
    exact rename_clauseRow clauses object
  rw [List.map_congr_left hsame, List.map_id]

namespace Graph.Renamed

variable {g g' : Graph}

theorem clauseTargets_eq (h : Renamed f g g') (subject : Nat) (plan : Plan) :
    g'.clauseTargets subject plan = g.clauseTargets subject plan := by
  unfold clauseTargets
  simp only [h.targets_eq]

theorem identifiers_eq (h : Renamed f g g') (hf : Function.Injective f) (positions : List Nat) :
    g'.identifiers positions = (g.identifiers positions).map f := by
  unfold identifiers
  rw [← eraseDups_map hf, List.map_filterMap]
  congr 1
  apply List.filterMap_congr
  intro i _
  rw [h.getElem?_nodes, Option.map_map, Option.map_map]
  rfl

/-- A query is about the same positions. -/
theorem objects_eq (h : Renamed f g g') (q : Query) : g'.objects (q.rename f) = g.objects q := by
  have hplan : (q.rename f).plan = q.plan := rfl
  unfold objects
  rw [hplan, h.labelled_eq, q.textParam_rename]
  split
  · cases q.textParam Query.objectIdParam with
    | error e => rfl
    | ok id =>
      have hobject := h.position?_eq ⟨q.plan.objectLabel, id⟩
      exact congrArg (fun position : Option Nat => Except.ok position.toList) hobject
  · rfl

theorem rows_eq (h : Renamed f g g') (hf : Function.Injective f) (q : Query) (subject : Nat)
    (objects : List Nat) :
    g'.rows (q.rename f) subject objects =
      (g.rows q subject objects).map (List.map (Row.rename f)) := by
  have hplan : (q.rename f).plan = q.plan := rfl
  unfold rows
  simp only [hplan, h.clauseTargets_eq, q.rowCountParam_rename, h.identifiers_eq hf]
  cases q.plan.projection with
  | clauseColumns =>
    show Except.ok _ = Except.ok _
    rw [List.map_map]
    congr 2
    funext object
    exact (Row.rename_clauseRow _ object).symm
  | distinctIds =>
    cases q.rowCountParam Query.skipParam with
    | error e => rfl
    | ok skip =>
      cases q.rowCountParam Query.limitParam with
      | error e => rfl
      | ok limit =>
        show Except.ok ((windowed skip limit (List.map f _)).map idRow) =
          Except.ok (((windowed skip limit _).map idRow).map (Row.rename f))
        rw [windowed_map, Row.map_rename_idRow]
  | countDistinct => rfl

/-- A query about the images returns the rows of the query with the images in them. -/
theorem evaluate_eq (h : Renamed f g g') (hf : Function.Injective f) (q : Query) :
    g'.evaluate (q.rename f) = (g.evaluate q).map (List.map (Row.rename f)) := by
  have hplan : (q.rename f).plan = q.plan := rfl
  unfold evaluate
  rw [h.objects_eq, hplan, q.textParam_rename]
  cases q.textParam Query.subjectIdParam with
  | error e => rfl
  | ok id =>
    cases g.objects q with
    | error e => rfl
    | ok objects =>
      have hsubject : g'.position? ⟨q.plan.subjectLabel, f id⟩ =
          g.position? ⟨q.plan.subjectLabel, id⟩ := h.position?_eq ⟨q.plan.subjectLabel, id⟩
      simp only [Except.map, bind, Except.bind, hsubject]
      cases g.position? ⟨q.plan.subjectLabel, id⟩ with
      | some subject => exact h.rows_eq hf q subject objects
      | none => cases q.plan.projection <;> rfl

end Graph.Renamed

/-! ### Requests -/

theorem params_of_accessQuery {policy : Policy} {action : String} {subject object : Entity}
    {q : Query} (hq : Query.access subject action object policy = .ok q) :
    q.params = [(Query.subjectIdParam, .string subject.id),
      (Query.objectIdParam, .string object.id)] := by
  obtain ⟨clauses, -, hquery⟩ := exists_of_bind_eq_ok hq
  obtain rfl := Except.ok.inj hquery
  rfl

/-- Identifiers are opaque. Let each of them be replaced by an image, no two by the same one, in a
request and in the history of a graph. The request then fails as before, or it compiles to a query
with the same text and the same plan, in whose parameters the identifiers are replaced; and on the
graph of that history the query returns the same truth values for a point check, the images of the
same identifiers in the same order for a listing and for any window of it, and the same number for a
count. -/
theorem Graph.identifiers_opaque (hf : Function.Injective f) (policy : Policy)
    (history : List Change) :
    let g := ofHistory history
    let g' := ofHistory (history.map (Change.rename f))
    (∀ subject action object,
      Query.access (subject.rename f) action (object.rename f) policy =
        (Query.access subject action object policy).map (Query.rename f) ∧
      ∀ q, Query.access subject action object policy = .ok q →
        q.params = [(Query.subjectIdParam, .string subject.id),
          (Query.objectIdParam, .string object.id)] ∧
        ∃ rows, g.evaluate q = .ok rows ∧ g'.evaluate (q.rename f) = .ok rows) ∧
    ∀ r : Request,
      ((r.rename f).filterQuery policy = (r.filterQuery policy).map (Query.rename f) ∧
        ∀ q, r.filterQuery policy = .ok q →
          q.params = [(Query.subjectIdParam, .string r.subject.id)] ∧
          ∃ ids : List String, g.evaluate q = .ok (ids.map idRow) ∧
            g'.evaluate (q.rename f) = .ok ((ids.map f).map idRow) ∧
            ∀ skip limit : UInt64,
              let shown := (ids.drop skip.toNat).take limit.toNat
              g.evaluate (q.withWindow skip limit) = .ok (shown.map idRow) ∧
              g'.evaluate ((q.rename f).withWindow skip limit) = .ok ((shown.map f).map idRow)) ∧
      ((r.rename f).countQuery policy = (r.countQuery policy).map (Query.rename f) ∧
        ∀ q, r.countQuery policy = .ok q →
          q.params = [(Query.subjectIdParam, .string r.subject.id)] ∧
          ∃ n, g.evaluate q = .ok [totalRow n] ∧ g'.evaluate (q.rename f) = .ok [totalRow n]) := by
  intro g g'
  have hg : g.Represents (GraphView.ofHistory history) := represents_ofHistory history
  have hrenamed : Renamed f g g' := renamed_ofHistory hf history
  constructor
  · intro subject action object
    refine ⟨Query.access_rename subject action object policy, ?_⟩
    intro q hq
    have hchecks := checksFor_of_accessQuery hq
    obtain ⟨rows, hrows, -⟩ := hchecks.evaluate_eq hg
    refine ⟨params_of_accessQuery hq, rows, hrows, ?_⟩
    rw [hrenamed.evaluate_eq hf, hrows]
    exact congrArg Except.ok (Row.map_rename_of_clauseColumns hchecks.projection_eq hrows)
  · intro r
    refine ⟨⟨Query.overObjects_rename _ _ _ _ _ _ _, ?_⟩, Query.overObjects_rename _ _ _ _ _ _ _,
      ?_⟩
    · intro q hq
      have hstands := standsFor_of_filterQuery hq
      have hlist := hstands.evaluate_eq hg
      refine ⟨hstands.params_eq, _, hlist, ?_, ?_⟩
      · rw [hrenamed.evaluate_eq hf, hlist, ← Row.map_rename_idRow]
        rfl
      · intro skip limit shown
        have hwindow := hstands.evaluate_window hg skip limit
        refine ⟨hwindow, ?_⟩
        rw [Query.withWindow_rename, hrenamed.evaluate_eq hf, hwindow, ← Row.map_rename_idRow]
        rfl
    · intro q hq
      have hstands := standsFor_of_countQuery hq
      have hcount := hstands.evaluate_count hg
      refine ⟨hstands.params_eq, _, hcount, ?_⟩
      rw [hrenamed.evaluate_eq hf, hcount]
      rfl

namespace Docs

/-- Identifiers behind quotes, brackets and the name of a parameter. -/
def disguise (id : String) : String := "`)-[:OWNER]->(\"$subject_id\"" ++ id

theorem disguise_injective : Function.Injective disguise :=
  fun _ _ h => (String.append_right_inj _).1 h

end Docs

/-- The second of two documents is the second under its new name, on a page of one. -/
theorem Graph.identifiers_opaque_disguise :
    Function.Injective Docs.disguise ∧ ∃ q, Docs.request.filterQuery Docs.policy = .ok q ∧
      (Docs.request.rename Docs.disguise).filterQuery Docs.policy = .ok (q.rename Docs.disguise) ∧
      (ofHistory (Docs.history.map (Change.rename Docs.disguise))).evaluate
        ((q.rename Docs.disguise).withWindow 1 1) = .ok [idRow (Docs.disguise "b")] := by
  have hrun : (Docs.request.filterQuery Docs.policy).bind (ofHistory Docs.history).evaluate =
      .ok (["a", "b"].map idRow) := by decide +kernel
  have hrule : RuleCompiles Docs.policy "Document" "read" := by decide +kernel
  obtain ⟨q, hq, -⟩ := exists_filterQuery (r := Docs.request) hrule
  obtain ⟨-, hrequests⟩ := identifiers_opaque Docs.disguise_injective Docs.policy Docs.history
  obtain ⟨⟨hcompiled, hquery⟩, -⟩ := hrequests Docs.request
  obtain ⟨-, ids, hlist, -, hwindow⟩ := hquery q hq
  have hids : ids = ["a", "b"] := by
    rw [hq] at hrun
    have hrows := congrArg Answer.identifiers (Except.ok.inj (hlist.symm.trans hrun))
    rw [identifiers_idRows, identifiers_idRows] at hrows
    exact Except.ok.inj hrows
  have hshown : (ids.drop (1 : UInt64).toNat).take (1 : UInt64).toNat = ["b"] := by
    rw [hids]
    decide
  have hpage := (hwindow 1 1).2
  rw [hshown, List.map_singleton, List.map_singleton] at hpage
  rw [hq] at hcompiled
  exact ⟨Docs.disguise_injective, q, hq, hcompiled, hpage⟩

end Rebac
