import Mathlib.Algebra.Ring.Nat
import Rebac.Proofs.Count
import Rebac.Proofs.Page.Run
/-!
# Runs of an engine

An engine over a graph in memory is asked for checks, listings, counts and pages, one after the
other, while the graph changes and time passes (`RunStep`). Of all this only the changes reach the
graph and only waiting moves the clock, and the cache is written to by nothing but a total that is
looked up: a request that does not look one up does no more than record its queries
(`Access.OnlyAsks`), and a page does to the session what looking its total up does
(`Engine.filterPaginated_lookup`).
-/

namespace Rebac

/-- The graph of a history goes on with further changes. -/
theorem Graph.ofHistory_append (history changes : List Change) :
    ofHistory (history ++ changes) = (ofHistory history).applyAll changes := by
  simp [ofHistory, applyAll]

/-! ### Requests that only ask -/

namespace Access

variable {α β : Type}

/-- All that is left of the request in a session over a graph is the record of its queries. -/
def OnlyAsks (m : Access Graph α) : Prop := ∀ s, ∃ asked, (m s).2 = { s with asked := asked }

theorem onlyAsks_ofExcept (answer : Except AccessError α) : OnlyAsks (ofExcept answer) :=
  fun s => ⟨s.asked, rfl⟩

theorem onlyAsks_pure (a : α) : OnlyAsks (pure a) := fun s => ⟨s.asked, rfl⟩

/-- A graph stays as it is when a query runs on it. -/
theorem onlyAsks_ask (query : Query) : OnlyAsks (ask query) := fun s => ⟨s.asked ++ [query], rfl⟩

theorem OnlyAsks.bind {m : Access Graph α} {f : α → Access Graph β} (hm : OnlyAsks m)
    (hf : ∀ a, OnlyAsks (f a)) : OnlyAsks (m >>= f) := by
  intro s
  obtain ⟨asked, hs⟩ := hm s
  cases ha : (m s).1 with
  | error e =>
    have hm : m s = (.error e, { s with asked }) := Prod.ext ha hs
    rw [bind_of_eq_error hm]
    exact ⟨asked, rfl⟩
  | ok a =>
    have hm : m s = (.ok a, { s with asked }) := Prod.ext ha hs
    rw [bind_of_eq_ok hm]
    obtain ⟨asked', hs'⟩ := hf a { s with asked }
    exact ⟨asked', hs'⟩

end Access

namespace Engine

variable {engine : Engine} {r : Request} {s : Session Graph}

theorem onlyAsks_check (subject : Entity) (action : String) (object : Entity) :
    Access.OnlyAsks (engine.check subject action object : Access Graph (List ClauseResult)) :=
  (Access.onlyAsks_ofExcept _).bind fun query =>
    (Access.onlyAsks_ask query).bind fun _ => Access.onlyAsks_ofExcept _

theorem onlyAsks_filter : Access.OnlyAsks (engine.filter r : Access Graph (List String)) :=
  (Access.onlyAsks_ofExcept _).bind fun query =>
    (Access.onlyAsks_ask query).bind fun _ => Access.onlyAsks_ofExcept _

end Engine

/-! ### Pages and totals -/

namespace Page

variable {σ : Type} [Backend σ] {policy : Policy} {r : Request} {limit page : Int64}
  {s s' : Session σ}

theorem window_of_filterQuery_error {e : AccessError} (hpage : ¬ page ≤ 0) (hlimit : ¬ limit ≤ 0)
    (hq : r.filterQuery policy = .error e) :
    window policy r limit page s = (.error e, s) := by
  unfold window
  rw [if_neg hpage, if_neg hlimit, hq]
  rfl

theorem window_of_totalCount_error {q : Query} {e : AccessError} (hpage : ¬ page ≤ 0)
    (hlimit : ¬ limit ≤ 0) (hq : r.filterQuery policy = .ok q)
    (htotal : totalCount policy r s = (.error e, s')) :
    window policy r limit page s = (.error e, s') := by
  unfold window
  rw [if_neg hpage, if_neg hlimit, hq]
  show (Access.ofExcept (.ok q) >>= _) s = _
  rw [Access.ofExcept_ok_bind]
  exact Access.bind_of_eq_error htotal

end Page

/-- Either a page is refused before its total is looked up, or the session is left as looking it up
leaves it, and a window shows pages of that total. -/
theorem Page.window_lookup (policy : Policy) (r : Request) (limit page : Int64)
    (s : Session Graph) :
    (∃ e, window policy r limit page s = (.error e, s)) ∨
      (window policy r limit page s).2 = (totalCount policy r s).2 ∧
        ∀ w, (window policy r limit page s).1 = .ok w → 0 < limit ∧ ∃ total,
          (totalCount policy r s).1 = .ok total ∧
            w.totalPages = totalPages total limit.toUInt64 := by
  -- in the order in which the arguments are looked at
  by_cases hpage : page ≤ 0
  · exact Or.inl ⟨_, window_of_page_le hpage⟩
  by_cases hlimit : limit ≤ 0
  · exact Or.inl ⟨_, window_of_limit_le hpage hlimit⟩
  cases hq : r.filterQuery policy with
  | error e => exact Or.inl ⟨e, window_of_filterQuery_error hpage hlimit hq⟩
  | ok q =>
    right
    cases htotal : (totalCount policy r s).1 with
    | error e =>
      have hlookup : totalCount policy r s = (.error e, (totalCount policy r s).2) :=
        Prod.ext htotal rfl
      rw [window_of_totalCount_error hpage hlimit hq hlookup]
      refine ⟨rfl, ?_⟩
      intro w hw
      cases hw
    | ok total =>
      have hlookup : totalCount policy r s = (.ok total, (totalCount policy r s).2) :=
        Prod.ext htotal rfl
      rw [window_eq hpage hlimit hq hlookup]
      split
      · refine ⟨rfl, ?_⟩
        intro w hw
        cases hw
      · refine ⟨rfl, ?_⟩
        intro w hw
        rw [← Except.ok.inj hw]
        exact ⟨Int64.not_le.1 hlimit, total, rfl, rfl⟩

/-- A page is answered from its window by asking one more query. -/
theorem Engine.filterPaginated_lookup (engine : Engine) (r : Request) (limit page : Int64)
    (s : Session Graph) :
    (∃ e, engine.filterPaginated r limit page s = (.error e, s)) ∨
      (∃ asked, (engine.filterPaginated r limit page s).2 =
        { (Page.totalCount engine.policy r s).2 with asked := asked }) ∧
        ∀ reply, (engine.filterPaginated r limit page s).1 = .ok reply → 0 < limit ∧ ∃ total,
          (Page.totalCount engine.policy r s).1 = .ok total ∧
            reply.totalPages = Page.totalPages total limit.toUInt64 := by
  unfold filterPaginated
  rcases Page.window_lookup engine.policy r limit page s with hrefused | hlookup
  · obtain ⟨e, hwindow⟩ := hrefused
    exact Or.inl ⟨e, Access.bind_of_eq_error hwindow⟩
  · right
    obtain ⟨hsession, hpages⟩ := hlookup
    cases hw : (Page.window engine.policy r limit page s).1 with
    | error e =>
      rw [Access.bind_of_eq_error (Prod.ext hw hsession)]
      refine ⟨⟨_, rfl⟩, ?_⟩
      intro reply hreply
      cases hreply
    | ok w =>
      rw [Access.bind_of_eq_ok (Prod.ext hw hsession)]
      obtain ⟨hlimit, total, htotal, htotalPages⟩ := hpages w hw
      constructor
      · exact ((Access.onlyAsks_ask w.query).bind fun _ => (Access.onlyAsks_ofExcept _).bind
          fun _ => Access.onlyAsks_pure _) _
      · intro reply hreply
        obtain ⟨rows, s₁, -, hread⟩ := Access.exists_of_bind_eq_ok (Prod.ext hreply rfl)
        obtain ⟨ids, s₂, -, hshown⟩ := Access.exists_of_bind_eq_ok hread
        rw [← Except.ok.inj (Prod.mk.inj hshown).1]
        exact ⟨hlimit, total, htotal, htotalPages⟩

/-! ### Steps -/

/-- A step of a run. -/
inductive RunStep where
  /-- An engine checks a subject and an object. -/
  | check (subject : Entity) (action : String) (object : Entity)
  /-- It lists the objects of a request. -/
  | filter (r : Request)
  /-- It counts them. -/
  | count (r : Request)
  /-- It shows a page of their listing, of its own size or of another. -/
  | page (r : Request) (limit page : Int64)
  /-- Someone changes the graph. -/
  | change (c : Change)
  /-- Some milliseconds pass. -/
  | wait (ms : Nat)

namespace RunStep

/-- The request whose total a step looks up. -/
def totalOf : RunStep → Option Request
  | .count r | .page r _ _ => some r
  | _ => none

/-- What a step changes in the graph. -/
def changeOf : RunStep → Option Change
  | .change c => some c
  | _ => none

/-- How long a step takes. -/
def duration : RunStep → Nat
  | .wait ms => ms
  | _ => 0

/-- The requests whose totals are looked up, in order. -/
def totals (steps : List RunStep) : List Request := steps.filterMap totalOf

/-- The changes of the graph, in order. -/
def changes (steps : List RunStep) : List Change := steps.filterMap changeOf

/-- How long all steps take. -/
def elapsed (steps : List RunStep) : Nat := (steps.map duration).sum

/-- A step that looks a total up takes no time and changes nothing in the graph. -/
theorem changeOf_of_totalOf {step : RunStep} {r : Request} (h : step.totalOf = some r) :
    step.changeOf = none ∧ step.duration = 0 := by
  cases step <;> simp_all [totalOf, changeOf, duration]

variable (earlier later : List RunStep) (step : RunStep)

theorem totals_append : totals (earlier ++ later) = totals earlier ++ totals later :=
  List.filterMap_append

theorem changes_append : changes (earlier ++ later) = changes earlier ++ changes later :=
  List.filterMap_append

theorem elapsed_append : elapsed (earlier ++ later) = elapsed earlier + elapsed later := by
  simp [elapsed]

@[simp] theorem changes_nil : changes [] = [] := rfl

@[simp] theorem elapsed_singleton : elapsed [step] = step.duration := by
  simp [elapsed]

end RunStep

namespace Engine

/-- What a step does to the session. -/
def runStep (engine : Engine) (s : Session Graph) : RunStep → Session Graph
  | .check subject action object => (engine.check subject action object s).2
  | .filter r => (engine.filter r s).2
  | .count r => (engine.count r s).2
  | .page r limit page => (engine.filterPaginated r limit page s).2
  | .change c => { s with backend := s.backend.apply c }
  | .wait ms => { s with now := s.now + ms }

/-- The session after a run. -/
def run (engine : Engine) (s : Session Graph) (steps : List RunStep) : Session Graph :=
  steps.foldl engine.runStep s

theorem run_concat (engine : Engine) (s : Session Graph) (steps : List RunStep) (step : RunStep) :
    engine.run s (steps ++ [step]) = engine.runStep (engine.run s steps) step := by
  simp [run]

/-- A step changes the graph, or passes the time, or looks a total up; whatever else it does is
recorded among the queries. -/
theorem runStep_cases (engine : Engine) (s : Session Graph) (step : RunStep) :
    (∃ asked, engine.runStep s step =
      { s with
        backend := s.backend.applyAll (RunStep.changes [step])
        now := s.now + step.duration
        asked }) ∨
      ∃ r asked, step.totalOf = some r ∧ engine.runStep s step =
        { (Page.totalCount engine.policy r s).2 with asked := asked } := by
  cases step with
  | check subject action object => exact Or.inl (onlyAsks_check subject action object s)
  | filter r => exact Or.inl (onlyAsks_filter s)
  | count r => exact Or.inr ⟨r, _, rfl, rfl⟩
  | page r limit page =>
    rcases engine.filterPaginated_lookup r limit page s with hrefused | hlookup
    · -- refused before anything happens
      obtain ⟨e, hanswer⟩ := hrefused
      refine Or.inl ⟨s.asked, ?_⟩
      show (engine.filterPaginated r limit page s).2 = _
      rw [hanswer]
      rfl
    · obtain ⟨asked, hsession⟩ := hlookup.1
      exact Or.inr ⟨r, asked, rfl, hsession⟩
  | change c => exact Or.inl ⟨s.asked, rfl⟩
  | wait ms => exact Or.inl ⟨s.asked, rfl⟩

end Engine

end Rebac
