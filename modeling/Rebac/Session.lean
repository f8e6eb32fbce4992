import Rebac.Cache
import Rebac.Graph.Evaluate
/-!
# Sessions

What a request to an engine works on: a backend that runs queries, a count cache, a clock, and the
record of the queries that have been run. A request may fail and still leave its traces in the
session.
-/

namespace Rebac

/-- Something that runs queries, in a state of its own. It may answer each run as it likes. -/
class Backend (σ : Type) where
  run : Query → σ → Except AccessError (List Row) × σ

/-- A graph in memory answers queries and stays as it is. -/
instance : Backend Graph where
  run query g := (g.evaluate query, g)

/-- Prepared answers, one for each run. -/
structure Script where
  answers : List (Except AccessError (List Row))

/-- A script gives its answers in order, and fails when none is left. -/
instance : Backend Script where
  run _ script :=
    match script.answers with
    | [] => (.error (.queryFailed (.reported "script exhausted")), script)
    | answer :: rest => (answer, ⟨rest⟩)

/-- A session over a backend with states `σ`. -/
structure Session (σ : Type) where
  backend : σ
  cache : CountCache
  /-- The time in milliseconds. -/
  now : Nat
  /-- The queries that have been run, the earliest first. -/
  asked : List Query

/-- What a request does to a session, and its answer. -/
abbrev Access (σ : Type) (α : Type) := ExceptT AccessError (StateM (Session σ)) α

namespace Access

variable {σ : Type}

/-- An answer that does nothing to the session. -/
def ofExcept {α : Type} (answer : Except AccessError α) : Access σ α := fun s => (answer, s)

/-- Runs a query. -/
def ask [Backend σ] (query : Query) : Access σ (List Row) := fun s =>
  let result := Backend.run query s.backend
  (result.1, { s with backend := result.2, asked := s.asked ++ [query] })

/-- The living value in the cache under `key`. -/
def cached (key : String) : Access σ (Option Json.Value) := fun s =>
  (.ok (s.cache.get? s.now key), s)

/-- Writes a value into the cache. -/
def store (key : String) (value : Json.Value) : Access σ Unit := fun s =>
  (.ok (), { s with cache := s.cache.set s.now key value })

/-! ### What a step does to the session -/

variable {α β : Type}

@[simp] theorem ofExcept_ok_bind (a : α) (f : α → Access σ β) (s : Session σ) :
    (ofExcept (.ok a) >>= f) s = f a s := rfl

@[simp] theorem ofExcept_error_bind (e : AccessError) (f : α → Access σ β) (s : Session σ) :
    (ofExcept (.error e) >>= f) s = (.error e, s) := rfl

/-- The query is recorded whatever the backend answers, and an error ends the request. -/
theorem ask_bind [Backend σ] (query : Query) (f : List Row → Access σ β) (s : Session σ) :
    (ask query >>= f) s =
      let next := { s with
        backend := (Backend.run query s.backend).2
        asked := s.asked ++ [query] }
      match (Backend.run query s.backend).1 with
      | .ok rows => f rows next
      | .error e => (.error e, next) := by
  simp only [bind, ExceptT.bind, ExceptT.mk, StateT.bind, ask]
  cases (Backend.run query s.backend).1 <;> rfl

@[simp] theorem cached_bind (key : String) (f : Option Json.Value → Access σ β) (s : Session σ) :
    (cached key >>= f) s = f (s.cache.get? s.now key) s := rfl

@[simp] theorem store_bind (key : String) (value : Json.Value) (f : Unit → Access σ β)
    (s : Session σ) :
    (store key value >>= f) s = f () { s with cache := s.cache.set s.now key value } := rfl

end Access

end Rebac
