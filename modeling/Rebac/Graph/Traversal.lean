import Rebac.Graph.Store
import Rebac.Pattern
/-!
# Following a chain of edges

A chain starts at the seeds, which are the intermediate nodes of a chained clause, and follows edges
of one label. The search goes breadth first: a queue holds the positions still to look at, each with
its distance from the seeds, and a position enters the queue when it is first seen and only while
its distance stays below the bound. A position is reached when an edge of the chain leads to it, so
a seed is reached only if a chain comes back to it.

The search ends because each step takes a position from the queue, and adds one only for a position
seen for the first time (`pending_step`).
-/

namespace Rebac

/-- The state of a search. -/
structure Traversal where
  /-- Positions to look at, with their distance from the seeds. -/
  queue : List (Nat × Nat)
  seen : List Nat
  reached : List Nat

namespace Traversal

/-- The search that has looked at nothing yet. -/
def start (seeds : List Nat) : Traversal := ⟨seeds.map (·, 0), seeds, []⟩

/-- An edge leads to `next` from a position at distance `depth`. -/
def visit (maxDepth depth : Nat) (t : Traversal) (next : Nat) : Traversal :=
  let reached := if next ∈ t.reached then t.reached else next :: t.reached
  if next ∈ t.seen then { t with reached }
  else if depth + 1 < maxDepth then ⟨t.queue ++ [(next, depth + 1)], next :: t.seen, reached⟩
  else ⟨t.queue, next :: t.seen, reached⟩

/-- Looks at the first position of the queue; nothing is left to do when there is none. -/
def step (g : Graph) (chain : String) (maxDepth : Nat) (t : Traversal) : Option Traversal :=
  match t.queue with
  | [] => none
  | (i, depth) :: queue =>
    some ((g.successors chain i).foldl (visit maxDepth depth) { t with queue })

/-- What is left to do: the positions in the queue, and the links that lead to positions not yet
seen. -/
def pending (g : Graph) (t : Traversal) : Nat :=
  (g.links.filter fun l => l.target ∉ t.seen).length + t.queue.length

theorem pending_visit {g : Graph} {t : Traversal} {next : Nat} (maxDepth depth : Nat)
    (h : ∃ l ∈ g.links, l.target = next) :
    pending g (visit maxDepth depth t next) ≤ pending g t := by
  obtain ⟨l, hl, rfl⟩ := h
  by_cases hs : l.target ∈ t.seen
  · simp [visit, pending, hs]
  · have hsplit : (g.links.filter fun k => k.target ∉ l.target :: t.seen) =
        (g.links.filter fun k => k.target ∉ t.seen).filter fun k => k.target ≠ l.target := by
      rw [List.filter_filter]
      exact List.filter_congr fun k _ => by simp [not_or]
    have hlt : (g.links.filter fun k => k.target ∉ l.target :: t.seen).length <
        (g.links.filter fun k => k.target ∉ t.seen).length := by
      rw [hsplit]
      exact List.length_filter_lt_length_iff_exists.2
        ⟨l, List.mem_filter.2 ⟨hl, by simpa using hs⟩, by simp⟩
    unfold visit pending
    rw [if_neg hs]
    split
    · simp only [List.length_append, List.length_cons, List.length_nil]
      omega
    · exact Nat.add_le_add_right (Nat.le_of_lt hlt) _

theorem pending_foldl_visit {g : Graph} (maxDepth depth : Nat) (nexts : List Nat) (t : Traversal)
    (h : ∀ next ∈ nexts, ∃ l ∈ g.links, l.target = next) :
    pending g (nexts.foldl (visit maxDepth depth) t) ≤ pending g t := by
  induction nexts generalizing t with
  | nil => exact Nat.le_refl _
  | cons next nexts ih =>
    exact Nat.le_trans (ih _ fun n hn => h n (List.mem_cons_of_mem _ hn))
      (pending_visit maxDepth depth (h next List.mem_cons_self))

/-- Each step leaves less to do. -/
theorem pending_step {g : Graph} {chain : String} {maxDepth : Nat} {t t' : Traversal}
    (h : step g chain maxDepth t = some t') : pending g t' < pending g t := by
  unfold step at h
  split at h
  · cases h
  next i depth queue hq =>
    obtain rfl := Option.some.inj h
    have hlinks : ∀ next ∈ g.successors chain i, ∃ l ∈ g.links, l.target = next := by
      intro next hn
      simp only [Graph.successors, List.mem_map, List.mem_filter] at hn
      obtain ⟨l, ⟨hl, -⟩, rfl⟩ := hn
      exact ⟨l, hl, rfl⟩
    have := pending_foldl_visit maxDepth depth _ { t with queue } hlinks
    simp only [pending, hq, List.length_cons] at this ⊢
    omega

/-- Goes on until the queue is empty. -/
def run (g : Graph) (chain : String) (maxDepth : Nat) (t : Traversal) : Traversal :=
  match h : step g chain maxDepth t with
  | none => t
  | some t' =>
    have := pending_step h
    run g chain maxDepth t'
termination_by pending g t

end Traversal

namespace Graph

/-- The nodes labelled `via` that an `edge` joins to a position, in either direction. -/
def seeds (g : Graph) (i : Nat) (edge via : String) : List Nat :=
  ((g.successors edge i ++ g.predecessors edge i).filter (g.hasLabel via)).eraseDups

/-- The positions that a chained pattern leads to from a position. -/
def chainedTargets (g : Graph) (i : Nat) (edge via chain : String) (maxDepth : Nat) : List Nat :=
  (Traversal.run g chain maxDepth (Traversal.start (g.seeds i edge via))).reached

/-- The positions that a pattern leads to from a position. -/
def targets (g : Graph) (i : Nat) : Pattern → List Nat
  | .direct edge => g.successors edge i
  | .chained edge via chain maxDepth => g.chainedTargets i edge via chain maxDepth

end Graph

end Rebac
