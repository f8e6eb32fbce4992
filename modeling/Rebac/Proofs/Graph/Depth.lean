import Mathlib.Algebra.Ring.Nat
import Mathlib.Data.Finset.Card
import Mathlib.Data.List.Perm.Subperm
import Rebac.Proofs.Graph.Chain
import Rebac.Proofs.Row
/-!
# In which order the search looks

A search takes one position off the queue with each step. `Traversal.Progress` keeps its books:
which entries have been taken so far, and which have been put in, those of the seeds first. No
position is put in twice (`Progress.nodup_queued`), and entries are taken in the order of their
distance from the seeds, which is the depth that they carry (`Progress.looked`). So a search ends
after at most as many steps as there are nodes, and one more than a depth never exceeds their number
(`Graph.search_looks_once`).
-/

namespace Rebac

/-! ### Distances -/

namespace Graph

variable {g : Graph} {chain : String} {seeds : List Nat} {n k i j : Nat}

theorem IsDistance.unique (hn : g.IsDistance chain seeds n i) (hk : g.IsDistance chain seeds k i) :
    n = k := by
  obtain ⟨hreached, hshortest⟩ := hn
  obtain ⟨hreached', hshortest'⟩ := hk
  rcases Nat.lt_trichotomy n k with hlt | heq | hlt
  · exact absurd hreached (hshortest' n hlt)
  · exact heq
  · exact absurd hreached' (hshortest k hlt)

theorem isDistance_zero : g.IsDistance chain seeds 0 i ↔ i ∈ seeds := by
  rw [IsDistance, reachedIn_zero]
  constructor
  · exact And.left
  · intro hseed
    exact ⟨hseed, fun k hk => absurd hk (Nat.not_lt_zero k)⟩

/-- A shortest walk is a shortest walk up to its last link. -/
theorem IsDistance.exists_before (h : g.IsDistance chain seeds (n + 1) j) :
    ∃ i, g.IsDistance chain seeds n i ∧ g.Linked chain i j := by
  obtain ⟨hreached, hshortest⟩ := h
  obtain ⟨i, hi, hlink⟩ := reachedIn_succ.1 hreached
  refine ⟨i, ⟨hi, ?_⟩, hlink⟩
  intro k hk hnear
  exact hshortest (k + 1) (by omega) (reachedIn_succ.2 ⟨i, hnear, hlink⟩)

/-- On a shortest walk there is a position at every smaller distance. -/
theorem IsDistance.exists_of_le (h : g.IsDistance chain seeds n j) (hk : k ≤ n) :
    ∃ i, g.IsDistance chain seeds k i := by
  induction n, hk using Nat.le_induction generalizing j with
  | base => exact ⟨j, h⟩
  | succ n _ ih =>
    obtain ⟨i, hi, -⟩ := h.exists_before
    exact ih hi

/-- A distance is smaller than the number of positions that a chain comes to: there is one of them
at each distance up to it. -/
theorem IsDistance.lt (h : g.IsDistance chain seeds n j) {size : Nat}
    (hsize : ∀ k i, g.ReachedIn chain seeds k i → i < size) : n < size := by
  have hbetween : ∀ k, k ≤ n → ∃ i, g.IsDistance chain seeds k i := fun k hk => h.exists_of_le hk
  choose! place hplace using hbetween
  have hmaps : Set.MapsTo place (Finset.range (n + 1)) (Finset.range size) := by
    intro k hk
    have hk : k ≤ n := Nat.le_of_lt_succ (Finset.mem_range.1 hk)
    exact Finset.mem_coe.2 (Finset.mem_range.2 (hsize k _ (hplace k hk).1))
  have hinj : Set.InjOn place (Finset.range (n + 1)) := by
    -- a position has one distance only, so no two of these positions are the same
    intro k hk l hl hsame
    have hk : k ≤ n := Nat.le_of_lt_succ (Finset.mem_range.1 hk)
    have hl : l ≤ n := Nat.le_of_lt_succ (Finset.mem_range.1 hl)
    exact (hplace k hk).unique (hsame ▸ hplace l hl)
  have hcard := Finset.card_le_card_of_injOn place hmaps hinj
  rwa [Finset.card_range, Finset.card_range] at hcard

theorem lt_nodeCount_of_hasLabel {label : String} (h : g.hasLabel label i = true) :
    i < g.nodeCount := by
  by_contra hout
  have hnone : g.nodes[i]? = none := Array.getElem?_eq_none (Nat.le_of_not_lt hout)
  simp [hasLabel, hnone] at h

/-- A chain comes only to nodes of the graph. -/
theorem ReachedIn.lt_nodeCount {edge via : String}
    (hends : ∀ l ∈ g.links, l.target < g.nodeCount)
    (h : g.ReachedIn chain (g.seeds i edge via) n j) : j < g.nodeCount := by
  cases n with
  | zero => exact lt_nodeCount_of_hasLabel (mem_seeds.1 (reachedIn_zero.1 h)).2
  | succ n =>
    obtain ⟨k, -, hlink⟩ := reachedIn_succ.1 h
    exact hends _ hlink

end Graph

namespace Traversal

/-! ### The books of a search -/

/-- A search from the seeds has come to `t`: step by step it has taken the entries `taken` off the
queue, and it has put the entries `queued` in, those of the seeds before the first step. -/
inductive Progress (g : Graph) (chain : String) (maxDepth : Nat) (seeds : List Nat) :
    List (Nat × Nat) → List (Nat × Nat) → Traversal → Prop where
  | start : Progress g chain maxDepth seeds [] (start seeds).queue (start seeds)
  /-- The first entry leaves the queue, and what the step adds stands behind the rest. -/
  | step {taken queued new rest : List (Nat × Nat)} {entry : Nat × Nat} {t t' : Traversal} :
    Progress g chain maxDepth seeds taken queued t →
    t.queue = entry :: rest → step g chain maxDepth t = some t' → t'.queue = rest ++ new →
    Progress g chain maxDepth seeds (taken ++ [entry]) (queued ++ new) t'

/-- What is true of the entries taken so far, when the next has at least this distance. -/
structure Looked (g : Graph) (chain : String) (maxDepth : Nat) (seeds : List Nat)
    (taken : List (Nat × Nat)) (level : Nat) : Prop where
  le_level : ∀ entry ∈ taken, entry.2 ≤ level
  in_order : (taken.map Prod.snd).Pairwise (· ≤ ·)
  /-- The depth of an entry is the distance of its position. -/
  is_distance : ∀ entry ∈ taken, g.IsDistance chain seeds entry.2 entry.1
  bound : ∀ entry ∈ taken, entry.2 < max maxDepth 1

/-- Whatever has been seen has been put in the queue, unless it is too far. -/
def SeenQueued (g : Graph) (chain : String) (maxDepth : Nat) (seeds : List Nat)
    (queued : List (Nat × Nat)) (t : Traversal) : Prop :=
  ∀ j ∈ t.seen, (∃ depth, (j, depth) ∈ queued) ∨
    ∀ n < max maxDepth 1, ¬ g.ReachedIn chain seeds n j

variable {g : Graph} {chain : String} {maxDepth : Nat} {seeds : List Nat}
  {taken queued rest : List (Nat × Nat)} {t t' : Traversal} {level i depth : Nat}

theorem positions_of_entries (positions : List Nat) (depth : Nat) :
    (positions.map (·, depth)).map Prod.fst = positions := by
  simp [Function.comp_def]

theorem Looked.nil : Looked g chain maxDepth seeds [] level where
  le_level entry hentry := by simp at hentry
  in_order := by simp
  is_distance entry hentry := by simp at hentry
  bound entry hentry := by simp at hentry

theorem Looked.concat (h : Looked g chain maxDepth seeds taken level) (hlevel : level ≤ depth)
    (hdistance : g.IsDistance chain seeds depth i) (hbound : depth < max maxDepth 1) :
    Looked g chain maxDepth seeds (taken ++ [(i, depth)]) depth := by
  have hle : ∀ entry ∈ taken, entry.2 ≤ depth :=
    fun entry hentry => (h.le_level entry hentry).trans hlevel
  constructor
  case le_level => exact List.forall_mem_append.2 ⟨hle, List.forall_mem_singleton.2 (Nat.le_refl _)⟩
  case in_order =>
    rw [List.map_append, List.pairwise_append]
    refine ⟨h.in_order, by simp, ?_⟩
    intro d hd d' hd'
    obtain ⟨entry, hentry, rfl⟩ := List.mem_map.1 hd
    obtain rfl := List.mem_singleton.1 hd'
    exact hle entry hentry
  case is_distance =>
    exact List.forall_mem_append.2 ⟨h.is_distance, List.forall_mem_singleton.2 hdistance⟩
  case bound => exact List.forall_mem_append.2 ⟨h.bound, List.forall_mem_singleton.2 hbound⟩

theorem seenQueued_start :
    SeenQueued g chain maxDepth seeds (start seeds).queue (start seeds) := by
  intro j hj
  exact Or.inl ⟨0, List.mem_map_of_mem hj⟩

/-- What a step sees for the first time joins the queue or is beyond the bound, since everything up
to the distance of the position has been seen before. -/
theorem SeenQueued.step {front back : List Nat} {new : List (Nat × Nat)}
    (h : SeenQueued g chain maxDepth seeds queued t)
    (hlevel : AtLevel g chain maxDepth seeds depth (i :: front) back t)
    (hqueue : t.queue = (i, depth) :: rest) (hstep : Traversal.step g chain maxDepth t = some t')
    (hnew : t'.queue = rest ++ new) :
    SeenQueued g chain maxDepth seeds (queued ++ new) t' := by
  obtain ⟨fresh, hnext, -, hfresh, hseen⟩ := step_of_queue hqueue hstep
  obtain rfl : new = fresh.map (·, depth + 1) := List.append_cancel_left (hnew.symm.trans hnext)
  intro j hj
  by_cases hold : j ∈ t.seen
  · rcases h j hold with hqueued | hfar
    · obtain ⟨d, hd⟩ := hqueued
      exact Or.inl ⟨d, List.mem_append_left _ hd⟩
    · exact Or.inr hfar
  · have hlink : g.Linked chain i j := ((hseen j).1 hj).resolve_left hold
    by_cases hbound : depth + 1 < maxDepth
    · have hmem : j ∈ fresh := (hfresh j).2 ⟨hlink, hold, hbound⟩
      exact Or.inl ⟨depth + 1, List.mem_append_right _ (List.mem_map_of_mem hmem)⟩
    · -- the bound is at most one further than this, so whatever is within it has been seen
      right
      intro n hn hreached
      exact hold (hlevel.near_seen n (by omega) j hreached)

namespace Progress

/-- First in, first out: what has been taken is what was put in first. -/
theorem queued_eq (h : Progress g chain maxDepth seeds taken queued t) :
    queued = taken ++ t.queue := by
  induction h with
  | start => rfl
  | step _ hqueue _ hnew ih => rw [ih, hqueue, hnew, List.append_assoc, List.append_assoc]; rfl

/-- No position is put in the queue twice, as it is seen when it is put there. -/
theorem nodup_queued (hseeds : seeds.Nodup) (h : Progress g chain maxDepth seeds taken queued t) :
    (queued.map Prod.fst).Nodup ∧ ∀ entry ∈ queued, entry.1 ∈ t.seen := by
  induction h with
  | start =>
    rw [Traversal.start, positions_of_entries]
    exact ⟨hseeds, by simp⟩
  | @step taken queued new rest entry t t' _ hqueue hstep hnew ih =>
    obtain ⟨hnodup, hqueued⟩ := ih
    obtain ⟨fresh, hnext, hdistinct, hfresh, hseen⟩ := step_of_queue hqueue hstep
    obtain rfl : new = fresh.map (·, entry.2 + 1) :=
      List.append_cancel_left (hnew.symm.trans hnext)
    constructor
    · rw [List.map_append, positions_of_entries, List.nodup_append]
      refine ⟨hnodup, hdistinct, ?_⟩
      -- what joins now has not been seen, and all that joined before has
      rintro j hj k hk rfl
      obtain ⟨old, hold, rfl⟩ := List.mem_map.1 hj
      exact ((hfresh _).1 hk).2.1 (hqueued old hold)
    · intro e he
      rw [hseen]
      rcases List.mem_append.1 he with hold | hadded
      · exact Or.inl (hqueued e hold)
      · obtain ⟨j, hj, rfl⟩ := List.mem_map.1 hadded
        exact Or.inr ((hfresh j).1 hj).1

/-- Entries are taken in the order of their distance, and nothing within the bound is left out. -/
theorem looked (h : Progress g chain maxDepth seeds taken queued t) :
    ∃ level front back, AtLevel g chain maxDepth seeds level front back t ∧
      Looked g chain maxDepth seeds taken level ∧ SeenQueued g chain maxDepth seeds queued t := by
  induction h with
  | start =>
    exact ⟨0, seeds, [], AtLevel.start g chain maxDepth seeds, Looked.nil, seenQueued_start⟩
  | @step taken queued new rest entry t t' _ hqueue hstep hnew ih =>
    obtain ⟨level, front, back, hlevel, hlooked, hseen⟩ := ih
    -- the entry is at the level of the search or, if the front is used up, at the next
    obtain ⟨hle, front', back', -, hhead⟩ := hlevel.at_head hqueue
    obtain ⟨front'', back'', hlevel'⟩ := hlevel.step_of_queue hqueue hstep
    have hdistance := hhead.front_distance entry.1 List.mem_cons_self
    have hbound := hhead.front_bound (List.cons_ne_nil _ _)
    exact ⟨entry.2, front'', back'', hlevel', hlooked.concat hle hdistance hbound,
      hseen.step hhead hqueue hstep hnew⟩

/-- From wherever a search has come to, it goes on until everything that was put in is taken. -/
theorem exists_run (h : Progress g chain maxDepth seeds taken queued t) :
    ∃ taken', Progress g chain maxDepth seeds taken' taken' (run g chain maxDepth t) := by
  fun_induction run g chain maxDepth t generalizing taken queued with
  | case1 t hstep =>
    have hqueued := h.queued_eq
    rw [step_eq_none_iff.1 hstep, List.append_nil] at hqueued
    exact ⟨taken, hqueued ▸ h⟩
  | case2 t t' hstep hless ih =>
    obtain ⟨i, depth, rest, hqueue⟩ := exists_head_of_step hstep
    obtain ⟨fresh, hnew, -⟩ := step_of_queue hqueue hstep
    exact ih (h.step hqueue hstep hnew)

/-- When everything that was put in is taken, the queue is empty. -/
theorem queue_eq_nil (h : Progress g chain maxDepth seeds taken taken t) : t.queue = [] :=
  List.self_eq_append_right.1 h.queued_eq

/-- A search that has ended has taken exactly the positions whose distance is below the bound. -/
theorem mem_taken_iff (h : Progress g chain maxDepth seeds taken taken t) {j : Nat} :
    (j, depth) ∈ taken ↔ g.IsDistance chain seeds depth j ∧ depth < max maxDepth 1 := by
  obtain ⟨level, front, back, hlevel, hlooked, hseen⟩ := h.looked
  constructor
  · intro htaken
    exact ⟨hlooked.is_distance _ htaken, hlooked.bound _ htaken⟩
  · intro hnear
    obtain ⟨hdistance, hbound⟩ := hnear
    have hend := hlevel.of_queue_eq_nil h.queue_eq_nil
    rcases hseen j (hend.mem_seen_of_empty hdistance.1 hbound) with htaken | hfar
    · obtain ⟨d, hd⟩ := htaken
      obtain rfl := hdistance.unique (hlooked.is_distance _ hd)
      exact hd
    · exact absurd hdistance.1 (hfar depth hbound)

end Progress

end Traversal

namespace Graph

variable {g : Graph} {edge via chain : String} {i maxDepth depth j : Nat}
  {taken queued : List (Nat × Nat)} {t : Traversal}

/-- There are no more steps than nodes. -/
theorem length_taken_le (hends : ∀ l ∈ g.links, l.target < g.nodeCount)
    (h : Traversal.Progress g chain maxDepth (g.seeds i edge via) taken queued t) :
    taken.length ≤ g.nodeCount := by
  obtain ⟨hnodup, -⟩ := h.nodup_queued (nodup_eraseDups _)
  rw [h.queued_eq, List.map_append] at hnodup
  obtain ⟨level, front, back, -, hlooked, -⟩ := h.looked
  -- the positions taken are different nodes
  have hnodes : taken.map Prod.fst ⊆ List.range g.nodeCount := by
    intro j hj
    obtain ⟨entry, hentry, rfl⟩ := List.mem_map.1 hj
    exact List.mem_range.2 ((hlooked.is_distance entry hentry).1.lt_nodeCount hends)
  have hle := (List.subperm_of_subset hnodup.of_append_left hnodes).length_le
  rwa [List.length_map, List.length_range] at hle

/-- One more than a depth is no more than the number of nodes, and so it is one more in words of any
width in which that number can be written. -/
theorem toNat_succ_depth {width : Nat} (hdepth : depth < g.nodeCount)
    (hwidth : g.nodeCount < 2 ^ width) : (BitVec.ofNat width depth + 1).toNat = depth + 1 := by
  have hsmall : depth + 1 < 2 ^ width := by omega
  simp only [BitVec.toNat_add, BitVec.ofNat_eq_ofNat, BitVec.toNat_ofNat]
  rw [← Nat.add_mod, Nat.mod_eq_of_lt hsmall]

/-- A search along a chain ends with everything looked at that is within the bound, and wherever it
has come to on the way: what was taken off the queue is the first part of what was put in; no
position was put in twice, so there are no more steps than nodes; the depths of what was taken never
decrease; and each is the length of the shortest walk from a seed, zero for the seeds themselves, so
that one more is at most the number of nodes and does not wrap around in words of any width that can
count them. Links have to end at nodes, as they do in the graph of any history. -/
theorem search_looks_once :
    (∀ history, ∀ l ∈ (ofHistory history).links, l.target < (ofHistory history).nodeCount) ∧
    ∀ (g : Graph) (i : Nat) (edge via chain : String) (maxDepth : Nat),
      (∀ l ∈ g.links, l.target < g.nodeCount) →
      let seeds := g.seeds i edge via
      let final := Traversal.run g chain maxDepth (Traversal.start seeds)
      (∃ taken, Traversal.Progress g chain maxDepth seeds taken taken final ∧ final.queue = [] ∧
        ∀ j depth, (j, depth) ∈ taken ↔
          g.IsDistance chain seeds depth j ∧ depth < max maxDepth 1) ∧
      ∀ taken queued t, Traversal.Progress g chain maxDepth seeds taken queued t →
        queued = taken ++ t.queue ∧ (queued.map Prod.fst).Nodup ∧ taken.length ≤ g.nodeCount ∧
        (taken.map Prod.snd).Pairwise (· ≤ ·) ∧
        ∀ j depth, (j, depth) ∈ taken →
          g.IsDistance chain seeds depth j ∧ (j ∈ seeds → depth = 0) ∧ depth + 1 ≤ g.nodeCount ∧
          ∀ width, g.nodeCount < 2 ^ width →
            (BitVec.ofNat width depth + 1).toNat = depth + 1 := by
  refine ⟨fun history => (represents_ofHistory history).target_lt_nodeCount, ?_⟩
  intro g i edge via chain maxDepth hends seeds final
  constructor
  · have hstart : Traversal.Progress g chain maxDepth seeds [] (Traversal.start seeds).queue
        (Traversal.start seeds) := .start
    obtain ⟨taken, hfinal⟩ := hstart.exists_run
    exact ⟨taken, hfinal, hfinal.queue_eq_nil, fun j depth => hfinal.mem_taken_iff⟩
  · intro taken queued t h
    obtain ⟨hnodup, -⟩ := h.nodup_queued (nodup_eraseDups _)
    obtain ⟨level, front, back, -, hlooked, -⟩ := h.looked
    refine ⟨h.queued_eq, hnodup, length_taken_le hends h, hlooked.in_order, ?_⟩
    intro j depth htaken
    have hdistance : g.IsDistance chain seeds depth j := hlooked.is_distance _ htaken
    have hlt : depth < g.nodeCount := hdistance.lt fun k i hreached => hreached.lt_nodeCount hends
    refine ⟨hdistance, ?_, hlt, fun width hwidth => toNat_succ_depth hlt hwidth⟩
    intro hseed
    exact hdistance.unique (isDistance_zero.2 hseed)

/-- On its way around the circle a search takes three steps, as many as there are nodes. The last
depth is one less than that, and two bits are enough to add one to it. With a bound of a thousand
nothing of this is left out. -/
theorem search_looks_once_circle :
    let seeds := Circle.graph.seeds 0 "MEMBER" "User"
    let taken := [(1, 0), (2, 1), (0, 2)]
    Traversal.Progress Circle.graph "TEAM" 1000 seeds taken taken ⟨[], [0, 2, 1], [1, 0, 2]⟩ ∧
      taken.length ≤ Circle.graph.nodeCount ∧ Circle.graph.nodeCount = 3 ∧
      Circle.graph.IsDistance "TEAM" seeds 2 0 ∧ (BitVec.ofNat 2 2 + 1).toNat = 3 ∧
      ∃ all, Traversal.Progress Circle.graph "TEAM" 1000 seeds all all
          (Traversal.run Circle.graph "TEAM" 1000 (Traversal.start seeds)) ∧
        (0, 2) ∈ all := by
  intro seeds taken
  have hseeds : seeds = [1] := by decide +kernel
  have hsize : Circle.graph.nodeCount = 3 := by decide +kernel
  have hlinks : Circle.graph.successors "TEAM" 1 = [2] ∧ Circle.graph.successors "TEAM" 2 = [0] ∧
      Circle.graph.successors "TEAM" 0 = [1] := by decide +kernel
  obtain ⟨hone, htwo, hzero⟩ := hlinks
  have hprogress : Traversal.Progress Circle.graph "TEAM" 1000 seeds taken taken
      ⟨[], [0, 2, 1], [1, 0, 2]⟩ := by
    have hfirst : Traversal.step Circle.graph "TEAM" 1000 (Traversal.start [1]) =
        some ⟨[(2, 1)], [2, 1], [2]⟩ := by
      show some ((Circle.graph.successors "TEAM" 1).foldl _ _) = _
      rw [hone]
      rfl
    have hsecond : Traversal.step Circle.graph "TEAM" 1000 ⟨[(2, 1)], [2, 1], [2]⟩ =
        some ⟨[(0, 2)], [0, 2, 1], [0, 2]⟩ := by
      show some ((Circle.graph.successors "TEAM" 2).foldl _ _) = _
      rw [htwo]
      rfl
    have hthird : Traversal.step Circle.graph "TEAM" 1000 ⟨[(0, 2)], [0, 2, 1], [0, 2]⟩ =
        some ⟨[], [0, 2, 1], [1, 0, 2]⟩ := by
      show some ((Circle.graph.successors "TEAM" 0).foldl _ _) = _
      rw [hzero]
      rfl
    rw [hseeds]
    exact ((Traversal.Progress.start.step rfl hfirst rfl).step rfl hsecond rfl).step rfl hthird rfl
  obtain ⟨hhistories, hgraphs⟩ := search_looks_once
  obtain ⟨⟨all, hrun, -, hall⟩, hbooks⟩ := hgraphs Circle.graph 0 "MEMBER" "User" "TEAM" 1000
    (hhistories Circle.history)
  obtain ⟨-, -, hsteps, -, hdepths⟩ := hbooks taken taken _ hprogress
  obtain ⟨hdistance, -, -, hword⟩ := hdepths 0 2 (by decide)
  have htwobits : Circle.graph.nodeCount < 2 ^ 2 := by
    rw [hsize]
    decide
  exact ⟨hprogress, hsteps, hsize, hdistance, hword 2 htwobits, all, hrun,
    (hall 0 2).2 ⟨hdistance, by decide⟩⟩

end Graph

end Rebac
