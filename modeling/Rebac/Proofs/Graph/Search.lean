import Rebac.Graph.Traversal
import Rebac.Proofs.Graph.Walk
/-!
# The search follows every walk within its bound

`Traversal.run` goes breadth first, with one set of seen positions for all seeds. The invariant
`Traversal.AtLevel` says how far it has come: the queue holds first positions at one distance from
the seeds and then positions one further, everything up to that distance has been seen, and all of
it but the front of the queue has been looked at. A step keeps it, for this distance or for the next
(`AtLevel.step_of_queue`), and an empty queue at its end means that no walk within the bound is
missing (`AtLevel.mem_reached_run`). So the search finds exactly what the walks reach
(`Graph.mem_chainedTargets`).
-/

namespace Rebac

namespace Graph

/-- A walk of `n` links of the chain leads from a seed to `i`. -/
def ReachedIn (g : Graph) (chain : String) (seeds : List Nat) (n i : Nat) : Prop :=
  ∃ m ∈ seeds, Walk (g.Linked chain) n m i

/-- The shortest walk of the chain from a seed to `i` has `n` links. -/
def IsDistance (g : Graph) (chain : String) (seeds : List Nat) (n i : Nat) : Prop :=
  g.ReachedIn chain seeds n i ∧ ∀ k < n, ¬ g.ReachedIn chain seeds k i

variable {g : Graph} {chain : String} {seeds : List Nat}

theorem reachedIn_zero {i : Nat} : g.ReachedIn chain seeds 0 i ↔ i ∈ seeds := by
  constructor
  · intro hreached
    obtain ⟨m, hm, hw⟩ := hreached
    cases hw
    exact hm
  · intro hi
    exact ⟨i, hi, Walk.refl i⟩

theorem reachedIn_succ {n j : Nat} :
    g.ReachedIn chain seeds (n + 1) j ↔
      ∃ i, g.ReachedIn chain seeds n i ∧ g.Linked chain i j := by
  constructor
  · intro hreached
    obtain ⟨m, hm, hw⟩ := hreached
    cases hw with
    | step hw hl => exact ⟨_, ⟨m, hm, hw⟩, hl⟩
  · intro hreached
    obtain ⟨i, ⟨m, hm, hw⟩, hl⟩ := hreached
    exact ⟨m, hm, Walk.step hw hl⟩

end Graph

namespace Traversal

variable {g : Graph} {chain : String} {maxDepth : Nat} {seeds : List Nat}

/-! ### One position -/

theorem mem_seen_visit {depth next i : Nat} {t : Traversal} :
    i ∈ (visit maxDepth depth t next).seen ↔ i ∈ t.seen ∨ i = next := by
  by_cases hs : next ∈ t.seen
  · simp only [visit, hs, if_true]
    constructor
    · exact Or.inl
    · intro hmem
      rcases hmem with hold | rfl
      · exact hold
      · exact hs
  · by_cases hd : depth + 1 < maxDepth <;> simp [visit, hs, hd, or_comm]

theorem reached_visit {depth next : Nat} {t : Traversal} :
    (visit maxDepth depth t next).reached =
      if next ∈ t.reached then t.reached else next :: t.reached := by
  by_cases hs : next ∈ t.seen
  · simp [visit, hs]
  · by_cases hd : depth + 1 < maxDepth <;> simp [visit, hs, hd]

theorem mem_reached_visit {depth next i : Nat} {t : Traversal} :
    i ∈ (visit maxDepth depth t next).reached ↔ i ∈ t.reached ∨ i = next := by
  rw [reached_visit]
  split
  · next hr =>
    constructor
    · exact Or.inl
    · intro hmem
      rcases hmem with hold | rfl
      · exact hold
      · exact hr
  · simp [or_comm]

theorem queue_visit {depth next : Nat} {t : Traversal} :
    (visit maxDepth depth t next).queue =
      t.queue ++ if next ∉ t.seen ∧ depth + 1 < maxDepth then [(next, depth + 1)] else [] := by
  by_cases hs : next ∈ t.seen
  · simp [visit, hs]
  · by_cases hd : depth + 1 < maxDepth <;> simp [visit, hs, hd]

/-- What it does to look at the links of one position: their targets are seen and reached, and those
that are new and near enough join the queue, each once. -/
theorem foldl_visit (maxDepth depth : Nat) (nexts : List Nat) (t : Traversal) :
    ∃ new : List Nat,
      (nexts.foldl (visit maxDepth depth) t).queue = t.queue ++ new.map (·, depth + 1) ∧
      new.Nodup ∧
      (∀ i, i ∈ new ↔ i ∈ nexts ∧ i ∉ t.seen ∧ depth + 1 < maxDepth) ∧
      (∀ i, i ∈ (nexts.foldl (visit maxDepth depth) t).seen ↔ i ∈ t.seen ∨ i ∈ nexts) ∧
      (∀ i, i ∈ (nexts.foldl (visit maxDepth depth) t).reached ↔ i ∈ t.reached ∨ i ∈ nexts) := by
  -- a target that is met twice is new only the first time, so the traversal is generalized
  induction nexts generalizing t with
  | nil => exact ⟨[], by simp⟩
  | cons next nexts ih =>
    obtain ⟨new, hqueue, hnodup, hnew, hseen, hreached⟩ := ih (visit maxDepth depth t next)
    rw [List.foldl_cons]
    by_cases hfresh : next ∉ t.seen ∧ depth + 1 < maxDepth
    · refine ⟨next :: new, ?_, ?_, ?_, ?_, ?_⟩
      · rw [hqueue, queue_visit, if_pos hfresh]
        simp
      · have hmet : next ∉ new := by
          intro hmem
          obtain ⟨-, hunseen, -⟩ := (hnew next).1 hmem
          exact hunseen (mem_seen_visit.2 (Or.inr rfl))
        exact List.nodup_cons.2 ⟨hmet, hnodup⟩
      · intro i
        rw [List.mem_cons, hnew, mem_seen_visit, List.mem_cons]
        by_cases hi : i = next
        · subst hi
          simp [hfresh]
        · simp [hi]
      · intro i
        rw [hseen, mem_seen_visit, List.mem_cons, or_assoc]
      · intro i
        rw [hreached, mem_reached_visit, List.mem_cons, or_assoc]
    · refine ⟨new, ?_, hnodup, ?_, ?_, ?_⟩
      · rw [hqueue, queue_visit, if_neg hfresh, List.append_nil]
      · intro i
        rw [hnew, mem_seen_visit, List.mem_cons]
        by_cases hi : i = next
        · subst hi
          simp only [or_true, not_true, false_and, and_false, true_or, true_and, false_iff]
          exact hfresh
        · simp [hi]
      · intro i
        rw [hseen, mem_seen_visit, List.mem_cons, or_assoc]
      · intro i
        rw [hreached, mem_reached_visit, List.mem_cons, or_assoc]

/-! ### One step -/

theorem step_eq_none_iff {t : Traversal} : step g chain maxDepth t = none ↔ t.queue = [] := by
  unfold step
  split <;> simp [*]

theorem exists_head_of_step {t t' : Traversal} (h : step g chain maxDepth t = some t') :
    ∃ i depth rest, t.queue = (i, depth) :: rest := by
  cases hqueue : t.queue with
  | nil =>
    rw [step_eq_none_iff.2 hqueue] at h
    cases h
  | cons entry rest => exact ⟨entry.1, entry.2, rest, rfl⟩

/-- All that a step does to the queue and to what has been seen. -/
theorem step_of_queue {t t' : Traversal} {i depth : Nat} {rest : List (Nat × Nat)}
    (hqueue : t.queue = (i, depth) :: rest) (hstep : step g chain maxDepth t = some t') :
    ∃ new : List Nat, t'.queue = rest ++ new.map (·, depth + 1) ∧ new.Nodup ∧
      (∀ j, j ∈ new ↔ g.Linked chain i j ∧ j ∉ t.seen ∧ depth + 1 < maxDepth) ∧
      ∀ j, j ∈ t'.seen ↔ j ∈ t.seen ∨ g.Linked chain i j := by
  rw [step, hqueue] at hstep
  obtain rfl := Option.some.inj hstep
  obtain ⟨new, hnext, hnodup, hnew, hseen, -⟩ :=
    foldl_visit maxDepth depth (g.successors chain i) { t with queue := rest }
  simp only [Graph.mem_successors] at hnew hseen
  exact ⟨new, hnext, hnodup, hnew, hseen⟩

/-! ### The invariant -/

/-- A position has been looked at: where its links lead to is seen and reached. -/
def Done (g : Graph) (chain : String) (t : Traversal) (i : Nat) : Prop :=
  ∀ j, g.Linked chain i j → j ∈ t.seen ∧ j ∈ t.reached

/-- The search is looking at the positions at distance `level` from the seeds: `front` are those
that are left, and `back` are the positions one further that it has come upon so far. -/
structure AtLevel (g : Graph) (chain : String) (maxDepth : Nat) (seeds : List Nat) (level : Nat)
    (front back : List Nat) (t : Traversal) : Prop where
  queue_eq : t.queue = front.map (·, level) ++ back.map (·, level + 1)
  front_distance : ∀ i ∈ front, g.IsDistance chain seeds level i
  front_bound : front ≠ [] → level < max maxDepth 1
  back_distance : ∀ i ∈ back, g.IsDistance chain seeds (level + 1) i
  back_bound : back ≠ [] → level + 1 < maxDepth
  /-- Everything up to this distance has been seen. -/
  near_seen : ∀ n ≤ level, ∀ i, g.ReachedIn chain seeds n i → i ∈ t.seen
  /-- All of it but the front has been looked at, up to the bound. -/
  near_done : ∀ n ≤ level, n < max maxDepth 1 → ∀ i, g.ReachedIn chain seeds n i →
    i ∈ front ∨ t.Done g chain i
  /-- Only what is one further has been seen besides, and it waits in the queue. -/
  seen_near : ∀ i ∈ t.seen, (∃ n ≤ level, g.ReachedIn chain seeds n i) ∨
    (g.ReachedIn chain seeds (level + 1) i ∧ (level + 1 < maxDepth → i ∈ back))
  reached_sound : ∀ i ∈ t.reached, ∃ n, 1 ≤ n ∧ n ≤ max maxDepth 1 ∧ g.ReachedIn chain seeds n i

namespace AtLevel

variable {level : Nat} {front back : List Nat} {t t' : Traversal}

theorem start (g : Graph) (chain : String) (maxDepth : Nat) (seeds : List Nat) :
    AtLevel g chain maxDepth seeds 0 seeds [] (start seeds) where
  queue_eq := by simp [Traversal.start]
  front_distance i hi := ⟨Graph.reachedIn_zero.2 hi, fun k hk => absurd hk (Nat.not_lt_zero k)⟩
  front_bound _ := by omega
  back_distance i hi := by simp at hi
  back_bound h := absurd rfl h
  near_seen n hn i hi := by
    obtain rfl := Nat.le_zero.1 hn
    exact Graph.reachedIn_zero.1 hi
  near_done n hn _ i hi := by
    obtain rfl := Nat.le_zero.1 hn
    exact Or.inl (Graph.reachedIn_zero.1 hi)
  seen_near i hi := Or.inl ⟨0, Nat.le_refl 0, Graph.reachedIn_zero.2 hi⟩
  reached_sound i hi := by simp [Traversal.start] at hi

/-- When the front is used up, the back becomes the front of the next level. -/
theorem next_level (h : AtLevel g chain maxDepth seeds level [] back t) (hback : back ≠ []) :
    AtLevel g chain maxDepth seeds (level + 1) back [] t := by
  have hbound : level + 1 < maxDepth := h.back_bound hback
  have hseen : ∀ i, g.ReachedIn chain seeds (level + 1) i → i ∈ t.seen := by
    intro i hi
    obtain ⟨k, hk, hl⟩ := Graph.reachedIn_succ.1 hi
    rcases h.near_done level (Nat.le_refl _) (by omega) k hk with hmem | hdone
    · simp at hmem
    · exact (hdone i hl).1
  have hdone : ∀ n ≤ level, n < max maxDepth 1 → ∀ i, g.ReachedIn chain seeds n i →
      t.Done g chain i := by
    intro n hn hlt i hi
    rcases h.near_done n hn hlt i hi with hmem | hdone
    · simp at hmem
    · exact hdone
  constructor
  case queue_eq =>
    rw [h.queue_eq]
    simp
  case front_distance => exact h.back_distance
  case front_bound =>
    intro _
    omega
  case back_distance => simp
  case back_bound => simp
  case near_seen =>
    intro n hn i hi
    rcases Nat.lt_or_eq_of_le hn with hlt | rfl
    · exact h.near_seen n (by omega) i hi
    · exact hseen i hi
  case near_done =>
    intro n hn hlt i hi
    rcases Nat.lt_or_eq_of_le hn with hle | rfl
    · exact Or.inr (hdone n (by omega) hlt i hi)
    · -- at the new distance a position is done if it was met before, and else it is in the front
      rcases h.seen_near i (hseen i hi) with ⟨k, hk, hnear⟩ | ⟨-, hwait⟩
      · exact Or.inr (hdone k hk (by omega) i hnear)
      · exact Or.inl (hwait hbound)
  case seen_near =>
    intro i hi
    rcases h.seen_near i hi with ⟨n, hn, hnear⟩ | ⟨hnear, -⟩
    · exact Or.inl ⟨n, by omega, hnear⟩
    · exact Or.inl ⟨level + 1, Nat.le_refl _, hnear⟩
  case reached_sound => exact h.reached_sound

/-- Looking at the first position of the front. -/
theorem look {i : Nat} (h : AtLevel g chain maxDepth seeds level (i :: front) back t) :
    ∃ new, AtLevel g chain maxDepth seeds level front (back ++ new)
      ((g.successors chain i).foldl (visit maxDepth level)
        { t with queue := front.map (·, level) ++ back.map (·, level + 1) }) := by
  -- `new` are the targets that join the queue; they are all one further
  obtain ⟨new, hqueue, -, hnew, hseen, hreached⟩ := foldl_visit maxDepth level
    (g.successors chain i) { t with queue := front.map (·, level) ++ back.map (·, level + 1) }
  have hi : g.ReachedIn chain seeds level i := (h.front_distance i List.mem_cons_self).1
  have hbound : level < max maxDepth 1 := h.front_bound (List.cons_ne_nil _ _)
  have hnext : ∀ j ∈ g.successors chain i, g.ReachedIn chain seeds (level + 1) j := by
    intro j hj
    exact Graph.reachedIn_succ.2 ⟨i, hi, Graph.mem_successors.1 hj⟩
  refine ⟨new, ?_⟩
  constructor
  case queue_eq =>
    rw [hqueue]
    simp
  case front_distance =>
    intro j hj
    exact h.front_distance j (List.mem_cons_of_mem _ hj)
  case front_bound =>
    intro _
    exact hbound
  case back_distance =>
    intro j hj
    rcases List.mem_append.1 hj with hj | hj
    · exact h.back_distance j hj
    · -- a new position is no nearer than this, or it would have been seen before
      obtain ⟨hlink, hfresh, -⟩ := (hnew j).1 hj
      refine ⟨hnext j hlink, ?_⟩
      intro k hk hnear
      exact hfresh (h.near_seen k (by omega) j hnear)
  case back_bound =>
    intro hne
    cases hback : back with
    | cons b bs => exact h.back_bound (by simp [hback])
    | nil =>
      rw [hback, List.nil_append] at hne
      obtain ⟨j, hj⟩ := List.exists_mem_of_ne_nil new hne
      exact ((hnew j).1 hj).2.2
  case near_seen =>
    intro n hn j hj
    exact (hseen j).2 (Or.inl (h.near_seen n hn j hj))
  case near_done =>
    intro n hn hlt j hj
    rcases h.near_done n hn hlt j hj with hmem | hdone
    · rcases List.mem_cons.1 hmem with rfl | hmem
      · -- the position itself has left the front, but its links have just been followed
        right
        intro k hk
        have hk := Graph.mem_successors.2 hk
        exact ⟨(hseen k).2 (Or.inr hk), (hreached k).2 (Or.inr hk)⟩
      · exact Or.inl hmem
    · right
      intro k hk
      exact ⟨(hseen k).2 (Or.inl (hdone k hk).1), (hreached k).2 (Or.inl (hdone k hk).2)⟩
  case seen_near =>
    intro j hj
    by_cases hold : j ∈ t.seen
    · rcases h.seen_near j hold with hnear | ⟨hnear, hwait⟩
      · exact Or.inl hnear
      · exact Or.inr ⟨hnear, fun hlt => List.mem_append_left _ (hwait hlt)⟩
    · rcases (hseen j).1 hj with hj | hj
      · exact absurd hj hold
      · exact Or.inr ⟨hnext j hj,
          fun hlt => List.mem_append_right _ ((hnew j).2 ⟨hj, hold, hlt⟩)⟩
  case reached_sound =>
    intro j hj
    rcases (hreached j).1 hj with hj | hj
    · exact h.reached_sound j hj
    · exact ⟨level + 1, by omega, by omega, hnext j hj⟩

/-- The first position of the queue is the first of the front, at this distance or at the next. -/
theorem at_head (h : AtLevel g chain maxDepth seeds level front back t) {i depth : Nat}
    {rest : List (Nat × Nat)} (hqueue : t.queue = (i, depth) :: rest) :
    level ≤ depth ∧ ∃ front' back', rest = front'.map (·, depth) ++ back'.map (·, depth + 1) ∧
      AtLevel g chain maxDepth seeds depth (i :: front') back' t := by
  cases hfront : front with
  | cons j front' =>
    -- the position that is taken off the queue is at this distance
    subst hfront
    rw [h.queue_eq, List.map_cons, List.cons_append, List.cons.injEq, Prod.mk.injEq] at hqueue
    obtain ⟨⟨rfl, rfl⟩, hrest⟩ := hqueue
    exact ⟨Nat.le_refl _, front', back, hrest.symm, h⟩
  | nil =>
    subst hfront
    cases hback : back with
    | nil =>
      -- the queue is empty, so it has no first
      subst hback
      rw [h.queue_eq] at hqueue
      cases hqueue
    | cons j back' =>
      -- it is the first that is one further
      subst hback
      have hnext := h.next_level (List.cons_ne_nil _ _)
      rw [hnext.queue_eq, List.map_cons, List.cons_append, List.cons.injEq,
        Prod.mk.injEq] at hqueue
      obtain ⟨⟨rfl, rfl⟩, hrest⟩ := hqueue
      exact ⟨Nat.le_succ _, back', [], hrest.symm, hnext⟩

/-- A step keeps the invariant, for the distance of the position that it looks at. -/
theorem step_of_queue {i depth : Nat} {rest : List (Nat × Nat)}
    (h : AtLevel g chain maxDepth seeds level front back t)
    (hqueue : t.queue = (i, depth) :: rest)
    (hstep : Traversal.step g chain maxDepth t = some t') :
    ∃ front' back', AtLevel g chain maxDepth seeds depth front' back' t' := by
  obtain ⟨-, front', back', rfl, hhead⟩ := h.at_head hqueue
  obtain ⟨new, hnew⟩ := hhead.look
  rw [Traversal.step, hqueue] at hstep
  obtain rfl := Option.some.inj hstep
  exact ⟨front', back' ++ new, hnew⟩

/-- When nothing is left in the queue, front and back are used up. -/
theorem of_queue_eq_nil (h : AtLevel g chain maxDepth seeds level front back t)
    (hqueue : t.queue = []) : AtLevel g chain maxDepth seeds level [] [] t := by
  rw [h.queue_eq] at hqueue
  obtain ⟨hfront, hback⟩ := List.append_eq_nil_iff.1 hqueue
  obtain rfl := List.map_eq_nil_iff.1 hfront
  obtain rfl := List.map_eq_nil_iff.1 hback
  exact h

/-- With an empty queue, everything within the bound has been looked at. -/
theorem done_of_empty (h : AtLevel g chain maxDepth seeds level [] [] t) :
    ∀ n, n < max maxDepth 1 → ∀ i, g.ReachedIn chain seeds n i → t.Done g chain i := by
  have hnear : ∀ n ≤ level, n < max maxDepth 1 → ∀ i, g.ReachedIn chain seeds n i →
      t.Done g chain i := by
    intro n hn hlt i hi
    rcases h.near_done n hn hlt i hi with hmem | hdone
    · simp at hmem
    · exact hdone
  -- by induction on the distance: each position is reached by a link from one that is done
  intro n
  induction n with
  | zero =>
    intro hlt i hi
    exact hnear 0 (Nat.zero_le _) hlt i hi
  | succ n ih =>
    intro hlt i hi
    rcases Nat.lt_or_ge level (n + 1) with hfar | hle
    · -- beyond the level: the walk's last but one position is done, so its end has been seen
      obtain ⟨k, hk, hl⟩ := Graph.reachedIn_succ.1 hi
      have hseen : i ∈ t.seen := (ih (by omega) k hk i hl).1
      rcases h.seen_near i hseen with ⟨m, hm, hmi⟩ | ⟨-, hwait⟩
      · exact hnear m hm (by omega) i hmi
      · have : i ∈ ([] : List Nat) := hwait (by omega)
        simp at this
    · exact hnear (n + 1) hle hlt i hi

/-- With an empty queue, everything within the bound has been seen. -/
theorem mem_seen_of_empty (h : AtLevel g chain maxDepth seeds level [] [] t) {j n : Nat}
    (hreached : g.ReachedIn chain seeds n j) (hn : n < max maxDepth 1) : j ∈ t.seen := by
  cases n with
  | zero => exact h.near_seen 0 (Nat.zero_le _) j hreached
  | succ n =>
    obtain ⟨k, hk, hlink⟩ := Graph.reachedIn_succ.1 hreached
    exact (h.done_of_empty n (by omega) k hk j hlink).1

/-- A run reaches exactly what walks within the bound reach. -/
theorem mem_reached_run (h : AtLevel g chain maxDepth seeds level front back t) {j : Nat} :
    j ∈ (run g chain maxDepth t).reached ↔
      ∃ n, 1 ≤ n ∧ n ≤ max maxDepth 1 ∧ g.ReachedIn chain seeds n j := by
  fun_induction run g chain maxDepth t generalizing level front back with
  | case1 t hstep =>
    have hend := h.of_queue_eq_nil (step_eq_none_iff.1 hstep)
    constructor
    · exact h.reached_sound j
    · -- the walk ends in a link, and what that link comes from is done
      intro hreached
      obtain ⟨n, hpos, hle, hn⟩ := hreached
      obtain ⟨m, rfl⟩ := Nat.exists_eq_add_of_le' hpos
      obtain ⟨i, hi, hl⟩ := Graph.reachedIn_succ.1 hn
      exact (hend.done_of_empty m (by omega) i hi j hl).2
  | case2 t t' hstep hless ih =>
    obtain ⟨i, depth, rest, hqueue⟩ := exists_head_of_step hstep
    obtain ⟨front', back', h'⟩ := h.step_of_queue hqueue hstep
    exact ih h'

end AtLevel

end Traversal

namespace Graph

variable {g : Graph} {edge via chain : String} {i j : Nat}

theorem mem_seeds {m : Nat} : m ∈ g.seeds i edge via ↔
    (g.Linked edge i m ∨ g.Linked edge m i) ∧ g.hasLabel via m = true := by
  rw [seeds, List.mem_eraseDups, List.mem_filter, List.mem_append, mem_successors,
    mem_predecessors]

/-- A chained pattern leads to where a walk of at least one and at most `maxDepth` links ends that
starts at a node labelled `via` next to the subject. -/
theorem mem_chainedTargets {maxDepth : Nat} :
    j ∈ g.chainedTargets i edge via chain maxDepth ↔
      ∃ m, (g.Linked edge i m ∨ g.Linked edge m i) ∧ g.hasLabel via m = true ∧
        ∃ n, 1 ≤ n ∧ n ≤ max maxDepth 1 ∧ Walk (g.Linked chain) n m j := by
  rw [chainedTargets, (Traversal.AtLevel.start g chain maxDepth _).mem_reached_run]
  constructor
  · intro hreached
    obtain ⟨n, hpos, hle, m, hm, hw⟩ := hreached
    obtain ⟨hedge, hlabel⟩ := mem_seeds.1 hm
    exact ⟨m, hedge, hlabel, n, hpos, hle, hw⟩
  · intro hwalk
    obtain ⟨m, hedge, hlabel, n, hpos, hle, hw⟩ := hwalk
    exact ⟨n, hpos, hle, m, mem_seeds.2 ⟨hedge, hlabel⟩, hw⟩

end Graph

end Rebac
