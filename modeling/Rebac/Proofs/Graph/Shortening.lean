import Mathlib.Data.Finset.Card
import Mathlib.Logic.Relation
import Mathlib.Order.Interval.Finset.Nat
import Rebac.Proofs.Graph.Walk
/-!
# Walks that need not be long

A walk that comes twice to one place can leave out what lies between (`Walk.leave_out`). So if there
are only so many places to come to, no more steps are needed to get anywhere
(`Walk.exists_le_card`), and a bound of that size on the number of steps takes nothing away from
what can be reached (`Walk.exists_le_iff_transGen`).
-/

namespace Rebac

namespace Walk

variable {α : Type} {joined : α → α → Prop} {a b c : α} {k l : Nat}

/-- Where one walk ends another goes on. -/
theorem trans (h : Walk joined k a b) (h' : Walk joined l b c) : Walk joined (k + l) a c := by
  induction h' with
  | refl => exact h
  | step _ hl ih => exact (ih h).step hl

/-- The places of a walk, one after the other. -/
theorem exists_places (h : Walk joined k a b) :
    ∃ place : Nat → α, place 0 = a ∧ place k = b ∧
      ∀ i < k, joined (place i) (place (i + 1)) := by
  induction h with
  | refl a => exact ⟨fun _ => a, rfl, rfl, fun i hi => absurd hi (Nat.not_lt_zero i)⟩
  | @step k a b c _ hl ih =>
    obtain ⟨place, hstart, hend, hsteps⟩ := ih
    -- the new place comes after all those there were
    refine ⟨fun i => if i ≤ k then place i else c, by simp [hstart], by simp, ?_⟩
    intro i hi
    rcases Nat.lt_or_eq_of_le (Nat.le_of_lt_succ hi) with hlt | rfl
    · simpa [hlt.le, Nat.succ_le_of_lt hlt] using hsteps i hlt
    · have hnew : ¬ i + 1 ≤ i := by omega
      simpa only [Nat.le_refl, if_true, hnew, if_false, hend] using hl

/-- The part of a walk between two of its places. -/
theorem between {place : Nat → α} (hsteps : ∀ i < k, joined (place i) (place (i + 1))) {i j : Nat}
    (hij : i ≤ j) (hj : j ≤ k) : Walk joined (j - i) (place i) (place j) := by
  induction j, hij using Nat.le_induction with
  | base =>
    rw [Nat.sub_self]
    exact .refl _
  | succ j hij ih =>
    rw [Nat.succ_sub hij]
    exact (ih (by omega)).step (hsteps j (by omega))

/-- If a walk comes to one place twice, what lies between can be left out. -/
theorem leave_out {place : Nat → α} (hsteps : ∀ i < k, joined (place i) (place (i + 1)))
    {i j : Nat} (hij : i < j) (hj : j ≤ k) (hsame : place i = place j) :
    Walk joined (i + (k - j)) (place 0) (place k) := by
  have hbefore : Walk joined i (place 0) (place i) := between hsteps (Nat.zero_le i) (by omega)
  have hafter : Walk joined (k - j) (place j) (place k) := between hsteps hj (Nat.le_refl k)
  rw [← hsame] at hafter
  exact hbefore.trans hafter

variable {ends : Finset α}

/-- A walk with more steps than there are places to come to comes to one of them twice. -/
theorem exists_shorter (hends : ∀ a b, joined a b → b ∈ ends) (h : Walk joined k a b)
    (hlong : ends.card < k) : ∃ l, 1 ≤ l ∧ l < k ∧ Walk joined l a b := by
  obtain ⟨place, rfl, rfl, hsteps⟩ := h.exists_places
  -- the start is left out of account, as nothing need lead there
  have hmem : ∀ i ∈ Finset.Icc 1 k, place i ∈ ends := by
    intro i hi
    obtain ⟨hpos, hle⟩ := Finset.mem_Icc.1 hi
    obtain ⟨m, rfl⟩ := Nat.exists_eq_add_of_le' hpos
    exact hends _ _ (hsteps m (by omega))
  have hcard : ends.card < (Finset.Icc 1 k).card := by
    rw [Nat.card_Icc]
    omega
  obtain ⟨i, hi, j, hj, hne, hsame⟩ :=
    Finset.exists_ne_map_eq_of_card_lt_of_maps_to hcard hmem
  rw [Finset.mem_Icc] at hi hj
  rcases Nat.lt_or_gt_of_ne hne with hlt | hlt
  · exact ⟨i + (k - j), by omega, by omega, leave_out hsteps hlt hj.2 hsame⟩
  · exact ⟨j + (k - i), by omega, by omega, leave_out hsteps hlt hi.2 hsame.symm⟩

/-- As many steps suffice as there are places to come to. -/
theorem exists_le_card (hends : ∀ a b, joined a b → b ∈ ends) (h : Walk joined k a b)
    (hpos : 1 ≤ k) : ∃ l, 1 ≤ l ∧ l ≤ ends.card ∧ Walk joined l a b := by
  induction k using Nat.strong_induction_on with
  | _ k ih =>
    rcases Nat.lt_or_ge ends.card k with hlong | hshort
    · obtain ⟨l, hl, hlt, hw⟩ := h.exists_shorter hends hlong
      exact ih l hlt hw hl
    · exact ⟨k, hpos, hshort, h⟩

/-- Walks with at least one step lead wherever steps lead. -/
theorem exists_iff_transGen : (∃ k, 1 ≤ k ∧ Walk joined k a b) ↔ Relation.TransGen joined a b := by
  constructor
  · intro hwalk
    obtain ⟨k, hpos, hw⟩ := hwalk
    induction hw with
    | refl => omega
    | @step k a b c hw hl ih =>
      rcases Nat.eq_zero_or_pos k with rfl | hk
      · cases hw
        exact .single hl
      · exact (ih hk).tail hl
  · intro hsteps
    induction hsteps with
    | single hl => exact ⟨1, Nat.le_refl 1, (Walk.refl a).step hl⟩
    | tail _ hl ih =>
      obtain ⟨k, hpos, hw⟩ := ih
      exact ⟨k + 1, by omega, hw.step hl⟩

/-- Nothing is lost by a bound that is no smaller than the number of places to come to. -/
theorem exists_le_iff_transGen (hends : ∀ a b, joined a b → b ∈ ends) {bound : Nat}
    (hbound : ends.card ≤ bound) :
    (∃ k, 1 ≤ k ∧ k ≤ bound ∧ Walk joined k a b) ↔ Relation.TransGen joined a b := by
  rw [← exists_iff_transGen]
  constructor
  · intro hwalk
    obtain ⟨k, hpos, -, hw⟩ := hwalk
    exact ⟨k, hpos, hw⟩
  · intro hwalk
    obtain ⟨k, hpos, hw⟩ := hwalk
    obtain ⟨l, hl, hle, hw'⟩ := hw.exists_le_card hends hpos
    exact ⟨l, hl, hle.trans hbound, hw'⟩

end Walk

end Rebac
