import Rebac.Proofs.Answer
import Rebac.Proofs.Listing
import Rebac.Proofs.Page.Slices
/-!
# The total of a listing

A count returns the length of the listing (`StandsFor.evaluate_count`), and a page query cuts its
window out of it (`StandsFor.evaluate_window`). Between requests the total is kept in the cache,
where it may expire: what matters is that nothing else can be read there (`CountCache.Keeps`). From
such a session the total comes out right, and the session stays as it should (`Page.totalCount_eq`).
-/

namespace Rebac

/-! ### The queries -/

/-- A rule that compiles gives a count. -/
theorem exists_countQuery {policy : Policy} {r : Request}
    (h : RuleCompiles policy r.objectType r.action) :
    ∃ q, r.countQuery policy = .ok q ∧ StandsFor q policy r .countDistinct :=
  exists_overObjects h _ _ _

theorem count_totalRow {n : Nat} (h : n < UInt64.size) :
    Answer.count [Graph.totalRow n] = .ok n.toUInt64 :=
  Answer.count_of_word? rfl (word?_ofNat h)

theorem rowCountParam_of_word? {q : Query} {name : String} {value : Json.Value} {count : UInt64}
    (hparam : q.param? name = some value) (hword : value.word? = some count) :
    q.rowCountParam name = .ok (some count) := by
  simp only [Query.rowCountParam, hparam, hword]

namespace StandsFor

variable {q : Query} {policy : Policy} {r : Request} {g : Graph} {v : GraphView}

/-- A count returns how many objects the rule grants. -/
theorem evaluate_count (h : StandsFor q policy r .countDistinct) (hg : g.Represents v) :
    g.evaluate q = .ok [Graph.totalRow (v.granted policy r).length] := by
  rw [hg.evaluate_countDistinct h.projection_eq h.all_objects h.textParam_eq, h.joined_eq]

/-- A listing with a window shows that part of what the rule grants. -/
theorem evaluate_window (h : StandsFor q policy r .distinctIds) (hg : g.Represents v)
    (skip limit : UInt64) :
    g.evaluate (q.withWindow skip limit) =
      .ok (((((v.granted policy r).map Node.id).drop skip.toNat).take limit.toNat).map
        Graph.idRow) := by
  have hword : ∀ n : UInt64, (Json.Value.ofNat n.toNat).word? = some n := by
    intro n
    rw [word?_ofNat n.toNat_lt_size]
    simp
  have hid : (q.withWindow skip limit).textParam Query.subjectIdParam = .ok r.subject.id := by
    have hother : (q.withWindow skip limit).param? Query.subjectIdParam =
        q.param? Query.subjectIdParam := by
      unfold Query.param? Query.withWindow
      rw [Assoc.get?_set_of_ne (by decide), Assoc.get?_set_of_ne (by decide)]
    unfold Query.textParam
    rw [hother]
    exact h.textParam_eq
  have hskip : (q.withWindow skip limit).rowCountParam Query.skipParam = .ok (some skip) := by
    have hparam : (q.withWindow skip limit).param? Query.skipParam = some (.ofNat skip.toNat) := by
      unfold Query.param? Query.withWindow
      rw [Assoc.get?_set_of_ne (by decide), Assoc.get?_set_self]
    exact rowCountParam_of_word? hparam (hword _)
  have hlimit : (q.withWindow skip limit).rowCountParam Query.limitParam = .ok (some limit) := by
    have hparam : (q.withWindow skip limit).param? Query.limitParam =
        some (.ofNat limit.toNat) := by
      unfold Query.param? Query.withWindow
      rw [Assoc.get?_set_self]
    exact rowCountParam_of_word? hparam (hword _)
  -- the window changes the parameters and leaves the plan
  have hprojection : (q.withWindow skip limit).plan.projection = .distinctIds := h.projection_eq
  have hall : (q.withWindow skip limit).plan.objectBound = false := h.all_objects
  have hlisting : g.listing (q.withWindow skip limit).plan
      ⟨(q.withWindow skip limit).plan.subjectLabel, r.subject.id⟩ =
        (v.granted policy r).map Node.id := h.listing_eq hg
  rw [Graph.evaluate_distinctIds hprojection hall hid hskip hlimit, hlisting]
  rfl

end StandsFor

/-! ### What the cache keeps -/

namespace CountCache

/-- Whatever can still be read under a key, now or later, is this total. -/
def Keeps (cache : CountCache) (now : Nat) (key : String) (total : Nat) : Prop :=
  ∀ entry, Assoc.get? key cache.entries = some entry →
    entry.value = .ofNat total ∨ cache.lifetime ≤ now - entry.writtenAt

variable {cache : CountCache} {now later : Nat} {key : String} {total : Nat}

theorem keeps_of_get?_eq_none (h : cache.get? now key = none) : cache.Keeps now key total := by
  intro entry hentry
  simp only [get?, hentry] at h
  by_cases halive : now - entry.writtenAt < cache.lifetime
  · rw [if_pos halive] at h
    cases h
  · exact Or.inr (by omega)

theorem Keeps.eq_of_get? (h : cache.Keeps now key total) {value : Json.Value}
    (hget : cache.get? now key = some value) : value = .ofNat total := by
  unfold get? at hget
  split at hget
  · next entry hentry =>
    split at hget
    · next halive =>
      have hvalue : entry.value = value := Option.some.inj hget
      rcases h entry hentry with htotal | hdead
      · rw [← hvalue, htotal]
      · omega
    · cases hget
  · cases hget

/-- What is dead stays dead. -/
theorem Keeps.wait (h : cache.Keeps now key total) (hle : now ≤ later) :
    cache.Keeps later key total := by
  intro entry hentry
  rcases h entry hentry with htotal | hdead
  · exact Or.inl htotal
  · exact Or.inr (by omega)

theorem keeps_set : (cache.set now key (.ofNat total)).Keeps now key total := by
  intro entry hentry
  unfold set at hentry
  rw [Assoc.get?_set_self] at hentry
  rw [← Option.some.inj hentry]
  exact Or.inl rfl

theorem keeps_invalidate : (cache.invalidate key).Keeps now key total := by
  intro entry hentry
  unfold invalidate at hentry
  rw [Assoc.get?_erase_self] at hentry
  cases hentry

end CountCache

/-! ### Looking the total up -/

/-- A session over this graph in which nothing but the total of a request can be read under its
key. -/
structure Steady (g : Graph) (key : String) (total : Nat) (s : Session Graph) : Prop where
  backend_eq : s.backend = g
  keeps : s.cache.Keeps s.now key total

theorem Access.bind_of_eq_ok {σ α β : Type} {m : Access σ α} {f : α → Access σ β}
    {s s' : Session σ} {a : α} (h : m s = (.ok a, s')) : (m >>= f) s = f a s' := by
  show (ExceptT.bindCont f (m s).1) (m s).2 = f a s'
  rw [h]
  rfl

theorem Access.bind_of_eq_error {σ α β : Type} {m : Access σ α} {f : α → Access σ β}
    {s s' : Session σ} {e : AccessError} (h : m s = (.error e, s')) :
    (m >>= f) s = (.error e, s') := by
  show (ExceptT.bindCont f (m s).1) (m s).2 = (.error e, s')
  rw [h]
  rfl

/-- A query that succeeds is recorded and changes nothing else. -/
theorem Access.ask_of_evaluate {g : Graph} {q : Query} {rows : List Row} {s : Session Graph}
    (hg : s.backend = g) (hrows : g.evaluate q = .ok rows) :
    Access.ask q s = (.ok rows, { s with asked := s.asked ++ [q] }) := by
  subst hg
  have hrun : Backend.run q s.backend = (.ok rows, s.backend) := by
    show (s.backend.evaluate q, s.backend) = _
    rw [hrows]
  unfold Access.ask
  rw [hrun]

theorem Steady.asked {g : Graph} {key : String} {total : Nat} {s : Session Graph}
    (h : Steady g key total s) (queries : List Query) :
    Steady g key total { s with asked := queries } := ⟨h.backend_eq, h.keeps⟩

namespace Page

section Lookups

variable {σ : Type} [Backend σ] {policy : Policy} {r : Request} {s : Session σ}

/-- The objects are counted by the backend, and their number is kept. -/
def recount (policy : Policy) (r : Request) : Access σ UInt64 := do
  let query ← Access.ofExcept (r.countQuery policy)
  let rows ← Access.ask query
  let total ← Access.ofExcept (Answer.count rows)
  Access.store r.cacheKey (.ofNat total.toNat)
  return total

/-- What the cache holds is taken as it is. -/
theorem totalCount_of_hit {value : Json.Value} (hget : s.cache.get? s.now r.cacheKey = some value) :
    totalCount policy r s =
      (match value.word? with
        | some total => .ok total
        | none => .error (.notACount r.cacheKey), s) := by
  unfold totalCount
  rw [Access.cached_bind, hget]
  simp only
  cases value.word? <;> rfl

theorem totalCount_of_miss (hget : s.cache.get? s.now r.cacheKey = none) :
    totalCount policy r s = recount policy r s := by
  unfold totalCount
  rw [Access.cached_bind, hget]
  rfl

end Lookups

end Page

/-- The total is what the rule grants, whether it is found in the cache or counted. -/
theorem Page.totalCount_eq {policy : Policy} {r : Request} {g : Graph} {v : GraphView} {n : Nat}
    {s : Session Graph} (hrule : RuleCompiles policy r.objectType r.action)
    (hg : g.Represents v) (hn : (v.granted policy r).length = n) (hsize : n < UInt64.size)
    (hs : Steady g r.cacheKey n s) :
    ∃ s', Page.totalCount policy r s = (.ok n.toUInt64, s') ∧ Steady g r.cacheKey n s' := by
  cases hget : s.cache.get? s.now r.cacheKey with
  | some value =>
    -- whatever is found can only be the total
    have hword : value.word? = some n.toUInt64 := by
      rw [hs.keeps.eq_of_get? hget]
      exact word?_ofNat hsize
    rw [Page.totalCount_of_hit hget, hword]
    exact ⟨s, rfl, hs⟩
  | none =>
    -- the objects are counted, and the number is what is kept
    obtain ⟨q, hq, hstands⟩ := exists_countQuery hrule
    have hrows := hstands.evaluate_count hg
    rw [hn] at hrows
    have hback : n.toUInt64.toNat = n := UInt64.toNat_ofNat_of_lt' hsize
    rw [Page.totalCount_of_miss hget]
    unfold Page.recount
    rw [hq, Access.ofExcept_ok_bind,
      Access.bind_of_eq_ok (Access.ask_of_evaluate hs.backend_eq hrows), count_totalRow hsize,
      Access.ofExcept_ok_bind, Access.store_bind, hback]
    exact ⟨_, rfl, hs.backend_eq, CountCache.keeps_set⟩

end Rebac
