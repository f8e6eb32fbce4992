import Mathlib.Algebra.Ring.Nat
import Rebac.Proofs.Relevance
import Rebac.Proofs.Trace
/-!
# Totals that are kept

A count and a window need the total of a request. Over any backend, and whatever the cache holds,
they come by it in the same way (`Access.UsesTotal`): a count that is found in the cache is used as
it is, anything else that is found there is refused and stays, and where nothing is found the
backend counts and the number is written, and only then. An entry that can be read is never written
over, so a total that has been written is used until its time to live has passed, whatever is
requested in between (`Session.Holds.run`). A window is refused before the total is needed if its
arguments or its rule are no good (`Engine.total_found_or_counted`).
-/

namespace Rebac

/-! ### Requests that need a total -/

namespace Session

variable {σ : Type} [Backend σ]

/-- The session after a query. -/
def afterAsking (s : Session σ) (q : Query) : Session σ :=
  { s with backend := (Backend.run q s.backend).2, asked := s.asked ++ [q] }

/-- The session after a query whose answer was a total that is now kept. -/
def afterCounting (s : Session σ) (q : Query) (key : String) (total : UInt64) : Session σ :=
  { s.afterAsking q with cache := s.cache.set s.now key (.ofNat total.toNat) }

end Session

namespace Access

variable {σ α : Type} [Backend σ] {m : Access σ α} {r : Request}
  {counting : Except AccessError Query} {use : UInt64 → Except AccessError α} {s : Session σ}

/-- A request that makes its answer of the total of `r`, which is found in the cache or else counted
by a query. There is a case for each way in which the total may be had or not. -/
structure UsesTotal (m : Access σ α) (r : Request) (counting : Except AccessError Query)
    (use : UInt64 → Except AccessError α) : Prop where
  /-- A count that is found is used. -/
  found : ∀ s (total : UInt64), s.cache.get? s.now r.cacheKey = some (.ofNat total.toNat) →
    m s = (use total, s)
  /-- Anything else that is found is refused, and stays where it is. -/
  mismatched : ∀ s value, s.cache.get? s.now r.cacheKey = some value →
    (∀ total : UInt64, value ≠ .ofNat total.toNat) → m s = (.error (.notACount r.cacheKey), s)
  uncompiled : ∀ s e, s.cache.get? s.now r.cacheKey = none → counting = .error e →
    m s = (.error e, s)
  /-- The backend fails, and nothing is written. -/
  unanswered : ∀ s q e, s.cache.get? s.now r.cacheKey = none → counting = .ok q →
    (Backend.run q s.backend).1 = .error e → m s = (.error e, s.afterAsking q)
  /-- The backend returns rows that show no count, and nothing is written. -/
  unread : ∀ s q rows e, s.cache.get? s.now r.cacheKey = none → counting = .ok q →
    (Backend.run q s.backend).1 = .ok rows → Answer.count rows = .error e →
    m s = (.error e, s.afterAsking q)
  /-- The total that the rows show is written and used. -/
  counted : ∀ s q rows total, s.cache.get? s.now r.cacheKey = none → counting = .ok q →
    (Backend.run q s.backend).1 = .ok rows → Answer.count rows = .ok total →
    m s = (use total, s.afterCounting q r.cacheKey total)

/-- What is made of the total in a second part is made of it in the whole. -/
theorem UsesTotal.bind {m : Access σ UInt64} (h : m.UsesTotal r counting .ok)
    (use : UInt64 → Except AccessError α) :
    (m >>= fun total => ofExcept (use total)).UsesTotal r counting use where
  found s total hget := bind_of_eq_ok (h.found s total hget)
  mismatched s value hget hvalue := bind_of_eq_error (h.mismatched s value hget hvalue)
  uncompiled s e hget hq := bind_of_eq_error (h.uncompiled s e hget hq)
  unanswered s q e hget hq hrun := bind_of_eq_error (h.unanswered s q e hget hq hrun)
  unread s q rows e hget hq hrun hcount :=
    bind_of_eq_error (h.unread s q rows e hget hq hrun hcount)
  counted s q rows total hget hq hrun hcount :=
    bind_of_eq_ok (h.counted s q rows total hget hq hrun hcount)

/-- Of the session only the record of queries and the state of the backend change, or else there was
nothing to be read under the key of the request and there is now. -/
theorem UsesTotal.session_cases (h : m.UsesTotal r counting use) (s : Session σ) :
    (m s).2 = s ∨ (∃ q, (m s).2 = s.afterAsking q) ∨
      s.cache.get? s.now r.cacheKey = none ∧
        ∃ q total, (m s).2 = s.afterCounting q r.cacheKey total := by
  -- in the order in which a total is looked for: the cache, the query, the rows and their count
  cases hget : s.cache.get? s.now r.cacheKey with
  | some value =>
    left
    cases hword : value.word? with
    | some total =>
      rw [Json.Value.word?_eq_some_iff.1 hword] at hget
      rw [h.found s total hget]
    | none => rw [h.mismatched s value hget (Json.Value.word?_eq_none_iff.1 hword)]
  | none =>
    cases hq : counting with
    | error e => exact Or.inl (by rw [h.uncompiled s e hget hq])
    | ok q =>
      right
      cases hrun : (Backend.run q s.backend).1 with
      | error e => exact Or.inl ⟨q, by rw [h.unanswered s q e hget hq hrun]⟩
      | ok rows =>
        cases hcount : Answer.count rows with
        | error e => exact Or.inl ⟨q, by rw [h.unread s q rows e hget hq hrun hcount]⟩
        | ok total =>
          exact Or.inr ⟨rfl, q, total, by rw [h.counted s q rows total hget hq hrun hcount]⟩

end Access

namespace Page

variable {σ : Type} [Backend σ] {policy : Policy} {r : Request} {limit page : Int64}
  {listing : Query} {s : Session σ}

/-- Where nothing is found, a total comes from the rows of one query. -/
theorem totalCount_of_asked {q : Query} (hget : s.cache.get? s.now r.cacheKey = none)
    (hq : r.countQuery policy = .ok q) :
    totalCount policy r s =
      match (Backend.run q s.backend).1 with
      | .ok rows => (do
          let total ← Access.ofExcept (Answer.count rows)
          Access.store r.cacheKey (.ofNat total.toNat)
          return total : Access σ UInt64) (s.afterAsking q)
      | .error e => (.error e, s.afterAsking q) := by
  rw [totalCount_of_miss hget]
  unfold recount
  rw [hq, Access.ofExcept_ok_bind, Access.ask_bind]
  rfl

/-- A count is answered with the total itself. -/
theorem usesTotal_totalCount (policy : Policy) (r : Request) :
    (totalCount policy r : Access σ UInt64).UsesTotal r (r.countQuery policy) .ok where
  found s total hget := totalCount_of_get? hget (word?_ofNat_toNat total)
  mismatched s value hget hvalue := by
    rw [totalCount_of_hit hget, Json.Value.word?_eq_none_iff.2 hvalue]
  uncompiled s e hget hq := by
    rw [totalCount_of_miss hget]
    unfold recount
    rw [hq, Access.ofExcept_error_bind]
  unanswered s q e hget hq hrun := by
    rw [totalCount_of_asked hget hq, hrun]
  unread s q rows e hget hq hrun hcount := by
    rw [totalCount_of_asked hget hq, hrun]
    simp only
    rw [hcount, Access.ofExcept_error_bind]
  counted s q rows total hget hq hrun hcount := by
    rw [totalCount_of_asked hget hq, hrun]
    simp only
    rw [hcount, Access.ofExcept_ok_bind, Access.store_bind]
    rfl

/-- A window is made of the total, once its arguments and its rule have been found good. -/
theorem usesTotal_window (hpage : 0 < page) (hlimit : 0 < limit)
    (hq : r.filterQuery policy = .ok listing) :
    (window policy r limit page : Access σ Window).UsesTotal r (r.countQuery policy)
      (windowOf listing limit page) := by
  have hwindow : (window policy r limit page : Access σ Window) =
      totalCount policy r >>= fun total => Access.ofExcept (windowOf listing limit page total) := by
    rw [window_eq_bind (Int64.not_le.2 hpage) (Int64.not_le.2 hlimit), hq]
    rfl
  rw [hwindow]
  exact (usesTotal_totalCount policy r).bind (windowOf listing limit page)

/-- The only error that can come after a total has been had: there is no such page. -/
theorem eq_pageOutOfRange_of_windowOf {total : UInt64} {e : AccessError}
    (h : windowOf listing limit page total = .error e) :
    e = .pageOutOfRange page (totalPages total limit.toUInt64) := by
  simp only [windowOf] at h
  split at h
  · exact (Except.error.inj h).symm
  · cases h

end Page

/-! ### What can be read is not written over -/

theorem CountCache.get?_congr {cache other : CountCache} {now : Nat} {key : String}
    (hentry : Assoc.get? key other.entries = Assoc.get? key cache.entries)
    (hlifetime : other.lifetime = cache.lifetime) : other.get? now key = cache.get? now key := by
  unfold get?
  rw [hentry, hlifetime]

theorem CountCache.get?_set_of_ne {cache : CountCache} {now later : Nat} {key other : String}
    {value : Json.Value} (h : other ≠ key) :
    (cache.set now key value).get? later other = cache.get? later other :=
  get?_congr (Assoc.get?_set_of_ne h _ _) rfl

namespace Session

variable {σ : Type} {s t u : Session σ}

/-- No time has passed, and all that could be read in the cache stands there as it was written. -/
structure KeepsEntries (s t : Session σ) : Prop where
  now_eq : t.now = s.now
  lifetime_eq : t.cache.lifetime = s.cache.lifetime
  entry_eq : ∀ key value, s.cache.get? s.now key = some value →
    Assoc.get? key t.cache.entries = Assoc.get? key s.cache.entries

theorem KeepsEntries.refl (s : Session σ) : s.KeepsEntries s := ⟨rfl, rfl, fun _ _ _ => rfl⟩

theorem KeepsEntries.trans (hst : s.KeepsEntries t) (htu : t.KeepsEntries u) :
    s.KeepsEntries u where
  now_eq := htu.now_eq.trans hst.now_eq
  lifetime_eq := htu.lifetime_eq.trans hst.lifetime_eq
  entry_eq key value hget := by
    have hentry := hst.entry_eq key value hget
    -- what is kept can still be read, so it is kept once more
    have hread : t.cache.get? t.now key = some value := by
      rw [hst.now_eq, CountCache.get?_congr hentry hst.lifetime_eq, hget]
    rw [htu.entry_eq key value hread, hentry]

/-- Where nothing can be read, something may be written. -/
theorem keepsEntries_afterCounting [Backend σ] {key : String}
    (hget : s.cache.get? s.now key = none) (q : Query) (total : UInt64) :
    s.KeepsEntries (s.afterCounting q key total) where
  now_eq := rfl
  lifetime_eq := rfl
  entry_eq other value hread := by
    have hne : other ≠ key := by
      rintro rfl
      rw [hget] at hread
      cases hread
    exact Assoc.get?_set_of_ne hne _ _

end Session

namespace Access

variable {σ α β : Type}

/-- The request writes over nothing that can be read. -/
def KeepsEntries (m : Access σ α) : Prop := ∀ s : Session σ, s.KeepsEntries (m s).2

theorem keepsEntries_ofExcept (answer : Except AccessError α) :
    (ofExcept answer : Access σ α).KeepsEntries := Session.KeepsEntries.refl

theorem keepsEntries_pure (a : α) : (pure a : Access σ α).KeepsEntries :=
  Session.KeepsEntries.refl

theorem KeepsEntries.bind {m : Access σ α} {f : α → Access σ β} (hm : m.KeepsEntries)
    (hf : ∀ a, (f a).KeepsEntries) : (m >>= f).KeepsEntries := by
  intro s
  cases ha : (m s).1 with
  | error e =>
    rw [bind_of_eq_error (Prod.ext ha rfl)]
    exact hm s
  | ok a =>
    rw [bind_of_eq_ok (Prod.ext ha rfl)]
    exact (hm s).trans (hf a (m s).2)

variable [Backend σ]

theorem keepsEntries_ask (query : Query) : (ask query : Access σ (List Row)).KeepsEntries :=
  fun _ => ⟨rfl, rfl, fun _ _ _ => rfl⟩

/-- One query, made from a request, and an answer that is read off its rows. -/
theorem keepsEntries_askOnce (query : Except AccessError Query)
    (read : List Row → Except AccessError α) :
    (ofExcept query >>= fun q => ask q >>= fun rows => ofExcept (read rows) :
      Access σ α).KeepsEntries :=
  (keepsEntries_ofExcept query).bind fun q =>
    (keepsEntries_ask q).bind fun rows => keepsEntries_ofExcept (read rows)

/-- A total is only written where none could be read. -/
theorem UsesTotal.keepsEntries {m : Access σ α} {r : Request} {counting : Except AccessError Query}
    {use : UInt64 → Except AccessError α} (h : m.UsesTotal r counting use) : m.KeepsEntries := by
  intro s
  rcases h.session_cases s with hs | ⟨q, hs⟩ | ⟨hget, q, total, hs⟩
  · rw [hs]
    exact Session.KeepsEntries.refl s
  · rw [hs]
    exact ⟨rfl, rfl, fun _ _ _ => rfl⟩
  · rw [hs]
    exact Session.keepsEntries_afterCounting hget q total

end Access

namespace Page

variable {σ : Type} [Backend σ] {policy : Policy} {r : Request} {limit page : Int64}

theorem keepsEntries_window :
    (window policy r limit page : Access σ Window).KeepsEntries := by
  by_cases hpage : page ≤ 0
  · intro s
    rw [window_of_page_le hpage]
    exact Session.KeepsEntries.refl s
  by_cases hlimit : limit ≤ 0
  · intro s
    rw [window_of_limit_le hpage hlimit]
    exact Session.KeepsEntries.refl s
  rw [window_eq_bind hpage hlimit]
  apply (Access.keepsEntries_ofExcept _).bind
  intro listing
  apply (usesTotal_totalCount policy r).keepsEntries.bind
  intro total
  exact Access.keepsEntries_ofExcept _

end Page

theorem Engine.keepsEntries_filterPaginated {σ : Type} [Backend σ] (engine : Engine) (r : Request)
    (limit page : Int64) :
    (engine.filterPaginated r limit page : Access σ ListingPage).KeepsEntries := by
  apply Page.keepsEntries_window.bind
  intro w
  apply (Access.keepsEntries_ask w.query).bind
  intro rows
  apply (Access.keepsEntries_ofExcept (Answer.identifiers rows)).bind
  intro ids
  exact Access.keepsEntries_pure _

/-! ### What happens in a session -/

/-- A step of a session over any backend. The engines that share its cache may have different
policies. -/
inductive SessionStep (σ : Type) where
  /-- An engine checks a subject and an object. -/
  | check (engine : Engine) (subject : Entity) (action : String) (object : Entity)
  /-- It lists the objects of a request. -/
  | filter (engine : Engine) (r : Request)
  /-- It counts them. -/
  | count (engine : Engine) (r : Request)
  /-- It shows a page of their listing. -/
  | page (engine : Engine) (r : Request) (limit page : Int64)
  /-- The backend changes by itself. -/
  | change (f : σ → σ)
  /-- Some milliseconds pass. -/
  | wait (ms : Nat)

/-- How long a step takes. -/
def SessionStep.duration {σ : Type} : SessionStep σ → Nat
  | .wait ms => ms
  | _ => 0

/-- How long all steps take. -/
def SessionStep.elapsed {σ : Type} (steps : List (SessionStep σ)) : Nat :=
  (steps.map duration).sum

namespace Session

variable {σ : Type} {s : Session σ} {key : String} {entry : CacheEntry} {lifetime : Nat}

/-- An entry stands under a key of the cache, and can be read for some time after it was written. -/
structure Holds (s : Session σ) (key : String) (entry : CacheEntry) (lifetime : Nat) : Prop where
  entry_eq : Assoc.get? key s.cache.entries = some entry
  lifetime_eq : s.cache.lifetime = lifetime

theorem Holds.get?_eq (h : s.Holds key entry lifetime)
    (halive : s.now - entry.writtenAt < lifetime) :
    s.cache.get? s.now key = some entry.value := by
  unfold CountCache.get?
  rw [h.entry_eq, h.lifetime_eq]
  exact if_pos halive

variable [Backend σ]

/-- The session after a step. -/
def step (s : Session σ) : SessionStep σ → Session σ
  | .check engine subject action object => (engine.check subject action object s).2
  | .filter engine r => (engine.filter r s).2
  | .count engine r => (engine.count r s).2
  | .page engine r limit page => (engine.filterPaginated r limit page s).2
  | .change f => { s with backend := f s.backend }
  | .wait ms => { s with now := s.now + ms }

/-- The session after some steps. -/
def run (s : Session σ) (steps : List (SessionStep σ)) : Session σ := steps.foldl step s

/-- A step takes its time, and writes over nothing that can be read. -/
theorem Holds.step (h : s.Holds key entry lifetime) (halive : s.now - entry.writtenAt < lifetime)
    (st : SessionStep σ) :
    (s.step st).now = s.now + st.duration ∧ (s.step st).Holds key entry lifetime := by
  have hrequest : ∀ {α : Type} {m : Access σ α}, m.KeepsEntries →
      (m s).2.now = s.now + 0 ∧ (m s).2.Holds key entry lifetime := by
    intro α m hm
    have hentry := (hm s).entry_eq key entry.value (h.get?_eq halive)
    exact ⟨(hm s).now_eq, hentry.trans h.entry_eq, (hm s).lifetime_eq.trans h.lifetime_eq⟩
  -- all but the last two steps are requests
  cases st with
  | check engine subject action object => exact hrequest (Access.keepsEntries_askOnce _ _)
  | filter engine r => exact hrequest (Access.keepsEntries_askOnce _ _)
  | count engine r => exact hrequest (Page.usesTotal_totalCount _ r).keepsEntries
  | page engine r limit page => exact hrequest (engine.keepsEntries_filterPaginated r limit page)
  | change f => exact ⟨rfl, h.entry_eq, h.lifetime_eq⟩
  | wait ms => exact ⟨rfl, h.entry_eq, h.lifetime_eq⟩

/-- An entry stands as long as it can be read. -/
theorem Holds.run (h : s.Holds key entry lifetime) {steps : List (SessionStep σ)}
    (halive : s.now + SessionStep.elapsed steps - entry.writtenAt < lifetime) :
    (s.run steps).now = s.now + SessionStep.elapsed steps ∧
      (s.run steps).Holds key entry lifetime := by
  induction steps generalizing s with
  | nil => exact ⟨rfl, h⟩
  | cons st rest ih =>
    have helapsed : SessionStep.elapsed (st :: rest) = st.duration + SessionStep.elapsed rest :=
      rfl
    rw [helapsed] at halive ⊢
    -- what can be read after all steps can be read before each of them
    obtain ⟨hnow, hholds⟩ := h.step (by omega) st
    obtain ⟨hrun, hstands⟩ := ih hholds (by omega)
    refine ⟨hrun.trans ?_, hstands⟩
    omega

/-- A total that has been written stands there as an entry of its own, as long as there is any time
to read it in. -/
theorem holds_afterCounting (s : Session σ) (q : Query) (key : String) (total : UInt64) :
    (s.afterCounting q key total).Holds key ⟨.ofNat total.toNat, s.now⟩ s.cache.lifetime :=
  ⟨Assoc.get?_set_self _ _ _, rfl⟩

/-- It can be read until then, whatever happens. -/
theorem get?_run_afterCounting {q : Query} {total : UInt64} {steps : List (SessionStep σ)}
    (halive : SessionStep.elapsed steps < s.cache.lifetime) :
    let u := (s.afterCounting q key total).run steps
    u.cache.get? u.now key = some (.ofNat total.toNat) := by
  intro u
  have halive : s.now + SessionStep.elapsed steps - s.now < s.cache.lifetime := by omega
  obtain ⟨hnow, hholds⟩ := (s.holds_afterCounting q key total).run halive
  apply hholds.get?_eq
  rw [hnow]
  exact halive

end Session

/-! ### Counts and windows -/

namespace Page

variable {policy : Policy} {r : Request} {limit page : Int64}

/-- In which order a window looks at its arguments, at its rule and at the total. -/
structure InOrder (σ : Type) [Backend σ] (policy : Policy) (r : Request) (limit page : Int64) :
    Prop where
  page_refused : page ≤ 0 → ∀ s : Session σ,
    window policy r limit page s = (.error (.invalidPage page), s)
  limit_refused : 0 < page → limit ≤ 0 → ∀ s : Session σ,
    window policy r limit page s = (.error (.invalidLimit limit), s)
  rule_refused : 0 < page → 0 < limit → ∀ e, r.filterQuery policy = .error e →
    ∀ s : Session σ, window policy r limit page s = (.error e, s)
  /-- A listing that compiles can also be counted, so there is no other error of the rule. -/
  total_used : 0 < page → 0 < limit → ∀ listing, r.filterQuery policy = .ok listing →
    ∃ counting, r.countQuery policy = .ok counting ∧
      (window policy r limit page : Access σ Window).UsesTotal r (.ok counting)
        (windowOf listing limit page)

theorem inOrder_window (σ : Type) [Backend σ] (policy : Policy) (r : Request)
    (limit page : Int64) : InOrder σ policy r limit page where
  page_refused hpage s := window_of_page_le hpage
  limit_refused hpage hlimit s := window_of_limit_le (Int64.not_le.2 hpage) hlimit
  rule_refused hpage hlimit e hq s :=
    window_of_filterQuery_error (Int64.not_le.2 hpage) (Int64.not_le.2 hlimit) hq
  total_used hpage hlimit listing hq := by
    obtain ⟨counting, hcounting, -⟩ := exists_countQuery (ruleCompiles_of_filterQuery hq)
    have huses := usesTotal_window (σ := σ) hpage hlimit hq
    rw [hcounting] at huses
    exact ⟨counting, hcounting, huses⟩

end Page

namespace Engine

variable {σ : Type} [Backend σ]

/-- Counts and windows are made of this total, and leave the session as it is. -/
structure UsesKept (engine : Engine) (r : Request) (total : UInt64) (s : Session σ) : Prop where
  count_eq : engine.count r s = (.ok total, s)
  window_eq : ∀ limit page listing, 0 < page → 0 < limit →
    r.filterQuery engine.policy = .ok listing →
    Page.window engine.policy r limit page s = (Page.windowOf listing limit page total, s)

theorem usesKept_of_get? {engine : Engine} {r : Request} {total : UInt64} {s : Session σ}
    (hget : s.cache.get? s.now r.cacheKey = some (.ofNat total.toNat)) :
    engine.UsesKept r total s where
  count_eq := (Page.usesTotal_totalCount engine.policy r).found s total hget
  window_eq _ _ _ hpage hlimit hq := (Page.usesTotal_window hpage hlimit hq).found s total hget

/-- Over any backend, and whatever the cache holds: a count uses the total that is found or counts
it (`Access.UsesTotal`), and a window does the same once its page, its size and its rule have been
found good, in this order. Then it can only be that there is no such page. A total that has been
written changes nothing under other keys, and until its time has passed it is what counts and
windows of the same request use, whatever is requested in between. -/
theorem total_found_or_counted (engine : Engine) (r : Request) :
    (engine.count r : Access σ UInt64).UsesTotal r (r.countQuery engine.policy) .ok ∧
    (∀ limit page, Page.InOrder σ engine.policy r limit page ∧
      ∀ listing total e, Page.windowOf listing limit page total = .error e →
        e = .pageOutOfRange page (Page.totalPages total limit.toUInt64)) ∧
    ∀ (s : Session σ) counting total,
      let written := s.afterCounting counting r.cacheKey total
      (∀ other now, other ≠ r.cacheKey →
        written.cache.get? now other = s.cache.get? now other) ∧
      ∀ steps, SessionStep.elapsed steps < s.cache.lifetime →
        engine.UsesKept r total (written.run steps) := by
  refine ⟨Page.usesTotal_totalCount engine.policy r, ?_, ?_⟩
  · intro limit page
    refine ⟨Page.inOrder_window σ engine.policy r limit page, ?_⟩
    intro listing total e he
    exact Page.eq_pageOutOfRange_of_windowOf he
  · intro s counting total written
    refine ⟨fun other now hother => CountCache.get?_set_of_ne hother, ?_⟩
    intro steps halive
    exact usesKept_of_get? (Session.get?_run_afterCounting halive)

/-- Three documents are counted for their fifth page of two, which does not exist. Half a second
later the backend is down, and the second page is made of the total that was kept. -/
theorem total_found_or_counted_docs :
    let engine := ofPolicy Docs.policy
    let later := (Docs.failing.step (.page engine Docs.request 2 5)).step (.wait 500)
    (engine.filterPaginated Docs.request 2 5 Docs.failing).1 = .error (.pageOutOfRange 5 2) ∧
      engine.count Docs.request later = (.ok 3, later) := by
  intro engine later
  have hrule : RuleCompiles Docs.policy Docs.request.objectType Docs.request.action := by
    decide +kernel
  obtain ⟨-, hwindows, hwritten⟩ := total_found_or_counted (σ := Script) engine Docs.request
  obtain ⟨listing, hlisting, -⟩ := exists_filterQuery hrule
  obtain ⟨counting, -, huses⟩ :=
    (hwindows 2 5).1.total_used (by decide) (by decide) listing hlisting
  have hcounted := huses.counted Docs.failing counting [Graph.totalRow 3] 3 rfl rfl rfl rfl
  -- the total is written before the page is found missing
  have hmissing : Page.windowOf listing 2 5 3 = .error (.pageOutOfRange 5 2) := rfl
  rw [hmissing] at hcounted
  have hanswer : engine.filterPaginated Docs.request 2 5 Docs.failing =
      (.error (.pageOutOfRange 5 2), Docs.failing.afterCounting counting Docs.request.cacheKey 3) :=
    Access.bind_of_eq_error hcounted
  have hlater : later =
      (Docs.failing.afterCounting counting Docs.request.cacheKey 3).run [.wait 500] := by
    show Session.step (engine.filterPaginated Docs.request 2 5 Docs.failing).2 _ = _
    rw [hanswer]
    rfl
  have hkept := (hwritten Docs.failing counting 3).2 [.wait 500] (by decide)
  rw [← hlater] at hkept
  exact ⟨congrArg Prod.fst hanswer, hkept.count_eq⟩

end Engine

end Rebac
