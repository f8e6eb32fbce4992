import Rebac.Proofs.Run
/-!
# How old a total can be

A total is kept in the count cache for a while, and meanwhile the graph may change. A run of an
engine that starts with an empty cache nevertheless serves nothing but totals that were right a
short time before: each entry of the cache remembers the total of some request at some moment of the
run (`CountCache.Remembers`), reading does not make an entry any younger, and an entry is not read
when the time to live has passed. If different requests have different keys, the total that is found
is the one of the request that is answered (`Engine.totals_matched_lately`).
-/

namespace Rebac

open RunStep

/-! ### Totals of the past -/

namespace Request

/-- The rule of the request compiles, and grants this many objects of the graph of a history. -/
def Matches (r : Request) (policy : Policy) (history : List Change) (n : Nat) : Prop :=
  RuleCompiles policy r.objectType r.action ∧
    ((GraphView.ofHistory history).granted policy r).length = n

/-- The request matches this many objects of the graph that the steps of a run leave, or it did at a
moment of the run from which less than `timeToLive` has passed. -/
def MatchedLately (r : Request) (policy : Policy) (history : List Change) (timeToLive : Nat)
    (steps : List RunStep) (n : Nat) : Prop :=
  ∃ earlier recent, steps = earlier ++ recent ∧ (elapsed recent < timeToLive ∨ recent = []) ∧
    r.Matches policy (history ++ changes earlier) n

end Request

namespace CountCache

/-- Each entry was written at a moment of the run, and holds the total that a request which was
looked up under its key had at that moment. -/
def Remembers (cache : CountCache) (policy : Policy) (history : List Change) (start : Nat)
    (steps : List RunStep) : Prop :=
  ∀ key entry, Assoc.get? key cache.entries = some entry →
    ∃ r ∈ totals steps, r.cacheKey = key ∧ ∃ earlier recent, steps = earlier ++ recent ∧
      entry.writtenAt = start + elapsed earlier ∧ ∃ total : UInt64,
        entry.value = .ofNat total.toNat ∧ r.Matches policy (history ++ changes earlier) total.toNat

variable {cache : CountCache} {policy : Policy} {history : List Change} {start now : Nat}
  {steps : List RunStep} {key : String}

theorem remembers_empty (timeToLive capacity : Nat) :
    (empty timeToLive capacity).Remembers policy history start steps := by
  intro key entry hentry
  cases hentry

/-- What was remembered is remembered. -/
theorem Remembers.concat (h : cache.Remembers policy history start steps) (step : RunStep) :
    cache.Remembers policy history start (steps ++ [step]) := by
  intro key entry hentry
  obtain ⟨r, hr, hkey, earlier, recent, rfl, hwritten⟩ := h key entry hentry
  refine ⟨r, ?_, hkey, earlier, recent ++ [step], List.append_assoc _ _ _, hwritten⟩
  rw [totals_append]
  exact List.mem_append_left _ hr

/-- A total that is right when a step looks it up can be written. -/
theorem Remembers.set (h : cache.Remembers policy history start steps) {step : RunStep}
    {r : Request} (hstep : step.totalOf = some r) {total : UInt64}
    (htotal : r.Matches policy (history ++ changes steps) total.toNat) :
    (cache.set (start + elapsed steps) r.cacheKey (.ofNat total.toNat)).Remembers policy history
      start (steps ++ [step]) := by
  intro key entry hentry
  unfold CountCache.set at hentry
  by_cases hkey : key = r.cacheKey
  · -- the entry is the new one, and the step before which it was right is the last
    subst hkey
    rw [Assoc.get?_set_self] at hentry
    obtain rfl := Option.some.inj hentry
    refine ⟨r, ?_, rfl, steps, [step], rfl, rfl, total, rfl, htotal⟩
    simp [totals, hstep]
  · rw [Assoc.get?_set_of_ne hkey] at hentry
    exact h.concat step key entry hentry

theorem exists_entry_of_get? {value : Json.Value} (h : cache.get? now key = some value) :
    ∃ entry, Assoc.get? key cache.entries = some entry ∧ entry.value = value ∧
      now - entry.writtenAt < cache.lifetime := by
  unfold get? at h
  split at h
  · next entry hentry =>
    split at h
    · next halive => exact ⟨entry, hentry, Option.some.inj h, halive⟩
    · cases h
  · cases h

end CountCache

/-! ### Sessions in a run -/

/-- What is known of a session that the steps of a run have led to: which graph it holds, what time
it is, and what its cache remembers. -/
structure Engine.Reached (engine : Engine) (history : List Change) (timeToLive start : Nat)
    (steps : List RunStep) (s : Session Graph) : Prop where
  backend_eq : s.backend = Graph.ofHistory (history ++ changes steps)
  now_eq : s.now = start + elapsed steps
  /-- No value can be read for longer than the time to live. -/
  lifetime_le : s.cache.lifetime ≤ timeToLive
  remembers : s.cache.Remembers engine.policy history start steps

namespace Engine.Reached

variable {engine : Engine} {history : List Change} {timeToLive start : Nat} {steps : List RunStep}
  {s : Session Graph} {r : Request}

/-- A run begins with an empty cache. -/
theorem start_session (capacity : Nat) (asked : List Query) :
    engine.Reached history timeToLive start []
      ⟨Graph.ofHistory history, .empty timeToLive capacity, start, asked⟩ where
  backend_eq := by rw [changes_nil, List.append_nil]
  now_eq := rfl
  lifetime_le := by
    show (if capacity = 0 then 0 else timeToLive) ≤ timeToLive
    split <;> omega
  remembers := CountCache.remembers_empty timeToLive capacity

/-- The graph of a session in a run, as its users see it. -/
theorem represents (h : engine.Reached history timeToLive start steps s) :
    s.backend.Represents (GraphView.ofHistory (history ++ changes steps)) :=
  h.backend_eq ▸ Graph.represents_ofHistory _

/-- A step that looks a total up leads on, whatever comes of it. -/
theorem lookup (h : engine.Reached history timeToLive start steps s) {step : RunStep}
    (hstep : step.totalOf = some r) (asked : List Query) :
    engine.Reached history timeToLive start (steps ++ [step])
      { (Page.totalCount engine.policy r s).2 with asked := asked } := by
  obtain ⟨hchange, hduration⟩ := changeOf_of_totalOf hstep
  have hchanges : changes (steps ++ [step]) = changes steps := by
    simp [changes, hchange]
  have helapsed : elapsed (steps ++ [step]) = elapsed steps := by
    simp [elapsed_append, hduration]
  have hbackend := hchanges ▸ h.backend_eq
  have hnow := helapsed ▸ h.now_eq
  have hlookup := Page.lookup_totalCount engine.policy r h.represents
  generalize Page.totalCount engine.policy r s = result at hlookup
  cases hlookup with
  | found => exact ⟨hbackend, hnow, h.lifetime_le, h.remembers.concat step⟩
  | counted asked' hrule htotal =>
    refine ⟨hbackend, hnow, h.lifetime_le, ?_⟩
    rw [h.now_eq]
    exact h.remembers.set hstep ⟨hrule, htotal⟩
  | failed => exact ⟨hbackend, hnow, h.lifetime_le, h.remembers.concat step⟩

/-- Each step of a run leads on. -/
theorem runStep (h : engine.Reached history timeToLive start steps s) (step : RunStep) :
    engine.Reached history timeToLive start (steps ++ [step]) (engine.runStep s step) := by
  rcases engine.runStep_cases s step with hplain | hlookup
  · obtain ⟨asked, hs⟩ := hplain
    rw [hs]
    refine ⟨?_, ?_, h.lifetime_le, h.remembers.concat step⟩
    · show s.backend.applyAll (changes [step]) = _
      rw [h.backend_eq, changes_append, ← List.append_assoc]
      exact (Graph.ofHistory_append _ _).symm
    · show s.now + step.duration = _
      rw [h.now_eq, elapsed_append, elapsed_singleton, Nat.add_assoc]
  · obtain ⟨r, asked, hstep, hs⟩ := hlookup
    rw [hs]
    exact h.lookup hstep asked

/-- So does any number of steps. -/
theorem run (h : engine.Reached history timeToLive start [] s) (steps : List RunStep) :
    engine.Reached history timeToLive start steps (engine.run s steps) := by
  induction steps using List.reverseRecOn with
  | nil => exact h
  | append_singleton earlier step ih =>
    rw [run_concat]
    exact ih.runStep step

/-- A total that is served was right lately, if no other request was looked up under its key. -/
theorem matchedLately (h : engine.Reached history timeToLive start steps s) {total : UInt64}
    (hkeys : ∀ other ∈ totals steps, other.cacheKey = r.cacheKey → other = r)
    (htotal : (Page.totalCount engine.policy r s).1 = .ok total) :
    r.MatchedLately engine.policy history timeToLive steps total.toNat := by
  have hlookup := Page.lookup_totalCount engine.policy r h.represents
  generalize Page.totalCount engine.policy r s = result at hlookup htotal
  cases hlookup with
  | @found value found hget hword =>
    obtain rfl : found = total := Except.ok.inj htotal
    obtain ⟨entry, hentry, rfl, halive⟩ := CountCache.exists_entry_of_get? hget
    obtain ⟨other, hother, hkey, earlier, recent, hsteps, hwritten, kept, hvalue, hmatches⟩ :=
      h.remembers _ _ hentry
    obtain rfl : other = r := hkeys other hother hkey
    -- the entry is as old as the steps since it was written
    have hage : elapsed recent < timeToLive := by
      have hlifetime := h.lifetime_le
      rw [h.now_eq, hwritten, hsteps, elapsed_append] at halive
      omega
    have hsame : kept = found := by
      rw [hvalue, word?_ofNat_toNat] at hword
      exact Option.some.inj hword
    rw [← hsame]
    exact ⟨earlier, recent, hsteps, Or.inl hage, hmatches⟩
  | counted asked hrule hcount =>
    obtain rfl := Except.ok.inj htotal
    exact ⟨steps, [], (List.append_nil _).symm, Or.inr rfl, hrule, hcount⟩
  | failed => cases htotal

end Engine.Reached

/-- Whatever graph an engine begins with, and with an empty cache: if in a run no two requests whose
totals are looked up have one key, then each count that is answered is the number of objects that
the same request matches on the graph as it is, or as it was at a moment of the run from which less
than the time to live has passed; and each page that is shown says how many pages of its size such a
number of objects fills. -/
theorem Engine.totals_matched_lately (engine : Engine) (history : List Change)
    (timeToLive capacity start : Nat) (steps : List RunStep)
    (hkeys : ∀ r ∈ totals steps, ∀ other ∈ totals steps, other.cacheKey = r.cacheKey → other = r) :
    let s₀ : Session Graph := ⟨Graph.ofHistory history, .empty timeToLive capacity, start, []⟩
    (∀ before r after n, steps = before ++ .count r :: after →
      (engine.count r (engine.run s₀ before)).1 = .ok n →
        r.MatchedLately engine.policy history timeToLive before n.toNat) ∧
    ∀ before r limit page after reply, steps = before ++ .page r limit page :: after →
      (engine.filterPaginated r limit page (engine.run s₀ before)).1 = .ok reply →
        0 < limit ∧ ∃ n, r.MatchedLately engine.policy history timeToLive before n ∧
          reply.totalPages.toNat = Page.count n limit.toInt.toNat := by
  intro s₀
  have hreached : ∀ before, engine.Reached history timeToLive start before (engine.run s₀ before) :=
    fun before => (Reached.start_session capacity []).run before
  -- the request of a step and those before it are requests of the run
  have hbefore : ∀ before step after r, steps = before ++ step :: after → step.totalOf = some r →
      ∀ other ∈ totals before, other.cacheKey = r.cacheKey → other = r := by
    intro before step after r hsteps hstep other hother hkey
    have htotals : totals steps = totals before ++ r :: totals after := by
      rw [hsteps, totals_append]
      simp [totals, hstep]
    refine hkeys r ?_ other ?_ hkey
    · rw [htotals]
      simp
    · rw [htotals]
      exact List.mem_append_left _ hother
  constructor
  · intro before r after n hsteps hanswer
    exact (hreached before).matchedLately (hbefore before _ after r hsteps rfl) hanswer
  · intro before r limit page after reply hsteps hanswer
    rcases engine.filterPaginated_lookup r limit page (engine.run s₀ before) with hrefused | hlookup
    · obtain ⟨e, hrefused⟩ := hrefused
      rw [hrefused] at hanswer
      cases hanswer
    · obtain ⟨hlimit, total, htotal, hpages⟩ := hlookup.2 reply hanswer
      refine ⟨hlimit, total.toNat,
        (hreached before).matchedLately (hbefore before _ after r hsteps rfl) htotal, ?_⟩
      rw [hpages, Page.toNat_totalPages (Page.toNat_toUInt64_pos hlimit),
        Page.toNat_toUInt64_eq hlimit]

namespace Docs

/-- Two documents are counted, a third is given to the user, and half a time to live passes. -/
def recount : List RunStep :=
  [.count request, .change (.addEdge ⟨"User", "1"⟩ "OWNER" ⟨"Document", "c"⟩), .wait 500]

end Docs

/-- The count from before the change is served once more, because it was right half a time to live
ago; by now three documents are listed. -/
theorem Engine.totals_matched_lately_docs :
    let engine := ofPolicy Docs.policy
    (∀ r ∈ totals (Docs.recount ++ [.count Docs.request]),
      ∀ other ∈ totals (Docs.recount ++ [.count Docs.request]),
        other.cacheKey = r.cacheKey → other = r) ∧
      (engine.filter Docs.request (engine.run Docs.session Docs.recount)).1 = .ok ["a", "b", "c"] ∧
      (engine.count Docs.request (engine.run Docs.session Docs.recount)).1 = .ok 2 ∧
      Docs.request.MatchedLately Docs.policy Docs.history 1000 Docs.recount 2 := by
  intro engine
  have hkeys : ∀ r ∈ totals (Docs.recount ++ [.count Docs.request]),
      ∀ other ∈ totals (Docs.recount ++ [.count Docs.request]),
        other.cacheKey = r.cacheKey → other = r := by decide +kernel
  have hcount : (engine.count Docs.request (engine.run Docs.session Docs.recount)).1 = .ok 2 := by
    decide +kernel
  have hrun := totals_matched_lately engine Docs.history 1000 1 0
    (Docs.recount ++ [.count Docs.request]) hkeys
  exact ⟨hkeys, by decide +kernel, hcount, hrun.1 Docs.recount Docs.request [] 2 rfl hcount⟩

end Rebac
