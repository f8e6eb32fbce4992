import Rebac.Proofs.PointCheck
import Rebac.Proofs.Run
/-!
# What a request asks the backend

A backend may answer each query as it likes, and its answer may depend on what it was asked before.
`Access.Asks` says which queries a request hands to it, and in which order: these are recorded, the
backend is in the state in which they leave it, and if it fails to answer one of them the request
fails for the same reason. Requests in two parts ask what their parts ask (`Asks.bind_of_ok`,
`Asks.bind_of_error`), so the queries of each request of an engine follow from its parts
(`Engine.queries_asked`).
-/

namespace Rebac

/-! ### Several queries -/

namespace Backend

variable {σ : Type} [Backend σ]

/-- The state in which queries leave a backend that are asked one after the other. -/
def after (b : σ) (queries : List Query) : σ := queries.foldl (fun b q => (run q b).2) b

/-- What it answers to them. -/
def replies (b : σ) : List Query → List (Except AccessError (List Row))
  | [] => []
  | q :: queries => (run q b).1 :: replies (run q b).2 queries

theorem after_append (b : σ) (queries others : List Query) :
    after b (queries ++ others) = after (after b queries) others := by
  simp [after]

theorem replies_append (b : σ) (queries others : List Query) :
    replies b (queries ++ others) = replies b queries ++ replies (after b queries) others := by
  induction queries generalizing b with
  | nil => rfl
  | cons q queries ih =>
    rw [List.cons_append, replies, ih, replies, List.cons_append]
    rfl

end Backend

namespace Access

variable {σ α β : Type} [Backend σ] {m : Access σ α} {n : Access σ β} {f : α → Access σ β}
  {s s' : Session σ} {a : α} {e : AccessError} {queries others : List Query}

/-- In this session the request asks these queries, in this order. A failure of the backend is a
failure of the request. -/
structure Asks (m : Access σ α) (s : Session σ) (queries : List Query) : Prop where
  asked_eq : (m s).2.asked = s.asked ++ queries
  backend_eq : (m s).2.backend = Backend.after s.backend queries
  failed : ∀ e, .error e ∈ Backend.replies s.backend queries → (m s).1 = .error e

/-! ### Parts of requests -/

theorem asks_ofExcept (answer : Except AccessError α) (s : Session σ) :
    (ofExcept answer).Asks s [] where
  asked_eq := (List.append_nil _).symm
  backend_eq := rfl
  failed _ he := absurd he List.not_mem_nil

theorem asks_pure (a : α) (s : Session σ) : (pure a : Access σ α).Asks s [] :=
  asks_ofExcept (.ok a) s

theorem asks_ask (query : Query) (s : Session σ) : (ask query).Asks s [query] where
  asked_eq := rfl
  backend_eq := rfl
  failed _ he := (List.mem_singleton.1 he).symm

theorem asks_store (key : String) (value : Json.Value) (s : Session σ) :
    (store key value).Asks s [] where
  asked_eq := (List.append_nil _).symm
  backend_eq := rfl
  failed _ he := absurd he List.not_mem_nil

namespace Asks

/-- A request that fails as another does asks what the other asks. -/
theorem of_error {t : Session σ} (hm : m.Asks s queries) (herror : m s = (.error e, t))
    (hn : n s = (.error e, t)) : n.Asks s queries := by
  constructor
  · rw [hn, ← hm.asked_eq, herror]
  · rw [hn, ← hm.backend_eq, herror]
  · intro e' he'
    have hfailed := hm.failed e' he'
    rw [herror] at hfailed
    rw [hn, Except.error.inj hfailed]

theorem bind_of_ok (hm : m.Asks s queries) (hok : m s = (.ok a, s')) (hf : (f a).Asks s' others) :
    (m >>= f).Asks s (queries ++ others) := by
  have hbackend := hm.backend_eq
  have hasked := hm.asked_eq
  simp only [hok] at hbackend hasked
  constructor
  · rw [bind_of_eq_ok hok, hf.asked_eq, hasked, List.append_assoc]
  · rw [bind_of_eq_ok hok, hf.backend_eq, hbackend, Backend.after_append]
  · intro e he
    rw [bind_of_eq_ok hok]
    rw [Backend.replies_append, List.mem_append, ← hbackend] at he
    rcases he with he | he
    · -- the first part has succeeded, so the backend had answered
      have hfailed := hm.failed e he
      rw [hok] at hfailed
      cases hfailed
    · exact hf.failed e he

theorem bind_of_error (hm : m.Asks s queries) (herror : m s = (.error e, s')) :
    (m >>= f).Asks s queries := by
  exact hm.of_error herror (bind_of_eq_error herror)

theorem congr {m n : Access σ α} (hm : m.Asks s queries) (h : n s = m s) : n.Asks s queries := by
  constructor
  · rw [h, hm.asked_eq]
  · rw [h, hm.backend_eq]
  · rw [h]
    exact hm.failed

/-- A second part that asks nothing adds nothing, whatever comes of the first. -/
theorem bind (hm : m.Asks s queries) (hf : ∀ a s', (f a).Asks s' []) :
    (m >>= f).Asks s queries := by
  cases ha : (m s).1 with
  | error e => exact hm.bind_of_error (Prod.ext ha rfl)
  | ok a =>
    have hboth := hm.bind_of_ok (Prod.ext ha rfl) (hf a (m s).2)
    rw [List.append_nil] at hboth
    exact hboth

/-- A request that ends in the session in which another has succeeded asks what the other asks. -/
theorem of_ok (hm : m.Asks s queries) (hok : m s = (.ok a, s')) (hn : (n s).2 = s') :
    n.Asks s queries := by
  constructor
  · rw [hn, ← hm.asked_eq, hok]
  · rw [hn, ← hm.backend_eq, hok]
  · intro e he
    have hfailed := hm.failed e he
    rw [hok] at hfailed
    cases hfailed

end Asks

/-- A request that compiles to a query asks this query. -/
theorem asks_of_compiled {compiled : Except AccessError Query} {query : Query}
    {read : List Row → Access σ α} (hq : compiled = .ok query)
    (hread : ∀ rows s', (read rows).Asks s' []) :
    (ofExcept compiled >>= fun q => ask q >>= read).Asks s [query] := by
  subst hq
  have hask := (asks_ask query s).bind hread
  exact (asks_ofExcept (.ok query) s).bind_of_ok rfl hask

/-- A request that does not compile asks none. -/
theorem asks_of_not_compiled {compiled : Except AccessError Query} {f : Query → Access σ α}
    (hq : ∀ query, compiled ≠ .ok query) : (ofExcept compiled >>= f).Asks s [] := by
  cases compiled with
  | ok query => exact absurd rfl (hq query)
  | error e => exact (asks_ofExcept (.error e) s).bind_of_error rfl

end Access

/-! ### Totals -/

namespace Request

variable {σ : Type} [Backend σ]

/-- The number of objects that can be had for a request: what the cache holds, if it holds anything
alive and that is a number, and else what the backend counts. -/
def Obtains (r : Request) (policy : Policy) (s : Session σ) (n : UInt64) : Prop :=
  match s.cache.get? s.now r.cacheKey with
  | some value => value.word? = some n
  | none => ∃ query rows, r.countQuery policy = .ok query ∧
      (Backend.run query s.backend).1 = .ok rows ∧ Answer.count rows = .ok n

end Request

namespace Page

variable {σ : Type} [Backend σ] {policy : Policy} {r : Request} {s : Session σ}

theorem recount_eq_ok_iff {n : UInt64} :
    (recount policy r s).1 = .ok n ↔ ∃ query rows, r.countQuery policy = .ok query ∧
      (Backend.run query s.backend).1 = .ok rows ∧ Answer.count rows = .ok n := by
  unfold recount
  -- in the order of the parts, of which the last one, keeping the number, does not fail
  cases hquery : r.countQuery policy with
  | error e => simp [Access.ofExcept_error_bind]
  | ok query =>
    rw [Access.ofExcept_ok_bind, Access.ask_bind]
    cases hrows : (Backend.run query s.backend).1 with
    | error e => simp [hrows]
    | ok rows =>
      simp only
      cases htotal : Answer.count rows with
      | error e => simp [htotal, hrows]
      | ok total =>
        rw [Access.ofExcept_ok_bind, Access.store_bind]
        constructor
        · intro hok
          obtain rfl : total = n := Except.ok.inj hok
          exact ⟨query, rows, rfl, hrows, htotal⟩
        · intro hcount
          obtain ⟨query', rows', hquery', hrows', htotal'⟩ := hcount
          obtain rfl := Except.ok.inj hquery'
          obtain rfl := Except.ok.inj (hrows.symm.trans hrows')
          exact htotal.symm.trans htotal'

/-- A total is looked up with success just when there is one to be had. -/
theorem totalCount_eq_ok_iff {n : UInt64} :
    (totalCount policy r s).1 = .ok n ↔ r.Obtains policy s n := by
  unfold Request.Obtains
  cases hget : s.cache.get? s.now r.cacheKey with
  | some value =>
    rw [totalCount_of_hit hget]
    cases hword : value.word? <;> simp [hword]
  | none =>
    rw [totalCount_of_miss hget]
    exact recount_eq_ok_iff

/-- The cache answers without the backend. -/
theorem asks_totalCount_of_hit {value : Json.Value}
    (hget : s.cache.get? s.now r.cacheKey = some value) : (totalCount policy r).Asks s [] :=
  (Access.asks_ofExcept _ s).congr (totalCount_of_hit hget)

/-- What is counted is read off the rows and kept without the backend. -/
theorem asks_keep (key : String) (rows : List Row) (s : Session σ) :
    (do
      let total ← Access.ofExcept (Answer.count rows)
      Access.store key (.ofNat total.toNat)
      return total : Access σ UInt64).Asks s [] :=
  (Access.asks_ofExcept _ s).bind fun total t =>
    (Access.asks_store _ _ t).bind fun _ u => Access.asks_pure total u

theorem asks_totalCount_of_miss {query : Query} (hget : s.cache.get? s.now r.cacheKey = none)
    (hq : r.countQuery policy = .ok query) : (totalCount policy r).Asks s [query] := by
  refine Access.Asks.congr ?_ (totalCount_of_miss hget)
  exact Access.asks_of_compiled hq fun rows t => asks_keep r.cacheKey rows t

/-- A total is counted just when the cache misses. -/
theorem asks_totalCount {query : Query} (hq : r.countQuery policy = .ok query) :
    (totalCount policy r).Asks s
      (if (s.cache.get? s.now r.cacheKey).isNone then [query] else []) := by
  cases hget : s.cache.get? s.now r.cacheKey with
  | some value => exact asks_totalCount_of_hit hget
  | none => exact asks_totalCount_of_miss hget hq

end Page

/-! ### Pages -/

namespace Page

variable {σ : Type} [Backend σ] {policy : Policy} {r : Request} {limit page : Int64}
  {s : Session σ} {queries : List Query} {listing : Query}

/-- A page that cannot be, or whose rule does not compile, is refused at once. -/
theorem window_of_refused
    (h : page ≤ 0 ∨ limit ≤ 0 ∨ ¬ RuleCompiles policy r.objectType r.action) :
    ∃ e, window policy r limit page s = (.error e, s) := by
  by_cases hpage : page ≤ 0
  · exact ⟨_, window_of_page_le hpage⟩
  by_cases hlimit : limit ≤ 0
  · exact ⟨_, window_of_limit_le hpage hlimit⟩
  have hrule : ¬ RuleCompiles policy r.objectType r.action := by
    simpa [hpage, hlimit] using h
  cases hq : r.filterQuery policy with
  | ok q => exact absurd (ruleCompiles_of_filterQuery hq) hrule
  | error e => exact ⟨e, window_of_filterQuery_error hpage hlimit hq⟩

/-- A window asks what its total asks. -/
theorem asks_window (hpage : 0 < page) (hlimit : 0 < limit)
    (hq : r.filterQuery policy = .ok listing) (htotal : (totalCount policy r).Asks s queries) :
    (window policy r limit page).Asks s queries := by
  have hp : ¬ page ≤ 0 := Int64.not_le.2 hpage
  have hl : ¬ limit ≤ 0 := Int64.not_le.2 hlimit
  cases hn : (totalCount policy r s).1 with
  | error e =>
    have hlookup : totalCount policy r s = (.error e, _) := Prod.ext hn rfl
    exact htotal.of_error hlookup (window_of_totalCount_error hp hl hq hlookup)
  | ok n =>
    have hlookup : totalCount policy r s = (.ok n, _) := Prod.ext hn rfl
    -- whether or not the page exists, nothing comes after the total
    apply htotal.of_ok hlookup
    rw [window_eq hp hl hq hlookup]
    split <;> rfl

end Page

namespace Engine

variable {σ : Type} [Backend σ] {engine : Engine} {r : Request} {limit page : Int64}
  {s : Session σ} {queries : List Query} {listing : Query}

/-- Where there is no page to be shown, nothing is asked but what the total needs. -/
theorem asks_filterPaginated_of_missing (hpage : 0 < page) (hlimit : 0 < limit)
    (hq : r.filterQuery engine.policy = .ok listing)
    (htotal : (Page.totalCount engine.policy r).Asks s queries)
    (hmissing : ∀ n, r.Obtains engine.policy s n →
      Page.count n.toNat limit.toInt.toNat < page.toInt) :
    (engine.filterPaginated r limit page).Asks s queries := by
  have hp : ¬ page ≤ 0 := Int64.not_le.2 hpage
  have hl : ¬ limit ≤ 0 := Int64.not_le.2 hlimit
  have hasks := Page.asks_window hpage hlimit hq htotal
  cases hn : (Page.totalCount engine.policy r s).1 with
  | error e =>
    exact hasks.bind_of_error (Page.window_of_totalCount_error hp hl hq (Prod.ext hn rfl))
  | ok n =>
    have hlast := hmissing n (Page.totalCount_eq_ok_iff.1 hn)
    have hwindow := Page.window_eq hp hl hq (Prod.ext hn rfl)
    rw [if_pos ((Page.totalPages_lt_iff hpage hlimit).2 hlast)] at hwindow
    exact hasks.bind_of_error hwindow

/-- A page that exists is asked for after its total. -/
theorem asks_filterPaginated_of_exists (hpage : 0 < page) (hlimit : 0 < limit)
    (hq : r.filterQuery engine.policy = .ok listing)
    (htotal : (Page.totalCount engine.policy r).Asks s queries)
    {n : UInt64} (hn : r.Obtains engine.policy s n)
    (hexists : page.toInt ≤ Page.count n.toNat limit.toInt.toNat) :
    ∃ skip : UInt64, skip.toNat = (page.toInt.toNat - 1) * limit.toInt.toNat ∧
      (engine.filterPaginated r limit page).Asks s
        (queries ++ [listing.withWindow skip limit.toUInt64]) := by
  have hlookup : Page.totalCount engine.policy r s = (.ok n, _) :=
    Prod.ext (Page.totalCount_eq_ok_iff.2 hn) rfl
  have hshown : ¬ Page.totalPages n limit.toUInt64 < page.toUInt64 := by
    rw [Page.totalPages_lt_iff hpage hlimit]
    omega
  have hwindow := Page.window_eq (Int64.not_le.2 hpage) (Int64.not_le.2 hlimit) hq hlookup
  rw [if_neg hshown] at hwindow
  have hskip := Page.toNat_skip (Page.toNat_toUInt64_pos hlimit) (Page.toNat_toUInt64_pos hpage)
    hshown
  rw [Page.toNat_toUInt64_eq hpage, Page.toNat_toUInt64_eq hlimit] at hskip
  refine ⟨_, hskip, ?_⟩
  refine (Page.asks_window hpage hlimit hq htotal).bind_of_ok hwindow ?_
  refine (Access.asks_ask _ _).bind fun rows t => ?_
  exact (Access.asks_ofExcept _ t).bind fun ids u => Access.asks_pure _ u

/-! ### Whole requests -/

/-- The queries of a request that asks one of this kind if its rule compiles, and else none. -/
structure OneIf (rule : Prop) (compiled : Except AccessError Query) (projection : Projection)
    (queries : List Query) : Prop where
  of_rule : rule → ∃ query, compiled = .ok query ∧ query.plan.projection = projection ∧
    queries = [query]
  of_not_rule : ¬ rule → queries = []

/-- A check, a listing and a total that is counted are read off the rows of one query. -/
theorem exists_asks_of_compiled {α : Type} {rule : Prop} {compiled : Except AccessError Query}
    {projection : Projection} {read : List Row → Access σ α}
    (hcompiles : rule → ∃ query, compiled = .ok query ∧ query.plan.projection = projection)
    (hrule : ∀ query, compiled = .ok query → rule) (hread : ∀ rows t, (read rows).Asks t []) :
    ∃ queries, (Access.ofExcept compiled >>= fun q => Access.ask q >>= read).Asks s queries ∧
      OneIf rule compiled projection queries := by
  by_cases h : rule
  · obtain ⟨query, hq, hprojection⟩ := hcompiles h
    refine ⟨[query], Access.asks_of_compiled hq hread, ?_, absurd h⟩
    intro _
    exact ⟨query, hq, hprojection, rfl⟩
  · refine ⟨[], Access.asks_of_not_compiled fun query hq => h (hrule query hq), ?_, fun _ => rfl⟩
    intro hyes
    exact absurd hyes h

theorem exists_asks_check (subject : Entity) (action : String) (object : Entity) :
    ∃ queries, (engine.check subject action object).Asks s queries ∧
      OneIf (RuleCompiles engine.policy object.typeName action)
        (Query.access subject action object engine.policy) .clauseColumns queries := by
  apply exists_asks_of_compiled
  · intro hrule
    obtain ⟨query, hq, hchecks⟩ := exists_accessQuery subject object hrule
    exact ⟨query, hq, hchecks.projection_eq⟩
  · intro query hq
    exact ruleCompiles_of_accessQuery hq
  · intro rows t
    exact Access.asks_ofExcept _ t

theorem exists_asks_filter (r : Request) :
    ∃ queries, (engine.filter r).Asks s queries ∧
      OneIf (RuleCompiles engine.policy r.objectType r.action) (r.filterQuery engine.policy)
        .distinctIds queries := by
  apply exists_asks_of_compiled
  · intro hrule
    obtain ⟨query, hq, hstands⟩ := exists_filterQuery hrule
    exact ⟨query, hq, hstands.projection_eq⟩
  · intro query hq
    exact ruleCompiles_of_filterQuery hq
  · intro rows t
    exact Access.asks_ofExcept _ t

theorem exists_asks_count (r : Request) :
    ∃ queries, (engine.count r).Asks s queries ∧
      (∀ value, s.cache.get? s.now r.cacheKey = some value → queries = []) ∧
      (s.cache.get? s.now r.cacheKey = none →
        OneIf (RuleCompiles engine.policy r.objectType r.action) (r.countQuery engine.policy)
          .countDistinct queries) := by
  cases hget : s.cache.get? s.now r.cacheKey with
  | some value =>
    refine ⟨[], Page.asks_totalCount_of_hit hget, fun _ _ => rfl, ?_⟩
    intro hnone
    cases hnone
  | none =>
    have hrecount : ∃ queries, (Page.recount engine.policy r).Asks s queries ∧
        OneIf (RuleCompiles engine.policy r.objectType r.action) (r.countQuery engine.policy)
          .countDistinct queries := by
      apply exists_asks_of_compiled
      · intro hrule
        obtain ⟨query, hq, hstands⟩ := exists_countQuery hrule
        exact ⟨query, hq, hstands.projection_eq⟩
      · intro query hq
        exact ruleCompiles_of_countQuery hq
      · intro rows t
        exact Page.asks_keep _ rows t
    obtain ⟨queries, hasks, hone⟩ := hrecount
    refine ⟨queries, hasks.congr (Page.totalCount_of_miss hget), ?_, fun _ => hone⟩
    intro value hvalue
    cases hvalue

/-- The queries of a page: a count if the cache holds none, and then the page, if there is one. -/
structure PageQueries (engine : Engine) (r : Request) (limit page : Int64) (s : Session σ)
    (queries : List Query) : Prop where
  of_refused : page ≤ 0 ∨ limit ≤ 0 ∨ ¬ RuleCompiles engine.policy r.objectType r.action →
    queries = []
  of_accepted : 0 < page → 0 < limit → RuleCompiles engine.policy r.objectType r.action →
    ∃ counting listing, r.countQuery engine.policy = .ok counting ∧
      counting.plan.projection = .countDistinct ∧ r.filterQuery engine.policy = .ok listing ∧
      listing.plan.projection = .distinctIds ∧
      let first := if (s.cache.get? s.now r.cacheKey).isNone then [counting] else []
      (∀ n, r.Obtains engine.policy s n → page.toInt ≤ Page.count n.toNat limit.toInt.toNat →
        ∃ skip : UInt64, skip.toNat = (page.toInt.toNat - 1) * limit.toInt.toNat ∧
          queries = first ++ [listing.withWindow skip limit.toUInt64]) ∧
      ((∀ n, r.Obtains engine.policy s n → Page.count n.toNat limit.toInt.toNat < page.toInt) →
        queries = first)

/-- A page that is refused at once asks nothing. -/
theorem asks_filterPaginated_of_refused
    (h : page ≤ 0 ∨ limit ≤ 0 ∨ ¬ RuleCompiles engine.policy r.objectType r.action) :
    (engine.filterPaginated r limit page).Asks s [] := by
  obtain ⟨e, hwindow⟩ := Page.window_of_refused (s := s) h
  have hasks : (Page.window engine.policy r limit page).Asks s [] :=
    (Access.asks_ofExcept (.error e) s).congr hwindow
  exact hasks.bind_of_error hwindow

theorem exists_asks_filterPaginated (r : Request) (limit page : Int64) :
    ∃ queries, (engine.filterPaginated r limit page).Asks s queries ∧ queries.length ≤ 2 ∧
      queries.Nodup ∧ PageQueries engine r limit page s queries := by
  by_cases hrefused : page ≤ 0 ∨ limit ≤ 0 ∨ ¬ RuleCompiles engine.policy r.objectType r.action
  · refine ⟨[], asks_filterPaginated_of_refused hrefused, by decide, by decide, fun _ => rfl, ?_⟩
    intro hpage hlimit hrule
    rcases hrefused with hle | hle | hnot
    · exact absurd hpage (Int64.not_lt.2 hle)
    · exact absurd hlimit (Int64.not_lt.2 hle)
    · exact absurd hrule hnot
  · obtain ⟨hp, hl, hrule⟩ : ¬ page ≤ 0 ∧ ¬ limit ≤ 0 ∧
        RuleCompiles engine.policy r.objectType r.action := by simpa using hrefused
    have hpage : 0 < page := Int64.not_le.1 hp
    have hlimit : 0 < limit := Int64.not_le.1 hl
    obtain ⟨counting, hcounting, hcounts⟩ := exists_countQuery hrule
    obtain ⟨listing, hlisting, hlists⟩ := exists_filterQuery hrule
    have htotal := Page.asks_totalCount (s := s) hcounting
    by_cases hshown : ∃ n, r.Obtains engine.policy s n ∧
        page.toInt ≤ Page.count n.toNat limit.toInt.toNat
    · obtain ⟨n, hn, hexists⟩ := hshown
      obtain ⟨skip, hskip, hasks⟩ :=
        asks_filterPaginated_of_exists hpage hlimit hlisting htotal hn hexists
      -- a count and a page show different things, so they are two queries
      have hne : counting ≠ listing.withWindow skip limit.toUInt64 := by
        intro heq
        have hprojection := hcounts.projection_eq
        rw [heq] at hprojection
        cases hlists.projection_eq.symm.trans hprojection
      refine ⟨_, hasks, ?_, ?_, fun h => absurd h hrefused, fun _ _ _ =>
        ⟨counting, listing, hcounting, hcounts.projection_eq, hlisting, hlists.projection_eq,
          fun _ _ _ => ⟨skip, hskip, rfl⟩, ?_⟩⟩
      · split <;> simp
      · split <;> simp [hne]
      · intro hmissing
        have hlast := hmissing n hn
        omega
    · have hmissing : ∀ n, r.Obtains engine.policy s n →
          Page.count n.toNat limit.toInt.toNat < page.toInt := by
        intro n hn
        exact Int.not_le.1 fun hexists => hshown ⟨n, hn, hexists⟩
      refine ⟨_, asks_filterPaginated_of_missing hpage hlimit hlisting htotal hmissing, ?_, ?_,
        fun h => absurd h hrefused, fun _ _ _ => ⟨counting, listing, hcounting,
          hcounts.projection_eq, hlisting, hlists.projection_eq, ?_, fun _ => rfl⟩⟩
      · split <;> simp
      · split <;> simp
      · intro n hn hexists
        exact absurd ⟨n, hn, hexists⟩ hshown

/-- Whatever the policy, the cache and the backend: a check or a listing asks one query of its kind
if its rule compiles, and none else; a count asks none if the cache holds anything under its key,
and otherwise one if its rule compiles; a page asks none if it is refused at once, and otherwise it
asks for the total if the cache does not hold it and then, if there is a total to be had and it
fills enough pages, once more for the page alone. In each case a failure of the backend is the
answer. -/
theorem queries_asked (engine : Engine) (s : Session σ) :
    (∀ subject action object, ∃ queries,
      (engine.check subject action object).Asks s queries ∧
        OneIf (RuleCompiles engine.policy object.typeName action)
          (Query.access subject action object engine.policy) .clauseColumns queries) ∧
    (∀ r, ∃ queries, (engine.filter r).Asks s queries ∧
      OneIf (RuleCompiles engine.policy r.objectType r.action) (r.filterQuery engine.policy)
        .distinctIds queries) ∧
    (∀ r, ∃ queries, (engine.count r).Asks s queries ∧
      (∀ value, s.cache.get? s.now r.cacheKey = some value → queries = []) ∧
      (s.cache.get? s.now r.cacheKey = none →
        OneIf (RuleCompiles engine.policy r.objectType r.action) (r.countQuery engine.policy)
          .countDistinct queries)) ∧
    ∀ r limit page, ∃ queries, (engine.filterPaginated r limit page).Asks s queries ∧
      queries.length ≤ 2 ∧ queries.Nodup ∧ PageQueries engine r limit page s queries :=
  ⟨exists_asks_check, exists_asks_filter, exists_asks_count, exists_asks_filterPaginated⟩

end Engine

namespace Docs

/-- A backend that counts three documents and then fails. -/
def failing : Session Script :=
  ⟨⟨[.ok [Graph.totalRow 3], .error (.queryFailed (.reported "down"))]⟩, .empty 1000 1, 0, []⟩

end Docs

/-- The second page of two is asked for after the total, and the failure is passed on. -/
theorem Engine.queries_asked_docs :
    let engine := ofPolicy Docs.policy
    ∃ counting page, PageQueries engine Docs.request 2 2 Docs.failing [counting, page] ∧
      (engine.filterPaginated Docs.request 2 2 Docs.failing).2.asked = [counting, page] ∧
      (engine.filterPaginated Docs.request 2 2 Docs.failing).1 =
        .error (.queryFailed (.reported "down")) := by
  intro engine
  obtain ⟨queries, hasks, -, -, hpage⟩ :=
    (queries_asked engine Docs.failing).2.2.2 Docs.request 2 2
  have hasked : (engine.filterPaginated Docs.request 2 2 Docs.failing).2.asked = queries := by
    rw [hasks.asked_eq]
    rfl
  have hlength : (engine.filterPaginated Docs.request 2 2 Docs.failing).2.asked.length = 2 := by
    decide +kernel
  rw [hasked] at hlength
  obtain ⟨counting, page, rfl⟩ := List.length_eq_two.1 hlength
  exact ⟨counting, page, hpage, hasked, by decide +kernel⟩

end Rebac
