import Rebac.Proofs.Page.Total
/-!
# Paging through a listing

Pages are asked for one by one, in any order, while other requests and the passing of time come
between them (`PagingStep`). As long as the graph stays as it is, each step leaves a session in
which the total can only be read right (`Steady.pagingStep`), so after any number of steps a page is
answered as the listing is cut (`Engine.filterPaginated_eq`), and the pages make up the listing
(`Engine.pages_partition_listing`).
-/

namespace Rebac

namespace Page

/-! ### One page -/

/-- What is shown of a listing on a page, when the number of pages is taken from a total. -/
def shown (ids : List String) (total : UInt64) (limit page : Int64) :
    Except AccessError ListingPage :=
  let pages := totalPages total limit.toUInt64
  if pages < page.toUInt64 then .error (.pageOutOfRange page pages)
  else .ok ⟨pages, page, [slice ids limit.toUInt64.toNat (page.toUInt64.toNat - 1)]⟩

/-- What is to be answered when a page of a listing is asked for. -/
def answer (ids : List String) (limit page : Int64) : Except AccessError ListingPage :=
  if page ≤ 0 then .error (.invalidPage page)
  else if limit ≤ 0 then .error (.invalidLimit limit)
  else
    let pages := totalPages ids.length.toUInt64 limit.toUInt64
    if pages < page.toUInt64 then .error (.pageOutOfRange page pages)
    else .ok ⟨pages, page, [slice ids limit.toUInt64.toNat (page.toUInt64.toNat - 1)]⟩

section Answers

variable {ids : List String} {total : UInt64} {limit p : Int64}

/-- A page that the total fills, wholly or in part, shows its slice of the listing. -/
theorem shown_of_le (hlimit : 0 < limit) (hp : 0 < p)
    (hle : p.toInt ≤ count total.toNat limit.toInt.toNat) :
    ∃ reply, shown ids total limit p = .ok reply ∧
      reply.totalPages.toNat = count total.toNat limit.toInt.toNat ∧ reply.page = p ∧
      reply.data = [slice ids limit.toInt.toNat (p.toInt.toNat - 1)] := by
  have hexists : ¬ totalPages total limit.toUInt64 < p.toUInt64 := by
    rw [totalPages_lt_iff hp hlimit]
    omega
  refine ⟨_, if_neg hexists, toNat_totalPages_of_pos hlimit total, rfl, ?_⟩
  rw [toNat_toUInt64_eq hlimit, toNat_toUInt64_eq hp]

/-- A page after that is refused. -/
theorem shown_of_lt (hlimit : 0 < limit) (hp : 0 < p)
    (hlt : count total.toNat limit.toInt.toNat < p.toInt) :
    ∃ pages, pages.toNat = count total.toNat limit.toInt.toNat ∧
      shown ids total limit p = .error (.pageOutOfRange p pages) :=
  ⟨_, toNat_totalPages_of_pos hlimit total, if_pos ((totalPages_lt_iff hp hlimit).2 hlt)⟩

/-- If the total is right, this is what is to be answered. -/
theorem answer_eq_shown (hlimit : 0 < limit) (hp : 0 < p) :
    answer ids limit p = shown ids ids.length.toUInt64 limit p := by
  unfold answer
  rw [if_neg (Int64.not_le.2 hp), if_neg (Int64.not_le.2 hlimit)]
  rfl

/-- A page that exists is answered with what is on it. -/
theorem answer_of_getElem? (hlimit : 0 < limit) (hlength : ids.length < UInt64.size) {k : Nat}
    {page : List String} (hk : p.toInt = k + 1)
    (hpage : (slices ids limit.toInt.toNat)[k]? = some page) :
    ∃ reply, answer ids limit p = .ok reply ∧
      reply.totalPages.toNat = (slices ids limit.toInt.toNat).length ∧ reply.page = p ∧
      reply.data = [page] := by
  obtain ⟨hlt, hslice⟩ := getElem?_slices_eq_some_iff.1 hpage
  have hword : ids.length.toUInt64.toNat = ids.length := UInt64.toNat_ofNat_of_lt' hlength
  have hp : 0 < p := by
    rw [Int64.lt_iff_toInt_lt, hk]
    show (0 : Int) < k + 1
    omega
  have hnumber : p.toInt.toNat - 1 = k := by omega
  have hle : p.toInt ≤ count ids.length.toUInt64.toNat limit.toInt.toNat := by
    rw [hword]
    omega
  obtain ⟨reply, hreply, hpages, hthis, hdata⟩ := shown_of_le hlimit hp hle
  rw [hword, ← length_slices] at hpages
  rw [hnumber, hslice] at hdata
  exact ⟨reply, (answer_eq_shown hlimit hp).trans hreply, hpages, hthis, hdata⟩

/-- A page after the last is refused. -/
theorem answer_of_length_lt (hlimit : 0 < limit) (hlength : ids.length < UInt64.size)
    (hlt : (slices ids limit.toInt.toNat).length < p.toInt) :
    ∃ total, total.toNat = (slices ids limit.toInt.toNat).length ∧
      answer ids limit p = .error (.pageOutOfRange p total) := by
  have hword : ids.length.toUInt64.toNat = ids.length := UInt64.toNat_ofNat_of_lt' hlength
  have hp : 0 < p := by
    rw [Int64.lt_iff_toInt_lt]
    show (0 : Int) < p.toInt
    omega
  have hmissing : count ids.length.toUInt64.toNat limit.toInt.toNat < p.toInt := by
    rw [hword, ← length_slices]
    exact hlt
  obtain ⟨pages, hpages, hrefused⟩ := shown_of_lt hlimit hp hmissing
  rw [hword, ← length_slices] at hpages
  exact ⟨pages, hpages, (answer_eq_shown hlimit hp).trans hrefused⟩

end Answers

section Windows

variable {σ : Type} [Backend σ] {policy : Policy} {r : Request} {limit page : Int64}
  {s s' : Session σ}

theorem window_of_page_le (h : page ≤ 0) :
    window policy r limit page s = (.error (.invalidPage page), s) := by
  unfold window
  rw [if_pos h]
  rfl

theorem window_of_limit_le (hpage : ¬ page ≤ 0) (h : limit ≤ 0) :
    window policy r limit page s = (.error (.invalidLimit limit), s) := by
  unfold window
  rw [if_neg hpage, if_pos h]
  rfl

/-- Past the checks of its arguments, a window depends on the total alone. -/
theorem window_eq {q : Query} {total : UInt64} (hpage : ¬ page ≤ 0) (hlimit : ¬ limit ≤ 0)
    (hq : r.filterQuery policy = .ok q) (htotal : totalCount policy r s = (.ok total, s')) :
    window policy r limit page s =
      if totalPages total limit.toUInt64 < page.toUInt64 then
        (.error (.pageOutOfRange page (totalPages total limit.toUInt64)), s')
      else
        (.ok ⟨q.withWindow (skip page.toUInt64 limit.toUInt64) limit.toUInt64,
          totalPages total limit.toUInt64⟩, s') := by
  unfold window
  rw [if_neg hpage, if_neg hlimit, hq]
  show (Access.ofExcept (.ok q) >>= _) s = _
  rw [Access.ofExcept_ok_bind, Access.bind_of_eq_ok htotal]
  by_cases hmissing : totalPages total limit.toUInt64 < page.toUInt64
  · simp only [hmissing, if_true]
    rfl
  · simp only [hmissing, if_false]
    rfl

end Windows

end Page

namespace Engine

section Steady

variable {engine : Engine} {r : Request} {limit page : Int64} {g : Graph} {v : GraphView}
  {ids : List String} {s : Session Graph}

/-- When a total has been had, the page is shown that it says there is; a page that is shown takes
one more query. -/
theorem filterPaginated_of_totalCount {s' : Session Graph} {q : Query} {total : UInt64}
    (hpage : 0 < page) (hlimit : 0 < limit) (hq : r.filterQuery engine.policy = .ok q)
    (hg : g.Represents v) (hids : (v.granted engine.policy r).map Node.id = ids)
    (htotal : Page.totalCount engine.policy r s = (.ok total, s')) (hs' : s'.backend = g) :
    ∃ asked, engine.filterPaginated r limit page s =
      (Page.shown ids total limit page, { s' with asked := asked }) := by
  unfold filterPaginated Page.shown
  have hwindow := Page.window_eq (Int64.not_le.2 hpage) (Int64.not_le.2 hlimit) hq htotal
  by_cases hmissing : Page.totalPages total limit.toUInt64 < page.toUInt64
  · -- the total has been looked up and perhaps stored, but no page is asked for
    rw [if_pos hmissing] at hwindow
    simp only [if_pos hmissing]
    rw [Access.bind_of_eq_error hwindow]
    exact ⟨s'.asked, rfl⟩
  · rw [if_neg hmissing] at hwindow
    simp only [if_neg hmissing]
    have hrows := (standsFor_of_filterQuery hq).evaluate_window hg
      (Page.skip page.toUInt64 limit.toUInt64) limit.toUInt64
    rw [hids] at hrows
    rw [Access.bind_of_eq_ok hwindow, Access.bind_of_eq_ok (Access.ask_of_evaluate hs' hrows),
      Graph.identifiers_idRows, Access.ofExcept_ok_bind]
    -- the page exists, so what stands before it can be counted in words
    have hskip := Page.toNat_skip (Page.toNat_toUInt64_pos hlimit) (Page.toNat_toUInt64_pos hpage)
      hmissing
    rw [hskip]
    exact ⟨_, rfl⟩

/-- From a steady session a page is answered as the listing is cut, and the session stays steady. -/
theorem filterPaginated_eq (hrule : RuleCompiles engine.policy r.objectType r.action)
    (hg : g.Represents v) (hids : (v.granted engine.policy r).map Node.id = ids)
    (hlength : ids.length < UInt64.size) (hs : Steady g r.cacheKey ids.length s) :
    ∃ s', engine.filterPaginated r limit page s = (Page.answer ids limit page, s') ∧
      Steady g r.cacheKey ids.length s' := by
  -- in the order in which the arguments are looked at
  by_cases hpage : page ≤ 0
  · unfold filterPaginated Page.answer
    rw [if_pos hpage, Access.bind_of_eq_error (Page.window_of_page_le hpage)]
    exact ⟨s, rfl, hs⟩
  by_cases hlimit : limit ≤ 0
  · unfold filterPaginated Page.answer
    rw [if_neg hpage, if_pos hlimit,
      Access.bind_of_eq_error (Page.window_of_limit_le hpage hlimit)]
    exact ⟨s, rfl, hs⟩
  have hp : 0 < page := Int64.not_le.1 hpage
  have hl : 0 < limit := Int64.not_le.1 hlimit
  obtain ⟨q, hq, -⟩ := exists_filterQuery hrule
  have hcount : (v.granted engine.policy r).length = ids.length := by
    rw [← hids, List.length_map]
  obtain ⟨s₁, htotal, hs₁⟩ := Page.totalCount_eq hrule hg hcount hlength hs
  obtain ⟨asked, hanswer⟩ :=
    filterPaginated_of_totalCount hp hl hq hg hids htotal hs₁.backend_eq
  rw [← Page.answer_eq_shown hl hp] at hanswer
  exact ⟨_, hanswer, hs₁.asked asked⟩

end Steady

end Engine

/-! ### One step after the other -/

/-- What may come between one page and another. -/
inductive PagingStep where
  /-- A page of the listing is asked for, of whatever size. -/
  | page (limit page : Int64)
  /-- The objects of the listing are counted. -/
  | count
  /-- Some milliseconds pass. -/
  | wait (ms : Nat)
  /-- The cache loses the total. -/
  | forget

/-- What a step does to the session. -/
def Engine.pagingStep (engine : Engine) (r : Request) (s : Session Graph) :
    PagingStep → Session Graph
  | .page limit page => (engine.filterPaginated r limit page s).2
  | .count => (engine.count r s).2
  | .wait ms => { s with now := s.now + ms }
  | .forget => { s with cache := s.cache.invalidate r.cacheKey }

section Steps

variable {engine : Engine} {r : Request} {g : Graph} {v : GraphView} {ids : List String}
  {s : Session Graph}

/-- Every step keeps a session steady. -/
theorem Steady.pagingStep (hrule : RuleCompiles engine.policy r.objectType r.action)
    (hg : g.Represents v) (hids : (v.granted engine.policy r).map Node.id = ids)
    (hlength : ids.length < UInt64.size) (hs : Steady g r.cacheKey ids.length s)
    (step : PagingStep) : Steady g r.cacheKey ids.length (engine.pagingStep r s step) := by
  cases step with
  | page limit page =>
    obtain ⟨s', hanswer, hs'⟩ := Engine.filterPaginated_eq hrule hg hids hlength hs
    show Steady g r.cacheKey ids.length (engine.filterPaginated r limit page s).2
    rw [hanswer]
    exact hs'
  | count =>
    have hcount : (v.granted engine.policy r).length = ids.length := by
      rw [← hids, List.length_map]
    obtain ⟨s', htotal, hs'⟩ := Page.totalCount_eq hrule hg hcount hlength hs
    show Steady g r.cacheKey ids.length (Page.totalCount engine.policy r s).2
    rw [htotal]
    exact hs'
  | wait ms => exact ⟨hs.backend_eq, hs.keeps.wait (Nat.le_add_right s.now ms)⟩
  | forget => exact ⟨hs.backend_eq, CountCache.keeps_invalidate⟩

/-- So does any number of steps. -/
theorem Steady.pagingSteps (hrule : RuleCompiles engine.policy r.objectType r.action)
    (hg : g.Represents v) (hids : (v.granted engine.policy r).map Node.id = ids)
    (hlength : ids.length < UInt64.size) (hs : Steady g r.cacheKey ids.length s)
    (steps : List PagingStep) :
    Steady g r.cacheKey ids.length (steps.foldl (engine.pagingStep r) s) := by
  induction steps generalizing s with
  | nil => exact hs
  | cons step rest ih => exact ih (hs.pagingStep hrule hg hids hlength step)

/-- After any number of steps a page is answered as the listing is cut. -/
theorem Engine.filterPaginated_steps (hrule : RuleCompiles engine.policy r.objectType r.action)
    (hg : g.Represents v) (hids : (v.granted engine.policy r).map Node.id = ids)
    (hlength : ids.length < UInt64.size) (hs : Steady g r.cacheKey ids.length s)
    (steps : List PagingStep) (limit p : Int64) :
    (engine.filterPaginated r limit p (steps.foldl (engine.pagingStep r) s)).1 =
      Page.answer ids limit p := by
  have hsteady := hs.pagingSteps hrule hg hids hlength steps
  obtain ⟨s', hanswer, -⟩ := Engine.filterPaginated_eq hrule hg hids hlength hsteady
  rw [hanswer]

end Steps

/-- The pages of a listing make it up: none is empty, and all but the last are full. If nothing can
be read in the cache at first and the graph stays as it is, then after any steps each page is
answered with what is on it, and a page after the last is refused. The length of a listing in memory
is a word. -/
theorem Engine.pages_partition_listing (engine : Engine) (r : Request) (history : List Change)
    (s : Session Graph) (limit : Int64) (hgraph : s.backend = Graph.ofHistory history)
    (hrule : RuleCompiles engine.policy r.objectType r.action) (hlimit : 0 < limit)
    (hcache : s.cache.get? s.now r.cacheKey = none) :
    ∃ ids, (engine.filter r s).1 = .ok ids ∧ (ids.length < UInt64.size →
      let size := limit.toInt.toNat
      let pages := Page.slices ids size
      pages.length = Page.count ids.length size ∧ pages.flatten = ids ∧
        (∀ k page, pages[k]? = some page → 1 ≤ page.length ∧ page.length ≤ size ∧
          (k + 1 < pages.length → page.length = size)) ∧
        ∀ (steps : List PagingStep) (p : Int64),
          let answer :=
            (engine.filterPaginated r limit p (steps.foldl (engine.pagingStep r) s)).1
          (∀ (k : Nat) page, p.toInt = k + 1 → pages[k]? = some page →
            ∃ reply, answer = .ok reply ∧ reply.totalPages.toNat = pages.length ∧
              reply.page = p ∧ reply.data.length = 1 ∧ reply.identifiers = page) ∧
          (pages.length < p.toInt →
            ∃ total, total.toNat = pages.length ∧ answer = .error (.pageOutOfRange p total))) := by
  have hg : (Graph.ofHistory history).Represents (GraphView.ofHistory history) :=
    Graph.represents_ofHistory history
  refine ⟨_, filter_of_represents hrule (hgraph ▸ hg), ?_⟩
  -- from here on only the identifiers matter, not where they come from
  generalize hids : ((GraphView.ofHistory history).granted engine.policy r).map Node.id = ids
  intro hlength size pages
  have hpos : 0 < size := by
    have hword := Page.toNat_toUInt64_pos hlimit
    rw [Page.toNat_toUInt64_eq hlimit] at hword
    exact hword
  have hstart : Steady (Graph.ofHistory history) r.cacheKey ids.length s :=
    ⟨hgraph, CountCache.keeps_of_get?_eq_none hcache⟩
  refine ⟨Page.length_slices, Page.flatten_slices hpos, ?_, ?_⟩
  · intro k page hpage
    obtain ⟨hlt, rfl⟩ := Page.getElem?_slices_eq_some_iff.1 hpage
    refine ⟨Page.length_slice_pos hpos hlt, Page.length_slice_le, ?_⟩
    intro hnext
    rw [Page.length_slices] at hnext
    exact Page.length_slice_of_succ_lt hpos hnext
  · intro steps p answer
    have hanswer : answer = Page.answer ids limit p :=
      filterPaginated_steps hrule hg hids hlength hstart steps limit p
    rw [hanswer]
    constructor
    · intro k page hk hpage
      obtain ⟨reply, hreply, htotal, hnumber, hdata⟩ :=
        Page.answer_of_getElem? hlimit hlength hk hpage
      refine ⟨reply, hreply, htotal, hnumber, ?_, ?_⟩
      · rw [hdata]
        rfl
      · unfold ListingPage.identifiers
        rw [hdata, List.flatten_singleton]
    · intro hlt
      exact Page.answer_of_length_lt hlimit hlength hlt

/-- Paging through two documents in pages of one, the second page first: that the total expires in
between makes no difference to the last page, which is asked for again. -/
theorem Engine.pages_partition_listing_docs :
    RuleCompiles Docs.policy "Document" "read" ∧
      Docs.session.cache.get? Docs.session.now Docs.request.cacheKey = none ∧
      ∃ reply, ((ofPolicy Docs.policy).filterPaginated Docs.request 1 2
          ([.page 1 2, .wait 2000, .page 1 1].foldl
            ((ofPolicy Docs.policy).pagingStep Docs.request) Docs.session)).1 = .ok reply ∧
        reply.totalPages.toNat = 2 ∧ reply.page = 2 ∧ reply.identifiers = ["b"] := by
  have hrule : RuleCompiles Docs.policy "Document" "read" := by decide +kernel
  have hcache : Docs.session.cache.get? Docs.session.now Docs.request.cacheKey = none := rfl
  have hlist : ((ofPolicy Docs.policy).filter Docs.request Docs.session).1 = .ok ["a", "b"] := by
    decide +kernel
  obtain ⟨ids, hids, hpages⟩ := pages_partition_listing (ofPolicy Docs.policy) Docs.request
    Docs.history Docs.session 1 rfl hrule (by decide) hcache
  obtain rfl := Except.ok.inj (hlist.symm.trans hids)
  obtain ⟨-, -, -, hanswers⟩ := hpages (by decide)
  obtain ⟨reply, hreply, htotal, hnumber, -, hdata⟩ :=
    (hanswers [.page 1 2, .wait 2000, .page 1 1] 2).1 1 ["b"] (by decide) (by decide)
  exact ⟨hrule, hcache, reply, hreply, htotal, hnumber, hdata⟩

end Rebac
