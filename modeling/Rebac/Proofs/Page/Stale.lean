import Rebac.Proofs.Count
import Rebac.Proofs.Page.Run
/-!
# Pages under a total that is out of date

The number of pages is taken from the total that is found, and what is on a page is taken from the
listing as it is: so a total that is out of date, or was never right, makes pages unreachable or
empty, but never shows an object on another page than the one where the listing has it
(`Engine.page_of_kept_total`). The words that a page is computed with do not wrap around for any
total, any size and any page.
-/

namespace Rebac

namespace Engine

section Kept

variable {engine : Engine} {r : Request} {s : Session Graph} {v : GraphView} {limit page : Int64}
  {total : UInt64}

/-- A kept total says which pages there are, and the listing what is on them. -/
theorem filterPaginated_of_kept (hrule : RuleCompiles engine.policy r.objectType r.action)
    (hpage : 0 < page) (hlimit : 0 < limit) (hg : s.backend.Represents v)
    (hkept : s.cache.get? s.now r.cacheKey = some (.ofNat total.toNat)) :
    (engine.filterPaginated r limit page s).1 =
      Page.shown ((v.granted engine.policy r).map Node.id) total limit page := by
  obtain ⟨q, hq, -⟩ := exists_filterQuery hrule
  have htotal : Page.totalCount engine.policy r s = (.ok total, s) :=
    Page.totalCount_of_get? hkept (word?_ofNat_toNat total)
  obtain ⟨asked, hanswer⟩ := filterPaginated_of_totalCount hpage hlimit hq hg rfl htotal rfl
  rw [hanswer]

end Kept

/-- Over the graph of any history, while any word at all is kept as the total of a request: a page
is shown just if that many objects fill it, wholly or in part, and then the places of the page hold
what the listing has at these places, as far as it goes; any other page is refused. -/
theorem page_of_kept_total (engine : Engine) (r : Request) (history : List Change)
    (s : Session Graph) (limit page : Int64) (kept : Nat)
    (hgraph : s.backend = Graph.ofHistory history)
    (hrule : RuleCompiles engine.policy r.objectType r.action) (hlimit : 0 < limit)
    (hpage : 0 < page) (hword : kept < UInt64.size)
    (hkept : s.cache.get? s.now r.cacheKey = some (.ofNat kept)) :
    ∃ ids, (engine.filter r s).1 = .ok ids ∧
      let size := limit.toInt.toNat
      let before := (page.toInt.toNat - 1) * size
      let pages := Page.count kept size
      let answer := (engine.filterPaginated r limit page s).1
      (page.toInt ≤ pages → ∃ reply, answer = .ok reply ∧ reply.totalPages.toNat = pages ∧
        reply.page = page ∧ reply.data.length = 1 ∧
        reply.identifiers.length = min size (ids.length - before) ∧
        ∀ i < size, reply.identifiers[i]? = ids[before + i]?) ∧
      (pages < page.toInt → ∃ total, total.toNat = pages ∧
        answer = .error (.pageOutOfRange page total)) := by
  have hg : s.backend.Represents (GraphView.ofHistory history) :=
    hgraph ▸ Graph.represents_ofHistory history
  have hback : kept.toUInt64.toNat = kept := UInt64.toNat_ofNat_of_lt' hword
  rw [← hback] at hkept
  have hshown := filterPaginated_of_kept hrule hpage hlimit hg hkept
  refine ⟨_, filter_of_represents hrule hg, ?_⟩
  -- from here on only the identifiers matter, not where they come from
  generalize ((GraphView.ofHistory history).granted engine.policy r).map Node.id = ids at hshown ⊢
  intro size before pages answer
  have hanswer : answer = Page.shown ids kept.toUInt64 limit page := hshown
  have hpages : pages = Page.count kept.toUInt64.toNat size := by rw [hback]
  rw [hanswer, hpages]
  constructor
  · intro hle
    obtain ⟨reply, hreply, htotal, hthis, hdata⟩ := Page.shown_of_le hlimit hpage hle
    have hids : reply.identifiers = Page.slice ids size (page.toInt.toNat - 1) := by
      unfold ListingPage.identifiers
      rw [hdata, List.flatten_singleton]
    refine ⟨reply, hreply, htotal, hthis, by rw [hdata]; rfl, ?_, ?_⟩
    · rw [hids, Page.length_slice]
    · intro i hi
      rw [hids, Page.getElem?_slice hi]
  · intro hlt
    exact Page.shown_of_lt hlimit hpage hlt

end Engine

namespace Docs

/-- Five documents have been kept as the total, but the user owns two. -/
def overcounted : Session Graph :=
  { session with cache := session.cache.set 0 request.cacheKey (.ofNat 5) }

end Docs

/-- The second page of two is there, because the kept total says so, and nothing is on it. -/
theorem Engine.page_of_kept_total_docs :
    let engine := ofPolicy Docs.policy
    (engine.filter Docs.request Docs.overcounted).1 = .ok ["a", "b"] ∧
      RuleCompiles Docs.policy "Document" "read" ∧
      Docs.overcounted.cache.get? Docs.overcounted.now Docs.request.cacheKey = some (.ofNat 5) ∧
      ∃ reply, (engine.filterPaginated Docs.request 2 2 Docs.overcounted).1 = .ok reply ∧
        reply.totalPages.toNat = 3 ∧ reply.identifiers = [] := by
  intro engine
  have hrule : RuleCompiles Docs.policy "Document" "read" := by decide +kernel
  have hlist : (engine.filter Docs.request Docs.overcounted).1 = .ok ["a", "b"] := by
    decide +kernel
  have hkept : Docs.overcounted.cache.get? Docs.overcounted.now Docs.request.cacheKey =
      some (.ofNat 5) := by decide +kernel
  obtain ⟨ids, hids, hshown, -⟩ := page_of_kept_total engine Docs.request Docs.history
    Docs.overcounted 2 2 5 rfl hrule (by decide) (by decide) (by decide) hkept
  obtain rfl := Except.ok.inj (hlist.symm.trans hids)
  obtain ⟨reply, hreply, htotal, -, -, hlength, -⟩ := hshown (by decide)
  exact ⟨hlist, hrule, hkept, reply, hreply, htotal, List.length_eq_zero_iff.1 hlength⟩

end Rebac
