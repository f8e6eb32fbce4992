import Rebac.Proofs.Page.Total
/-!
# Counting the objects of a request

A count and a listing compile the same rule and so are about the same objects. The listing drops
identifiers that it has shown before, the count counts nodes; the two agree because a node is known
by its label and its identifier (`Graph.count_eq_length_listing`).

Looking a total up has three outcomes (`Page.Lookup`): a total that is still alive is found in the
cache, or the objects are counted and their number is kept, or the request fails and nothing is
kept.
-/

namespace Rebac

/-! ### Counts and listings -/

namespace Graph.Represents

variable {g : Graph} {v : GraphView}

/-- Among the nodes of one label that match, no identifier comes twice, so none is dropped. -/
theorem identifiers_matching (h : g.Represents v) {i : Nat} {subject : Node}
    (hs : v.nodes[i]? = some subject) (plan : Plan) :
    g.identifiers (matching (g.clauseTargets i plan) (g.labelled plan.objectLabel)) =
      (matching (g.clauseTargets i plan) (g.labelled plan.objectLabel)).filterMap
        (fun j => g.nodes[j]?.map (·.id)) := by
  have hnodup := h.nodup_ids_joined plan subject
  rw [← h.filterMap_matching hs plan] at hnodup
  exact eraseDups_of_nodup hnodup

end Graph.Represents

/-- Over the graph of any history, a count returns one row with the number of rows of the listing,
which is zero for a subject that the history does not mention. That the listing shows each
identifier once takes nothing away from it. -/
theorem Graph.count_eq_length_listing (policy : Policy) (r : Request) (history : List Change)
    (hrule : RuleCompiles policy r.objectType r.action) :
    let g := Graph.ofHistory history
    ∃ counting listing rows, r.countQuery policy = .ok counting ∧
      r.filterQuery policy = .ok listing ∧ g.evaluate listing = .ok rows ∧
      g.evaluate counting = .ok [⟨[(Query.totalColumn, .ofNat rows.length)]⟩] ∧
      (g.position? r.subject.node = none → rows = []) ∧
      ∀ i, g.position? r.subject.node = some i →
        let found := matching (g.clauseTargets i listing.plan) (g.labelled listing.plan.objectLabel)
        rows.length = found.length ∧
          g.identifiers found = found.filterMap (fun j => g.nodes[j]?.map (·.id)) := by
  intro g
  have hg : g.Represents (GraphView.ofHistory history) := represents_ofHistory history
  obtain ⟨counting, hcounting, hcounts⟩ := exists_countQuery hrule
  obtain ⟨listing, hlisting, hlists⟩ := exists_filterQuery hrule
  refine ⟨counting, listing, _, hcounting, hlisting, hlists.evaluate_eq hg, ?_, ?_, ?_⟩
  · -- both are as long as what the rule grants
    rw [List.length_map, List.length_map]
    exact hcounts.evaluate_count hg
  · intro hunknown
    have hsubject := hg.position?_eq_none_iff.1 hunknown
    rw [granted_eq_nil hg hrule hsubject]
    rfl
  · intro i hi found
    have hnode : (GraphView.ofHistory history).nodes[i]? = some r.subject.node :=
      (hg.position_iff _ i).1 hi
    have hsubject : (⟨listing.plan.subjectLabel, r.subject.id⟩ : Node) = r.subject.node := by
      rw [hlists.subject_eq]
      rfl
    refine ⟨?_, hg.identifiers_matching hnode listing.plan⟩
    rw [List.length_map, List.length_map, ← hlists.joined_eq, hsubject]
    exact (hg.length_matching hnode listing.plan).symm

/-- Two documents are listed and two are counted. -/
theorem Graph.count_eq_length_listing_docs :
    RuleCompiles Docs.policy "Document" "read" ∧
      ∃ counting, Docs.request.countQuery Docs.policy = .ok counting ∧
        (Graph.ofHistory Docs.history).evaluate counting =
          .ok [⟨[("total", .ofNat 2)]⟩] := by
  have hrule : RuleCompiles Docs.policy "Document" "read" := by decide +kernel
  have hrun : (Docs.request.filterQuery Docs.policy).bind (Graph.ofHistory Docs.history).evaluate =
      .ok (["a", "b"].map Graph.idRow) := by decide +kernel
  obtain ⟨counting, listing, rows, hcounting, hlisting, hrows, htotal, -, -⟩ :=
    count_eq_length_listing Docs.policy Docs.request Docs.history hrule
  have hshown : rows = ["a", "b"].map Graph.idRow := by
    rw [hlisting] at hrun
    exact Except.ok.inj (hrows.symm.trans hrun)
  rw [hshown] at htotal
  exact ⟨hrule, counting, hcounting, htotal⟩

/-! ### Looking a total up -/

/-- A request in two parts is answered only if both are. -/
theorem Access.exists_of_bind_eq_ok {σ α β : Type} {m : Access σ α} {f : α → Access σ β}
    {s s' : Session σ} {b : β} (h : (m >>= f) s = (.ok b, s')) :
    ∃ a s₁, m s = (.ok a, s₁) ∧ f a s₁ = (.ok b, s') := by
  cases ha : (m s).1 with
  | error e =>
    rw [bind_of_eq_error (Prod.ext ha rfl)] at h
    cases h
  | ok a =>
    rw [bind_of_eq_ok (Prod.ext ha rfl)] at h
    exact ⟨a, (m s).2, Prod.ext ha rfl, h⟩

/-- A request compiles to a count only if its rule compiles. -/
theorem ruleCompiles_of_countQuery {policy : Policy} {r : Request} {q : Query}
    (hq : r.countQuery policy = .ok q) : RuleCompiles policy r.objectType r.action := by
  obtain ⟨clauses, hclauses, -⟩ := exists_of_bind_eq_ok hq
  exact ⟨clauses, hclauses⟩

theorem standsFor_of_countQuery {policy : Policy} {r : Request} {q : Query}
    (hq : r.countQuery policy = .ok q) : StandsFor q policy r .countDistinct := by
  obtain ⟨q', hq', hstands⟩ := exists_countQuery (ruleCompiles_of_countQuery hq)
  obtain rfl := Except.ok.inj (hq.symm.trans hq')
  exact hstands

/-- A number that is too large for a word is not taken for another. -/
theorem toNat_of_count_totalRow {n : Nat} {total : UInt64}
    (h : Answer.count [Graph.totalRow n] = .ok total) : total.toNat = n := by
  obtain ⟨row, rest, hrow, hshows⟩ := Answer.count_eq_ok_iff.1 h
  obtain ⟨rfl, -⟩ := List.cons.inj hrow
  have hget : some (Json.Value.ofNat n) = some (.ofNat total.toNat) :=
    Row.get?_eq_some_iff.2 hshows
  exact (Int.ofNat.inj (Json.Number.integer.inj (Json.Value.number.inj (Option.some.inj hget)))).symm

namespace Page

/-- What is found under the key of a request is its total, and nothing else happens. -/
theorem totalCount_of_get? {σ : Type} [Backend σ] {policy : Policy} {r : Request} {s : Session σ}
    {value : Json.Value} {total : UInt64} (hget : s.cache.get? s.now r.cacheKey = some value)
    (hword : value.word? = some total) : totalCount policy r s = (.ok total, s) := by
  rw [totalCount_of_hit hget, hword]

/-- What looking up the total of a request comes to, over a graph with this view. -/
inductive Lookup (policy : Policy) (r : Request) (v : GraphView) (s : Session Graph) :
    Except AccessError UInt64 × Session Graph → Prop where
  /-- It is found in the cache, where it stays. -/
  | found {value : Json.Value} {total : UInt64}
      (hget : s.cache.get? s.now r.cacheKey = some value) (hword : value.word? = some total) :
      Lookup policy r v s (.ok total, s)
  /-- The objects are counted, and their number is kept. -/
  | counted {total : UInt64} (asked : List Query)
      (hrule : RuleCompiles policy r.objectType r.action)
      (htotal : (v.granted policy r).length = total.toNat) :
      Lookup policy r v s (.ok total,
        { s with asked, cache := s.cache.set s.now r.cacheKey (.ofNat total.toNat) })
  /-- There is no answer, and nothing is kept. -/
  | failed (e : AccessError) (asked : List Query) : Lookup policy r v s (.error e, { s with asked })

theorem lookup_totalCount (policy : Policy) (r : Request) {v : GraphView} {s : Session Graph}
    (hg : s.backend.Represents v) : Lookup policy r v s (totalCount policy r s) := by
  cases hget : s.cache.get? s.now r.cacheKey with
  | some value =>
    rw [totalCount_of_hit hget]
    cases hword : value.word? with
    | some total => exact .found hget hword
    | none => exact .failed _ s.asked
  | none =>
    rw [totalCount_of_miss hget]
    unfold recount
    cases hq : r.countQuery policy with
    | error e => exact .failed e s.asked
    | ok q =>
      have hstands := standsFor_of_countQuery hq
      have hrows := Access.ask_of_evaluate (s := s) rfl (hstands.evaluate_count hg)
      rw [Access.ofExcept_ok_bind, Access.bind_of_eq_ok hrows]
      cases htotal : Answer.count [Graph.totalRow (v.granted policy r).length] with
      | error e => exact .failed e _
      | ok total =>
        rw [Access.ofExcept_ok_bind, Access.store_bind]
        exact .counted _ (ruleCompiles_of_countQuery hq) (toNat_of_count_totalRow htotal).symm

end Page

end Rebac
