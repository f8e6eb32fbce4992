import Rebac.Proofs.PointCheck
import Rebac.Proofs.Rule.Fault
import Rebac.Proofs.Staleness
/-!
# Why a request fails

Over a graph in memory no query fails, every row is as the reader of answers expects it, and a run
that begins with an empty cache keeps nothing but counts there (`Engine.Reached.word?_of_get?`). So
a request fails only for what it asks (`Engine.fails_only_by_request`): its rule does not compile
(`AccessError.FromRule`), a point check is about something that the graph does not hold, or there is
no such page (`Engine.PageFails`).
-/

namespace Rebac

/-! ### Rules that do not compile -/

/-- The ways in which the rule of an action does not compile; each error names what is wrong. -/
inductive AccessError.FromRule (policy : Policy) (objectType action : String) :
    AccessError → Prop where
  /-- There is no such action. -/
  | action (h : policy.action? objectType action = none) :
    FromRule policy objectType action (.actionNotFound objectType action)
  /-- A clause names a relation that is not declared on the type. -/
  | relation {text relation : String} {clause : Clause}
    (hmem : text ∈ policy.clauseTexts objectType action) (hparse : Clause.parse text = .ok clause)
    (h : clause.pattern objectType policy = .error (.relationNotFound objectType relation)) :
    FromRule policy objectType action (.relationNotFound objectType relation)
  /-- A text between two separators is not a clause. -/
  | clause {text clause : String} (hmem : text ∈ policy.clauseTexts objectType action)
    (hparse : Clause.parse text = .error (.malformedClause clause)) :
    FromRule policy objectType action (.malformedClause clause)

section Rules

variable {policy : Policy} {objectType action : String} {audited : Bool} {e : AccessError}

/-- Such an error is only given where the rule does not compile. -/
theorem AccessError.FromRule.not_ruleCompiles (h : e.FromRule policy objectType action) :
    ¬ RuleCompiles policy objectType action := by
  intro hrule
  cases h with
  | action hnone =>
    obtain ⟨clauses, hclauses⟩ := hrule
    obtain ⟨hfound, -⟩ := compileRule_eq_ok_iff.1 hclauses
    rw [hnone] at hfound
    cases hfound
  | relation hmem hparse hnone =>
    obtain ⟨pattern, clause, hclause, hpattern⟩ := hrule.exists_denotes hmem
    obtain rfl := Except.ok.inj (hparse.symm.trans hclause)
    rw [hnone] at hpattern
    cases hpattern
  | clause hmem hparse =>
    obtain ⟨pattern, clause, hclause, -⟩ := hrule.exists_denotes hmem
    rw [hparse] at hclause
    cases hclause

/-- What is wrong with a rule is wrong with one of its clauses. -/
theorem fromRule_of_compileRule (h : compileRule objectType action audited policy = .error e) :
    e.FromRule policy objectType action := by
  cases (compileRule_eq_error_iff audited).1 h with
  | action hnone => exact .action (Policy.action?_eq_none_iff.2 hnone)
  | clause hfound hfirst =>
    obtain ⟨text, hmem, hfails⟩ := hfirst.exists_mem
    rw [← Policy.clauseTexts_eq hfound] at hmem
    cases hfails with
    | malformed hnone => exact .clause hmem (Clause.parse_eq_error_iff.2 ⟨hnone, rfl⟩)
    | undeclared hparse hnone =>
      have hpattern := Clause.pattern_eq_error_iff.2
        ⟨Policy.relation?_eq_none_iff.2 hnone, rfl⟩
      exact .relation hmem hparse hpattern

end Rules

/-- A point check fails to compile as its rule does. -/
theorem fromRule_of_accessQuery {policy : Policy} {action : String} {subject object : Entity}
    {e : AccessError} (h : Query.access subject action object policy = .error e) :
    e.FromRule policy object.typeName action := by
  rcases error_of_bind_eq_error h with hrule | ⟨clauses, -, h⟩
  · exact fromRule_of_compileRule hrule
  · cases h

/-- So do a listing and a count. -/
theorem fromRule_of_overObjects {policy : Policy} {r : Request} {separator returns : String}
    {projection : Projection} {e : AccessError}
    (h : Query.overObjects r.subject r.action r.objectType policy separator projection returns =
      .error e) :
    e.FromRule policy r.objectType r.action := by
  rcases error_of_bind_eq_error h with hrule | ⟨clauses, -, h⟩
  · exact fromRule_of_compileRule hrule
  · cases h

/-! ### Requests over a graph -/

namespace Engine

/-- Why there is no page to be shown. -/
inductive PageFails (policy : Policy) (r : Request) (limit page : Int64) : AccessError → Prop where
  /-- Pages are counted from one. -/
  | page (h : page ≤ 0) : PageFails policy r limit page (.invalidPage page)
  /-- Something is on each. -/
  | limit (h : limit ≤ 0) : PageFails policy r limit page (.invalidLimit limit)
  | rule {e : AccessError} (h : e.FromRule policy r.objectType r.action) :
    PageFails policy r limit page e
  /-- There are fewer. -/
  | missing (total : UInt64) (h : (total.toNat : Int) < page.toInt) :
      PageFails policy r limit page (.pageOutOfRange page total)

section Requests

variable {engine : Engine} {r : Request} {limit page : Int64} {v : GraphView} {s : Session Graph}
  {e : AccessError}

/-- A point check fails if its rule does not compile, and else only if the graph does not hold both
the subject and the object. -/
theorem check_error {subject object : Entity} {action : String} (hg : s.backend.Represents v)
    (h : (engine.check subject action object s).1 = .error e) :
    e.FromRule engine.policy object.typeName action ∨
      RuleCompiles engine.policy object.typeName action ∧ e = .noResult ∧
        (s.backend.position? subject.node = none ∨ s.backend.position? object.node = none) := by
  cases hq : Query.access subject action object engine.policy with
  | error e' =>
    unfold check at h
    rw [hq, Access.ofExcept_error_bind] at h
    obtain rfl : e' = e := Except.error.inj h
    exact Or.inl (fromRule_of_accessQuery hq)
  | ok q =>
    have hrule := ruleCompiles_of_accessQuery hq
    -- what a check answers depends only on whether the graph holds both nodes
    rw [check_eq hrule hg] at h
    split at h
    · cases h
    · next hmissing =>
      obtain rfl : AccessError.noResult = e := Except.error.inj h
      refine Or.inr ⟨hrule, rfl, ?_⟩
      rw [hg.position?_eq_none_iff, hg.position?_eq_none_iff]
      exact not_and_or.1 hmissing

/-- A listing fails only if its rule does not compile. -/
theorem filter_error (hg : s.backend.Represents v) (h : (engine.filter r s).1 = .error e) :
    e.FromRule engine.policy r.objectType r.action := by
  cases hq : r.filterQuery engine.policy with
  | error e' =>
    unfold filter at h
    rw [hq, Access.ofExcept_error_bind] at h
    obtain rfl : e' = e := Except.error.inj h
    exact fromRule_of_overObjects hq
  | ok q =>
    rw [filter_of_represents (ruleCompiles_of_filterQuery hq) hg] at h
    cases h

/-- No more objects are granted than there are nodes. -/
theorem length_granted_le {g : Graph} (hg : g.Represents v) (policy : Policy) (r : Request) :
    (v.granted policy r).length ≤ g.nodeCount := by
  unfold Graph.nodeCount
  rw [hg.size_eq]
  exact List.length_filter_le _ _

/-- As long as the cache holds nothing but counts, a total fails only if its rule does not compile.
-/
theorem totalCount_error (hg : s.backend.Represents v)
    (hsize : s.backend.nodeCount < UInt64.size)
    (hcache : ∀ value, s.cache.get? s.now r.cacheKey = some value → ∃ n, value.word? = some n)
    (h : (Page.totalCount engine.policy r s).1 = .error e) :
    e.FromRule engine.policy r.objectType r.action := by
  cases hget : s.cache.get? s.now r.cacheKey with
  | some value =>
    obtain ⟨n, hword⟩ := hcache value hget
    rw [Page.totalCount_of_get? hget hword] at h
    cases h
  | none =>
    rw [Page.totalCount_of_miss hget] at h
    unfold Page.recount at h
    cases hq : r.countQuery engine.policy with
    | error e' =>
      rw [hq, Access.ofExcept_error_bind] at h
      obtain rfl : e' = e := Except.error.inj h
      exact fromRule_of_overObjects hq
    | ok q =>
      -- the number of objects is a word, so it is read off the row
      have hrows := Access.ask_of_evaluate (s := s) rfl
        ((standsFor_of_countQuery hq).evaluate_count hg)
      have hlength := (length_granted_le hg engine.policy r).trans_lt hsize
      rw [hq, Access.ofExcept_ok_bind, Access.bind_of_eq_ok hrows, count_totalRow hlength] at h
      cases h

/-- Looking a total up leaves the graph as it is. -/
theorem backend_totalCount (hg : s.backend.Represents v) (policy : Policy) (r : Request) :
    (Page.totalCount policy r s).2.backend = s.backend := by
  have hlookup := Page.lookup_totalCount policy r hg
  generalize Page.totalCount policy r s = result at hlookup ⊢
  cases hlookup <;> rfl

/-- A page fails for what is asked: where it exists, it is shown. -/
theorem filterPaginated_error (hg : s.backend.Represents v)
    (hsize : s.backend.nodeCount < UInt64.size)
    (hcache : ∀ value, s.cache.get? s.now r.cacheKey = some value → ∃ n, value.word? = some n)
    (h : (engine.filterPaginated r limit page s).1 = .error e) :
    PageFails engine.policy r limit page e := by
  -- in the order in which the arguments are looked at
  by_cases hpage : page ≤ 0
  · unfold filterPaginated at h
    rw [Access.bind_of_eq_error (Page.window_of_page_le hpage)] at h
    cases h
    exact .page hpage
  by_cases hlimit : limit ≤ 0
  · unfold filterPaginated at h
    rw [Access.bind_of_eq_error (Page.window_of_limit_le hpage hlimit)] at h
    cases h
    exact .limit hlimit
  have hp : 0 < page := Int64.not_le.1 hpage
  have hl : 0 < limit := Int64.not_le.1 hlimit
  cases hq : r.filterQuery engine.policy with
  | error e' =>
    unfold filterPaginated at h
    rw [Access.bind_of_eq_error (Page.window_of_filterQuery_error hpage hlimit hq)] at h
    obtain rfl : e' = e := Except.error.inj h
    exact .rule (fromRule_of_overObjects hq)
  | ok q =>
    -- the count compiles when the listing does, so a total is found
    have hrule := ruleCompiles_of_filterQuery hq
    cases htotal : (Page.totalCount engine.policy r s).1 with
    | error e' => exact absurd hrule (totalCount_error hg hsize hcache htotal).not_ruleCompiles
    | ok total =>
      have hlookup : Page.totalCount engine.policy r s = (.ok total, _) := Prod.ext htotal rfl
      have hback := backend_totalCount hg engine.policy r
      obtain ⟨asked, hanswer⟩ := filterPaginated_of_totalCount hp hl hq hg rfl hlookup hback
      rw [hanswer] at h
      -- of the pages only those that exist are shown
      by_cases hmissing : Page.totalPages total limit.toUInt64 < page.toUInt64
      · cases (if_pos hmissing).symm.trans h
        refine .missing _ ?_
        rw [← Page.toNat_toUInt64_of_pos hp]
        exact Int.ofNat_lt.2 (UInt64.lt_iff_toNat_lt.1 hmissing)
      · cases (if_neg hmissing).symm.trans h

end Requests

/-! ### Runs -/

/-- Whatever a run that begins with an empty cache finds there is a count. -/
theorem Reached.word?_of_get? {engine : Engine} {history : List Change} {timeToLive start : Nat}
    {steps : List RunStep} {s : Session Graph}
    (h : engine.Reached history timeToLive start steps s) {key : String} {value : Json.Value}
    (hget : s.cache.get? s.now key = some value) : ∃ n, value.word? = some n := by
  obtain ⟨entry, hentry, rfl, -⟩ := CountCache.exists_entry_of_get? hget
  obtain ⟨r, -, -, earlier, recent, -, -, total, hvalue, -⟩ := h.remembers _ _ hentry
  rw [hvalue]
  exact ⟨total, word?_ofNat_toNat total⟩

/-- Whatever graph an engine begins with, and with an empty cache: after any run, a point check
fails only if its rule does not compile or if the graph does not hold both the subject and the
object, a listing and a count fail only if their rule does not compile, and a page fails only if its
rule does not compile or there is no such page. The number of nodes in memory is a word. -/
theorem fails_only_by_request (engine : Engine) (history : List Change)
    (timeToLive capacity start : Nat) (steps : List RunStep) :
    let s := engine.run ⟨Graph.ofHistory history, .empty timeToLive capacity, start, []⟩ steps
    (∀ subject action object e, (engine.check subject action object s).1 = .error e →
      e.FromRule engine.policy object.typeName action ∨
        RuleCompiles engine.policy object.typeName action ∧ e = .noResult ∧
          (s.backend.position? subject.node = none ∨ s.backend.position? object.node = none)) ∧
    (∀ r e, (engine.filter r s).1 = .error e →
      e.FromRule engine.policy r.objectType r.action) ∧
    (s.backend.nodeCount < UInt64.size →
      (∀ r e, (engine.count r s).1 = .error e →
        e.FromRule engine.policy r.objectType r.action) ∧
      (∀ r limit page e, (engine.filterPaginated r limit page s).1 = .error e →
        PageFails engine.policy r limit page e) ∧
      ∀ r page e, (engine.filterPage r page s).1 = .error e →
        PageFails engine.policy r engine.pageSize page e) := by
  intro s
  have hreached : engine.Reached history timeToLive start steps s :=
    (Reached.start_session capacity []).run steps
  have hg := hreached.represents
  refine ⟨fun _ _ _ _ => check_error hg, fun _ _ => filter_error hg, fun hsize => ⟨?_, ?_, ?_⟩⟩
  · intro r e
    exact totalCount_error hg hsize fun value hget => hreached.word?_of_get? hget
  · intro r limit page e
    exact filterPaginated_error hg hsize fun value hget => hreached.word?_of_get? hget
  · intro r page e
    exact filterPaginated_error hg hsize fun value hget => hreached.word?_of_get? hget

/-- After two documents have been counted and a third has been given to the user, a second page of
two is refused, because the count is kept; a check of someone unknown has no result. -/
theorem fails_only_by_request_docs :
    let engine := ofPolicy Docs.policy
    let s := engine.run Docs.session Docs.recount
    s.backend.nodeCount < UInt64.size ∧
      (engine.filterPaginated Docs.request 2 2 s).1 = .error (.pageOutOfRange 2 1) ∧
      PageFails Docs.policy Docs.request 2 2 (.pageOutOfRange 2 1) ∧
      (engine.check ⟨"user", "2"⟩ "read" ⟨"Document", "a"⟩ s).1 = .error .noResult ∧
      (s.backend.position? ⟨"User", "2"⟩ = none ∨
        s.backend.position? ⟨"Document", "a"⟩ = none) := by
  intro engine s
  have hsize : s.backend.nodeCount < UInt64.size := by decide +kernel
  have hpage : (engine.filterPaginated Docs.request 2 2 s).1 = .error (.pageOutOfRange 2 1) := by
    decide +kernel
  have hcheck : (engine.check ⟨"user", "2"⟩ "read" ⟨"Document", "a"⟩ s).1 = .error .noResult := by
    decide +kernel
  obtain ⟨hchecks, -, hcounts⟩ :=
    fails_only_by_request engine Docs.history 1000 1 0 Docs.recount
  refine ⟨hsize, hpage, (hcounts hsize).2.1 _ _ _ _ hpage, hcheck, ?_⟩
  rcases hchecks _ _ _ _ hcheck with hrule | hunknown
  · exact absurd (by decide +kernel) hrule.not_ruleCompiles
  · exact hunknown.2.2

end Engine

end Rebac
