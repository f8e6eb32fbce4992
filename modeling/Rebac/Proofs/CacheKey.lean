import Mathlib.Algebra.Ring.Nat
import Mathlib.Data.List.Basic
import Rebac.Proofs.Count
/-!
# Which requests share a key

The total of a request is kept under its four names with underscores between them. A name may hold
underscores of its own, so the key does not say where one name ends and the next begins: what can be
read off it are the parts between underscores (`Request.cacheKey_eq_iff`). A request is alone under
its key just when none of its names holds an underscore, and a request that shares the key of
another is answered with the total of the other (`Engine.total_shared_iff`).
-/

namespace Rebac

namespace Request

/-- The names that make up the key of a request. -/
def names (r : Request) : List String := [r.subject.typeName, r.subject.id, r.action, r.objectType]

/-- What stands between the underscores of the names. -/
def keyParts (r : Request) : List (List Char) :=
  r.names.flatMap fun n => n.toList.splitOn '_'

theorem eq_of_names_eq {r other : Request} (h : other.names = r.names) : other = r := by
  obtain ⟨⟨type, id⟩, action, objectType⟩ := r
  obtain ⟨⟨type', id'⟩, action', objectType'⟩ := other
  simp only [names, List.cons.injEq, and_true] at h
  obtain ⟨rfl, rfl, rfl, rfl⟩ := h
  rfl

theorem toList_cacheKey (r : Request) :
    r.cacheKey.toList = r.subject.typeName.toList ++ '_' :: (r.subject.id.toList ++
      '_' :: (r.action.toList ++ '_' :: (r.objectType.toList ++ '_' :: "total".toList))) := by
  simp [cacheKey, String.toList_append]

/-- The parts of a key are those of the names, and its last. -/
theorem splitOn_cacheKey (r : Request) :
    r.cacheKey.toList.splitOn '_' = r.keyParts ++ ["total".toList] := by
  have hlast : "total".toList.splitOn '_' = ["total".toList] := by decide
  rw [toList_cacheKey]
  simp only [List.splitOn_append_cons_self, hlast, keyParts, names, List.flatMap_cons,
    List.flatMap_nil, List.append_assoc, List.nil_append]

/-- Requests have one key when their names have the same parts. -/
theorem cacheKey_eq_iff {r other : Request} :
    other.cacheKey = r.cacheKey ↔ other.keyParts = r.keyParts := by
  constructor
  · intro hkey
    have hparts := splitOn_cacheKey other
    rw [hkey, splitOn_cacheKey] at hparts
    exact (List.append_cancel_right hparts).symm
  · intro hparts
    apply String.toList_injective
    -- a text is what its parts make with underscores between them
    calc other.cacheKey.toList
        = ['_'].intercalate (other.cacheKey.toList.splitOn '_') :=
          (List.intercalate_splitOn '_').symm
      _ = ['_'].intercalate (r.cacheKey.toList.splitOn '_') := by
          rw [splitOn_cacheKey, hparts, ← splitOn_cacheKey]
      _ = r.cacheKey.toList := List.intercalate_splitOn '_'

/-- Names without underscores are parts themselves. -/
theorem keyParts_eq_map {r : Request} (h : ∀ n ∈ r.names, '_' ∉ n.toList) :
    r.keyParts = r.names.map String.toList := by
  have hpart : ∀ n ∈ r.names, n.toList.splitOn '_' = [n.toList] :=
    fun n hn => List.splitOn_eq_singleton (h n hn)
  unfold keyParts
  rw [List.flatMap_congr hpart, List.map_eq_flatMap]

theorem count_cacheKey (r : Request) :
    r.cacheKey.toList.count '_' = (r.names.map fun n => n.toList.count '_').sum + 4 := by
  rw [toList_cacheKey]
  simp [names, List.count_append]
  omega

/-- All underscores of its key are separators. -/
theorem forall_not_mem_iff {r : Request} :
    (∀ n ∈ r.names, '_' ∉ n.toList) ↔ r.cacheKey.toList.count '_' = 4 := by
  rw [count_cacheKey, Nat.add_eq_right, List.sum_eq_zero_iff_forall_eq_nat]
  simp only [List.mem_map, forall_exists_index, and_imp, forall_apply_eq_imp_iff₂,
    List.count_eq_zero]

/-- No other request has the key of one without underscores in its names. -/
theorem eq_of_cacheKey_eq {r other : Request} (h : ∀ n ∈ r.names, '_' ∉ n.toList)
    (hkey : other.cacheKey = r.cacheKey) : other = r := by
  -- the other has as few underscores in its key
  have hother : ∀ n ∈ other.names, '_' ∉ n.toList := by
    rw [forall_not_mem_iff, hkey, ← forall_not_mem_iff]
    exact h
  have hparts := cacheKey_eq_iff.1 hkey
  rw [keyParts_eq_map h, keyParts_eq_map hother] at hparts
  have hinj : Function.Injective String.toList := fun _ _ => String.toList_injective
  exact eq_of_names_eq (List.map_injective_iff.2 hinj hparts)

/-- A name with an underscore comes apart at it, and is not its own beginning or end. -/
theorem exists_split {n : String} (h : '_' ∈ n.toList) :
    ∃ front back : String, n = front ++ "_" ++ back ∧ front ≠ n ∧ back ≠ n := by
  obtain ⟨front, back, hn⟩ := List.append_of_mem h
  refine ⟨String.ofList front, String.ofList back, ?_, ?_, ?_⟩
  · apply String.toList_injective
    simp [hn]
  · rintro rfl
    simpa using congrArg List.length hn
  · rintro rfl
    have hlength := congrArg List.length hn
    simp at hlength
    omega

/-- An underscore in a name may as well be the one that separates it from its neighbour. -/
theorem exists_cacheKey_eq {r : Request} (h : ∃ n ∈ r.names, '_' ∈ n.toList) :
    ∃ other, other ≠ r ∧ other.cacheKey = r.cacheKey := by
  obtain ⟨⟨type, id⟩, action, objectType⟩ := r
  obtain ⟨n, hn, hmem⟩ := h
  obtain ⟨front, back, hsplit, hfront, hback⟩ := exists_split hmem
  simp only [names, List.mem_cons, List.not_mem_nil, or_false] at hn
  rcases hn with rfl | rfl | rfl | rfl
  · refine ⟨⟨⟨front, back ++ "_" ++ id⟩, action, objectType⟩, ?_, ?_⟩
    · simp [hfront]
    · simp [cacheKey, hsplit, String.append_assoc]
  · refine ⟨⟨⟨type ++ "_" ++ front, back⟩, action, objectType⟩, ?_, ?_⟩
    · simp [hback]
    · simp [cacheKey, hsplit, String.append_assoc]
  · refine ⟨⟨⟨type, id ++ "_" ++ front⟩, back, objectType⟩, ?_, ?_⟩
    · simp [hback]
    · simp [cacheKey, hsplit, String.append_assoc]
  · refine ⟨⟨⟨type, id⟩, action ++ "_" ++ front, back⟩, ?_, ?_⟩
    · simp [hback]
    · simp [cacheKey, hsplit, String.append_assoc]

end Request

/-! ### What a shared key does -/

/-- A value can be read as soon as it is written, if it can be read at all. -/
theorem CountCache.get?_set_self {cache : CountCache} {now : Nat} {key : String}
    {value : Json.Value} (h : 0 < cache.lifetime) :
    (cache.set now key value).get? now key = some value := by
  unfold get? set
  rw [Assoc.get?_set_self]
  show (if now - now < cache.lifetime then some value else none) = some value
  rw [Nat.sub_self, if_pos h]

/-- A total that has been looked up is found again. -/
theorem Page.exists_get?_of_totalCount {σ : Type} [Backend σ] {policy : Policy} {r : Request}
    {s s' : Session σ} {total : UInt64} (h : totalCount policy r s = (.ok total, s'))
    (hlifetime : 0 < s.cache.lifetime) :
    ∃ value, s'.cache.get? s'.now r.cacheKey = some value ∧ value.word? = some total := by
  cases hget : s.cache.get? s.now r.cacheKey with
  | some value =>
    rw [totalCount_of_hit hget] at h
    cases hword : value.word? with
    | some found =>
      rw [hword] at h
      obtain ⟨htotal, rfl⟩ := Prod.mk.inj h
      exact ⟨value, hget, hword.trans (congrArg some (Except.ok.inj htotal))⟩
    | none =>
      rw [hword] at h
      cases h
  | none =>
    rw [totalCount_of_miss hget] at h
    -- the parts before the last leave cache and clock as they are
    obtain ⟨q, s₁, hq, h⟩ := Access.exists_of_bind_eq_ok h
    obtain ⟨-, rfl⟩ := Prod.mk.inj hq
    obtain ⟨rows, s₂, hrows, h⟩ := Access.exists_of_bind_eq_ok h
    obtain ⟨-, rfl⟩ := Prod.mk.inj hrows
    obtain ⟨counted, s₃, hcount, h⟩ := Access.exists_of_bind_eq_ok h
    obtain ⟨-, rfl⟩ := Prod.mk.inj hcount
    rw [Access.store_bind] at h
    obtain ⟨htotal, rfl⟩ := Prod.mk.inj h
    obtain rfl : counted = total := Except.ok.inj htotal
    exact ⟨_, CountCache.get?_set_self hlifetime, word?_ofNat_toNat counted⟩

/-- A request shares its key with another just when one of its names holds an underscore, and it
does so with those whose names have the same parts between underscores. Once one of them has been
counted, the others are answered with its total. -/
theorem Engine.total_shared_iff (engine : Engine) (r : Request) :
    ((∃ other, other ≠ r ∧ other.cacheKey = r.cacheKey) ↔ ∃ n ∈ r.names, '_' ∈ n.toList) ∧
      (∀ other : Request, other.cacheKey = r.cacheKey ↔ other.keyParts = r.keyParts) ∧
      ∀ other : Request, other.cacheKey = r.cacheKey →
        ∀ {σ : Type} [Backend σ] (s s' : Session σ) (total : UInt64), 0 < s.cache.lifetime →
          engine.count r s = (.ok total, s') → engine.count other s' = (.ok total, s') := by
  refine ⟨⟨?_, Request.exists_cacheKey_eq⟩, fun other => Request.cacheKey_eq_iff, ?_⟩
  · intro hshared
    obtain ⟨other, hne, hkey⟩ := hshared
    by_contra hnone
    have hall : ∀ n ∈ r.names, '_' ∉ n.toList := fun n hn hmem => hnone ⟨n, hn, hmem⟩
    exact hne (Request.eq_of_cacheKey_eq hall hkey)
  · intro other hkey σ _ s s' total hlifetime htotal
    obtain ⟨value, hget, hword⟩ := Page.exists_get?_of_totalCount htotal hlifetime
    rw [← hkey] at hget
    exact Page.totalCount_of_get? hget hword

/-! ### Two subjects with one key -/

namespace SharedKey

/-- A user owns two documents. -/
def history : List Change :=
  [.addEdge ⟨"User", "eu_7"⟩ "OWNER" ⟨"Document", "a"⟩,
   .addEdge ⟨"User", "eu_7"⟩ "OWNER" ⟨"Document", "b"⟩]

/-- Reading as the user `eu_7`. -/
def owner : Request := ⟨⟨"User", "eu_7"⟩, "read", "Document"⟩

/-- Reading as the user `7` of another type, whom the graph does not know. -/
def stranger : Request := ⟨⟨"User_eu", "7"⟩, "read", "Document"⟩

/-- A session over that graph. -/
def session : Session Graph := ⟨Graph.ofHistory history, .empty 1000 1, 0, []⟩

end SharedKey

/-- The stranger is told how many documents the owner may read. -/
theorem Engine.total_shared_iff_stranger :
    SharedKey.stranger.cacheKey = SharedKey.owner.cacheKey ∧
      0 < SharedKey.session.cache.lifetime ∧
      ∃ s', (ofPolicy Docs.policy).count SharedKey.owner SharedKey.session = (.ok 2, s') ∧
        (ofPolicy Docs.policy).count SharedKey.stranger s' = (.ok 2, s') := by
  have hkey : SharedKey.stranger.cacheKey = SharedKey.owner.cacheKey := by decide +kernel
  have hlifetime : 0 < SharedKey.session.cache.lifetime := by decide +kernel
  have htotal : ((ofPolicy Docs.policy).count SharedKey.owner SharedKey.session).1 = .ok 2 := by
    decide +kernel
  have hcount := (total_shared_iff (ofPolicy Docs.policy) SharedKey.owner).2.2 SharedKey.stranger
    hkey SharedKey.session _ 2 hlifetime (Prod.ext htotal rfl)
  exact ⟨hkey, hlifetime, _, Prod.ext htotal rfl, hcount⟩

/-- Two requests for different subjects have one key, so the key is not injective: the stranger may
read no document, and is told so unless the owner has been counted before. -/
theorem Request.cacheKey_not_injective :
    ¬ Function.Injective Request.cacheKey ∧
      let engine := Engine.ofPolicy Docs.policy
      (engine.filter SharedKey.stranger SharedKey.session).1 = .ok [] ∧
      (engine.count SharedKey.stranger SharedKey.session).1 = .ok 0 ∧
      (engine.count SharedKey.stranger
        (engine.count SharedKey.owner SharedKey.session).2).1 = .ok 2 := by
  refine ⟨?_, by decide +kernel, by decide +kernel, by decide +kernel⟩
  intro hinj
  have hne : SharedKey.stranger ≠ SharedKey.owner := by decide
  exact hne (hinj (by decide +kernel))

end Rebac
