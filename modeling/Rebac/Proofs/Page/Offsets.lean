import Mathlib.Data.Set.Lattice
import Mathlib.Data.Set.Pairwise.Basic
import Mathlib.Order.CompletePartialOrder
import Mathlib.Order.Interval.Set.Basic
import Rebac.Proofs.Page.Run
/-!
# The offsets on a page

A page shows the objects at `limit` places of a listing, from the place that its number gives. In
exact numbers the pages that exist lie one after the other and leave nothing out
(`Page.offsets_tile`). The words in which this is computed neither wrap around nor saturate for any
total and any size, because only pages are asked for that begin before the total.
-/

namespace Rebac.Page

/-- The numbers of the pages that exist. -/
def numbers (total limit : UInt64) : Set UInt64 :=
  {page | 1 ≤ page.toNat ∧ page.toNat ≤ (totalPages total limit).toNat}

/-- The places of a listing that a page shows. -/
def offsets (limit page : UInt64) : Set Nat :=
  Set.Ico (skip page limit).toNat ((skip page limit).toNat + limit.toNat)

variable {total limit page : UInt64} {offset : Nat}

/-- The numbers of pages that exist are those that do not come after the last. -/
theorem not_totalPages_lt (h : page ∈ numbers total limit) : ¬ totalPages total limit < page := by
  rw [UInt64.lt_iff_toNat_lt]
  exact Nat.not_lt.2 h.2

/-- A page that exists begins where the pages before it end. -/
theorem toNat_skip_of_mem (hlimit : 0 < limit.toNat) (h : page ∈ numbers total limit) :
    (skip page limit).toNat = (page.toNat - 1) * limit.toNat :=
  toNat_skip hlimit h.1 (not_totalPages_lt h)

/-- It begins before the total. -/
theorem toNat_skip_lt (hlimit : 0 < limit.toNat) (h : page ∈ numbers total limit) :
    (skip page limit).toNat < total.toNat := by
  have hlast : page.toNat ≤ count total.toNat limit.toNat := by
    rw [← toNat_totalPages hlimit]
    exact h.2
  have hfirst : 1 ≤ page.toNat := h.1
  rw [toNat_skip_of_mem hlimit h, ← lt_count_iff hlimit]
  omega

/-- On which page a place is. -/
theorem mem_offsets_iff (hlimit : 0 < limit.toNat) (h : page ∈ numbers total limit) :
    offset ∈ offsets limit page ↔ offset / limit.toNat + 1 = page.toNat := by
  have hfirst : 1 ≤ page.toNat := h.1
  have hquotient : offset / limit.toNat + 1 = page.toNat ↔
      offset / limit.toNat = page.toNat - 1 := by omega
  unfold offsets
  rw [toNat_skip_of_mem hlimit h, hquotient, Nat.div_eq_iff hlimit, Set.mem_Ico]
  omega

/-- Two pages show no place in common. -/
theorem eq_of_mem_offsets {other : UInt64} (hlimit : 0 < limit.toNat)
    (h : page ∈ numbers total limit) (hother : other ∈ numbers total limit)
    (hoffset : offset ∈ offsets limit page) (hoffset' : offset ∈ offsets limit other) :
    page = other := by
  rw [mem_offsets_iff hlimit h] at hoffset
  rw [mem_offsets_iff hlimit hother] at hoffset'
  rw [← UInt64.toNat_inj, ← hoffset, ← hoffset']

/-- The places that all pages together have room for. -/
theorem exists_page_iff (hlimit : 0 < limit.toNat) :
    (∃ page ∈ numbers total limit, offset ∈ offsets limit page) ↔
      offset < (totalPages total limit).toNat * limit.toNat := by
  rw [← Nat.div_lt_iff_lt_mul hlimit]
  constructor
  · rintro ⟨page, hpage, hoffset⟩
    have hnumber := (mem_offsets_iff hlimit hpage).1 hoffset
    have hlast := hpage.2
    omega
  · intro hlt
    -- the number of the page is a word, since that of the last page is one
    have hword : offset / limit.toNat + 1 < UInt64.size := by
      have hlast := (totalPages total limit).toNat_lt_size
      omega
    have hback : (offset / limit.toNat + 1).toUInt64.toNat = offset / limit.toNat + 1 :=
      UInt64.toNat_ofNat_of_lt' hword
    have hpage : (offset / limit.toNat + 1).toUInt64 ∈ numbers total limit := by
      show 1 ≤ _ ∧ _ ≤ _
      rw [hback]
      exact ⟨Nat.le_add_left 1 _, hlt⟩
    exact ⟨_, hpage, (mem_offsets_iff hlimit hpage).2 hback.symm⟩

/-- Cutting `total` objects into pages of `limit` is exact in words. There are just as many pages as
are needed; a page that exists begins where the pages before it end, and before the total; no place
is on two pages, and the places on them are those below the last one's end, so that each place
below the total is on one page. A page that is asked for by a signed number is one of these, and the
query for it leaves out as many objects. -/
theorem offsets_tile (total limit : UInt64) (hlimit : 0 < limit) :
    total.toNat ≤ (totalPages total limit).toNat * limit.toNat ∧
      (0 < totalPages total limit →
        ((totalPages total limit).toNat - 1) * limit.toNat < total.toNat) ∧
      (∀ page ∈ numbers total limit,
        (skip page limit).toNat = (page.toNat - 1) * limit.toNat ∧
          (skip page limit).toNat < total.toNat) ∧
      (numbers total limit).PairwiseDisjoint (offsets limit) ∧
      ⋃ page ∈ numbers total limit, offsets limit page =
        Set.Iio ((totalPages total limit).toNat * limit.toNat) ∧
      (∀ offset < total.toNat, ∃! page, page ∈ numbers total limit ∧ offset ∈ offsets limit page) ∧
      ∀ (size page : Int64), limit = size.toUInt64 → 0 < size → 0 < page →
        page.toInt ≤ (totalPages total limit).toNat →
        ∀ {σ : Type} [Backend σ] (policy : Policy) (r : Request) (q : Query) (s s' : Session σ),
          r.filterQuery policy = .ok q → totalCount policy r s = (.ok total, s') →
          ∃ before : UInt64, before.toNat = (page.toInt.toNat - 1) * size.toInt.toNat ∧
            window policy r size page s =
              (.ok ⟨q.withWindow before limit, totalPages total limit⟩, s') := by
  have hpos : 0 < limit.toNat := UInt64.lt_iff_toNat_lt.1 hlimit
  have hpages : (totalPages total limit).toNat = count total.toNat limit.toNat :=
    toNat_totalPages hpos
  have hroom : total.toNat ≤ (totalPages total limit).toNat * limit.toNat := by
    rw [hpages]
    exact le_count_mul hpos
  refine ⟨hroom, ?_, ?_, ?_, ?_, ?_, ?_⟩
  · intro hsome
    rw [UInt64.lt_iff_toNat_lt, hpages] at hsome
    rw [hpages]
    exact (lt_count_iff hpos).1 (by omega)
  · intro page hpage
    exact ⟨toNat_skip_of_mem hpos hpage, toNat_skip_lt hpos hpage⟩
  · intro page hpage other hother hne
    refine Set.disjoint_left.2 ?_
    intro offset hoffset hoffset'
    exact hne (eq_of_mem_offsets hpos hpage hother hoffset hoffset')
  · ext offset
    simp only [Set.mem_iUnion, exists_prop, Set.mem_Iio]
    exact exists_page_iff hpos
  · intro offset hoffset
    obtain ⟨page, hpage, hmem⟩ := (exists_page_iff hpos).2 (Nat.lt_of_lt_of_le hoffset hroom)
    refine ⟨page, ⟨hpage, hmem⟩, ?_⟩
    rintro other ⟨hother, hmem'⟩
    exact eq_of_mem_offsets hpos hother hpage hmem' hmem
  · rintro size page rfl hsize hpage hle σ _ policy r q s s' hq htotal
    have hnumber : page.toUInt64.toNat = page.toInt.toNat := toNat_toUInt64_eq hpage
    have hexists : ¬ totalPages total size.toUInt64 < page.toUInt64 := by
      rw [UInt64.lt_iff_toNat_lt]
      omega
    refine ⟨skip page.toUInt64 size.toUInt64, ?_, ?_⟩
    · rw [toNat_skip hpos (toNat_toUInt64_pos hpage) hexists, hnumber, toNat_toUInt64_eq hsize]
    · rw [window_eq (Int64.not_le.2 hpage) (Int64.not_le.2 hsize) hq htotal, if_neg hexists]

/-- The last of three pages begins one place before the greatest total, and its end is no word. -/
theorem offsets_tile_greatest :
    let total : UInt64 := 18446744073709551615
    let limit : UInt64 := 9223372036854775807
    0 < limit ∧ 3 ∈ numbers total limit ∧ UInt64.size < 3 * limit.toNat ∧
      (skip 3 limit).toNat = 2 * limit.toNat ∧ (skip 3 limit).toNat + 1 = total.toNat := by
  intro total limit
  have hlimit : 0 < limit := by decide
  have hlast : 3 ∈ numbers total limit := by
    show 1 ≤ (3 : UInt64).toNat ∧ (3 : UInt64).toNat ≤ (totalPages total limit).toNat
    decide
  obtain ⟨-, -, hskip, -⟩ := offsets_tile total limit hlimit
  have hthird := (hskip 3 hlast).1
  refine ⟨hlimit, hlast, by decide, hthird, ?_⟩
  rw [hthird]
  decide

end Rebac.Page
