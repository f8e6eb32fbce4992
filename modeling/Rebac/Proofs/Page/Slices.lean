import Rebac.Page
/-!
# Cutting a listing into pages

The pages of a listing are its slices of one size (`Page.slices`): put together they are the listing
(`Page.flatten_slices`), and only the last may be shorter. The words that an engine computes with
agree with this: the number of pages is never rounded wrongly (`Page.toNat_totalPages`), and the
number of objects before a page that exists never saturates (`Page.toNat_skip`).
-/

namespace Rebac

namespace Page

/-! ### How many pages there are -/

/-- How many pages of `size` objects hold `total` objects. -/
def count (total size : Nat) : Nat := (total + size - 1) / size

/-- There is a page with number `k`, counted from zero, when there is an object to begin it. -/
theorem lt_count_iff {total size : Nat} (hsize : 0 < size) {k : Nat} :
    k < count total size ↔ k * size < total := by
  unfold count
  -- page `k` exists when `k + 1` pages fit into what was rounded up
  rw [Nat.lt_iff_add_one_le, Nat.le_div_iff_mul_le hsize, Nat.add_mul]
  omega

/-- All objects have room on the pages. -/
theorem le_count_mul {total size : Nat} (hsize : 0 < size) : total ≤ count total size * size := by
  have h : ¬ count total size < count total size := Nat.lt_irrefl _
  rw [lt_count_iff hsize] at h
  omega

/-! ### What is on them -/

section Slices

variable {α : Type} {xs page : List α} {size k : Nat}

/-- What is on the page with number `k`, counted from zero. -/
def slice (xs : List α) (size k : Nat) : List α := (xs.drop (k * size)).take size

/-- All pages. -/
def slices (xs : List α) (size : Nat) : List (List α) :=
  (List.range (count xs.length size)).map (slice xs size)

theorem length_slices : (slices xs size).length = count xs.length size := by
  simp [slices]

theorem getElem?_slices_eq_some_iff :
    (slices xs size)[k]? = some page ↔ k < count xs.length size ∧ slice xs size k = page := by
  unfold slices
  rw [List.getElem?_map, Option.map_eq_some_iff]
  constructor
  · intro hget
    obtain ⟨i, hi, hpage⟩ := hget
    obtain ⟨hlt, hnumber⟩ := List.getElem?_eq_some_iff.1 hi
    rw [List.getElem_range] at hnumber
    rw [List.length_range] at hlt
    rw [← hnumber] at hpage
    exact ⟨hlt, hpage⟩
  · intro h
    exact ⟨k, List.getElem?_range h.1, h.2⟩

/-- The first pages hold the first objects. -/
theorem flatten_map_slice (n : Nat) :
    ((List.range n).map (slice xs size)).flatten = xs.take (n * size) := by
  induction n with
  | zero => simp
  | succ n ih =>
    rw [List.range_succ, List.map_append, List.flatten_append, ih, Nat.add_mul, Nat.one_mul,
      List.take_add]
    simp [slice]

/-- The pages put together are what was cut into them. -/
theorem flatten_slices (hsize : 0 < size) : (slices xs size).flatten = xs := by
  unfold slices
  rw [flatten_map_slice]
  exact List.take_of_length_le (le_count_mul hsize)

theorem length_slice : (slice xs size k).length = min size (xs.length - k * size) := by
  simp [slice]

/-- No page is empty. -/
theorem length_slice_pos (hsize : 0 < size) (hk : k < count xs.length size) :
    1 ≤ (slice xs size k).length := by
  have hbegin : k * size < xs.length := (lt_count_iff hsize).1 hk
  rw [length_slice]
  omega

/-- What stands where on a page. -/
theorem getElem?_slice {i : Nat} (hi : i < size) :
    (slice xs size k)[i]? = xs[k * size + i]? := by
  unfold slice
  rw [List.getElem?_take_of_lt hi, List.getElem?_drop]

theorem length_slice_le : (slice xs size k).length ≤ size := by
  rw [length_slice]
  exact Nat.min_le_left _ _

/-- A page that another follows is full. -/
theorem length_slice_of_succ_lt (hsize : 0 < size) (hk : k + 1 < count xs.length size) :
    (slice xs size k).length = size := by
  have hnext : (k + 1) * size < xs.length := (lt_count_iff hsize).1 hk
  rw [Nat.add_mul, Nat.one_mul] at hnext
  rw [length_slice]
  omega

end Slices

/-! ### The same in words -/

/-- A positive number is the same word. -/
theorem toNat_toUInt64_of_pos {n : Int64} (h : 0 < n) : (n.toUInt64.toNat : Int) = n.toInt := by
  have hpos : 0 < n.toInt := Int64.lt_iff_toInt_lt.1 h
  have hcond := BitVec.toInt_eq_toNat_cond n.toBitVec
  have hint : n.toInt = n.toBitVec.toInt := rfl
  have hnat : n.toUInt64.toNat = n.toBitVec.toNat := rfl
  have hlt := n.toBitVec.isLt
  rw [hint] at hpos ⊢
  rw [hnat]
  split at hcond <;> omega

theorem toNat_toUInt64_eq {n : Int64} (h : 0 < n) : n.toUInt64.toNat = n.toInt.toNat := by
  have hword := toNat_toUInt64_of_pos h
  omega

theorem toNat_toUInt64_pos {n : Int64} (h : 0 < n) : 0 < n.toUInt64.toNat := by
  have hpos : 0 < n.toInt := Int64.lt_iff_toInt_lt.1 h
  have hword := toNat_toUInt64_of_pos h
  omega

theorem toNat_totalPages {total limit : UInt64} (hlimit : 0 < limit.toNat) :
    (totalPages total limit).toNat = count total.toNat limit.toNat := by
  have hdivmod := Nat.div_add_mod' total.toNat limit.toNat
  have hmod : total.toNat % limit.toNat < limit.toNat := Nat.mod_lt _ hlimit
  have hzero : total % limit = 0 ↔ total.toNat % limit.toNat = 0 := by
    rw [← UInt64.toNat_inj, UInt64.toNat_mod]
    exact Iff.rfl
  unfold totalPages
  by_cases h : total % limit = 0
  · have hexact := hzero.1 h
    rw [if_pos h, UInt64.toNat_div]
    symm
    apply Nat.div_eq_of_lt_le
    · omega
    · rw [Nat.add_mul]
      omega
  · have hrest : total.toNat % limit.toNat ≠ 0 := fun hrest => h (hzero.2 hrest)
    -- a remainder is left only if there are fewer pages than objects
    have hfits : total.toNat / limit.toNat + 1 < 2 ^ 64 := by
      have hone : limit.toNat ≠ 1 := by
        intro hone
        rw [hone, Nat.mod_one] at hrest
        exact hrest rfl
      have hpos : 0 < total.toNat := by
        apply Nat.pos_of_ne_zero
        intro hnone
        rw [hnone, Nat.zero_mod] at hrest
        exact hrest rfl
      have hlt : total.toNat / limit.toNat < total.toNat := Nat.div_lt_self hpos (by omega)
      have hword : total.toNat < 2 ^ 64 := total.toNat_lt
      omega
    rw [if_neg h, UInt64.toNat_add, UInt64.toNat_div]
    show (total.toNat / limit.toNat + 1) % 2 ^ 64 = _
    rw [Nat.mod_eq_of_lt hfits]
    symm
    apply Nat.div_eq_of_lt_le
    · rw [Nat.add_mul]
      omega
    · rw [Nat.add_mul, Nat.add_mul]
      omega

/-- The number of pages is the right one. -/
theorem toNat_totalPages_of_pos {limit : Int64} (hlimit : 0 < limit) (total : UInt64) :
    (totalPages total limit.toUInt64).toNat = count total.toNat limit.toInt.toNat := by
  rw [toNat_totalPages (toNat_toUInt64_pos hlimit), toNat_toUInt64_eq hlimit]

/-- In words as in numbers: a page comes after the last that the total fills. -/
theorem totalPages_lt_iff {total : UInt64} {limit page : Int64} (hpage : 0 < page)
    (hlimit : 0 < limit) :
    totalPages total limit.toUInt64 < page.toUInt64 ↔
      count total.toNat limit.toInt.toNat < page.toInt := by
  rw [UInt64.lt_iff_toNat_lt, toNat_totalPages_of_pos hlimit, ← toNat_toUInt64_of_pos hpage,
    Int.ofNat_lt]

theorem toNat_saturatingMul (a b : UInt64) :
    (saturatingMul a b).toNat = min (a.toNat * b.toNat) (UInt64.size - 1) := by
  unfold saturatingMul
  rw [UInt64.toNat_ofNat_of_lt']
  have h : min (a.toNat * b.toNat) (UInt64.size - 1) ≤ UInt64.size - 1 := Nat.min_le_right _ _
  have hsize : 0 < UInt64.size := by decide
  omega

/-- Before a page that exists there stand as many objects as the pages before it hold. -/
theorem toNat_skip {total page limit : UInt64} (hlimit : 0 < limit.toNat) (hpage : 0 < page.toNat)
    (hexists : ¬ totalPages total limit < page) :
    (skip page limit).toNat = (page.toNat - 1) * limit.toNat := by
  -- what stands before the page is less than the total, and the total is a word
  have hlt : page.toNat - 1 < count total.toNat limit.toNat := by
    rw [UInt64.lt_iff_toNat_lt, toNat_totalPages hlimit] at hexists
    omega
  have hbegin : (page.toNat - 1) * limit.toNat < total.toNat := (lt_count_iff hlimit).1 hlt
  have hword : total.toNat < UInt64.size := total.toNat_lt_size
  have hone : (1 : UInt64) ≤ page := by
    rw [UInt64.le_iff_toNat_le]
    show 1 ≤ page.toNat
    omega
  have hbefore : (page - 1).toNat = page.toNat - 1 := by
    rw [UInt64.toNat_sub_of_le _ _ hone]
    rfl
  unfold skip
  rw [toNat_saturatingMul, hbefore]
  omega

end Page

end Rebac
