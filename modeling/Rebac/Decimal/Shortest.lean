/-!
# Shortest decimals

The decimal with the fewest digits that reads back to a given double. A double stands for the reals
that round to it; on the grid of the multiples of `10 ^ k` only the two neighbours of the value
have to be looked at, and the coarsest grid with a neighbour in that interval gives the fewest
digits. All arithmetic is on natural numbers.

* `Double.neighbour?` is the choice on one grid.
* `Double.shortest` tries the grids from coarse to fine, and what it comes to reads back
  (`Double.readsBack_shortest`).
-/

namespace Rebac

/-- A decimal `digits * 10 ^ exponent`. -/
structure Decimal where
  digits : Nat
  exponent : Int
deriving DecidableEq

/-- A positive double `mantissa * 2 ^ exponent`. -/
structure Double where
  mantissa : Nat
  exponent : Int
  /-- Whether the next smaller double is only half as far away as the next larger one. -/
  narrowBelow : Bool
deriving DecidableEq

namespace Double

/-- The positive double with these exponent and fraction bits, both zero excepted. -/
def ofFields (exponentBits fractionBits : Nat) : Double :=
  if exponentBits = 0 then ⟨fractionBits, -1074, false⟩
  else ⟨Nat.pow 2 52 + fractionBits, exponentBits - 1075, fractionBits = 0 ∧ 1 < exponentBits⟩

/-- The value in quarters of its unit in the last place. -/
def quarters (x : Double) : Nat := 4 * x.mantissa

/-- The lower end, in quarters, of the reals that round to `x`. -/
def low (x : Double) : Nat := x.quarters - if x.narrowBelow then 1 else 2

/-- The upper end, in quarters, of the reals that round to `x`. -/
def high (x : Double) : Nat := x.quarters + 2

/-- On the grid of `10 ^ k`: a quarter is `scale` parts and a grid step `step` parts. -/
def scale (x : Double) (k : Int) : Nat :=
  Nat.pow 2 (x.exponent - 2).toNat * Nat.pow 10 (-k).toNat

/-- The parts of one step of the grid of `10 ^ k`, in the parts that `scale` counts. -/
def step (x : Double) (k : Int) : Nat :=
  Nat.pow 2 (2 - x.exponent).toNat * Nat.pow 10 k.toNat

/-- Whether `n * 10 ^ k` rounds to `x`; an end of the interval does when the mantissa is even. -/
def readsBack (x : Double) (k : Int) (n : Nat) : Bool :=
  let low := x.low * x.scale k
  let high := x.high * x.scale k
  let value := n * x.step k
  (low < value && value < high) || (x.mantissa % 2 == 0 && (value == low || value == high))

/-- The grid point next to `x` that reads back: the nearer one if both do, of two equally near the
even one. Zero is never chosen. -/
def neighbour? (x : Double) (k : Int) : Option Nat :=
  let value := x.quarters * x.scale k
  let below := value / x.step k
  let belowFits := below ≠ 0 ∧ x.readsBack k below
  if belowFits ∧ x.readsBack k (below + 1) then
    match compare (2 * value) ((2 * below + 1) * x.step k) with
    | .lt => some below
    | .gt => some (below + 1)
    | .eq => some (if below % 2 = 0 then below else below + 1)
  else if belowFits then some below
  else if x.readsBack k (below + 1) then some (below + 1)
  else none

/-- A power of ten above `x`. -/
def magnitude (x : Double) : Int :=
  (Nat.toDigits 10 (x.quarters * x.scale 0)).length - (Nat.toDigits 10 (x.step 0)).length + 1

/-- The value of `x` itself as a decimal. -/
def exact (x : Double) : Decimal :=
  ⟨x.mantissa * Nat.pow 2 x.exponent.toNat * Nat.pow 5 (-x.exponent).toNat, min x.exponent 0⟩

/-- The shortest decimal that reads back to `x`, and of those the nearest. Seventeen digits always
suffice and the first grid may be two steps too coarse, so twenty grids are tried. -/
def shortest (x : Double) : Decimal :=
  let grids := (List.range 20).map fun i : Nat => x.magnitude - i
  (grids.findSome? fun k => (x.neighbour? k).map (⟨·, k⟩)).getD x.exact

/-! ### What is chosen reads back -/

/-- A chosen grid point reads back. -/
theorem readsBack_of_neighbour? {x : Double} {k : Int} {n : Nat} (h : x.neighbour? k = some n) :
    x.readsBack k n = true := by
  simp only [neighbour?] at h
  split at h
  next both =>
    split at h
    · obtain rfl := Option.some.inj h; exact both.1.2
    · obtain rfl := Option.some.inj h; exact both.2
    · obtain rfl := Option.some.inj h; split
      · exact both.1.2
      · exact both.2
  next =>
    split at h
    next fits => obtain rfl := Option.some.inj h; exact fits.2
    next =>
      split at h
      next fits => obtain rfl := Option.some.inj h; exact fits
      next => cases h

/-- The exact decimal has the value of the double, in the parts of its grid. -/
theorem exact_mul_step (x : Double) :
    x.exact.digits * x.step x.exact.exponent = x.quarters * x.scale x.exact.exponent := by
  have hgrid : (min x.exponent 0).toNat = 0 := by omega
  have htens : (-min x.exponent 0).toNat = (-x.exponent).toNat := by omega
  -- the same power of two on both sides, whatever the sign of the exponent
  have htwos : x.exponent.toNat + (2 - x.exponent).toNat =
      2 + (x.exponent - 2).toNat + (-x.exponent).toNat := by omega
  have hpowers := congrArg (2 ^ ·) htwos
  simp only [Nat.pow_add] at hpowers
  simp only [exact, step, scale, quarters, hgrid, htens, Nat.pow_eq, Nat.pow_zero, Nat.mul_one]
  rw [show 10 = 2 * 5 from rfl, Nat.mul_pow]
  calc x.mantissa * 2 ^ x.exponent.toNat * 5 ^ (-x.exponent).toNat * 2 ^ (2 - x.exponent).toNat
      = x.mantissa * 5 ^ (-x.exponent).toNat *
          (2 ^ x.exponent.toNat * 2 ^ (2 - x.exponent).toNat) := by ac_rfl
    _ = x.mantissa * 5 ^ (-x.exponent).toNat *
          (2 ^ 2 * 2 ^ (x.exponent - 2).toNat * 2 ^ (-x.exponent).toNat) := by rw [hpowers]
    _ = 4 * x.mantissa * (2 ^ (x.exponent - 2).toNat *
          (2 ^ (-x.exponent).toNat * 5 ^ (-x.exponent).toNat)) := by
        rw [show 2 ^ 2 = 4 from rfl]
        ac_rfl

/-- The value of a double rounds to it. -/
theorem readsBack_exact {x : Double} (h : 0 < x.mantissa) :
    x.readsBack x.exact.exponent x.exact.digits = true := by
  have hscale : 0 < x.scale x.exact.exponent :=
    Nat.mul_pos (Nat.pow_pos (by decide)) (Nat.pow_pos (by decide))
  have hlow : x.low < x.quarters := by
    unfold low quarters
    split <;> omega
  have hhigh : x.quarters < x.high := by
    unfold high
    omega
  simp only [readsBack, exact_mul_step, Nat.mul_lt_mul_right hscale, hlow, hhigh, decide_true,
    Bool.and_self, Bool.true_or]

theorem mantissa_ofFields_pos {exponentBits fractionBits : Nat}
    (h : exponentBits ≠ 0 ∨ fractionBits ≠ 0) :
    0 < (ofFields exponentBits fractionBits).mantissa := by
  unfold ofFields
  split
  · next hzero => exact Nat.pos_of_ne_zero (h.resolve_left fun hne => hne hzero)
  · exact Nat.add_pos_left (Nat.pow_pos (by decide)) _

/-- The decimal that is written for a positive double reads back to it. What is chosen on a grid
does, and so does the value itself, which is left where no grid has a neighbour that does. -/
theorem readsBack_shortest {exponentBits fractionBits : Nat}
    (h : exponentBits ≠ 0 ∨ fractionBits ≠ 0) :
    let x := ofFields exponentBits fractionBits
    x.readsBack x.shortest.exponent x.shortest.digits = true := by
  intro x
  unfold shortest
  dsimp only
  cases hfound : ((List.range 20).map fun i : Nat => x.magnitude - i).findSome? fun k =>
      (x.neighbour? k).map (⟨·, k⟩ : Nat → Decimal) with
  | none => exact readsBack_exact (mantissa_ofFields_pos h)
  | some d =>
    obtain ⟨k, -, hk⟩ := List.exists_of_findSome?_eq_some hfound
    obtain ⟨n, hn, rfl⟩ := Option.map_eq_some_iff.1 hk
    exact readsBack_of_neighbour? hn

/-- The double next to a tenth is written with one digit. -/
example : (ofFields 1019 0x999999999999a).shortest = ⟨1, -1⟩ := by decide +kernel

end Double

end Rebac
