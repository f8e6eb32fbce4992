import Rebac.Decimal.Notation
/-!
# Numbers in JSON

A number is an integer or a double, and the two stay apart: `25` is an integer, `25.0` a double.
`Numeral` is a number as it is spelled and `Numeral.number?` what it denotes. Integers that fit in
a signed or an unsigned word of 64 bits denote themselves; `-0`, larger integers, and everything
with a fraction or an exponent denote doubles.
-/

namespace Rebac.Json

/-- A number in a JSON document. -/
inductive Number where
  | integer (n : Int)
  | real (x : Float)
deriving DecidableEq

/-- The text of a number: integers plainly, doubles with a point or an exponent. -/
def Number.text : Number → String
  | .integer n => toString n
  | .real x => (Decimal.floatText? x).getD "null"

/-- The number as an unsigned word, if it is an integer of that range. -/
def Number.word? : Number → Option UInt64
  | .integer n => if 0 ≤ n ∧ n < UInt64.size then some n.toNat.toUInt64 else none
  | .real _ => none

/-- A number as it is spelled; digits are given by their values. -/
structure Numeral where
  negative : Bool
  whole : List Nat
  /-- The digits after the point, none if there is no point. -/
  fraction : List Nat
  /-- The exponent with its sign, if there is one. -/
  exponent : Option Int
deriving DecidableEq

namespace Numeral

/-- The largest significand: one unsigned word. -/
def significandBound : Nat := UInt64.size

/-- Appends digits to a significand as long as it stays below `significandBound`, and returns the
number of digits that were left out, from the first that did not fit. -/
def gather (significand : Nat) : List Nat → Nat × Nat
  | [] => (significand, 0)
  | d :: ds =>
    if significand * 10 + d < significandBound then gather (significand * 10 + d) ds
    else (significand, ds.length + 1)

/-- `significand * 10 ^ exponent` by one multiplication or division of doubles, two divisions for
very small values; none if it is too large for a double. -/
def scaled? (significand : Nat) (exponent : Int) : Option Float :=
  let value := significand.toUInt64.toFloat
  let power (n : Nat) := Float.ofScientific 1 false n
  if 0 ≤ exponent then
    if significand = 0 then some 0.0
    else if 308 < exponent then none
    else
      let product := value * power exponent.toNat
      if product.isInf then none else some product
  else if -308 ≤ exponent then some (value / power (-exponent).toNat)
  else if -616 ≤ exponent then some (value / power 308 / power (-exponent - 308).toNat)
  else some 0.0

/-- Whether only an integer is spelled: no point and no exponent. -/
def isWhole (n : Numeral) : Bool := n.fraction.isEmpty && n.exponent.isNone

/-- The number that a numeral denotes; none if it is too large for a double. -/
def number? (n : Numeral) : Option Number :=
  let (whole, dropped) := gather 0 n.whole
  if n.isWhole ∧ dropped = 0 ∧
      (if n.negative then whole ≠ 0 ∧ Int64.minValue.toInt ≤ -whole else True) then
    some (.integer (if n.negative then -whole else whole))
  else
    let (significand, unread) := gather whole n.fraction
    let exponent := (n.exponent.getD 0) + dropped - (n.fraction.length - unread : Nat)
    (scaled? significand exponent).map fun x => .real (if n.negative then -x else x)

end Numeral

end Rebac.Json
