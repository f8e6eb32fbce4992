import Rebac.Decimal.Shortest
/-!
# The text of a double

Doubles are written with the fewest digits that read back: positionally with at least one digit
after the point while the leading digit stands for `10 ^ -5` to `10 ^ 15`, otherwise with a signed
exponent, as in `1e+16` and `2.5e-7`.
-/

namespace Rebac.Decimal

/-- The least exponent of the leading digit that is written positionally. -/
def leastPositional : Int := -5

/-- The greatest exponent of the leading digit that is written positionally. -/
def greatestPositional : Int := 15

/-- The text with a point and no exponent. -/
def positional (d : Decimal) : String :=
  let digits := Nat.toDigits 10 d.digits
  let whole := digits.length + d.exponent
  String.ofList <|
    if 0 ≤ d.exponent then digits ++ List.replicate d.exponent.toNat '0' ++ ['.', '0']
    else if 0 < whole then digits.take whole.toNat ++ '.' :: digits.drop whole.toNat
    else '0' :: '.' :: List.replicate (-whole).toNat '0' ++ digits

/-- The text with one digit before the point and a signed exponent. -/
def scientific (d : Decimal) : String :=
  let digits := Nat.toDigits 10 d.digits
  let leading := digits.length + d.exponent - 1
  let fraction := if digits.length ≤ 1 then [] else '.' :: digits.drop 1
  String.ofList (digits.take 1 ++ fraction) ++ "e" ++ (if leading < 0 then "-" else "+") ++
    toString leading.natAbs

/-- The text of a decimal. -/
def text (d : Decimal) : String :=
  let leading := (Nat.toDigits 10 d.digits).length + d.exponent - 1
  if leastPositional ≤ leading ∧ leading ≤ greatestPositional then positional d else scientific d

/-- The text of a double; there is none for infinities and what is not a number. -/
def floatText? (x : Float) : Option String :=
  let bits := x.toBits.toNat
  let sign := if Nat.pow 2 63 ≤ bits then "-" else ""
  let exponentBits := bits / Nat.pow 2 52 % Nat.pow 2 11
  let fractionBits := bits % Nat.pow 2 52
  if exponentBits = 2047 then none
  else if exponentBits = 0 ∧ fractionBits = 0 then some (sign ++ "0.0")
  else some (sign ++ (Double.ofFields exponentBits fractionBits).shortest.text)

end Rebac.Decimal
