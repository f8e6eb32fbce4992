/-!
# Decimal digits

The ten ASCII digits, and the numbers that sequences of digits denote.
-/

namespace Rebac.Decimal

/-- Whether `c` is a decimal digit. -/
def isDigit (c : Char) : Bool := '0' ≤ c && c ≤ '9'

/-- The value of a decimal digit. -/
def digitValue (c : Char) : Nat := c.toNat - '0'.toNat

/-- The number that digits denote, the most significant first; digits are given by their values. -/
def ofDigits (ds : List Nat) : Nat := ds.foldl (fun n d => n * 10 + d) 0

end Rebac.Decimal
