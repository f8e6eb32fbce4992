import Rebac.Decimal.Digits
import Rebac.Text.Blank
/-!
# Numbers and truth values in environment variables

What a variable may hold for a setting that is a number or a truth value: blanks at both ends do not
matter; a number is an optional sign and decimal digits, where a minus is allowed only if the number
may be negative; a truth value is one of two words.
-/

namespace Rebac.Settings

/-- The number written with these characters, of which there is at least one. -/
def natural? (cs : List Char) : Option Nat :=
  if cs ≠ [] ∧ cs.all Decimal.isDigit then some (Decimal.ofDigits (cs.map Decimal.digitValue))
  else none

/-- The integer written with these characters: digits, and a sign before them if there is one. -/
def signed? : List Char → Option Int
  | '-' :: cs => (natural? cs).map fun n => -n
  | '+' :: cs => (natural? cs).map fun n => n
  | cs => (natural? cs).map fun n => n

/-- The natural number written with these characters: digits, and a plus before them if there is
one. -/
def unsigned? : List Char → Option Nat
  | '+' :: cs => natural? cs
  | cs => natural? cs

/-- The unsigned word in a variable. -/
def unsignedWord? (value : String) : Option UInt64 :=
  match unsigned? (Text.trimChars value.toList) with
  | some n => if n < UInt64.size then some n.toUInt64 else none
  | none => none

/-- The signed word in a variable. -/
def signedWord? (value : String) : Option Int64 :=
  match signed? (Text.trimChars value.toList) with
  | some n =>
    if Int64.minValue.toInt ≤ n ∧ n ≤ Int64.maxValue.toInt then some (Int64.ofInt n) else none
  | none => none

/-- The truth value in a variable. -/
def flag? (value : String) : Option Bool :=
  match Text.trim value with
  | "true" => some true
  | "false" => some false
  | _ => none

end Rebac.Settings
