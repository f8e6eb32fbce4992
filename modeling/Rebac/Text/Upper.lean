import Rebac.Text.UpperTable
/-!
# Upper case

Full upper-casing, character by character and without regard to the characters around it: one
character may become several, as `ß` becomes `SS`.
-/

namespace Rebac.Text

/-- The image of code point `n` in the first run that holds it. -/
def upperRunImage? (n : Nat) : List (Nat × Nat × Nat × Nat) → Option Nat
  | [] => none
  | (first, last, step, image) :: runs =>
    if first ≤ n ∧ n ≤ last ∧ (n - first) % step = 0 then some (image + (n - first))
    else upperRunImage? n runs

/-- The upper case of one character. -/
def upperChar (c : Char) : List Char :=
  match upperExpansions.lookup c.toNat with
  | some image => image.map Char.ofNat
  | none =>
    match upperRunImage? c.toNat upperRuns with
    | some image => [Char.ofNat image]
    | none => [c]

/-- The upper case of a text. -/
def upper (s : String) : String :=
  String.ofList (s.toList.flatMap upperChar)

/-- The text with its first character in upper case and the rest as it is. -/
def capitalize (s : String) : String :=
  match s.toList with
  | [] => ""
  | c :: cs => String.ofList (upperChar c ++ cs)

end Rebac.Text
