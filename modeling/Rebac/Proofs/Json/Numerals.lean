import Mathlib.Data.List.Basic
import Mathlib.Tactic.IntervalCases
import Rebac.Json.Token
/-!
# How numbers are written

A number is written as its digits with an optional minus in front, without leading zeros, and with
an optional fraction and an optional exponent after them (`NumeralText`). It is read up to the first
character that cannot continue it (`Token.next?_of_numeralText`).
-/

namespace Rebac.Json

/-- Decimal digits with these values, of which there is at least one. -/
structure DigitText (ds : List Nat) (cs : List Char) : Prop where
  ne_nil : ds ≠ []
  lt_ten : ∀ d ∈ ds, d < 10
  eq_map : cs = ds.map Nat.digitChar

/-- A point and the digits after it, or nothing. -/
inductive FractionText : List Nat → List Char → Prop where
  | absent : FractionText [] []
  | present {ds : List Nat} {cs : List Char} (h : DigitText ds cs) : FractionText ds ('.' :: cs)

/-- The sign of an exponent, which may be left off if it is positive. -/
inductive SignText : Bool → List Char → Prop where
  | absent : SignText false []
  | plus : SignText false ['+']
  | minus : SignText true ['-']

/-- An exponent, or nothing. -/
inductive ExponentText : Option Int → List Char → Prop where
  | absent : ExponentText none []
  | present {mark : Char} {negative : Bool} {sign cs : List Char} {ds : List Nat}
    (hmark : mark = 'e' ∨ mark = 'E') (hsign : SignText negative sign) (h : DigitText ds cs) :
    ExponentText (some (if negative then -Decimal.ofDigits ds else Decimal.ofDigits ds))
      (mark :: (sign ++ cs))

/-- A number as it may be written. -/
inductive NumeralText : Numeral → List Char → Prop where
  | mk {negative : Bool} {whole fraction : List Nat} {exponent : Option Int}
    {wholeText fractionText exponentText : List Char} (hwhole : DigitText whole wholeText)
    (hzero : whole.head? = some 0 → whole = [0]) (hfraction : FractionText fraction fractionText)
    (hexponent : ExponentText exponent exponentText) :
    NumeralText ⟨negative, whole, fraction, exponent⟩
      ((if negative then ['-'] else []) ++ (wholeText ++ (fractionText ++ exponentText)))

/-- A text of digits begins with one. -/
theorem DigitText.exists_cons {ds : List Nat} {cs : List Char} (h : DigitText ds cs) :
    ∃ d < 10, ∃ tail, cs = Nat.digitChar d :: tail := by
  obtain ⟨hne, hlt, rfl⟩ := h
  obtain ⟨d, ds, rfl⟩ := List.exists_cons_of_ne_nil hne
  exact ⟨d, hlt d List.mem_cons_self, ds.map Nat.digitChar, rfl⟩

namespace Token

/-- No digit stands at the front of the text. -/
def EndsDigits (rest : List Char) : Prop :=
  ∀ c, rest.head? = some c → Decimal.isDigit c = false

/-- What follows cannot continue a number. -/
def EndsNumber (rest : List Char) : Prop :=
  ∀ c, rest.head? = some c → Decimal.isDigit c = false ∧ c ≠ '.' ∧ c ≠ 'e' ∧ c ≠ 'E'

variable {ds : List Nat} {cs rest : List Char}

theorem EndsNumber.endsDigits (h : EndsNumber rest) : EndsDigits rest :=
  fun c hc => (h c hc).1

theorem endsDigits_cons {c : Char} (h : Decimal.isDigit c = false) (cs : List Char) :
    EndsDigits (c :: cs) := by
  intro d hd
  rwa [← Option.some.inj hd]

theorem digitChar_spec : ∀ d < 10, Decimal.isDigit (Nat.digitChar d) = true ∧
    Decimal.digitValue (Nat.digitChar d) = d := by decide

theorem digits_of_digitText (h : DigitText ds cs) (hrest : EndsDigits rest) :
    digits (cs ++ rest) = (ds, rest) := by
  obtain ⟨-, hlt, rfl⟩ := h
  have hdigits : ∀ c ∈ ds.map Nat.digitChar, Decimal.isDigit c = true := by
    intro c hc
    obtain ⟨d, hd, rfl⟩ := List.mem_map.1 hc
    exact (digitChar_spec d (hlt d hd)).1
  have hstop : rest.takeWhile Decimal.isDigit = [] ∧ rest.dropWhile Decimal.isDigit = rest := by
    cases rest with
    | nil => exact ⟨rfl, rfl⟩
    | cons c rest => simp [hrest c rfl]
  have hvalues : ∀ d ∈ ds, (Decimal.digitValue ∘ Nat.digitChar) d = id d :=
    fun d hd => (digitChar_spec d (hlt d hd)).2
  unfold digits
  rw [List.takeWhile_append_of_pos hdigits, List.dropWhile_append_of_pos hdigits, hstop.1, hstop.2,
    List.append_nil, List.map_map, List.map_congr_left hvalues, List.map_id]

theorem whole?_of_digitText (h : DigitText ds cs) (hzero : ds.head? = some 0 → ds = [0])
    (hrest : EndsDigits rest) : whole? (cs ++ rest) = some (ds, rest) := by
  unfold whole?
  rw [digits_of_digitText h hrest]
  split
  · next heq => exact absurd (congrArg Prod.fst heq) h.ne_nil
  · next heq =>
    -- a leading zero has no digit after it
    obtain ⟨rfl, -⟩ := Prod.mk.inj heq
    cases hzero rfl
  · rfl

theorem fraction?_of_fractionText (h : FractionText ds cs) (hdot : rest.head? ≠ some '.')
    (hrest : EndsDigits rest) : fraction? (cs ++ rest) = some (ds, rest) := by
  cases h with
  | absent =>
    rw [List.nil_append]
    unfold fraction?
    split
    · exact absurd rfl hdot
    · rfl
  | present h =>
    rw [List.cons_append, fraction?, digits_of_digitText h hrest]
    split
    · next heq => exact absurd (congrArg Prod.fst heq) h.ne_nil
    · rfl

theorem sign_of_signText {negative : Bool} {signText : List Char} (h : SignText negative signText)
    (hdigits : DigitText ds cs) : sign (signText ++ (cs ++ rest)) = (negative, cs ++ rest) := by
  cases h with
  | absent =>
    -- a digit is no sign
    obtain ⟨d, hd, tail, rfl⟩ := hdigits.exists_cons
    interval_cases d <;> rfl
  | plus => rfl
  | minus => rfl

theorem exponent?_of_exponentText {e : Option Int} (h : ExponentText e cs)
    (hrest : EndsNumber rest) : exponent? (cs ++ rest) = some (e, rest) := by
  cases h with
  | absent =>
    rw [List.nil_append]
    cases rest with
    | nil => rfl
    | cons c rest =>
      obtain ⟨-, -, he, hE⟩ := hrest c rfl
      rw [exponent?, if_neg (not_or.2 ⟨he, hE⟩)]
  | present hmark hsign h =>
    rw [List.cons_append, exponent?, if_pos hmark, List.append_assoc, signed?,
      sign_of_signText hsign h, digits_of_digitText h hrest.endsDigits]
    split
    · next heq => exact absurd (congrArg Prod.fst heq) h.ne_nil
    · next heq =>
      obtain ⟨rfl, rfl⟩ := Prod.mk.inj heq
      rfl

/-- What may follow the digits of a fraction is no digit and no point. -/
theorem head_of_exponentText {e : Option Int} (h : ExponentText e cs) (hrest : EndsNumber rest) :
    (cs ++ rest).head? ≠ some '.' ∧ EndsDigits (cs ++ rest) := by
  cases h with
  | absent => exact ⟨fun hdot => (hrest '.' hdot).2.1 rfl, hrest.endsDigits⟩
  | present hmark _ _ =>
    rcases hmark with rfl | rfl
    · exact ⟨by simp, endsDigits_cons (by decide) _⟩
    · exact ⟨by simp, endsDigits_cons (by decide) _⟩

theorem endsDigits_fraction (h : FractionText ds cs) (hrest : EndsDigits rest) :
    EndsDigits (cs ++ rest) := by
  cases h with
  | absent => exact hrest
  | present _ => exact endsDigits_cons (by decide) _

/-- A number is read up to what cannot continue it. -/
theorem unsigned?_of_texts (negative : Bool) {whole fraction : List Nat} {exponent : Option Int}
    {wholeText fractionText exponentText : List Char} (hwhole : DigitText whole wholeText)
    (hzero : whole.head? = some 0 → whole = [0]) (hfraction : FractionText fraction fractionText)
    (hexponent : ExponentText exponent exponentText) (hrest : EndsNumber rest) :
    unsigned? negative (wholeText ++ (fractionText ++ (exponentText ++ rest))) =
      some (.number ⟨negative, whole, fraction, exponent⟩, rest) := by
  obtain ⟨hdot, hends⟩ := head_of_exponentText hexponent hrest
  rw [unsigned?, whole?_of_digitText hwhole hzero (endsDigits_fraction hfraction hends)]
  simp only [fraction?_of_fractionText hfraction hdot hends,
    exponent?_of_exponentText hexponent hrest, Option.map_some]

/-- A number in front of what cannot continue it is the next token. -/
theorem next?_of_numeralText {n : Numeral} (h : NumeralText n cs) (hrest : EndsNumber rest) :
    ∃ c tail, cs = c :: tail ∧ isSpace c = false ∧
      next? c (tail ++ rest) = some (.number n, rest) := by
  cases h with
  | @mk negative whole fraction exponent wholeText fractionText exponentText hwhole hzero hfraction
      hexponent =>
    have hread := unsigned?_of_texts negative hwhole hzero hfraction hexponent hrest
    cases negative with
    | true =>
      refine ⟨'-', wholeText ++ (fractionText ++ exponentText), rfl, by decide, ?_⟩
      rw [List.append_assoc, List.append_assoc]
      exact hread
    | false =>
      obtain ⟨d, hd, tail, htail⟩ := hwhole.exists_cons
      have hspace : isSpace (Nat.digitChar d) = false := by interval_cases d <;> rfl
      have hnext : ∀ more,
          next? (Nat.digitChar d) more = unsigned? false (Nat.digitChar d :: more) := by
        intro more
        interval_cases d <;> rfl
      refine ⟨Nat.digitChar d, tail ++ (fractionText ++ exponentText), ?_, hspace, ?_⟩
      · rw [htail]
        rfl
      · rw [hnext, ← hread, htail]
        simp only [List.cons_append, List.append_assoc]

end Token

end Rebac.Json
