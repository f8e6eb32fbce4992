import Rebac.Decimal.Digits
import Rebac.Json.Number
/-!
# The tokens of a JSON text

`Token.scan` cuts a text into its tokens, up to the first place where no token stands. A string
keeps what its escapes denote if that is a text: an escaped surrogate that has no partner leaves a
well-formed token without content.
-/

namespace Rebac.Json

/-- A token. -/
inductive Token where
  | openArray
  | closeArray
  | openObject
  | closeObject
  | comma
  | colon
  | null
  | bool (b : Bool)
  | number (n : Numeral)
  /-- A string; it has no content if a surrogate in it has no partner. -/
  | string (content : Option String)
  /-- No token stands here, and the text is not read further. -/
  | fault
deriving DecidableEq

namespace Token

/-- The four characters that may stand between tokens. -/
def isSpace (c : Char) : Bool := c == ' ' || c == '\n' || c == '\r' || c == '\t'

/-! ### Strings -/

/-- What one step of a string gives: a character, or a 16-bit unit written as an escape. -/
inductive Piece where
  | char (c : Char)
  | unit (n : Nat)
deriving DecidableEq

/-- The value of a hexadecimal digit. -/
def hexDigit? (c : Char) : Option Nat :=
  if '0' ≤ c ∧ c ≤ '9' then some (c.toNat - '0'.toNat)
  else if 'a' ≤ c ∧ c ≤ 'f' then some (c.toNat - 'a'.toNat + 10)
  else if 'A' ≤ c ∧ c ≤ 'F' then some (c.toNat - 'A'.toNat + 10)
  else none

/-- The unit that four hexadecimal digits denote. -/
def unit? (a b c d : Char) : Option Nat := do
  return ((← hexDigit? a) * 16 + (← hexDigit? b)) * 256 + (← hexDigit? c) * 16 + (← hexDigit? d)

/-- What a backslash and this character denote. -/
def escape? (c : Char) : Option Char :=
  match c with
  | '"' => some '"'
  | '\\' => some '\\'
  | '/' => some '/'
  | 'b' => some '\x08'
  | 'f' => some '\x0c'
  | 'n' => some '\n'
  | 'r' => some '\r'
  | 't' => some '\t'
  | _ => none

/-- The pieces of a string whose opening quote has been read, and what follows its closing quote;
none if it does not close, holds a control character or an escape of no kind. -/
def pieces? : List Char → Option (List Piece × List Char)
  | [] => none
  | '"' :: rest => some ([], rest)
  | '\\' :: 'u' :: a :: b :: c :: d :: rest =>
    match unit? a b c d, pieces? rest with
    | some n, some (ps, rest) => some (.unit n :: ps, rest)
    | _, _ => none
  | '\\' :: c :: rest =>
    match escape? c, pieces? rest with
    | some e, some (ps, rest) => some (.char e :: ps, rest)
    | _, _ => none
  | c :: rest =>
    if c = '\\' ∨ c.toNat < 0x20 then none
    else
      match pieces? rest with
      | some (ps, rest) => some (.char c :: ps, rest)
      | none => none

/-- Whether a unit is the first of a surrogate pair. -/
def isLeading (n : Nat) : Bool := 0xD800 ≤ n && n ≤ 0xDBFF

/-- Whether a unit is the second of a surrogate pair. -/
def isTrailing (n : Nat) : Bool := 0xDC00 ≤ n && n ≤ 0xDFFF

/-- The characters that the pieces denote: units pair up to characters beyond the sixteen-bit
range, and none results if one is left without its partner. -/
def content? : List Piece → Option (List Char)
  | [] => some []
  | .char c :: ps => (content? ps).map (c :: ·)
  | .unit hi :: .unit lo :: ps =>
    if isLeading hi then
      if isTrailing lo then
        (content? ps).map (Char.ofNat (0x10000 + (hi - 0xD800) * 0x400 + (lo - 0xDC00)) :: ·)
      else none
    else if isTrailing hi then none
    else (content? (.unit lo :: ps)).map (Char.ofNat hi :: ·)
  | .unit n :: ps =>
    if isLeading n ∨ isTrailing n then none else (content? ps).map (Char.ofNat n :: ·)

/-- The string token after an opening quote. -/
def string? (cs : List Char) : Option (Token × List Char) :=
  (pieces? cs).map fun (ps, rest) => (.string ((content? ps).map String.ofList), rest)

/-! ### Numbers -/

/-- The values of the digits at the front of a text, and the rest. -/
def digits (cs : List Char) : List Nat × List Char :=
  ((cs.takeWhile Decimal.isDigit).map Decimal.digitValue, cs.dropWhile Decimal.isDigit)

/-- The digits before the point: a leading zero stands alone. -/
def whole? (cs : List Char) : Option (List Nat × List Char) :=
  match digits cs with
  | ([], _) => none
  | (0 :: _ :: _, _) => none
  | found => some found

/-- A point and the digits after it, of which there is at least one; no point gives no digits. -/
def fraction? (cs : List Char) : Option (List Nat × List Char) :=
  match cs with
  | '.' :: rest =>
    match digits rest with
    | ([], _) => none
    | found => some found
  | _ => some ([], cs)

/-- Whether a minus stands at the front of a text, and what follows the sign if there is one. -/
def sign (cs : List Char) : Bool × List Char :=
  match cs with
  | '-' :: rest => (true, rest)
  | '+' :: rest => (false, rest)
  | _ => (false, cs)

/-- Digits with an optional sign, as an exponent has them. -/
def signed? (cs : List Char) : Option (Int × List Char) :=
  match digits (sign cs).2 with
  | ([], _) => none
  | (ds, rest) => some (if (sign cs).1 then -Decimal.ofDigits ds else Decimal.ofDigits ds, rest)

/-- The exponent, if one follows. -/
def exponent? (cs : List Char) : Option (Option Int × List Char) :=
  match cs with
  | c :: rest =>
    if c = 'e' ∨ c = 'E' then (signed? rest).map fun (e, rest) => (some e, rest)
    else some (none, cs)
  | [] => some (none, [])

/-- A number without its sign. -/
def unsigned? (negative : Bool) (cs : List Char) : Option (Token × List Char) :=
  match whole? cs with
  | none => none
  | some (whole, afterWhole) =>
    match fraction? afterWhole with
    | none => none
    | some (fraction, afterFraction) =>
      (exponent? afterFraction).map fun (exponent, rest) =>
        (.number ⟨negative, whole, fraction, exponent⟩, rest)

/-! ### All tokens -/

/-- What follows `word`, if the text starts with it. -/
def after? (word : List Char) (cs : List Char) : Option (List Char) :=
  if word.isPrefixOf cs then some (cs.drop word.length) else none

/-- The token that starts with `c`, and what follows it. -/
def next? (c : Char) (cs : List Char) : Option (Token × List Char) :=
  match c with
  | '[' => some (.openArray, cs)
  | ']' => some (.closeArray, cs)
  | '\x7b' => some (.openObject, cs)
  | '\x7d' => some (.closeObject, cs)
  | ',' => some (.comma, cs)
  | ':' => some (.colon, cs)
  | '"' => string? cs
  | 'n' => (after? ['u', 'l', 'l'] cs).map (.null, ·)
  | 't' => (after? ['r', 'u', 'e'] cs).map (.bool true, ·)
  | 'f' => (after? ['a', 'l', 's', 'e'] cs).map (.bool false, ·)
  | '-' => unsigned? true cs
  | c => unsigned? false (c :: cs)

theorem length_pieces? {cs rest : List Char} {ps : List Piece} (h : pieces? cs = some (ps, rest)) :
    rest.length ≤ cs.length := by
  fun_induction pieces? cs generalizing ps rest with
  | case1 => cases h
  | case2 => simp_all
  | case3 a b c d cs n qs r hp hu ih =>
    have := ih hp
    simp only [Option.some.injEq, Prod.mk.injEq] at h
    simp only [List.length_cons, ← h.2]
    omega
  | case5 c cs _ e qs r hp he ih =>
    have := ih hp
    simp only [Option.some.injEq, Prod.mk.injEq] at h
    simp only [List.length_cons, ← h.2]
    omega
  | case8 c cs _ _ _ _ qs r hp ih =>
    have := ih hp
    simp only [Option.some.injEq, Prod.mk.injEq] at h
    simp only [List.length_cons, ← h.2]
    omega
  | _ => simp_all

theorem length_digits (cs : List Char) : (digits cs).2.length ≤ cs.length :=
  (List.dropWhile_suffix Decimal.isDigit).length_le

/-- A number has at least one digit. -/
theorem length_whole? {cs rest : List Char} {ds : List Nat} (h : whole? cs = some (ds, rest)) :
    rest.length < cs.length := by
  have hsplit := congrArg List.length
    (List.takeWhile_append_dropWhile (p := Decimal.isDigit) (l := cs))
  rw [List.length_append] at hsplit
  simp only [whole?] at h
  split at h
  · cases h
  · cases h
  next hne _ =>
    obtain ⟨rfl, rfl⟩ : (digits cs).1 = ds ∧ (digits cs).2 = rest := by
      simpa [Prod.ext_iff] using h
    have : (cs.takeWhile Decimal.isDigit).length ≠ 0 := by
      intro h0
      refine hne (digits cs).2 ?_
      simp [digits, List.length_eq_zero_iff.1 h0]
    simp only [digits]
    omega

theorem length_fraction? {cs rest : List Char} {ds : List Nat}
    (h : fraction? cs = some (ds, rest)) : rest.length ≤ cs.length := by
  unfold fraction? at h
  split at h
  next r =>
    have := length_digits r
    split at h <;> simp_all
    omega
  next => simp_all

theorem length_sign (cs : List Char) : (sign cs).2.length ≤ cs.length := by
  unfold sign
  split <;> simp

theorem length_signed? {cs rest : List Char} {e : Int} (h : signed? cs = some (e, rest)) :
    rest.length ≤ cs.length := by
  have h1 := length_sign cs
  have h2 := length_digits (sign cs).2
  unfold signed? at h
  split at h <;> simp_all
  omega

theorem length_exponent? {cs rest : List Char} {e : Option Int}
    (h : exponent? cs = some (e, rest)) : rest.length ≤ cs.length := by
  unfold exponent? at h
  split at h
  next c r =>
    split at h
    · obtain ⟨⟨n, r'⟩, hs, he⟩ := Option.map_eq_some_iff.1 h
      have := length_signed? hs
      obtain ⟨-, rfl⟩ := Prod.mk.inj he
      simp only [List.length_cons]
      omega
    · simp_all
  next => simp_all

/-- A number takes at least one character. -/
theorem length_unsigned? {negative : Bool} {cs rest : List Char} {t : Token}
    (h : unsigned? negative cs = some (t, rest)) : rest.length < cs.length := by
  unfold unsigned? at h
  split at h
  · cases h
  next whole r1 hw =>
    split at h
    · cases h
    next fraction r2 hf =>
      obtain ⟨⟨e, r3⟩, he, ht⟩ := Option.map_eq_some_iff.1 h
      have h1 := length_whole? hw
      have h2 := length_fraction? hf
      have h3 := length_exponent? he
      obtain ⟨-, rfl⟩ := Prod.mk.inj ht
      omega

/-- A token takes at least its first character. -/
theorem length_next? {c : Char} {cs rest : List Char} {t : Token}
    (h : next? c cs = some (t, rest)) : rest.length ≤ cs.length := by
  have hafter : ∀ (word : List Char) (t' : Token),
      (after? word cs).map (t', ·) = some (t, rest) → rest.length ≤ cs.length := by
    intro word t' ha
    simp only [after?] at ha
    split at ha <;> simp at ha
    rw [← ha.2]
    simp
  unfold next? at h
  split at h
  case h_7 =>
    obtain ⟨⟨ps, r⟩, hp, he⟩ := Option.map_eq_some_iff.1 h
    obtain ⟨-, rfl⟩ := Prod.mk.inj he
    exact length_pieces? hp
  case h_8 => exact hafter _ _ h
  case h_9 => exact hafter _ _ h
  case h_10 => exact hafter _ _ h
  case h_11 => exact Nat.le_of_lt (length_unsigned? h)
  case h_12 => exact Nat.le_of_lt_succ (length_unsigned? h)
  all_goals simp_all

/-- The tokens of a text, ending with `fault` where no token stands. -/
def scan : List Char → List Token
  | [] => []
  | c :: cs =>
    if isSpace c then scan cs
    else
      match h : next? c cs with
      | some (t, rest) =>
        have := length_next? h
        t :: scan rest
      | none => [.fault]
termination_by cs => cs.length
decreasing_by all_goals simp; try omega

end Token

end Rebac.Json
