import Rebac.Proofs.Text.Trim
import Rebac.Settings.Numeral
/-!
# What variables spell

A number is spelled by ASCII digits, of which there is at least one, after a plus or, if it may be
negative, a minus, or after no sign at all; leading zeros do not matter. Blanks may stand around it.
The readers of variables accept these spellings of the words that there are and nothing else
(`Settings.reads_unsignedWord`, `Settings.reads_signedWord`, `Settings.reads_flag`), and the usual
decimal text of a number is one of its spellings.
-/

namespace Rebac.Settings

/-! ### Digits and signs -/

/-- Digits that spell a number. -/
structure NaturalText (cs : List Char) (n : Nat) : Prop where
  ne_nil : cs ≠ []
  digits : ∀ c ∈ cs, c.isDigit = true
  value : Nat.ofDigitChars 10 cs 0 = n

/-- The spellings of a natural number. -/
inductive UnsignedText : List Char → Nat → Prop where
  | bare {cs : List Char} {n : Nat} (h : NaturalText cs n) : UnsignedText cs n
  | plus {cs : List Char} {n : Nat} (h : NaturalText cs n) : UnsignedText ('+' :: cs) n

/-- The spellings of an integer. -/
inductive SignedText : List Char → Int → Prop where
  | unsigned {cs : List Char} {n : Nat} (h : UnsignedText cs n) : SignedText cs n
  | minus {cs : List Char} {n : Nat} (h : NaturalText cs n) : SignedText ('-' :: cs) (-n)

variable {cs : List Char} {n : Nat}

/-- The digits of a number, each with its value. -/
theorem ofDigits_map_digitValue (cs : List Char) :
    Decimal.ofDigits (cs.map Decimal.digitValue) = Nat.ofDigitChars 10 cs 0 := by
  rw [Decimal.ofDigits, List.foldl_map, Nat.ofDigitChars_eq_foldl]
  simp only [Decimal.digitValue, Nat.mul_comm]

theorem natural?_eq_some_iff : natural? cs = some n ↔ NaturalText cs n := by
  unfold natural?
  split
  · next hdigits =>
    rw [ofDigits_map_digitValue, Option.some.injEq]
    exact ⟨fun h => ⟨hdigits.1, List.all_eq_true.1 hdigits.2, h⟩, fun h => h.value⟩
  · next hnot =>
    constructor
    · intro h
      cases h
    · intro h
      exact absurd ⟨h.ne_nil, List.all_eq_true.2 h.digits⟩ hnot

/-- A sign is no digit. -/
theorem NaturalText.not_cons {c : Char} (h : c.isDigit = false) : ¬ NaturalText (c :: cs) n := by
  intro htext
  have hdigit := htext.digits c List.mem_cons_self
  rw [h] at hdigit
  cases hdigit

theorem unsigned?_eq_some_iff : unsigned? cs = some n ↔ UnsignedText cs n := by
  constructor
  · intro h
    unfold unsigned? at h
    split at h
    · exact .plus (natural?_eq_some_iff.1 h)
    · exact .bare (natural?_eq_some_iff.1 h)
  · intro h
    cases h with
    | plus h => exact natural?_eq_some_iff.2 h
    | bare h =>
      unfold unsigned?
      split
      · exact absurd h (NaturalText.not_cons (by decide))
      · exact natural?_eq_some_iff.2 h

/-- What is made of the number after the sign. -/
theorem map_natural?_eq_some_iff {f : Int → Int} {m : Int} :
    (Option.map f do let n ← natural? cs; pure (n : Int)) = some m ↔
      ∃ n : Nat, NaturalText cs n ∧ f n = m := by
  simp only [← natural?_eq_some_iff]
  cases natural? cs <;> simp

theorem signed?_eq_some_iff {m : Int} : signed? cs = some m ↔ SignedText cs m := by
  constructor
  · intro h
    unfold signed? at h
    split at h
    · obtain ⟨n, htext, rfl⟩ := map_natural?_eq_some_iff.1 h
      exact .minus htext
    · obtain ⟨n, htext, rfl⟩ := map_natural?_eq_some_iff.1 h
      exact .unsigned (.plus htext)
    · obtain ⟨n, htext, rfl⟩ := map_natural?_eq_some_iff.1 h
      exact .unsigned (.bare htext)
  · intro h
    cases h with
    | minus h => exact map_natural?_eq_some_iff.2 ⟨_, h, rfl⟩
    | unsigned h =>
      cases h with
      | plus h => exact map_natural?_eq_some_iff.2 ⟨_, h, rfl⟩
      | bare h =>
        unfold signed?
        split
        · exact absurd h (NaturalText.not_cons (by decide))
        · exact absurd h (NaturalText.not_cons (by decide))
        · exact map_natural?_eq_some_iff.2 ⟨_, h, rfl⟩

/-! ### Decimal texts -/

theorem naturalText_toDigits (n : Nat) : NaturalText (Nat.toDigits 10 n) n where
  ne_nil := Nat.toDigits_ne_nil
  digits _ hc := Nat.isDigit_of_mem_toDigits (by decide) (by decide) hc
  value := Nat.ofDigitChars_ten_toDigits

/-- A number is spelled by its decimal text. -/
theorem unsignedText_toString (n : Nat) : UnsignedText (toString n).toList n := by
  rw [Nat.toString_eq_repr, Nat.toList_repr]
  exact .bare (naturalText_toDigits n)

theorem signedText_toString (m : Int) : SignedText (toString m).toList m := by
  rw [Int.toString_eq_repr]
  cases m with
  | ofNat n =>
    rw [Int.repr, Nat.toList_repr]
    exact .unsigned (.bare (naturalText_toDigits n))
  | negSucc n =>
    rw [Int.repr, String.toList_append, Nat.toList_repr]
    exact .minus (naturalText_toDigits n.succ)

/-! ### What a variable holds -/

/-- A reader takes a text for what it spells, and a text that spells nothing for nothing. -/
def Reads {α : Type} (read : String → Option α) (spells : String → α → Prop) : Prop :=
  ∀ value a, read value = some a ↔ spells value a

theorem Reads.exists_iff {α : Type} {read : String → Option α} {spells : String → α → Prop}
    (h : Reads read spells) {value : String} :
    (∃ a, spells value a) ↔ (read value).isSome = true := by
  rw [Option.isSome_iff_exists]
  exact exists_congr fun a => (h value a).symm

/-- The value of a variable spells this unsigned word. -/
def SpellsUnsigned (value : String) (w : UInt64) : Prop :=
  ∃ cs, Text.Padded cs value ∧ UnsignedText cs w.toNat

/-- The value of a variable spells this signed word. -/
def SpellsSigned (value : String) (w : Int64) : Prop :=
  ∃ cs, Text.Padded cs value ∧ SignedText cs w.toInt

/-- The value of a variable spells this truth value. -/
def SpellsFlag (value : String) (b : Bool) : Prop :=
  Text.Padded (if b then "true" else "false").toList value

theorem not_isBlank_of_isDigit {c : Char} (h : c.isDigit = true) : Text.isBlank c = false := by
  obtain ⟨hlower, hupper⟩ := Bool.and_eq_true_iff.1 h
  have hlower : 48 ≤ c.toNat := UInt32.le_iff_toNat_le.1 (of_decide_eq_true hlower)
  have hupper : c.toNat ≤ 57 := UInt32.le_iff_toNat_le.1 (of_decide_eq_true hupper)
  simp only [Text.isBlank, Bool.or_eq_false_iff, Bool.and_eq_false_iff, decide_eq_false_iff_not,
    beq_eq_false_iff_ne]
  omega

theorem NaturalText.not_isBlank (h : NaturalText cs n) : ∀ c ∈ cs, Text.isBlank c = false :=
  fun c hc => not_isBlank_of_isDigit (h.digits c hc)

/-- No blank stands in a spelling. -/
theorem UnsignedText.trimmed (h : UnsignedText cs n) : Text.Trimmed cs := by
  apply Text.trimmed_of_forall
  cases h with
  | bare h => exact h.not_isBlank
  | plus h => exact List.forall_mem_cons.2 ⟨by decide, h.not_isBlank⟩

theorem SignedText.trimmed {m : Int} (h : SignedText cs m) : Text.Trimmed cs := by
  cases h with
  | unsigned h => exact h.trimmed
  | minus h =>
    exact Text.trimmed_of_forall (List.forall_mem_cons.2 ⟨by decide, h.not_isBlank⟩)

/-- The unsigned words that are spelled are read, and only they: a number that is no word is not
brought into range. -/
theorem reads_unsignedWord : Reads unsignedWord? SpellsUnsigned := by
  intro value w
  have htrimmed : SpellsUnsigned value w ↔ UnsignedText (Text.trimChars value.toList) w.toNat :=
    Text.exists_padded_iff fun _ h => h.trimmed
  rw [htrimmed, ← unsigned?_eq_some_iff, unsignedWord?]
  cases unsigned? (Text.trimChars value.toList) with
  | none => simp
  | some n =>
    dsimp only
    rw [Option.some.injEq]
    split
    · next hsize =>
      have hback : n.toUInt64.toNat = n := UInt64.toNat_ofNat_of_lt' hsize
      rw [Option.some.injEq, ← UInt64.toNat_inj, hback]
    · next hsize =>
      constructor
      · intro h
        cases h
      · rintro rfl
        exact absurd w.toNat_lt_size hsize

theorem reads_signedWord : Reads signedWord? SpellsSigned := by
  intro value w
  have htrimmed : SpellsSigned value w ↔ SignedText (Text.trimChars value.toList) w.toInt :=
    Text.exists_padded_iff fun _ h => h.trimmed
  rw [htrimmed, ← signed?_eq_some_iff, signedWord?]
  cases signed? (Text.trimChars value.toList) with
  | none => simp
  | some m =>
    dsimp only
    rw [Option.some.injEq]
    split
    · next hrange =>
      have hback : (Int64.ofInt m).toInt = m :=
        Int64.toInt_ofInt_of_le hrange.1 (Int.lt_add_one_of_le hrange.2)
      rw [Option.some.injEq, ← Int64.toInt_inj, hback]
    · next hrange =>
      constructor
      · intro h
        cases h
      · rintro rfl
        exact absurd ⟨w.minValue_le_toInt, w.toInt_le⟩ hrange

theorem reads_flag : Reads flag? SpellsFlag := by
  intro value b
  have hflag : flag? value = some b ↔ Text.trim value = if b then "true" else "false" := by
    unfold flag?
    split
    · next htrue => cases b <;> simp [htrue]
    · next hfalse => cases b <;> simp [hfalse]
    · next htrue hfalse =>
      constructor
      · intro h
        cases h
      · intro h
        cases b with
        | false => exact absurd h hfalse
        | true => exact absurd h htrue
  have htrimmed : Text.Trimmed (if b then "true" else "false").toList := by cases b <;> decide
  rw [hflag, Text.trim, ← String.toList_inj, String.toList_ofList]
  exact (Text.padded_iff htrimmed).symm

end Rebac.Settings
