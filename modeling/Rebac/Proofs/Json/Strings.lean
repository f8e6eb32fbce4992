import Mathlib.Data.List.Basic
import Rebac.Json.Token
/-!
# How strings are written

Between its quotes a string is written in parts (`Token.Parts`): most characters may stand for
themselves, some have an escape of their own, and each sixteen-bit unit can be written by its
number. What the parts denote is said apart from how they are read (`Token.Denotes`): units by
themselves denote the characters of the basic plane, and the two surrogates of a pair together
denote a character beyond it. A string that is so written is read as what it denotes
(`Token.next?_of_quoted`).
-/

namespace Rebac.Json.Token

/-! ### Hexadecimal units -/

/-- The character is a hexadecimal digit, in upper or lower case, of this value. -/
def IsHexDigit (c : Char) (n : Nat) : Prop :=
  n < 16 ∧ (c = Nat.digitChar n ∨ c = (Nat.digitChar n).toUpper)

/-- The four hexadecimal digits of a sixteen-bit unit. -/
inductive IsUnit : List Char → Nat → Prop where
  | mk {a b c d : Char} {i j k l : Nat} (ha : IsHexDigit a i) (hb : IsHexDigit b j)
    (hc : IsHexDigit c k) (hd : IsHexDigit d l) :
    IsUnit [a, b, c, d] (((i * 16 + j) * 16 + k) * 16 + l)

theorem hexDigit?_of_isHexDigit {c : Char} {n : Nat} (h : IsHexDigit c n) :
    hexDigit? c = some n := by
  have hall : ∀ n < 16, hexDigit? (Nat.digitChar n) = some n ∧
      hexDigit? (Nat.digitChar n).toUpper = some n := by decide
  obtain ⟨hn, rfl | rfl⟩ := h
  · exact (hall n hn).1
  · exact (hall n hn).2

theorem unit?_of_isUnit {a b c d : Char} {n : Nat} (h : IsUnit [a, b, c, d] n) :
    unit? a b c d = some n := by
  cases h with
  | mk ha hb hc hd =>
    simp only [unit?, hexDigit?_of_isHexDigit ha, hexDigit?_of_isHexDigit hb,
      hexDigit?_of_isHexDigit hc, hexDigit?_of_isHexDigit hd, Option.bind_eq_bind, Option.bind_some,
      Option.pure_def, Option.some.injEq]
    omega

theorem IsUnit.lt {cs : List Char} {n : Nat} (h : IsUnit cs n) : n < 0x10000 := by
  cases h with
  | mk ha hb hc hd =>
    have hi := ha.1
    have hj := hb.1
    have hk := hc.1
    have hl := hd.1
    omega

/-- The digits of a unit in lower case. -/
theorem isUnit_digitChar {n : Nat} (h : n < 0x10000) :
    IsUnit [Nat.digitChar (n / 0x1000), Nat.digitChar (n / 0x100 % 16), Nat.digitChar (n / 16 % 16),
      Nat.digitChar (n % 16)] n := by
  have hdigit : ∀ i < 16, IsHexDigit (Nat.digitChar i) i := fun i hi => ⟨hi, Or.inl rfl⟩
  have hunit := IsUnit.mk (hdigit (n / 0x1000) (by omega)) (hdigit (n / 0x100 % 16) (by omega))
    (hdigit (n / 16 % 16) (by omega)) (hdigit (n % 16) (by omega))
  have hvalue : ((n / 0x1000 * 16 + n / 0x100 % 16) * 16 + n / 16 % 16) * 16 + n % 16 = n := by
    omega
  rwa [hvalue] at hunit

/-! ### The parts of a string -/

/-- The characters after a backslash, and what they stand for. -/
def shortEscapes : List (Char × Char) :=
  [('"', '"'), ('\\', '\\'), ('/', '/'), ('b', '\x08'), ('f', '\x0c'), ('n', '\n'), ('r', '\r'),
    ('t', '\t')]

/-- A text is made of these parts: characters that stand for themselves, short escapes, and
units. -/
inductive Parts : List Char → List Piece → Prop where
  | nil : Parts [] []
  | plain {c : Char} {cs : List Char} {ps : List Piece} (hquote : c ≠ '"') (hslash : c ≠ '\\')
    (hcontrol : 0x20 ≤ c.toNat) (h : Parts cs ps) : Parts (c :: cs) (.char c :: ps)
  | short {e c : Char} {cs : List Char} {ps : List Piece} (he : (e, c) ∈ shortEscapes)
    (h : Parts cs ps) : Parts ('\\' :: e :: cs) (.char c :: ps)
  | unit {a b c d : Char} {n : Nat} {cs : List Char} {ps : List Piece} (hn : IsUnit [a, b, c, d] n)
    (h : Parts cs ps) : Parts ('\\' :: 'u' :: a :: b :: c :: d :: cs) (.unit n :: ps)

/-- What parts denote: a unit is a character of the basic plane or one half of a surrogate pair. -/
inductive Denotes : List Piece → List Char → Prop where
  | nil : Denotes [] []
  | char {c : Char} {ps : List Piece} {s : List Char} (h : Denotes ps s) :
    Denotes (.char c :: ps) (c :: s)
  | unit {c : Char} {ps : List Piece} {s : List Char} (h : Denotes ps s) :
    Denotes (.unit c.toNat :: ps) (c :: s)
  | pair {hi lo : Nat} {c : Char} {ps : List Piece} {s : List Char}
    (hhi : 0xD800 ≤ hi ∧ hi ≤ 0xDBFF) (hlo : 0xDC00 ≤ lo ∧ lo ≤ 0xDFFF)
    (hc : c.toNat = 0x10000 + (hi - 0xD800) * 0x400 + (lo - 0xDC00)) (h : Denotes ps s) :
    Denotes (.unit hi :: .unit lo :: ps) (c :: s)

/-- A string in quotes, and the text that it denotes. Surrogates without partner leave it without
one. -/
inductive Quoted : Option String → List Char → Prop where
  | text {cs s : List Char} {ps : List Piece} (h : Parts cs ps) (hs : Denotes ps s) :
    Quoted (some (String.ofList s)) ('"' :: (cs ++ ['"']))
  | lone {cs : List Char} {ps : List Piece} (h : Parts cs ps) (hnone : ∀ s, ¬ Denotes ps s) :
    Quoted none ('"' :: (cs ++ ['"']))

variable {cs s : List Char} {ps : List Piece}

/-! ### Reading the parts -/

theorem escape?_of_mem {e c : Char} (h : (e, c) ∈ shortEscapes) : escape? e = some c ∧ e ≠ 'u' := by
  simp only [shortEscapes, List.mem_cons, Prod.mk.injEq, List.not_mem_nil, or_false] at h
  rcases h with ⟨rfl, rfl⟩ | ⟨rfl, rfl⟩ | ⟨rfl, rfl⟩ | ⟨rfl, rfl⟩ | ⟨rfl, rfl⟩ | ⟨rfl, rfl⟩ |
    ⟨rfl, rfl⟩ | ⟨rfl, rfl⟩ <;> decide

/-- Parts are read up to the closing quote. -/
theorem pieces?_of_parts (h : Parts cs ps) (rest : List Char) :
    pieces? (cs ++ '"' :: rest) = some (ps, rest) := by
  induction h with
  | nil => simp [pieces?]
  | plain hquote hslash hcontrol _ ih =>
    have hno : ¬ (_ = '\\' ∨ _ < 0x20) := not_or.2 ⟨hslash, Nat.not_lt.2 hcontrol⟩
    rw [List.cons_append, pieces?, ih, if_neg hno]
    -- the patterns before this one do not match
    · exact hquote
    · exact fun _ _ _ _ _ hc => absurd hc hslash
    · exact fun _ _ hc => absurd hc hslash
  | short he _ ih =>
    obtain ⟨hescape, hu⟩ := escape?_of_mem he
    rw [List.cons_append, List.cons_append, pieces?, hescape, ih]
    exact fun _ _ _ _ _ he => absurd he hu
  | unit hn _ ih =>
    simp only [List.cons_append]
    rw [pieces?, unit?_of_isUnit hn, ih]

theorem Parts.unit_lt (h : Parts cs ps) : ∀ n, .unit n ∈ ps → n < 0x10000 := by
  induction h with
  | nil => simp
  | plain _ _ _ _ ih => simpa using ih
  | short _ _ ih => simpa using ih
  | unit hn _ ih =>
    intro n hmem
    rcases List.mem_cons.1 hmem with heq | hmem
    · rw [Piece.unit.inj heq]
      exact hn.lt
    · exact ih n hmem

/-! ### What they denote -/

/-- No character is a surrogate. -/
theorem not_surrogate (c : Char) : isLeading c.toNat = false ∧ isTrailing c.toNat = false := by
  have hvalid : c.toNat < 0xD800 ∨ 0xDFFF < c.toNat ∧ c.toNat < 0x110000 := c.valid
  unfold isLeading isTrailing
  simp only [Bool.and_eq_false_iff, decide_eq_false_iff_not]
  omega

theorem content?_unit {n : Nat} (hlead : isLeading n = false) (htrail : isTrailing n = false)
    (ps : List Piece) : content? (.unit n :: ps) = (content? ps).map (Char.ofNat n :: ·) := by
  cases ps with
  | nil => simp [content?, hlead, htrail]
  | cons p ps => cases p <;> simp [content?, hlead, htrail]

theorem content?_pair {hi lo : Nat} (hlead : isLeading hi = true) (htrail : isTrailing lo = true)
    (ps : List Piece) : content? (.unit hi :: .unit lo :: ps) =
      (content? ps).map (Char.ofNat (0x10000 + (hi - 0xD800) * 0x400 + (lo - 0xDC00)) :: ·) := by
  rw [content?, if_pos hlead, if_pos htrail]

theorem content?_of_denotes (h : Denotes ps s) : content? ps = some s := by
  induction h with
  | nil => rfl
  | char _ ih => rw [content?, ih, Option.map_some]
  | @unit c _ _ _ ih =>
    rw [content?_unit (not_surrogate c).1 (not_surrogate c).2, ih, Option.map_some,
      Char.ofNat_toNat]
  | @pair hi lo c _ _ hhi hlo hc _ ih =>
    have hlead : isLeading hi = true := by simp [isLeading, hhi]
    have htrail : isTrailing lo = true := by simp [isTrailing, hlo]
    rw [content?_pair hlead htrail, ih, Option.map_some, ← hc, Char.ofNat_toNat]

theorem toNat_ofNat {n : Nat} (h : n < 0xD800 ∨ 0xDFFF < n ∧ n < 0x110000) :
    (Char.ofNat n).toNat = n := by
  have hvalid : n.isValidChar := h
  unfold Char.ofNat
  rw [dif_pos hvalid]
  rfl

/-- A unit that is no surrogate is a character. -/
theorem Denotes.of_not_surrogate {n : Nat} (hn : n < 0x10000) (hlead : isLeading n = false)
    (htrail : isTrailing n = false) (h : Denotes ps s) :
    Denotes (.unit n :: ps) (Char.ofNat n :: s) := by
  have hback : (Char.ofNat n).toNat = n := by
    apply toNat_ofNat
    simp only [isLeading, isTrailing, Bool.and_eq_false_iff, decide_eq_false_iff_not]
      at hlead htrail
    omega
  have hunit := Denotes.unit (c := Char.ofNat n) h
  rwa [hback] at hunit

/-- What is read from parts is what they denote. -/
theorem denotes_of_content? (hps : ∀ n, .unit n ∈ ps → n < 0x10000) (h : content? ps = some s) :
    Denotes ps s := by
  fun_induction content? ps generalizing s with
  | case1 =>
    obtain rfl := Option.some.inj h
    exact .nil
  | case2 c ps ih =>
    obtain ⟨s', hs', rfl⟩ := Option.map_eq_some_iff.1 h
    exact .char (ih (fun n hn => hps n (List.mem_cons_of_mem _ hn)) hs')
  | case3 hi lo ps hlead htrail ih =>
    obtain ⟨s', hs', rfl⟩ := Option.map_eq_some_iff.1 h
    have hrest := ih (fun n hn => hps n (by simp [hn])) hs'
    simp only [isLeading, isTrailing, Bool.and_eq_true, decide_eq_true_eq] at hlead htrail
    exact .pair hlead htrail (toNat_ofNat (by omega)) hrest
  | case4 hi lo ps hlead htrail => cases h
  | case5 hi lo ps hlead htrail => cases h
  | case6 hi lo ps hlead htrail ih =>
    obtain ⟨s', hs', rfl⟩ := Option.map_eq_some_iff.1 h
    have hrest := ih (fun n hn => hps n (List.mem_cons_of_mem _ hn)) hs'
    exact .of_not_surrogate (hps hi List.mem_cons_self) (eq_false_of_ne_true hlead)
      (eq_false_of_ne_true htrail) hrest
  | case7 n ps hps' hbad => cases h
  | case8 n ps hps' hgood ih =>
    obtain ⟨s', hs', rfl⟩ := Option.map_eq_some_iff.1 h
    have hrest := ih (fun n hn => hps n (List.mem_cons_of_mem _ hn)) hs'
    rw [not_or, Bool.not_eq_true, Bool.not_eq_true] at hgood
    exact .of_not_surrogate (hps n List.mem_cons_self) hgood.1 hgood.2 hrest

theorem string?_of_parts (h : Parts cs ps) (rest : List Char) :
    string? (cs ++ ['"'] ++ rest) = some (.string ((content? ps).map String.ofList), rest) := by
  have hclose : cs ++ ['"'] ++ rest = cs ++ '"' :: rest := by simp
  rw [hclose, string?, pieces?_of_parts h, Option.map_some]

/-- The token of a string holds what the string denotes. -/
theorem next?_of_quoted {content : Option String} (h : Quoted content ('"' :: cs))
    (rest : List Char) : next? '"' (cs ++ rest) = some (.string content, rest) := by
  show string? (cs ++ rest) = _
  cases h with
  | text hparts hdenotes =>
    rw [string?_of_parts hparts, content?_of_denotes hdenotes, Option.map_some]
  | lone hparts hnone =>
    rename_i ps
    have hcontent : content? ps = none := by
      cases hread : content? ps with
      | none => rfl
      | some s => exact absurd (denotes_of_content? hparts.unit_lt hread) (hnone s)
    rw [string?_of_parts hparts, hcontent, Option.map_none]

end Rebac.Json.Token
