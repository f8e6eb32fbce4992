import Mathlib.Data.List.TakeWhile
import Rebac.Identifier
/-!
# Reading identifiers

An identifier says itself where it ends: a plain one ends before the first character that cannot be
a part of it, a quoted one at the first backtick that is not doubled. `Identifier.BeginsWith` says
so of a text and the identifier at its front, and `Identifier.read` takes just such an identifier
off the text (`Identifier.read_eq_some_iff`). What is written for a name is therefore read as that
name, whatever the name is (`Identifier.quote_delimits_itself`), as long as what follows does not go
on with the identifier (`Identifier.isEndedBy`).
-/

namespace Rebac.Identifier

/-! ### The reader -/

/-- Reads on after the opening backtick, up to the first backtick that is not doubled: the name
without doubling, and the rest of the text. -/
def readQuoted : List Char → Option (List Char × List Char)
  | [] => none
  | [c] => if c = tick then some ([], []) else none
  | c :: d :: cs =>
    if c ≠ tick then (readQuoted (d :: cs)).map fun (name, rest) => (c :: name, rest)
    else if d = tick then (readQuoted cs).map fun (name, rest) => (tick :: name, rest)
    else some ([], d :: cs)

/-- Reads the name of an identifier off the front of a text. -/
def read : List Char → Option (List Char × List Char)
  | [] => none
  | c :: cs =>
    if c = tick then readQuoted cs
    else if isLetter c then some (c :: cs.takeWhile isPart, cs.dropWhile isPart)
    else none

/-- Whether an identifier ends before this text: it is empty, or does not go on with a part of an
identifier or a backtick. -/
def isEndedBy : List Char → Bool
  | [] => true
  | c :: _ => !isPart c && c != tick

/-! ### What there is to read -/

/-- The first text is the second with every backtick written twice. -/
inductive Doubles : List Char → List Char → Prop where
  | nil : Doubles [] []
  | other {c : Char} {body name : List Char} (hc : c ≠ tick) (h : Doubles body name) :
    Doubles (c :: body) (c :: name)
  | pair {body name : List Char} (h : Doubles body name) :
    Doubles (tick :: tick :: body) (tick :: name)

/-- An ASCII letter, an ASCII digit or an underscore. -/
def IsWordChar (c : Char) : Prop := c.isAlphanum = true ∨ c = '_'

/-- A text begins with an identifier of this name, and this is what follows it. -/
inductive BeginsWith : List Char → List Char → List Char → Prop where
  /-- The longest run of letters, digits and underscores, of which the first is no digit. -/
  | plain {c : Char} {cs rest : List Char} (hfirst : c.isAlpha = true ∨ c = '_')
    (hparts : ∀ d ∈ cs, IsWordChar d) (hlongest : ∀ d, rest.head? = some d → ¬ IsWordChar d) :
    BeginsWith (c :: (cs ++ rest)) (c :: cs) rest
  /-- What stands between a backtick and the first one after it that is not doubled. -/
  | quoted {body name rest : List Char} (hbody : Doubles body name)
    (hclosed : rest.head? ≠ some tick) :
    BeginsWith (tick :: (body ++ tick :: rest)) name rest

variable {text name rest : List Char} {c : Char}

theorem isLetter_iff : isLetter c = true ↔ c.isAlpha = true ∨ c = '_' := by
  have hupper : ('A' ≤ c && c ≤ 'Z') = c.isUpper := (Bool.decide_and _ _).symm
  have halpha : (('a' ≤ c && c ≤ 'z') || ('A' ≤ c && c ≤ 'Z')) = c.isAlpha := by
    rw [hupper, Bool.or_comm]
    rfl
  rw [isLetter, halpha, Bool.or_eq_true, beq_iff_eq]

theorem isPart_iff : isPart c = true ↔ IsWordChar c := by
  have hdigit : ('0' ≤ c && c ≤ '9') = c.isDigit := rfl
  rw [isPart, hdigit, IsWordChar, Char.isAlphanum, Bool.or_eq_true, Bool.or_eq_true, isLetter_iff,
    or_right_comm]

theorem isEndedBy_iff :
    isEndedBy rest = true ↔ ∀ d, rest.head? = some d → ¬ IsWordChar d ∧ d ≠ tick := by
  cases rest with
  | nil => simp [isEndedBy]
  | cons d rest => simp [isEndedBy, ← isPart_iff]

/-! ### Quoted names -/

/-- A backtick closes where no other follows it. -/
theorem readQuoted_tick (h : rest.head? ≠ some tick) :
    readQuoted (tick :: rest) = some ([], rest) := by
  cases rest with
  | nil => rfl
  | cons d rest =>
    have hd : d ≠ tick := fun heq => h (congrArg some heq)
    rw [readQuoted, if_neg (not_not.2 rfl), if_neg hd]

theorem readQuoted_cons {cs : List Char} (h : c ≠ tick) (hcs : cs ≠ []) :
    readQuoted (c :: cs) = (readQuoted cs).map fun (name, rest) => (c :: name, rest) := by
  cases cs with
  | nil => exact absurd rfl hcs
  | cons d cs => rw [readQuoted, if_pos h]

theorem readQuoted_tick_tick (cs : List Char) :
    readQuoted (tick :: tick :: cs) =
      (readQuoted cs).map fun (name, rest) => (tick :: name, rest) := by
  rw [readQuoted, if_neg (not_not.2 rfl), if_pos rfl]

/-- What is quoted is read up to the closing backtick. -/
theorem readQuoted_of_doubles {body : List Char} (hbody : Doubles body name)
    (hclosed : rest.head? ≠ some tick) :
    readQuoted (body ++ tick :: rest) = some (name, rest) := by
  induction hbody with
  | nil => exact readQuoted_tick hclosed
  | other hc _ ih =>
    rw [List.cons_append, readQuoted_cons hc (by simp), ih]
    rfl
  | pair _ ih =>
    rw [List.cons_append, List.cons_append, readQuoted_tick_tick, ih]
    rfl

/-- Nothing else is read after an opening backtick. -/
theorem exists_doubles_of_readQuoted (h : readQuoted text = some (name, rest)) :
    ∃ body, Doubles body name ∧ text = body ++ tick :: rest ∧ rest.head? ≠ some tick := by
  fun_induction readQuoted text generalizing name rest with
  | case1 => cases h
  | case2 =>
    -- the text ends with the closing backtick
    obtain ⟨rfl, rfl⟩ := Prod.mk.inj (Option.some.inj h)
    exact ⟨[], .nil, rfl, by simp⟩
  | case3 => cases h
  | case4 c d cs hc ih =>
    obtain ⟨found, hfound, heq⟩ := Option.map_eq_some_iff.1 h
    obtain ⟨rfl, rfl⟩ := Prod.mk.inj heq
    obtain ⟨body, hbody, htext, hclosed⟩ := ih hfound
    exact ⟨c :: body, .other hc hbody, congrArg (c :: ·) htext, hclosed⟩
  | case5 c cs hc ih =>
    obtain rfl : c = tick := not_not.1 hc
    obtain ⟨found, hfound, heq⟩ := Option.map_eq_some_iff.1 h
    obtain ⟨rfl, rfl⟩ := Prod.mk.inj heq
    obtain ⟨body, hbody, htext, hclosed⟩ := ih hfound
    exact ⟨tick :: tick :: body, .pair hbody, congrArg (tick :: tick :: ·) htext, hclosed⟩
  | case6 c d cs hc hd =>
    obtain rfl : c = tick := not_not.1 hc
    obtain ⟨rfl, rfl⟩ := Prod.mk.inj (Option.some.inj h)
    exact ⟨[], .nil, rfl, fun heq => hd (Option.some.inj heq)⟩

/-! ### All identifiers -/

theorem ne_tick_of_isWordChar (h : IsWordChar c) : c ≠ tick := by
  rintro rfl
  revert h
  unfold IsWordChar
  decide

theorem isWordChar_of_first (h : c.isAlpha = true ∨ c = '_') : IsWordChar c :=
  h.imp_left fun halpha => by rw [Char.isAlphanum, halpha, Bool.true_or]

/-- A run of parts is taken whole off the front of a text that ends it. -/
theorem takeWhile_append_of_longest {cs : List Char} (hparts : ∀ d ∈ cs, IsWordChar d)
    (hlongest : ∀ d, rest.head? = some d → ¬ IsWordChar d) :
    (cs ++ rest).takeWhile isPart = cs ∧ (cs ++ rest).dropWhile isPart = rest := by
  have hpos : ∀ d ∈ cs, isPart d = true := fun d hd => isPart_iff.2 (hparts d hd)
  have hstop : rest.takeWhile isPart = [] ∧ rest.dropWhile isPart = rest := by
    cases rest with
    | nil => exact ⟨rfl, rfl⟩
    | cons d rest =>
      have hd : ¬ isPart d = true := fun hpart => hlongest d rfl (isPart_iff.1 hpart)
      simp [hd]
  rw [List.takeWhile_append_of_pos hpos, List.dropWhile_append_of_pos hpos, hstop.1, hstop.2,
    List.append_nil]
  exact ⟨rfl, rfl⟩

/-- Just the identifier with which a text begins is read off it. -/
theorem read_eq_some_iff : read text = some (name, rest) ↔ BeginsWith text name rest := by
  constructor
  · intro h
    cases text with
    | nil => cases h
    | cons c cs =>
      rw [read] at h
      split at h
      · next hc =>
        obtain ⟨body, hbody, rfl, hclosed⟩ := exists_doubles_of_readQuoted h
        rw [hc]
        exact .quoted hbody hclosed
      · split at h
        · next hfirst =>
          obtain ⟨rfl, rfl⟩ := Prod.mk.inj (Option.some.inj h)
          have hparts : ∀ d ∈ cs.takeWhile isPart, IsWordChar d :=
            fun d hd => isPart_iff.1 (List.mem_takeWhile_imp hd)
          have hlongest : ∀ d, (cs.dropWhile isPart).head? = some d → ¬ IsWordChar d := by
            intro d hd hword
            have hnot := List.head?_dropWhile_not isPart cs
            rw [hd] at hnot
            exact absurd (isPart_iff.2 hword) (by simpa using hnot)
          have hplain := BeginsWith.plain (isLetter_iff.1 hfirst) hparts hlongest
          rwa [List.takeWhile_append_dropWhile] at hplain
        · cases h
  · intro h
    cases h with
    | plain hfirst hparts hlongest =>
      obtain ⟨htake, hdrop⟩ := takeWhile_append_of_longest hparts hlongest
      rw [read, if_neg (ne_tick_of_isWordChar (isWordChar_of_first hfirst)),
        if_pos (isLetter_iff.2 hfirst), htake, hdrop]
    | quoted hbody hclosed =>
      rw [read, if_pos rfl]
      exact readQuoted_of_doubles hbody hclosed

/-! ### What is written for a name -/

theorem doubles_doubled (name : List Char) : Doubles (doubled name) name := by
  induction name with
  | nil => exact .nil
  | cons c cs ih =>
    by_cases hc : c = tick
    · subst hc
      exact .pair ih
    · have hdoubled : doubled (c :: cs) = c :: doubled cs := by
        simp [doubled, hc]
      rw [hdoubled]
      exact .other hc ih

/-- What is written for a name is an identifier of that name, in front of all that ends it. -/
theorem beginsWith_quoteChars (name : List Char) (h : isEndedBy rest = true) :
    BeginsWith (quoteChars name ++ rest) name rest := by
  have hends := isEndedBy_iff.1 h
  unfold quoteChars
  by_cases hplain : isPlain name = true
  · rw [if_pos hplain]
    cases name with
    | nil => cases hplain
    | cons c cs =>
      obtain ⟨hfirst, hparts⟩ := Bool.and_eq_true_iff.1 hplain
      exact .plain (isLetter_iff.1 hfirst)
        (fun d hd => isPart_iff.1 (List.all_eq_true.1 hparts d hd)) fun d hd => (hends d hd).1
  · have htext : tick :: doubled name ++ [tick] ++ rest = tick :: (doubled name ++ tick :: rest) := by
      simp
    rw [if_neg hplain, htext]
    exact .quoted (doubles_doubled name) fun hhead => (hends tick hhead).2 rfl

/-- The identifier of a name is read as that name, and the rest of the text is left. -/
theorem read_quoteChars (name : List Char) (h : isEndedBy rest = true) :
    read (quoteChars name ++ rest) = some (name, rest) :=
  read_eq_some_iff.2 (beginsWith_quoteChars name h)

/-- Reads the name of an identifier as a text. -/
def readName (cs : List Char) : Option (String × List Char) :=
  (read cs).map fun (name, rest) => (String.ofList name, rest)

theorem readName_quote (name : String) {rest : List Char} (h : isEndedBy rest = true) :
    readName ((quote name).toList ++ rest) = some (name, rest) := by
  unfold readName quote
  rw [String.toList_ofList, read_quoteChars name.toList h, Option.map_some]
  show some (String.ofList name.toList, rest) = some (name, rest)
  rw [String.ofList_toList]

/-- What is written for a name, in front of a text that is empty or goes on with neither a letter, a
digit, an underscore nor a backtick, is read as that name and leaves that text; and these are the
only identifier with which it all begins and the only rest. -/
theorem quote_delimits_itself (name rest : String)
    (hrest : ∀ c, rest.toList.head? = some c → ¬ IsWordChar c ∧ c ≠ tick) :
    read (quote name ++ rest).toList = some (name.toList, rest.toList) ∧
      ∀ found left, BeginsWith (quote name ++ rest).toList found left ↔
        found = name.toList ∧ left = rest.toList := by
  have htext : (quote name ++ rest).toList = quoteChars name.toList ++ rest.toList := by
    rw [String.toList_append, quote, String.toList_ofList]
  have hread : read (quote name ++ rest).toList = some (name.toList, rest.toList) := by
    rw [htext]
    exact read_quoteChars name.toList (isEndedBy_iff.2 hrest)
  refine ⟨hread, ?_⟩
  intro found left
  rw [← read_eq_some_iff, hread, Option.some.injEq, Prod.mk.injEq, eq_comm, @eq_comm _ left]

/-- A name of backticks around a text that looks like the end of an identifier. -/
theorem quote_delimits_itself_hostile :
    let name := "\x60\x60) RETURN s\x60"
    let rest := ") RETURN o"
    (∀ c, rest.toList.head? = some c → ¬ IsWordChar c ∧ c ≠ tick) ∧
      quote name = "\x60\x60\x60\x60\x60) RETURN s\x60\x60\x60" ∧
      read (quote name ++ rest).toList = some (name.toList, rest.toList) := by
  intro name rest
  have hrest : ∀ c, rest.toList.head? = some c → ¬ IsWordChar c ∧ c ≠ tick := by
    have hhead : rest.toList.head? = some ')' := by decide
    intro c hc
    obtain rfl : ')' = c := Option.some.inj (hhead.symm.trans hc)
    unfold IsWordChar
    decide
  exact ⟨hrest, by decide, (quote_delimits_itself name rest hrest).1⟩

end Rebac.Identifier
