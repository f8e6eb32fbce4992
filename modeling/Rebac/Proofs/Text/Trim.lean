import Mathlib.Data.List.Basic
import Mathlib.Data.List.Infix
import Mathlib.Data.List.TakeWhile
import Rebac.Text.Blank
/-!
# Trimmed texts

A text is trimmed when neither end of it is blank. Trimming takes blanks off the ends of a text and
nothing else (`Text.exists_padding`), and what is left does not depend on how many there were
(`Text.trimChars_padded`). So a reader that trims a text first reads what it reads with any blanks
around it (`Text.exists_padded_iff`).
-/

namespace Rebac.Text

/-- No blank stands at either end. -/
structure Trimmed (cs : List Char) : Prop where
  head : ∀ c, cs.head? = some c → isBlank c = false
  last : ∀ c, cs.getLast? = some c → isBlank c = false

variable {cs front back : List Char}

theorem trimmed_trimChars (cs : List Char) : Trimmed (trimChars cs) :=
  ⟨fun _ => head?_trimChars, fun _ => getLast?_trimChars⟩

theorem dropBlankEnd_append (hback : ∀ c ∈ back, isBlank c = true) (cs : List Char) :
    dropBlankEnd (cs ++ back) = dropBlankEnd cs := by
  unfold dropBlankEnd
  rw [List.reverse_append, List.dropWhile_append_of_pos]
  simpa using hback

/-- Blanks around a text make no difference to what is left of it. -/
theorem trimChars_padded (hfront : ∀ c ∈ front, isBlank c = true)
    (hback : ∀ c ∈ back, isBlank c = true) (cs : List Char) :
    trimChars (front ++ cs ++ back) = trimChars cs := by
  unfold trimChars
  rw [List.append_assoc, List.dropWhile_append_of_pos hfront, List.dropWhile_append]
  split
  · next hblank =>
    -- the whole text is blank, and so is what follows it
    have hnone : back.dropWhile isBlank = [] := List.dropWhile_eq_nil_iff.2 hback
    rw [hnone, List.isEmpty_iff.1 hblank]
  · exact dropBlankEnd_append hback _

/-- Nothing but blanks is taken off. -/
theorem exists_padding (cs : List Char) :
    ∃ front back, (∀ c ∈ front, isBlank c = true) ∧ (∀ c ∈ back, isBlank c = true) ∧
      cs = front ++ trimChars cs ++ back := by
  refine ⟨cs.takeWhile isBlank, ((cs.dropWhile isBlank).reverse.takeWhile isBlank).reverse,
    fun c hc => List.mem_takeWhile_imp hc, ?_, ?_⟩
  · intro c hc
    exact List.mem_takeWhile_imp (List.mem_reverse.1 hc)
  · unfold trimChars dropBlankEnd
    rw [List.append_assoc, ← List.reverse_append, List.takeWhile_append_dropWhile,
      List.reverse_reverse, List.takeWhile_append_dropWhile]

theorem trimChars_isInfix (cs : List Char) : trimChars cs <:+: cs := by
  obtain ⟨front, back, -, -, hcs⟩ := exists_padding cs
  exact ⟨front, back, hcs.symm⟩

theorem trimChars_eq_self (h : Trimmed cs) : trimChars cs = cs := by
  have hfront : cs.dropWhile isBlank = cs := by
    cases cs with
    | nil => rfl
    | cons c cs => simp [h.head c rfl]
  have hback : cs.reverse.dropWhile isBlank = cs.reverse := by
    cases hrev : cs.reverse with
    | nil => rfl
    | cons c ds =>
      have hc : isBlank c = false := by
        apply h.last
        rw [← List.head?_reverse, hrev, List.head?_cons]
      simp [hc]
  unfold trimChars dropBlankEnd
  rw [hfront, hback, List.reverse_reverse]

theorem trimChars_eq_self_iff : trimChars cs = cs ↔ Trimmed cs := by
  constructor
  · intro h
    have htrimmed := trimmed_trimChars cs
    rwa [h] at htrimmed
  · exact trimChars_eq_self

theorem trimmed_of_forall (h : ∀ c ∈ cs, isBlank c = false) : Trimmed cs where
  head c hc := h c (List.mem_of_head? hc)
  last c hc := h c (List.mem_of_getLast? hc)

instance (cs : List Char) : Decidable (Trimmed cs) := decidable_of_iff _ trimChars_eq_self_iff

theorem trimChars_eq_nil_iff : trimChars cs = [] ↔ ∀ c ∈ cs, isBlank c = true := by
  constructor
  · intro hnil
    obtain ⟨front, back, hfront, hback, hcs⟩ := exists_padding cs
    rw [hnil, List.append_nil] at hcs
    intro c hc
    rw [hcs, List.mem_append] at hc
    exact hc.elim (hfront c) (hback c)
  · intro hblank
    have hpadded := trimChars_padded hblank (List.forall_mem_nil _) []
    rwa [List.append_nil, List.append_nil] at hpadded

/-- In a trimmed text, what comes before a blank is not all blank. -/
theorem Trimmed.trimChars_before_ne_nil {c : Char} (h : Trimmed (front ++ c :: back))
    (hc : isBlank c = true) : trimChars front ≠ [] := by
  intro hnil
  have hblank := trimChars_eq_nil_iff.1 hnil
  cases front with
  | nil =>
    have hnot := h.head c rfl
    rw [hc] at hnot
    cases hnot
  | cons d front =>
    have hnot := h.head d rfl
    rw [hblank d List.mem_cons_self] at hnot
    cases hnot

/-- Nor is what comes after it. -/
theorem Trimmed.trimChars_after_ne_nil {c : Char} (h : Trimmed (front ++ c :: back))
    (hc : isBlank c = true) : trimChars back ≠ [] := by
  intro hnil
  have hblank : ∀ d ∈ c :: back, isBlank d = true :=
    List.forall_mem_cons.2 ⟨hc, trimChars_eq_nil_iff.1 hnil⟩
  have hlast : (front ++ c :: back).getLast? =
      some ((c :: back).getLast (List.cons_ne_nil c back)) := by
    rw [List.getLast?_append, List.getLast?_eq_some_getLast (List.cons_ne_nil c back)]
    rfl
  have hnot := h.last _ hlast
  rw [hblank _ (List.getLast_mem _)] at hnot
  cases hnot

/-! ### The same of texts -/

/-- A text consists of these characters and blanks around them. -/
def Padded (cs : List Char) (s : String) : Prop :=
  ∃ front back, (∀ c ∈ front, isBlank c = true) ∧ (∀ c ∈ back, isBlank c = true) ∧
    s.toList = front ++ cs ++ back

theorem padded_trimChars (s : String) : Padded (trimChars s.toList) s :=
  exists_padding s.toList

/-- Trimming tells what is in the middle of a text. -/
theorem padded_iff (hcs : Trimmed cs) {s : String} :
    Padded cs s ↔ trimChars s.toList = cs := by
  constructor
  · intro h
    obtain ⟨front, back, hfront, hback, hs⟩ := h
    rw [hs, trimChars_padded hfront hback, trimChars_eq_self hcs]
  · rintro rfl
    exact padded_trimChars s

/-- A text of a kind that has no blanks at its ends is found by trimming. -/
theorem exists_padded_iff {kind : List Char → Prop} (hkind : ∀ cs, kind cs → Trimmed cs)
    {s : String} : (∃ cs, Padded cs s ∧ kind cs) ↔ kind (trimChars s.toList) := by
  constructor
  · intro hpadded
    obtain ⟨cs, hpadded, hcs⟩ := hpadded
    rwa [(padded_iff (hkind cs hcs)).1 hpadded]
  · intro hcs
    exact ⟨_, padded_trimChars s, hcs⟩

/-- Neither end of a text is blank. -/
def IsTrimmed (s : String) : Prop := Trimmed s.toList

instance (s : String) : Decidable (IsTrimmed s) := inferInstanceAs (Decidable (Trimmed s.toList))

theorem IsTrimmed.trim_eq {s : String} (h : IsTrimmed s) : trim s = s := by
  unfold trim
  rw [trimChars_eq_self h, String.ofList_toList]

/-- Blanks around a text make no difference to what is left of it. -/
theorem trim_padded (front back s : String) (hfront : ∀ c ∈ front.toList, isBlank c = true)
    (hback : ∀ c ∈ back.toList, isBlank c = true) :
    trim (front ++ s ++ back) = trim s := by
  unfold trim
  rw [String.toList_append, String.toList_append, trimChars_padded hfront hback]

end Rebac.Text
