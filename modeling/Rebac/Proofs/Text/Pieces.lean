import Mathlib.Data.List.Basic
import Mathlib.Data.List.Infix
import Rebac.Text.Split
/-!
# The pieces of a text

Where a text comes apart at a separator is said without the function that cuts it: at the leftmost
occurrence, and after that at the leftmost occurrence in what is left (`Text.Pieces`). There is one
way to do that, and cutting finds it (`Text.splitOn_eq_iff`). If the first character of a separator
does not stand in it again, its occurrences cannot overlap, so that texts joined by it come apart
one by one (`Text.splitOn_join`).
-/

namespace Rebac.Text

/-- The leftmost occurrence of `sep` in a text stands between `before` and `after`. -/
structure FirstCut (sep cs before after : List Char) : Prop where
  eq_append : cs = before ++ sep ++ after
  leftmost : ∀ b a, cs = b ++ sep ++ a → before.length ≤ b.length

/-- The pieces of a text between the occurrences of `sep`: each occurrence is the leftmost in what
is left after the one before. -/
inductive Pieces (sep : List Char) : List Char → List (List Char) → Prop where
  | whole {cs : List Char} (h : ¬ sep <:+: cs) : Pieces sep cs [cs]
  | cut {cs before after : List Char} {ps : List (List Char)} (h : FirstCut sep cs before after)
    (hrest : Pieces sep after ps) : Pieces sep cs (before :: ps)

variable {sep cs before after : List Char} {ps qs : List (List Char)}

/-! ### The leftmost occurrence -/

namespace FirstCut

theorem isInfix (h : FirstCut sep cs before after) : sep <:+: cs :=
  ⟨before, after, h.eq_append.symm⟩

/-- Two leftmost occurrences are the same. -/
theorem unique {before' after' : List Char} (h : FirstCut sep cs before after)
    (h' : FirstCut sep cs before' after') : before = before' ∧ after = after' := by
  have hle := h.leftmost _ _ h'.eq_append
  have hge := h'.leftmost _ _ h.eq_append
  have hboth : before ++ (sep ++ after) = before' ++ (sep ++ after') := by
    rw [← List.append_assoc, ← List.append_assoc, ← h.eq_append, h'.eq_append]
  obtain ⟨hbefore, hafter⟩ := List.append_inj hboth (Nat.le_antisymm hle hge)
  exact ⟨hbefore, List.append_cancel_left hafter⟩

/-- Nothing occurs before the leftmost occurrence. -/
theorem not_isInfix_before (hsep : sep ≠ []) (h : FirstCut sep cs before after) :
    ¬ sep <:+: before := by
  intro hoccurs
  obtain ⟨b, a, hbefore⟩ := hoccurs
  have hearlier := h.leftmost b (a ++ sep ++ after) (by simp [h.eq_append, ← hbefore])
  have hlength := congrArg List.length hbefore
  have hpos := List.length_pos_iff.2 hsep
  simp only [List.length_append] at hlength
  omega

theorem of_isPrefix (h : sep <+: cs) : FirstCut sep cs [] (cs.drop sep.length) where
  eq_append := by
    obtain ⟨rest, rfl⟩ := h
    simp
  leftmost _ _ _ := Nat.zero_le _

/-- A character in front at which `sep` does not begin belongs to what comes before it. -/
theorem cons {c : Char} (hnot : ¬ sep <+: c :: cs) (h : FirstCut sep cs before after) :
    FirstCut sep (c :: cs) (c :: before) after where
  eq_append := by simp [h.eq_append]
  leftmost b a heq := by
    cases b with
    | nil => exact absurd ⟨a, heq.symm⟩ hnot
    | cons d b =>
      have hle := h.leftmost b a (List.cons.inj heq).2
      simp only [List.length_cons]
      omega

/-- What follows the text does not move the leftmost occurrence in it. -/
theorem append (h : FirstCut sep cs before after) (more : List Char) :
    FirstCut sep (cs ++ more) before (after ++ more) where
  eq_append := by simp [h.eq_append]
  leftmost b a heq := by
    by_contra hlt
    -- an occurrence that begins earlier also ends earlier, so it lies in the text
    have hbegins : b ++ sep <+: cs := by
      apply List.prefix_of_prefix_length_le ⟨a, heq.symm⟩ (List.prefix_append cs more)
      have hlength := congrArg List.length h.eq_append
      simp only [List.length_append] at hlength ⊢
      omega
    obtain ⟨a', ha'⟩ := hbegins
    have hle := h.leftmost b a' ha'.symm
    omega

end FirstCut

/-! ### All occurrences -/

namespace Pieces

theorem ne_nil (h : Pieces sep cs ps) : ps ≠ [] := by
  cases h <;> exact List.cons_ne_nil _ _

/-- A text comes apart in one way only. -/
theorem unique (h : Pieces sep cs ps) (h' : Pieces sep cs qs) : ps = qs := by
  induction h generalizing qs with
  | whole hnone =>
    cases h' with
    | whole _ => rfl
    | cut hcut _ => exact absurd hcut.isInfix hnone
  | cut hcut _ ih =>
    cases h' with
    | whole hnone => exact absurd hcut.isInfix hnone
    | cut hcut' hrest' =>
      obtain ⟨rfl, rfl⟩ := hcut.unique hcut'
      rw [ih hrest']

/-- No piece holds the separator. -/
theorem not_isInfix (hsep : sep ≠ []) (h : Pieces sep cs ps) : ∀ p ∈ ps, ¬ sep <:+: p := by
  induction h with
  | whole hnone => simpa using hnone
  | cut hcut _ ih => exact List.forall_mem_cons.2 ⟨hcut.not_isInfix_before hsep, ih⟩

/-- A character in front at which `sep` does not begin belongs to the first piece. -/
theorem cons {c : Char} (hnot : ¬ sep <+: c :: cs) (h : Pieces sep cs ps) :
    Pieces sep (c :: cs) (consFirst c ps) := by
  cases h with
  | whole hnone =>
    refine .whole fun hoccurs => ?_
    rcases List.infix_cons_iff.1 hoccurs with hbegins | hrest
    · exact hnot hbegins
    · exact hnone hrest
  | cut hcut hrest => exact .cut (hcut.cons hnot) hrest

end Pieces

/-- Cutting finds the pieces. -/
theorem pieces_splitOn (hsep : sep ≠ []) (cs : List Char) : Pieces sep cs (splitOn sep cs) := by
  fun_induction splitOn sep cs with
  | case1 => exact .whole fun hoccurs => hsep (List.eq_nil_of_infix_nil hoccurs)
  | case2 c cs h ih =>
    have hdrop : (c :: cs).drop sep.length = cs.drop (sep.length - 1) := by
      obtain ⟨d, ds, rfl⟩ := List.exists_cons_of_ne_nil hsep
      rfl
    have hcut := FirstCut.of_isPrefix (List.isPrefixOf_iff_prefix.1 h.1)
    rw [hdrop] at hcut
    exact .cut hcut ih
  | case3 c cs h ih =>
    exact ih.cons fun hbegins => h ⟨List.isPrefixOf_iff_prefix.2 hbegins, hsep⟩

theorem splitOn_eq_iff (hsep : sep ≠ []) : splitOn sep cs = ps ↔ Pieces sep cs ps := by
  constructor
  · rintro rfl
    exact pieces_splitOn hsep cs
  · intro h
    exact (pieces_splitOn hsep cs).unique h

/-- A text stays whole when the separator does not occur in it. -/
theorem splitOn_eq_singleton_iff (hsep : sep ≠ []) : splitOn sep cs = [cs] ↔ ¬ sep <:+: cs := by
  constructor
  · intro h
    exact (pieces_splitOn hsep cs).not_isInfix hsep cs (by simp [h])
  · intro hnone
    exact (splitOn_eq_iff hsep).2 (.whole hnone)

/-- `sep` occurs `k` times in a text, counted from the left and without overlap. -/
def OccursTimes (sep cs : List Char) (k : Nat) : Prop :=
  ∃ ps, Pieces sep cs ps ∧ ps.length = k + 1

/-- It occurs some number of times, and not also another. -/
theorem existsUnique_occursTimes (hsep : sep ≠ []) (cs : List Char) :
    ∃! k, OccursTimes sep cs k := by
  have hpieces := pieces_splitOn hsep cs
  have hpos := List.length_pos_iff.2 hpieces.ne_nil
  refine ⟨(splitOn sep cs).length - 1, ⟨_, hpieces, by omega⟩, ?_⟩
  rintro k ⟨ps, hps, hlength⟩
  rw [hpieces.unique hps]
  omega

/-! ### Joined texts -/

theorem join_eq_intercalate (sep : List Char) (ps : List (List Char)) :
    join sep ps = sep.intercalate ps := by
  fun_induction join sep ps with
  | case1 => rfl
  | case2 p => simp
  | case3 p ps hps ih =>
    cases ps with
    | nil => exact absurd rfl hps
    | cons q qs => rw [ih, List.intercalate_cons_cons]

section Joined

variable {c : Char} {p q : List Char}

/-- A separator whose first character does not stand in it again is first found where it is put. -/
theorem firstCut_append (hc : c ∉ sep) (hnone : ¬ c :: sep <:+: before) (after : List Char) :
    FirstCut (c :: sep) (before ++ c :: sep ++ after) before after where
  eq_append := rfl
  leftmost b a heq := by
    by_contra hlt
    rw [List.append_assoc, List.append_assoc] at heq
    rcases List.append_eq_append_iff.1 heq with ⟨as, hb, -⟩ | ⟨front, hbefore, hoverlap⟩
    · have hlength := congrArg List.length hb
      simp only [List.length_append] at hlength
      omega
    -- an earlier occurrence begins with `front`: it may end in there, or reach into the other one
    rcases List.append_eq_append_iff.1 hoverlap with ⟨as, hfront, -⟩ | ⟨back, hsep, hback⟩
    · exact hnone ⟨b, as, by rw [hbefore, hfront, List.append_assoc]⟩
    · cases front with
      | nil =>
        rw [hbefore, List.append_nil] at hlt
        exact hlt (Nat.le_refl _)
      | cons d front =>
        obtain ⟨rfl, htail⟩ := List.cons.inj hsep
        cases back with
        | nil => exact hnone ⟨b, [], by rw [hbefore, hsep, List.append_nil, List.append_nil]⟩
        | cons e back =>
          -- there the separator has its first character once more
          obtain ⟨rfl, -⟩ := List.cons.inj hback
          rw [htail] at hc
          exact hc (List.mem_append_right front List.mem_cons_self)

/-- Two texts with such a separator between them come apart as each of them does. -/
theorem Pieces.append (hc : c ∉ sep) (hp : Pieces (c :: sep) p ps) (hq : Pieces (c :: sep) q qs) :
    Pieces (c :: sep) (p ++ c :: sep ++ q) (ps ++ qs) := by
  induction hp with
  | whole hnone => exact .cut (firstCut_append hc hnone q) hq
  | cut hcut _ ih =>
    have hlonger := hcut.append (c :: sep ++ q)
    rw [← List.append_assoc, ← List.append_assoc] at hlonger
    exact .cut hlonger ih

theorem splitOn_append (hc : c ∉ sep) (p q : List Char) :
    splitOn (c :: sep) (p ++ c :: sep ++ q) = splitOn (c :: sep) p ++ splitOn (c :: sep) q := by
  have hne : c :: sep ≠ [] := List.cons_ne_nil c sep
  exact (splitOn_eq_iff hne).2 ((pieces_splitOn hne p).append hc (pieces_splitOn hne q))

/-- Joined texts come apart as each of them does. -/
theorem splitOn_join (hc : c ∉ sep) (hps : ps ≠ []) :
    splitOn (c :: sep) (join (c :: sep) ps) = ps.flatMap (splitOn (c :: sep)) := by
  fun_induction join (c :: sep) ps with
  | case1 => exact absurd rfl hps
  | case2 p => simp
  | case3 p ps hnext ih =>
    rw [splitOn_append hc, ih hnext, List.flatMap_cons]

end Joined

end Rebac.Text
