/-!
# Cutting a text at a separator

`splitOn sep cs` cuts `cs` at the occurrences of `sep`: leftmost first and without overlap, so that
in `aaa` the separator `aa` occurs once. `join` puts the pieces together again; joining what was
cut gives the text back (`join_splitOn`).
-/

namespace Rebac.Text

/-- Puts `c` in front of the first piece. -/
def consFirst (c : Char) : List (List Char) → List (List Char)
  | [] => [[c]]
  | p :: ps => (c :: p) :: ps

/-- The pieces of a text between the occurrences of `sep`, which are taken leftmost first and do
not overlap. An empty separator occurs nowhere. -/
def splitOn (sep : List Char) : List Char → List (List Char)
  | [] => [[]]
  | c :: cs =>
    if sep.isPrefixOf (c :: cs) ∧ sep ≠ [] then [] :: splitOn sep (cs.drop (sep.length - 1))
    else consFirst c (splitOn sep cs)
termination_by cs => cs.length
decreasing_by all_goals simp; try omega

/-- The pieces with `sep` between each two. -/
def join (sep : List Char) : List (List Char) → List Char
  | [] => []
  | [p] => p
  | p :: ps => p ++ sep ++ join sep ps

theorem splitOn_ne_nil (sep cs : List Char) : splitOn sep cs ≠ [] := by
  fun_induction splitOn sep cs with
  | case1 => simp
  | case2 => simp
  | case3 c cs _ ih => cases h : splitOn sep cs <;> simp_all [consFirst]

theorem join_consFirst {sep : List Char} {c : Char} {ps : List (List Char)} (h : ps ≠ []) :
    join sep (consFirst c ps) = c :: join sep ps := by
  match ps, h with
  | [p], _ => rfl
  | p :: q :: qs, _ => simp [consFirst, join]

/-- Joining the pieces of a text gives the text. -/
theorem join_splitOn (sep cs : List Char) : join sep (splitOn sep cs) = cs := by
  fun_induction splitOn sep cs with
  | case1 => rfl
  | case2 c cs h ih =>
    obtain ⟨rest, hrest⟩ := List.isPrefixOf_iff_prefix.1 h.1
    obtain ⟨d, ds, rfl⟩ := List.exists_cons_of_ne_nil h.2
    obtain ⟨rfl, rfl⟩ : d = c ∧ ds ++ rest = cs := by simpa using hrest
    have hne := splitOn_ne_nil (d :: ds) ((ds ++ rest).drop ((d :: ds).length - 1))
    match hs : splitOn (d :: ds) ((ds ++ rest).drop ((d :: ds).length - 1)), hne with
    | p :: ps, _ => rw [hs] at ih; simp_all [join]
  | case3 c cs _ ih => rw [join_consFirst (splitOn_ne_nil sep cs), ih]

end Rebac.Text
