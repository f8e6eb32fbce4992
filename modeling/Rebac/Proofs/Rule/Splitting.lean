import Rebac.Proofs.Rule.Compile
import Rebac.Proofs.Text.Pieces
import Rebac.Proofs.Text.Trim
/-!
# Splitting a rule

A rule is its clauses with ` or` between them, and splitting undoes the joining: the one takes a
rule to the texts without ` or` of which it is made, the other takes such texts to the rule. People
write a blank after ` or` as well. Then a clause that begins with `or` makes one more separator
together with that blank, and nothing else does (`split_rule_inverts_join`).
-/

namespace Rebac

theorem toList_or : " or".toList = clauseSeparator := by decide

theorem clauseSeparator_ne_nil : clauseSeparator ≠ [] := by decide

section Splitting

variable {text : String} {texts : List String}

/-- Joining the texts of a rule gives the rule. -/
theorem intercalate_splitRule (rule : String) : " or".intercalate (splitRule rule) = rule := by
  have hjoin := Text.join_splitOn clauseSeparator rule.toList
  rw [Text.join_eq_intercalate] at hjoin
  apply String.toList_injective
  unfold splitRule
  rw [String.toList_intercalate, toList_or, List.map_map]
  simpa [Function.comp_def] using hjoin

theorem not_isInfix_of_mem_splitRule {rule : String} (h : text ∈ splitRule rule) :
    ¬ " or".toList <:+: text.toList := by
  obtain ⟨piece, hpiece, rfl⟩ := List.mem_map.1 h
  rw [toList_or, String.toList_ofList]
  exact (Text.pieces_splitOn clauseSeparator_ne_nil _).not_isInfix clauseSeparator_ne_nil _ hpiece

/-- A text without separator is one clause. -/
theorem splitRule_eq_singleton (h : ¬ " or".toList <:+: text.toList) : splitRule text = [text] := by
  rw [toList_or] at h
  unfold splitRule
  rw [(Text.splitOn_eq_singleton_iff clauseSeparator_ne_nil).2 h, List.map_singleton,
    String.ofList_toList]

/-- A joined rule has the clauses of the texts that were joined. -/
theorem splitRule_intercalate (h : texts ≠ []) :
    splitRule (" or".intercalate texts) = texts.flatMap splitRule := by
  have hne : texts.map String.toList ≠ [] := by simpa using h
  have hsplit : Text.splitOn clauseSeparator (Text.join clauseSeparator (texts.map String.toList)) =
      (texts.map String.toList).flatMap (Text.splitOn clauseSeparator) :=
    Text.splitOn_join (by decide) hne
  unfold splitRule
  rw [String.toList_intercalate, ← Text.join_eq_intercalate, toList_or, hsplit, List.map_flatMap,
    List.flatMap_map]

theorem flatMap_splitRule (h : ∀ text ∈ texts, ¬ " or".toList <:+: text.toList) :
    texts.flatMap splitRule = texts := by
  have heach : ∀ text ∈ texts, splitRule text = [text] :=
    fun text hmem => splitRule_eq_singleton (h text hmem)
  rw [List.flatMap_congr heach, ← List.map_eq_flatMap, List.map_id']

theorem length_splitRule_pos (rule : String) : 1 ≤ (splitRule rule).length :=
  List.length_pos_iff.2 (splitRule_ne_nil rule)

theorem length_le_length_flatMap_splitRule (texts : List String) :
    texts.length ≤ (texts.flatMap splitRule).length := by
  induction texts with
  | nil => exact Nat.le_refl 0
  | cons text rest ih =>
    have hpos := length_splitRule_pos text
    rw [List.flatMap_cons, List.length_append, List.length_cons]
    omega

/-- If joining makes no further clauses, then no text holds a separator. -/
theorem not_isInfix_of_length_flatMap (h : (texts.flatMap splitRule).length = texts.length) :
    ∀ text ∈ texts, ¬ " or".toList <:+: text.toList := by
  induction texts with
  | nil => exact List.forall_mem_nil _
  | cons text rest ih =>
    rw [List.flatMap_cons, List.length_append, List.length_cons] at h
    have hpos := length_splitRule_pos text
    have hle := length_le_length_flatMap_splitRule rest
    obtain ⟨only, honly⟩ := List.length_eq_one_iff.1 (show (splitRule text).length = 1 by omega)
    -- the only clause of a text is the text
    have hself := intercalate_splitRule text
    rw [honly, String.intercalate_singleton] at hself
    have hmem : text ∈ splitRule text := by
      rw [honly, hself]
      exact List.mem_singleton_self text
    exact List.forall_mem_cons.2 ⟨not_isInfix_of_mem_splitRule hmem, ih (by omega)⟩

/-! ### Blanks after the separator -/

theorem intercalate_append_cons (sep front text : String) (rest : List String) :
    sep.intercalate ((front ++ text) :: rest) = front ++ sep.intercalate (text :: rest) := by
  cases rest with
  | nil => rw [String.intercalate_singleton, String.intercalate_singleton]
  | cons next rest =>
    rw [String.intercalate_cons_cons, String.intercalate_cons_cons, String.append_assoc,
      String.append_assoc, String.append_assoc]

/-- A blank after each separator is a blank in front of each clause but the first. -/
theorem intercalate_or_blank (clause : String) (rest : List String) :
    " or ".intercalate (clause :: rest) = " or".intercalate (clause :: rest.map (" " ++ ·)) := by
  induction rest generalizing clause with
  | nil => rw [List.map_nil, String.intercalate_singleton, String.intercalate_singleton]
  | cons next rest ih =>
    have hblank : " or " = " or" ++ " " := by decide
    rw [List.map_cons, String.intercalate_cons_cons, String.intercalate_cons_cons, ih next,
      intercalate_append_cons, hblank, ← String.append_assoc, ← String.append_assoc]

/-- A blank in front of a clause makes a separator just if the clause begins with `or`. -/
theorem isInfix_blank_append_iff (clause : String) :
    " or".toList <:+: (" " ++ clause).toList ↔
      "or".toList <+: clause.toList ∨ " or".toList <:+: clause.toList := by
  rw [String.toList_append]
  show ' ' :: "or".toList <:+: ' ' :: clause.toList ↔ _
  rw [List.infix_cons_iff, List.cons_prefix_cons]
  simp only [true_and]
  exact Iff.rfl

end Splitting

/-- Splitting and joining are inverse to each other between all rules and all lists of texts without
` or`, of which there is at least one. So trimmed clauses with ` or ` between them come back from
the rule just if none of them holds ` or` and none but the first begins with `or`. -/
theorem split_rule_inverts_join :
    (∀ rule : String, splitRule rule ≠ [] ∧
      (∀ text ∈ splitRule rule, ¬ " or".toList <:+: text.toList) ∧
      " or".intercalate (splitRule rule) = rule) ∧
    (∀ texts : List String, texts ≠ [] → (∀ text ∈ texts, ¬ " or".toList <:+: text.toList) →
      splitRule (" or".intercalate texts) = texts) ∧
    ∀ clauses : List String, clauses ≠ [] → (∀ clause ∈ clauses, Text.IsTrimmed clause) →
      ((splitRule (" or ".intercalate clauses)).map Text.trim = clauses ↔
        (∀ clause ∈ clauses, ¬ " or".toList <:+: clause.toList) ∧
          ∀ clause ∈ clauses.tail, ¬ "or".toList <+: clause.toList) := by
  refine ⟨?_, ?_, ?_⟩
  · intro rule
    exact ⟨splitRule_ne_nil rule, fun _ => not_isInfix_of_mem_splitRule,
      intercalate_splitRule rule⟩
  · intro texts hne hnone
    rw [splitRule_intercalate hne, flatMap_splitRule hnone]
  · intro clauses hne htrimmed
    obtain ⟨clause, rest, rfl⟩ := List.exists_cons_of_ne_nil hne
    obtain ⟨hclause, hrest⟩ := List.forall_mem_cons.1 htrimmed
    rw [intercalate_or_blank, splitRule_intercalate (List.cons_ne_nil _ _)]
    constructor
    · intro hback
      -- as many clauses come back as were joined, so none holds a separator
      have hlength := congrArg List.length hback
      rw [List.length_map] at hlength
      have hnone := not_isInfix_of_length_flatMap (by rw [hlength]; simp)
      obtain ⟨hfirst, hblank⟩ := List.forall_mem_cons.1 hnone
      have hboth : ∀ next ∈ rest,
          ¬ "or".toList <+: next.toList ∧ ¬ " or".toList <:+: next.toList := by
        intro next hnext
        have hnot := hblank _ (List.mem_map_of_mem hnext)
        rwa [isInfix_blank_append_iff, not_or] at hnot
      exact ⟨List.forall_mem_cons.2 ⟨hfirst, fun next hnext => (hboth next hnext).2⟩,
        fun next hnext => (hboth next hnext).1⟩
    · rintro ⟨hoccurs, hbegins⟩
      obtain ⟨hfirst, hothers⟩ := List.forall_mem_cons.1 hoccurs
      rw [flatMap_splitRule, List.map_cons, hclause.trim_eq, List.map_map]
      · have heach : ∀ next ∈ rest, (Text.trim ∘ (" " ++ ·)) next = id next := by
          intro next hnext
          have htrim := Text.trim_padded " " "" next (List.forall_mem_singleton.2 rfl)
            (List.forall_mem_nil _)
          rw [String.append_empty, (hrest next hnext).trim_eq] at htrim
          exact htrim
        rw [List.map_congr_left heach, List.map_id]
      · refine List.forall_mem_cons.2 ⟨hfirst, ?_⟩
        intro text htext
        obtain ⟨next, hnext, rfl⟩ := List.mem_map.1 htext
        rw [isInfix_blank_append_iff, not_or]
        exact ⟨hbegins next hnext, hothers next hnext⟩

/-- A clause that holds `or` inside a word comes back, and one that begins with it does not. -/
theorem split_rule_inverts_join_owner :
    splitRule (" or".intercalate ["owner", " member from Team"]) =
        ["owner", " member from Team"] ∧
      (splitRule (" or ".intercalate ["owner", "editor", "member from Team"])).map Text.trim =
        ["owner", "editor", "member from Team"] ∧
      (splitRule (" or ".intercalate ["owner", "ordinal"])).map Text.trim ≠
        ["owner", "ordinal"] := by
  obtain ⟨-, htexts, hclauses⟩ := split_rule_inverts_join
  refine ⟨htexts _ (by decide) (by decide), (hclauses _ (by decide) (by decide)).2 (by decide), ?_⟩
  intro hback
  exact absurd ((hclauses _ (by decide) (by decide)).1 hback).2 (by decide)

end Rebac
