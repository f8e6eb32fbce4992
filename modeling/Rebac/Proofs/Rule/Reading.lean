import Rebac.Proofs.Rule.Fault
import Rebac.Proofs.Text.Pieces
import Rebac.Proofs.Text.Trim
/-!
# Which clause a text is

What a text is as a clause depends on how often ` from ` occurs in it once it has been trimmed,
where occurrences are counted from the left and do not overlap. Without one it is a direct clause,
with one a chained clause of its two sides, and with more it is no clause
(`Clause.parse_by_occurrences`). The separator begins and ends with a blank, and a trimmed text does
not: so there is always something on both sides.
-/

namespace Rebac

namespace Clause

theorem toList_from : " from ".toList = chainSeparator := by decide

theorem chainSeparator_ne_nil : chainSeparator ≠ [] := by decide

section Sides

variable {t before after : List Char}

/-- Something other than blanks stands before a separator in a trimmed text, -/
theorem trimChars_before_ne_nil (h : Text.FirstCut chainSeparator t before after)
    (ht : Text.Trimmed t) : Text.trimChars before ≠ [] := by
  have hsplit : t = before ++ ' ' :: (['f', 'r', 'o', 'm', ' '] ++ after) := by
    rw [h.eq_append, List.append_assoc]
    rfl
  rw [hsplit] at ht
  exact ht.trimChars_before_ne_nil (by decide)

/-- and after it. -/
theorem trimChars_after_ne_nil (h : Text.FirstCut chainSeparator t before after)
    (ht : Text.Trimmed t) : Text.trimChars after ≠ [] := by
  have hsplit : t = before ++ [' ', 'f', 'r', 'o', 'm'] ++ ' ' :: after := by
    rw [h.eq_append, List.append_assoc, List.append_assoc]
    rfl
  rw [hsplit] at ht
  exact ht.trimChars_after_ne_nil (by decide)

end Sides

/-- The sides of the only occurrence of ` from ` in a text, without the blanks around them. -/
structure SidesOf (t relation relatedType : String) : Prop where
  cut : ∃ before after, Text.FirstCut " from ".toList t.toList before after ∧
    relation = Text.trim (String.ofList before) ∧ relatedType = Text.trim (String.ofList after)
  relation_ne : relation ≠ ""
  relatedType_ne : relatedType ≠ ""
  relation_trimmed : Text.IsTrimmed relation
  relatedType_trimmed : Text.IsTrimmed relatedType
  relation_whole : ¬ " from ".toList <:+: relation.toList
  relatedType_whole : ¬ " from ".toList <:+: relatedType.toList

theorem SidesOf.of_cut {t before after : List Char}
    (hcut : Text.FirstCut chainSeparator t before after) (hnone : ¬ chainSeparator <:+: after)
    (ht : Text.Trimmed t) :
    SidesOf (String.ofList t) (String.ofList (Text.trimChars before))
      (String.ofList (Text.trimChars after)) where
  cut := by
    refine ⟨before, after, ?_, ?_, ?_⟩
    · rwa [toList_from, String.toList_ofList]
    · rw [Text.trim, String.toList_ofList]
    · rw [Text.trim, String.toList_ofList]
  relation_ne := by simpa using trimChars_before_ne_nil hcut ht
  relatedType_ne := by simpa using trimChars_after_ne_nil hcut ht
  relation_trimmed := by
    rw [Text.IsTrimmed, String.toList_ofList]
    exact Text.trimmed_trimChars before
  relatedType_trimmed := by
    rw [Text.IsTrimmed, String.toList_ofList]
    exact Text.trimmed_trimChars after
  relation_whole := by
    rw [toList_from, String.toList_ofList]
    intro hoccurs
    exact hcut.not_isInfix_before chainSeparator_ne_nil
      (hoccurs.trans (Text.trimChars_isInfix before))
  relatedType_whole := by
    rw [toList_from, String.toList_ofList]
    intro hoccurs
    exact hnone (hoccurs.trans (Text.trimChars_isInfix after))

/-- There is one kind of answer for no occurrence, one for one, and one for more. -/
theorem parse_cases (text : String) : ∃ k,
    Text.OccursTimes " from ".toList (Text.trim text).toList k ∧
    (k = 0 ∧ parse text = .ok (.direct (Text.trim text)) ∨
      (k = 1 ∧ ∃ relation relatedType, parse text = .ok (.chained relation relatedType) ∧
        SidesOf (Text.trim text) relation relatedType) ∨
      2 ≤ k ∧ parse text = .error (.malformedClause (Text.trim text))) := by
  have hpieces := Text.pieces_splitOn chainSeparator_ne_nil (Text.trimChars text.toList)
  have htrimmed := Text.trimmed_trimChars text.toList
  unfold parse Text.trim
  rw [toList_from, String.toList_ofList]
  generalize Text.trimChars text.toList = t at hpieces htrimmed ⊢
  dsimp only
  generalize Text.splitOn chainSeparator t = pieces at hpieces ⊢
  refine ⟨pieces.length - 1, ⟨pieces, hpieces, ?_⟩, ?_⟩
  · have hpos := List.length_pos_iff.2 hpieces.ne_nil
    omega
  -- one piece, two pieces, or more
  cases hpieces with
  | whole hnone => exact Or.inl ⟨rfl, rfl⟩
  | cut hcut hrest =>
    cases hrest with
    | whole hnone =>
      have hsides := And.intro (trimChars_before_ne_nil hcut htrimmed)
        (trimChars_after_ne_nil hcut htrimmed)
      exact Or.inr (Or.inl ⟨rfl, _, _, if_pos hsides, .of_cut hcut hnone htrimmed⟩)
    | cut hcut' hrest' =>
      obtain ⟨p, ps, rfl⟩ := List.exists_cons_of_ne_nil hrest'.ne_nil
      refine Or.inr (Or.inr ⟨?_, rfl⟩)
      simp only [List.length_cons]
      omega

/-- Let ` from ` occur `k` times in a trimmed text. The text is a direct clause just if `k` is zero
and a chained clause of the two sides just if `k` is one, and it is refused just if `k` is at least
two. Blanks around a text make no difference. -/
theorem parse_by_occurrences (text : String) :
    ∃ k, Text.OccursTimes " from ".toList (Text.trim text).toList k ∧
      (∀ other, Text.OccursTimes " from ".toList (Text.trim text).toList other → other = k) ∧
      (parse text = .ok (.direct (Text.trim text)) ↔ k = 0) ∧
      (∀ relation, parse text = .ok (.direct relation) → relation = Text.trim text) ∧
      ((∃ relation relatedType, parse text = .ok (.chained relation relatedType)) ↔ k = 1) ∧
      (∀ relation relatedType, parse text = .ok (.chained relation relatedType) →
        SidesOf (Text.trim text) relation relatedType) ∧
      (parse text = .error (.malformedClause (Text.trim text)) ↔ 2 ≤ k) ∧
      (∀ e, parse text = .error e → e = .malformedClause (Text.trim text)) ∧
      ∀ front back : String, (∀ c ∈ front.toList, Text.isBlank c = true) →
        (∀ c ∈ back.toList, Text.isBlank c = true) →
          parse (front ++ text ++ back) = parse text := by
  obtain ⟨k, hk, hcases⟩ := parse_cases text
  have hunique : ∀ other, Text.OccursTimes " from ".toList (Text.trim text).toList other →
      other = k :=
    fun other hother => (Text.existsUnique_occursTimes (by decide) _).unique hother hk
  have hpadded : ∀ front back : String, (∀ c ∈ front.toList, Text.isBlank c = true) →
      (∀ c ∈ back.toList, Text.isBlank c = true) → parse (front ++ text ++ back) = parse text := by
    intro front back hfront hback
    unfold parse
    rw [String.toList_append, String.toList_append, Text.trimChars_padded hfront hback]
  refine ⟨k, hk, hunique, ?_⟩
  rcases hcases with ⟨rfl, hparse⟩ | ⟨rfl, relation, relatedType, hparse, hsides⟩ | ⟨hmore, hparse⟩
  · refine ⟨by simp [hparse], ?_, by simp [hparse], by simp [hparse], by simp [hparse],
      by simp [hparse], hpadded⟩
    intro relation hrelation
    rw [hparse] at hrelation
    exact (Clause.direct.inj (Except.ok.inj hrelation)).symm
  · refine ⟨by simp [hparse], by simp [hparse], by simp [hparse], ?_, by simp [hparse],
      by simp [hparse], hpadded⟩
    intro left right hchained
    rw [hparse] at hchained
    obtain ⟨rfl, rfl⟩ := Clause.chained.inj (Except.ok.inj hchained)
    exact hsides
  · refine ⟨?_, by simp [hparse], ?_, by simp [hparse], by simp [hparse, hmore], ?_, hpadded⟩
    · simp only [hparse, reduceCtorEq, false_iff]
      omega
    · simp only [hparse, reduceCtorEq, exists_false, false_iff]
      omega
    · intro e he
      rw [hparse] at he
      exact (Except.error.inj he).symm

/-- The two occurrences overlap, so that there is one: what follows it begins with `from`. -/
theorem parse_by_occurrences_overlap :
    let text := "member from from Team"
    (∀ c ∈ "\u2003".toList, Text.isBlank c = true) ∧ (∀ c ∈ "\n".toList, Text.isBlank c = true) ∧
      Text.OccursTimes " from ".toList (Text.trim text).toList 1 ∧
      parse ("\u2003" ++ text ++ "\n") = .ok (.chained "member" "from Team") := by
  intro text
  have hparse : parse text = .ok (.chained "member" "from Team") := by decide +kernel
  obtain ⟨k, hk, -, -, -, hchained, -, -, -, hpadded⟩ := parse_by_occurrences text
  obtain rfl := hchained.1 ⟨"member", "from Team", hparse⟩
  have hfront : ∀ c ∈ "\u2003".toList, Text.isBlank c = true := List.forall_mem_singleton.2 rfl
  have hback : ∀ c ∈ "\n".toList, Text.isBlank c = true := List.forall_mem_singleton.2 rfl
  exact ⟨hfront, hback, hk, (hpadded _ _ hfront hback).trans hparse⟩

end Clause

end Rebac
