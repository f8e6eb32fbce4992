import Rebac.Proofs.Json.Written
/-!
# Compact texts

The compact text of a value is one of the ways to write it: quotes, backslashes and controls are
escaped, every other character stands for itself, and there is no white space between the tokens.
-/

namespace Rebac.Json

open Token

namespace Value

/-- A character as the writer has it denotes itself, in front of whatever follows. -/
theorem parts_escapedChar (c : Char) {cs s : List Char} {ps : List Piece} (h : Parts cs ps)
    (hs : Denotes ps s) :
    ∃ ps', Parts ((escapedChar c).toList ++ cs) ps' ∧ Denotes ps' (c :: s) := by
  unfold escapedChar
  split
  · exact ⟨_, .short (e := '"') (by decide) h, .char hs⟩
  · exact ⟨_, .short (e := '\\') (by decide) h, .char hs⟩
  · exact ⟨_, .short (e := 'n') (by decide) h, .char hs⟩
  · exact ⟨_, .short (e := 'r') (by decide) h, .char hs⟩
  · exact ⟨_, .short (e := 't') (by decide) h, .char hs⟩
  · next hquote hslash _ _ _ =>
    split
    · next hcontrol =>
      have hunit := isUnit_digitChar (n := c.toNat) (by omega)
      have hfirst : c.toNat / 0x1000 = 0 ∧ c.toNat / 0x100 % 16 = 0 := by omega
      have hthird : c.toNat / 16 % 16 = c.toNat / 16 := by omega
      rw [hfirst.1, hfirst.2, hthird] at hunit
      refine ⟨_, ?_, .unit hs⟩
      have htext : ("\\u00" ++ String.ofList
          [Nat.digitChar (c.toNat / 16), Nat.digitChar (c.toNat % 16)]).toList =
          ['\\', 'u', '0', '0', Nat.digitChar (c.toNat / 16), Nat.digitChar (c.toNat % 16)] := by
        rw [String.toList_append, String.toList_ofList, String.toList_ofList]
        rfl
      rw [htext]
      exact .unit hunit h
    · next hcontrol =>
      refine ⟨_, ?_, .char hs⟩
      rw [Char.toString, String.toList_singleton]
      exact Parts.plain hquote hslash (Nat.le_of_not_lt hcontrol) h

theorem parts_escapedChars (s : List Char) :
    ∃ ps, Parts (s.flatMap fun c => (escapedChar c).toList) ps ∧ Denotes ps s := by
  induction s with
  | nil => exact ⟨[], .nil, .nil⟩
  | cons c s ih =>
    obtain ⟨ps, hparts, hdenotes⟩ := ih
    rw [List.flatMap_cons]
    exact parts_escapedChar c hparts hdenotes

theorem quoted_stringText (s : String) : Quoted (some s) (stringText s).toList := by
  obtain ⟨ps, hparts, hdenotes⟩ := parts_escapedChars s.toList
  have hquoted := Quoted.text hparts hdenotes
  have htext : (stringText s).toList =
      '"' :: ((s.toList.flatMap fun c => (escapedChar c).toList) ++ ['"']) := by
    simp [stringText, String.toList_join, List.flatMap_map]
  rwa [String.ofList_toList, ← htext] at hquoted

theorem toList_itemsText (vs : List Value) :
    (itemsText vs).toList = [','].intercalate (vs.map fun v => v.text.toList) := by
  induction vs with
  | nil => rfl
  | cons v vs ih =>
    cases vs with
    | nil => simp [itemsText]
    | cons w vs =>
      rw [itemsText, String.toList_append, String.toList_append, ih]
      · simp [List.intercalate_cons_cons]
      · simp

theorem toList_membersText (ms : List (String × Value)) :
    (membersText ms).toList =
      [','].intercalate (ms.map fun m => (stringText m.1).toList ++ ':' :: m.2.text.toList) := by
  induction ms with
  | nil => rfl
  | cons m ms ih =>
    cases ms with
    | nil => simp [membersText]
    | cons n ms =>
      rw [membersText, String.toList_append, String.toList_append, ih]
      · simp [List.intercalate_cons_cons]
      · simp

/-- Items with nothing but commas between them make an array, also when there are none. -/
theorem written_items {items : List (Tree × List Char)} (h : ∀ i ∈ items, Written i.1 i.2) :
    Written (.array (items.map (·.1))) ('[' :: ([','].intercalate (items.map (·.2)) ++ [']'])) := by
  by_cases hne : items = []
  · subst hne
    exact .emptyArray (List.forall_mem_nil _)
  · exact .array hne h

theorem keyText_stringText (s : String) : KeyText (some s) (stringText s).toList := by
  have hkey := KeyText.mk (List.forall_mem_nil _) (List.forall_mem_nil _) (quoted_stringText s)
  rwa [List.nil_append, List.append_nil] at hkey

/-- A member whose name is written as the writer does. -/
def named (m : String × Tree × List Char) : MemberText :=
  ⟨some m.1, (stringText m.1).toList, m.2.1, m.2.2⟩

/-- Members with nothing but commas between them make an object, also when there are none. -/
theorem written_members {members : List (String × Tree × List Char)}
    (h : ∀ m ∈ members, Written m.2.1 m.2.2) :
    Written (.object (members.map fun m => (some m.1, m.2.1)))
      ('\x7b' :: ([','].intercalate (members.map fun m =>
        (stringText m.1).toList ++ ':' :: m.2.2) ++ ['\x7d'])) := by
  by_cases hne : members = []
  · subst hne
    exact .emptyObject (List.forall_mem_nil _)
  · have hkeys : ∀ m ∈ members.map named, KeyText m.key m.keyText :=
      List.forall_mem_map.2 fun m _ => keyText_stringText m.1
    have hvalues : ∀ m ∈ members.map named, Written m.value m.valueText := List.forall_mem_map.2 h
    have hwritten := Written.object (mt List.map_eq_nil_iff.1 hne) hkeys hvalues
    simpa [Function.comp_def, named, MemberText.member, MemberText.text] using hwritten

/-! ### The texts of values -/

theorem written_string (s : String) : Written (.string (some s)) (Value.string s).text.toList := by
  rw [text]
  exact .string (quoted_stringText s)

/-- Values that write trees make an array that writes the array of the trees. -/
theorem written_array {items : List (Tree × Value)}
    (h : ∀ i ∈ items, Written i.1 i.2.text.toList) :
    Written (.array (items.map (·.1))) (Value.array (items.map (·.2))).text.toList := by
  have hitems : ∀ i ∈ items.map fun i => (i.1, i.2.text.toList), Written i.1 i.2 :=
    List.forall_mem_map.2 h
  simpa [Function.comp_def, text, toList_itemsText] using written_items hitems

/-- Values that write trees make an object that writes the object of the trees. -/
theorem written_object {members : List (String × Tree × Value)}
    (h : ∀ m ∈ members, Written m.2.1 m.2.2.text.toList) :
    Written (.object (members.map fun m => (some m.1, m.2.1)))
      (Value.object (members.map fun m => (m.1, m.2.2))).text.toList := by
  have hmembers : ∀ m ∈ members.map fun m => (m.1, m.2.1, m.2.2.text.toList), Written m.2.1 m.2.2 :=
    List.forall_mem_map.2 h
  simpa [Function.comp_def, text, toList_membersText] using written_members hmembers

end Value

end Rebac.Json
