import Rebac.Json.Tree
import Rebac.Proofs.Json.Numerals
import Rebac.Proofs.Json.Strings
/-!
# How documents are written

`Written t cs` says that `cs` is a way to write the tree `t` in JSON, with any white space between
the tokens. It is the grammar of the standard and knows neither tokens nor states. Whoever writes a
tree so has it read back as it is (`Document.ofText_of_written`): in front of whatever cannot continue
a number, a reader that waits for a value goes on as if the value had ended (`Written.readsAs`).
-/

namespace Rebac.Json

/-- White space between tokens. -/
def Spaces (ws : List Char) : Prop := ∀ c ∈ ws, c = ' ' ∨ c = '\n' ∨ c = '\r' ∨ c = '\t'

/-- A key with white space around it. -/
inductive KeyText : Option String → List Char → Prop where
  | mk {key : Option String} {before cs after : List Char} (hbefore : Spaces before)
    (hafter : Spaces after) (h : Token.Quoted key cs) : KeyText key (before ++ cs ++ after)

/-- A member of an object with the texts of its two sides. -/
structure MemberText where
  key : Option String
  keyText : List Char
  value : Tree
  valueText : List Char

/-- The member as a tree holds it. -/
def MemberText.member (m : MemberText) : Option String × Tree := (m.key, m.value)

/-- The member as it is written. -/
def MemberText.text (m : MemberText) : List Char := m.keyText ++ ':' :: m.valueText

/-- The ways to write a tree. -/
inductive Written : Tree → List Char → Prop where
  | null : Written .null ['n', 'u', 'l', 'l']
  | bool_true : Written (.bool true) ['t', 'r', 'u', 'e']
  | bool_false : Written (.bool false) ['f', 'a', 'l', 's', 'e']
  | number {n : Numeral} {cs : List Char} (h : NumeralText n cs) : Written (.number n.number?) cs
  | string {s : Option String} {cs : List Char} (h : Token.Quoted s cs) : Written (.string s) cs
  | emptyArray {ws : List Char} (h : Spaces ws) : Written (.array []) ('[' :: (ws ++ [']']))
  | array {items : List (Tree × List Char)} (hne : items ≠ []) (h : ∀ i ∈ items, Written i.1 i.2) :
    Written (.array (items.map (·.1))) ('[' :: ([','].intercalate (items.map (·.2)) ++ [']']))
  | emptyObject {ws : List Char} (h : Spaces ws) :
    Written (.object []) ('\x7b' :: (ws ++ ['\x7d']))
  | object {members : List MemberText} (hne : members ≠ [])
    (hkeys : ∀ m ∈ members, KeyText m.key m.keyText)
    (h : ∀ m ∈ members, Written m.value m.valueText) :
    Written (.object (members.map (·.member)))
      ('\x7b' :: ([','].intercalate (members.map (·.text)) ++ ['\x7d']))
  | padded {t : Tree} {before cs after : List Char} (hbefore : Spaces before)
    (hafter : Spaces after) (h : Written t cs) : Written t (before ++ cs ++ after)

/-! ### Scanning -/

namespace Token

variable {c : Char} {cs rest : List Char} {t : Token}

/-- A text begins with the token that is read from it. -/
theorem scan_cons (hspace : isSpace c = false) (h : next? c cs = some (t, rest)) :
    scan (c :: cs) = t :: scan rest := by
  rw [scan, if_neg (by rw [hspace]; exact Bool.false_ne_true)]
  split
  · next t' rest' heq =>
    obtain ⟨rfl, rfl⟩ := Prod.mk.inj (Option.some.inj (heq.symm.trans h))
    rfl
  · next heq =>
    rw [h] at heq
    cases heq

/-- White space is passed over. -/
theorem scan_spaces {ws : List Char} (h : Spaces ws) (cs : List Char) :
    scan (ws ++ cs) = scan cs := by
  induction ws with
  | nil => rfl
  | cons c ws ih =>
    obtain ⟨hc, hws⟩ := List.forall_mem_cons.1 h
    have hspace : isSpace c = true := by rcases hc with rfl | rfl | rfl | rfl <;> rfl
    rw [List.cons_append, scan, if_pos hspace, ih hws]

theorem scan_quoted {content : Option String} (h : Quoted content cs) (rest : List Char) :
    scan (cs ++ rest) = .string content :: scan rest := by
  have hquote : ∃ tail, cs = '"' :: tail := by cases h <;> exact ⟨_, rfl⟩
  obtain ⟨tail, rfl⟩ := hquote
  exact scan_cons (by decide) (next?_of_quoted h rest)

theorem scan_numeral {n : Numeral} (h : NumeralText n cs) (hrest : EndsNumber rest) :
    scan (cs ++ rest) = .number n :: scan rest := by
  obtain ⟨c, tail, rfl, hspace, hnext⟩ := next?_of_numeralText h hrest
  exact scan_cons hspace hnext

theorem endsNumber_cons (h : Decimal.isDigit c = false ∧ c ≠ '.' ∧ c ≠ 'e' ∧ c ≠ 'E')
    (cs : List Char) : EndsNumber (c :: cs) := by
  intro d hd
  rwa [← Option.some.inj hd]

theorem endsNumber_spaces {ws : List Char} (h : Spaces ws) (hrest : EndsNumber rest) :
    EndsNumber (ws ++ rest) := by
  cases ws with
  | nil => exact hrest
  | cons c ws =>
    apply endsNumber_cons
    rcases h c List.mem_cons_self with rfl | rfl | rfl | rfl <;> decide

end Token

/-! ### Reading -/

namespace Reader

open Token

/-- A reader that waits for a value inside the open frames; a fresh array may end instead. -/
inductive Awaits : Reader → List Frame → Prop where
  | value (frames : List Frame) : Awaits (.value frames) frames
  | inArray (frames : List Frame) : Awaits (.inArray frames) (.array [] :: frames)

variable {r r' : Reader} {frames : List Frame} {t : Token} {ts : List Token}

theorem run_cons (h : r.step t = some r') : run r (t :: ts) = run r' ts := by
  cases r with
  | done root =>
    rw [step] at h
    · cases h
    all_goals simp
  | _ =>
    rw [run, h]
    all_goals simp

theorem run_of_awaits (h : Awaits r frames) (ht : t ≠ .closeArray)
    (hstep : stepValue frames t = some r') : run r (t :: ts) = run r' ts := by
  cases h with
  | value => exact run_cons hstep
  | inArray frames =>
    have hvalue : step (.inArray frames) t = stepValue (.array [] :: frames) t := by
      cases t with
      | closeArray => exact absurd rfl ht
      | _ => rfl
    exact run_cons (hvalue.trans hstep)

/-- A text is read as a tree in front of what cannot continue a number, by whatever awaits a value.
-/
def ReadsAs (tree : Tree) (cs : List Char) : Prop :=
  ∀ {r frames}, Awaits r frames → ∀ {rest}, EndsNumber rest →
    run r (scan (cs ++ rest)) = run (ended tree frames) (scan rest)

/-- What makes one token is read as what the token stands for. -/
theorem ReadsAs.of_token {tree : Tree} {cs : List Char} (ht : t ≠ .closeArray)
    (hstep : ∀ frames, stepValue frames t = some (ended tree frames))
    (hscan : ∀ rest, EndsNumber rest → scan (cs ++ rest) = t :: scan rest) : ReadsAs tree cs := by
  intro r frames hr rest hrest
  rw [hscan rest hrest]
  exact run_of_awaits hr ht (hstep frames)

theorem intercalate_comma {α : Type} (f : α → List Char) (x : α) (xs : List α) :
    [','].intercalate ((x :: xs).map f) = f x ++ xs.flatMap fun y => ',' :: f y := by
  induction xs generalizing x with
  | nil => simp
  | cons y ys ih =>
    rw [List.map_cons, List.map_cons, List.intercalate_cons_cons, ← List.map_cons, ih y]
    simp

theorem endsNumber_items (items : List (Tree × List Char)) (rest : List Char) :
    EndsNumber (items.flatMap (fun i => ',' :: i.2) ++ ']' :: rest) := by
  cases items with
  | nil => exact endsNumber_cons (by decide) _
  | cons _ _ => exact endsNumber_cons (by decide) _

/-- The items after the first, up to the end of the array. -/
theorem run_items {items : List (Tree × List Char)} (h : ∀ i ∈ items, ReadsAs i.1 i.2)
    (before : List Tree) (frames : List Frame) (rest : List Char) :
    run (.afterItem before frames) (scan (items.flatMap (fun i => ',' :: i.2) ++ ']' :: rest)) =
      run (ended (.array (before.reverse ++ items.map (·.1))) frames) (scan rest) := by
  induction items generalizing before with
  | nil =>
    rw [List.flatMap_nil, List.nil_append, scan_cons (by decide) rfl, List.map_nil, List.append_nil]
    exact run_cons rfl
  | cons item items ih =>
    obtain ⟨hitem, hitems⟩ := List.forall_mem_cons.1 h
    rw [List.flatMap_cons, List.append_assoc, List.cons_append, scan_cons (by decide) rfl]
    calc run (.afterItem before frames) (.comma :: scan (item.2 ++ _))
        = run (.value (.array before :: frames)) (scan (item.2 ++ _)) := run_cons rfl
      _ = run (.afterItem (item.1 :: before) frames) (scan _) :=
          hitem (.value _) (endsNumber_items items rest)
      _ = _ := ih hitems (item.1 :: before)
      _ = _ := by simp

theorem scan_key {key : Option String} {cs : List Char} (h : KeyText key cs) (rest : List Char) :
    scan (cs ++ ':' :: rest) = .string key :: .colon :: scan rest := by
  cases h with
  | mk hbefore hafter hquoted =>
    rw [List.append_assoc, List.append_assoc, scan_spaces hbefore, scan_quoted hquoted,
      scan_spaces hafter, scan_cons (by decide) rfl]

/-- A member is read where its key is due. -/
theorem run_member {m : MemberText} {before : List (Option String × Tree)} {rest : List Char}
    (hkey : KeyText m.key m.keyText) (hvalue : ReadsAs m.value m.valueText)
    (hr : r.step (.string m.key) = some (.colon before m.key frames)) (hrest : EndsNumber rest) :
    run r (scan (m.text ++ rest)) = run (.afterMember (m.member :: before) frames) (scan rest) := by
  rw [MemberText.text, List.append_assoc, List.cons_append, scan_key hkey]
  calc run r (.string m.key :: .colon :: scan (m.valueText ++ rest))
      = run (.colon before m.key frames) (.colon :: scan (m.valueText ++ rest)) := run_cons hr
    _ = run (.value (.object before m.key :: frames)) (scan (m.valueText ++ rest)) := run_cons rfl
    _ = run (.afterMember (m.member :: before) frames) (scan rest) := hvalue (.value _) hrest

theorem endsNumber_members (members : List MemberText) (rest : List Char) :
    EndsNumber (members.flatMap (fun m => ',' :: m.text) ++ '\x7d' :: rest) := by
  cases members with
  | nil => exact endsNumber_cons (by decide) _
  | cons _ _ => exact endsNumber_cons (by decide) _

/-- The members after the first, up to the end of the object. -/
theorem run_members {members : List MemberText} (hkeys : ∀ m ∈ members, KeyText m.key m.keyText)
    (h : ∀ m ∈ members, ReadsAs m.value m.valueText) (before : List (Option String × Tree))
    (frames : List Frame) (rest : List Char) :
    run (.afterMember before frames)
        (scan (members.flatMap (fun m => ',' :: m.text) ++ '\x7d' :: rest)) =
      run (ended (.object (before.reverse ++ members.map (·.member))) frames) (scan rest) := by
  induction members generalizing before with
  | nil =>
    rw [List.flatMap_nil, List.nil_append, scan_cons (by decide) rfl, List.map_nil, List.append_nil]
    exact run_cons rfl
  | cons m members ih =>
    obtain ⟨hkey, hkeys⟩ := List.forall_mem_cons.1 hkeys
    obtain ⟨hvalue, hvalues⟩ := List.forall_mem_cons.1 h
    rw [List.flatMap_cons, List.append_assoc, List.cons_append, scan_cons (by decide) rfl]
    calc run (.afterMember before frames) (.comma :: scan (m.text ++ _))
        = run (.key before frames) (scan (m.text ++ _)) := run_cons rfl
      _ = run (.afterMember (m.member :: before) frames) (scan _) :=
          run_member hkey hvalue rfl (endsNumber_members members rest)
      _ = _ := ih hkeys hvalues (m.member :: before)
      _ = _ := by simp

theorem ReadsAs.array {items : List (Tree × List Char)} (hne : items ≠ [])
    (h : ∀ i ∈ items, ReadsAs i.1 i.2) :
    ReadsAs (.array (items.map (·.1))) ('[' :: ([','].intercalate (items.map (·.2)) ++ [']'])) := by
  intro r frames hr rest _
  obtain ⟨item, items, rfl⟩ := List.exists_cons_of_ne_nil hne
  obtain ⟨hitem, hitems⟩ := List.forall_mem_cons.1 h
  have hclose : [','].intercalate ((item :: items).map (·.2)) ++ [']'] ++ rest =
      item.2 ++ (items.flatMap (fun i => ',' :: i.2) ++ ']' :: rest) := by
    rw [intercalate_comma]
    simp
  rw [List.cons_append, hclose, scan_cons (by decide) rfl]
  calc run r (.openArray :: scan (item.2 ++ _))
      = run (.inArray frames) (scan (item.2 ++ _)) := run_of_awaits hr (by simp) rfl
    _ = run (.afterItem [item.1] frames) (scan _) :=
        hitem (.inArray frames) (endsNumber_items items rest)
    _ = _ := run_items hitems [item.1] frames rest

theorem ReadsAs.object {members : List MemberText} (hne : members ≠ [])
    (hkeys : ∀ m ∈ members, KeyText m.key m.keyText)
    (h : ∀ m ∈ members, ReadsAs m.value m.valueText) :
    ReadsAs (.object (members.map (·.member)))
      ('\x7b' :: ([','].intercalate (members.map (·.text)) ++ ['\x7d'])) := by
  intro r frames hr rest _
  obtain ⟨m, members, rfl⟩ := List.exists_cons_of_ne_nil hne
  obtain ⟨hkey, hkeys⟩ := List.forall_mem_cons.1 hkeys
  obtain ⟨hvalue, hvalues⟩ := List.forall_mem_cons.1 h
  have hclose : [','].intercalate ((m :: members).map (·.text)) ++ ['\x7d'] ++ rest =
      m.text ++ (members.flatMap (fun m => ',' :: m.text) ++ '\x7d' :: rest) := by
    rw [intercalate_comma]
    simp
  rw [List.cons_append, hclose, scan_cons (by decide) rfl]
  calc run r (.openObject :: scan (m.text ++ _))
      = run (.inObject frames) (scan (m.text ++ _)) := run_of_awaits hr (by simp) rfl
    _ = run (.afterMember [m.member] frames) (scan _) :=
        run_member hkey hvalue rfl (endsNumber_members members rest)
    _ = _ := run_members hkeys hvalues [m.member] frames rest

end Reader

open Token Reader

/-- What is written is read back. -/
theorem Written.readsAs {t : Tree} {cs : List Char} (h : Written t cs) : ReadsAs t cs := by
  induction h with
  | null | bool_true | bool_false =>
    exact ReadsAs.of_token (by simp) (fun _ => rfl) fun _ _ => scan_cons (by decide) rfl
  | number h => exact ReadsAs.of_token (by simp) (fun _ => rfl) fun _ hrest => scan_numeral h hrest
  | string h => exact ReadsAs.of_token (by simp) (fun _ => rfl) fun rest _ => scan_quoted h rest
  | emptyArray h =>
    intro r frames hr rest _
    rw [List.cons_append, List.append_assoc, scan_cons (by decide) rfl, scan_spaces h,
      List.singleton_append, scan_cons (by decide) rfl]
    exact (run_of_awaits hr (by simp) rfl).trans (run_cons rfl)
  | array hne _ ih => exact ReadsAs.array hne ih
  | emptyObject h =>
    intro r frames hr rest _
    rw [List.cons_append, List.append_assoc, scan_cons (by decide) rfl, scan_spaces h,
      List.singleton_append, scan_cons (by decide) rfl]
    exact (run_of_awaits hr (by simp) rfl).trans (run_cons rfl)
  | object hne hkeys _ ih => exact ReadsAs.object hne hkeys ih
  | padded hbefore hafter _ ih =>
    intro r frames hr rest hrest
    rw [List.append_assoc, List.append_assoc, scan_spaces hbefore,
      ih hr (endsNumber_spaces hafter hrest), scan_spaces hafter]

/-- A document that is written so is read as the tree, to its end. -/
theorem Document.ofText_of_written {t : Tree} {text : String} (h : Written t text.toList) :
    Document.ofText text = ⟨t, true⟩ := by
  have hread : run (.value []) (scan (text.toList ++ [])) = run (ended t []) (scan []) :=
    h.readsAs (.value []) (by simp [EndsNumber])
  rw [List.append_nil, scan] at hread
  exact hread

/-! ### Well-formed trees -/

namespace Tree

theorem allWellFormed_iff {ts : List Tree} :
    allWellFormed ts = true ↔ ∀ t ∈ ts, t.wellFormed = true := by
  induction ts with
  | nil => simp [allWellFormed]
  | cons t ts ih => rw [allWellFormed, Bool.and_eq_true, ih, List.forall_mem_cons]

theorem membersWellFormed_iff {members : List (Option String × Tree)} :
    membersWellFormed members = true ↔ ∀ m ∈ members, m.2.wellFormed = true := by
  induction members with
  | nil => simp [membersWellFormed]
  | cons m members ih =>
    rw [membersWellFormed, Bool.and_eq_true, ih, List.forall_mem_cons]

end Tree

/-- What is written is well-formed. -/
theorem Written.wellFormed {t : Tree} {cs : List Char} (h : Written t cs) :
    t.wellFormed = true := by
  induction h with
  | null | bool_true | bool_false | number | string => rfl
  | emptyArray | emptyObject => rfl
  | array _ _ ih =>
    rw [Tree.wellFormed, Tree.allWellFormed_iff]
    intro t ht
    obtain ⟨item, hitem, rfl⟩ := List.mem_map.1 ht
    exact ih item hitem
  | object _ _ _ ih =>
    rw [Tree.wellFormed, Tree.membersWellFormed_iff]
    intro m hm
    obtain ⟨member, hmember, rfl⟩ := List.mem_map.1 hm
    exact ih member hmember
  | padded _ _ _ ih => exact ih

end Rebac.Json
