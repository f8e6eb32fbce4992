import Rebac.Policy.Document
import Rebac.Proofs.Json.Record
import Rebac.Proofs.Json.Writer
/-!
# Policies and their documents

Which trees write a policy is said without its shapes: in the object of each record the texts stand
under their names, an empty list may be left off, and what else there is does not matter. Every text
that writes such a tree is read as the policy, and the policy's own text is one of them. A text is
refused if a member that is known is repeated or a required one left off, in whichever record.
-/

namespace Rebac

open Json

/-! ### The trees of a policy -/

/-- A list is left off, which it may be when it is empty, or stands there once, as the array of
trees that write its elements. -/
inductive ListWrittenAs {α : Type} (writtenAs : α → Tree → Prop) (xs : List α) :
    List Tree → Prop where
  | leftOff (h : xs = []) : ListWrittenAs writtenAs xs []
  | present {ts : List Tree} (h : List.Forall₂ writtenAs xs ts) :
    ListWrittenAs writtenAs xs [.array ts]

/-- The object of a relation, whose members stand in any order and beside others. Every key is a
text. -/
inductive Relation.WrittenAs (r : Relation) : Tree → Prop where
  | object {members : List (Option String × Tree)} (hnamed : ∀ m ∈ members, m.1 ≠ none)
    (hname : valuesOf "name" members = [.string (some r.name)])
    (htype : valuesOf "type" members = [.string (some r.subjectType)]) :
    r.WrittenAs (.object members)

/-- The object of an action. -/
inductive Action.WrittenAs (a : Action) : Tree → Prop where
  | object {members : List (Option String × Tree)} (hnamed : ∀ m ∈ members, m.1 ≠ none)
    (hname : valuesOf "name" members = [.string (some a.name)])
    (hrule : valuesOf "rule" members = [.string (some a.rule)]) :
    a.WrittenAs (.object members)

/-- The object of a type. -/
inductive ObjectType.WrittenAs (o : ObjectType) : Tree → Prop where
  | object {members : List (Option String × Tree)} (hnamed : ∀ m ∈ members, m.1 ≠ none)
    (hname : valuesOf "name" members = [.string (some o.name)])
    (hrelations : ListWrittenAs Relation.WrittenAs o.relations (valuesOf "relations" members))
    (hactions : ListWrittenAs Action.WrittenAs o.actions (valuesOf "actions" members)) :
    o.WrittenAs (.object members)

/-- The object of a policy. -/
inductive Policy.WrittenAs (p : Policy) : Tree → Prop where
  | object {members : List (Option String × Tree)} (hnamed : ∀ m ∈ members, m.1 ≠ none)
    (hnamespace : valuesOf "namespace" members = [.string (some p.namespaceName)])
    (htypes : ListWrittenAs ObjectType.WrittenAs p.types (valuesOf "types" members)) :
    p.WrittenAs (.object members)

/-- The object of a relation with a member repeated or left off. -/
def Relation.Flawed : Tree → Prop := FlawedRecord ["name", "type"] []

/-- The object of an action with a member repeated or left off. -/
def Action.Flawed : Tree → Prop := FlawedRecord ["name", "rule"] []

/-- The object of a type with a member repeated or its name left off, or of such a relation or
action. -/
def ObjectType.Flawed : Tree → Prop :=
  FlawedRecord ["name"] [("relations", Relation.Flawed), ("actions", Action.Flawed)]

/-- The object of a policy with a member repeated or its namespace left off, or of such a type. -/
def Policy.Flawed : Tree → Prop := FlawedRecord ["namespace"] [("types", ObjectType.Flawed)]

/-- The text writes the policy in JSON. -/
def Policy.IsDocument (p : Policy) (text : String) : Prop :=
  ∃ t, Written t text.toList ∧ p.WrittenAs t

/-- The text is JSON in which a known member of a record is repeated or a required one left off. -/
def Policy.IsFlawedDocument (text : String) : Prop :=
  ∃ t, Written t text.toList ∧ Policy.Flawed t

/-! ### Reading what is written -/

section Lists

variable {α : Type} {writtenAs : α → Tree → Prop} {xs : List α} {values : List Tree}

theorem ListWrittenAs.length_le (h : ListWrittenAs writtenAs xs values) : values.length ≤ 1 := by
  cases h <;> simp

/-- A list that is not there is empty. -/
theorem ListWrittenAs.ite_eq {present : Prop} [Decidable present]
    (h : ListWrittenAs writtenAs xs values) (hpresent : present ↔ values ≠ []) :
    (if present then xs else []) = xs := by
  cases h with
  | leftOff h => rw [h, ite_self]
  | present _ => rw [if_pos (hpresent.2 (by simp))]

/-- A list is read where it stands, if its elements are. -/
theorem ListWrittenAs.read {item : Decoder α} (h : ListWrittenAs writtenAs xs values)
    (hitem : ∀ {x t}, writtenAs x t → t.wellFormed = true → item t = .ok x)
    (hwell : ∀ t ∈ values, t.wellFormed = true) :
    ∀ t ∈ values, Decoder.listOf item t = .ok xs := by
  cases h with
  | leftOff _ => exact List.forall_mem_nil _
  | @present ts h =>
    rw [List.forall_mem_singleton] at hwell ⊢
    rw [Tree.wellFormed, Tree.allWellFormed_iff] at hwell
    rw [Decoder.listOf_array_eq_ok_iff, List.forall₂_iff_get]
    obtain ⟨hlength, hget⟩ := List.forall₂_iff_get.1 h
    exact ⟨hlength.symm, fun i hi hi' => hitem (hget i hi' hi) (hwell _ (List.get_mem ts _))⟩

end Lists

/-- The relation when only the fields in `seen` have been read. -/
def Relation.soFar (r : Relation) (seen : List String) : Relation where
  name := if "name" ∈ seen then r.name else ""
  subjectType := if "type" ∈ seen then r.subjectType else ""

theorem Relation.decode_of_writtenAs {r : Relation} {t : Tree} (h : r.WrittenAs t)
    (hwell : t.wellFormed = true) : Relation.shape.decode t = .ok r := by
  cases h with
  | @object members hnamed hname htype =>
    rw [Tree.wellFormed, Tree.membersWellFormed_iff] at hwell
    have hfills : Relation.shape.Fills r.soFar members := by
      refine ⟨hnamed, hwell, ?_, ?_⟩
      · simp [Relation.shape, hname, htype]
      · simp [Relation.shape, hname, htype, Relation.soFar, Decoder.text, Decoder.textFor]
    refine Shape.decode_of_fills hfills rfl (by simp [Relation.shape, hname, htype]) ?_
    intro seen hseen
    simp only [Relation.shape, List.forall_mem_cons, hname, htype] at hseen
    simp [Relation.soFar, hseen]

/-- The action when only the fields in `seen` have been read. -/
def Action.soFar (a : Action) (seen : List String) : Action where
  name := if "name" ∈ seen then a.name else ""
  rule := if "rule" ∈ seen then a.rule else ""

theorem Action.decode_of_writtenAs {a : Action} {t : Tree} (h : a.WrittenAs t)
    (hwell : t.wellFormed = true) : Action.shape.decode t = .ok a := by
  cases h with
  | @object members hnamed hname hrule =>
    rw [Tree.wellFormed, Tree.membersWellFormed_iff] at hwell
    have hfills : Action.shape.Fills a.soFar members := by
      refine ⟨hnamed, hwell, ?_, ?_⟩
      · simp [Action.shape, hname, hrule]
      · simp [Action.shape, hname, hrule, Action.soFar, Decoder.text, Decoder.textFor]
    refine Shape.decode_of_fills hfills rfl (by simp [Action.shape, hname, hrule]) ?_
    intro seen hseen
    simp only [Action.shape, List.forall_mem_cons, hname, hrule] at hseen
    simp [Action.soFar, hseen]

/-- The type when only the fields in `seen` have been read. -/
def ObjectType.soFar (o : ObjectType) (seen : List String) : ObjectType where
  name := if "name" ∈ seen then o.name else ""
  relations := if "relations" ∈ seen then o.relations else []
  actions := if "actions" ∈ seen then o.actions else []

theorem ObjectType.decode_of_writtenAs {o : ObjectType} {t : Tree} (h : o.WrittenAs t)
    (hwell : t.wellFormed = true) : ObjectType.shape.decode t = .ok o := by
  cases h with
  | @object members hnamed hname hrelations hactions =>
    rw [Tree.wellFormed, Tree.membersWellFormed_iff] at hwell
    have hreadRelations := hrelations.read Relation.decode_of_writtenAs
      (wellFormed_of_mem_valuesOf hwell)
    have hreadActions := hactions.read Action.decode_of_writtenAs (wellFormed_of_mem_valuesOf hwell)
    have hfills : ObjectType.shape.Fills o.soFar members := by
      refine ⟨hnamed, hwell, ?_, ?_⟩
      · simp [ObjectType.shape, hname, hrelations.length_le, hactions.length_le]
      · simp only [ObjectType.shape, List.forall_mem_cons]
        refine ⟨?_, ?_, ?_, List.forall_mem_nil _⟩
        · simp [hname, ObjectType.soFar, Decoder.text, Decoder.textFor]
        · intro t ht seen _
          rw [hreadRelations t ht]
          simp [ObjectType.soFar]
        · intro t ht seen _
          rw [hreadActions t ht]
          simp [ObjectType.soFar]
    refine Shape.decode_of_fills hfills rfl (by simp [ObjectType.shape, hname]) ?_
    intro seen hseen
    simp only [ObjectType.shape, List.forall_mem_cons] at hseen
    obtain ⟨hseenName, hseenRelations, hseenActions, -⟩ := hseen
    have hmem : "name" ∈ seen := hseenName.2 (by simp [hname])
    rw [ObjectType.soFar, if_pos hmem, hrelations.ite_eq hseenRelations,
      hactions.ite_eq hseenActions]

/-- The policy when only the fields in `seen` have been read. -/
def Policy.soFar (p : Policy) (seen : List String) : Policy where
  namespaceName := if "namespace" ∈ seen then p.namespaceName else ""
  types := if "types" ∈ seen then p.types else []

theorem Policy.decode_of_writtenAs {p : Policy} {t : Tree} (h : p.WrittenAs t)
    (hwell : t.wellFormed = true) : Policy.shape.decode t = .ok p := by
  cases h with
  | @object members hnamed hnamespace htypes =>
    rw [Tree.wellFormed, Tree.membersWellFormed_iff] at hwell
    have hreadTypes := htypes.read ObjectType.decode_of_writtenAs (wellFormed_of_mem_valuesOf hwell)
    have hfills : Policy.shape.Fills p.soFar members := by
      refine ⟨hnamed, hwell, ?_, ?_⟩
      · simp [Policy.shape, hnamespace, htypes.length_le]
      · simp only [Policy.shape, List.forall_mem_cons]
        refine ⟨?_, ?_, List.forall_mem_nil _⟩
        · simp [hnamespace, Policy.soFar, Decoder.text, Decoder.textFor]
        · intro t ht seen _
          rw [hreadTypes t ht]
          simp [Policy.soFar]
    refine Shape.decode_of_fills hfills rfl (by simp [Policy.shape, hnamespace]) ?_
    intro seen hseen
    simp only [Policy.shape, List.forall_mem_cons] at hseen
    obtain ⟨hseenNamespace, hseenTypes, -⟩ := hseen
    have hmem : "namespace" ∈ seen := hseenNamespace.2 (by simp [hnamespace])
    rw [Policy.soFar, if_pos hmem, htypes.ite_eq hseenTypes]

/-! ### Refusing what is flawed -/

theorem Relation.not_flawed {r : Relation} {t : Tree} (h : Relation.shape.decode t = .ok r) :
    ¬ Relation.Flawed t := by
  apply Shape.not_flawedRecord _ (List.forall_mem_nil _) h
  simp [Relation.shape, Shape.field?]

theorem Action.not_flawed {a : Action} {t : Tree} (h : Action.shape.decode t = .ok a) :
    ¬ Action.Flawed t := by
  apply Shape.not_flawedRecord _ (List.forall_mem_nil _) h
  simp [Action.shape, Shape.field?]

theorem ObjectType.not_flawed {o : ObjectType} {t : Tree} (h : ObjectType.shape.decode t = .ok o) :
    ¬ ObjectType.Flawed t := by
  apply Shape.not_flawedRecord _ _ h
  · simp [ObjectType.shape, Shape.field?]
  · simp only [List.forall_mem_cons]
    refine ⟨⟨_, rfl, ?_⟩, ⟨_, rfl, ?_⟩, List.forall_mem_nil _⟩
    · intro b b' ts hread t ht
      obtain ⟨relations, hrelations, -⟩ := exists_of_bind_eq_ok hread
      obtain ⟨r, hr⟩ := Decoder.exists_of_listOf_array hrelations t ht
      exact Relation.not_flawed hr
    · intro b b' ts hread t ht
      obtain ⟨actions, hactions, -⟩ := exists_of_bind_eq_ok hread
      obtain ⟨a, ha⟩ := Decoder.exists_of_listOf_array hactions t ht
      exact Action.not_flawed ha

theorem Policy.not_flawed {p : Policy} {t : Tree} (h : Policy.shape.decode t = .ok p) :
    ¬ Policy.Flawed t := by
  apply Shape.not_flawedRecord _ _ h
  · simp [Policy.shape, Shape.field?]
  · simp only [List.forall_mem_cons]
    refine ⟨⟨_, rfl, ?_⟩, List.forall_mem_nil _⟩
    intro b b' ts hread t ht
    obtain ⟨types, htypes, -⟩ := exists_of_bind_eq_ok hread
    obtain ⟨o, ho⟩ := Decoder.exists_of_listOf_array htypes t ht
    exact ObjectType.not_flawed ho

/-! ### The policy's own text -/

/-- An object of two texts is written as the trees of the texts. -/
theorem written_texts (first second s u : String) :
    Written (.object [(some first, .string (some s)), (some second, .string (some u))])
      (Value.object [(first, .string s), (second, .string u)]).text.toList :=
  @Value.written_object
    [(first, .string (some s), .string s), (second, .string (some u), .string u)]
    (by simpa using ⟨Value.written_string s, Value.written_string u⟩)

theorem Relation.exists_written (r : Relation) :
    ∃ t, Written t r.toJson.text.toList ∧ r.WrittenAs t :=
  ⟨_, written_texts "name" "type" r.name r.subjectType,
    .object (by simp) (by simp [valuesOf]) (by simp [valuesOf])⟩

theorem Action.exists_written (a : Action) :
    ∃ t, Written t a.toJson.text.toList ∧ a.WrittenAs t :=
  ⟨_, written_texts "name" "rule" a.name a.rule,
    .object (by simp) (by simp [valuesOf]) (by simp [valuesOf])⟩

/-- A list of what can be written is written as one array. -/
theorem exists_written_list {α : Type} {writtenAs : α → Tree → Prop} {toJson : α → Value}
    (h : ∀ x, ∃ t, Written t (toJson x).text.toList ∧ writtenAs x t) (xs : List α) :
    ∃ ts, Written (.array ts) (Value.array (xs.map toJson)).text.toList ∧
      ListWrittenAs writtenAs xs [.array ts] := by
  choose tree hwritten hwrites using h
  refine ⟨xs.map tree, ?_, .present ?_⟩
  · have hitems : ∀ i ∈ xs.map fun x => (tree x, toJson x), Written i.1 i.2.text.toList :=
      List.forall_mem_map.2 fun x _ => hwritten x
    simpa [Function.comp_def] using Value.written_array hitems
  · rw [List.forall₂_map_right_iff, List.forall₂_same]
    exact fun x _ => hwrites x

theorem ObjectType.exists_written (o : ObjectType) :
    ∃ t, Written t o.toJson.text.toList ∧ o.WrittenAs t := by
  obtain ⟨relations, hrelations, hrelationsAs⟩ :=
    exists_written_list Relation.exists_written o.relations
  obtain ⟨actions, hactions, hactionsAs⟩ := exists_written_list Action.exists_written o.actions
  have hwritten := @Value.written_object
    [("name", .string (some o.name), .string o.name),
      ("relations", .array relations, .array (o.relations.map Relation.toJson)),
      ("actions", .array actions, .array (o.actions.map Action.toJson))]
    (by simpa using ⟨Value.written_string o.name, hrelations, hactions⟩)
  exact ⟨_, hwritten, .object (by simp) (by simp [valuesOf])
    (by simpa [valuesOf] using hrelationsAs) (by simpa [valuesOf] using hactionsAs)⟩

/-- The text of a policy is one of its documents. -/
theorem Policy.isDocument_text (p : Policy) : p.IsDocument p.toJson.text := by
  obtain ⟨types, htypes, htypesAs⟩ := exists_written_list ObjectType.exists_written p.types
  have hwritten := @Value.written_object
    [("namespace", .string (some p.namespaceName), .string p.namespaceName),
      ("types", .array types, .array (p.types.map ObjectType.toJson))]
    (by simpa using ⟨Value.written_string p.namespaceName, htypes⟩)
  exact ⟨_, hwritten, .object (by simp) (by simp [valuesOf]) (by simpa [valuesOf] using htypesAs)⟩

/-! ### Documents -/

/-- Every document of a policy is read as the policy, and its own text is one of them. A document in
which a known member of a record is repeated or a required one left off is refused. -/
theorem Policy.documents_round_trip (p : Policy) (text : String) :
    p.IsDocument p.toJson.text ∧
      (p.IsDocument text → Policy.ofText text = .ok p) ∧
      (Policy.IsFlawedDocument text →
        ∃ fault, Policy.ofText text = .error (.policyLoad (.document fault))) := by
  refine ⟨p.isDocument_text, ?_, ?_⟩
  · rintro ⟨t, hwritten, hwrites⟩
    have hread := Policy.decode_of_writtenAs hwrites hwritten.wellFormed
    rw [Policy.ofText, Document.ofText_of_written hwritten, Policy.ofDocument, Decoder.document]
    simp only [hread]
    rfl
  · rintro ⟨t, hwritten, hflawed⟩
    rw [Policy.ofText, Document.ofText_of_written hwritten, Policy.ofDocument, Decoder.document]
    cases hread : Policy.shape.decode t with
    | ok q => exact absurd hflawed (Policy.not_flawed hread)
    | error fault => exact ⟨fault, by simp [bind, Except.bind]⟩

/-- A document of the policy below, with its members in another order and one that is unknown, whose
number is too large to be read, with escapes and white space, and without an empty list. -/
def escapedDocument : String :=
  "\x7b\"types\":[\x7b\"x\":[1e999,\x7b\x7d],\"relations\":[\x7b\"type\":\"user\"," ++
    "\"name\":\"owner\"\x7d],\"name\":\"doc\"\x7d] ," ++
    "\"namespace\":\"\\ud83d\\ude00\\/\\u0062\"\x7d"

theorem isDocument_escapedDocument :
    Policy.IsDocument ⟨"😀/b", [⟨"doc", [⟨"owner", "user"⟩], []⟩]⟩ escapedDocument := by
  have hnamespace : Token.Quoted (some "😀/b") "\"\\ud83d\\ude00\\/\\u0062\"".toList := by
    have hparts : Token.Parts "\\ud83d\\ude00\\/\\u0062".toList
        [.unit 0xD83D, .unit 0xDE00, .char '/', .unit 0x62] :=
      .unit (Token.isUnit_digitChar (n := 0xD83D) (by decide))
        (.unit (Token.isUnit_digitChar (n := 0xDE00) (by decide))
          (.short (by decide) (.unit (Token.isUnit_digitChar (n := 0x62) (by decide)) .nil)))
    have hdenotes : Token.Denotes [.unit 0xD83D, .unit 0xDE00, .char '/', .unit 0x62]
        ['😀', '/', 'b'] :=
      .pair (by decide) (by decide) (by decide) (.char (.unit (c := 'b') .nil))
    exact .text hparts hdenotes
  have hlarge : NumeralText ⟨false, [1], [], some 999⟩ "1e999".toList := by
    have hwhole : DigitText [1] ['1'] := ⟨by decide, by decide, rfl⟩
    have hdigits : DigitText [9, 9, 9] ['9', '9', '9'] := ⟨by decide, by decide, rfl⟩
    exact .mk hwhole (by decide) .absent (.present (Or.inl rfl) .absent hdigits)
  have hunknown := @Value.written_items [(_, "1e999".toList), (.object [], "\x7b\x7d".toList)]
    (by simpa using ⟨.number hlarge, .emptyObject (List.forall_mem_nil _)⟩)
  have hrelations := @Value.written_items [(_, _)]
    (List.forall_mem_singleton.2 (written_texts "type" "name" "user" "owner"))
  have htype := @Value.written_members [("x", _, _), ("relations", _, _), ("name", _, _)]
    (by simpa using ⟨hunknown, hrelations, Value.written_string "doc"⟩)
  have htypes := @Value.written_items [(_, _)] (List.forall_mem_singleton.2 htype)
  have hpadded := @Written.padded _ [] _ [' '] (List.forall_mem_nil _) (by simp [Spaces]) htypes
  have hpolicy := @Value.written_members [("types", _, _), ("namespace", _, _)]
    (by simpa using ⟨hpadded, .string hnamespace⟩)
  refine ⟨_, Eq.mp (congrArg (Written _) ?_) hpolicy, .object (by simp) (by simp [valuesOf]) ?_⟩
  · decide +kernel
  · have hrelation : Relation.WrittenAs ⟨"owner", "user"⟩
        (.object [(some "type", .string (some "user")), (some "name", .string (some "owner"))]) :=
      .object (by simp) (by simp [valuesOf]) (by simp [valuesOf])
    exact .present (.cons (.object (by simp) (by simp [valuesOf])
      (.present (.cons hrelation .nil)) (.leftOff rfl)) .nil)

/-- The document with escapes is read, and one that gives its namespace twice is not. -/
theorem Policy.documents_round_trip_escaped :
    let policy : Policy := ⟨"😀/b", [⟨"doc", [⟨"owner", "user"⟩], []⟩]⟩
    let twice := "\x7b\"namespace\":\"a\",\"namespace\":\"a\"\x7d"
    policy.IsDocument escapedDocument ∧ Policy.ofText escapedDocument = .ok policy ∧
      Policy.IsFlawedDocument twice ∧
      ∃ fault, Policy.ofText twice = .error (.policyLoad (.document fault)) := by
  intro policy twice
  have hdocument : policy.IsDocument escapedDocument := isDocument_escapedDocument
  have hflawed : Policy.IsFlawedDocument twice := by
    refine ⟨_, written_texts "namespace" "namespace" "a" "a", .repeated List.mem_cons_self ?_⟩
    simp [valuesOf]
  obtain ⟨-, hread, -⟩ := Policy.documents_round_trip policy escapedDocument
  obtain ⟨-, -, hrefused⟩ := Policy.documents_round_trip policy twice
  exact ⟨hdocument, hread hdocument, hflawed, hrefused hflawed⟩

end Rebac
