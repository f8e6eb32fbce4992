import Rebac.Proofs.Listing
/-!
# Policies that are added to

A policy grows at its ends: types are appended, and relations and actions to the types that are
there. Since the first declaration of a name counts, what is found stays what is found
(`Policy.ExtendedBy.relation?_eq`, `Policy.ExtendedBy.action?_eq`), even if a name is declared once
more with another meaning. So a clause keeps its pattern (`Policy.ExtendedBy.denotes`), and an
action that compiles keeps its queries (`Query.compiles_in_extension`).
-/

namespace Rebac

/-- The type with relations and actions appended. -/
structure ObjectType.ExtendedBy (t extended : ObjectType) : Prop where
  name_eq : extended.name = t.name
  relations_prefix : t.relations <+: extended.relations
  actions_prefix : t.actions <+: extended.actions

/-- The policy with its types extended, and with types appended. -/
def Policy.ExtendedBy (policy extended : Policy) : Prop :=
  ∃ kept added, extended.types = kept ++ added ∧
    List.Forall₂ ObjectType.ExtendedBy policy.types kept

/-- The first element that is looked for is found at the same place in a related list. -/
theorem exists_find?_of_forall₂ {α β : Type} {R : α → β → Prop} {p : α → Bool} {q : β → Bool}
    {xs : List α} {ys : List β} (h : List.Forall₂ R xs ys) (hpq : ∀ x y, R x y → q y = p x) {x : α}
    (hx : xs.find? p = some x) : ∃ y, ys.find? q = some y ∧ R x y := by
  induction h with
  | nil => cases hx
  | @cons x' y' xs ys hxy _ ih =>
    -- related elements are both looked for or both passed over
    cases hp : p x' with
    | true =>
      rw [List.find?_cons_of_pos hp] at hx
      obtain rfl := Option.some.inj hx
      exact ⟨y', List.find?_cons_of_pos ((hpq x' y' hxy).trans hp), hxy⟩
    | false =>
      have hq : ¬ q y' = true := by
        rw [hpq x' y' hxy, hp]
        exact Bool.false_ne_true
      have hnot : ¬ p x' = true := by
        rw [hp]
        exact Bool.false_ne_true
      rw [List.find?_cons_of_neg hnot] at hx
      rw [List.find?_cons_of_neg hq]
      exact ih hx

namespace Policy.ExtendedBy

variable {policy extended : Policy} {objectType action text : String}

/-! ### What is found -/

/-- A type that is found is found with more in it. -/
theorem exists_type? (h : policy.ExtendedBy extended) {t : ObjectType}
    (ht : policy.type? objectType = some t) :
    ∃ t', extended.type? objectType = some t' ∧ t.ExtendedBy t' := by
  obtain ⟨kept, added, htypes, hkept⟩ := h
  have hname : ∀ t t' : ObjectType, t.ExtendedBy t' →
      decide (t'.name = objectType) = decide (t.name = objectType) := by
    intro t t' ht
    rw [ht.name_eq]
  obtain ⟨t', hfound, ht'⟩ := exists_find?_of_forall₂ hkept hname ht
  refine ⟨t', ?_, ht'⟩
  unfold Policy.type?
  rw [htypes]
  exact (List.prefix_append kept added).find?_eq_some hfound

theorem relationsOf_prefix (h : policy.ExtendedBy extended) (objectType : String) :
    policy.relationsOf objectType <+: extended.relationsOf objectType := by
  unfold relationsOf
  cases ht : policy.type? objectType with
  | none => exact List.nil_prefix
  | some t =>
    obtain ⟨t', ht', hextended⟩ := h.exists_type? ht
    rw [ht']
    exact hextended.relations_prefix

theorem actionsOf_prefix (h : policy.ExtendedBy extended) (objectType : String) :
    policy.actionsOf objectType <+: extended.actionsOf objectType := by
  unfold actionsOf
  cases ht : policy.type? objectType with
  | none => exact List.nil_prefix
  | some t =>
    obtain ⟨t', ht', hextended⟩ := h.exists_type? ht
    rw [ht']
    exact hextended.actions_prefix

theorem relation?_eq (h : policy.ExtendedBy extended) {name : String} {declared : Relation}
    (hdeclared : policy.relation? objectType name = some declared) :
    extended.relation? objectType name = some declared :=
  (h.relationsOf_prefix objectType).find?_eq_some hdeclared

theorem action?_eq (h : policy.ExtendedBy extended) {declared : Action}
    (hdeclared : policy.action? objectType action = some declared) :
    extended.action? objectType action = some declared :=
  (h.actionsOf_prefix objectType).find?_eq_some hdeclared

/-! ### What compiles -/

theorem denotes (h : policy.ExtendedBy extended) {pattern : Pattern}
    (hdenotes : Denotes policy objectType text pattern) :
    Denotes extended objectType text pattern := by
  obtain ⟨clause, hparse, hpattern⟩ := hdenotes
  -- the text says what the clause is, and the policy only what its last relation is
  refine ⟨clause, hparse, ?_⟩
  cases clause with
  | direct relation =>
    obtain ⟨hfound, rfl⟩ := Clause.pattern_direct_eq_ok_iff.1 hpattern
    obtain ⟨declared, hdeclared⟩ := Option.isSome_iff_exists.1 hfound
    rw [Clause.pattern_direct_eq_ok_iff, h.relation?_eq hdeclared]
    exact ⟨rfl, rfl⟩
  | chained relation relatedType =>
    obtain ⟨declared, hdeclared, rfl⟩ := Clause.pattern_chained_eq_ok_iff.1 hpattern
    exact Clause.pattern_chained_eq_ok_iff.2 ⟨declared, h.relation?_eq hdeclared, rfl⟩

/-- A rule that compiles is still the rule of its action, and compiles to the same clauses. -/
theorem compileRule_eq (h : policy.ExtendedBy extended) {audited : Bool}
    {clauses : List CompiledClause}
    (hrule : compileRule objectType action audited policy = .ok clauses) :
    compileRule objectType action audited extended = .ok clauses := by
  obtain ⟨hfound, patterns, hpatterns, rfl⟩ := compileRule_eq_ok_iff.1 hrule
  obtain ⟨found, hfound⟩ := Option.isSome_iff_exists.1 hfound
  have hsame := h.action?_eq hfound
  rw [compileRule_eq_ok_iff, hsame, Policy.clauseTexts_eq hsame]
  rw [Policy.clauseTexts_eq hfound] at hpatterns ⊢
  exact ⟨rfl, patterns, hpatterns.imp fun _ _ => h.denotes, rfl⟩

end Policy.ExtendedBy

namespace Query

variable {policy extended : Policy} {q : Query}

theorem access_extended (h : policy.ExtendedBy extended) {subject object : Entity}
    {action : String} (hq : access subject action object policy = .ok q) :
    access subject action object extended = .ok q := by
  obtain ⟨clauses, hrule, hrest⟩ := exists_of_bind_eq_ok hq
  unfold access
  rw [h.compileRule_eq hrule]
  exact hrest

theorem overObjects_extended (h : policy.ExtendedBy extended) {subject : Entity}
    {action objectType separator returns : String} {projection : Projection}
    (hq : overObjects subject action objectType policy separator projection returns = .ok q) :
    overObjects subject action objectType extended separator projection returns = .ok q := by
  obtain ⟨clauses, hrule, hrest⟩ := exists_of_bind_eq_ok hq
  unfold overObjects
  rw [h.compileRule_eq hrule]
  exact hrest

/-- Whatever is appended to a policy, be it new or declared already: a point check, a listing and a
count that compile do so as before, to the same query. -/
theorem compiles_in_extension (h : policy.ExtendedBy extended) (subject : Entity)
    (action : String) (q : Query) :
    (∀ object, access subject action object policy = .ok q →
      access subject action object extended = .ok q) ∧
    (∀ objectType, filter subject action objectType policy = .ok q →
      filter subject action objectType extended = .ok q) ∧
    ∀ objectType, count subject action objectType policy = .ok q →
      count subject action objectType extended = .ok q :=
  ⟨fun _ => access_extended h, fun _ => overObjects_extended h, fun _ => overObjects_extended h⟩

end Query

namespace Docs

/-- The policy with everything declared once more: relations with other subject types, a rule that
does not compile, and a type without relations. -/
def redeclared : Policy :=
  ⟨"docs", [⟨"Document",
    [⟨"owner", "User"⟩, ⟨"Team", "user"⟩, ⟨"Team", "org"⟩, ⟨"owner", "Team"⟩],
    [⟨"read", "owner or member from Team"⟩, ⟨"read", "ghost"⟩]⟩,
    ⟨"Document", [], [⟨"read", "ghost"⟩]⟩]⟩

theorem extendedBy_redeclared : policy.ExtendedBy redeclared :=
  ⟨[_], [_], rfl, .cons ⟨rfl, ⟨[_, _], rfl⟩, ⟨[_], rfl⟩⟩ .nil⟩

end Docs

/-- The listing is the same query under both. -/
theorem Query.compiles_in_extension_redeclared :
    Docs.policy.ExtendedBy Docs.redeclared ∧
      ∃ q, Query.filter Docs.request.subject "read" "Document" Docs.policy = .ok q ∧
        Query.filter Docs.request.subject "read" "Document" Docs.redeclared = .ok q := by
  have hrule : RuleCompiles Docs.policy Docs.request.objectType Docs.request.action := by
    decide +kernel
  obtain ⟨q, hq, -⟩ := exists_filterQuery hrule
  have hsame := (compiles_in_extension Docs.extendedBy_redeclared Docs.request.subject "read" q).2.1
  exact ⟨Docs.extendedBy_redeclared, q, hq, hsame "Document" hq⟩

end Rebac
