import Rebac.Proofs.Sequence
import Rebac.Query.Compile
/-!
# What a compiled rule consists of

A rule compiles when each text between its separators denotes a pattern, and then to these patterns,
one by one and in order (`compileRule_eq_ok_iff`). Whether its clauses are audited makes no
difference to that (`RuleCompiles.exists_patterns`).
-/

namespace Rebac

/-- A list whose elements are made of those of another and of chosen ones comes from one choice. -/
theorem forall₂_exists_iff {α β γ : Type} {R : α → β → Prop} {f : α → β → γ} {xs : List α}
    {zs : List γ} :
    List.Forall₂ (fun x z => ∃ y, R x y ∧ z = f x y) xs zs ↔
      ∃ ys, List.Forall₂ R xs ys ∧ zs = List.zipWith f xs ys := by
  induction xs generalizing zs with
  | nil =>
    rw [List.forall₂_nil_left_iff]
    constructor
    · rintro rfl
      exact ⟨[], List.Forall₂.nil, rfl⟩
    · intro hchoice
      obtain ⟨ys, hys, rfl⟩ := hchoice
      rw [List.forall₂_nil_left_iff.1 hys]
      rfl
  | cons x xs ih =>
    constructor
    · intro h
      obtain ⟨z, rest, ⟨y, hy, rfl⟩, hrest, rfl⟩ := List.forall₂_cons_left_iff.1 h
      obtain ⟨ys, hys, rfl⟩ := ih.1 hrest
      exact ⟨y :: ys, List.Forall₂.cons hy hys, rfl⟩
    · intro hchoice
      obtain ⟨ys, hys, rfl⟩ := hchoice
      obtain ⟨y, rest, hy, hrest, rfl⟩ := List.forall₂_cons_left_iff.1 hys
      exact List.Forall₂.cons ⟨y, hy, rfl⟩ (ih.2 ⟨rest, hrest, rfl⟩)

/-- What is made of two related lists is related to what else is made of them as the parts are. -/
theorem forall₂_zipWith {α β γ δ : Type} {R : α → β → Prop} {S : γ → δ → Prop} {f : α → β → γ}
    {g : α → β → δ} {xs : List α} {ys : List β} (h : List.Forall₂ R xs ys)
    (hS : ∀ x y, R x y → S (f x y) (g x y)) :
    List.Forall₂ S (List.zipWith f xs ys) (List.zipWith g xs ys) := by
  induction h with
  | nil => exact List.Forall₂.nil
  | cons hxy _ ih => exact List.Forall₂.cons (hS _ _ hxy) ih

/-! ### Clauses and their patterns -/

/-- A direct clause has a pattern when its relation is declared: the declaration that is found is
called what the clause calls it. -/
theorem Clause.pattern_direct_eq_ok_iff {policy : Policy} {objectType relation : String}
    {pattern : Pattern} :
    (Clause.direct relation).pattern objectType policy = .ok pattern ↔
      (policy.relation? objectType relation).isSome ∧ pattern = .direct (edgeLabel relation) := by
  simp only [Clause.pattern]
  cases hfound : policy.relation? objectType relation with
  | none => simp
  | some found =>
    have hname : found.name = relation := by
      simpa using List.find?_some hfound
    simp [hname, eq_comm]

/-- A chained clause has a pattern when the relation that leads to the object is declared, and the
declaration says over which nodes the chain goes. -/
theorem Clause.pattern_chained_eq_ok_iff {policy : Policy}
    {objectType relation relatedType : String} {pattern : Pattern} :
    (Clause.chained relation relatedType).pattern objectType policy = .ok pattern ↔
      ∃ declared, policy.relation? objectType relatedType = some declared ∧
        pattern = .chained (edgeLabel relation) (nodeLabel declared.subjectType)
          (edgeLabel relatedType) maxTraversalDepth := by
  simp only [Clause.pattern]
  cases policy.relation? objectType relatedType with
  | none => simp
  | some declared => simp [eq_comm]

/-! ### Rules -/

/-- The clauses of an action's rule as they are written; an unknown action has none. -/
def Policy.clauseTexts (policy : Policy) (objectType action : String) : List String :=
  match policy.action? objectType action with
  | some found => splitRule found.rule
  | none => []

theorem Policy.clauseTexts_eq {policy : Policy} {objectType action : String} {found : Action}
    (h : policy.action? objectType action = some found) :
    policy.clauseTexts objectType action = splitRule found.rule := by
  unfold clauseTexts
  rw [h]

/-- A rule has a clause, if only an empty one. -/
theorem splitRule_ne_nil (rule : String) : splitRule rule ≠ [] := by
  intro hnil
  exact Text.splitOn_ne_nil _ _ (List.map_eq_nil_iff.1 hnil)

theorem clauseTexts_ne_nil {policy : Policy} {objectType action : String}
    (h : (policy.action? objectType action).isSome) : policy.clauseTexts objectType action ≠ [] := by
  obtain ⟨found, hfound⟩ := Option.isSome_iff_exists.1 h
  rw [Policy.clauseTexts_eq hfound]
  exact splitRule_ne_nil found.rule

/-- The text is a clause whose pattern on `objectType` is this one. -/
def Denotes (policy : Policy) (objectType text : String) (pattern : Pattern) : Prop :=
  ∃ clause, Clause.parse text = .ok clause ∧ clause.pattern objectType policy = .ok pattern

/-- The compiled clause of a text and its pattern. -/
def CompiledClause.ofPattern (audited : Bool) (text : String) (pattern : Pattern) :
    CompiledClause :=
  if audited then
    { text := pattern.text ++ " AS " ++ Identifier.quote (clauseColumn text), pattern,
      column := some (clauseColumn text) }
  else { text := pattern.text, pattern, column := none }

@[simp] theorem CompiledClause.pattern_ofPattern (audited : Bool) (text : String)
    (pattern : Pattern) : (ofPattern audited text pattern).pattern = pattern := by
  cases audited <;> rfl

variable {policy : Policy} {objectType action : String} {audited : Bool}

theorem compileClause_eq_ok_iff {text : String} {c : CompiledClause} :
    compileClause text objectType audited policy = .ok c ↔
      ∃ pattern, Denotes policy objectType text pattern ∧
        c = CompiledClause.ofPattern audited text pattern := by
  unfold compileClause Denotes
  cases hclause : Clause.parse text with
  | error e => simp [bind, Except.bind]
  | ok clause =>
    cases hpattern : clause.pattern objectType policy with
    | error e => simp [bind, Except.bind, hpattern]
    | ok pattern =>
      simp only [bind, Except.bind, pure, Except.pure, Except.ok.injEq, exists_eq_left',
        hpattern, CompiledClause.ofPattern]
      exact eq_comm

/-- A rule compiles when each of its texts denotes a pattern, and then to those patterns in order.
-/
theorem compileRule_eq_ok_iff {clauses : List CompiledClause} :
    compileRule objectType action audited policy = .ok clauses ↔
      (policy.action? objectType action).isSome ∧ ∃ patterns,
        List.Forall₂ (Denotes policy objectType) (policy.clauseTexts objectType action) patterns ∧
        clauses = List.zipWith (CompiledClause.ofPattern audited)
          (policy.clauseTexts objectType action) patterns := by
  unfold compileRule Policy.clauseTexts
  cases policy.action? objectType action with
  | none => simp
  | some found =>
    simp only [mapM_eq_ok_iff, compileClause_eq_ok_iff, forall₂_exists_iff, Option.isSome_some,
      true_and]

/-- The rule of an action compiles: the action is declared, and all its clauses are well-formed and
name declared relations. -/
def RuleCompiles (policy : Policy) (objectType action : String) : Prop :=
  ∃ clauses, compileRule objectType action false policy = .ok clauses

instance (policy : Policy) (objectType action : String) :
    Decidable (RuleCompiles policy objectType action) :=
  match h : compileRule objectType action false policy with
  | .ok clauses => isTrue ⟨clauses, h⟩
  | .error _ => isFalse fun ⟨clauses, hclauses⟩ => by rw [h] at hclauses; cases hclauses

/-- A rule that compiles does so with columns and without, to the same patterns. -/
theorem RuleCompiles.exists_patterns (h : RuleCompiles policy objectType action) :
    ∃ patterns,
      List.Forall₂ (Denotes policy objectType) (policy.clauseTexts objectType action) patterns ∧
      ∀ audited, compileRule objectType action audited policy =
        .ok (List.zipWith (CompiledClause.ofPattern audited)
          (policy.clauseTexts objectType action) patterns) := by
  obtain ⟨clauses, hclauses⟩ := h
  obtain ⟨hfound, patterns, hpatterns, -⟩ := compileRule_eq_ok_iff.1 hclauses
  refine ⟨patterns, hpatterns, ?_⟩
  intro audited
  exact compileRule_eq_ok_iff.2 ⟨hfound, patterns, hpatterns, rfl⟩

/-- Whether a rule compiles may be asked with columns or without. -/
theorem ruleCompiles_of_compileRule {clauses : List CompiledClause}
    (h : compileRule objectType action audited policy = .ok clauses) :
    RuleCompiles policy objectType action := by
  obtain ⟨hfound, patterns, hpatterns, -⟩ := compileRule_eq_ok_iff.1 h
  exact ⟨_, compileRule_eq_ok_iff.2 ⟨hfound, patterns, hpatterns, rfl⟩⟩

/-- Each text of a rule that compiles denotes a pattern. -/
theorem RuleCompiles.exists_denotes (h : RuleCompiles policy objectType action) {text : String}
    (hmem : text ∈ policy.clauseTexts objectType action) :
    ∃ pattern, Denotes policy objectType text pattern := by
  obtain ⟨patterns, hpatterns, -⟩ := h.exists_patterns
  have hboth : List.Forall₂ (fun written pattern =>
      (∃ p, Denotes policy objectType written p) ∧ Denotes policy objectType written pattern)
      (policy.clauseTexts objectType action) patterns :=
    hpatterns.imp fun _ pattern hdenotes => ⟨⟨pattern, hdenotes⟩, hdenotes⟩
  exact ((List.forall₂_and_left _ _).1 hboth).1 text hmem

end Rebac
