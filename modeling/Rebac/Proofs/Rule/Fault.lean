import Rebac.Proofs.Rule.Compile
/-!
# Which error a rule gives

A rule is read from left to right, and the first clause in which something is wrong decides the
error (`compileRule_eq_error_iff`). What can be wrong does not depend on whether the clauses are
audited, so a point check, a listing and a count of the same action fail together and with the same
error; and where they succeed, they have the same patterns (`Query.compilers_agree`).
-/

namespace Rebac

/-- A computation whose errors are known succeeds where there is none. -/
theorem exists_eq_ok_iff {ε α : Type} {answer : Except ε α} {fails : ε → Prop}
    (h : ∀ e, answer = .error e ↔ fails e) : (∃ a, answer = .ok a) ↔ ∀ e, ¬ fails e := by
  constructor
  · intro hok e he
    obtain ⟨a, ha⟩ := hok
    rw [(h e).2 he] at ha
    cases ha
  · intro hnone
    cases hanswer : answer with
    | ok a => exact ⟨a, rfl⟩
    | error e => exact absurd ((h e).1 hanswer) (hnone e)

namespace Policy

variable {policy : Policy} {objectType name : String}

/-- Only the first type of a name is looked at. -/
theorem relation?_eq_none_iff :
    policy.relation? objectType name = none ↔
      ∀ t, policy.type? objectType = some t → ∀ declared ∈ t.relations, declared.name ≠ name := by
  unfold relation? relationsOf
  cases policy.type? objectType <;> simp

theorem action?_eq_none_iff :
    policy.action? objectType name = none ↔
      ∀ t, policy.type? objectType = some t → ∀ declared ∈ t.actions, declared.name ≠ name := by
  unfold action? actionsOf
  cases policy.type? objectType <;> simp

end Policy

/-! ### One clause -/

/-- The relation that leads to the object, which has to be declared there. -/
def Clause.lastRelation : Clause → String
  | .direct relation => relation
  | .chained _ relatedType => relatedType

/-- What is wrong with the text of a clause in a rule on `objectType`. -/
inductive ClauseFails (policy : Policy) (objectType text : String) : AccessError → Prop where
  /-- It is no clause. -/
  | malformed (h : ∀ clause, Clause.parse text ≠ .ok clause) :
    ClauseFails policy objectType text (.malformedClause (Text.trim text))
  /-- The first type of this name does not declare the relation that leads to the object. -/
  | undeclared {clause : Clause} (hparse : Clause.parse text = .ok clause)
    (h : ∀ t, policy.type? objectType = some t →
      ∀ declared ∈ t.relations, declared.name ≠ clause.lastRelation) :
    ClauseFails policy objectType text (.relationNotFound objectType clause.lastRelation)

section Clauses

variable {policy : Policy} {objectType text : String} {e : AccessError}

theorem Clause.eq_malformedClause_of_parse (h : Clause.parse text = .error e) :
    e = .malformedClause (Text.trim text) := by
  unfold Clause.parse at h
  dsimp only at h
  split at h
  · cases h
  · split at h
    · cases h
    · exact (Except.error.inj h).symm
  · exact (Except.error.inj h).symm

/-- A text that is no clause is shown without the blanks around it. -/
theorem Clause.parse_eq_error_iff :
    Clause.parse text = .error e ↔
      (∀ clause, Clause.parse text ≠ .ok clause) ∧ e = .malformedClause (Text.trim text) := by
  cases hparse : Clause.parse text with
  | ok clause =>
    constructor
    · intro h
      cases h
    · intro h
      exact absurd rfl (h.1 clause)
  | error e' =>
    obtain rfl := Clause.eq_malformedClause_of_parse hparse
    simp [eq_comm]

theorem Clause.pattern_eq_error_iff {clause : Clause} :
    clause.pattern objectType policy = .error e ↔
      policy.relation? objectType clause.lastRelation = none ∧
        e = .relationNotFound objectType clause.lastRelation := by
  cases clause with
  | direct relation =>
    simp only [Clause.pattern, Clause.lastRelation]
    cases policy.relation? objectType relation <;> simp [eq_comm]
  | chained relation relatedType =>
    simp only [Clause.pattern, Clause.lastRelation]
    cases policy.relation? objectType relatedType <;> simp [eq_comm]

/-- A clause fails for what is wrong with it, audited or not. -/
theorem compileClause_eq_error_iff (audited : Bool) :
    compileClause text objectType audited policy = .error e ↔
      ClauseFails policy objectType text e := by
  constructor
  · -- the clause is read first, and only then is its relation looked up
    intro h
    rcases error_of_bind_eq_error h with hparse | ⟨clause, hparse, hrest⟩
    · obtain ⟨hnone, rfl⟩ := Clause.parse_eq_error_iff.1 hparse
      exact .malformed hnone
    · rcases error_of_bind_eq_error hrest with hpattern | ⟨pattern, -, hlast⟩
      · obtain ⟨hnone, rfl⟩ := Clause.pattern_eq_error_iff.1 hpattern
        exact .undeclared hparse (Policy.relation?_eq_none_iff.1 hnone)
      · cases hlast
  · intro h
    unfold compileClause
    cases h with
    | malformed h =>
      simp only [Clause.parse_eq_error_iff.2 ⟨h, rfl⟩, bind, Except.bind]
    | undeclared hparse h =>
      have hpattern := Clause.pattern_eq_error_iff.2 ⟨Policy.relation?_eq_none_iff.2 h, rfl⟩
      simp only [hparse, hpattern, bind, Except.bind]

/-- A clause compiles where nothing is wrong with it. -/
theorem exists_compileClause_iff (audited : Bool) :
    (∃ c, compileClause text objectType audited policy = .ok c) ↔
      ∀ e, ¬ ClauseFails policy objectType text e :=
  exists_eq_ok_iff fun _ => compileClause_eq_error_iff audited

theorem exists_denotes_iff :
    (∃ pattern, Denotes policy objectType text pattern) ↔
      ∀ e, ¬ ClauseFails policy objectType text e := by
  rw [← exists_compileClause_iff false]
  simp only [compileClause_eq_ok_iff]
  constructor
  · intro hdenotes
    obtain ⟨pattern, hpattern⟩ := hdenotes
    exact ⟨_, pattern, hpattern, rfl⟩
  · intro hcompiled
    obtain ⟨c, pattern, hpattern, -⟩ := hcompiled
    exact ⟨pattern, hpattern⟩

end Clauses

/-! ### Rules -/

/-- The first text in which something is wrong is wrong in this way. -/
def FirstFails (policy : Policy) (objectType : String) (texts : List String) (e : AccessError) :
    Prop :=
  ∃ before text after, texts = before ++ text :: after ∧
    (∀ earlier ∈ before, ∀ e', ¬ ClauseFails policy objectType earlier e') ∧
    ClauseFails policy objectType text e

theorem FirstFails.exists_mem {policy : Policy} {objectType : String} {texts : List String}
    {e : AccessError} (h : FirstFails policy objectType texts e) :
    ∃ text ∈ texts, ClauseFails policy objectType text e := by
  obtain ⟨before, text, after, rfl, -, hfails⟩ := h
  exact ⟨text, List.mem_append_right before List.mem_cons_self, hfails⟩

/-- What is wrong with the rule of an action. -/
inductive RuleFails (policy : Policy) (objectType action : String) : AccessError → Prop where
  /-- The first type of this name does not declare the action, or there is no such type. -/
  | action (h : ∀ t, policy.type? objectType = some t →
      ∀ declared ∈ t.actions, declared.name ≠ action) :
    RuleFails policy objectType action (.actionNotFound objectType action)
  /-- The rule of the first action of this name has a faulty clause. -/
  | clause {found : Action} {e : AccessError} (hfound : policy.action? objectType action = some found)
    (h : FirstFails policy objectType (splitRule found.rule) e) :
    RuleFails policy objectType action e

section Rules

variable {policy : Policy} {objectType action : String} {e : AccessError}

/-- A rule fails for what is wrong with it, audited or not. -/
theorem compileRule_eq_error_iff (audited : Bool) :
    compileRule objectType action audited policy = .error e ↔
      RuleFails policy objectType action e := by
  unfold compileRule
  cases hfound : policy.action? objectType action with
  | none =>
    constructor
    · intro h
      obtain rfl := Except.error.inj h
      exact .action (Policy.action?_eq_none_iff.1 hfound)
    · intro h
      cases h with
      | action _ => rfl
      | clause hsome _ =>
        rw [hfound] at hsome
        cases hsome
  | some found =>
    have hfirst : (splitRule found.rule).mapM (compileClause · objectType audited policy) =
        .error e ↔ FirstFails policy objectType (splitRule found.rule) e := by
      simp only [mapM_eq_error_iff, exists_compileClause_iff, compileClause_eq_error_iff,
        FirstFails]
    refine hfirst.trans ⟨fun h => .clause hfound h, ?_⟩
    -- a rule that is there can only fail in a clause
    intro h
    cases h with
    | action hnone =>
      rw [Policy.action?_eq_none_iff.2 hnone] at hfound
      cases hfound
    | clause hsome h =>
      obtain rfl := Option.some.inj (hfound.symm.trans hsome)
      exact h

theorem not_ruleFails_iff :
    (∀ e, ¬ RuleFails policy objectType action e) ↔ RuleCompiles policy objectType action :=
  (exists_eq_ok_iff fun _ => compileRule_eq_error_iff false).symm

/-- A rule compiles if it is there and nothing is wrong with its clauses. -/
theorem ruleCompiles_iff :
    RuleCompiles policy objectType action ↔ ∃ found, policy.action? objectType action = some found ∧
      ∀ text ∈ splitRule found.rule, ∀ e, ¬ ClauseFails policy objectType text e := by
  constructor
  · intro hrule
    obtain ⟨clauses, hclauses⟩ := hrule
    obtain ⟨found, hfound⟩ := Option.isSome_iff_exists.1 (compileRule_eq_ok_iff.1 hclauses).1
    refine ⟨found, hfound, ?_⟩
    intro text hmem
    rw [← Policy.clauseTexts_eq hfound] at hmem
    exact exists_denotes_iff.1 (RuleCompiles.exists_denotes ⟨clauses, hclauses⟩ hmem)
  · intro hgood
    obtain ⟨found, hfound, hnone⟩ := hgood
    apply not_ruleFails_iff.1
    intro e he
    cases he with
    | action h =>
      rw [Policy.action?_eq_none_iff.2 h] at hfound
      cases hfound
    | clause hsome h =>
      obtain rfl := Option.some.inj (hfound.symm.trans hsome)
      obtain ⟨text, hmem, hfails⟩ := h.exists_mem
      exact hnone text hmem e hfails

end Rules

/-! ### The three queries of an action -/

/-- What is made of a computation without failing fails as the computation does. -/
theorem bind_ok_eq_error_iff {ε α β : Type} {first : Except ε α} {f : α → β} {e : ε} :
    (first >>= fun a => .ok (f a)) = .error e ↔ first = .error e := by
  cases first <;> simp [bind, Except.bind]

/-- Each compiled clause has the pattern of its text, and a column if it is audited. -/
theorem CompiledClause.forall₂_ofPattern {policy : Policy} {objectType : String}
    {texts : List String} {patterns : List Pattern}
    (h : List.Forall₂ (Denotes policy objectType) texts patterns) (audited : Bool) :
    List.Forall₂
      (fun text c => Denotes policy objectType text c.pattern ∧
        c.column = if audited then some (clauseColumn text) else none)
      texts (List.zipWith (ofPattern audited) texts patterns) := by
  induction h with
  | nil => exact List.Forall₂.nil
  | cons hdenotes _ ih =>
    refine List.Forall₂.cons ⟨?_, ?_⟩ ih
    · rw [pattern_ofPattern]
      exact hdenotes
    · cases audited <;> rfl

namespace Query

variable {policy : Policy} {subject object : Entity} {action objectType : String} {e : AccessError}

theorem access_eq_error_iff :
    access subject action object policy = .error e ↔ RuleFails policy object.typeName action e :=
  bind_ok_eq_error_iff.trans (compileRule_eq_error_iff true)

theorem overObjects_eq_error_iff {separator returns : String} {projection : Projection} :
    overObjects subject action objectType policy separator projection returns = .error e ↔
      RuleFails policy objectType action e :=
  bind_ok_eq_error_iff.trans (compileRule_eq_error_iff false)

/-- A point check, a listing and a count of one rule, whose clauses are written like this. -/
structure Agree (policy : Policy) (objectType : String) (texts : List String)
    (access filter count : Query) : Prop where
  subject_eq : access.plan.subjectLabel = filter.plan.subjectLabel ∧
    count.plan.subjectLabel = filter.plan.subjectLabel
  object_eq : access.plan.objectLabel = filter.plan.objectLabel ∧
    count.plan.objectLabel = filter.plan.objectLabel
  texts_ne_nil : texts ≠ []
  /-- A listing has a pattern for each text, and no columns. -/
  filter_clauses : List.Forall₂
    (fun text c => Denotes policy objectType text c.pattern ∧ c.column = none)
    texts filter.plan.clauses
  /-- So has a count. -/
  count_clauses : count.plan.clauses = filter.plan.clauses
  /-- A point check has a column for each text besides. -/
  access_clauses : List.Forall₂
    (fun text c => Denotes policy objectType text c.pattern ∧ c.column = some (clauseColumn text))
    texts access.plan.clauses
  /-- Its conditions are those of the listing with the name of the column added. -/
  conditions : List.Forall₂
    (fun named plain => named.pattern = plain.pattern ∧ ∃ column, named.column = some column ∧
      named.text = plain.text ++ " AS " ++ Identifier.quote column)
    access.plan.clauses filter.plan.clauses

/-- A point check, a listing and a count of the same action fail with the same error: there is no
such action, or else what is wrong with the first clause of its rule in which something is wrong. If
nothing is wrong with any clause, all three succeed, and their plans agree. -/
theorem compilers_agree (policy : Policy) (subject : Entity) (action objectType id : String) :
    let access := Query.access subject action ⟨objectType, id⟩ policy
    let filter := Query.filter subject action objectType policy
    let count := Query.count subject action objectType policy
    (∀ e, (access = .error e ↔ RuleFails policy objectType action e) ∧
      (filter = .error e ↔ RuleFails policy objectType action e) ∧
      (count = .error e ↔ RuleFails policy objectType action e)) ∧
    ((∀ e, ¬ RuleFails policy objectType action e) ↔
      ∃ found, policy.action? objectType action = some found ∧
        ∀ text ∈ splitRule found.rule, ∀ e, ¬ ClauseFails policy objectType text e) ∧
    ∀ found, policy.action? objectType action = some found →
      (∀ text ∈ splitRule found.rule, ∀ e, ¬ ClauseFails policy objectType text e) →
      ∃ a f c, access = .ok a ∧ filter = .ok f ∧ count = .ok c ∧
        Agree policy objectType (splitRule found.rule) a f c := by
  intro access filter count
  refine ⟨fun e => ⟨access_eq_error_iff, overObjects_eq_error_iff, overObjects_eq_error_iff⟩,
    not_ruleFails_iff.trans ruleCompiles_iff, ?_⟩
  intro found hfound hnone
  -- one list of patterns serves all three
  obtain ⟨patterns, hpatterns, hcompiled⟩ :=
    (ruleCompiles_iff.2 ⟨found, hfound, hnone⟩).exists_patterns
  rw [Policy.clauseTexts_eq hfound] at hpatterns hcompiled
  unfold access filter count Query.access Query.filter Query.count overObjects
  rw [hcompiled true, hcompiled false]
  refine ⟨_, _, _, rfl, rfl, rfl, ?_⟩
  constructor
  case subject_eq => exact ⟨rfl, rfl⟩
  case object_eq => exact ⟨rfl, rfl⟩
  case texts_ne_nil => exact splitRule_ne_nil found.rule
  case count_clauses => rfl
  case filter_clauses => exact CompiledClause.forall₂_ofPattern hpatterns false
  case access_clauses => exact CompiledClause.forall₂_ofPattern hpatterns true
  case conditions =>
    exact forall₂_zipWith hpatterns fun text pattern _ => ⟨rfl, clauseColumn text, rfl, rfl⟩

end Query

namespace Ghost

/-- Of the rules on documents the first has two faulty clauses and the second has none. -/
def policy : Policy :=
  ⟨"docs", [⟨"Document", [⟨"owner", "User"⟩, ⟨"Team", "User"⟩],
    [⟨"read", "owner or ghost or a from b from c"⟩, ⟨"write", "owner or member from Team"⟩]⟩]⟩

end Ghost

/-- In the first rule the second clause is the first with something wrong, and the third is not
looked at: all three queries fail for the relation that is not there. For the second rule all
three succeed. -/
theorem Query.compilers_agree_ghost :
    let user : Entity := ⟨"User", "1"⟩
    let ghost : AccessError := .relationNotFound "Document" "ghost"
    (access user "read" ⟨"Document", "a"⟩ Ghost.policy = .error ghost ∧
      filter user "read" "Document" Ghost.policy = .error ghost ∧
      count user "read" "Document" Ghost.policy = .error ghost) ∧
    ∃ a f c, access user "write" ⟨"Document", "a"⟩ Ghost.policy = .ok a ∧
      filter user "write" "Document" Ghost.policy = .ok f ∧
      count user "write" "Document" Ghost.policy = .ok c ∧
      Agree Ghost.policy "Document" ["owner", " member from Team"] a f c := by
  intro user ghost
  have howner : ∀ e, ¬ ClauseFails Ghost.policy "Document" "owner" e :=
    (exists_compileClause_iff false).1
      ⟨.ofPattern false "owner" (.direct "OWNER"), by decide +kernel⟩
  constructor
  · have hread : RuleFails Ghost.policy "Document" "read" ghost := by
      have hrule : Ghost.policy.action? "Document" "read" =
          some ⟨"read", "owner or ghost or a from b from c"⟩ := by decide +kernel
      have hpieces : splitRule "owner or ghost or a from b from c" =
          ["owner"] ++ " ghost" :: [" a from b from c"] := by decide +kernel
      have hparse : Clause.parse " ghost" = .ok (.direct "ghost") := by decide +kernel
      have hnone : Ghost.policy.relation? "Document" "ghost" = none := by decide +kernel
      -- only what stands before the faulty clause has to be in order
      exact .clause hrule ⟨["owner"], " ghost", [" a from b from c"], hpieces,
        List.forall_mem_singleton.2 howner,
        .undeclared hparse (Policy.relation?_eq_none_iff.1 hnone)⟩
    obtain ⟨herrors, -⟩ := compilers_agree Ghost.policy user "read" "Document" "a"
    obtain ⟨haccess, hfilter, hcount⟩ := herrors ghost
    exact ⟨haccess.2 hread, hfilter.2 hread, hcount.2 hread⟩
  · have hrule : Ghost.policy.action? "Document" "write" =
        some ⟨"write", "owner or member from Team"⟩ := by decide +kernel
    have hpieces : splitRule "owner or member from Team" = ["owner", " member from Team"] := by
      decide +kernel
    have hmember : ∀ e, ¬ ClauseFails Ghost.policy "Document" " member from Team" e :=
      (exists_compileClause_iff false).1
        ⟨.ofPattern false " member from Team" (.chained "MEMBER" "User" "TEAM" 1000),
          by decide +kernel⟩
    obtain ⟨-, -, hsucceed⟩ := compilers_agree Ghost.policy user "write" "Document" "a"
    rw [← hpieces]
    apply hsucceed _ hrule
    rw [hpieces]
    exact List.forall_mem_cons.2 ⟨howner, List.forall_mem_singleton.2 hmember⟩

end Rebac
