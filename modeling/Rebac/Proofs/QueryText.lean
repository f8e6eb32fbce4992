import Rebac.Page
import Rebac.Proofs.Identifier
import Rebac.Proofs.Rule.Compile
/-!
# Reading queries back

The text of a query says neither more nor less than its plan. One way, the text is written from the
plan (`Plan.text`). The other way, `Plan.ofText?` reads the plan off the text: every label and every
column stands in it as an identifier, which says itself where it ends, and the fixed texts between
them tell patterns, clauses and kinds of queries apart. So whatever the names of a policy are, no
two different plans are written alike (`Query.text_eq_iff_plan_eq`).
-/

namespace Rebac

/-! ### Fixed texts -/

/-- Takes a fixed text off the front of a text. -/
def expect (fixed : String) (cs : List Char) : Option (List Char) := cs.dropPrefix? fixed.toList

theorem expect_append (fixed : String) (rest : List Char) :
    expect fixed (fixed.toList ++ rest) = some rest :=
  List.dropPrefix?_eq_some_iff.2 ⟨fixed.toList, rfl, by simp⟩

theorem expect_bind {α : Type} (fixed : String) (rest : List Char) (f : List Char → Option α) :
    (expect fixed (fixed.toList ++ rest) >>= f) = f rest := by
  rw [expect_append]
  rfl

theorem readName_bind {α : Type} (name : String) {rest : List Char}
    (h : Identifier.isEndedBy rest = true) (f : String × List Char → Option α) :
    (Identifier.readName ((Identifier.quote name).toList ++ rest) >>= f) = f (name, rest) := by
  rw [Identifier.readName_quote name h]
  rfl

/-! ### Patterns -/

namespace Pattern

/-- The chain of the pattern, if it has one, is as long as that of a compiled clause can be. -/
def HasDepth : Pattern → Prop
  | .direct _ => True
  | .chained _ _ _ maxDepth => maxDepth = maxTraversalDepth

/-- Reads a pattern off the front of a text: what follows the first label tells which kind it is. -/
def read (cs : List Char) : Option (Pattern × List Char) := do
  let cs ← expect "\tEXISTS((s)-[:" cs
  let (edge, cs) ← Identifier.readName cs
  match expect "]->(o))" cs with
  | some cs => return (.direct edge, cs)
  | none =>
    let cs ← expect "]-(:" cs
    let (via, cs) ← Identifier.readName cs
    let cs ← expect ")-[:" cs
    let (chain, cs) ← Identifier.readName cs
    let cs ← expect "*.." cs
    let cs ← expect (toString maxTraversalDepth) cs
    let cs ← expect "]->(o))" cs
    return (.chained edge via chain maxTraversalDepth, cs)

theorem text_direct (edge : String) :
    (direct edge).text = "\tEXISTS((s)-[:" ++ Identifier.quote edge ++ "]->(o))" := rfl

theorem text_chained (edge via chain : String) (maxDepth : Nat) :
    (chained edge via chain maxDepth).text =
      "\tEXISTS((s)-[:" ++ Identifier.quote edge ++ "]-(:" ++ Identifier.quote via ++ ")-[:" ++
        Identifier.quote chain ++ "*.." ++ toString maxDepth ++ "]->(o))" := rfl

theorem read_text {pattern : Pattern} (h : pattern.HasDepth) (rest : List Char) :
    read (pattern.text.toList ++ rest) = some (pattern, rest) := by
  cases pattern with
  | direct edge =>
    simp only [text_direct, String.toList_append, List.append_assoc]
    unfold read
    rw [expect_bind, readName_bind]
    · simp only [expect_append]
      rfl
    · rfl
  | chained edge via chain maxDepth =>
    obtain rfl : maxDepth = maxTraversalDepth := h
    have hkind : ∀ more, expect "]->(o))" ("]-(:".toList ++ more) = none := fun _ => rfl
    simp only [text_chained, String.toList_append, List.append_assoc]
    unfold read
    rw [expect_bind, readName_bind]
    · simp only [hkind]
      rw [expect_bind, readName_bind]
      · rw [expect_bind, readName_bind]
        · rw [expect_bind, expect_bind, expect_bind]
          rfl
        · rfl
      · rfl
    · rfl

end Pattern

/-! ### Clauses -/

namespace CompiledClause

/-- The clause of a pattern, with a column or without one. -/
def written (pattern : Pattern) : Option String → CompiledClause
  | some column =>
    { text := pattern.text ++ " AS " ++ Identifier.quote column, pattern, column := some column }
  | none => { text := pattern.text, pattern, column := none }

/-- The clause says in its text what its pattern and its column are. -/
structure IsWritten (c : CompiledClause) : Prop where
  hasDepth : c.pattern.HasDepth
  eq_written : c = written c.pattern c.column

/-- Reads a clause off the front of a text. -/
def read (cs : List Char) : Option (CompiledClause × List Char) := do
  let (pattern, cs) ← Pattern.read cs
  match expect " AS " cs with
  | some cs =>
    let (column, cs) ← Identifier.readName cs
    return (written pattern (some column), cs)
  | none => return (written pattern none, cs)

/-- Whether a clause ends before this text. -/
structure EndsBefore (rest : List Char) : Prop where
  no_column : expect " AS " rest = none
  isEndedBy : Identifier.isEndedBy rest = true

theorem read_text {c : CompiledClause} (h : c.IsWritten) {rest : List Char}
    (hrest : EndsBefore rest) : read (c.text.toList ++ rest) = some (c, rest) := by
  obtain ⟨text, pattern, column⟩ := c
  have hpattern := h.hasDepth
  have heq := h.eq_written
  unfold read
  cases column with
  | some column =>
    obtain rfl : text = pattern.text ++ " AS " ++ Identifier.quote column :=
      (CompiledClause.mk.inj heq).1
    simp only [String.toList_append, List.append_assoc]
    rw [Pattern.read_text hpattern, Option.bind_eq_bind, Option.bind_some]
    simp only [expect_append]
    rw [readName_bind column hrest.isEndedBy]
    rfl
  | none =>
    obtain rfl : text = pattern.text := (CompiledClause.mk.inj heq).1
    rw [Pattern.read_text hpattern, Option.bind_eq_bind, Option.bind_some]
    simp only [hrest.no_column]
    rfl

end CompiledClause

/-! ### Lists of clauses -/

/-- What joins the clauses of a query. -/
def Projection.separator : Projection → String
  | .clauseColumns => ",\n"
  | .distinctIds => " OR\n"
  | .countDistinct => " OR \n"

/-- How the text of a query ends. -/
def Projection.ending : Projection → String
  | .clauseColumns => ""
  | .distinctIds => "\nRETURN DISTINCT " ++ Query.idColumn ++ "\n"
  | .countDistinct => "\nRETURN COUNT(DISTINCT " ++ Query.idColumn ++ ") AS " ++ Query.totalColumn

/-- Takes a separator of clauses, of whatever kind, off the front of a text. -/
def dropSeparator (cs : List Char) : Option (List Char) :=
  (expect ",\n" cs).or ((expect " OR\n" cs).or (expect " OR \n" cs))

theorem dropSeparator_separator (p : Projection) (rest : List Char) :
    dropSeparator (p.separator.toList ++ rest) = some rest := by
  unfold dropSeparator
  cases p with
  | clauseColumns =>
    show (expect ",\n" (",\n".toList ++ rest)).or _ = some rest
    rw [expect_append, Option.some_or]
  | distinctIds =>
    have hcolumns : expect ",\n" (" OR\n".toList ++ rest) = none := rfl
    show (expect ",\n" (" OR\n".toList ++ rest)).or ((expect " OR\n" (" OR\n".toList ++ rest)).or _) =
      some rest
    rw [hcolumns, expect_append, Option.none_or, Option.some_or]
  | countDistinct =>
    have hcolumns : expect ",\n" (" OR \n".toList ++ rest) = none := rfl
    have hids : expect " OR\n" (" OR \n".toList ++ rest) = none := rfl
    show (expect ",\n" (" OR \n".toList ++ rest)).or ((expect " OR\n" (" OR \n".toList ++ rest)).or
      (expect " OR \n" (" OR \n".toList ++ rest))) = some rest
    rw [hcolumns, hids, expect_append, Option.none_or, Option.none_or]

theorem dropSeparator_ending (p : Projection) : dropSeparator p.ending.toList = none := by
  cases p <;> decide

theorem endsBefore_separator (p : Projection) (rest : List Char) :
    CompiledClause.EndsBefore (p.separator.toList ++ rest) := by
  cases p <;> exact ⟨rfl, rfl⟩

theorem endsBefore_ending (p : Projection) : CompiledClause.EndsBefore p.ending.toList := by
  cases p <;> exact ⟨rfl, rfl⟩

namespace CompiledClause

/-- Reads clauses off the front of a text as long as a separator follows. -/
def readAll (cs : List Char) : Option (List CompiledClause × List Char) := do
  let (c, rest) ← read cs
  match dropSeparator rest with
  | none => return ([c], rest)
  | some more =>
    -- a clause and a separator take up something, so this is never the end of a text
    if more.length < cs.length then
      let (clauses, rest) ← readAll more
      return (c :: clauses, rest)
    else none
termination_by cs.length

/-- Clauses that are joined are read one by one, up to the ending. -/
theorem readAll_intercalate (p : Projection) {clauses : List CompiledClause} (hne : clauses ≠ [])
    (h : ∀ c ∈ clauses, c.IsWritten) :
    readAll ((p.separator.intercalate (clauses.map (·.text))).toList ++ p.ending.toList) =
      some (clauses, p.ending.toList) := by
  induction clauses with
  | nil => exact absurd rfl hne
  | cons c rest ih =>
    have hc := h c List.mem_cons_self
    rw [readAll]
    cases rest with
    | nil =>
      rw [List.map_singleton, String.intercalate_singleton,
        read_text hc (endsBefore_ending p), Option.bind_eq_bind, Option.bind_some]
      simp only [dropSeparator_ending]
      rfl
    | cons d rest =>
      have hrest := ih (by simp) fun c hc => h c (List.mem_cons_of_mem _ hc)
      rw [List.map_cons, List.map_cons, String.intercalate_cons_cons]
      simp only [String.toList_append, List.append_assoc]
      rw [read_text hc (endsBefore_separator p _), Option.bind_eq_bind, Option.bind_some]
      have hsome : 0 < p.separator.toList.length := by cases p <;> decide
      simp only [dropSeparator_separator, List.length_append]
      rw [if_pos (by omega), ← List.map_cons, hrest]
      rfl

end CompiledClause

/-! ### Queries -/

/-- What stands between the label of the objects and the clauses. -/
def Projection.opening : Projection → String
  | .clauseColumns => " \x7bid: $object_id\x7d)\nRETURN\n"
  | .distinctIds | .countDistinct => ")\nWHERE "

theorem Projection.opening_of_ne {p : Projection} (h : p ≠ .clauseColumns) :
    p.opening = ")\nWHERE " := by
  cases p with
  | clauseColumns => exact absurd rfl h
  | distinctIds => rfl
  | countDistinct => rfl

/-- Reads what stands there off the front of a text: it tells whether an object is bound. -/
def readOpening (cs : List Char) : Option (Bool × List Char) :=
  match expect " \x7bid: $object_id\x7d)\nRETURN\n" cs with
  | some cs => some (true, cs)
  | none => (expect ")\nWHERE " cs).map fun cs => (false, cs)

/-- The projection of a query by the ending of its text. -/
def Projection.ofEnding? (cs : List Char) : Option Projection :=
  [clauseColumns, distinctIds, countDistinct].find? fun p => p.ending.toList = cs

theorem Projection.ofEnding?_ending (p : Projection) : ofEnding? p.ending.toList = some p := by
  cases p <;> decide

theorem readOpening_opening (p : Projection) (rest : List Char) :
    readOpening (p.opening.toList ++ rest) = some (decide (p = .clauseColumns), rest) := by
  have hbound : expect " \x7bid: $object_id\x7d)\nRETURN\n" (")\nWHERE ".toList ++ rest) = none := rfl
  unfold readOpening
  cases p with
  | clauseColumns =>
    simp only [Projection.opening, expect_append]
    rfl
  | distinctIds =>
    simp only [Projection.opening, hbound, expect_append]
    rfl
  | countDistinct =>
    simp only [Projection.opening, hbound, expect_append]
    rfl

namespace Plan

/-- The text of the query that has this plan. -/
def text (plan : Plan) : String :=
  "MATCH (s:" ++ Identifier.quote plan.subjectLabel ++ " \x7bid: $subject_id\x7d)\nMATCH (o:" ++
    Identifier.quote plan.objectLabel ++ plan.projection.opening ++
    plan.projection.separator.intercalate (plan.clauses.map (·.text)) ++ plan.projection.ending

/-- Reads the plan of a query off its text. -/
def ofText? (text : String) : Option Plan := do
  let cs ← expect "MATCH (s:" text.toList
  let (subjectLabel, cs) ← Identifier.readName cs
  let cs ← expect " \x7bid: $subject_id\x7d)\nMATCH (o:" cs
  let (objectLabel, cs) ← Identifier.readName cs
  let (objectBound, cs) ← readOpening cs
  let (clauses, cs) ← CompiledClause.readAll cs
  let projection ← Projection.ofEnding? cs
  return { subjectLabel, objectLabel, objectBound, clauses, projection }

/-- A plan as it comes from a rule: its object is bound just in a point check, and it has clauses,
which say in their texts what they are. -/
structure IsWritten (plan : Plan) : Prop where
  objectBound_eq : plan.objectBound = decide (plan.projection = .clauseColumns)
  clauses_ne_nil : plan.clauses ≠ []
  isWritten : ∀ c ∈ plan.clauses, c.IsWritten

/-- What is written of a plan is read as that plan. -/
theorem ofText?_text {plan : Plan} (h : plan.IsWritten) : ofText? plan.text = some plan := by
  have hopening : ∀ rest, Identifier.isEndedBy (plan.projection.opening.toList ++ rest) = true := by
    intro rest
    cases plan.projection <;> rfl
  unfold ofText? text
  simp only [String.toList_append, List.append_assoc]
  rw [expect_bind, readName_bind]
  · rw [expect_bind, readName_bind _ (hopening _), readOpening_opening, Option.bind_eq_bind,
      Option.bind_some]
    simp only [CompiledClause.readAll_intercalate plan.projection h.clauses_ne_nil h.isWritten,
      Option.bind_eq_bind, Option.bind_some, Projection.ofEnding?_ending, ← h.objectBound_eq]
    rfl
  · rfl

end Plan

/-! ### Compiled queries -/

/-- Compiled clauses say in their texts what their patterns and columns are. -/
theorem CompiledClause.isWritten_ofPattern {policy : Policy} {objectType clauseText : String}
    {pattern : Pattern} (h : Denotes policy objectType clauseText pattern) (audited : Bool) :
    (CompiledClause.ofPattern audited clauseText pattern).IsWritten := by
  have hdepth : pattern.HasDepth := by
    obtain ⟨clause, -, hpattern⟩ := h
    cases clause with
    | direct relation =>
      obtain ⟨-, rfl⟩ := Clause.pattern_direct_eq_ok_iff.1 hpattern
      trivial
    | chained relation relatedType =>
      obtain ⟨declared, -, rfl⟩ := Clause.pattern_chained_eq_ok_iff.1 hpattern
      rfl
  cases audited <;> exact ⟨hdepth, rfl⟩

theorem isWritten_of_mem_zipWith {policy : Policy} {objectType : String} {texts : List String}
    {patterns : List Pattern} (h : List.Forall₂ (Denotes policy objectType) texts patterns)
    (audited : Bool) :
    ∀ c ∈ List.zipWith (CompiledClause.ofPattern audited) texts patterns, c.IsWritten := by
  induction h with
  | nil =>
    intro c hc
    cases hc
  | cons hdenotes _ ih =>
    rw [List.zipWith_cons_cons, List.forall_mem_cons]
    exact ⟨CompiledClause.isWritten_ofPattern hdenotes audited, ih⟩

/-- The clauses of a compiled rule are there, and are written. -/
theorem isWritten_of_compileRule {policy : Policy} {objectType action : String} {audited : Bool}
    {clauses : List CompiledClause}
    (h : compileRule objectType action audited policy = .ok clauses) :
    clauses ≠ [] ∧ ∀ c ∈ clauses, c.IsWritten := by
  obtain ⟨hfound, patterns, hpatterns, rfl⟩ := compileRule_eq_ok_iff.1 h
  refine ⟨?_, isWritten_of_mem_zipWith hpatterns audited⟩
  have hne := clauseTexts_ne_nil hfound
  intro hnil
  rcases List.zipWith_eq_nil_iff.1 hnil with htexts | hnone
  · exact hne htexts
  · rw [hnone, List.forall₂_nil_right_iff] at hpatterns
    exact hne hpatterns

namespace Query

/-- The query is what some request compiles to, and no window has been added. -/
inductive IsCompiled : Query → Prop where
  | access {subject object : Entity} {action : String} {policy : Policy} {q : Query}
      (h : Query.access subject action object policy = .ok q) : IsCompiled q
  | filter {subject : Entity} {action objectType : String} {policy : Policy} {q : Query}
      (h : Query.filter subject action objectType policy = .ok q) : IsCompiled q
  | count {subject : Entity} {action objectType : String} {policy : Policy} {q : Query}
      (h : Query.count subject action objectType policy = .ok q) : IsCompiled q

/-- The query has the text of its plan, and its plan can be read back. -/
structure SaysPlan (q : Query) : Prop where
  isWritten : q.plan.IsWritten
  text_eq : q.text = q.plan.text

theorem saysPlan_access {subject object : Entity} {action : String} {policy : Policy} {q : Query}
    (h : Query.access subject action object policy = .ok q) : q.SaysPlan := by
  obtain ⟨clauses, hrule, hq⟩ := exists_of_bind_eq_ok h
  obtain ⟨hne, hwritten⟩ := isWritten_of_compileRule hrule
  obtain rfl := Except.ok.inj hq
  refine ⟨⟨rfl, hne, hwritten⟩, ?_⟩
  -- the fixed texts are cut in other places here than in the text of a plan
  show _ = "MATCH (s:" ++ Identifier.quote _ ++ " \x7bid: $subject_id\x7d)\nMATCH (o:" ++
    Identifier.quote _ ++ " \x7bid: $object_id\x7d)\nRETURN\n" ++ ",\n".intercalate _ ++ ""
  apply String.toList_injective
  unfold matchBound joinTexts subjectIdParam objectIdParam
  simp [String.toList_append]

theorem saysPlan_overObjects {subject : Entity} {action objectType : String} {policy : Policy}
    {q : Query} (p : Projection) (hp : p ≠ .clauseColumns)
    (h : overObjects subject action objectType policy p.separator p p.ending = .ok q) :
    q.SaysPlan := by
  obtain ⟨clauses, hrule, hq⟩ := exists_of_bind_eq_ok h
  obtain ⟨hne, hwritten⟩ := isWritten_of_compileRule hrule
  obtain rfl := Except.ok.inj hq
  refine ⟨⟨(decide_eq_false hp).symm, hne, hwritten⟩, ?_⟩
  unfold Plan.text
  rw [Projection.opening_of_ne hp]
  apply String.toList_injective
  unfold matchBound matchAll joinTexts subjectIdParam
  simp [String.toList_append]

/-- A compiled query has the text of its plan. -/
theorem IsCompiled.saysPlan {q : Query} (h : q.IsCompiled) : q.SaysPlan := by
  cases h with
  | access h => exact saysPlan_access h
  | filter h => exact saysPlan_overObjects .distinctIds (by decide) h
  | count h => exact saysPlan_overObjects .countDistinct (by decide) h

/-- Two compiled queries have the same text just if they have the same plan: the text is written
from the plan, and the plan is read off the text, whatever the names in it are. -/
theorem text_eq_iff_plan_eq {q₁ q₂ : Query} (h₁ : q₁.IsCompiled) (h₂ : q₂.IsCompiled) :
    (q₁.text = q₂.text ↔ q₁.plan = q₂.plan) ∧ Plan.ofText? q₁.text = some q₁.plan := by
  have hread : ∀ {q : Query}, q.IsCompiled → Plan.ofText? q.text = some q.plan := by
    intro q h
    rw [h.saysPlan.text_eq]
    exact Plan.ofText?_text h.saysPlan.isWritten
  refine ⟨⟨fun htext => ?_, fun hplan => ?_⟩, hread h₁⟩
  · have hplans : some q₁.plan = some q₂.plan := by rw [← hread h₁, ← hread h₂, htext]
    exact Option.some.inj hplans
  · rw [h₁.saysPlan.text_eq, h₂.saysPlan.text_eq, hplan]

end Query

/-! ### Names that try to end their identifier -/

namespace Hostile

/-- The names of the type and of its relation hold what follows them in a query. -/
def policy : Policy :=
  ⟨"docs", [⟨"Doc`ument", [⟨"]->(o)) as `x", "User"⟩], [⟨"read", "]->(o)) as `x"⟩]⟩]⟩

/-- A subject whose type closes the pattern of the subject. -/
def subject : Entity := ⟨"User) DETACH DELETE (x", "1"⟩

/-- The only clause of the rule, without a column. -/
def clause : CompiledClause where
  text := "\tEXISTS((s)-[:`]->(O)) AS ``X`]->(o))"
  pattern := .direct "]->(O)) AS `X"
  column := none

/-- The listing of the objects of that type. -/
def listing : Query where
  text := "MATCH (s:`User) DETACH DELETE (x` \x7bid: $subject_id\x7d)\n" ++
    "MATCH (o:`Doc``ument`)\nWHERE \tEXISTS((s)-[:`]->(O)) AS ``X`]->(o))\n" ++
    "RETURN DISTINCT o.id\n"
  params := [("subject_id", .string "1")]
  plan := ⟨"User) DETACH DELETE (x", "Doc`ument", false, [clause], .distinctIds⟩

/-- Their number. -/
def counting : Query where
  text := "MATCH (s:`User) DETACH DELETE (x` \x7bid: $subject_id\x7d)\n" ++
    "MATCH (o:`Doc``ument`)\nWHERE \tEXISTS((s)-[:`]->(O)) AS ``X`]->(o))\n" ++
    "RETURN COUNT(DISTINCT o.id) AS total"
  params := [("subject_id", .string "1")]
  plan := ⟨"User) DETACH DELETE (x", "Doc`ument", false, [clause], .countDistinct⟩

end Hostile

/-- Such names stand in the text in backticks, and the plan is read off it all the same. -/
theorem Query.text_eq_iff_plan_eq_hostile :
    Query.filter Hostile.subject "read" "Doc`ument" Hostile.policy = .ok Hostile.listing ∧
      Query.count Hostile.subject "read" "Doc`ument" Hostile.policy = .ok Hostile.counting ∧
      Hostile.listing.text ≠ Hostile.counting.text ∧
      Plan.ofText? Hostile.listing.text = some Hostile.listing.plan := by
  have hlisting : Query.filter Hostile.subject "read" "Doc`ument" Hostile.policy =
      .ok Hostile.listing := by decide +kernel
  have hcounting : Query.count Hostile.subject "read" "Doc`ument" Hostile.policy =
      .ok Hostile.counting := by decide +kernel
  have hplans : Hostile.listing.plan ≠ Hostile.counting.plan := by decide
  obtain ⟨htext, hread⟩ := text_eq_iff_plan_eq (.filter hlisting) (.count hcounting)
  exact ⟨hlisting, hcounting, fun h => hplans (htext.1 h), hread⟩

end Rebac
