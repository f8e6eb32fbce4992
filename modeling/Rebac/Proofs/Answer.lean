import Mathlib.Data.List.Forall2
import Rebac.Proofs.Row
import Rebac.Proofs.Sequence
/-!
# What is read from rows

Rows may come from anywhere and hold anything. A listing takes from each row the first of its
identifier columns (`Answer.identifiers_eq_ok_iff`), a point check all columns of the first row
(`Answer.access_eq_ok_iff`), and a count one column of the first row (`Answer.count_eq_ok_iff`). A
value of another kind than is expected is never made to fit: it is an error, and of several errors
the first is given.
-/

namespace Rebac

/-! ### Counts as values -/

theorem word?_ofNat {n : Nat} (h : n < UInt64.size) :
    (Json.Value.ofNat n).word? = some n.toUInt64 := by
  simp only [Json.Value.ofNat, Json.Value.word?, Json.Number.word?]
  split
  · rw [Int.toNat_natCast]
  · next hlarge => omega

theorem word?_ofNat_toNat (total : UInt64) : (Json.Value.ofNat total.toNat).word? = some total := by
  rw [word?_ofNat total.toNat_lt_size]
  simp

/-- A value is a count just if it is an integer that is a word. -/
theorem Json.Value.word?_eq_some_iff {value : Json.Value} {total : UInt64} :
    value.word? = some total ↔ value = .ofNat total.toNat := by
  constructor
  · intro h
    cases value with
    | number n =>
      cases n with
      | integer n =>
        simp only [word?, Number.word?] at h
        split at h
        · next hword =>
          have hback : n.toNat.toUInt64.toNat = n.toNat := UInt64.toNat_ofNat_of_lt' (by omega)
          have hnat : (n.toNat : Int) = n := Int.toNat_of_nonneg hword.1
          rw [← Option.some.inj h, hback, ofNat, hnat]
        · cases h
      | real x => cases h
    | null | bool | string | array | object => cases h
  · rintro rfl
    exact word?_ofNat_toNat total

theorem Json.Value.word?_eq_none_iff {value : Json.Value} :
    value.word? = none ↔ ∀ total : UInt64, value ≠ .ofNat total.toNat := by
  rw [Option.eq_none_iff_forall_ne_some]
  exact forall_congr' fun total => not_congr word?_eq_some_iff

/-- What a row shows under a name: the value of its first column of that name. -/
def Row.Shows (row : Row) (column : String) (value : Json.Value) : Prop :=
  ∃ before after, row.columns = before ++ (column, value) :: after ∧
    column ∉ Assoc.names before

theorem Row.get?_eq_some_iff {row : Row} {column : String} {value : Json.Value} :
    row.get? column = some value ↔ row.Shows column value :=
  Assoc.get?_eq_some_iff

namespace Answer

variable {rows : List Row} {row : Row} {e : AccessError}

/-! ### Identifiers -/

/-- Why there is no identifier in a row of a listing. -/
inductive IdentifierFails (row : Row) : AccessError → Prop where
  | absent (h : Query.idColumn ∉ Assoc.names row.columns) :
    IdentifierFails row (.missingIdentifier Query.idColumn)
  | null (h : row.Shows Query.idColumn .null) :
    IdentifierFails row (.missingIdentifier Query.idColumn)
  /-- Nothing but a string is taken for one. -/
  | mistyped {found : Json.Value} (h : row.Shows Query.idColumn found) (hnull : found ≠ .null)
    (hstring : ∀ id, found ≠ .string id) :
    IdentifierFails row (.columnMismatch Query.idColumn found .string)

theorem identifier_eq_ok_iff {id : String} :
    identifier row = .ok id ↔ row.Shows Query.idColumn (.string id) := by
  rw [← Row.get?_eq_some_iff, identifier]
  cases row.get? Query.idColumn with
  | none => simp
  | some found => cases found <;> simp

theorem identifier_eq_error_iff : identifier row = .error e ↔ IdentifierFails row e := by
  constructor
  · intro h
    unfold identifier at h
    split at h
    · next hget =>
      obtain rfl := Except.error.inj h
      exact .absent (Assoc.get?_eq_none_iff.1 hget)
    · next hget =>
      obtain rfl := Except.error.inj h
      exact .null (Row.get?_eq_some_iff.1 hget)
    · cases h
    · next found hnull hstring hget =>
      obtain rfl := Except.error.inj h
      exact .mistyped (Row.get?_eq_some_iff.1 hget) hnull hstring
  · intro h
    unfold identifier
    cases h with
    | absent h => rw [Row.get?, Assoc.get?_eq_none_iff.2 h]
    | null h => rw [Row.get?_eq_some_iff.2 h]
    | mistyped h hnull hstring =>
      rw [Row.get?_eq_some_iff.2 h]
      split
      · next heq => cases heq
      · next heq => exact absurd (Option.some.inj heq) hnull
      · next id heq => exact absurd (Option.some.inj heq) (hstring id)
      · next heq => rw [Option.some.inj heq]

/-- A listing is read from all its rows, one identifier from each. -/
theorem identifiers_eq_ok_iff {ids : List String} :
    identifiers rows = .ok ids ↔
      List.Forall₂ (fun row id => row.Shows Query.idColumn (.string id)) rows ids := by
  simp only [identifiers, mapM_eq_ok_iff, identifier_eq_ok_iff]

/-- The first row that gives no identifier decides the error. -/
theorem identifiers_eq_error_iff :
    identifiers rows = .error e ↔ ∃ before row after, rows = before ++ row :: after ∧
      (∀ earlier ∈ before, ∃ id, earlier.Shows Query.idColumn (.string id)) ∧
      IdentifierFails row e := by
  simp only [identifiers, mapM_eq_error_iff, identifier_eq_ok_iff, identifier_eq_error_iff]

/-! ### Clause results -/

/-- Why a point check has no results. -/
inductive AccessFails : List Row → AccessError → Prop where
  | empty : AccessFails [] .noResult
  /-- The first column of the first row that is no truth value. -/
  | mistyped {row : Row} {rest : List Row} {before after : Assoc Json.Value} {column : String}
    {found : Json.Value} (hcolumns : row.columns = before ++ (column, found) :: after)
    (hbefore : ∀ entry ∈ before, ∃ ok, entry.2 = .bool ok) (hfound : ∀ ok, found ≠ .bool ok) :
    AccessFails (row :: rest) (.columnMismatch column found .boolean)

theorem clauseResult_eq_ok_iff {column : String} {value : Json.Value} {result : ClauseResult} :
    clauseResult column value = .ok result ↔ (column, value) = (result.clause, .bool result.ok) := by
  cases value with
  | bool ok =>
    obtain ⟨clause, ok'⟩ := result
    simp [clauseResult]
  | null | number | string | array | object => simp [clauseResult]

theorem clauseResult_eq_error_iff {column : String} {value : Json.Value} :
    clauseResult column value = .error e ↔
      (∀ ok, value ≠ .bool ok) ∧ e = .columnMismatch column value .boolean := by
  cases value <;> simp [clauseResult, eq_comm]

/-- The columns of the first row, each with its value, are the results. -/
theorem access_eq_ok_iff {results : List ClauseResult} :
    access rows = .ok results ↔ ∃ row rest, rows = row :: rest ∧
      row.columns = results.map fun result => (result.clause, .bool result.ok) := by
  cases rows with
  | nil => simp [access]
  | cons row rest =>
    have hresults : access (row :: rest) = .ok results ↔
        row.columns = results.map fun result => (result.clause, .bool result.ok) := by
      rw [access, mapM_eq_ok_iff]
      simp only [clauseResult_eq_ok_iff]
      rw [← List.forall₂_eq_eq_eq, List.forall₂_map_right_iff]
    rw [hresults]
    simp

theorem access_eq_error_iff : access rows = .error e ↔ AccessFails rows e := by
  cases rows with
  | nil =>
    constructor
    · intro h
      obtain rfl := Except.error.inj h
      exact .empty
    · intro h
      cases h
      rfl
  | cons row rest =>
    rw [access, mapM_eq_error_iff]
    simp only [clauseResult_eq_ok_iff, clauseResult_eq_error_iff]
    constructor
    · intro hfirst
      obtain ⟨before, entry, after, hcolumns, hbefore, hfound, rfl⟩ := hfirst
      refine .mistyped hcolumns ?_ hfound
      intro earlier hearlier
      obtain ⟨result, hresult⟩ := hbefore earlier hearlier
      exact ⟨result.ok, (Prod.mk.inj hresult).2⟩
    · intro h
      cases h with
      | mistyped hcolumns hbefore hfound =>
        refine ⟨_, _, _, hcolumns, ?_, hfound, rfl⟩
        intro earlier hearlier
        obtain ⟨ok, hok⟩ := hbefore earlier hearlier
        exact ⟨⟨earlier.1, ok⟩, Prod.ext rfl hok⟩

/-- A point check whose columns are all booleans gives a result for each. -/
theorem access_of_booleans (columns : Assoc Bool) (row : Row) (rest : List Row)
    (hrow : row.columns = columns.map fun e => (e.1, .bool e.2)) :
    access (row :: rest) = .ok (columns.map fun e => ⟨e.1, e.2⟩) := by
  refine access_eq_ok_iff.2 ⟨row, rest, rfl, ?_⟩
  rw [hrow, List.map_map]
  rfl

/-! ### Counts -/

/-- Why there is no count. -/
inductive CountFails : List Row → AccessError → Prop where
  | empty : CountFails [] .noResult
  | absent {row : Row} {rest : List Row} (h : Query.totalColumn ∉ Assoc.names row.columns) :
    CountFails (row :: rest) (.missingColumn Query.totalColumn)
  /-- Nothing but an integer that is a word is taken for one. -/
  | mistyped {row : Row} {rest : List Row} {found : Json.Value}
    (h : row.Shows Query.totalColumn found)
    (hfound : ∀ n : UInt64, found ≠ .number (.integer n.toNat)) :
    CountFails (row :: rest) (.columnMismatch Query.totalColumn found .count)

theorem count_of_word? {rest : List Row} {value : Json.Value} {total : UInt64}
    (hget : row.get? Query.totalColumn = some value) (hword : value.word? = some total) :
    count (row :: rest) = .ok total := by
  simp only [count, hget, hword]

theorem count_of_word?_eq_none {rest : List Row} {value : Json.Value}
    (hget : row.get? Query.totalColumn = some value) (hword : value.word? = none) :
    count (row :: rest) = .error (.columnMismatch Query.totalColumn value .count) := by
  simp only [count, hget, hword]

/-- The first total of the first row is the count, if it is an integer that is a word. -/
theorem count_eq_ok_iff {n : UInt64} :
    count rows = .ok n ↔ ∃ row rest, rows = row :: rest ∧
      row.Shows Query.totalColumn (.number (.integer n.toNat)) := by
  cases rows with
  | nil => simp [count]
  | cons row rest =>
    have hcount : count (row :: rest) = .ok n ↔
        row.get? Query.totalColumn = some (.ofNat n.toNat) := by
      cases hget : row.get? Query.totalColumn with
      | none => simp [count, hget]
      | some value =>
        rw [Option.some.injEq, ← Json.Value.word?_eq_some_iff]
        cases hword : value.word? with
        | none => simp [count_of_word?_eq_none hget hword]
        | some total => simp [count_of_word? hget hword]
    rw [hcount, Row.get?_eq_some_iff]
    simp [Json.Value.ofNat]

theorem count_eq_error_iff : count rows = .error e ↔ CountFails rows e := by
  constructor
  · intro h
    unfold count at h
    split at h
    · obtain rfl := Except.error.inj h
      exact .empty
    · split at h
      · next hget =>
        obtain rfl := Except.error.inj h
        exact .absent (Assoc.get?_eq_none_iff.1 hget)
      · next hget =>
        split at h
        · cases h
        · next hword =>
          obtain rfl := Except.error.inj h
          exact .mistyped (Row.get?_eq_some_iff.1 hget) (Json.Value.word?_eq_none_iff.1 hword)
  · intro h
    cases h with
    | empty => rfl
    | absent h => simp only [count, Row.get?, Assoc.get?_eq_none_iff.2 h]
    | mistyped h hfound =>
      exact count_of_word?_eq_none (Row.get?_eq_some_iff.2 h)
        (Json.Value.word?_eq_none_iff.2 hfound)

/-! ### All three -/

/-- Rows are read without coercion, loss or reordering. A listing is read from all rows, and what
it gives is the first identifier column of each in order; the first row where that is no string
decides the error. A point check and a count look at the first row alone. The results of a point
check are all its columns in order, if they are truth values, and otherwise the first that is none
is the error; only without a row there is no result. A count is the first total, if it is an integer
that is an unsigned word; integers below zero, doubles and strings are none, whatever they denote. -/
theorem read_exactly (rows : List Row) :
    (∀ ids, identifiers rows = .ok ids ↔
      List.Forall₂ (fun row id => row.Shows Query.idColumn (.string id)) rows ids) ∧
    ((∃ ids, identifiers rows = .ok ids) ↔
      ∀ row ∈ rows, ∃ id, row.Shows Query.idColumn (.string id)) ∧
    (∀ e, identifiers rows = .error e ↔ ∃ before row after, rows = before ++ row :: after ∧
      (∀ earlier ∈ before, ∃ id, earlier.Shows Query.idColumn (.string id)) ∧
      IdentifierFails row e) ∧
    (access rows = .error .noResult ↔ rows = []) ∧
    (∀ results, access rows = .ok results ↔ ∃ row rest, rows = row :: rest ∧
      row.columns = results.map fun result => (result.clause, .bool result.ok)) ∧
    (∀ e, access rows = .error e ↔ AccessFails rows e) ∧
    (∀ n : UInt64, count rows = .ok n ↔ ∃ row rest, rows = row :: rest ∧
      row.Shows Query.totalColumn (.number (.integer n.toNat))) ∧
    (∀ e, count rows = .error e ↔ CountFails rows e) ∧
    ∀ row rest, rows = row :: rest →
      access rows = access [row] ∧ count rows = count [row] ∧
      ∀ found, row.Shows Query.totalColumn found →
        ((∃ n < 0, found = .number (.integer n)) ∨ (∃ x, found = .number (.real x)) ∨
          ∃ s, found = .string s) →
        count rows = .error (.columnMismatch Query.totalColumn found .count) := by
  refine ⟨fun ids => identifiers_eq_ok_iff, ?_, fun e => identifiers_eq_error_iff, ?_,
    fun results => access_eq_ok_iff, fun e => access_eq_error_iff, fun n => count_eq_ok_iff,
    fun e => count_eq_error_iff, ?_⟩
  · simp only [identifiers, exists_mapM_eq_ok_iff, identifier_eq_ok_iff]
  · rw [access_eq_error_iff]
    constructor
    · intro h
      cases h
      rfl
    · rintro rfl
      exact .empty
  · rintro row rest rfl
    refine ⟨rfl, rfl, ?_⟩
    intro found hshows hkind
    refine count_eq_error_iff.2 (.mistyped hshows ?_)
    rintro n rfl
    rcases hkind with ⟨m, hm, heq⟩ | ⟨x, heq⟩ | ⟨s, heq⟩
    · obtain rfl := Json.Number.integer.inj (Json.Value.number.inj heq)
      omega
    · cases heq
    · cases heq

/-- Two rows that repeat columns. In the first the identifier is a string and the total a double, in
the second the identifier is a number and the total an integer. -/
theorem read_exactly_repeated :
    let first : Row := ⟨[("total", .number (.real 25.0)), ("o.id", .string "a"), ("o.id", .null)]⟩
    let second : Row := ⟨[("total", .ofNat 25), ("o.id", .ofNat 5), ("o.id", .string "b")]⟩
    identifiers [first, second] = .error (.columnMismatch "o.id" (.ofNat 5) .string) ∧
      access [second, first] = .error (.columnMismatch "total" (.ofNat 25) .boolean) ∧
      first.Shows "total" (.number (.real 25.0)) ∧
      count [first, second] = .error (.columnMismatch "total" (.number (.real 25.0)) .count) ∧
      count [second, first] = .ok 25 := by
  intro first second
  obtain ⟨-, -, hidentifiers, -, -, -, -, -, hfirst⟩ := read_exactly [first, second]
  obtain ⟨-, -, -, -, -, haccess, hcount, -, -⟩ := read_exactly [second, first]
  have htotal : first.Shows "total" (.number (.real 25.0)) :=
    ⟨[], [("o.id", .string "a"), ("o.id", .null)], rfl, by decide⟩
  refine ⟨?_, ?_, htotal, ?_, ?_⟩
  · have hstring : first.Shows "o.id" (.string "a") :=
      ⟨[("total", .number (.real 25.0))], [("o.id", .null)], rfl, by decide⟩
    have hnumber : second.Shows "o.id" (.ofNat 5) :=
      ⟨[("total", .ofNat 25)], [("o.id", .string "b")], rfl, by decide⟩
    refine (hidentifiers _).2 ⟨[first], second, [], rfl, ?_, .mistyped hnumber ?_ ?_⟩
    · exact List.forall_mem_singleton.2 ⟨"a", hstring⟩
    · exact nofun
    · exact nofun
  · exact (haccess _).2 (.mistyped rfl (List.forall_mem_nil _) nofun)
  · obtain ⟨-, -, hmistyped⟩ := hfirst first [second] rfl
    exact hmistyped _ htotal (Or.inr (Or.inl ⟨25.0, rfl⟩))
  · exact (hcount 25).2 ⟨second, [first], rfl, [], _, rfl, by decide⟩

end Answer

end Rebac
