import Mathlib.Data.List.Induction
import Mathlib.Data.List.Nodup
import Rebac.Answer
/-!
# Columns written one after the other

Writing to a name that is there replaces its value in place. So what a sequence of writes leaves has
each name once, where it was first written (`Assoc.names_ofWrites`), and with the value that was
written last (`Assoc.mem_ofWrites`); and it is the sequence itself just when no name was written
twice (`Assoc.ofWrites_eq_self_iff`). In other lists a name may stand more than once, and a write
replaces the first of its values and no other (`Assoc.set_append_cons`). Rows are such lists
(`Row.last_write_wins`).
-/

namespace Rebac

theorem eraseDups_concat {α : Type} [BEq α] [LawfulBEq α] [DecidableEq α] (xs : List α) (x : α) :
    (xs ++ [x]).eraseDups = if x ∈ xs then xs.eraseDups else xs.eraseDups ++ [x] := by
  rw [List.eraseDups_append]
  by_cases hx : x ∈ xs <;> simp [List.removeAll, hx, List.eraseDups_cons]

theorem nodup_eraseDups {α : Type} [BEq α] [LawfulBEq α] [DecidableEq α] (xs : List α) :
    xs.eraseDups.Nodup := by
  induction xs using List.reverseRecOn with
  | nil => exact List.nodup_nil
  | append_singleton xs x ih =>
    rw [eraseDups_concat]
    split
    · exact ih
    · next hx =>
      have hnew : x ∉ xs.eraseDups := fun hmem => hx (List.mem_eraseDups.1 hmem)
      exact List.nodup_append.2 ⟨ih, List.nodup_singleton x, by
        intro a ha b hb hab
        obtain rfl := List.mem_singleton.1 hb
        exact hnew (hab ▸ ha)⟩

theorem length_eraseDups_le {α : Type} [BEq α] [LawfulBEq α] [DecidableEq α] (xs : List α) :
    xs.eraseDups.length ≤ xs.length := by
  induction xs using List.reverseRecOn with
  | nil => exact Nat.le_refl _
  | append_singleton xs x ih =>
    rw [eraseDups_concat, List.length_append]
    split
    · omega
    · rw [List.length_append]
      omega

theorem length_eraseDups_eq_iff {α : Type} [BEq α] [LawfulBEq α] [DecidableEq α] {xs : List α} :
    xs.eraseDups.length = xs.length ↔ xs.Nodup := by
  induction xs using List.reverseRecOn with
  | nil => simp
  | append_singleton xs x ih =>
    have hnodup : (xs ++ [x]).Nodup ↔ x ∉ xs ∧ xs.Nodup := by
      rw [← List.concat_eq_append, List.nodup_concat]
    rw [eraseDups_concat, List.length_append, List.length_singleton, hnodup]
    by_cases hx : x ∈ xs
    · have hle := length_eraseDups_le xs
      rw [if_pos hx]
      constructor
      · intro hlength
        omega
      · intro h
        exact absurd hx h.1
    · rw [if_neg hx, List.length_append, List.length_singleton, Nat.add_right_cancel_iff, ih]
      exact (and_iff_right hx).symm

namespace Assoc

variable {α : Type}

/-- What writes leave that are made one after the other, beginning with nothing. -/
def ofWrites (writes : List (String × α)) : Assoc α :=
  writes.foldl (fun m write => set write.1 write.2 m) []

theorem ofWrites_concat (writes : List (String × α)) (write : String × α) :
    ofWrites (writes ++ [write]) = set write.1 write.2 (ofWrites writes) := by
  simp [ofWrites]

/-- A new name comes last. -/
theorem set_of_not_mem {name : String} {m : Assoc α} (h : name ∉ names m) (value : α) :
    set name value m = m ++ [(name, value)] := by
  induction m with
  | nil => rfl
  | cons entry rest ih =>
    have hne : entry.1 ≠ name := fun heq => h (by simp [names, heq])
    have hrest : name ∉ names rest := fun hmem => h (List.mem_cons_of_mem _ hmem)
    simp only [set, hne, if_false, ih hrest, List.cons_append]

theorem not_mem_names_iff {name : String} {m : Assoc α} :
    name ∉ names m ↔ ∀ entry ∈ m, entry.1 ≠ name := by
  simp only [names, List.mem_map, not_exists, not_and, ne_eq]

theorem get?_eq_find? (name : String) (m : Assoc α) :
    get? name m = (m.find? fun entry => entry.1 = name).map (·.2) := by
  induction m with
  | nil => rfl
  | cons entry rest ih => by_cases h : entry.1 = name <;> simp [get?, h, ih]

/-- The value of a name stands where the name stands first. -/
theorem get?_eq_some_iff {name : String} {value : α} {m : Assoc α} :
    get? name m = some value ↔
      ∃ before after, m = before ++ (name, value) :: after ∧ name ∉ names before := by
  rw [get?_eq_find?, Option.map_eq_some_iff]
  simp only [List.find?_eq_some_iff_append, decide_eq_true_eq, Bool.not_eq_true',
    decide_eq_false_iff_not, not_mem_names_iff]
  constructor
  · intro hfound
    obtain ⟨entry, ⟨rfl, before, after, hm, hbefore⟩, rfl⟩ := hfound
    exact ⟨before, after, hm, hbefore⟩
  · intro hfirst
    obtain ⟨before, after, hm, hbefore⟩ := hfirst
    exact ⟨(name, value), ⟨rfl, before, after, hm, hbefore⟩, rfl⟩

theorem get?_eq_none_iff {name : String} {m : Assoc α} : get? name m = none ↔ name ∉ names m := by
  rw [get?_eq_find?, Option.map_eq_none_iff, List.find?_eq_none, not_mem_names_iff]
  simp only [decide_eq_true_eq, ne_eq]

/-- A write replaces the value where its name stands first and nothing else. -/
theorem set_append_cons {name : String} {before : Assoc α} (h : name ∉ names before)
    (old value : α) (after : Assoc α) :
    set name value (before ++ (name, old) :: after) = before ++ (name, value) :: after := by
  induction before with
  | nil => simp [set]
  | cons entry rest ih =>
    obtain ⟨hne, hrest⟩ := not_or.1 (mt List.mem_cons.2 h)
    rw [List.cons_append, set, if_neg (Ne.symm hne), ih hrest, List.cons_append]

/-- If names are not repeated, a write changes the entry of its name and no other. -/
theorem mem_set {m : Assoc α} (h : (names m).Nodup) (name : String) (value : α)
    (entry : String × α) :
    entry ∈ set name value m ↔ entry = (name, value) ∨ (entry ∈ m ∧ entry.1 ≠ name) := by
  induction m with
  | nil => simp [set]
  | cons first rest ih =>
    obtain ⟨hfirst, hrest⟩ := List.nodup_cons.1 h
    by_cases heq : first.1 = name
    · -- the value is replaced here, and no later entry has this name
      have hother : ∀ e ∈ rest, e.1 ≠ name := by
        intro e he hname
        exact hfirst (List.mem_map.2 ⟨e, he, hname.trans heq.symm⟩)
      simp only [set, heq, if_true, List.mem_cons]
      constructor
      · intro hmem
        rcases hmem with rfl | he
        · exact Or.inl rfl
        · exact Or.inr ⟨Or.inr he, hother entry he⟩
      · intro hmem
        rcases hmem with rfl | ⟨rfl | he, hne⟩
        · exact Or.inl rfl
        · exact absurd heq hne
        · exact Or.inr he
    · simp only [set, heq, if_false, List.mem_cons, ih hrest]
      constructor
      · intro hmem
        rcases hmem with rfl | rfl | ⟨he, hne⟩
        · exact Or.inr ⟨Or.inl rfl, heq⟩
        · exact Or.inl rfl
        · exact Or.inr ⟨Or.inr he, hne⟩
      · intro hmem
        rcases hmem with rfl | ⟨rfl | he, hne⟩
        · exact Or.inr (Or.inl rfl)
        · exact Or.inl rfl
        · exact Or.inr (Or.inr ⟨he, hne⟩)

/-- Each name stands once, in the order of the first writes. -/
theorem names_ofWrites (writes : List (String × α)) :
    names (ofWrites writes) = (names writes).eraseDups := by
  induction writes using List.reverseRecOn with
  | nil => rfl
  | append_singleton writes write ih =>
    have hnames : names (writes ++ [write]) = names writes ++ [write.1] := by simp [names]
    rw [ofWrites_concat, names_set, ih, hnames, eraseDups_concat]
    simp only [List.mem_eraseDups]

/-- The entries are those writes that no write to the same name follows. -/
theorem mem_ofWrites {writes : List (String × α)} {entry : String × α} :
    entry ∈ ofWrites writes ↔
      ∃ before after, writes = before ++ entry :: after ∧ entry.1 ∉ names after := by
  induction writes using List.reverseRecOn with
  | nil => simp [ofWrites]
  | append_singleton writes write ih =>
    have hnodup : (names (ofWrites writes)).Nodup := by
      rw [names_ofWrites]
      exact nodup_eraseDups _
    rw [ofWrites_concat, mem_set hnodup, ih]
    constructor
    · -- the last write, or an earlier one that it does not overwrite
      intro hmem
      rcases hmem with rfl | ⟨⟨before, after, rfl, hafter⟩, hne⟩
      · exact ⟨writes, [], rfl, by simp [names]⟩
      · refine ⟨before, after ++ [write], by simp, ?_⟩
        simp only [names, List.map_append, List.map_cons, List.map_nil, List.mem_append,
          List.mem_singleton, not_or]
        exact ⟨hafter, hne⟩
    · intro hlast
      obtain ⟨before, after, heq, hafter⟩ := hlast
      -- either the entry is the last write, or the last write is among those after it
      rcases List.eq_nil_or_concat after with rfl | ⟨init, last, rfl⟩
      · obtain ⟨-, hend⟩ := List.append_inj' heq rfl
        exact Or.inl (List.cons.inj hend).1.symm
      · rw [List.concat_eq_append, ← List.cons_append, ← List.append_assoc] at heq
        obtain ⟨hinit, hend⟩ := List.append_inj' heq rfl
        obtain rfl := (List.cons.inj hend).1
        simp only [names, List.concat_eq_append, List.map_append, List.map_cons, List.map_nil,
          List.mem_append, List.mem_singleton, not_or] at hafter
        exact Or.inr ⟨⟨before, init, hinit, hafter.1⟩, hafter.2⟩

/-- Nothing is overwritten just when no name is written twice. -/
theorem ofWrites_eq_self_iff {writes : List (String × α)} :
    ofWrites writes = writes ↔ (names writes).Nodup := by
  constructor
  · intro h
    rw [← h, names_ofWrites]
    exact nodup_eraseDups _
  · intro h
    induction writes using List.reverseRecOn with
    | nil => rfl
    | append_singleton writes write ih =>
      have hnames : names (writes ++ [write]) = names writes ++ [write.1] := by simp [names]
      rw [hnames, ← List.concat_eq_append, List.nodup_concat] at h
      rw [ofWrites_concat, ih h.2, set_of_not_mem h.1]

/-- Writing values that are made of others. -/
theorem set_map {β : Type} (f : α → β) (name : String) (value : α) (m : Assoc α) :
    set name (f value) (m.map fun e => (e.1, f e.2)) =
      (set name value m).map fun e => (e.1, f e.2) := by
  induction m with
  | nil => rfl
  | cons entry rest ih => by_cases h : entry.1 = name <;> simp [set, h, ih]

theorem ofWrites_map {β : Type} (f : α → β) (writes : List (String × α)) :
    ofWrites (writes.map fun e => (e.1, f e.2)) = (ofWrites writes).map fun e => (e.1, f e.2) := by
  induction writes using List.reverseRecOn with
  | nil => rfl
  | append_singleton writes write ih =>
    rw [List.map_append, List.map_singleton, ofWrites_concat, ih, ofWrites_concat]
    exact set_map f write.1 write.2 (ofWrites writes)

end Assoc

namespace Row

open Assoc

/-- A row holds what the writes to its columns leave. -/
theorem columns_ofList (columns : List (String × Json.Value)) :
    (ofList columns).columns = Assoc.ofWrites columns := by
  induction columns using List.reverseRecOn with
  | nil => rfl
  | append_singleton columns column ih =>
    have hstep : ofList (columns ++ [column]) = (ofList columns).insert column.1 column.2 := by
      simp [ofList]
    rw [hstep, Assoc.ofWrites_concat, ← ih]
    rfl

/-- A row that was filled by setting columns has each of them once, in the order in which they were
first set, and with the value that was set last. In any row, also one that repeats columns, setting
one gives it its value and leaves the others as they are. A new column comes last; the value of
another is replaced where it first stands, and nothing before or after it is touched. -/
theorem last_write_wins (writes : List (String × Json.Value)) (row : Row) (column : String)
    (value : Json.Value) :
    ((names (ofList writes).columns).Nodup ∧
      names (ofList writes).columns = (names writes).eraseDups ∧
      ∀ entry, entry ∈ (ofList writes).columns ↔
        ∃ before after, writes = before ++ entry :: after ∧ entry.1 ∉ names after) ∧
    (row.insert column value).get? column = some value ∧
    (∀ other, other ≠ column → (row.insert column value).get? other = row.get? other) ∧
    names (row.insert column value).columns =
      (if column ∈ names row.columns then names row.columns else names row.columns ++ [column]) ∧
    (column ∉ names row.columns →
      (row.insert column value).columns = row.columns ++ [(column, value)]) ∧
    ∀ before old after, row.columns = before ++ (column, old) :: after → column ∉ names before →
      (row.insert column value).columns = before ++ (column, value) :: after := by
  refine ⟨?_, get?_set_self column value row.columns, ?_, names_set column value row.columns, ?_, ?_⟩
  · have hnames : names (ofList writes).columns = (names writes).eraseDups := by
      rw [columns_ofList, names_ofWrites]
    refine ⟨?_, hnames, ?_⟩
    · rw [hnames]
      exact nodup_eraseDups _
    · intro entry
      rw [columns_ofList]
      exact mem_ofWrites
  · intro other hne
    exact get?_set_of_ne hne value row.columns
  · intro hnew
    exact set_of_not_mem hnew value
  · intro before old after hcolumns hbefore
    rw [insert, hcolumns]
    exact set_append_cons hbefore old value after

/-- A row that repeats a column, and columns that are set twice. -/
theorem last_write_wins_repeated :
    let writes : List (String × Json.Value) :=
      [("owner", .bool true), ("viewer", .bool false), ("owner", .bool false)]
    let row : Row := ⟨[("total", .null), ("o.id", .string "a"), ("total", .ofNat 2),
      ("o.id", .string "b")]⟩
    (ofList writes).columns = [("owner", .bool false), ("viewer", .bool false)] ∧
      (row.insert "o.id" (.string "c")).columns =
        [("total", .null), ("o.id", .string "c"), ("total", .ofNat 2), ("o.id", .string "b")] ∧
      (row.insert "o.id" (.string "c")).get? "total" = some .null ∧
      (row.insert "owner" .null).columns = row.columns ++ [("owner", .null)] := by
  intro writes row
  obtain ⟨-, -, hother, -, -, hplace⟩ := last_write_wins writes row "o.id" (.string "c")
  obtain ⟨-, -, -, -, hnew, -⟩ := last_write_wins writes row "owner" .null
  refine ⟨by decide, ?_, ?_, hnew (by decide)⟩
  · exact hplace [("total", .null)] (.string "a") [("total", .ofNat 2), ("o.id", .string "b")] rfl
      (by decide)
  · rw [hother "total" (by decide)]
    rfl

end Row

end Rebac
