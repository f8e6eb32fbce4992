/-!
# Ordered named values

A list of named values in which the first occurrence of a name counts. Writing replaces the value
where the name stands, or appends a new name at the end; so names keep the order in which they
were first written.
-/

namespace Rebac

/-- Named values in order. -/
abbrev Assoc (α : Type) := List (String × α)

namespace Assoc

variable {α : Type}

/-- The value at the first occurrence of `name`. -/
def get? (name : String) : Assoc α → Option α
  | [] => none
  | (n, v) :: rest => if n = name then some v else get? name rest

/-- Writes `value` where `name` first stands, or at the end if it is new. -/
def set (name : String) (value : α) : Assoc α → Assoc α
  | [] => [(name, value)]
  | (n, v) :: rest => if n = name then (n, value) :: rest else (n, v) :: set name value rest

/-- The list without the entries called `name`. -/
def erase (name : String) (m : Assoc α) : Assoc α :=
  m.filter fun entry => entry.1 ≠ name

/-- The names in order. -/
def names (m : Assoc α) : List String := m.map (·.1)

@[simp] theorem get?_set_self (name : String) (value : α) (m : Assoc α) :
    get? name (set name value m) = some value := by
  induction m with
  | nil => simp [set, get?]
  | cons entry rest ih => by_cases h : entry.1 = name <;> simp [set, get?, h, ih]

theorem get?_set_of_ne {name other : String} (h : other ≠ name) (value : α) (m : Assoc α) :
    get? other (set name value m) = get? other m := by
  induction m with
  | nil => simp [set, get?, h.symm]
  | cons entry rest ih =>
    by_cases he : entry.1 = name
    · simp [set, get?, he, h.symm]
    · simp [set, get?, he, ih]

theorem get?_erase_self (name : String) (m : Assoc α) : get? name (erase name m) = none := by
  induction m with
  | nil => rfl
  | cons entry rest ih => by_cases h : entry.1 = name <;> simp_all [erase, get?]

/-- Writing keeps the names and their order, and appends the name if it is new. -/
theorem names_set (name : String) (value : α) (m : Assoc α) :
    names (set name value m) = if name ∈ names m then names m else names m ++ [name] := by
  induction m with
  | nil => simp [set, names]
  | cons entry rest ih =>
    by_cases he : entry.1 = name
    · simp [set, names, he]
    · simp only [names] at ih
      by_cases hm : name ∈ rest.map (·.1) <;> simp_all [set, names, Ne.symm he]

end Assoc

end Rebac
