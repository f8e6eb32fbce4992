import Rebac.Json.Shape
import Rebac.Proofs.Sequence
/-!
# Records written as objects

How a shape reads an object depends on the values that stand under each of its names (`valuesOf`),
and not on where they stand or what stands between them. With one value for each required field and
at most one for each of the others, the object is read as what these values make
(`Shape.decode_of_fills`). No object is read in which a field is repeated or a required one is left
off, or one of whose lists holds such a record (`Shape.not_flawedRecord`).
-/

namespace Rebac.Json

/-- The values of the members called `name`, in their order. -/
def valuesOf (name : String) (members : List (Option String × Tree)) : List Tree :=
  (members.filter fun m => m.1 = some name).map (·.2)

@[simp]
theorem valuesOf_nil (name : String) : valuesOf name [] = [] := rfl

@[simp]
theorem valuesOf_cons_self (name : String) (t : Tree) (members : List (Option String × Tree)) :
    valuesOf name ((some name, t) :: members) = t :: valuesOf name members := by
  simp [valuesOf]

theorem valuesOf_cons_of_ne {name : String} {key : Option String} (h : key ≠ some name) (t : Tree)
    (members : List (Option String × Tree)) :
    valuesOf name ((key, t) :: members) = valuesOf name members := by
  simp [valuesOf, h]

theorem valuesOf_sublist_cons (name : String) (m : Option String × Tree)
    (members : List (Option String × Tree)) :
    (valuesOf name members).Sublist (valuesOf name (m :: members)) :=
  ((List.sublist_cons_self m members).filter _).map _

theorem wellFormed_of_mem_valuesOf {name : String} {members : List (Option String × Tree)}
    (h : ∀ m ∈ members, m.2.wellFormed = true) :
    ∀ t ∈ valuesOf name members, t.wellFormed = true := by
  intro t ht
  obtain ⟨m, hm, rfl⟩ := List.mem_map.1 ht
  exact h m (List.mem_of_mem_filter hm)

/-- The object of a record is flawed: a field is repeated or a required one is left off, or one of
its lists holds a record that is flawed itself. The fields are the names in `required` and those of
the lists, each with what makes its records flawed. -/
inductive FlawedRecord (required : List String) (lists : List (String × (Tree → Prop))) :
    Tree → Prop where
  | repeated {name : String} {members : List (Option String × Tree)}
    (hname : name ∈ required ++ lists.map (·.1)) (h : 2 ≤ (valuesOf name members).length) :
    FlawedRecord required lists (.object members)
  | leftOff {name : String} {members : List (Option String × Tree)} (hname : name ∈ required)
    (h : valuesOf name members = []) : FlawedRecord required lists (.object members)
  | inside {name : String} {flawed : Tree → Prop} {members : List (Option String × Tree)}
    {ts : List Tree} {t : Tree} (hlist : (name, flawed) ∈ lists)
    (hts : .array ts ∈ valuesOf name members) (ht : t ∈ ts) (h : flawed t) :
    FlawedRecord required lists (.object members)

namespace Decoder

variable {α : Type} {item : Decoder α}

theorem listOf_array_eq_ok_iff {ts : List Tree} {xs : List α} :
    listOf item (.array ts) = .ok xs ↔ List.Forall₂ (fun t x => item t = .ok x) ts xs :=
  mapM_eq_ok_iff

/-- A list is not read without each of its items. -/
theorem exists_of_listOf_array {ts : List Tree} {xs : List α}
    (h : listOf item (.array ts) = .ok xs) : ∀ t ∈ ts, ∃ x, item t = .ok x := by
  obtain ⟨hlength, hget⟩ := List.forall₂_iff_get.1 (listOf_array_eq_ok_iff.1 h)
  intro t ht
  obtain ⟨i, rfl⟩ := List.get_of_mem ht
  exact ⟨_, hget i i.isLt (hlength ▸ i.isLt)⟩

end Decoder

namespace Shape

variable {α : Type} {shape : Shape α} {name : String} {f : Field α} {a a' : α}
  {seen seen' : List String} {members : List (Option String × Tree)}

theorem mem_fields_of_field? (h : shape.field? name = some f) :
    f ∈ shape.fields ∧ f.name = name :=
  ⟨List.mem_of_find?_eq_some h, by simpa using List.find?_some h⟩

theorem exists_field? (h : f ∈ shape.fields) : ∃ g, shape.field? f.name = some g := by
  refine Option.isSome_iff_exists.1 (List.find?_isSome.2 ⟨f, h, ?_⟩)
  simp

/-- A member is read if it has a name and is a new field, whose value is then put into the record,
or no field at all. -/
theorem readMembers_cons_eq_ok_iff {key : Option String} {t : Tree} {r : List String × α} :
    shape.readMembers seen a ((key, t) :: members) = .ok r ↔
      ∃ name, key = some name ∧
        ((∃ f b, shape.field? name = some f ∧ name ∉ seen ∧ f.read a t = .ok b ∧
            shape.readMembers (name :: seen) b members = .ok r) ∨
          (shape.field? name = none ∧ t.wellFormed = true ∧
            shape.readMembers seen a members = .ok r)) := by
  cases key with
  | none => simp [readMembers]
  | some name =>
    rw [readMembers]
    cases hf : shape.field? name with
    | none => by_cases ht : t.wellFormed = true <;> simp [hf, ht]
    | some f =>
      by_cases hseen : name ∈ seen
      · simp [hf, hseen]
      · cases hb : f.read a t <;> simp [hf, hseen, hb]

/-- An object is read if its members are and no required field is missing after that. -/
theorem ofMembers_eq_ok_iff :
    shape.ofMembers members = .ok a ↔
      ∃ seen, shape.readMembers [] shape.start members = .ok (seen, a) ∧
        ∀ f ∈ shape.fields, f.required = true → f.name ∈ seen := by
  have hmissing : ∀ seen, shape.missing? seen = none ↔
      ∀ f ∈ shape.fields, f.required = true → f.name ∈ seen := by
    intro seen
    simp [missing?]
  constructor
  · intro h
    obtain ⟨⟨seen, b⟩, hread, hrest⟩ := exists_of_bind_eq_ok h
    cases hnone : shape.missing? seen with
    | some name =>
      simp only [hnone] at hrest
      cases hrest
    | none =>
      simp only [hnone] at hrest
      obtain rfl : b = a := Except.ok.inj hrest
      exact ⟨seen, hread, (hmissing seen).1 hnone⟩
  · intro hread
    obtain ⟨seen, hread, hall⟩ := hread
    simp only [ofMembers, hread, bind, Except.bind, (hmissing seen).2 hall]
    rfl

/-! ### What has been read -/

/-- What is in an object whose members could be read when the fields in `seen` had been read, and
those in `seen'` have been in the end. -/
structure Reads (shape : Shape α) (seen : List String) (members : List (Option String × Tree))
    (seen' : List String) : Prop where
  /-- A field is not repeated. -/
  once : ∀ {name f}, shape.field? name = some f →
    (valuesOf name members).length ≤ 1 ∧ (name ∈ seen → valuesOf name members = [])
  mem_iff : ∀ {name f}, shape.field? name = some f →
    (name ∈ seen' ↔ name ∈ seen ∨ valuesOf name members ≠ [])
  read : ∀ {name f}, shape.field? name = some f → ∀ t ∈ valuesOf name members,
    ∃ b b', f.read b t = .ok b'

theorem Reads.cons_field {t : Tree} (hf : shape.field? name = some f) (hnew : name ∉ seen)
    (ht : f.read a t = .ok a') (h : Reads shape (name :: seen) members seen') :
    Reads shape seen ((some name, t) :: members) seen' := by
  have hlast : valuesOf name members = [] := (h.once hf).2 List.mem_cons_self
  constructor
  · intro other g hg
    by_cases hother : name = other
    · subst hother
      simp [hlast, hnew]
    · rw [valuesOf_cons_of_ne (by simpa using hother)]
      exact ⟨(h.once hg).1, fun hseen => (h.once hg).2 (List.mem_cons_of_mem name hseen)⟩
  · intro other g hg
    rw [h.mem_iff hg]
    by_cases hother : name = other
    · subst hother
      simp
    · rw [valuesOf_cons_of_ne (by simpa using hother), List.mem_cons, or_iff_right (Ne.symm hother)]
  · intro other g hg u hu
    by_cases hother : name = other
    · subst hother
      obtain rfl : f = g := Option.some.inj (hf.symm.trans hg)
      rw [valuesOf_cons_self, hlast, List.mem_singleton] at hu
      exact ⟨a, a', hu ▸ ht⟩
    · rw [valuesOf_cons_of_ne (by simpa using hother)] at hu
      exact h.read hg u hu

theorem Reads.cons_other {t : Tree} (hname : shape.field? name = none)
    (h : Reads shape seen members seen') : Reads shape seen ((some name, t) :: members) seen' := by
  have hother : ∀ {other g}, shape.field? other = some g →
      valuesOf other ((some name, t) :: members) = valuesOf other members := by
    intro other g hg
    apply valuesOf_cons_of_ne
    rintro ⟨⟩
    cases hname.symm.trans hg
  constructor
  · intro other g hg
    rw [hother hg]
    exact h.once hg
  · intro other g hg
    rw [hother hg]
    exact h.mem_iff hg
  · intro other g hg
    rw [hother hg]
    exact h.read hg

theorem reads_of_readMembers (h : shape.readMembers seen a members = .ok (seen', a')) :
    Reads shape seen members seen' := by
  induction members generalizing seen a with
  | nil =>
    obtain ⟨rfl, rfl⟩ : seen = seen' ∧ a = a' := by simpa [readMembers] using h
    constructor <;> simp
  | cons m members ih =>
    obtain ⟨key, t⟩ := m
    obtain ⟨name, rfl, ⟨f, b, hf, hnew, hb, hrest⟩ | ⟨hname, -, hrest⟩⟩ :=
      readMembers_cons_eq_ok_iff.1 h
    · exact .cons_field hf hnew hb (ih hrest)
    · exact .cons_other hname (ih hrest)

/-- The object of a record that is read is not flawed, if the shape requires what has to be there
and reads no list that holds a flawed record. -/
theorem not_flawedRecord {required : List String} {lists : List (String × (Tree → Prop))} {t : Tree}
    (hrequired : ∀ name ∈ required, ∃ f, shape.field? name = some f ∧ f.required = true)
    (hlists : ∀ l ∈ lists, ∃ f, shape.field? l.1 = some f ∧
      ∀ {b b' ts}, f.read b (.array ts) = .ok b' → ∀ t ∈ ts, ¬ l.2 t)
    (h : shape.decode t = .ok a) : ¬ FlawedRecord required lists t := by
  intro hflawed
  cases hflawed with
  | @repeated name members hname hrepeated =>
    obtain ⟨seen, hread, -⟩ := ofMembers_eq_ok_iff.1 h
    have hfield : ∃ f, shape.field? name = some f := by
      rcases List.mem_append.1 hname with hname | hname
      · obtain ⟨f, hf, -⟩ := hrequired name hname
        exact ⟨f, hf⟩
      · obtain ⟨l, hl, rfl⟩ := List.mem_map.1 hname
        obtain ⟨f, hf, -⟩ := hlists l hl
        exact ⟨f, hf⟩
    obtain ⟨f, hf⟩ := hfield
    have honce := ((reads_of_readMembers hread).once hf).1
    omega
  | @leftOff name members hname hleft =>
    obtain ⟨seen, hread, hall⟩ := ofMembers_eq_ok_iff.1 h
    obtain ⟨f, hf, hreq⟩ := hrequired name hname
    obtain ⟨hmem, rfl⟩ := mem_fields_of_field? hf
    have hseen := ((reads_of_readMembers hread).mem_iff hf).1 (hall f hmem hreq)
    simp [hleft] at hseen
  | @inside name flawed members ts t hlist hts ht hinner =>
    obtain ⟨seen, hread, -⟩ := ofMembers_eq_ok_iff.1 h
    obtain ⟨f, hf, hsound⟩ := hlists _ hlist
    obtain ⟨b, b', hb⟩ := (reads_of_readMembers hread).read hf _ hts
    exact hsound hb t ht hinner

/-! ### What can be read -/

/-- The members of an object fill a record: `record seen` is the record with the fields in `seen`,
and the value of each field takes it from there to the record with that field as well. -/
structure Fills (shape : Shape α) (record : List String → α)
    (members : List (Option String × Tree)) : Prop where
  named : ∀ m ∈ members, m.1 ≠ none
  wellFormed : ∀ m ∈ members, m.2.wellFormed = true
  once : ∀ f ∈ shape.fields, (valuesOf f.name members).length ≤ 1
  read : ∀ f ∈ shape.fields, ∀ t ∈ valuesOf f.name members, ∀ seen, f.name ∉ seen →
    f.read (record seen) t = .ok (record (f.name :: seen))

theorem Fills.tail {record : List String → α} {m : Option String × Tree}
    (h : Fills shape record (m :: members)) : Fills shape record members where
  named := fun n hn => h.named n (List.mem_cons_of_mem m hn)
  wellFormed := fun n hn => h.wellFormed n (List.mem_cons_of_mem m hn)
  once := fun f hf =>
    Nat.le_trans (valuesOf_sublist_cons f.name m members).length_le (h.once f hf)
  read := fun f hf t ht => h.read f hf t ((valuesOf_sublist_cons f.name m members).subset ht)

/-- Members that fill a record are read one after another. -/
theorem Fills.exists_readMembers {record : List String → α} (h : Fills shape record members)
    (hseen : ∀ f ∈ shape.fields, f.name ∈ seen → valuesOf f.name members = []) :
    ∃ seen', shape.readMembers seen (record seen) members = .ok (seen', record seen') := by
  induction members generalizing seen with
  | nil => exact ⟨seen, rfl⟩
  | cons m members ih =>
    obtain ⟨key, t⟩ := m
    obtain ⟨name, rfl⟩ := Option.ne_none_iff_exists'.1 (h.named _ List.mem_cons_self)
    have hrest : ∀ f ∈ shape.fields, f.name ∈ seen → valuesOf f.name members = [] :=
      fun f hf hmem => List.eq_nil_of_sublist_nil
        (hseen f hf hmem ▸ valuesOf_sublist_cons f.name (some name, t) members)
    cases hfield : shape.field? name with
    | none =>
      obtain ⟨seen', hread⟩ := ih h.tail hrest
      exact ⟨seen', readMembers_cons_eq_ok_iff.2
        ⟨name, rfl, Or.inr ⟨hfield, h.wellFormed _ List.mem_cons_self, hread⟩⟩⟩
    | some f =>
      obtain ⟨hf, rfl⟩ := mem_fields_of_field? hfield
      -- the field has not been read before, and it does not come again
      have hnew : f.name ∉ seen := fun hmem => by simpa using hseen f hf hmem
      have hlast : valuesOf f.name members = [] := by simpa using h.once f hf
      have hread := h.read f hf t (by simp) seen hnew
      have hseen' : ∀ g ∈ shape.fields, g.name ∈ f.name :: seen → valuesOf g.name members = [] := by
        intro g hg hmem
        rcases List.mem_cons.1 hmem with hname | hmem
        · rw [hname, hlast]
        · exact hrest g hg hmem
      obtain ⟨seen', hmembers⟩ := ih h.tail hseen'
      exact ⟨seen', readMembers_cons_eq_ok_iff.2
        ⟨f.name, rfl, Or.inl ⟨f, _, hfield, hnew, hread, hmembers⟩⟩⟩

/-- An object whose members fill a record and leave off no required field is read as what the fields
that are there make of it. -/
theorem decode_of_fills {record : List String → α} (h : Fills shape record members)
    (hstart : record [] = shape.start)
    (hrequired : ∀ f ∈ shape.fields, f.required = true → valuesOf f.name members ≠ [])
    (hend : ∀ seen, (∀ f ∈ shape.fields, f.name ∈ seen ↔ valuesOf f.name members ≠ []) →
      record seen = a) :
    shape.decode (.object members) = .ok a := by
  obtain ⟨seen, hread⟩ :
      ∃ seen, shape.readMembers [] (record []) members = .ok (seen, record seen) :=
    h.exists_readMembers fun _ _ hmem => absurd hmem List.not_mem_nil
  rw [hstart] at hread
  have hseen : ∀ f ∈ shape.fields, f.name ∈ seen ↔ valuesOf f.name members ≠ [] := by
    intro f hf
    obtain ⟨g, hg⟩ := exists_field? hf
    rw [(reads_of_readMembers hread).mem_iff hg, or_iff_right List.not_mem_nil]
  rw [hend seen hseen] at hread
  exact ofMembers_eq_ok_iff.2
    ⟨seen, hread, fun f hf hreq => (hseen f hf).2 (hrequired f hf hreq)⟩

end Shape

end Rebac.Json
