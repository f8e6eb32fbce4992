import Rebac.Proofs.Sequence
import Rebac.Proofs.Settings.Numeral
import Rebac.Settings.Environment
/-!
# Which environments give settings

An environment describes settings if each of its variables that is set can be read
(`Settings.Describes`). It is accepted just if it does and what has to be positive is so; otherwise
the first variable that cannot be read is named, in the order in which they are read, or else the
first that is not positive, in the order in which settings are validated
(`Settings.ofEnvironment_exact`).
-/

namespace Rebac.Settings

/-! ### One variable -/

/-- What the variable of a setting gives: what its value spells, or the default if it is not set. -/
inductive Gives {α : Type} (env : Environment) (setting : String) (spells : String → α → Prop)
    (default : α) : α → Prop where
  | unset (h : env (variableName setting) = none) : Gives env setting spells default default
  | set {value : String} {a : α} (h : env (variableName setting) = some value)
    (hspells : spells value a) : Gives env setting spells default a

section Variable

variable {α : Type} {env : Environment} {setting : String} {read : String → Option α}
  {spells : String → α → Prop} {default a : α}

theorem fromVariable_eq_ok_iff (hread : Reads read spells) :
    fromVariable env setting read default = .ok a ↔ Gives env setting spells default a := by
  unfold fromVariable
  constructor
  · intro h
    split at h
    · next hunset =>
      obtain rfl := Except.ok.inj h
      exact .unset hunset
    · next hset =>
      split at h
      · next hvalue =>
        obtain rfl := Except.ok.inj h
        exact .set hset ((hread _ _).1 hvalue)
      · cases h
  · intro h
    cases h with
    | unset hunset => rw [hunset]
    | set hset hspells => simp only [hset, (hread _ _).2 hspells]

/-- A value that spells nothing is an error. -/
theorem fromVariable_eq_error {value : String} (hread : Reads read spells)
    (hset : env (variableName setting) = some value) (hnone : ¬ ∃ a, spells value a) :
    fromVariable env setting read default =
      .error (.configuration (.invalidVariable (variableName setting) value)) := by
  have hvalue : read value = none := by
    rwa [hread.exists_iff, Option.not_isSome_iff_eq_none] at hnone
  simp only [fromVariable, hset, hvalue]

/-- A variable gives something if it is not set or can be read. -/
theorem exists_gives_iff (default : α) :
    (∃ a, Gives env setting spells default a) ↔
      ∀ value, env (variableName setting) = some value → ∃ a, spells value a := by
  constructor
  · intro hgives value hvalue
    obtain ⟨a, hgives⟩ := hgives
    cases hgives with
    | unset hunset =>
      rw [hunset] at hvalue
      cases hvalue
    | set hset hspells =>
      obtain rfl := Option.some.inj (hset.symm.trans hvalue)
      exact ⟨a, hspells⟩
  · intro hreadable
    cases hset : env (variableName setting) with
    | none => exact ⟨default, .unset hset⟩
    | some value =>
      obtain ⟨a, hspells⟩ := hreadable value hset
      exact ⟨a, .set hset hspells⟩

end Variable

/-! ### All variables -/

/-- The settings that are numbers or truth values, in the order in which their variables are read,
and for each whether a value of its variable can be read. -/
def spelled : List (String × (String → Prop)) :=
  [("CACHE_TTL_SECONDS", fun value => ∃ w, SpellsUnsigned value w),
   ("CACHE_CLEANUP_INTERVAL_SECONDS", fun value => ∃ w, SpellsUnsigned value w),
   ("CACHE_MAX_ENTRIES", fun value => ∃ w, SpellsUnsigned value w),
   ("LOG_JSON", fun value => ∃ b, SpellsFlag value b),
   ("DEFAULT_PAGE_SIZE", fun value => ∃ w, SpellsSigned value w)]

/-- The variable of a setting is not set, or can be read. -/
def Readable (env : Environment) (entry : String × (String → Prop)) : Prop :=
  ∀ value, env (variableName entry.1) = some value → entry.2 value

/-- The first of these variables that cannot be read is that of this setting, with this value. -/
def FirstUnreadable (env : Environment) (entries : List (String × (String → Prop)))
    (setting value : String) : Prop :=
  ∃ before readable after, entries = before ++ (setting, readable) :: after ∧
    (∀ earlier ∈ before, Readable env earlier) ∧
    env (variableName setting) = some value ∧ ¬ readable value

/-- Settings are what the variables give. -/
structure Describes (env : Environment) (s : Settings) : Prop where
  ttlSeconds : Gives env "CACHE_TTL_SECONDS" SpellsUnsigned Settings.default.cache.ttlSeconds
    s.cache.ttlSeconds
  cleanupIntervalSeconds : Gives env "CACHE_CLEANUP_INTERVAL_SECONDS" SpellsUnsigned
    Settings.default.cache.cleanupIntervalSeconds s.cache.cleanupIntervalSeconds
  maxEntries : Gives env "CACHE_MAX_ENTRIES" SpellsUnsigned Settings.default.cache.maxEntries
    s.cache.maxEntries
  /-- Any text is a level. -/
  level : s.logging.level = (env (variableName "LOG_LEVEL")).getD Settings.default.logging.level
  json : Gives env "LOG_JSON" SpellsFlag Settings.default.logging.json s.logging.json
  defaultPageSize : Gives env "DEFAULT_PAGE_SIZE" SpellsSigned Settings.default.defaultPageSize
    s.defaultPageSize
  /-- Any text is a path, and by default there is none. -/
  policyPath : s.policyPath = env (variableName "POLICY_PATH")

section Environments

variable {env : Environment} {s : Settings} {setting value : String} {e : AccessError}

theorem firstUnreadable_nil : ¬ FirstUnreadable env [] setting value := by
  rintro ⟨before, readable, after, hentries, -⟩
  exact List.append_ne_nil_of_right_ne_nil before (List.cons_ne_nil _ _) hentries.symm

/-- The first unreadable variable is the first of all, or the first of the others. -/
theorem firstUnreadable_cons_iff {name : String} {readable : String → Prop}
    {entries : List (String × (String → Prop))} :
    FirstUnreadable env ((name, readable) :: entries) setting value ↔
      (setting = name ∧ env (variableName name) = some value ∧ ¬ readable value) ∨
        (Readable env (name, readable) ∧ FirstUnreadable env entries setting value) := by
  constructor
  · rintro ⟨before, found, after, hentries, hbefore, hvalue, hnot⟩
    cases before with
    | nil =>
      obtain ⟨heq, -⟩ := List.cons.inj hentries
      obtain ⟨rfl, rfl⟩ := Prod.mk.inj heq
      exact Or.inl ⟨rfl, hvalue, hnot⟩
    | cons first before =>
      obtain ⟨rfl, rfl⟩ := List.cons.inj hentries
      obtain ⟨hfirst, hrest⟩ := List.forall_mem_cons.1 hbefore
      exact Or.inr ⟨hfirst, before, found, after, rfl, hrest, hvalue, hnot⟩
  · rintro (⟨rfl, hvalue, hnot⟩ | ⟨hfirst, before, found, after, rfl, hbefore, hvalue, hnot⟩)
    · exact ⟨[], readable, entries, rfl, List.forall_mem_nil _, hvalue, hnot⟩
    · exact ⟨(name, readable) :: before, found, after, rfl, List.forall_mem_cons.2 ⟨hfirst, hbefore⟩,
        hvalue, hnot⟩

/-- Either all variables can be read, or there is a first that cannot. -/
theorem readable_or_firstUnreadable (env : Environment)
    (entries : List (String × (String → Prop))) :
    (∀ entry ∈ entries, Readable env entry) ∨
      ∃ setting value, FirstUnreadable env entries setting value := by
  induction entries with
  | nil => exact Or.inl (List.forall_mem_nil _)
  | cons entry entries ih =>
    by_cases hfirst : Readable env entry
    · rcases ih with hall | ⟨setting, value, h⟩
      · exact Or.inl (List.forall_mem_cons.2 ⟨hfirst, hall⟩)
      · exact Or.inr ⟨setting, value, firstUnreadable_cons_iff.2 (Or.inr ⟨hfirst, h⟩)⟩
    · obtain ⟨value, hvalue⟩ := not_forall.1 hfirst
      obtain ⟨hvalue, hnot⟩ := Classical.not_imp.1 hvalue
      exact Or.inr ⟨entry.1, value, firstUnreadable_cons_iff.2 (Or.inl ⟨rfl, hvalue, hnot⟩)⟩

/-- Settings are described as soon as every variable can be read. -/
theorem exists_describes_iff :
    (∃ s, Describes env s) ↔ ∀ entry ∈ spelled, Readable env entry := by
  simp only [spelled, List.forall_mem_cons]
  constructor
  · intro hdescribes
    obtain ⟨s, h⟩ := hdescribes
    exact ⟨(exists_gives_iff _).1 ⟨_, h.ttlSeconds⟩,
      (exists_gives_iff _).1 ⟨_, h.cleanupIntervalSeconds⟩,
      (exists_gives_iff _).1 ⟨_, h.maxEntries⟩, (exists_gives_iff _).1 ⟨_, h.json⟩,
      (exists_gives_iff _).1 ⟨_, h.defaultPageSize⟩, List.forall_mem_nil _⟩
  · intro hreadable
    obtain ⟨httl, hinterval, hentries, hjson, hsize, -⟩ := hreadable
    obtain ⟨ttl, httl⟩ := (exists_gives_iff Settings.default.cache.ttlSeconds).2 httl
    obtain ⟨interval, hinterval⟩ :=
      (exists_gives_iff Settings.default.cache.cleanupIntervalSeconds).2 hinterval
    obtain ⟨entries, hentries⟩ := (exists_gives_iff Settings.default.cache.maxEntries).2 hentries
    obtain ⟨json, hjson⟩ := (exists_gives_iff Settings.default.logging.json).2 hjson
    obtain ⟨size, hsize⟩ := (exists_gives_iff Settings.default.defaultPageSize).2 hsize
    exact ⟨⟨⟨ttl, interval, entries⟩, ⟨_, json⟩, size, _⟩, httl, hinterval, hentries, rfl, hjson,
      hsize, rfl⟩

/-- A variable that may hold any text is no error. -/
theorem fromVariable_some (env : Environment) (setting default : String) :
    fromVariable env setting some default =
      .ok ((env (variableName setting)).getD default) := by
  unfold fromVariable
  cases env (variableName setting) <;> rfl

/-- What is described is validated and returned. -/
theorem ofEnvironment_of_describes (h : Describes env s) :
    ofEnvironment env = s.validate >>= fun _ => .ok s := by
  simp only [ofEnvironment, (fromVariable_eq_ok_iff reads_unsignedWord).2 h.ttlSeconds,
    (fromVariable_eq_ok_iff reads_unsignedWord).2 h.cleanupIntervalSeconds,
    (fromVariable_eq_ok_iff reads_unsignedWord).2 h.maxEntries, fromVariable_some,
    ← h.level, (fromVariable_eq_ok_iff reads_flag).2 h.json,
    (fromVariable_eq_ok_iff reads_signedWord).2 h.defaultPageSize, ← h.policyPath]
  rfl

/-- What comes after a variable does not matter if it is the first that cannot be read. -/
theorem fromVariable_bind_of_firstUnreadable {α β : Type} {name : String}
    {read : String → Option α} {spells : String → α → Prop}
    {entries : List (String × (String → Prop))} {default : α} {f : α → Except AccessError β}
    (hread : Reads read spells)
    (h : FirstUnreadable env ((name, fun value => ∃ a, spells value a) :: entries) setting value)
    (hrest : FirstUnreadable env entries setting value → ∀ a,
      f a = .error (.configuration (.invalidVariable (variableName setting) value))) :
    (fromVariable env name read default >>= f) =
      .error (.configuration (.invalidVariable (variableName setting) value)) := by
  rcases firstUnreadable_cons_iff.1 h with ⟨rfl, hset, hnone⟩ | ⟨hreadable, h⟩
  · rw [fromVariable_eq_error hread hset hnone]
    rfl
  · obtain ⟨a, hgives⟩ := (exists_gives_iff default).2 hreadable
    rw [(fromVariable_eq_ok_iff hread).2 hgives]
    exact hrest h a

/-- The first variable that cannot be read is the error. -/
theorem ofEnvironment_of_firstUnreadable (h : FirstUnreadable env spelled setting value) :
    ofEnvironment env =
      .error (.configuration (.invalidVariable (variableName setting) value)) := by
  -- each variable is read only if those before it could be
  refine fromVariable_bind_of_firstUnreadable reads_unsignedWord h fun h ttl => ?_
  refine fromVariable_bind_of_firstUnreadable reads_unsignedWord h fun h interval => ?_
  refine fromVariable_bind_of_firstUnreadable reads_unsignedWord h fun h entries => ?_
  rw [fromVariable_some]
  refine fromVariable_bind_of_firstUnreadable reads_flag h fun h json => ?_
  refine fromVariable_bind_of_firstUnreadable reads_signedWord h fun h size => ?_
  exact absurd h firstUnreadable_nil

/-! ### Validation -/

/-- What has to be positive is so. -/
structure IsPositive (s : Settings) : Prop where
  defaultPageSize : 0 < s.defaultPageSize
  ttlSeconds : 0 < s.cache.ttlSeconds
  cleanupIntervalSeconds : 0 < s.cache.cleanupIntervalSeconds

/-- The first setting that has to be positive and is not. -/
inductive FirstNotPositive (s : Settings) : String → Prop where
  | defaultPageSize (h : s.defaultPageSize ≤ 0) : FirstNotPositive s "DEFAULT_PAGE_SIZE"
  | ttlSeconds (hsize : 0 < s.defaultPageSize) (h : s.cache.ttlSeconds = 0) :
    FirstNotPositive s "CACHE_TTL_SECONDS"
  | cleanupIntervalSeconds (hsize : 0 < s.defaultPageSize) (httl : 0 < s.cache.ttlSeconds)
    (h : s.cache.cleanupIntervalSeconds = 0) :
    FirstNotPositive s "CACHE_CLEANUP_INTERVAL_SECONDS"

theorem validate_of_isPositive (h : s.IsPositive) : s.validate = .ok () := by
  have httl := UInt64.pos_iff_ne_zero.1 h.ttlSeconds
  have hinterval := UInt64.pos_iff_ne_zero.1 h.cleanupIntervalSeconds
  simp [validate, positives, h.defaultPageSize, httl, hinterval]

theorem validate_of_firstNotPositive (h : FirstNotPositive s setting) :
    s.validate = .error (.configuration (.notPositive (variableName setting))) := by
  cases h with
  | defaultPageSize h => simp [validate, positives, h]
  | ttlSeconds hsize h => simp [validate, positives, hsize, h]
  | cleanupIntervalSeconds hsize httl h =>
    simp [validate, positives, hsize, UInt64.pos_iff_ne_zero.1 httl, h]

/-- Settings are positive where they have to be, or there is a first that is not. -/
theorem isPositive_or_firstNotPositive (s : Settings) :
    s.IsPositive ∨ ∃ setting, FirstNotPositive s setting := by
  by_cases hsize : 0 < s.defaultPageSize
  · by_cases httl : s.cache.ttlSeconds = 0
    · exact Or.inr ⟨_, .ttlSeconds hsize httl⟩
    · have httl := UInt64.pos_iff_ne_zero.2 httl
      by_cases hinterval : s.cache.cleanupIntervalSeconds = 0
      · exact Or.inr ⟨_, .cleanupIntervalSeconds hsize httl hinterval⟩
      · exact Or.inl ⟨hsize, httl, UInt64.pos_iff_ne_zero.2 hinterval⟩
  · exact Or.inr ⟨_, .defaultPageSize (Int64.not_lt.1 hsize)⟩

theorem validate_eq_ok_iff : s.validate = .ok () ↔ s.IsPositive := by
  constructor
  · intro h
    rcases isPositive_or_firstNotPositive s with hpositive | ⟨setting, hfirst⟩
    · exact hpositive
    · rw [validate_of_firstNotPositive hfirst] at h
      cases h
  · exact validate_of_isPositive

/-! ### Settings written down -/

/-- The variable of a setting holds this text and blanks around it. -/
def Holds (env : Environment) (setting text : String) : Prop :=
  ∃ value, env (variableName setting) = some value ∧ Text.Padded text.toList value

/-- All settings stand in their variables, numbers in decimal. -/
structure WrittenIn (env : Environment) (s : Settings) : Prop where
  ttlSeconds : Holds env "CACHE_TTL_SECONDS" (toString s.cache.ttlSeconds.toNat)
  cleanupIntervalSeconds : Holds env "CACHE_CLEANUP_INTERVAL_SECONDS"
    (toString s.cache.cleanupIntervalSeconds.toNat)
  maxEntries : Holds env "CACHE_MAX_ENTRIES" (toString s.cache.maxEntries.toNat)
  level : env (variableName "LOG_LEVEL") = some s.logging.level
  json : Holds env "LOG_JSON" (if s.logging.json then "true" else "false")
  defaultPageSize : Holds env "DEFAULT_PAGE_SIZE" (toString s.defaultPageSize.toInt)
  policyPath : env (variableName "POLICY_PATH") = s.policyPath

theorem Holds.gives_unsigned {w default : UInt64} (h : Holds env setting (toString w.toNat)) :
    Gives env setting SpellsUnsigned default w := by
  obtain ⟨value, hset, hpadded⟩ := h
  exact .set hset ⟨_, hpadded, unsignedText_toString w.toNat⟩

/-- Written settings are described. -/
theorem WrittenIn.describes (h : WrittenIn env s) : Describes env s where
  ttlSeconds := h.ttlSeconds.gives_unsigned
  cleanupIntervalSeconds := h.cleanupIntervalSeconds.gives_unsigned
  maxEntries := h.maxEntries.gives_unsigned
  level := by rw [h.level, Option.getD_some]
  json := by
    obtain ⟨value, hset, hpadded⟩ := h.json
    exact .set hset hpadded
  defaultPageSize := by
    obtain ⟨value, hset, hpadded⟩ := h.defaultPageSize
    exact .set hset ⟨_, hpadded, signedText_toString s.defaultPageSize.toInt⟩
  policyPath := h.policyPath.symm

/-! ### All environments -/

/-- Every environment describes valid settings, or has a first variable that cannot be read, or
describes settings with a first value that is not positive. -/
theorem ofEnvironment_cases (env : Environment) :
    (∃ s, Describes env s ∧ s.IsPositive ∧ ofEnvironment env = .ok s) ∨
      (∃ setting value, FirstUnreadable env spelled setting value ∧ ofEnvironment env =
        .error (.configuration (.invalidVariable (variableName setting) value))) ∨
      ∃ s setting, Describes env s ∧ FirstNotPositive s setting ∧ ofEnvironment env =
        .error (.configuration (.notPositive (variableName setting))) := by
  rcases readable_or_firstUnreadable env spelled with hreadable | ⟨setting, value, hfirst⟩
  · obtain ⟨s, hs⟩ := exists_describes_iff.2 hreadable
    have henv := ofEnvironment_of_describes hs
    rcases isPositive_or_firstNotPositive s with hpositive | ⟨setting, hfirst⟩
    · rw [validate_of_isPositive hpositive] at henv
      exact Or.inl ⟨s, hs, hpositive, henv⟩
    · rw [validate_of_firstNotPositive hfirst] at henv
      exact Or.inr (Or.inr ⟨s, setting, hs, hfirst, henv⟩)
  · exact Or.inr (Or.inl ⟨setting, value, hfirst, ofEnvironment_of_firstUnreadable hfirst⟩)

theorem ofEnvironment_eq_ok_iff :
    ofEnvironment env = .ok s ↔ Describes env s ∧ s.IsPositive := by
  constructor
  · intro h
    rcases ofEnvironment_cases env with ⟨s', hs', hpositive, henv⟩ | ⟨_, _, _, henv⟩ |
      ⟨_, _, _, _, henv⟩
    · obtain rfl := Except.ok.inj (henv.symm.trans h)
      exact ⟨hs', hpositive⟩
    · rw [h] at henv
      cases henv
    · rw [h] at henv
      cases henv
  · rintro ⟨hs, hpositive⟩
    rw [ofEnvironment_of_describes hs, validate_of_isPositive hpositive]
    rfl

theorem ofEnvironment_eq_error_iff :
    ofEnvironment env = .error e ↔
      (∃ setting value, FirstUnreadable env spelled setting value ∧
        e = .configuration (.invalidVariable (variableName setting) value)) ∨
      ∃ s setting, Describes env s ∧ FirstNotPositive s setting ∧
        e = .configuration (.notPositive (variableName setting)) := by
  constructor
  · intro h
    rcases ofEnvironment_cases env with ⟨_, _, _, henv⟩ | ⟨setting, value, hfirst, henv⟩ |
      ⟨s, setting, hs, hfirst, henv⟩
    · rw [h] at henv
      cases henv
    · exact Or.inl ⟨setting, value, hfirst, Except.error.inj (h.symm.trans henv)⟩
    · exact Or.inr ⟨s, setting, hs, hfirst, Except.error.inj (h.symm.trans henv)⟩
  · rintro (⟨setting, value, hfirst, rfl⟩ | ⟨s, setting, hs, hfirst, rfl⟩)
    · exact ofEnvironment_of_firstUnreadable hfirst
    · rw [ofEnvironment_of_describes hs, validate_of_firstNotPositive hfirst]
      rfl

/-- An environment gives settings just if each number and each truth value that is set in it is
spelled as one of its kind and the settings so described are positive where they have to be; they
are then what the variables say, or the defaults, and are valid. Otherwise the error names the first
variable that cannot be read, or if all can be read, the first value that is not positive. Valid
settings that are written into an environment, with any blanks around numbers and truth values, are
read back. -/
theorem ofEnvironment_exact (env : Environment) :
    ((∃ s, Describes env s) ↔ ∀ entry ∈ spelled, Readable env entry) ∧
    (∀ s, ofEnvironment env = .ok s ↔ Describes env s ∧ s.IsPositive) ∧
    (∀ s, ofEnvironment env = .ok s → s.validate = .ok ()) ∧
    (∀ e, ofEnvironment env = .error e ↔
      (∃ setting value, FirstUnreadable env spelled setting value ∧
        e = .configuration (.invalidVariable (variableName setting) value)) ∨
      ∃ s setting, Describes env s ∧ FirstNotPositive s setting ∧
        e = .configuration (.notPositive (variableName setting))) ∧
    ∀ s, s.validate = .ok () → WrittenIn env s → ofEnvironment env = .ok s := by
  refine ⟨exists_describes_iff, fun s => ofEnvironment_eq_ok_iff, ?_,
    fun e => ofEnvironment_eq_error_iff, ?_⟩
  · intro s h
    exact validate_of_isPositive (ofEnvironment_eq_ok_iff.1 h).2
  · intro s hvalid hwritten
    exact ofEnvironment_eq_ok_iff.2 ⟨hwritten.describes, validate_eq_ok_iff.1 hvalid⟩

/-- The environment in which these variables are set. -/
def environmentOf (entries : Assoc String) : Environment :=
  fun name => Assoc.get? name entries

/-- Settings that are written with blanks around them, and two environments that are refused. -/
theorem ofEnvironment_exact_padded :
    let settings : Settings := ⟨⟨60, 21600, 0⟩, ⟨" quiet ", true⟩, 25, some ""⟩
    let written := environmentOf
      [("GRAPH_AUTHZ_CACHE_TTL_SECONDS", "\t60\n"),
       ("GRAPH_AUTHZ_CACHE_CLEANUP_INTERVAL_SECONDS", "21600"),
       ("GRAPH_AUTHZ_CACHE_MAX_ENTRIES", "0 "), ("GRAPH_AUTHZ_LOG_LEVEL", " quiet "),
       ("GRAPH_AUTHZ_LOG_JSON", " true"), ("GRAPH_AUTHZ_DEFAULT_PAGE_SIZE", "25"),
       ("GRAPH_AUTHZ_POLICY_PATH", "")]
    let unreadable := environmentOf
      [("GRAPH_AUTHZ_DEFAULT_PAGE_SIZE", "ten"), ("GRAPH_AUTHZ_LOG_JSON", "True"),
       ("GRAPH_AUTHZ_CACHE_TTL_SECONDS", "+0")]
    let negative := environmentOf
      [("GRAPH_AUTHZ_CACHE_TTL_SECONDS", "+00"), ("GRAPH_AUTHZ_DEFAULT_PAGE_SIZE", " -07")]
    settings.validate = .ok () ∧ WrittenIn written settings ∧
      ofEnvironment written = .ok settings ∧
      FirstUnreadable unreadable spelled "LOG_JSON" "True" ∧
      ofEnvironment unreadable =
        .error (.configuration (.invalidVariable "GRAPH_AUTHZ_LOG_JSON" "True")) ∧
      ofEnvironment negative =
        .error (.configuration (.notPositive "GRAPH_AUTHZ_DEFAULT_PAGE_SIZE")) := by
  intro settings written unreadable negative
  have hvalid : settings.validate = .ok () := by decide
  have hwritten : WrittenIn written settings :=
    { ttlSeconds := ⟨"\t60\n", rfl, (Text.padded_iff (by decide)).2 (by decide)⟩
      cleanupIntervalSeconds := ⟨"21600", rfl, (Text.padded_iff (by decide)).2 (by decide)⟩
      maxEntries := ⟨"0 ", rfl, (Text.padded_iff (by decide)).2 (by decide)⟩
      level := rfl
      json := ⟨" true", rfl, (Text.padded_iff (by decide)).2 (by decide)⟩
      defaultPageSize := ⟨"25", rfl, (Text.padded_iff (by decide)).2 (by decide)⟩
      policyPath := rfl }
  have hfirst : FirstUnreadable unreadable spelled "LOG_JSON" "True" := by
    refine ⟨_, _, _, rfl, List.forall_mem_cons.2 ⟨?_, List.forall_mem_cons.2 ⟨?_,
      List.forall_mem_cons.2 ⟨?_, List.forall_mem_nil _⟩⟩⟩, rfl, ?_⟩
    · intro value hset
      obtain rfl : "+0" = value := Option.some.inj hset
      exact reads_unsignedWord.exists_iff.2 (by decide)
    · intro value hset
      cases hset
    · intro value hset
      cases hset
    · exact mt reads_flag.exists_iff.1 (by decide)
  have hread : Describes negative ⟨⟨0, 21600, 10000⟩, ⟨"graph_authz=info", false⟩, -7, none⟩ :=
    { ttlSeconds := .set rfl ((reads_unsignedWord "+00" 0).1 (by decide))
      cleanupIntervalSeconds := .unset rfl
      maxEntries := .unset rfl
      level := rfl
      json := .unset rfl
      defaultPageSize := .set rfl ((reads_signedWord " -07" (-7)).1 (by decide))
      policyPath := rfl }
  obtain ⟨-, -, -, -, hback⟩ := ofEnvironment_exact written
  obtain ⟨-, -, -, hunreadable, -⟩ := ofEnvironment_exact unreadable
  obtain ⟨-, -, -, hnegative, -⟩ := ofEnvironment_exact negative
  exact ⟨hvalid, hwritten, hback settings hvalid hwritten, hfirst,
    (hunreadable _).2 (Or.inl ⟨_, _, hfirst, by decide⟩),
    (hnegative _).2 (Or.inr ⟨_, _, hread, .defaultPageSize (by decide), by decide⟩)⟩

end Environments

end Rebac.Settings
