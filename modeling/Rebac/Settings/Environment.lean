import Rebac.Settings.Basic
import Rebac.Settings.Numeral
/-!
# Settings from the environment

Each setting can be given by an environment variable. A variable that cannot be read is an error,
and so are settings with which an engine cannot run.
-/

namespace Rebac.Settings

/-- An environment: the value of each variable that is set. -/
abbrev Environment := String → Option String

/-- The setting that a variable gives, or `default` if the variable is not set. -/
def fromVariable {α : Type} (env : Environment) (setting : String) (read : String → Option α)
    (default : α) : Except AccessError α :=
  match env (variableName setting) with
  | none => .ok default
  | some value =>
    match read value with
    | some a => .ok a
    | none => .error (.configuration (.invalidVariable (variableName setting) value))

/-- The settings that an environment gives. -/
def ofEnvironment (env : Environment) : Except AccessError Settings := do
  let base := Settings.default
  let ttlSeconds ← fromVariable env "CACHE_TTL_SECONDS" unsignedWord? base.cache.ttlSeconds
  let cleanupIntervalSeconds ←
    fromVariable env "CACHE_CLEANUP_INTERVAL_SECONDS" unsignedWord?
      base.cache.cleanupIntervalSeconds
  let maxEntries ← fromVariable env "CACHE_MAX_ENTRIES" unsignedWord? base.cache.maxEntries
  let level ← fromVariable env "LOG_LEVEL" some base.logging.level
  let json ← fromVariable env "LOG_JSON" flag? base.logging.json
  let defaultPageSize ← fromVariable env "DEFAULT_PAGE_SIZE" signedWord? base.defaultPageSize
  let settings : Settings := {
    cache := { ttlSeconds, cleanupIntervalSeconds, maxEntries }
    logging := { level, json }
    defaultPageSize
    policyPath := env (variableName "POLICY_PATH") }
  settings.validate
  return settings

end Rebac.Settings
