import Rebac.Error
/-!
# Settings

The settings of an engine. Every one has a default, so an engine can run without any.
-/

namespace Rebac

/-- Settings of the count cache. -/
structure CacheSettings where
  /-- How long a total can be used. -/
  ttlSeconds : UInt64
  /-- How often dead entries are swept out. -/
  cleanupIntervalSeconds : UInt64
  /-- How many totals there is room for. -/
  maxEntries : UInt64
deriving DecidableEq

/-- Settings of the log. -/
structure LoggingSettings where
  /-- What is logged. -/
  level : String
  /-- Whether the log is written as JSON. -/
  json : Bool
deriving DecidableEq

/-- Settings of an engine. -/
structure Settings where
  cache : CacheSettings
  logging : LoggingSettings
  /-- The page size for callers that do not give one. -/
  defaultPageSize : Int64
  /-- The file that holds the policy. -/
  policyPath : Option String
deriving DecidableEq

/-- A total can be used for five minutes, and dead ones are swept out every six hours. -/
def CacheSettings.default : CacheSettings := ⟨300, 6 * 60 * 60, 10000⟩

/-- The log shows what the engine reports and is written for readers. -/
def LoggingSettings.default : LoggingSettings := ⟨"graph_authz=info", false⟩

namespace Settings

/-- The settings that hold where none are given. -/
def default : Settings := ⟨.default, .default, 10, none⟩

/-- The name of the environment variable of a setting. -/
def variableName (setting : String) : String := "GRAPH_AUTHZ_" ++ setting

/-- The settings whose value has to be positive, by the names of their variables, and whether each
one is; the first that is not counts. -/
def positives (s : Settings) : List (String × Bool) :=
  [("DEFAULT_PAGE_SIZE", 0 < s.defaultPageSize),
   ("CACHE_TTL_SECONDS", s.cache.ttlSeconds ≠ 0),
   ("CACHE_CLEANUP_INTERVAL_SECONDS", s.cache.cleanupIntervalSeconds ≠ 0)]

/-- Refuses settings with which an engine cannot run. -/
def validate (s : Settings) : Except AccessError Unit :=
  match s.positives.find? fun entry => !entry.2 with
  | some (setting, _) => .error (.configuration (.notPositive (variableName setting)))
  | none => .ok ()

end Settings

end Rebac
