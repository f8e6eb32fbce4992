import Rebac.Json.Shape
import Rebac.Settings.Basic
/-!
# Settings documents

The JSON form of settings. Everything in it may be left out and then has its default; only the path
of the policy may be null.
-/

namespace Rebac

open Json

/-- The document of cache settings. -/
def CacheSettings.shape : Shape CacheSettings where
  name := "CacheConfig"
  fields :=
    [⟨"ttl_seconds", false, fun c t => return { c with ttlSeconds := ← Decoder.unsignedWord t }⟩,
     ⟨"cleanup_interval_seconds", false, fun c t =>
        return { c with cleanupIntervalSeconds := ← Decoder.unsignedWord t }⟩,
     ⟨"max_entries", false, fun c t => return { c with maxEntries := ← Decoder.unsignedWord t }⟩]
  start := .default

/-- The document of log settings. -/
def LoggingSettings.shape : Shape LoggingSettings where
  name := "LoggingConfig"
  fields :=
    [⟨"level", false, fun l t => return { l with level := ← Decoder.text t }⟩,
     ⟨"json", false, fun l t => return { l with json := ← Decoder.flag t }⟩]
  start := .default

/-- The document of settings. -/
def Settings.shape : Shape Settings where
  name := "AuthzConfig"
  fields :=
    [⟨"cache", false, fun s t => return { s with cache := ← CacheSettings.shape.decode t }⟩,
     ⟨"logging", false, fun s t => return { s with logging := ← LoggingSettings.shape.decode t }⟩,
     ⟨"default_page_size", false, fun s t =>
        return { s with defaultPageSize := ← Decoder.signedWord t }⟩,
     ⟨"policy_path", false, fun s t =>
        return { s with policyPath := ← Decoder.optional (Decoder.textFor .path) t }⟩]
  start := .default

/-- The settings that a JSON text describes. -/
def Settings.ofText (text : String) : Except Fault Settings :=
  Decoder.document Settings.shape.decode (Document.ofText text)

/-- The JSON form of settings. -/
def Settings.toJson (s : Settings) : Value :=
  .object
    [("cache", .object
      [("ttl_seconds", .ofNat s.cache.ttlSeconds.toNat),
       ("cleanup_interval_seconds", .ofNat s.cache.cleanupIntervalSeconds.toNat),
       ("max_entries", .ofNat s.cache.maxEntries.toNat)]),
     ("logging", .object [("level", .string s.logging.level), ("json", .bool s.logging.json)]),
     ("default_page_size", .ofInt s.defaultPageSize.toInt),
     ("policy_path", .ofOption .string s.policyPath)]

end Rebac
