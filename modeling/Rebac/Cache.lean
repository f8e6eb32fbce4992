import Rebac.Json.Value
/-!
# The count cache

A cache of values under names. Time is counted in milliseconds and given to every operation. A value
can be read while less than the cache's time to live has passed since it was written; reading does
not extend that time. A cache without room for a single value is of no use to its readers: whatever
is written there is dead at once.
-/

namespace Rebac

/-- A value in a cache, and when it was written. -/
structure CacheEntry where
  value : Json.Value
  writtenAt : Nat
deriving DecidableEq

/-- A cache of values with a limited life. -/
structure CountCache where
  /-- How long a value is meant to be read, in milliseconds. -/
  timeToLive : Nat
  /-- How many values there is room for. Values are never pushed out to make room: all that matters
  is whether there is any. -/
  capacity : Nat
  entries : Assoc CacheEntry
deriving DecidableEq

namespace CountCache

/-- The empty cache of a time to live and a capacity. -/
def empty (timeToLive capacity : Nat) : CountCache := ⟨timeToLive, capacity, []⟩

/-- How long a value can be read: its time to live, if there is room for it at all. -/
def lifetime (cache : CountCache) : Nat := if cache.capacity = 0 then 0 else cache.timeToLive

/-- The value under `key`, if it is there and still alive. -/
def get? (cache : CountCache) (now : Nat) (key : String) : Option Json.Value :=
  match Assoc.get? key cache.entries with
  | some entry => if now - entry.writtenAt < cache.lifetime then some entry.value else none
  | none => none

/-- Writes `value` under `key`. -/
def set (cache : CountCache) (now : Nat) (key : String) (value : Json.Value) : CountCache :=
  { cache with entries := Assoc.set key ⟨value, now⟩ cache.entries }

/-- Takes the value under `key` out. -/
def invalidate (cache : CountCache) (key : String) : CountCache :=
  { cache with entries := Assoc.erase key cache.entries }

/-- Takes all values out. -/
def clear (cache : CountCache) : CountCache := { cache with entries := [] }

end CountCache

end Rebac
