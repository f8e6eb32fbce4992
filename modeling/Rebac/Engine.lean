import Rebac.Page
import Rebac.Policy.File
import Rebac.Settings.Document
/-!
# Engines

An engine answers requests under one policy: point checks, listings, pages of listings and counts.
-/

namespace Rebac

/-- An engine. -/
structure Engine where
  policy : Policy
  /-- The page size for requests that do not give one. -/
  pageSize : Int64
  /-- Whether dead entries are swept out of a cache of its own. -/
  sweepsCache : Bool

/-- A page of a listing: how many pages there are, which one this is, and the results on it. -/
structure ListingPage where
  totalPages : UInt64
  page : Int64
  /-- Each result consists of identifiers. -/
  data : List (List String)
deriving DecidableEq

/-- The objects on a page. -/
def ListingPage.identifiers (p : ListingPage) : List String := p.data.flatten

/-- The empty cache that settings ask for. -/
def CountCache.ofSettings (settings : CacheSettings) : CountCache :=
  .empty (settings.ttlSeconds.toNat * 1000) settings.maxEntries.toNat

namespace Engine

/-- An engine that works with a cache of someone else. -/
def ofPolicy (policy : Policy) : Engine := ⟨policy, Settings.default.defaultPageSize, false⟩

/-- An engine with a cache of its own, which is swept. -/
def ofSettings (policy : Policy) (settings : Settings) :
    Except AccessError (Engine × CountCache) := do
  settings.validate
  return (⟨policy, settings.defaultPageSize, true⟩, CountCache.ofSettings settings.cache)

/-- An engine for the policy in the file that the settings name. -/
def ofSettingsFile (directory : Directory) (settings : Settings) :
    Except AccessError (Engine × CountCache) := do
  match settings.policyPath with
  | none => throw (.configuration .noPolicyPath)
  | some path =>
    let policy ← Policy.ofFile directory path
    ofSettings policy settings

section Requests

variable {σ : Type} [Backend σ]

/-- Which clauses of an action's rule hold between a subject and an object. -/
def check (engine : Engine) (subject : Entity) (action : String) (object : Entity) :
    Access σ (List ClauseResult) := do
  let query ← Access.ofExcept (Query.access subject action object engine.policy)
  let rows ← Access.ask query
  Access.ofExcept (Answer.access rows)

/-- The identifiers of all objects that a request is about. -/
def filter (engine : Engine) (r : Request) : Access σ (List String) := do
  let query ← Access.ofExcept (r.filterQuery engine.policy)
  let rows ← Access.ask query
  Access.ofExcept (Answer.identifiers rows)

/-- One page of the listing of a request; pages are counted from one. -/
def filterPaginated (engine : Engine) (r : Request) (limit page : Int64) :
    Access σ ListingPage := do
  let window ← Page.window engine.policy r limit page
  let rows ← Access.ask window.query
  let identifiers ← Access.ofExcept (Answer.identifiers rows)
  return ⟨window.totalPages, page, [identifiers]⟩

/-- One page of the listing of a request, of the engine's own size. -/
def filterPage (engine : Engine) (r : Request) (page : Int64) : Access σ ListingPage :=
  engine.filterPaginated r engine.pageSize page

/-- The number of objects that a request is about. -/
def count (engine : Engine) (r : Request) : Access σ UInt64 := Page.totalCount engine.policy r

end Requests

end Engine

end Rebac
