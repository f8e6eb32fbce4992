import Rebac.Query.Compile
import Rebac.Session
/-!
# Paged listings

A listing is shown in pages of a given size. How many pages there are follows from the total number
of objects, which is counted once and then kept in the count cache under a name made of the request.
A kept total may be out of date until it expires.
-/

namespace Rebac

/-- Who wants to do what to objects of which type. -/
structure Request where
  subject : Entity
  action : String
  objectType : String
deriving DecidableEq

namespace Request

/-- The listing of a request. -/
def filterQuery (r : Request) (policy : Policy) : Except AccessError Query :=
  Query.filter r.subject r.action r.objectType policy

/-- The count of a request. -/
def countQuery (r : Request) (policy : Policy) : Except AccessError Query :=
  Query.count r.subject r.action r.objectType policy

/-- The name under which the total of a request is kept. -/
def cacheKey (r : Request) : String :=
  r.subject.typeName ++ "_" ++ r.subject.id ++ "_" ++ r.action ++ "_" ++ r.objectType ++ "_total"

end Request

namespace Page

/-- How many pages of `limit` objects hold `total` objects; `limit` is not zero. -/
def totalPages (total limit : UInt64) : UInt64 :=
  if total % limit = 0 then total / limit else total / limit + 1

/-- The product of two words, or the greatest word if it does not fit. -/
def saturatingMul (a b : UInt64) : UInt64 :=
  (min (a.toNat * b.toNat) (UInt64.size - 1)).toUInt64

/-- How many objects stand before a page. -/
def skip (page limit : UInt64) : UInt64 := saturatingMul (page - 1) limit

/-- A page of a listing as a query, and how many pages there are. -/
structure Window where
  query : Query
  totalPages : UInt64
deriving DecidableEq

/-- The number of objects in the listing of a request: the one in the cache, or else counted and
then kept there. Whatever the cache holds under the name of the request is trusted to be a count. -/
def totalCount {σ : Type} [Backend σ] (policy : Policy) (r : Request) : Access σ UInt64 := do
  match ← Access.cached r.cacheKey with
  | some value =>
    match value.word? with
    | some total => return total
    | none => throw (.notACount r.cacheKey)
  | none =>
    let query ← Access.ofExcept (r.countQuery policy)
    let rows ← Access.ask query
    let total ← Access.ofExcept (Answer.count rows)
    Access.store r.cacheKey (.ofNat total.toNat)
    return total

/-- The query for a page, counted from one. The page and its size are looked at first, then the
request, and only then the cache and the backend. -/
def window {σ : Type} [Backend σ] (policy : Policy) (r : Request) (limit page : Int64) :
    Access σ Window := do
  if page ≤ 0 then throw (.invalidPage page)
  if limit ≤ 0 then throw (.invalidLimit limit)
  let query ← Access.ofExcept (r.filterQuery policy)
  let total ← totalCount policy r
  let pages := totalPages total limit.toUInt64
  if pages < page.toUInt64 then throw (.pageOutOfRange page pages)
  return ⟨query.withWindow (skip page.toUInt64 limit.toUInt64) limit.toUInt64, pages⟩

end Page

end Rebac
