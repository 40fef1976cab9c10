import MangaRecommender.IpAddress

/-!
# Quotas of clients

A client may make so many requests per minute and so many per day. A request needs a place in both
quotas; one that finds the minute spent takes no place of the day. Time stands still here: no
place is ever given back.
-/

namespace MangaRecommender

/-- The places of one quota, with the client of every place that was taken. -/
structure Quota where
  limit : Nat
  taken : List IpAddress

namespace Quota

def full (limit : Nat) : Quota := ⟨limit, []⟩

/-- Takes a place for a client, if one is left. -/
def check (quota : Quota) (client : IpAddress) : Bool × Quota :=
  if quota.taken.count client < quota.limit then
    (true, { quota with taken := client :: quota.taken })
  else (false, quota)

end Quota

structure RateLimiter where
  perMinute : Quota
  perDay : Quota

namespace RateLimiter

def ofLimits (perMinute perDay : Nat) : RateLimiter := ⟨.full perMinute, .full perDay⟩

/-- Whether a request of a client is admitted, and the limiter after it. -/
def check (limiter : RateLimiter) (client : IpAddress) : Bool × RateLimiter :=
  let (admitted, perMinute) := limiter.perMinute.check client
  if admitted then
    let (admitted, perDay) := limiter.perDay.check client
    (admitted, ⟨perMinute, perDay⟩)
  else (false, { limiter with perMinute })

/-- The verdicts on the requests of a list of clients. -/
def checkAll (limiter : RateLimiter) : List IpAddress → List Bool
  | [] => []
  | client :: rest => (limiter.check client).1 :: checkAll (limiter.check client).2 rest

end RateLimiter

end MangaRecommender
