import MangaRecommender.Http.Gateway
import MangaRecommender.World

/-!
# Runs of a gateway

Requests and changes of the world follow each other. What a request leaves behind, its cache and
the places that it took of the quotas, is what the next one finds.
-/

namespace MangaRecommender.Http

/-- A gateway's quotas and the world around it. -/
structure Site where
  world : World
  limiter : RateLimiter

inductive Step
  | request (request : Request)
  | change (change : Change)

namespace Site

def state (site : Site) : State := ⟨site.world.cache, site.limiter⟩

/-- The site with what a request has left. -/
def withState (site : Site) (state : State) : Site :=
  ⟨{ site.world with cache := state.cache }, state.limiter⟩

/-- The exchange of a step, which a change has none of, and the site after it. -/
def step (limits : Limits) (site : Site) : Step → Option Exchange × Site
  | .request request =>
    let exchange := handle limits site.world.repository site.state request
    (some exchange, site.withState exchange.state)
  | .change change => (none, { site with world := site.world.change change })

/-- The exchanges of a run. -/
def exchanges (limits : Limits) (site : Site) : List Step → List (Option Exchange)
  | [] => []
  | first :: rest => (site.step limits first).1 :: (site.step limits first).2.exchanges limits rest

/-- The site after a run. -/
def after (limits : Limits) (site : Site) (steps : List Step) : Site :=
  steps.foldl (fun site next => (site.step limits next).2) site

end Site

end MangaRecommender.Http
