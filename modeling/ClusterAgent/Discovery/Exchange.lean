/-
Plans whose requests go through the request layer.

`Plan.attend` carries a plan on as far as it gets: each request that draws a
token is answered at once, and the first one that has to wait for a token is
where the plan stands.
-/
import ClusterAgent.Client.Requests
import ClusterAgent.Discovery.Plan

namespace ClusterAgent

/-- How the request layer sees what comes of a request. -/
def Fetched.reply : Fetched → Reply
  | .response status _ => .status status
  | .failure cause => .failure cause

/-- A request on behalf of someone, who has at most one at a time and a service
of their own. -/
def Call.onBehalf (id : RequestId) (path : String) : Call := ⟨id, "GET", path, id⟩

namespace Plan

variable {α β : Type} [TokenArithmetic α]

/-- Carry a plan on. `asked` tells whether its next request is on its way. -/
def attend (answer : String → Fetched) (id : RequestId) (now : Instant) :
    Plan β → Bool → RequestLayer α → RequestLayer α × List RequestEvent × Plan β
  | .done result, _, layer => (layer, [], .done result)
  | .ask path resume, asked, layer =>
    let (layer, sent) :=
      if asked then (layer, []) else layer.send (Call.onBehalf id path) now
    let (layer, dispatched) := layer.dispatch now
    if layer.sent.any (·.1.id == id) then
      let (layer, replied) := layer.reply id (answer path).reply now
      let (layer, later, plan) := attend answer id now (resume (answer path)) false layer
      (layer, sent ++ dispatched ++ replied ++ later, plan)
    else (layer, sent ++ dispatched, .ask path resume)

end Plan

end ClusterAgent
