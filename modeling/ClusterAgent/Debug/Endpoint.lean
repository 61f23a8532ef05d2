/-
What the debug endpoint answers.

* `Endpoint.ofPath?` — the three paths there are;
* `Endpoint.serve` — the answer to a method and a path, and the registry after it.

Design notes: reading the metrics folds waiting samples into the distributions,
so it changes the registry.  Asking for the head of an answer does all that and
leaves the body out.
-/
import ClusterAgent.Config.Snapshot
import ClusterAgent.Telemetry.Registry

namespace ClusterAgent

/-- What is served. -/
inductive Endpoint where
  | metrics
  | health
  | configuration
deriving DecidableEq

/-- The body of an answer. -/
inductive HttpBody where
  | text (s : String)
  /-- The lines of an exposition of metrics. -/
  | exposition (lines : List String)
deriving DecidableEq

/-- An answer. -/
structure HttpResponse where
  status : Nat
  headers : List (String × String)
  body : HttpBody
deriving DecidableEq

/-- The same body with nothing in it. -/
def HttpBody.cleared : HttpBody → HttpBody
  | .text _ => .text ""
  | .exposition _ => .exposition []

namespace Endpoint

/-- The path of an endpoint. -/
def path : Endpoint → String
  | metrics => "/metrics"
  | health => "/healthz"
  | configuration => "/debug/config"

/-- The endpoint of a path. -/
def ofPath? (s : String) : Option Endpoint :=
  [metrics, health, configuration].find? (·.path == s)

/-- The answer with a text of a type. -/
def textResponse (type content : String) : HttpResponse :=
  ⟨200, [("content-type", type), ("content-length", toString content.utf8ByteSize)], .text content⟩

/-- The whole answer of an endpoint. -/
def respond (r : Registry) (s : Snapshot) : Endpoint → Registry × HttpResponse
  | metrics =>
    let (r, lines) := r.expose
    (r, ⟨200, [("content-type", "text/plain; version=0.0.4; charset=utf-8")], .exposition lines⟩)
  | health => (r, textResponse "text/plain; charset=utf-8" "ok")
  | configuration => (r, textResponse "application/json" s.json.render)

/-- There is nothing at a path. -/
def notFound : HttpResponse := ⟨404, [], .text ""⟩

/-- There is something at a path, and the method is not for it. -/
def methodNotAllowed : HttpResponse := ⟨405, [("allow", "GET,HEAD")], .text ""⟩

/-- The answer to a method and a path. -/
def serve (r : Registry) (s : Snapshot) (method path : String) : Registry × HttpResponse :=
  match ofPath? path with
  | none => (r, notFound)
  | some endpoint =>
    if method = "GET" then endpoint.respond r s
    else if method = "HEAD" then
      let (r, response) := endpoint.respond r s
      (r, { response with body := response.body.cleared })
    else (r, methodNotAllowed)

end Endpoint

end ClusterAgent
