/-
Conversations with the control plane.

A `Plan` is either done or asks for a path and goes on by what is answered.  It
sends nothing itself, so the same plan can be run against given answers at once
or step by step with waits in between.

* `Plan.run` — a plan against given answers, with what it asked for;
* `Inquiry` — a plan that may fail;
* `Inquiry.get` — ask for a path and take the text of the answer.
-/
import ClusterAgent.Client.Fault
import ClusterAgent.Json.Reader
import ClusterAgent.Net.Status
import ClusterAgent.Net.Uri

namespace ClusterAgent

/-- What comes of a request. -/
inductive Fetched where
  | response (status : Nat) (body : String)
  | failure (cause : String)

/-- What is asked next, by what was answered. -/
inductive Plan (β : Type) where
  | done (result : β)
  | ask (path : String) (resume : Fetched → Plan β)

namespace Plan

variable {β γ : Type}

/-- Go on with the result of a plan. -/
def bind : Plan β → (β → Plan γ) → Plan γ
  | done result, next => next result
  | ask path resume, next => ask path fun answer => (resume answer).bind next

instance : Monad Plan where
  pure := done
  bind := bind

/-- The result of a plan against given answers, after what it asked for. -/
def run (answer : String → Fetched) : Plan β → List (String × Fetched) × β
  | done result => ([], result)
  | ask path resume =>
    let (asked, result) := (resume (answer path)).run answer
    ((path, answer path) :: asked, result)

end Plan

/-- A plan that may fail. -/
abbrev Inquiry := ExceptT ClientFault Plan

/-- The error in the body of a response, if it can be read: an object or a list
of its parts. -/
def ApiStatus.ofJson? (v : Json) : Option ApiStatus := do
  let mostCode := 65535
  match v with
  | .object fs =>
    let only (name : String) : Bool := (fs.filter (·.1 == name)).length ≤ 1
    if ["status", "message", "reason", "code"].any (! only ·) then none
    else
      let textOf (name : String) : Option String := match fs.lookup name with
        | some v => v.text?
        | none => some ""
      return {
        status := ← (fs.lookup "status").bind Json.text?
        message := ← textOf "message"
        reason := ← textOf "reason"
        code := ← (fs.lookup "code").bind (Json.natural? mostCode) }
  | .array [status, message, reason, code] =>
    return {
      status := ← status.text?
      message := ← message.text?
      reason := ← reason.text?
      code := ← code.natural? mostCode }
  | _ => none

/-- The error that a response tells of. -/
def ApiStatus.ofResponse (code : Nat) (body : String) : ApiStatus :=
  (Json.parse? body >>= ofJson?).getD
    ⟨Status.text code, Text.quote body, "Failed to parse error data", code⟩

/-- The text of an answer that tells of no error. -/
def Fetched.text : Fetched → Except ClientFault String
  | .response status body =>
    if Status.isError status then .error (.api (ApiStatus.ofResponse status body)) else .ok body
  | .failure cause => .error (.service cause)

namespace Inquiry

/-- Ask for a path and take the text of the answer. -/
def get (path : String) : Inquiry String :=
  match Uri.parse path with
  | .ok _ => ExceptT.mk (Plan.ask path fun answer => Plan.done answer.text)
  | .error fault => throw (.request fault.message)

/-- Ask for a path and read the answer. -/
def read {α : Type} (path : String) (ofJson? : Json → Option α) : Inquiry α := do
  match Json.parse? (← get path) >>= ofJson? with
  | some value => return value
  | none => throw .malformed

end Inquiry

end ClusterAgent
