/-
What can go wrong between the client and the control plane.

`ClientFault` tells the causes apart, `ClientFault.message` is the text of each.
-/
import ClusterAgent.Text.Quoted

namespace ClusterAgent

/-- The error that a control plane answers with. -/
structure ApiStatus where
  status : String
  message : String
  reason : String
  code : Nat
deriving DecidableEq

/-- Every part of a status, texts in quotes. -/
def ApiStatus.shown (s : ApiStatus) : String :=
  "ErrorResponse \x7b status: " ++ Text.quote s.status ++ ", message: " ++ Text.quote s.message ++
    ", reason: " ++ Text.quote s.reason ++ ", code: " ++ toString s.code ++ " \x7d"

/-- Why a client could not be made, or a request not be answered. -/
inductive ClientFault where
  /-- The control plane answered with an error. -/
  | api (status : ApiStatus)
  /-- A group without any version. -/
  | emptyGroup (name : String)
  /-- The answer is not what the request asks for. -/
  | malformed
  /-- The request or a header of it cannot be written. -/
  | request (cause : String)
  /-- No answer came. -/
  | service (cause : String)
  | auth
  /-- A token that cannot stand in a header. -/
  | tokenHeader
  | tls
  /-- A proxy that could be used if the feature for it were there. -/
  | proxyDisabled (proxy feature : String)
  | proxyUnsupported (proxy : String)
deriving DecidableEq

/-- The text of a fault. -/
def ClientFault.message : ClientFault → String
  | .api s => "ApiError: " ++ s.message ++ ": " ++ s.reason ++ " (" ++ s.shown ++ ")"
  | .emptyGroup name => "Error from discovery: Empty Api Group: " ++ name
  | .malformed => "Error deserializing response"
  | .request cause => "HttpError: " ++ cause
  | .service cause => "ServiceError: " ++ cause
  | .auth => "auth error"
  | .tokenHeader => "token is not valid header: InvalidHeaderValue"
  | .tls => "rustls tls error"
  | .proxyDisabled proxy feature =>
    "configured proxy " ++ proxy ++ " requires the disabled feature " ++ Text.quote feature
  | .proxyUnsupported proxy => "configured proxy " ++ proxy ++ " uses an unsupported protocol"

/-- Whether a fault leaves no way to go on. -/
def ClientFault.isFatal (f : ClientFault) : Bool := f = .tokenHeader

end ClusterAgent
