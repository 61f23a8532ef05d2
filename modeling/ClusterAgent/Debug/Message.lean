/-
Requests and answers as they are sent.

* `HttpRequest.ofHead?` — the method and the path from the head of a request;
* `HttpRequest.hasHead` — whether the head has arrived as a whole;
* `HttpResponse.encode` — an answer as text, after which the connection ends.
-/
import ClusterAgent.Debug.Endpoint
import ClusterAgent.Net.Status
import ClusterAgent.Net.Uri

namespace ClusterAgent

/-- What is asked for, and how. -/
structure HttpRequest where
  method : String
  path : String
deriving DecidableEq

namespace HttpRequest

/-- The blank line after a head. -/
def headEnd : String := "\r\n\r\n"

/-- Whether the head of a request has arrived as a whole. -/
def hasHead (received : String) : Bool := (received.splitOn headEnd).length > 1

/-- The request of a head: its first line names method, target and version. -/
def ofHead? (head : String) : Option HttpRequest :=
  match ((head.splitOn "\r\n").headD "").splitOn " " with
  | [method, target, version] =>
    if version.startsWith "HTTP/1." then
      (Uri.parse target).toOption.map fun uri => ⟨method, uri.path⟩
    else none
  | _ => none

end HttpRequest

namespace HttpResponse

/-- The text of a body. -/
def content (r : HttpResponse) : String :=
  match r.body with
  | .text s => s
  | .exposition lines => String.join (lines.map (· ++ "\n"))

/-- The request could not be read. -/
def badRequest : HttpResponse := ⟨400, [], .text ""⟩

/-- The line that tells how the request went. -/
def statusLine (r : HttpResponse) : String :=
  "HTTP/1.1 " ++ if r.status = 200 then "200 OK" else Status.text r.status

/-- An answer as it is sent. The length is told unless it was before. -/
def encode (r : HttpResponse) : String :=
  let length :=
    if r.headers.any (·.1 == "content-length") then []
    else [("content-length", toString r.content.utf8ByteSize)]
  let headers := r.headers ++ length ++ [("connection", "close")]
  let lines := r.statusLine :: headers.map fun (name, value) => name ++ ": " ++ value
  "\r\n".intercalate lines ++ HttpRequest.headEnd ++ r.content

end HttpResponse

end ClusterAgent
