import HostBindings.Json.Use
import HostBindings.Text.LowerCase

/-!
# Answers from the web

What a request for a web address can give: a response, or a failure of the request. Requests
themselves are not made here: the web is a function from addresses to answers.

## Main definitions

* `Web.Response`, `Response.header` — a response, and its headers by name
* `Web.RequestFault` — failures of requests
* `Web.Lookup` — the web as a function
-/

namespace HostBindings.Web

/-- A response. -/
structure Response where
  /-- The status code. -/
  status : Nat := 200
  /-- The headers, by name in any letter case. A value that is no text is a fault where it is
  read. -/
  headers : List (String × Json) := []
  /-- The body. -/
  body : String := ""
  deriving DecidableEq

/-- A failure of a request, with what is said about it. -/
inductive RequestFault where
  /-- The answer took too long. -/
  | timeout (reason : String)
  /-- There was no connection. -/
  | connection (reason : String)
  /-- A response of failure is spoken of, but none is there. -/
  | noResponse
  /-- Any other failure that requests are known to have. -/
  | other (reason : String)
  /-- A failure of another kind. -/
  | stray (reason : String)
  deriving DecidableEq, Repr

/-- The web: the answer for each address. -/
abbrev Lookup := String → Except RequestFault Response

/-- A web without any connection. -/
def offline : Lookup := fun _ => .error (.connection "no connection")

namespace Response

/-- The value of a header, in lower case; of several with one name the last counts. Empty if there
is none. -/
def header (response : Response) (name : String) : Except UseFault String :=
  let key := Text.lowerCase name
  match response.headers.reverse.find? fun header => Text.lowerCase header.1 == key with
  | some (_, value) => (value.textFor "lower").map Text.lowerCase
  | none => .ok ""

/-- Whether the status is one of failure. -/
def isFailure (response : Response) : Bool :=
  400 ≤ response.status && response.status < 600

end Response

end HostBindings.Web
