/-
**Responses of the interface over HTTP.**

Main definitions:

* `Response` — a status, headers and a body;
* `ApiError` — how a request fails, with its status, code and wording;
* `ApiError.ofScheduler`, `ApiError.ofMembership` — the failures of what lies behind.
-/

import NodeSidecar.Json.Basic
import NodeSidecar.Membership.Basic
import NodeSidecar.Scheduler.Basic

set_option autoImplicit false

namespace NodeSidecar

/-- The body of a response. -/
inductive Body where
  | text (s : String)
  | json (v : Json)

/-- A response with the headers that matter. -/
structure Response where
  status : Nat
  contentType : Option String := none
  allow : Option String := none
  body : Body := .text ""

namespace Response

/-- A response with a JSON body. -/
def json (status : Nat) (v : Json) : Response :=
  { status, contentType := some "application/json", body := .json v }

/-- A response with a plain text. -/
def plain (status : Nat) (text : String) : Response :=
  { status, contentType := some "text/plain; charset=utf-8", body := .text text }

/-- A response without its body. -/
def withoutBody (r : Response) : Response := { r with body := .text "" }

end Response

/-- How a request fails. -/
inductive ApiError where
  | badRequest (text : String)
  | notFound (text : String)
  | conflict (text : String)
  | badGateway (text : String)
  | internal (text : String)
  deriving DecidableEq, Repr

namespace ApiError

/-- The status of a failure. -/
def status : ApiError → Nat
  | badRequest _ => 400
  | notFound _ => 404
  | conflict _ => 409
  | badGateway _ => 502
  | internal _ => 500

/-- The code of a failure. -/
def code : ApiError → String
  | badRequest _ => "BAD_REQUEST"
  | notFound _ => "NOT_FOUND"
  | conflict _ => "CONFLICT"
  | badGateway _ => "CLOUD_ERROR"
  | internal _ => "INTERNAL_ERROR"

/-- A failure in words. -/
def message : ApiError → String
  | badRequest text | notFound text | conflict text | badGateway text | internal text => text

/-- The response to a request that fails. -/
def response (e : ApiError) : Response :=
  .json e.status (.object [("error", .str e.message), ("code", .str e.code)])

/-- The failure of a command. -/
def ofScheduler : SchedulerError → ApiError
  | .taskNotFound name => notFound ("task not found: " ++ name)
  | .alreadyRunning name => conflict ("task '" ++ name ++ "' is still running")
  | .duplicateTask name => conflict ("task already registered: " ++ name)
  | .channelError text => internal text

/-- The failure of an operation on the ring. -/
def ofMembership : MembershipError → ApiError
  | .groupNotFound name => notFound ("group not found: " ++ name)
  | .cloud (.groupNotFound name) => notFound ("group not found: " ++ name)
  | .cloud .lockPoisoned => internal CloudError.lockPoisoned.message
  | .cloud e => badGateway e.message

end ApiError

/-- The JSON form of a state. -/
def SchedulerState.toJson (s : SchedulerState) : Json :=
  .object [("state", .str s.name), ("is_running", .bool (s = .running)),
    ("is_paused", .bool (s = .paused))]

end NodeSidecar
