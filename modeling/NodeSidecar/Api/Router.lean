/-
**The interface over HTTP.**

Each path has one method.  A path that answers GET answers HEAD alike, without the body.  OPTIONS
is answered everywhere, with the methods of the path if there are any; another method is refused.

Main definitions:

* `Api.Route`, `Api.route?` — the paths;
* `Api.aclPorts` — the ports that the query for permissions gives;
* `Api.serve` — the answer of a route;
* `Api.handle` — the answer to a request.
-/

import NodeSidecar.Api.Response
import NodeSidecar.Api.Target
import NodeSidecar.Node

set_option autoImplicit false

namespace NodeSidecar.Api

/-- The version of the sidecar. -/
def version : String := "0.1.0"

/-- What can be asked for. -/
inductive Route where
  | health
  | process
  | ring
  | acl
  | schedulerState
  | tasks
  | pause
  | resume
  /-- Triggers the task of a name, as written in the path. -/
  | trigger (name : String)
  deriving DecidableEq, Repr

/-- Whether a route is read and changes nothing. -/
def Route.isRead : Route → Bool
  | .pause | .resume | .trigger _ => false
  | _ => true

/-- The methods of a route. -/
def Route.methods (r : Route) : String := if r.isRead then "GET,HEAD" else "POST"

/-- The route of a path.  The segment of a name may be empty, as the name of a task may be:
`/api/tasks//trigger` triggers the task whose name is the empty text. -/
def route? : List String → Option Route
  | ["api", "health"] => some .health
  | ["api", "process"] => some .process
  | ["api", "ring"] => some .ring
  | ["api", "acl"] => some .acl
  | ["api", "scheduler", "state"] => some .schedulerState
  | ["api", "scheduler", "pause"] => some .pause
  | ["api", "scheduler", "resume"] => some .resume
  | ["api", "tasks"] => some .tasks
  | ["api", "tasks", name, "trigger"] => some (.trigger name)
  | _ => none

/-- Why a query does not give two ports. -/
inductive QueryFault where
  | badPort (field : String) (fault : PortFault)
  | duplicate (field : String)
  | missing (field : String)
  deriving DecidableEq, Repr

/-- The fault in words. -/
def QueryFault.message : QueryFault → String
  | .badPort field fault => field ++ ": " ++ fault.message
  | .duplicate field => "duplicate field `" ++ field ++ "`"
  | .missing field => "missing field `" ++ field ++ "`"

/-- Reads the two ports from names and values in order; `first` and `last` have been read. -/
def portsFrom : Option UInt16 → Option UInt16 → List (String × String) →
    Except QueryFault (UInt16 × UInt16)
  | none, _, [] => .error (.missing "from_port")
  | some _, none, [] => .error (.missing "to_port")
  | some first, some last, [] => .ok (first, last)
  | first, last, (name, value) :: rest =>
    let read (seen : Option UInt16) : Except QueryFault UInt16 :=
      if seen.isSome then .error (.duplicate name)
      else (readPort value).mapError (.badPort name)
    if name = "from_port" then
      match read first with
      | .ok port => portsFrom (some port) last rest
      | .error e => .error e
    else if name = "to_port" then
      match read last with
      | .ok port => portsFrom first (some port) rest
      | .error e => .error e
    else portsFrom first last rest

/-- The first and the last port that a query gives. -/
def aclPorts (query : String) : Except QueryFault (UInt16 × UInt16) :=
  portsFrom none none (queryPairs query)

/-- A response that tells of something done. -/
def told (text : String) : Response := .json 200 (.object [("message", .str text)])

/-- A response that tells of a fire that was triggered. -/
def triggered (name : String) (id : FireId) : Response :=
  .json 200 (.object [("task", .str name), ("fire_id", .str id.text),
    ("message", .str ("task '" ++ name ++ "' triggered"))])

/-- The response to the answer to a trigger. -/
def triggerView (name : String) : Reply → Response
  | .fired id => triggered name id
  | _ => told ""

/-- Gives the scheduler a command; an answer other than a failure is turned into a response. -/
def commanded (n : Node) (c : Command) (view : Reply → Response) : Response × Node :=
  let (reply, n) := n.command c
  match reply with
  | .failed e => ((ApiError.ofScheduler e).response, n)
  | reply => (view reply, n)

/-- What is told of the address ranges that are allowed on the ports. -/
def permissionsJson (first last : UInt16) (cidrs : CidrSet) : Json :=
  .object [("from_port", .ofNat first.toNat), ("to_port", .ofNat last.toNat),
    ("cidrs", .ofStrings cidrs.elements)]

/-- Runs an operation on the ring; its result is turned into a response. -/
def operated {α : Type} (n : Node) (op : Operation α) (view : α → Json) : Response × Node :=
  let (r, n) := n.operate op
  match r with
  | .ok a => (.json 200 (view a), n)
  | .error e => ((ApiError.ofMembership e).response, n)

/-- The answer of a route. -/
def serve (n : Node) (query : String) : Route → Response × Node
  | .health => (.json 200 (.object [("status", .str "ok"), ("version", .str version)]), n)
  | .process =>
    (.json 200 (.object [("process_name", .str n.processName), ("running", .bool n.healthy)]), n)
  | .ring =>
    operated n (Membership.snapshot n.settings) fun s =>
      .object [("ring_name", .str n.settings.ringName), ("members", .ofStrings s.members),
        ("member_count", .ofNat s.memberCount), ("capacity", .ofNat s.capacity.toNat),
        ("zone_count", .ofNat n.settings.zoneCount)]
  | .acl =>
    match aclPorts query with
    | .error f => (.plain 400 ("Failed to deserialize query string: " ++ f.message), n)
    | .ok (first, last) =>
      if last < first then
        ((ApiError.badRequest ("from_port " ++ toString first ++ " is greater than to_port " ++
          toString last)).response, n)
      else
        operated n (Membership.listIngress n.settings first last) (permissionsJson first last)
  | .schedulerState => (.json 200 n.loop.state.toJson, n)
  | .tasks =>
    commanded n .tasks fun
      | .statuses tasks =>
        .json 200 (.object [("tasks", .arr (tasks.map TaskStatus.toJson)),
          ("count", .ofNat tasks.length)])
      | _ => told ""
  | .pause => commanded n .pause fun _ => told "scheduler paused"
  | .resume => commanded n .resume fun _ => told "scheduler resumed"
  | .trigger written =>
    match Text.ofUtf8 (percentDecoded (Text.utf8Bytes written)) with
    | .error _ => (.plain 400 "Invalid URL: Invalid UTF-8 in `name`", n)
    | .ok name =>
      commanded n (.trigger name) (triggerView name)

/-- The answer to a request, and the node after it. -/
def handle (n : Node) (method uri : String) : Response × Node :=
  let target := Target.ofText uri
  let route? := route? target.segments
  if method = "OPTIONS" then ({ status := 200, allow := route?.map Route.methods }, n)
  else
    match route? with
    | none => ({ status := 404 }, n)
    | some route =>
      if route.isRead ∧ method = "HEAD" then
        let (r, n) := serve n target.query route
        (r.withoutBody, n)
      else if method = (if route.isRead then "GET" else "POST") then serve n target.query route
      else ({ status := 405, allow := some route.methods }, n)

end NodeSidecar.Api
