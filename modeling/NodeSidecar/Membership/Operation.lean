/-
**Operations on the ring.**

Each operation opens a client, carries out its plan, and releases the client whatever the result;
what it reports of its success comes after the release.  An operation with nothing to do opens no
client.

A change of permissions is first asked for as a whole.  If that is refused because part of it is
settled already, it is asked for again for each address range, and those that are settled are
passed over.

Main definitions:

* `Operation`, `Operation.run` — an operation, and its run against a provider;
* `Membership.members`, `capacity`, `snapshot`, `listIngress`, `changeIngress`, `expandBy` — the
  operations.
-/

import NodeSidecar.Cloud.Plan
import NodeSidecar.Membership.Basic

set_option autoImplicit false

namespace NodeSidecar

/-- An operation: its result is settled without a client, or it is a plan for a client of the given
endpoint, with the reports that follow its success. -/
inductive Operation (α : Type) where
  | settled (result : α)
  | leased (endpoint : String) (plan : Plan (Except MembershipError α)) (success : List LogLine)

/-- Whether a result is a success. -/
def succeeded {ε α : Type} : Except ε α → Bool
  | .ok _ => true
  | .error _ => false

/-- Runs an operation. -/
def Operation.run {α : Type} (op : Operation α) (c : Cloud) : Except MembershipError α × Cloud :=
  match op with
  | settled a => (.ok a, c)
  | leased endpoint plan success =>
    match c.open endpoint with
    | (.error e, c) => (.error (.cloud e), c)
    | (.ok lease, c) =>
      let (result, c) := plan.run c
      let c := c.finish lease (succeeded result)
      (result, if succeeded result then success.foldl Cloud.report c else c)

namespace Membership

/-- The groups of the ring, turned into a result. -/
def ringPlan {α : Type} (s : MembershipSettings) (view : List AutoScalingGroup → α) :
    Plan (Except MembershipError α) :=
  .describeGroups [s.ringName] fun
    | .ok groups => .done (.ok (view groups))
    | .error e => .done (.error (.cloud e))

/-- The live members of the ring. -/
def members (s : MembershipSettings) : Operation (List String) :=
  .leased s.autoscalingEndpoint (ringPlan s liveMembers) [.info "Queried ring membership"]

/-- The capacity of the ring. -/
def capacity (s : MembershipSettings) : Operation UInt32 :=
  .leased s.autoscalingEndpoint (ringPlan s totalCapacity) []

/-- Members and capacity of the ring at one moment. -/
def snapshot (s : MembershipSettings) : Operation Snapshot :=
  .leased s.autoscalingEndpoint (ringPlan s .ofGroups) []

/-- The address ranges that rules of exactly these ports allow. -/
def allowedRanges (groups : List SecurityGroup) (fromPort toPort : UInt16) : CidrSet :=
  .ofList (((groups.flatMap SecurityGroup.permissions).filter fun r =>
    r.matchesRange fromPort toPort).flatMap fun r => r.cidrs.elements)

/-- The address ranges allowed on exactly these ports. -/
def listIngress (s : MembershipSettings) (fromPort toPort : UInt16) : Operation CidrSet :=
  .leased s.ec2Endpoint
    (.describeSecurityGroups [s.aclGroupName] fun
      | .ok groups => .done (.ok (allowedRanges groups fromPort toPort))
      | .error e => .done (.error (.cloud e)))
    []

/-- Whether a failure says that a change is settled already. -/
def alreadySettled : IngressChange → CloudError → Bool
  | .authorize, .duplicatePermission _ => true
  | .revoke, .permissionNotFound _ => true
  | _, _ => false

/-- Asks for a change for one address range after the other. -/
def changeEach (change : IngressChange) (group : String) (fromPort toPort : UInt16) :
    List String → Plan (Except MembershipError Unit)
  | [] => .done (.ok ())
  | cidr :: cidrs =>
    .changeIngress change group (.tcp (.singleton cidr) fromPort toPort) fun
      | .ok () => changeEach change group fromPort toPort cidrs
      | .error e =>
        if alreadySettled change e then changeEach change group fromPort toPort cidrs
        else .done (.error (.cloud e))

/-- Asks for a change as a whole, and for each address range if part of it is settled. -/
def changePlan (change : IngressChange) (group : String) (cidrs : CidrSet)
    (fromPort toPort : UInt16) : Plan (Except MembershipError Unit) :=
  .changeIngress change group (.tcp cidrs fromPort toPort) fun
    | .ok () => .done (.ok ())
    | .error e =>
      if alreadySettled change e then
        if 1 < cidrs.elements.length then changeEach change group fromPort toPort cidrs.elements
        else .report (.info "ACL already in requested state") (.done (.ok ()))
      else .done (.error (.cloud e))

/-- Changes the permissions for a range of ports. -/
def changeIngress (s : MembershipSettings) (change : IngressChange) (cidrs : CidrSet)
    (fromPort toPort : UInt16) : Operation Unit :=
  if cidrs.isEmpty then .settled ()
  else
    .leased s.ec2Endpoint (changePlan change s.aclGroupName cidrs fromPort toPort)
      [.info "Updated ACL"]

/-- Allows TCP from the given address ranges. -/
def addIngress (s : MembershipSettings) (cidrs : List String) (fromPort toPort : UInt16) :
    Operation Unit :=
  changeIngress s .authorize (.ofList cidrs) fromPort toPort

/-- Allows TCP from the given address ranges no longer. -/
def removeIngress (s : MembershipSettings) (cidrs : List String) (fromPort toPort : UInt16) :
    Operation Unit :=
  changeIngress s .revoke (.ofList cidrs) fromPort toPort

/-- The limits of a group grown by `count`. -/
def grown (g : AutoScalingGroup) (count : UInt32) : CapacityUpdate :=
  ⟨g.name, addSize g.minSize count, addSize g.maxSize count, addSize g.desiredCapacity count⟩

/-- Grows the first group of the ring. -/
def expandPlan (s : MembershipSettings) (count : UInt32) : Plan (Except MembershipError Unit) :=
  .describeGroups [s.ringName] fun
    | .error e => .done (.error (.cloud e))
    | .ok [] => .done (.error (.groupNotFound s.ringName))
    | .ok (g :: _) =>
      .updateGroup (grown g count) fun
        | .error e => .done (.error (.cloud e))
        | .ok () => .report (.info "Expanded ring capacity") (.done (.ok ()))

/-- Grows the ring by a number of instances. -/
def expandBy (s : MembershipSettings) (count : UInt32) : Operation Unit :=
  if count = 0 then .settled () else .leased s.autoscalingEndpoint (expandPlan s count) []

end Membership

end NodeSidecar
