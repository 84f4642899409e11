/-
**What a cloud provider manages.**

Autoscaling groups with their instances, and security groups with their ingress permissions.  A
permission opens a range of ports to a set of address ranges.

Main definitions:

* `GroupInstance`, `AutoScalingGroup` — the instances of a ring and the limits of its size;
* `IngressRule`, `SecurityGroup` — permissions and their groups;
* `CapacityUpdate` — new limits for a group;
* `CloudError` — how a provider fails, with its wording.
-/

import NodeSidecar.Cloud.CidrSet

set_option autoImplicit false

namespace NodeSidecar

/-- An instance and where it stands in its life. -/
structure GroupInstance where
  instanceId : String
  lifecycleState : String
  deriving DecidableEq

/-- The states of an instance that is leaving or gone. -/
def terminalStates : List String := ["terminating", "shutting-down", "terminated"]

/-- Whether an instance is leaving or gone; the case of ASCII letters does not matter. -/
def GroupInstance.isTerminal (i : GroupInstance) : Bool :=
  terminalStates.contains i.lifecycleState.toLower

/-- A group of instances with the limits of its size. -/
structure AutoScalingGroup where
  name : String
  minSize : UInt32
  maxSize : UInt32
  desiredCapacity : UInt32
  instances : List GroupInstance
  deriving DecidableEq

/-- New limits for a group. -/
structure CapacityUpdate where
  groupName : String
  minSize : UInt32
  maxSize : UInt32
  desiredCapacity : UInt32
  deriving DecidableEq

/-- A permission to reach a range of ports. -/
structure IngressRule where
  protocol : String
  fromPort : UInt16
  toPort : UInt16
  cidrs : CidrSet
  deriving DecidableEq

namespace IngressRule

/-- The protocol of a rule that names none. -/
def defaultProtocol : String := "tcp"

/-- The TCP rule for a range of ports. -/
def tcp (cidrs : CidrSet) (fromPort toPort : UInt16) : IngressRule :=
  ⟨defaultProtocol, fromPort, toPort, cidrs⟩

/-- Whether a rule covers exactly this range of ports. -/
def matchesRange (r : IngressRule) (fromPort toPort : UInt16) : Bool :=
  r.fromPort == fromPort && r.toPort == toPort

/-- Whether two rules have one protocol and one range of ports. -/
def sameSlot (a b : IngressRule) : Bool :=
  a.protocol == b.protocol && a.matchesRange b.fromPort b.toPort

/-- The range of ports in words. -/
def rangeText (r : IngressRule) : String := toString r.fromPort ++ "-" ++ toString r.toPort

end IngressRule

/-- A security group and its permissions. -/
structure SecurityGroup where
  name : String
  permissions : List IngressRule
  deriving DecidableEq

/-- How a provider fails. -/
inductive CloudError where
  /-- The permission to be added is there already. -/
  | duplicatePermission (text : String)
  /-- The permission to be removed is not there. -/
  | permissionNotFound (text : String)
  /-- The named group is not there. -/
  | groupNotFound (name : String)
  /-- The provider reports an error of its own. -/
  | api (code message : String)
  /-- The request did not reach the provider. -/
  | transport (text : String)
  /-- The state of the provider cannot be trusted. -/
  | lockPoisoned
  deriving DecidableEq

/-- The failure in words. -/
def CloudError.message : CloudError → String
  | .duplicatePermission text => "duplicate permission: " ++ text
  | .permissionNotFound text => "permission not found: " ++ text
  | .groupNotFound name => "group not found: " ++ name
  | .api code message => code ++ ": " ++ message
  | .transport text => "transport error: " ++ text
  | .lockPoisoned => "provider lock poisoned"

/-- The name of the kind of failure. -/
def CloudError.kind : CloudError → String
  | .duplicatePermission _ => "DuplicatePermission"
  | .permissionNotFound _ => "PermissionNotFound"
  | .groupNotFound _ => "GroupNotFound"
  | .api _ _ => "Api"
  | .transport _ => "Transport"
  | .lockPoisoned => "LockPoisoned"

end NodeSidecar
