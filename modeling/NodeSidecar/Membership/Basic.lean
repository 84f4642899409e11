/-
**The ring of a node.**

A ring is known by its autoscaling group; its members reach each other through a security group.

Main definitions:

* `MembershipSettings` — the names of both, the region, and the availability zones;
* `Snapshot` — the live members of a ring and its capacity;
* `liveMembers`, `totalCapacity` — both read off the groups of a ring;
* `MembershipError` — how an operation on the ring fails, with its wording.
-/

import NodeSidecar.Cloud.Basic

set_option autoImplicit false

namespace NodeSidecar

/-- The identity of a node's ring. -/
structure MembershipSettings where
  ringName : String
  rac : Option String
  racs : List String
  aclGroupName : String
  dc : String
  deriving DecidableEq

namespace MembershipSettings

/-- The endpoint for autoscaling groups. -/
def autoscalingEndpoint (s : MembershipSettings) : String :=
  "autoscaling." ++ s.dc ++ ".amazonaws.com"

/-- The endpoint for security groups. -/
def ec2Endpoint (s : MembershipSettings) : String := "ec2." ++ s.dc ++ ".amazonaws.com"

/-- The number of availability zones. -/
def zoneCount (s : MembershipSettings) : Nat := s.racs.length

end MembershipSettings

/-- How an operation on the ring fails. -/
inductive MembershipError where
  | cloud (error : CloudError)
  | groupNotFound (name : String)
  deriving DecidableEq

/-- The failure in words. -/
def MembershipError.message : MembershipError → String
  | .cloud error => "cloud provider error: " ++ error.message
  | .groupNotFound name => "autoscaling group not found: " ++ name

/-- The sum of two sizes, or the greatest size if that is less. -/
def addSize (a b : UInt32) : UInt32 :=
  if a.toNat + b.toNat < 4294967296 then a + b else 4294967295

theorem toNat_addSize (a b : UInt32) :
    (addSize a b).toNat = min 4294967295 (a.toNat + b.toNat) := by
  unfold addSize
  split
  · rw [UInt32.toNat_add]; omega
  · next h => rw [Nat.min_eq_left (by omega)]; rfl

/-- The identifiers of the instances that are not leaving, in the order of the groups. -/
def liveMembers (groups : List AutoScalingGroup) : List String :=
  ((groups.flatMap AutoScalingGroup.instances).filter fun i => !i.isTerminal).map
    GroupInstance.instanceId

/-- The sum of the greatest sizes, or the greatest size if that is less. -/
def totalCapacity (groups : List AutoScalingGroup) : UInt32 :=
  groups.foldl (fun sum g => addSize sum g.maxSize) 0

/-- The live members of a ring and its capacity. -/
structure Snapshot where
  members : List String
  capacity : UInt32
  deriving DecidableEq

namespace Snapshot

/-- The snapshot of the groups of a ring. -/
def ofGroups (groups : List AutoScalingGroup) : Snapshot :=
  ⟨liveMembers groups, totalCapacity groups⟩

/-- The number of live members. -/
def memberCount (s : Snapshot) : Nat := s.members.length

/-- Whether the ring has fewer live members than it may have. -/
def belowCapacity (s : Snapshot) : Bool := decide (s.memberCount < s.capacity.toNat)

end Snapshot

end NodeSidecar
