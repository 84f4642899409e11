/-
**The state of a provider held in memory.**

The store keeps its groups in the order in which they were added.  A name may occur more than once;
an operation on a group means the first of its name.

A permission request is settled or refused as a whole.  Adding a rule joins its address ranges to
the first rule with the same protocol and ports, or puts a new rule at the end; it is refused when
one of the ranges is there already.  Removing a rule takes its address ranges out of that rule,
which goes when none is left; it is refused unless all of them are there.

Main definitions:

* `Store` — the state;
* `authorizeIn`, `revokeIn` — the change of a list of permissions;
* `Store.describeGroups`, `updateGroup`, `authorize`, `revoke`, `describeSecurityGroups` — the
  requests.
-/

import NodeSidecar.Cloud.Basic

set_option autoImplicit false

namespace NodeSidecar

/-- The groups that a provider manages. -/
structure Store where
  groups : List AutoScalingGroup
  securityGroups : List SecurityGroup
  deriving DecidableEq, Inhabited

/-- Adds the address ranges of a rule to a list of permissions. -/
def authorizeIn (r : IngressRule) : List IngressRule → Except CloudError (List IngressRule)
  | [] => .ok [r]
  | p :: ps =>
    if p.sameSlot r then
      match r.cidrs.firstIn? p.cidrs with
      | some c => .error (.duplicatePermission (c ++ " " ++ r.rangeText))
      | none => .ok ({ p with cidrs := p.cidrs.union r.cidrs } :: ps)
    else (authorizeIn r ps).map (p :: ·)

/-- Removes the address ranges of a rule from a list of permissions. -/
def revokeIn (r : IngressRule) : List IngressRule → Except CloudError (List IngressRule)
  | [] => .error (.permissionNotFound r.rangeText)
  | p :: ps =>
    if p.sameSlot r then
      if r.cidrs.subset p.cidrs then
        let left := p.cidrs.diff r.cidrs
        .ok (if left.isEmpty then ps else { p with cidrs := left } :: ps)
      else .error (.permissionNotFound r.rangeText)
    else (revokeIn r ps).map (p :: ·)

/-- Changes the permissions of the first security group of a name. -/
def changePermissions (name : String)
    (change : List IngressRule → Except CloudError (List IngressRule)) :
    List SecurityGroup → Except CloudError (List SecurityGroup)
  | [] => .error (.groupNotFound name)
  | g :: gs =>
    if g.name = name then (change g.permissions).map fun ps => { g with permissions := ps } :: gs
    else (changePermissions name change gs).map (g :: ·)

/-- Sets the limits of the first autoscaling group of a name. -/
def resizeIn (u : CapacityUpdate) :
    List AutoScalingGroup → Except CloudError (List AutoScalingGroup)
  | [] => .error (.groupNotFound u.groupName)
  | g :: gs =>
    if g.name = u.groupName then
      .ok ({ g with
        minSize := u.minSize, maxSize := u.maxSize, desiredCapacity := u.desiredCapacity } :: gs)
    else (resizeIn u gs).map (g :: ·)

namespace Store

/-- The first autoscaling group of a name. -/
def group? (s : Store) (name : String) : Option AutoScalingGroup :=
  s.groups.find? fun g => g.name == name

/-- The first security group of a name. -/
def securityGroup? (s : Store) (name : String) : Option SecurityGroup :=
  s.securityGroups.find? fun g => g.name == name

/-- The autoscaling groups with one of the given names, in the order of the store. -/
def describeGroups (s : Store) (names : List String) : List AutoScalingGroup :=
  s.groups.filter fun g => names.contains g.name

/-- Sets the limits of a group. -/
def updateGroup (s : Store) (u : CapacityUpdate) : Except CloudError Store :=
  (resizeIn u s.groups).map fun gs => { s with groups := gs }

/-- Adds a permission to a security group. -/
def authorize (s : Store) (group : String) (r : IngressRule) : Except CloudError Store :=
  (changePermissions group (authorizeIn r) s.securityGroups).map fun gs =>
    { s with securityGroups := gs }

/-- Removes a permission from a security group. -/
def revoke (s : Store) (group : String) (r : IngressRule) : Except CloudError Store :=
  (changePermissions group (revokeIn r) s.securityGroups).map fun gs =>
    { s with securityGroups := gs }

/-- The security group of each name; unlike an autoscaling group it must be there. -/
def describeSecurityGroups (s : Store) (names : List String) :
    Except CloudError (List SecurityGroup) :=
  names.mapM fun name =>
    match s.securityGroup? name with
    | some g => .ok g
    | none => .error (.groupNotFound name)

end Store

end NodeSidecar
