/-
**Cloud types in documents.**

The JSON form of groups and rules, and their decoders over any format.  A rule without a protocol
is one for TCP; a group without instances or permissions has none.
-/

import NodeSidecar.Cloud.Basic
import NodeSidecar.Decode.Format

set_option autoImplicit false

namespace NodeSidecar

open Decode

variable {δ : Type}

/-- A number of 16 bits. -/
def Decode.port (f : Format δ) (d : δ) : Decoded UInt16 :=
  (f.unsigned 65535 "u16" d).map UInt16.ofNat

/-- A number of 32 bits. -/
def Decode.size (f : Format δ) (d : δ) : Decoded UInt32 :=
  (f.unsigned 4294967295 "u32" d).map UInt32.ofNat

/-- A number of 64 bits. -/
def Decode.amount (f : Format δ) (d : δ) : Decoded UInt64 :=
  (f.unsigned 18446744073709551615 "u64" d).map UInt64.ofNat

/-- The JSON form of an instance. -/
def GroupInstance.toJson (i : GroupInstance) : Json :=
  .object [("instance_id", .str i.instanceId), ("lifecycle_state", .str i.lifecycleState)]

/-- Decodes an instance. -/
def GroupInstance.decode (f : Format δ) (d : δ) : Decoded GroupInstance :=
  let instanceId : Field δ String := ⟨"instance_id", f.text, none⟩
  let lifecycleState : Field δ String := ⟨"lifecycle_state", f.text, none⟩
  record f "GroupInstance" [instanceId.slot, lifecycleState.slot] d fun found => do
    return ⟨← instanceId.get found, ← lifecycleState.get found⟩

/-- The JSON form of an autoscaling group. -/
def AutoScalingGroup.toJson (g : AutoScalingGroup) : Json :=
  .object [("name", .str g.name), ("min_size", .ofNat g.minSize.toNat),
    ("max_size", .ofNat g.maxSize.toNat), ("desired_capacity", .ofNat g.desiredCapacity.toNat),
    ("instances", .arr (g.instances.map GroupInstance.toJson))]

/-- Decodes an autoscaling group. -/
def AutoScalingGroup.decode (f : Format δ) (d : δ) : Decoded AutoScalingGroup :=
  let name : Field δ String := ⟨"name", f.text, none⟩
  let minSize : Field δ UInt32 := ⟨"min_size", size f, none⟩
  let maxSize : Field δ UInt32 := ⟨"max_size", size f, none⟩
  let desired : Field δ UInt32 := ⟨"desired_capacity", size f, none⟩
  let instances : Field δ (List GroupInstance) :=
    ⟨"instances", list f (GroupInstance.decode f), some []⟩
  record f "AutoScalingGroup"
    [name.slot, minSize.slot, maxSize.slot, desired.slot, instances.slot] d fun found => do
      return ⟨← name.get found, ← minSize.get found, ← maxSize.get found, ← desired.get found,
        ← instances.get found⟩

/-- The JSON form of a rule. -/
def IngressRule.toJson (r : IngressRule) : Json :=
  .object [("protocol", .str r.protocol), ("from_port", .ofNat r.fromPort.toNat),
    ("to_port", .ofNat r.toPort.toNat), ("cidrs", .ofStrings r.cidrs.elements)]

/-- Decodes a rule. -/
def IngressRule.decode (f : Format δ) (d : δ) : Decoded IngressRule :=
  let protocol : Field δ String := ⟨"protocol", f.text, some defaultProtocol⟩
  let fromPort : Field δ UInt16 := ⟨"from_port", port f, none⟩
  let toPort : Field δ UInt16 := ⟨"to_port", port f, none⟩
  let cidrs : Field δ CidrSet := ⟨"cidrs", fun d => (list f f.text d).map .ofList, none⟩
  record f "IngressRule" [protocol.slot, fromPort.slot, toPort.slot, cidrs.slot] d fun found => do
    return ⟨← protocol.get found, ← fromPort.get found, ← toPort.get found, ← cidrs.get found⟩

/-- The JSON form of a security group. -/
def SecurityGroup.toJson (g : SecurityGroup) : Json :=
  .object [("name", .str g.name), ("permissions", .arr (g.permissions.map IngressRule.toJson))]

/-- Decodes a security group. -/
def SecurityGroup.decode (f : Format δ) (d : δ) : Decoded SecurityGroup :=
  let name : Field δ String := ⟨"name", f.text, none⟩
  let permissions : Field δ (List IngressRule) :=
    ⟨"permissions", list f (IngressRule.decode f), some []⟩
  record f "SecurityGroup" [name.slot, permissions.slot] d fun found => do
    return ⟨← name.get found, ← permissions.get found⟩

end NodeSidecar
