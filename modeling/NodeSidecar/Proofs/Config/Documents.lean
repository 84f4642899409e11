/-
**Documents are read back as they were written.**

Every configuration, and every cloud type that a configuration holds, is read back from its
document unchanged.  So what is read of any document can be saved: the saved document is read the
same, and saving it again changes nothing.

Some forms could stand in each other's way.  A timer with an expression has no period, so the form
that is tried first fails on it; a section that is written has all fields, so no default takes the
place of a value; ranges are written in ascending order and read as a set.

Main definitions:

* `Codec` — a type with its written form and its decoder;
* `Codec.saved` — the document that is written for what a document was read as;
* `Codec.Lossless` — what is written is read back, and saving settles after the first time.

Main results:

* `SidecarConfig.decode_toJson` and its like — one for each type;
* `documents_survive_saving` — the codecs of all types are lossless.
-/

import NodeSidecar.Config.Basic
import NodeSidecar.Proofs.Decode.Records

set_option autoImplicit false

namespace NodeSidecar

open Decode

variable {excess : Nat → Nat → Fault}

/-! ### Cloud types -/

@[simp] theorem GroupInstance.decode_toJson (i : GroupInstance) :
    decode (.ofExcess excess) (.ofJson i.toJson) = .ok i := by
  rw [toJson, decode]
  refine record_object ?_ ?_ fun found h => ?_
  · simp
  · simp
  · simp only [List.forall_mem_cons] at h
    obtain ⟨hid, hstate, -⟩ := h
    simp only [Field.get, hid, hstate, text_str]
    rfl

@[simp] theorem AutoScalingGroup.decode_toJson (g : AutoScalingGroup) :
    decode (.ofExcess excess) (.ofJson g.toJson) = .ok g := by
  have hlist : Decode.list (.ofExcess excess) (GroupInstance.decode (.ofExcess excess))
      (.ofJson (.arr (g.instances.map GroupInstance.toJson))) = .ok g.instances :=
    list_arr GroupInstance.decode_toJson _
  rw [toJson, decode]
  refine record_object ?_ ?_ fun found h => ?_
  · simp
  · simp [hlist]
  · simp only [List.forall_mem_cons] at h
    obtain ⟨hname, hmin, hmax, hdesired, hinstances, -⟩ := h
    simp only [Field.get, hname, hmin, hmax, hdesired, hinstances, hlist, text_str, size_ofNat]
    rfl

/-- An ascending list of texts is the list of its set. -/
theorem CidrSet.ofList_elements (s : CidrSet) : ofList s.elements = s := by
  refine eq_of_elements_eq ?_
  obtain ⟨cs, hascending⟩ := s
  induction cs with
  | nil => rfl
  | cons c cs ih =>
      obtain ⟨hc, hcs⟩ := List.pairwise_cons.1 hascending
      have hrest : (ofList (c :: cs)).elements = insertElement c cs :=
        congrArg (insertElement c) (ih hcs)
      rw [hrest]
      cases cs with
      | nil => rfl
      | cons d ds => exact if_pos (hc d (List.mem_cons_self ..))

@[simp] theorem IngressRule.decode_toJson (r : IngressRule) :
    decode (.ofExcess excess) (.ofJson r.toJson) = .ok r := by
  have hset : (Decode.list (.ofExcess excess) (Format.text (.ofExcess excess))
      (.ofJson (.ofStrings r.cidrs.elements))).map CidrSet.ofList = .ok r.cidrs := by
    rw [list_ofStrings]
    exact congrArg Except.ok r.cidrs.ofList_elements
  rw [toJson, decode]
  refine record_object ?_ ?_ fun found h => ?_
  · simp
  · simp [-list_ofStrings, hset]
  · simp only [List.forall_mem_cons] at h
    obtain ⟨hprotocol, hfrom, hto, hcidrs, -⟩ := h
    simp only [Field.get, hprotocol, hfrom, hto, hcidrs, hset, text_str, port_ofNat]
    rfl

@[simp] theorem SecurityGroup.decode_toJson (g : SecurityGroup) :
    decode (.ofExcess excess) (.ofJson g.toJson) = .ok g := by
  have hlist : Decode.list (.ofExcess excess) (IngressRule.decode (.ofExcess excess))
      (.ofJson (.arr (g.permissions.map IngressRule.toJson))) = .ok g.permissions :=
    list_arr IngressRule.decode_toJson _
  rw [toJson, decode]
  refine record_object ?_ ?_ fun found h => ?_
  · simp
  · simp [hlist]
  · simp only [List.forall_mem_cons] at h
    obtain ⟨hname, hpermissions, -⟩ := h
    simp only [Field.get, hname, hpermissions, hlist, text_str]
    rfl

/-! ### Sections -/

@[simp] theorem OverlapPolicy.decode_name (p : OverlapPolicy) :
    decode (.ofExcess excess) (.ofJson (.str p.name)) = .ok p := by
  cases p <;> rfl

theorem TimerSection.readInterval_toJson (ms : UInt64) :
    readInterval (.ofJson (interval ms).toJson) = .ok (.interval ms) := by
  obtain ⟨excess, hformat⟩ := exists_format_data
  have hread : ((Format.ofExcess excess).unsigned 18446744073709551615 "u64"
      (.ofJson (.ofNat ms.toNat))).map UInt64.ofNat = .ok ms := amount_ofNat ms
  rw [toJson, readInterval, hformat]
  refine record_object ?_ ?_ fun found h => ?_
  · simp
  · simp [hread]
  · simp only [List.forall_mem_cons] at h
    simp only [Field.get, h.1, hread]
    rfl

/-- The form with a period does not fit an expression. -/
theorem TimerSection.readInterval_cron (expression : String) (zone? : Option String) :
    readInterval (.ofJson (cron expression zone?).toJson) = fail (.missingField "interval_ms") := by
  obtain ⟨excess, hformat⟩ := exists_format_data
  rw [toJson, readInterval, hformat, record_object_of_unknown]
  · rfl
  · simp
  · simp [slotOf?, Field.slot]

theorem TimerSection.readCron_toJson (expression : String) (zone? : Option String) :
    readCron (.ofJson (cron expression zone?).toJson) = .ok (.cron expression zone?) := by
  obtain ⟨excess, hformat⟩ := exists_format_data
  rw [toJson, readCron, hformat]
  refine record_object ?_ ?_ fun found h => ?_
  · simp
  · simp
  · simp only [List.forall_mem_cons] at h
    obtain ⟨hcron, hzone, -⟩ := h
    simp only [Field.get, hcron, hzone, text_str, option_text]
    rfl

/-- An object gives the section of the form with a period, if it fits that. -/
theorem TimerSection.ofData_of_interval {entries : List (Data × Data)} {s : TimerSection}
    (h : readInterval (.map entries) = .ok s) : ofData? (.map entries) = some s := by
  rw [ofData?, h]

theorem TimerSection.ofData_of_cron {entries : List (Data × Data)} {failure : Failure}
    (h : readInterval (.map entries) = .error failure) :
    ofData? (.map entries) = (readCron (.map entries)).toOption := by
  rw [ofData?, h]

/-- An expression is read in the form for it, for the other one does not fit. -/
theorem TimerSection.ofData_toJson (s : TimerSection) : ofData? (.ofJson s.toJson) = some s := by
  cases s with
  | interval ms => exact ofData_of_interval (readInterval_toJson ms)
  | cron expression zone? =>
      refine (ofData_of_cron (readInterval_cron expression zone?)).trans ?_
      exact congrArg Except.toOption (readCron_toJson expression zone?)

@[simp] theorem TimerSection.decode_toJson (s : TimerSection) :
    decode (.ofExcess excess) (.ofJson s.toJson) = .ok s := by
  have hcontent : (Format.ofExcess excess).content (.ofJson s.toJson) = .ok (.ofJson s.toJson) :=
    rfl
  simp only [decode, hcontent, bind, Except.bind, s.ofData_toJson]

@[simp] theorem HealthSection.decode_toJson (s : HealthSection) :
    decode (.ofExcess excess) (.ofJson s.toJson) = .ok s := by
  rw [toJson, decode]
  refine record_object ?_ ?_ fun found h => ?_
  · simp
  · simp
  · simp only [List.forall_mem_cons] at h
    obtain ⟨htimer, hprogram, -⟩ := h
    simp only [Field.get, htimer, hprogram, TimerSection.decode_toJson, option_text]
    rfl

@[simp] theorem AuditSection.decode_toJson (s : AuditSection) :
    decode (.ofExcess excess) (.ofJson s.toJson) = .ok s := by
  rw [toJson, decode]
  refine record_object ?_ ?_ fun found h => ?_
  · simp
  · simp
  · simp only [List.forall_mem_cons] at h
    simp only [Field.get, h.1, TimerSection.decode_toJson]
    rfl

@[simp] theorem BackupSection.decode_toJson (s : BackupSection) :
    decode (.ofExcess excess) (.ofJson s.toJson) = .ok s := by
  have hpath : option (.ofExcess excess) ((Format.ofExcess excess).textAs "path string")
      (.ofJson (.ofOption .str s.directory?)) = .ok s.directory? :=
    option_ofOption (textAs_str "path string") (fun _ h => Json.noConfusion h) _
  rw [toJson, decode]
  refine record_object ?_ ?_ fun found h => ?_
  · simp
  · simp [hpath]
  · simp only [List.forall_mem_cons] at h
    simp only [Field.get, h.1, hpath]
    rfl

@[simp] theorem SchedulerSection.decode_toJson (s : SchedulerSection) :
    decode (.ofExcess excess) (.ofJson s.toJson) = .ok s := by
  rw [toJson, decode]
  refine record_object ?_ ?_ fun found h => ?_
  · simp
  · simp
  · simp only [List.forall_mem_cons] at h
    obtain ⟨hoverlap, hshutdown, htick, -⟩ := h
    simp only [Field.get, hoverlap, hshutdown, htick, OverlapPolicy.decode_name, amount_ofNat]
    rfl

@[simp] theorem ApiSection.decode_toJson (s : ApiSection) :
    decode (.ofExcess excess) (.ofJson s.toJson) = .ok s := by
  rw [toJson, decode]
  refine record_object ?_ ?_ fun found h => ?_
  · simp
  · simp
  · simp only [List.forall_mem_cons] at h
    obtain ⟨henabled, hhost, hport, -⟩ := h
    simp only [Field.get, henabled, hhost, hport, bool_bool, text_str, port_ofNat]
    rfl

/-- The groups of a cloud as members of an object. -/
def CloudSection.fields (s : CloudSection) : List (String × Json) :=
  [("groups", .arr (s.groups.map AutoScalingGroup.toJson)),
    ("security_groups", .arr (s.securityGroups.map SecurityGroup.toJson))]

theorem CloudSection.decodeFields_of_perm {s : CloudSection} {given : List (String × Json)}
    (hperm : given.Perm s.fields) : decodeFields (.map (Data.ofMembers given)) = .ok s := by
  obtain ⟨excess, hformat⟩ := exists_format_data
  have hgroups : Decode.list (.ofExcess excess) (AutoScalingGroup.decode (.ofExcess excess))
      (.ofJson (.arr (s.groups.map AutoScalingGroup.toJson))) = .ok s.groups :=
    list_arr AutoScalingGroup.decode_toJson _
  have hsecurity : Decode.list (.ofExcess excess) (SecurityGroup.decode (.ofExcess excess))
      (.ofJson (.arr (s.securityGroups.map SecurityGroup.toJson))) = .ok s.securityGroups :=
    list_arr SecurityGroup.decode_toJson _
  rw [decodeFields, hformat]
  refine record_ofMembers hperm ?_ ?_ fun found h => ?_
  · simp [fields]
  · simp [fields, hgroups, hsecurity]
  · simp only [fields, List.forall_mem_cons] at h
    obtain ⟨hfirst, hsecond, -⟩ := h
    simp only [Field.get, hfirst, hsecond, hgroups, hsecurity]
    rfl

@[simp] theorem CloudSection.decode_toJson (s : CloudSection) :
    decode (.ofExcess excess) (.ofJson s.toJson) = .ok s := by
  obtain ⟨others, hperm, htagged⟩ : ∃ others : List (String × Json), others.Perm s.fields ∧
      tagged (.ofExcess excess) "CloudConfig" "type" (decodeForm (.ofExcess excess))
        (.ofJson s.toJson) = .ok ((), .map (Data.ofMembers others)) :=
    tagged_object (by simp [fields]) rfl
  simp only [decode, htagged, bind, Except.bind]
  exact decodeFields_of_perm hperm

/-! ### Configurations -/

@[simp] theorem SidecarConfig.decode_toJson (c : SidecarConfig) :
    decode (.ofExcess excess) (.ofJson c.toJson) = .ok c := by
  have haudit : option (.ofExcess excess) (AuditSection.decode (.ofExcess excess))
      (.ofJson (.ofOption AuditSection.toJson c.audit?)) = .ok c.audit? :=
    option_ofOption AuditSection.decode_toJson (fun _ h => Json.noConfusion h) _
  rw [toJson, decode]
  refine record_object ?_ ?_ fun found h => ?_
  · simp
  · simp [haudit]
  · simp only [List.forall_mem_cons] at h
    obtain ⟨hprocess, hring, hrac, hracs, hacl, hdc, hzone, hhealth, hsection, hbackup,
      hscheduler, hapi, hcloud, -⟩ := h
    simp only [Field.get, hprocess, hring, hrac, hracs, hacl, hdc, hzone, hhealth, hsection,
      hbackup, hscheduler, hapi, hcloud, haudit, text_str, option_text, list_ofStrings,
      HealthSection.decode_toJson, BackupSection.decode_toJson, SchedulerSection.decode_toJson,
      ApiSection.decode_toJson, CloudSection.decode_toJson]
    rfl

/-! ### What is written -/

open Json (canonical_object canonical_arr canonical_ofOption)

@[simp] theorem GroupInstance.canonical_toJson (i : GroupInstance) : i.toJson.Canonical :=
  canonical_object (by simp) (by simp)

@[simp] theorem AutoScalingGroup.canonical_toJson (g : AutoScalingGroup) : g.toJson.Canonical :=
  canonical_object (by simp) (by simp [canonical_arr GroupInstance.canonical_toJson])

@[simp] theorem IngressRule.canonical_toJson (r : IngressRule) : r.toJson.Canonical :=
  canonical_object (by simp) (by simp)

@[simp] theorem SecurityGroup.canonical_toJson (g : SecurityGroup) : g.toJson.Canonical :=
  canonical_object (by simp) (by simp [canonical_arr IngressRule.canonical_toJson])

@[simp] theorem TimerSection.canonical_toJson (s : TimerSection) : s.toJson.Canonical := by
  cases s with
  | interval ms => exact canonical_object (by simp) (by simp)
  | cron expression zone? => exact canonical_object (by simp) (by simp)

@[simp] theorem HealthSection.canonical_toJson (s : HealthSection) : s.toJson.Canonical :=
  canonical_object (by simp) (by simp)

@[simp] theorem AuditSection.canonical_toJson (s : AuditSection) : s.toJson.Canonical :=
  canonical_object (by simp) (by simp)

@[simp] theorem BackupSection.canonical_toJson (s : BackupSection) : s.toJson.Canonical :=
  canonical_object (by simp) (by simp)

@[simp] theorem SchedulerSection.canonical_toJson (s : SchedulerSection) : s.toJson.Canonical :=
  canonical_object (by simp) (by simp)

@[simp] theorem ApiSection.canonical_toJson (s : ApiSection) : s.toJson.Canonical :=
  canonical_object (by simp) (by simp)

@[simp] theorem CloudSection.canonical_toJson (s : CloudSection) : s.toJson.Canonical :=
  canonical_object (by simp)
    (by simp [canonical_arr AutoScalingGroup.canonical_toJson,
      canonical_arr SecurityGroup.canonical_toJson])

@[simp] theorem SidecarConfig.canonical_toJson (c : SidecarConfig) : c.toJson.Canonical :=
  canonical_object (by simp) (by simp [canonical_ofOption AuditSection.canonical_toJson])

/-! ### Saving -/

/-- A type with its written form and its decoder. -/
structure Codec (α : Type) where
  write : α → Json
  read : Json → Decoded α

namespace Codec

variable {α : Type}

/-- The codec of a written form and of a decoder over any format, for JSON documents. -/
def ofDecoder (write : α → Json) (decode : Format Data → Data → Decoded α) : Codec α :=
  ⟨write, fun v => decode .json (.ofJson v)⟩

/-- The document that is written for what a document was read as. -/
def saved (c : Codec α) (v : Json) : Decoded Json := (c.read v).map c.write

/-- Nothing is lost in a document. -/
structure Lossless (c : Codec α) : Prop where
  /-- What is written is read back. -/
  read_write : ∀ a, c.read (c.write a) = .ok a
  /-- What is written has the members of all objects in order. -/
  canonical : ∀ a, (c.write a).Canonical
  /-- A document that was saved is read as before, and is saved as it is. -/
  settled : ∀ v w, c.saved v = .ok w → w.Canonical ∧ c.read w = c.read v ∧ c.saved w = .ok w

variable {write : α → Json} {decode : Format Data → Data → Decoded α}

theorem lossless_ofDecoder (hread : ∀ a, decode .json (.ofJson (write a)) = .ok a)
    (hcanonical : ∀ a, (write a).Canonical) : (ofDecoder write decode).Lossless where
  read_write := hread
  canonical := hcanonical
  settled := by
    intro v w hsaved
    cases hv : (ofDecoder write decode).read v with
    | error f =>
        rw [saved, hv] at hsaved
        cases hsaved
    | ok a =>
        rw [saved, hv] at hsaved
        cases hsaved
        have hback : (ofDecoder write decode).read (write a) = .ok a := hread a
        refine ⟨hcanonical a, hback, ?_⟩
        rw [saved]
        exact congrArg (Except.map write) hback

end Codec

/-- Timers in documents. -/
def TimerSection.codec : Codec TimerSection := .ofDecoder toJson decode

/-- Ingress rules in documents. -/
def IngressRule.codec : Codec IngressRule := .ofDecoder toJson decode

/-- Instances in documents. -/
def GroupInstance.codec : Codec GroupInstance := .ofDecoder toJson decode

/-- Autoscaling groups in documents. -/
def AutoScalingGroup.codec : Codec AutoScalingGroup := .ofDecoder toJson decode

/-- Security groups in documents. -/
def SecurityGroup.codec : Codec SecurityGroup := .ofDecoder toJson decode

/-- Configurations in documents. -/
def SidecarConfig.codec : Codec SidecarConfig := .ofDecoder toJson decode

/-- **Nothing is lost in documents.**  What is written of a timer, a rule, an instance, a group or
a configuration is read back, and whatever document one was read from, the document that is saved
for it is in order, is read the same, and is saved as it is. -/
theorem documents_survive_saving :
    TimerSection.codec.Lossless ∧ IngressRule.codec.Lossless ∧ GroupInstance.codec.Lossless ∧
      AutoScalingGroup.codec.Lossless ∧ SecurityGroup.codec.Lossless ∧
      SidecarConfig.codec.Lossless :=
  ⟨Codec.lossless_ofDecoder (fun s => s.decode_toJson) fun s => s.canonical_toJson,
    Codec.lossless_ofDecoder (fun r => r.decode_toJson) fun r => r.canonical_toJson,
    Codec.lossless_ofDecoder (fun i => i.decode_toJson) fun i => i.canonical_toJson,
    Codec.lossless_ofDecoder (fun g => g.decode_toJson) fun g => g.canonical_toJson,
    Codec.lossless_ofDecoder (fun g => g.decode_toJson) fun g => g.canonical_toJson,
    Codec.lossless_ofDecoder (fun c => c.decode_toJson) fun c => c.canonical_toJson⟩

/-- A timer with both a period and an expression is saved with the period. -/
example : TimerSection.codec.saved
    (.object [("interval_ms", .int 5), ("cron", .str "0 0 * * *"), ("zone", .null)])
      = .ok (.object [("interval_ms", .int 5)]) := rfl

/-- A rule that is given as a list, with one of its ranges twice. -/
example : IngressRule.codec.saved
    (.arr [.str "udp", .int 1, .int 2, .ofStrings ["b", "a", "b"]])
      = .ok (.object [("protocol", .str "udp"), ("from_port", .int 1), ("to_port", .int 2),
          ("cidrs", .ofStrings ["a", "b"])]) := rfl

end NodeSidecar
