/-
**Valid configurations start.**

A configuration has to meet twelve requirements.  They are stated here without the checks that
decide them, and so is what is reported of a requirement that is not met.  The checks are a chain,
so a configuration is accepted when all requirements are met, and otherwise the first one that is
not met is reported.

Some of the requirements are that a timer can be built.  Whoever starts a node builds the same
timers again, so nothing can fail there any more.

Main definitions:

* `Requirement`, `Requirement.Holds`, `Requirement.Reports` — what is required, and what is
  reported;
* `SidecarConfig.FirstUnmet` — an error that reports the first requirement that is not met;
* `SidecarConfig.Verdict` — the result of checking some of the requirements;
* `SidecarConfig.Starts` — the node of a configuration can be made, with the configured timers.

Main results:

* `SidecarConfig.Verdict.andThen` — checks one after the other;
* `SidecarConfig.verdict_check` — **all checks**;
* `SidecarConfig.starts_of_check` — **what is accepted can be started**;
* `valid_configurations_start` — both, for every configuration and for every text of one.
-/

import NodeSidecar.CommandLine.Execute
import NodeSidecar.Proofs.Scheduler.Registry

set_option autoImplicit false

namespace NodeSidecar

/-! ### Requirements -/

/-- What is required of a configuration. -/
inductive Requirement where
  | processName
  | ringName
  | aclGroupName
  | region
  | racs
  | rac
  | timezone
  | healthTimer
  | auditTimer
  | shutdownTimeout
  | tickInterval
  | apiHost
  deriving DecidableEq, Repr

namespace Requirement

/-- The requirements in the order in which they are checked. -/
def inOrder : List Requirement :=
  [processName, ringName, aclGroupName, region, racs, rac, timezone, healthTimer, auditTimer,
    shutdownTimeout, tickInterval, apiHost]

/-- Every requirement is checked. -/
theorem mem_inOrder (q : Requirement) : q ∈ inOrder := by cases q <;> decide

/-- A requirement is met. -/
def Holds (c : SidecarConfig) : Requirement → Prop
  | processName => Text.Visible c.processName
  | ringName => Text.Visible c.ringName
  | aclGroupName => Text.Visible c.aclGroupName
  | region => Text.Visible c.dc
  | racs => c.racs ≠ []
  | rac => ∀ r, c.rac? = some r → r ∈ c.racs
  | timezone => ∃ zone, Zone.find? c.timezone = some zone
  | healthTimer => ∃ t, c.health.timer.build c.timezone = .ok t
  | auditTimer => ∀ audit, c.audit? = some audit → ∃ t, audit.timer.build c.timezone = .ok t
  | shutdownTimeout => c.scheduler.shutdownSeconds ≠ 0
  | tickInterval => c.scheduler.tickMillis ≠ 0
  | apiHost => c.api.enabled = true → Text.Visible c.api.host

/-- An error tells that a requirement is not met. -/
def Reports (c : SidecarConfig) : Requirement → ConfigError → Prop
  | processName, e => e = .emptyField "process_name"
  | ringName, e => e = .emptyField "ring_name"
  | aclGroupName, e => e = .emptyField "acl_group_name"
  | region, e => e = .emptyField "dc"
  | racs, e => e = .noRacs
  | rac, e => ∃ r, c.rac? = some r ∧ e = .unknownRac r c.racs
  | timezone, e => e = .unknownTimezone c.timezone
  | healthTimer, e =>
    ∃ fault, c.health.timer.build c.timezone = .error fault ∧ e = .invalidTimer "health" fault
  | auditTimer, e =>
    ∃ audit fault, c.audit? = some audit ∧ audit.timer.build c.timezone = .error fault ∧
      e = .invalidTimer "audit" fault
  | shutdownTimeout, e => e = .zeroDuration "scheduler.shutdown_timeout_secs"
  | tickInterval, e => e = .zeroDuration "scheduler.tick_ms"
  | apiHost, e => e = .emptyField "api.host"

end Requirement

namespace SidecarConfig

variable {c : SidecarConfig} {qs qs' : List Requirement} {x y : Except ConfigError Unit}

/-- **An error reports the first of some requirements that is not met.** -/
def FirstUnmet (c : SidecarConfig) (qs : List Requirement) (e : ConfigError) : Prop :=
  ∃ before q later, qs = before ++ q :: later ∧ (∀ p ∈ before, p.Holds c) ∧ ¬ q.Holds c ∧
    q.Reports c e

/-- **The result of checking some requirements** in order. -/
inductive Verdict (c : SidecarConfig) (qs : List Requirement) : Except ConfigError Unit → Prop
  | accepted : (∀ q ∈ qs, q.Holds c) → Verdict c qs (.ok ())
  | refused {e : ConfigError} : FirstUnmet c qs e → Verdict c qs (.error e)

namespace Verdict

/-- A single requirement that is met, -/
theorem holds {q : Requirement} (h : q.Holds c) : Verdict c [q] (.ok ()) :=
  .accepted fun _ hp => List.mem_singleton.1 hp ▸ h

/-- or that is not. -/
theorem unmet {q : Requirement} {e : ConfigError} (h : ¬ q.Holds c) (he : q.Reports c e) :
    Verdict c [q] (.error e) :=
  .refused ⟨[], q, [], rfl, by simp, h, he⟩

/-- **Checks one after the other**: the second is made if the first accepts. -/
theorem andThen (h : Verdict c qs x) (h' : Verdict c qs' y) :
    Verdict c (qs ++ qs') (x >>= fun _ => y) := by
  cases h with
  | accepted hall =>
      cases h' with
      | accepted hall' =>
          exact .accepted fun q hq => (List.mem_append.1 hq).elim (hall q) (hall' q)
      | refused hunmet =>
          obtain ⟨before, q, later, rfl, hbefore, hq, he⟩ := hunmet
          refine .refused ⟨qs ++ before, q, later, by simp, fun p hp => ?_, hq, he⟩
          exact (List.mem_append.1 hp).elim (hall p) (hbefore p)
  | refused hunmet =>
      obtain ⟨before, q, later, rfl, hbefore, hq, he⟩ := hunmet
      exact .refused ⟨before, q, later ++ qs', by simp, hbefore, hq, he⟩

/-- What is accepted meets the requirements, and what meets them is accepted. -/
theorem eq_ok_iff (h : Verdict c qs x) : x = .ok () ↔ ∀ q ∈ qs, q.Holds c := by
  cases h with
  | accepted hall => exact ⟨fun _ => hall, fun _ => rfl⟩
  | refused hunmet =>
      obtain ⟨before, q, later, rfl, _, hq, _⟩ := hunmet
      constructor
      · intro h
        cases h
      · intro hall
        exact absurd (hall q (by simp)) hq

theorem firstUnmet {e : ConfigError} (h : Verdict c qs (.error e)) : FirstUnmet c qs e := by
  cases h with
  | refused hunmet => exact hunmet

end Verdict

/-! ### The checks -/

/-- A text that must not be blank. -/
theorem verdict_requireText {q : Requirement} {name value : String}
    (hholds : q.Holds c ↔ Text.Visible value) (hreports : q.Reports c (.emptyField name)) :
    Verdict c [q] (requireText name value) := by
  unfold requireText
  split
  · next hblank => exact .unmet (fun h => Text.allBlank_iff.1 hblank (hholds.1 h)) hreports
  · next hblank =>
    exact .holds (hholds.2 (Classical.not_not.1 (mt Text.allBlank_iff.2 hblank)))

/-- A duration that must not be zero. -/
theorem verdict_requireTime {q : Requirement} {name : String} {value : UInt64}
    (hholds : q.Holds c ↔ value ≠ 0) (hreports : q.Reports c (.zeroDuration name)) :
    Verdict c [q] (requireTime name value) := by
  unfold requireTime
  split
  · next hzero => exact .unmet (fun h => hholds.1 h hzero) hreports
  · next hzero => exact .holds (hholds.2 hzero)

/-- A timer that must be one. -/
theorem verdict_requireTimer {q : Requirement} {section_ : String}
    {built : Except TimerError Timer} (hholds : q.Holds c ↔ ∃ t, built = .ok t)
    (hreports : ∀ fault, built = .error fault → q.Reports c (.invalidTimer section_ fault)) :
    Verdict c [q] (requireTimer section_ built) := by
  cases built with
  | ok t => exact .holds (hholds.2 ⟨t, rfl⟩)
  | error fault => exact .unmet (fun h => nomatch (hholds.1 h).choose_spec) (hreports fault rfl)

/-- The racs, and the rac among them. -/
theorem verdict_requireRac (c : SidecarConfig) :
    Verdict c [.racs, .rac] (requireRac c.racs c.rac?) := by
  unfold requireRac
  split
  · next hempty =>
    have hnil : c.racs = [] := List.isEmpty_iff.1 hempty
    exact .refused ⟨[], .racs, [.rac], rfl, by simp, fun h => h hnil, rfl⟩
  · next hempty =>
    have hracs : Requirement.racs.Holds c := mt List.isEmpty_iff.2 hempty
    split
    · next r hr =>
      split
      · next hmem =>
        refine (Verdict.holds hracs).andThen (.holds fun r' hr' => ?_)
        rw [hr] at hr'
        cases hr'
        simpa using hmem
      · next hmem =>
        refine (Verdict.holds hracs).andThen (.unmet (fun h => hmem ?_) ⟨r, hr, rfl⟩)
        simpa using h r hr
    · next hr => exact (Verdict.holds hracs).andThen (.holds fun r hr' => by rw [hr] at hr'; cases hr')

/-- The zone of timers that name none. -/
theorem verdict_timezone (c : SidecarConfig) :
    Verdict c [.timezone]
      (if (Zone.find? c.timezone).isNone then throw (.unknownTimezone c.timezone) else pure ()) := by
  cases hzone : Zone.find? c.timezone with
  | none => exact .unmet (fun h => by obtain ⟨z, hz⟩ := h; rw [hzone] at hz; cases hz) rfl
  | some z => exact .holds ⟨z, hzone⟩

/-- The timer of the ring audit, if there is one. -/
theorem verdict_auditTimer (c : SidecarConfig) :
    Verdict c [.auditTimer]
      (match c.auditTimer? with
        | some timer => requireTimer "audit" timer
        | none => pure ()) := by
  unfold auditTimer?
  cases haudit : c.audit? with
  | none => exact .holds fun audit h => by rw [haudit] at h; cases h
  | some audit =>
      refine verdict_requireTimer ⟨fun h => h audit haudit, fun h other hother => ?_⟩
        fun fault hfault => ⟨audit, fault, haudit, hfault, rfl⟩
      rw [haudit] at hother
      cases hother
      exact h

/-- The host of the interface, unless that is switched off. -/
theorem verdict_apiHost (c : SidecarConfig) :
    Verdict c [.apiHost] (if c.api.enabled then requireText "api.host" c.api.host else pure ()) := by
  cases henabled : c.api.enabled with
  | false => exact .holds fun h => by rw [henabled] at h; cases h
  | true => exact verdict_requireText ⟨fun h => h henabled, fun h _ => h⟩ rfl

/-- **All checks**: the requirements decide, and the first one that is not met is reported. -/
theorem verdict_check (c : SidecarConfig) : Verdict c Requirement.inOrder c.check := by
  have hchain :=
    (verdict_requireText (c := c) (q := .processName) Iff.rfl rfl).andThen <|
    (verdict_requireText (q := .ringName) Iff.rfl rfl).andThen <|
    (verdict_requireText (q := .aclGroupName) Iff.rfl rfl).andThen <|
    (verdict_requireText (q := .region) Iff.rfl rfl).andThen <|
    (verdict_requireRac c).andThen <|
    (verdict_timezone c).andThen <|
    (verdict_requireTimer (q := .healthTimer) Iff.rfl fun fault h => ⟨fault, h, rfl⟩).andThen <|
    (verdict_auditTimer c).andThen <|
    (verdict_requireTime (q := .shutdownTimeout) Iff.rfl rfl).andThen <|
    (verdict_requireTime (q := .tickInterval) Iff.rfl rfl).andThen <|
    verdict_apiHost c
  -- the checks in between are the same, branch by branch
  refine (congrArg (Verdict c Requirement.inOrder) ?_).mp hchain
  unfold check
  cases Zone.find? c.timezone <;> cases c.auditTimer? <;> rfl

end SidecarConfig

/-! ### The node of a configuration -/

/-- No timer is told by the word for a missing audit. -/
theorem Timer.text_ne_disabled (t : Timer) : t.text ≠ "disabled" := by
  intro h
  have hhead := congrArg (fun s => s.toList.head?) h
  cases t <;> simp [text] at hhead

/-- A task whose name is not taken is registered. -/
theorem Node.register_of_not_mem {n : Node} {name : String} (h : name ∉ n.loop.taskNames)
    (timer : Timer) (duty : Duty) :
    ∃ n', n.register name timer duty = .ok n' ∧
      n'.loop.roster.Perm ((name, timer) :: n.loop.roster) ∧
      n'.loop.overlap = n.loop.overlap ∧ n'.loop.shutdownTimeout = n.loop.shutdownTimeout ∧
      n'.period = n.period := by
  rcases n.loop.register_cases name timer with ⟨hmem, _⟩ | ⟨_, l', hl, hperm, hsame⟩
  · exact absurd hmem h
  · have hn : n.register name timer duty = .ok
        ({ n with loop := l', duties := n.duties ++ [(name, duty)] }.report
          [.info "Registered task"]) := by
      rw [register, hl]
      rfl
    refine ⟨_, hn, hperm, ?_, ?_, rfl⟩
    · exact (congrArg Loop.overlap hsame :)
    · exact (congrArg Loop.shutdownTimeout hsame :)

namespace SidecarConfig

variable {c : SidecarConfig}

/-- The tasks of a configuration with their timers, as far as these can be built. -/
def tasks (c : SidecarConfig) : List (String × Timer) :=
  (c.healthTimer.toOption.map fun t => (c.monitor.name, t)).toList ++
    ((c.auditTimer?.bind Except.toOption).map fun t => (Membership.auditName, t)).toList

/-- **A configuration starts**: nothing fails between its timers and its node. -/
structure Starts (c : SidecarConfig) : Prop where
  health : ∃ t, c.healthTimer = .ok t
  audit : c.auditTimer? = none ∨ ∃ t, c.auditTimer? = some (.ok t)
  /-- The summary tells that there is no audit when there is none, and its timer otherwise. -/
  told : "  Ring audit: disabled" ∈ c.summary ↔ c.audit? = none
  toldTimer : ∀ t, c.auditTimer? = some (.ok t) → "  Ring audit: " ++ t.text ∈ c.summary
  /-- Ticks come as they are configured. -/
  ticks : ∀ origin, Duration.ofMillis (c.bare origin).period = c.scheduler.tickInterval
  /-- The node is made, with the configured policy, timeout and tasks. -/
  node : ∀ listing origin, ∃ n, c.node listing origin = .ok n ∧
    n.loop.roster.Perm c.tasks ∧ n.loop.overlap = c.scheduler.overlap ∧
    n.loop.shutdownTimeout = c.scheduler.shutdownTimeout ∧ n.period = (c.bare origin).period

/-- The audit as the summary tells it. -/
theorem mem_summary_audit (c : SidecarConfig) (told : String) :
    "  Ring audit: " ++ told ∈ c.summary ↔
      told = ((c.auditTimer?.bind Except.toOption).map Timer.text).getD "disabled" := by
  -- no other line of the summary starts with these words
  have hhead (a b d r g : String) : "  Ring audit: " ++ told ∉
      ["Configuration OK", "  Process: " ++ a, "  Ring: " ++ b ++ " (" ++ d ++ " rac(s))",
        "  ACL group: " ++ r, "  Region: " ++ g] := by
    simp [← String.toList_inj]
  have hhealth (x : Option String) :
      "  Ring audit: " ++ told ∉ x.toList.map fun t => "  Health monitor: " ++ t := by
    simp [← String.toList_inj]
  have hapi : "  Ring audit: " ++ told ∉
      if c.api.enabled then ["  API: http://" ++ c.api.bindAddress] else [] := by
    split <;> simp [← String.toList_inj]
  simp only [summary, List.mem_append, hhead, hhealth, hapi, or_false, false_or,
    List.mem_singleton, String.append_right_inj]
  cases c.auditTimer? with
  | none => rfl
  | some built => cases built <;> rfl

/-- A node whose timers can be built is made. -/
theorem exists_node {t : Timer} (ht : c.healthTimer = .ok t)
    (haudit : c.auditTimer? = none ∨ ∃ t, c.auditTimer? = some (.ok t)) (listing : Listing)
    (origin : Int) :
    ∃ n, c.node listing origin = .ok n ∧ n.loop.roster.Perm c.tasks ∧
      n.loop.overlap = c.scheduler.overlap ∧
      n.loop.shutdownTimeout = c.scheduler.shutdownTimeout ∧ n.period = (c.bare origin).period := by
  have hbare : (c.bare origin).loop.roster = [] := rfl
  have hfree : c.monitor.name ∉ (c.bare origin).loop.taskNames := by
    rw [Loop.taskNames_eq_roster, hbare]
    simp
  obtain ⟨n, hn, hroster, hoverlap, htimeout, hperiod⟩ :=
    Node.register_of_not_mem hfree t (.health c.monitor { script := [listing] })
  rw [hbare] at hroster
  rcases haudit with hnone | ⟨ta, hsome⟩
  · have hnode : c.node listing origin = .ok (n.report [.info "Ring audit disabled"]) := by
      simp only [node, ht, hnone, Except.mapError, bind, Except.bind, hn]
      rfl
    refine ⟨_, hnode, ?_, hoverlap, htimeout, hperiod⟩
    rw [tasks, ht, hnone]
    exact hroster
  · have hfree' : Membership.auditName ∉ n.loop.taskNames := by
      rw [Loop.taskNames_eq_roster, (hroster.map Prod.fst).mem_iff]
      simp [monitor, Membership.auditName]
    obtain ⟨n', hn', hroster', hoverlap', htimeout', hperiod'⟩ :=
      Node.register_of_not_mem hfree' ta .audit
    have hnode : c.node listing origin = .ok n' := by
      simp only [node, ht, hsome, Except.mapError, bind, Except.bind, hn, hn']
    refine ⟨n', hnode, ?_, hoverlap'.trans hoverlap, htimeout'.trans htimeout,
      hperiod'.trans hperiod⟩
    rw [tasks, ht, hsome]
    exact hroster'.trans ((hroster.cons _).trans (.swap _ _ _))

/-- **What is accepted can be started.** -/
theorem starts_of_check (h : c.check = .ok ()) : c.Starts := by
  have hall := (verdict_check c).eq_ok_iff.1 h
  obtain ⟨t, ht⟩ : ∃ t, c.healthTimer = .ok t := hall _ (Requirement.mem_inOrder .healthTimer)
  have haudit : c.auditTimer? = none ∨ ∃ t, c.auditTimer? = some (.ok t) := by
    have hbuilt := hall _ (Requirement.mem_inOrder .auditTimer)
    unfold auditTimer?
    cases hsome : c.audit? with
    | none => exact Or.inl rfl
    | some audit =>
        obtain ⟨ta, hta⟩ := hbuilt audit hsome
        exact Or.inr ⟨ta, congrArg some hta⟩
  refine
    { health := ⟨t, ht⟩
      audit := haudit
      told := ?_
      toldTimer := fun ta hta => (mem_summary_audit c ta.text).2 (by rw [hta]; rfl)
      ticks := fun origin => ?_
      node := exists_node ht haudit }
  · have hline := mem_summary_audit c "disabled"
    rw [show "  Ring audit: " ++ "disabled" = "  Ring audit: disabled" from rfl] at hline
    rw [hline]
    have hnone : c.auditTimer? = none ↔ c.audit? = none := Option.map_eq_none_iff
    rw [← hnone]
    rcases haudit with hno | ⟨ta, hta⟩
    · simp [hno]
    · rw [hta]
      simpa [Except.toOption] using ta.text_ne_disabled.symm
  · have hpos : c.scheduler.tickMillis.toNat ≠ 0 := fun hzero =>
      hall _ (Requirement.mem_inOrder .tickInterval) (UInt64.toNat_inj.1 hzero)
    have hperiod : max 1 c.scheduler.tickMillis.toNat = c.scheduler.tickMillis.toNat := by omega
    exact congrArg Duration.ofMillis hperiod

/-- **A configuration is judged** by its requirements, as a value and as a text, and starts when it
is accepted. -/
structure Judged (c : SidecarConfig) : Prop where
  /-- It is accepted exactly when it meets all requirements. -/
  accepted : c.check = .ok () ↔ ∀ q : Requirement, q.Holds c
  /-- Otherwise the first requirement that it does not meet is reported. -/
  refused : ∀ e, c.check = .error e → c.FirstUnmet Requirement.inOrder e
  /-- A text of the configuration gives it if it is accepted, and the report otherwise. -/
  parsed : ∀ s d, Yaml.Document.ofText? s = some d → ofDocument d = .ok c →
    parse s = c.check.map fun _ => c
  /-- What a text gives was accepted. -/
  loaded : ∀ s, parse s = .ok c → c.check = .ok ()
  starts : c.check = .ok () → c.Starts

/-- A text of a configuration gives what the checks make of it. -/
theorem parse_of_ofDocument {s : String} {d : Yaml.Document}
    (hs : Yaml.Document.ofText? s = some d) (hd : ofDocument d = .ok c) :
    parse s = c.check.map fun _ => c := by
  simp only [parse, hs, hd, bind, Except.bind]
  cases c.check <;> rfl

theorem check_of_parse {s : String} (h : parse s = .ok c) : c.check = .ok () := by
  cases hs : Yaml.Document.ofText? s with
  | none => simp only [parse, hs] at h; cases h
  | some d =>
      cases hd : ofDocument d with
      | error e => simp only [parse, hs, hd] at h; cases h
      | ok c' =>
          rw [parse_of_ofDocument hs hd] at h
          cases hcheck : c'.check with
          | error e => rw [hcheck] at h; cases h
          | ok u => rw [hcheck] at h; cases h; exact hcheck

end SidecarConfig

/-- **Valid configurations start**: the requirements decide whether a configuration is accepted, and
an accepted one has its timers, its summary, its ticks and its node. -/
theorem valid_configurations_start (c : SidecarConfig) : c.Judged where
  accepted := by
    rw [c.verdict_check.eq_ok_iff]
    exact ⟨fun h q => h q q.mem_inOrder, fun h q _ => h q⟩
  refused := fun e h => (h ▸ c.verdict_check).firstUnmet
  parsed := fun _ _ => SidecarConfig.parse_of_ofDocument
  loaded := fun _ => SidecarConfig.check_of_parse
  starts := SidecarConfig.starts_of_check

/-- The configuration with an audit every minute that is read off a calendar. -/
def SidecarConfig.audited : SidecarConfig where
  processName := "cassandra"
  ringName := "ring"
  rac? := some "1a"
  racs := ["1a", "1b"]
  aclGroupName := "acl"
  dc := "us-east-1"
  audit? := some ⟨.cron "0 * * * * ?" none⟩

/-- A configuration that meets all requirements, and so starts. -/
theorem valid_configurations_start_of_audited :
    (∀ q : Requirement, q.Holds .audited) ∧ SidecarConfig.Starts .audited := by
  have h := valid_configurations_start .audited
  have hcheck : SidecarConfig.check .audited = .ok () := by rfl
  exact ⟨h.accepted.1 hcheck, h.starts hcheck⟩

end NodeSidecar
