/-
**How long a shutdown may wait.**

A loop that is shut down with fires in its table reads the clock and adds the configured timeout;
the sum is the deadline up to which it waits for the fires.  The seconds of the clock are signed
numbers of 64 bits, and a deadline beyond them cannot be told: the loop breaks down there, waits for
nothing, and the shutdown loses the place of its answer.

The checks of a configuration refuse a timeout of zero, and no other.  So an accepted timeout is of
use as long as the clock has so many seconds left: the usual one for ages, but none in the last
second of the clock, and one of 2 ^ 63 seconds or more at no reading at all.

Main definitions:

* `Loop.Closes` — what comes of a shutdown that a live loop takes at a reading of the clock;
* `SidecarConfig.Accepted` — a configuration that was read from a text or a file;
* `SidecarConfig.Runs` — the loops that the node of a configuration comes to.

Main results:

* `Loop.closes_shutdown` — **every shutdown of a live loop**, by its table and its deadline;
* `Loop.Closes.waits` — while the deadline can be told, an unfinished fire is waited for;
* `SidecarConfig.check_withTimeout_iff` — the timeouts that are accepted;
* `SidecarConfig.Runs.shutdownTimeout` — the configured timeout is the one that is added;
* `accepted_timeouts_are_usable_iff` — **when the deadline of an accepted configuration can be
  told**, and what comes of a shutdown;
* `long_timeout_loses_shutdown` — a timeout that is accepted and never of use.
-/

import Mathlib
import NodeSidecar.Proofs.Config.Validity
import NodeSidecar.Proofs.Scheduler.Stopping

set_option autoImplicit false

namespace NodeSidecar

/-! ### A shutdown at a reading of the clock -/

namespace Loop

variable {l : Loop} {seconds : Nat} {now : Duration}

/-- **What comes of a shutdown** that a live loop takes at a reading of the clock, when the fires
have so many seconds to end.  The cases exclude each other. -/
inductive Closes (l : Loop) (seconds : Nat) (now : Duration) : Reply → Phase → Prop
  /-- The table is empty, and no deadline is needed. -/
  | idle : l.fires = [] → Closes l seconds now .done .ended
  /-- All fires of the table have ended. -/
  | finished : l.fires ≠ [] → now.seconds + seconds < 2 ^ 63 → l.unfinished = [] →
      Closes l seconds now .done .ended
  /-- The loop waits, up to the deadline. -/
  | waiting : now.seconds + seconds < 2 ^ 63 → l.unfinished ≠ [] →
      Closes l seconds now .pending (.draining now ⟨now.nanos + seconds * nanosPerSecond⟩)
  /-- The deadline cannot be told: the loop breaks down, whether or not fires are unfinished. -/
  | lost : l.fires ≠ [] → 2 ^ 63 ≤ now.seconds + seconds →
      Closes l seconds now
        (.failed (.channelError "scheduler loop dropped the shut down reply")) .ended

/-- As long as the deadline can be told, the loop waits for a fire that is unfinished. -/
theorem Closes.waits {reply : Reply} {phase : Phase} (h : l.Closes seconds now reply phase)
    (hleft : now.seconds + seconds < 2 ^ 63) (hunfinished : l.unfinished ≠ []) :
    reply = .pending ∧ phase = .draining now ⟨now.nanos + seconds * nanosPerSecond⟩ := by
  cases h with
  | idle hempty => exact absurd (by rw [unfinished, hempty]; rfl) hunfinished
  | finished _ _ hended => exact absurd hended hunfinished
  | waiting => exact ⟨rfl, rfl⟩
  | lost _ hover => exact absurd hleft (Nat.not_lt.2 hover)

/-- The deadline after whole seconds, -/
theorem deadline?_ofSeconds_eq_some_iff {deadline : Duration} :
    deadline? now (.ofSeconds seconds) = some deadline ↔
      deadline = ⟨now.nanos + seconds * nanosPerSecond⟩ ∧ now.seconds + seconds < 2 ^ 63 := by
  rw [deadline?_eq_some_iff, Duration.nanos_ofSeconds]
  refine and_congr_right fun hdeadline => ?_
  -- whole seconds carry nothing over from the fraction of the clock
  have hcarry : deadline.seconds = now.seconds + seconds := by
    rw [hdeadline]
    exact Nat.add_mul_div_right _ _ (by decide)
  rw [hcarry]
  exact Nat.lt_succ_iff.symm

/-- which is there as long as the clock has so many seconds left. -/
theorem exists_deadline?_ofSeconds_iff :
    (∃ deadline, deadline? now (.ofSeconds seconds) = some deadline) ↔
      now.seconds + seconds < 2 ^ 63 := by
  simp only [deadline?_ofSeconds_eq_some_iff, exists_eq_left]

theorem deadline?_ofSeconds_eq_none_iff :
    deadline? now (.ofSeconds seconds) = none ↔ 2 ^ 63 ≤ now.seconds + seconds := by
  rw [← Nat.not_lt, ← exists_deadline?_ofSeconds_iff, ← Option.isSome_iff_exists,
    Option.not_isSome_iff_eq_none]

/-- **Every shutdown of a live loop**, for a timeout of some seconds. -/
theorem closes_shutdown (hlive : l.phase = .live)
    (htimeout : l.shutdownTimeout = .ofSeconds seconds) (hpos : 0 < seconds) (now : Duration) :
    l.Closes seconds now (l.command now .shutdown).1 (l.command now .shutdown).2.1.phase := by
  rw [command, hlive]
  change l.Closes seconds now (l.shutDown now).1 (l.shutDown now).2.1.phase
  by_cases hempty : l.fires = []
  · obtain ⟨hreply, hended⟩ := shutDown_of_no_fires hempty now
    rw [hreply, hended]
    exact .idle hempty
  · cases hdeadline : deadline? now l.shutdownTimeout with
    | none =>
        obtain ⟨hreply, hended⟩ := shutDown_of_no_deadline hempty hdeadline
        rw [hreply, hended]
        rw [htimeout] at hdeadline
        exact .lost hempty (deadline?_ofSeconds_eq_none_iff.1 hdeadline)
    | some deadline =>
        obtain ⟨hreply, hphase⟩ := shutDown_of_deadline hempty hdeadline
        rw [htimeout] at hdeadline
        obtain ⟨rfl, hleft⟩ := deadline?_ofSeconds_eq_some_iff.1 hdeadline
        -- the time is not up at once, for the timeout is not zero
        have hahead : ¬ now.nanos + seconds * nanosPerSecond ≤ now.nanos :=
          Nat.not_le.2 (Nat.lt_add_of_pos_right (Nat.mul_pos hpos (by decide)))
        by_cases hunfinished : l.unfinished = []
        · rw [if_pos (Or.inl hunfinished)] at hreply hphase
          rw [hreply, hphase]
          exact .finished hempty hleft hunfinished
        · rw [if_neg (not_or.2 ⟨hunfinished, hahead⟩)] at hreply hphase
          rw [hreply, hphase]
          exact .waiting hleft hunfinished

/-- A shutdown ends no fire. -/
theorem unfinished_shutdown (hlive : l.phase = .live) (now : Duration) :
    (l.command now .shutdown).2.1.unfinished = l.unfinished := by
  rw [command, hlive]
  exact (l.quiet_shutDown now).1.unfinished

end Loop

/-! ### The configured timeout -/

namespace SidecarConfig

variable {c : SidecarConfig} {l : Loop}

/-- **A configuration is accepted**, as a text or as a file. -/
inductive Accepted (c : SidecarConfig) : Prop
  | parsed {text : String} : parse text = .ok c → Accepted c
  | loaded {path : String} {content : Except FileError (List UInt8)} :
      load path content = .ok c → Accepted c

theorem Accepted.check (h : c.Accepted) : c.check = .ok () := by
  cases h with
  | parsed h => exact check_of_parse h
  | @loaded path content h =>
      unfold load at h
      split at h
      · cases h
      · split at h
        · cases h
        · exact check_of_parse h

/-- An accepted timeout is not zero. -/
theorem shutdownSeconds_pos (h : c.check = .ok ()) : 0 < c.scheduler.shutdownSeconds.toNat := by
  have hall := c.verdict_check.eq_ok_iff.1 h
  have hzero : c.scheduler.shutdownSeconds ≠ 0 := hall _ (Requirement.mem_inOrder .shutdownTimeout)
  exact Nat.pos_of_ne_zero fun h => hzero (UInt64.toNat_inj.1 h)

/-- The configuration with another timeout. -/
def withTimeout (c : SidecarConfig) (seconds : UInt64) : SidecarConfig :=
  { c with scheduler := { c.scheduler with shutdownSeconds := seconds } }

/-- **Every timeout but zero is accepted** in the place of one that is. -/
theorem check_withTimeout_iff (h : c.check = .ok ()) {seconds : UInt64} :
    (c.withTimeout seconds).check = .ok () ↔ seconds ≠ 0 := by
  have hall := c.verdict_check.eq_ok_iff.1 h
  rw [(c.withTimeout seconds).verdict_check.eq_ok_iff]
  constructor
  · intro hmet
    exact hmet _ (Requirement.mem_inOrder .shutdownTimeout)
  · intro hzero q hq
    -- no other requirement looks at the timeout
    have hmet := hall q hq
    cases q with
    | shutdownTimeout => exact hzero
    | _ => exact hmet

/-- **The loops that the node of a configuration comes to**: it is started at some instant, and
moves on. -/
inductive Runs (c : SidecarConfig) : Loop → Prop
  | started {listing : Listing} {origin : Int} {n : Node} {start : Instant} {l : Loop} :
      c.node listing origin = .ok n → n.loop.start start = .ok l → Runs c l
  | moved {l : Loop} (m : Move) : Runs c l → Runs c (l.move m).1

/-- **The timeout of the loop is the configured one.** -/
theorem Runs.shutdownTimeout (hcheck : c.check = .ok ()) (h : c.Runs l) :
    l.shutdownTimeout = .ofSeconds c.scheduler.shutdownSeconds.toNat := by
  induction h with
  | @started listing origin n start l hnode hstart =>
      obtain ⟨n', hnode', -, -, htimeout, -⟩ := (starts_of_check hcheck).node listing origin
      obtain rfl := Except.ok.inj (hnode.symm.trans hnode')
      obtain ⟨rs, -, rfl⟩ := Loop.start_ok hstart
      exact htimeout
  | moved m _ ih => rw [Loop.shutdownTimeout_move, ih]

end SidecarConfig

/-- **When the deadline of an accepted configuration can be told**, and what comes of a shutdown.
Let the node of an accepted configuration have run for any while, and its loop still be live.  Then:

* the deadline can be told at a reading of the clock if and only if the seconds that the clock
  shows and those of the timeout are less than 2 ^ 63 together;
* there is a reading at which it cannot be told, whatever the timeout;
* a shutdown waits until the deadline for the fires, if any is unfinished; if the deadline cannot be
  told it breaks down, unless the table of fires is empty;
* a shutdown ends no fire;
* the configuration is accepted with every other timeout as well, but for zero. -/
theorem accepted_timeouts_are_usable_iff {c : SidecarConfig} (ha : c.Accepted) {l : Loop}
    (hruns : c.Runs l) (hlive : l.phase = .live) (now : Duration) :
    let seconds := c.scheduler.shutdownSeconds.toNat
    ((∃ deadline, Loop.deadline? now l.shutdownTimeout = some deadline) ↔
      now.seconds + seconds < 2 ^ 63) ∧
    (∃ t : Duration, t.seconds < 2 ^ 63 ∧ Loop.deadline? t l.shutdownTimeout = none) ∧
    l.Closes seconds now (l.command now .shutdown).1 (l.command now .shutdown).2.1.phase ∧
    (l.command now .shutdown).2.1.unfinished = l.unfinished ∧
    ∀ other : UInt64, (c.withTimeout other).check = .ok () ↔ other ≠ 0 := by
  intro seconds
  have hcheck := ha.check
  have htimeout : l.shutdownTimeout = .ofSeconds seconds := hruns.shutdownTimeout hcheck
  have hpos : 0 < seconds := SidecarConfig.shutdownSeconds_pos hcheck
  refine ⟨?_, ?_, Loop.closes_shutdown hlive htimeout hpos now, Loop.unfinished_shutdown hlive now,
    fun other => SidecarConfig.check_withTimeout_iff hcheck⟩
  · rw [htimeout]
    exact Loop.exists_deadline?_ofSeconds_iff
  · -- the last second of the clock
    refine ⟨.ofSeconds (2 ^ 63 - 1), ?_, ?_⟩
    · rw [Duration.seconds_ofSeconds]
      decide
    · rw [htimeout, Loop.deadline?_ofSeconds_eq_none_iff, Duration.seconds_ofSeconds]
      omega

/-! ### Two timeouts -/

/-- A configuration with a timeout, and little else. -/
def SidecarConfig.brief (seconds : UInt64) : SidecarConfig where
  processName := "cassandra"
  ringName := "ring"
  racs := ["1a"]
  aclGroupName := "acl"
  dc := "us-east-1"
  scheduler := { shutdownSeconds := seconds }

/-- The same as a text. -/
def SidecarConfig.briefText (seconds : String) : String :=
  "process_name: cassandra\nring_name: ring\nracs: [1a]\nacl_group_name: acl\ndc: us-east-1\n" ++
    "scheduler:\n  shutdown_timeout_secs: " ++ seconds ++ "\n"

/-- The loop of its node before any move, -/
def Loop.watching (timeout : Duration) : Loop :=
  { registrations := [⟨"process-monitor", .interval ⟨.ofSeconds 10, by decide, by decide⟩,
      some .epoch⟩]
    shutdownTimeout := timeout }

/-- and while a process check is under way. -/
def Loop.checking (timeout : Duration) : Loop :=
  { Loop.watching timeout with fires := [⟨⟨1⟩, "process-monitor", false⟩], nextId := 2 }

namespace SidecarConfig

theorem runs_brief (seconds : UInt64) :
    (brief seconds).Runs (.checking (.ofSeconds seconds.toNat)) := by
  have hstart : (brief seconds).Runs (.watching (.ofSeconds seconds.toNat)) :=
    @Runs.started _ (.ok "") 0 _ .epoch _ rfl rfl
  exact hstart.moved (.command ⟨0⟩ (.trigger "process-monitor"))

theorem parse_of_toOption {c : SidecarConfig} {text : String} (h : (parse text).toOption = some c) :
    parse text = .ok c := by
  cases hparse : parse text with
  | ok c' => rw [hparse] at h; exact congrArg Except.ok (Option.some.inj h)
  | error e => rw [hparse] at h; cases h

end SidecarConfig

/-- A timeout of half a minute, when the clock has just so much left: the loop waits up to the last
second. -/
theorem accepted_timeouts_are_usable_of_half_minute :
    let c := SidecarConfig.brief 30
    let l := Loop.checking c.scheduler.shutdownTimeout
    let now := Duration.ofSeconds (2 ^ 63 - 31)
    c.Accepted ∧ c.Runs l ∧ l.phase = .live ∧
      (∃ deadline, Loop.deadline? now l.shutdownTimeout = some deadline) ∧
      (∃ t : Duration, t.seconds < 2 ^ 63 ∧ Loop.deadline? t l.shutdownTimeout = none) ∧
      (l.command now .shutdown).1 = .pending ∧
      (l.command now .shutdown).2.1.phase = .draining now (.ofSeconds (2 ^ 63 - 1)) ∧
      (l.command now .shutdown).2.1.unfinished = [("process-monitor", ⟨1⟩)] := by
  intro c l now
  have hparse : SidecarConfig.parse (SidecarConfig.briefText "30") = .ok c :=
    SidecarConfig.parse_of_toOption (by decide +kernel)
  have ha : c.Accepted := .parsed hparse
  have hruns : c.Runs l := SidecarConfig.runs_brief 30
  have hleft : now.seconds + c.scheduler.shutdownSeconds.toNat < 2 ^ 63 := by
    rw [Duration.seconds_ofSeconds]
    decide
  obtain ⟨htold, huntold, hcloses, hunfinished, -⟩ :=
    accepted_timeouts_are_usable_iff ha hruns rfl now
  obtain ⟨hreply, hphase⟩ := hcloses.waits hleft (List.cons_ne_nil _ _)
  have hlastSecond : (⟨now.nanos + c.scheduler.shutdownSeconds.toNat * nanosPerSecond⟩ : Duration) =
      .ofSeconds (2 ^ 63 - 1) := by decide
  rw [hlastSecond] at hphase
  exact ⟨ha, hruns, rfl, htold.2 hleft, huntold, hreply, hphase, hunfinished⟩

/-- **A timeout that is accepted and never of use.**  Whatever the clock shows, the loop that is
shut down during a process check breaks down. -/
theorem long_timeout_loses_shutdown :
    let c := SidecarConfig.brief 18446744073709551615
    let l := Loop.checking c.scheduler.shutdownTimeout
    SidecarConfig.parse (SidecarConfig.briefText "18446744073709551615") = .ok c ∧ c.Runs l ∧
      l.phase = .live ∧ l.unfinished = [("process-monitor", ⟨1⟩)] ∧
      ∀ now, Loop.deadline? now l.shutdownTimeout = none ∧
        (l.command now .shutdown).1 =
          .failed (.channelError "scheduler loop dropped the shut down reply") ∧
        (l.command now .shutdown).2.1.phase = .ended := by
  intro c l
  refine ⟨SidecarConfig.parse_of_toOption (by decide +kernel), SidecarConfig.runs_brief _, rfl, rfl,
    fun now => ?_⟩
  have hlong : Loop.deadline? now l.shutdownTimeout = none :=
    Loop.deadline?_ofSeconds_eq_none_iff.2 (Nat.le_trans (by decide) (Nat.le_add_left _ _))
  have hlost := Loop.shutDown_of_no_deadline (l := l) (List.cons_ne_nil _ _) hlong
  exact ⟨hlong, hlost⟩

end NodeSidecar
