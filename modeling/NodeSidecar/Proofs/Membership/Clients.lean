/-
**Clients are accounted for.**

The provider counts the clients that are open and the clients that were ever opened.  A call opens
one client at most and releases it however the call ends: with an answer, with a failure of any of
its requests, with a release that fails, or because it is given up.  So the count of open clients
is after each call what it was before, and it never falls below zero, even if clients that were
opened from outside are shut down again and again in between.

Main definitions:

* `Errand`, `Errand.run` — a call with the failures that are asked for while it is under way, and
  what is seen of it;
* `Session`, `Session.after` — a provider that is used by errands and through leases of its clients.

Main results:

* `Course.accounted`, `Errand.accounted` — the counts and the requests of one call;
* `Session.Balanced.use`, `Session.Balanced.after` — the count of open clients is the number of
  clients in use;
* `clients_are_accounted_for` — **all of this, after every use of a provider**.
-/

import Mathlib.Data.List.Perm.Basic
import NodeSidecar.Proofs.Membership.Calls

set_option autoImplicit false

namespace NodeSidecar

/-! ### The account of a call -/

/-- Whether a request is the release of a client. -/
def Request.isRelease (r : Request × Option CloudError) : Bool := decide (r.1 = .shutdown)

theorem Request.countP_isRelease {rs : List (Request × Option CloudError)}
    (h : ∀ r ∈ rs, r.1 ≠ .shutdown) : rs.countP isRelease = 0 :=
  List.countP_eq_zero.2 fun r hr hrelease => h r hr (of_decide_eq_true hrelease)

/-- **The counts and the requests of a call**, whether its release fails or not: a client that was
opened is released at the end, and nothing was asked for without one. -/
theorem Course.accounted {β : Type} {opens : Bool} {c : Cloud} {f : Bool → β × Cloud}
    (h : Course opens c f) (fail : Bool) :
    (f fail).2.openClients = c.openClients ∧
      (f fail).2.acquired = c.acquired + opens.toNat ∧
      ∃ rs, (∀ r ∈ rs, r.1 ≠ .shutdown) ∧ (opens = false → rs = []) ∧
        (f fail).2.requests = c.requests ++ rs ++
          List.replicate opens.toNat
            (.shutdown, if fail then some Cloud.releaseFailure else none) := by
  cases h with
  | unopened b c' hopens hc' hf =>
      rw [hf, hopens]
      refine ⟨hc'.openClients, hc'.acquired, [], by simp, fun _ => rfl, ?_⟩
      have hrequests : (c'.withReleases fail).requests = c.requests := hc'.requests
      simpa using hrequests
  | released b used warning lines hopens hused hwarning hf =>
      obtain ⟨rs, hrs, hall⟩ := hused.requests
      rw [hf, hopens, Cloud.foldl_report]
      refine ⟨?_, ?_, rs, hall, by simp, ?_⟩
      · change ((used.withReleases fail).afterRelease warning).openClients = _
        rw [Cloud.openClients_afterRelease]
        change used.openClients - 1 = c.openClients
        rw [hused.openClients]
        omega
      · change ((used.withReleases fail).afterRelease warning).acquired = _
        rw [Cloud.acquired_afterRelease]
        exact hused.acquired
      · change ((used.withReleases fail).afterRelease warning).requests = _
        rw [Cloud.requests_afterRelease]
        change used.requests ++ _ = _
        rw [hrs]
        rfl

/-- A call with the failures that are asked for before it, if any are, whether the release of its
client fails, and after how many turns behind its first one it is given up, if it is. -/
structure Errand where
  call : RingCall
  faults : Option Faults := none
  releaseFails : Bool := false
  patience : Option Nat := none

/-- What is seen of an errand: its result unless it is given up, its requests, and its reports. -/
structure Account where
  result : Option (Except MembershipError RingAnswer)
  requests : List (Request × Option CloudError)
  log : List LogLine

/-- The number of releases among the requests of an errand. -/
def Account.releases (a : Account) : Nat := a.requests.countP Request.isRelease

namespace Errand

/-- The provider at the begin of an errand, whose records begin with it. -/
def ready (e : Errand) (c : Cloud) : Cloud :=
  ({ c with faults := e.faults.getD c.faults, requests := [], log := [] } : Cloud).withReleases
    e.releaseFails

/-- **What is seen of an errand**, and the provider after it. -/
def run (s : MembershipSettings) (e : Errand) (c : Cloud) : Account × Cloud :=
  let (result, c) := e.call.carryOut s e.patience (e.ready c)
  (⟨result, c.requests, c.log⟩, c)

/-- The provider after a number of turns of an errand. -/
def during (s : MembershipSettings) (e : Errand) (n : Nat) (c : Cloud) : Cloud :=
  (Progress.turns n (.waiting (e.call.operation s)) (e.ready c)).2

/-- An errand has something to do, and its client can be opened. -/
def Opens (e : Errand) (c : Cloud) : Prop :=
  ¬ e.call.Idle ∧ (e.faults.getD c.faults).nextOpen = none

/-- **An errand is accounted for**: the client that it opens, if it opens one, is counted once and
released once, and nothing is asked for without one. -/
structure Accounted (e : Errand) (c : Cloud) (a : Account) (c' : Cloud) : Prop where
  /-- The count of open clients is what it was. -/
  balanced : c'.openClients = c.openClients
  /-- Each client that was opened is released once. -/
  acquired : c'.acquired = c.acquired + a.releases
  /-- One client is opened, unless there is nothing to do or the opening fails; then no request is
  made. -/
  once : (e.Opens c ∧ a.releases = 1) ∨ (¬ e.Opens c ∧ a.releases = 0 ∧ a.requests = [])

theorem accounted (s : MembershipSettings) (e : Errand) (c : Cloud) :
    e.Accounted c (e.run s c).1 (e.run s c).2 := by
  have hcourse := (RingCall.course s e.call e.patience (e.ready c)).accounted e.releaseFails
  have hopens := RingCall.opens_iff s e.call (e.ready c)
  have hself : (e.ready c).withReleases e.releaseFails = e.ready c := rfl
  rw [hself] at hcourse
  obtain ⟨hopen, hacquired, rs, hall, hnone, hrequests⟩ := hcourse
  have hready : (e.ready c).requests = [] := rfl
  rw [hready, List.nil_append] at hrequests
  cases hb : (e.call.operation s).opens (e.ready c) with
  | true =>
      rw [hb] at hacquired hrequests
      have hone : (e.run s c).1.releases = 1 := by
        change List.countP Request.isRelease
          (e.call.carryOut s e.patience (e.ready c)).2.requests = 1
        rw [hrequests, List.countP_append, Request.countP_isRelease hall]
        rfl
      refine ⟨hopen, ?_, Or.inl ⟨hopens.1 hb, hone⟩⟩
      rw [hone]
      exact hacquired
  | false =>
      rw [hb] at hacquired hrequests
      have hempty : (e.run s c).1.requests = [] := by
        change (e.call.carryOut s e.patience (e.ready c)).2.requests = []
        rw [hrequests, hnone hb]
        rfl
      have hzero : (e.run s c).1.releases = 0 := by
        rw [Account.releases, hempty]
        rfl
      refine ⟨hopen, ?_, Or.inr ⟨fun h => ?_, hzero, hempty⟩⟩
      · rw [hzero]
        exact hacquired
      · rw [hopens.2 h] at hb
        cases hb

/-- At every moment of an errand one client more is open, or none. -/
theorem openClients_during (s : MembershipSettings) (e : Errand) (n : Nat) (c : Cloud) :
    (e.during s n c).openClients = c.openClients ∨
      (e.during s n c).openClients = c.openClients + 1 := by
  have hstage : Stage (e.call.operation s) (e.ready c) fun fail =>
      (.waiting (e.call.operation s), (e.ready c).withReleases fail) := .waiting fun _ => rfl
  have hself : (e.ready c).withReleases e.releaseFails = e.ready c := rfl
  rw [during, ← hself]
  cases hstage.turns n with
  | waiting hf =>
      rw [hf]
      exact Or.inl rfl
  | working lease plan success used hopens hfresh hused hf =>
      rw [hf]
      exact Or.inr hused.openClients
  | ended g hg hf =>
      rw [hf]
      exact Or.inl (hg.accounted _).1

end Errand

/-! ### A provider in use -/

/-- A provider, with the leases of the clients that were opened from outside. -/
structure Session where
  cloud : Cloud
  leases : List Lease := []

/-- A use of a provider: an errand, a request for failures, or the opening of a client from
outside, its shutdown, which may come any number of times, or the end of its lease. -/
inductive Use where
  | errand (e : Errand)
  | fail (faults : Faults)
  | lease (endpoint : String)
  | shutdown (i : Nat)
  | drop (i : Nat)

namespace Session

/-- A provider after a use. -/
def use (s : MembershipSettings) (σ : Session) : Use → Session
  | .errand e => { σ with cloud := (e.run s σ.cloud).2 }
  | .fail faults => { σ with cloud := { σ.cloud with faults } }
  | .lease endpoint =>
    match σ.cloud.open endpoint with
    | (.ok l, c) => ⟨c, σ.leases ++ [l]⟩
    | (.error _, c) => { σ with cloud := c }
  | .shutdown i =>
    match σ.leases[i]? with
    | some l => ⟨(σ.cloud.shutdown l).2.2, σ.leases.set i (σ.cloud.shutdown l).2.1⟩
    | none => σ
  | .drop i =>
    match σ.leases[i]? with
    | some l => ⟨σ.cloud.drop l, σ.leases.eraseIdx i⟩
    | none => σ

/-- A provider after some uses. -/
def after (s : MembershipSettings) (σ : Session) (uses : List Use) : Session :=
  uses.foldl (use s) σ

/-- The number of clients that were opened from outside and are in use. -/
def inUse (leases : List Lease) : Nat := leases.countP fun l => !l.client.closed

theorem inUse_append (leases : List Lease) (l : Lease) :
    inUse (leases ++ [l]) = inUse leases + (!l.client.closed).toNat := by
  rw [inUse, inUse, List.countP_append]
  cases h : l.client.closed <;> simp [h]

theorem inUse_cons (l : Lease) (leases : List Lease) :
    inUse (l :: leases) = inUse leases + (!l.client.closed).toNat := by
  rw [inUse, inUse, List.countP_cons]
  cases l.client.closed <;> rfl

variable {leases : List Lease} {i : Nat} {l : Lease}

/-- A lease among others. -/
theorem inUse_eq_eraseIdx (h : leases[i]? = some l) :
    inUse leases = inUse (leases.eraseIdx i) + (!l.client.closed).toNat := by
  obtain ⟨hi, rfl⟩ := List.getElem?_eq_some_iff.1 h
  rw [← inUse_cons]
  exact (List.getElem_cons_eraseIdx_perm hi).symm.countP_eq _

/-- A lease in the place of another. -/
theorem inUse_set (h : leases[i]? = some l) (l' : Lease) :
    inUse (leases.set i l') = inUse (leases.eraseIdx i) + (!l'.client.closed).toNat := by
  obtain ⟨hi, _⟩ := List.getElem?_eq_some_iff.1 h
  rw [← inUse_cons]
  exact (List.set_perm_cons_eraseIdx hi l').countP_eq _

/-- **The count of open clients** is the number of clients in use, and every lease that is held has
still to release its client. -/
structure Balanced (σ : Session) : Prop where
  count : σ.cloud.openClients = inUse σ.leases
  held : ∀ l ∈ σ.leases, l.released = false

namespace Balanced

variable {σ : Session}

/-- The opening of a client from outside. -/
theorem lease (h : σ.Balanced) (s : MembershipSettings) (endpoint : String) :
    (σ.use s (.lease endpoint)).Balanced := by
  cases hnext : σ.cloud.faults.nextOpen with
  | some e =>
      simp only [use, Cloud.open_of_some hnext]
      exact ⟨h.count, h.held⟩
  | none =>
      obtain ⟨l, c', hopen, hfresh, hbegun⟩ := Cloud.open_of_none hnext endpoint
      simp only [use, hopen]
      refine ⟨?_, fun x hx => ?_⟩
      · change c'.openClients = inUse (σ.leases ++ [l])
        rw [hbegun.openClients, h.count, inUse_append, hfresh.client]
        rfl
      · rcases List.mem_append.1 hx with hx | hx
        · exact h.held x hx
        · rw [List.mem_singleton.1 hx]
          exact hfresh.released

/-- A shutdown, the first one or any other. -/
theorem shutdown (h : σ.Balanced) (s : MembershipSettings) (i : Nat) :
    (σ.use s (.shutdown i)).Balanced := by
  cases hi : σ.leases[i]? with
  | none =>
      simp only [use, hi]
      exact h
  | some l =>
      -- the count goes down by one if the client was in use, and not at all if it was not
      have hcount := inUse_eq_eraseIdx hi
      have hset := inUse_set hi (σ.cloud.shutdown l).2.1
      have hreleased : (σ.cloud.shutdown l).2.1.released = false := by
        have hl := h.held l (List.mem_of_getElem? hi)
        cases hclosed : l.client.closed with
        | true => rwa [Cloud.shutdown_of_closed hclosed]
        | false => rwa [Cloud.shutdown_of_open hclosed]
      simp only [use, hi]
      refine ⟨?_, fun x hx => ?_⟩
      · change (σ.cloud.shutdown l).2.2.openClients = _
        rw [hset]
        cases hclosed : l.client.closed with
        | true =>
            rw [hclosed] at hcount
            rw [Cloud.shutdown_of_closed hclosed]
            change σ.cloud.openClients = _
            rw [h.count, hcount, hclosed]
        | false =>
            rw [hclosed] at hcount
            rw [Cloud.shutdown_of_open hclosed]
            change σ.cloud.openClients - 1 = _
            rw [h.count, hcount]
            simp
      · rcases List.mem_or_eq_of_mem_set hx with hx | rfl
        · exact h.held x hx
        · exact hreleased

/-- The end of a lease. -/
theorem drop (h : σ.Balanced) (s : MembershipSettings) (i : Nat) :
    (σ.use s (.drop i)).Balanced := by
  cases hi : σ.leases[i]? with
  | none =>
      simp only [use, hi]
      exact h
  | some l =>
      have hcount := inUse_eq_eraseIdx hi
      have hl := h.held l (List.mem_of_getElem? hi)
      simp only [use, hi]
      refine ⟨?_, fun x hx => h.held x (List.mem_of_mem_eraseIdx hx)⟩
      change (σ.cloud.drop l).openClients = _
      cases hclosed : l.client.closed with
      | true =>
          rw [hclosed] at hcount
          rw [Cloud.drop_of_closed hl hclosed]
          change σ.cloud.openClients = _
          rw [h.count, hcount]
          simp
      | false =>
          rw [hclosed] at hcount
          rw [Cloud.drop_of_fresh ⟨hl, hclosed⟩, Cloud.openClients_afterRelease, h.count, hcount]
          simp

/-- **A use of the provider.** -/
theorem use (h : σ.Balanced) (s : MembershipSettings) (u : Use) : (σ.use s u).Balanced := by
  cases u with
  | errand e => exact ⟨(e.accounted s σ.cloud).balanced.trans h.count, h.held⟩
  | fail faults => exact ⟨h.count, h.held⟩
  | lease endpoint => exact h.lease s endpoint
  | shutdown i => exact h.shutdown s i
  | drop i => exact h.drop s i

/-- **Any number of uses.** -/
theorem after (h : σ.Balanced) (s : MembershipSettings) (uses : List Use) :
    (σ.after s uses).Balanced := by
  induction uses generalizing σ with
  | nil => exact h
  | cons u uses ih => exact ih (h.use s u)

end Balanced

end Session

/-- **Clients are accounted for**: after any uses of a provider, the count of open clients is the
number of clients in use, and an errand leaves it as it was, opening one client or none, which it
releases once. -/
theorem clients_are_accounted_for (s : MembershipSettings) (store : Store) (uses : List Use)
    (e : Errand) :
    let c := (Session.after s { cloud := { store } } uses).cloud
    0 ≤ c.openClients ∧
      c.openClients = Session.inUse (Session.after s { cloud := { store } } uses).leases ∧
      (∀ n, 0 ≤ (e.during s n c).openClients) ∧
      e.Accounted c (e.run s c).1 (e.run s c).2 := by
  intro c
  have hfirst : Session.Balanced { cloud := { store } } := ⟨rfl, by simp⟩
  have hcount := (hfirst.after s uses).count
  have hpos : 0 ≤ c.openClients := hcount ▸ Int.natCast_nonneg _
  refine ⟨hpos, hcount, fun n => ?_, e.accounted s c⟩
  rcases e.openClients_during s n c with h | h <;> omega

end NodeSidecar
