import Hartevo.Foundation.Machine
import Hartevo.MissionSchedule.Model

/-!
# Commands of a Mission schedule

A worker claims a schedule that is due, renews its lease, and marks the cycle as triggered or
records a failure.  Every command validates the record it finds and the record it leaves.  Both
matter here: what a command wrote before it failed stays written, also when the last validation
fails.  `MissionSchedule.store` is the common shape, and `MissionSchedule.step` the machine.

A duration is a number of nanoseconds.
-/

namespace Hartevo

open Command

namespace MissionSchedule

def maxLeaseSeconds : ℤ := 15 * 60

def isDue (self : MissionSchedule) (now : DateTime) : Bool :=
  self.status == .pending && decide (now < self.contractValidUntil) &&
    (self.retryNotBefore.all fun retryAt => decide (retryAt ≤ now)) &&
    (self.signal.isSome || self.dueAt.any fun dueAt => decide (dueAt ≤ now))

def verifyLease (self : MissionSchedule) (ownerDigest tokenDigest : String) (generation : ℕ)
    (now : DateTime) : Except MissionScheduleError Unit := do
  let lease ← okOr self.lease .leaseLost
  rejectIf (self.status != .leased || lease.ownerDigest != ownerDigest ||
    lease.tokenDigest != tokenDigest || lease.generation != generation ||
    decide (lease.expiresAt ≤ now)) .leaseLost

def ensureTouchable (self : MissionSchedule) : Except MissionScheduleError Unit :=
  rejectIf (checkedAdd 64 self.revision 1).isNone .revisionOverflow

def touch (now : DateTime) (self : MissionSchedule) : MissionSchedule :=
  { self with revision := self.revision + 1, updatedAt := now }

/-- The duration of a lease is between one second and the longest one. -/
def isLeaseDuration (leaseDuration : ℤ) : Bool :=
  decide (1 ≤ numSeconds leaseDuration) && decide (numSeconds leaseDuration ≤ maxLeaseSeconds)

def store {α : Type} (read : MissionSchedule → Except MissionScheduleError α)
    (write : α → MissionSchedule → MissionSchedule) :
    Command MissionSchedule MissionScheduleError α := do
  let a ← check read
  modify (write a)
  check validate
  return a

section Store

variable {s s' : MissionSchedule} {α : Type}
  {read : MissionSchedule → Except MissionScheduleError α}
  {write : α → MissionSchedule → MissionSchedule} {a : α}

lemma exec_store_of_error {e : MissionScheduleError}
    (h : read s = .error e) : (store read write).exec s = (.error e, s) :=
  exec_check_bind_of_error h

lemma exec_store_of_ok (h : read s = .ok a) :
    (store read write).exec s = ((fun _ => a) <$> (write a s).validate, write a s) := by
  rw [store, exec_check_bind_of_ok h, exec_modify_bind]
  cases hv : (write a s).validate with
  | error => exact exec_check_bind_of_error hv
  | ok => exact exec_check_bind_of_ok hv

lemma exec_store_ok (h : (store read write).exec s = (.ok a, s')) :
    read s = .ok a ∧ s' = write a s := by
  obtain ⟨b, hr, -⟩ := exec_check_ok.mp h
  rw [exec_store_of_ok hr, Prod.mk.injEq] at h
  obtain ⟨hv, rfl⟩ := h
  obtain ⟨-, -, rfl⟩ := map_ok.mp hv
  exact ⟨hr, rfl⟩

lemma moves_store {R : MissionSchedule → MissionSchedule → Prop} [Std.Refl R]
    (h : ∀ s a, read s = .ok a → R s (write a s)) : Moves R (store read write) := by
  intro s
  cases hr : read s with
  | error =>
    rw [exec_store_of_error hr]
    exact refl s
  | ok a =>
    rw [exec_store_of_ok hr]
    exact h s a hr

lemma refuses_store (h : ∀ a, read s ≠ .ok a) : Refuses (store read write) s :=
  Refuses.check_bind fun a ha => absurd ha (h a)

end Store

/-! ## Signals -/

def checkSignalEvent (candidate : MissionScheduleSignal) (self : MissionSchedule) :
    Except MissionScheduleError Unit := do
  self.validate
  rejectIf (self.status != .pending) .notSignalable
  rejectIf (self.signalIsInvalid candidate) .invalidSignal

/-- Bind the first signal.  The same signal is accepted again, with nothing to do. -/
def signalEvent (candidate : MissionScheduleSignal) :
    Command MissionSchedule MissionScheduleError Bool := do
  check (checkSignalEvent candidate)
  branch (fun self => self.signal == some candidate) (pure false) do
    store
      (fun self => do
        rejectIf self.signal.isSome .signalAlreadyBound
        self.ensureTouchable)
      (fun _ self => touch candidate.observedAt { self with signal := some candidate })
    return true

/-! ## Leases -/

def checkClaim (ownerDigest tokenDigest : String) (leaseDuration : ℤ) (now : DateTime)
    (self : MissionSchedule) : Except MissionScheduleError Unit := do
  self.validate
  rejectIf (!isSha256 ownerDigest || !isSha256 tokenDigest || !isLeaseDuration leaseDuration ||
    decide (self.contractValidUntil ≤ now)) .invalidLease

/-- The failure of a lease that has run out. -/
def expiredLeaseFailure (enc : MissionEncoding) (now : DateTime) (self : MissionSchedule) :
    Except MissionScheduleError MissionScheduleFailure := do
  let previous ← okOr self.lease .invalidRecord
  rejectIf (decide (now < previous.expiresAt)) .leaseActive
  let sequence ← okOr (tryFromCount 32 (self.failures.length + 1)) .failureLimitReached
  return {
    sequence := sequence
    class_ := .leaseExpired
    evidenceDigest := enc.digest (utf8 (previous.ownerDigest ++ ":" ++
      previous.tokenDigest ++ ":" ++ toString previous.generation))
    retryable := true
    observedAt := now }

def pushFailure (failure : MissionScheduleFailure) (self : MissionSchedule) : MissionSchedule :=
  { self with failures := self.failures ++ [failure] }

/-- Take note of a lease that has run out.  The last failure that is allowed closes the record. -/
def recordExpiredLease (enc : MissionEncoding) (now : DateTime) :
    Command MissionSchedule MissionScheduleError Unit := do
  let failure ← check (expiredLeaseFailure enc now)
  modify (pushFailure failure)
  branch (fun self => decide (maxFailures ≤ self.failures.length))
    (do
      check ensureTouchable
      modify fun self => touch now { self with status := .deadLetter, lease := none }
      throw .failureLimitReached)
    (pure ())

/-- The lease that a claim hands out. -/
def nextLease (ownerDigest tokenDigest : String) (leaseDuration : ℤ) (now : DateTime)
    (self : MissionSchedule) : Except MissionScheduleError MissionScheduleLease := do
  let generation ← okOr (checkedAdd 64 self.leaseGeneration 1) .revisionOverflow
  let expiresAt ← okOr (DateTime.checkedAddSigned now leaseDuration) .invalidLease
  rejectIf (decide (self.contractValidUntil ≤ expiresAt)) .invalidLease
  self.ensureTouchable
  return {
    ownerDigest := ownerDigest
    tokenDigest := tokenDigest
    generation := generation
    claimedAt := now
    heartbeatAt := now
    expiresAt := expiresAt }

def takeLease (now : DateTime) (lease : MissionScheduleLease) (self : MissionSchedule) :
    MissionSchedule :=
  touch now { self with
    status := .leased
    leaseGeneration := lease.generation
    lease := some lease
    retryNotBefore := none }

def claim (enc : MissionEncoding) (ownerDigest tokenDigest : String) (leaseDuration : ℤ)
    (now : DateTime) : Command MissionSchedule MissionScheduleError MissionScheduleLease := do
  check (checkClaim ownerDigest tokenDigest leaseDuration now)
  branch (fun self => self.status == .leased)
    (recordExpiredLease enc now)
    (check fun self => rejectIf (!self.isDue now) .notDue)
  store (nextLease ownerDigest tokenDigest leaseDuration now) (takeLease now)

/-- The instant at which a renewed lease ends. -/
def checkHeartbeat (ownerDigest tokenDigest : String) (generation : ℕ) (leaseDuration : ℤ)
    (now : DateTime) (self : MissionSchedule) : Except MissionScheduleError DateTime := do
  self.validate
  self.verifyLease ownerDigest tokenDigest generation now
  rejectIf (!isLeaseDuration leaseDuration) .invalidLease
  let expiresAt ← okOr (DateTime.checkedAddSigned now leaseDuration) .invalidLease
  rejectIf (decide (self.contractValidUntil ≤ expiresAt)) .invalidLease
  self.ensureTouchable
  return expiresAt

def renewLease (now expiresAt : DateTime) (self : MissionSchedule) : MissionSchedule :=
  touch now { self with
    lease := self.lease.map fun lease => { lease with heartbeatAt := now, expiresAt := expiresAt } }

def heartbeat (ownerDigest tokenDigest : String) (generation : ℕ) (leaseDuration : ℤ)
    (now : DateTime) : Command MissionSchedule MissionScheduleError Unit := do
  let _ ← store (checkHeartbeat ownerDigest tokenDigest generation leaseDuration now)
    (renewLease now)

/-! ## The end of a lease -/

def checkMarkTriggered (ownerDigest tokenDigest : String) (generation : ℕ) (mission : Mission)
    (now : DateTime) (self : MissionSchedule) : Except MissionScheduleError Unit := do
  self.validate
  self.verifyLease ownerDigest tokenDigest generation now
  rejectIf (mission.tenantId != self.tenantId || mission.projectId != self.projectId ||
    mission.id != self.missionId || mission.stage != .running ||
    ((tryFromCount 64 mission.outcomeHistory.length).bind (checkedAdd 64 · 1)) !=
      some self.cycle ||
    mission.definition.any fun definition => definition.cycle != self.cycle) .cycleMismatch
  self.ensureTouchable

def markTriggered (ownerDigest tokenDigest : String) (generation : ℕ) (mission : Mission)
    (now : DateTime) : Command MissionSchedule MissionScheduleError Unit :=
  store (checkMarkTriggered ownerDigest tokenDigest generation mission now)
    (fun _ self => touch now { self with status := .triggered })

/-- The failure that a worker reports. -/
def checkRecordFailure (ownerDigest tokenDigest : String) (generation : ℕ)
    (class_ : MissionScheduleFailureClass) (evidenceDigest : String) (retryable : Bool)
    (retryAt : Option DateTime) (now : DateTime) (self : MissionSchedule) :
    Except MissionScheduleError MissionScheduleFailure := do
  self.validate
  self.verifyLease ownerDigest tokenDigest generation now
  rejectIf (!isSha256 evidenceDigest || retryable != retryAt.any fun retryAt =>
    decide (now < retryAt) && decide (retryAt < self.contractValidUntil)) .invalidFailure
  rejectIf (decide (maxFailures ≤ self.failures.length)) .failureLimitReached
  self.ensureTouchable
  let sequence ← okOr (tryFromCount 32 (self.failures.length + 1)) .failureLimitReached
  return {
    sequence := sequence
    class_ := class_
    evidenceDigest := evidenceDigest
    retryable := retryable
    observedAt := now }

/-- Give the lease up: wait for the retry, or close the record. -/
def giveUpLease (retryAt : Option DateTime) (now : DateTime) (failure : MissionScheduleFailure)
    (self : MissionSchedule) : MissionSchedule :=
  let failed := pushFailure failure self
  let retries := failure.retryable && decide (failed.failures.length < maxFailures)
  touch now { failed with
    status := if retries then .pending else .deadLetter
    retryNotBefore := if retries then retryAt else none
    lease := none }

def recordFailure (ownerDigest tokenDigest : String) (generation : ℕ)
    (class_ : MissionScheduleFailureClass) (evidenceDigest : String) (retryable : Bool)
    (retryAt : Option DateTime) (now : DateTime) :
    Command MissionSchedule MissionScheduleError Unit := do
  let _ ← store (checkRecordFailure ownerDigest tokenDigest generation class_ evidenceDigest
    retryable retryAt now) (giveUpLease retryAt now)

/-! ## The end of the record -/

def isOpen (self : MissionSchedule) : Bool :=
  self.status == .pending || self.status == .leased

def close (status : MissionScheduleStatus) (now : DateTime) (self : MissionSchedule) :
    MissionSchedule :=
  touch now { self with status := status, lease := none, retryNotBefore := none }

def checkCancel (evidenceDigest : String) (self : MissionSchedule) :
    Except MissionScheduleError Unit := do
  self.validate
  rejectIf (!self.isOpen || !isSha256 evidenceDigest) .notCancellable
  self.ensureTouchable

def cancel (evidenceDigest : String) (now : DateTime) :
    Command MissionSchedule MissionScheduleError Unit :=
  store (checkCancel evidenceDigest) (fun _ => close .cancelled now)

def checkExpire (now : DateTime) (self : MissionSchedule) : Except MissionScheduleError Unit := do
  self.validate
  rejectIf (!self.isOpen || decide (now < self.contractValidUntil)) .notExpirable
  self.ensureTouchable

def expire (now : DateTime) : Command MissionSchedule MissionScheduleError Unit :=
  store (checkExpire now) (fun _ => close .expired now)

end MissionSchedule

/-! ## The machine -/

/-- The commands of a schedule. -/
inductive MissionScheduleCommand
  | signalEvent (topic eventIdDigest payloadDigest : String) (observedAt : DateTime)
  | claim (ownerDigest tokenDigest : String) (leaseDuration : ℤ) (now : DateTime)
  | heartbeat (ownerDigest tokenDigest : String) (generation : ℕ) (leaseDuration : ℤ)
    (now : DateTime)
  | markTriggered (ownerDigest tokenDigest : String) (generation : ℕ) (mission : Mission)
    (now : DateTime)
  | recordFailure (ownerDigest tokenDigest : String) (generation : ℕ)
    (class_ : MissionScheduleFailureClass) (evidenceDigest : String) (retryable : Bool)
    (retryAt : Option DateTime) (now : DateTime)
  | cancel (evidenceDigest : String) (now : DateTime)
  | expire (now : DateTime)

/-- What a command returns. -/
inductive MissionScheduleReply
  | done
  | signaled (bound : Bool)
  | leased (lease : MissionScheduleLease)
deriving DecidableEq

/-- What a command does. -/
def MissionScheduleCommand.toCommand (enc : MissionEncoding) :
    MissionScheduleCommand → Command MissionSchedule MissionScheduleError MissionScheduleReply
  | .signalEvent topic eventIdDigest payloadDigest observedAt =>
    .signaled <$> MissionSchedule.signalEvent ⟨topic, eventIdDigest, payloadDigest, observedAt⟩
  | .claim ownerDigest tokenDigest leaseDuration now =>
    .leased <$> MissionSchedule.claim enc ownerDigest tokenDigest leaseDuration now
  | .heartbeat ownerDigest tokenDigest generation leaseDuration now =>
    (fun _ => .done) <$>
      MissionSchedule.heartbeat ownerDigest tokenDigest generation leaseDuration now
  | .markTriggered ownerDigest tokenDigest generation mission now =>
    (fun _ => .done) <$>
      MissionSchedule.markTriggered ownerDigest tokenDigest generation mission now
  | .recordFailure ownerDigest tokenDigest generation class_ evidenceDigest retryable retryAt now =>
    (fun _ => .done) <$> MissionSchedule.recordFailure ownerDigest tokenDigest generation class_
      evidenceDigest retryable retryAt now
  | .cancel evidenceDigest now => (fun _ => .done) <$> MissionSchedule.cancel evidenceDigest now
  | .expire now => (fun _ => .done) <$> MissionSchedule.expire now

def MissionSchedule.step (enc : MissionEncoding) (self : MissionSchedule)
    (command : MissionScheduleCommand) :
    Except MissionScheduleError MissionScheduleReply × MissionSchedule :=
  (command.toCommand enc).exec self

end Hartevo
