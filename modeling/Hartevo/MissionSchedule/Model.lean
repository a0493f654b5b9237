import Hartevo.Mission.Checks

/-!
# Mission schedules

A `MissionSchedule` is the authority for one future cycle of a Mission.  `MissionSchedule.prepare`
makes it from a Mission that an outcome has moved to `Scheduled`, and `MissionSchedule.validate` is
the check that every record of a schedule passes.

The duration of a wait is not a value of its own here: `nextIntervalDueAt` is `none` where the
source returns `None`, and also where `Duration::seconds` panics.
-/

namespace Hartevo

abbrev MissionScheduleId := String

inductive MissionScheduleStatus
  | pending | leased | triggered | cancelled | expired | deadLetter
deriving DecidableEq

inductive MissionScheduleFailureClass
  | leaseExpired | coordinatorRestart | runtimeUnavailable | missionConflict | invalidTrigger

structure MissionScheduleSignal where
  topic : String
  eventIdDigest : String
  payloadDigest : String
  observedAt : DateTime
deriving DecidableEq

structure MissionScheduleLease where
  ownerDigest : String
  tokenDigest : String
  generation : ℕ
  claimedAt : DateTime
  heartbeatAt : DateTime
  expiresAt : DateTime
deriving DecidableEq

structure MissionScheduleFailure where
  sequence : ℕ
  class_ : MissionScheduleFailureClass
  evidenceDigest : String
  retryable : Bool
  observedAt : DateTime

structure MissionSchedule where
  id : MissionScheduleId
  tenantId : TenantId
  projectId : ProjectId
  missionId : MissionId
  cycle : ℕ
  scheduledFromMissionRevision : ℕ
  contractVersion : ℕ
  definitionCycle : Option ℕ
  trigger : CadenceTriggerKind
  intervalSeconds : ℕ
  anchorAt : DateTime
  eventTopics : BTreeSet String
  dueAt : Option DateTime
  retryNotBefore : Option DateTime
  contractValidUntil : DateTime
  signal : Option MissionScheduleSignal
  status : MissionScheduleStatus
  leaseGeneration : ℕ
  lease : Option MissionScheduleLease
  failures : List MissionScheduleFailure
  revision : ℕ
  createdAt : DateTime
  updatedAt : DateTime

inductive MissionScheduleError
  | operatingContract (error : OperatingContractError)
  | missionNotScheduled
  | cadenceMissing
  | outcomeMissing
  | outsideContractWindow
  | cycleOverflow
  | cycleMismatch
  | invalidRecord
  | notSignalable
  | invalidSignal
  | signalAlreadyBound
  | notDue
  | invalidLease
  | leaseActive
  | leaseLost
  | invalidFailure
  | failureLimitReached
  | notCancellable
  | notExpirable
  | revisionOverflow
deriving DecidableEq

namespace MissionSchedule

def maxFailures : ℕ := 5

def triggerShapeIsValid (schedule : MissionSchedule) : Bool :=
  match schedule.trigger with
  | .interval =>
    decide (0 < schedule.intervalSeconds) && schedule.eventTopics.isEmpty &&
      schedule.dueAt.isSome && schedule.signal.isNone
  | .eventDriven =>
    schedule.intervalSeconds == 0 && !schedule.eventTopics.isEmpty && schedule.dueAt.isNone
  | .intervalOrEvent =>
    decide (0 < schedule.intervalSeconds) && !schedule.eventTopics.isEmpty &&
      schedule.dueAt.isSome

/-- The signal is for none of the topics, or was observed outside the window. -/
def signalIsInvalid (self : MissionSchedule) (signal : MissionScheduleSignal) : Bool :=
  !self.eventTopics.contains signal.topic || !isSha256 signal.eventIdDigest ||
    !isSha256 signal.payloadDigest || decide (signal.observedAt < self.createdAt) ||
    decide (self.contractValidUntil ≤ signal.observedAt)

/-- The failure has another number than its place, a text for a digest or too early a time. -/
def failureIsInvalid (self : MissionSchedule) (index : ℕ) (failure : MissionScheduleFailure) :
    Bool :=
  failure.sequence != index + 1 || !isSha256 failure.evidenceDigest ||
    decide (failure.observedAt < self.createdAt)

def leaseIsInvalid (self : MissionSchedule) (lease : MissionScheduleLease) : Bool :=
  lease.generation != self.leaseGeneration || lease.generation == 0 ||
    !isSha256 lease.ownerDigest || !isSha256 lease.tokenDigest ||
    decide (lease.claimedAt < self.createdAt) || decide (lease.heartbeatAt < lease.claimedAt) ||
    decide (lease.expiresAt ≤ lease.heartbeatAt)

def validate (self : MissionSchedule) : Except MissionScheduleError Unit := do
  rejectIf (isBlank self.id || isBlank self.tenantId || isBlank self.projectId ||
    isBlank self.missionId || decide (self.cycle < 2) || self.scheduledFromMissionRevision == 0 ||
    self.contractVersion == 0 ||
    (self.definitionCycle.any fun cycle => checkedAdd 64 cycle 1 != some self.cycle) ||
    decide (self.contractValidUntil ≤ self.createdAt) ||
    decide (self.updatedAt < self.createdAt) || self.revision == 0 ||
    self.eventTopics.toList.any isBlank || !self.triggerShapeIsValid ||
    (self.retryNotBefore.any fun value => decide (self.contractValidUntil ≤ value)) ||
    self.signal.any self.signalIsInvalid || decide (maxFailures < self.failures.length) ||
    self.failures.zipIdx.any fun entry => self.failureIsInvalid entry.2 entry.1) .invalidRecord
  match self.status with
  | .pending | .cancelled | .expired | .deadLetter => rejectIf self.lease.isSome .invalidRecord
  | .leased | .triggered => do
    let lease ← okOr self.lease .invalidRecord
    rejectIf (self.leaseIsInvalid lease) .invalidRecord

/-- The instant of the next cycle, if the cadence waits for one. -/
def dueAtOf (cadence : Cadence) (now : DateTime) :
    Except MissionScheduleError (Option DateTime) :=
  if cadence.trigger == .eventDriven then .ok none
  else some <$> okOr (nextIntervalDueAt cadence now) .cycleOverflow

def prepared (mission : Mission) (cadence : Cadence) (cycle : ℕ) (dueAt : Option DateTime)
    (now : DateTime) : MissionSchedule where
  id := "mission-schedule:" ++ mission.id ++ ":cycle:" ++ toString cycle
  tenantId := mission.tenantId
  projectId := mission.projectId
  missionId := mission.id
  cycle := cycle
  scheduledFromMissionRevision := mission.revision
  contractVersion := mission.contract.version
  definitionCycle := mission.definition.map (·.cycle)
  trigger := cadence.trigger
  intervalSeconds := cadence.intervalSeconds
  anchorAt := cadence.anchorAt
  eventTopics := cadence.eventTopics
  dueAt := dueAt
  retryNotBefore := none
  contractValidUntil := mission.contract.validUntil
  signal := none
  status := .pending
  leaseGeneration := 0
  lease := none
  failures := []
  revision := 1
  createdAt := now
  updatedAt := now

def prepare (mission : Mission) (now : DateTime) :
    Except MissionScheduleError MissionSchedule := do
  rejectIf (mission.stage != .scheduled) .missionNotScheduled
  (mission.contract.validate now).mapError .operatingContract
  let cadence ← okOr mission.contract.cadence .cadenceMissing
  let outcome ← okOr mission.outcomeHistory.getLast? .outcomeMissing
  rejectIf (decide (now < outcome.observedAt) || decide (mission.contract.validUntil ≤ now))
    .outsideContractWindow
  let cycle ← okOr ((tryFromCount 64 mission.outcomeHistory.length).bind (checkedAdd 64 · 1))
    .cycleOverflow
  rejectIf (decide (cycle < 2) ||
    mission.definition.any fun definition => checkedAdd 64 definition.cycle 1 != some cycle)
    .cycleMismatch
  let dueAt ← dueAtOf cadence now
  rejectIf (cadence.trigger == .interval &&
    dueAt.any fun due => decide (mission.contract.validUntil ≤ due)) .outsideContractWindow
  let schedule := prepared mission cadence cycle dueAt now
  schedule.validate
  return schedule

end MissionSchedule

end Hartevo
