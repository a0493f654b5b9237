import Hartevo.Collaboration.Model
import Hartevo.Mission.Digest

/-!
# Runtime turns

A coordinator dispatches one turn to a runtime and records what it observes: every step of the turn
appends an entry to the evidence of the attempt, with the status that it left.  The attempt also
keeps the identity of the turn at the runtime, the digests of the dispatch, a local approval that is
asked for, and the failures.

`RuntimeTurnAttempt.validate` reads an attempt without knowing how it came about: the evidence has
to be a path of the status graph (`validStatusTransition`) that ends in the status, and the other
fields have to fit the status.  `RuntimeTurnAttempt.validateTransitionFrom` compares it with an
earlier one.

The JSON form of the scope is code of another package and enters with the encoding.
-/

namespace Hartevo

/-! ## Identifiers and errors -/

abbrev ContextAssemblyId := String
abbrev ContextCheckpointId := String
abbrev RuntimeRecoveryAttemptId := String
abbrev RuntimeTurnAttemptId := String

inductive RuntimeTurnError
  | invalidScope
  | invalidEvidence
  | invalidPrivateTextDelta
  | invalidAttempt
  | invalidTransition
  | revisionOverflow
deriving DecidableEq

def maxTurnEvidence : ℕ := 4096

def maxTurnFailures : ℕ := 32

def isIdentifier (value : String) : Bool :=
  !value.isEmpty && decide (strLen value ≤ 1024) &&
    !value.toList.any fun c => c.toNat < 0x20 || c.toNat == 0x7F

/-! ## Scope -/

inductive RuntimeTurnPurpose
  | agent | followup | compaction
deriving DecidableEq

structure RuntimeTurnScope where
  purpose : RuntimeTurnPurpose
  tenantId : TenantId
  projectId : ProjectId
  missionId : MissionId
  workspaceId : ContextWorkspaceId
  capsuleId : ContextCapsuleId
  capsuleRevision : ℕ
  capsuleAuthorityDigest : String
  branchId : ContextBranchId
  branchRevision : ℕ
  workerId : WorkerId
  workerGeneration : ℕ
  workerLeaseId : WorkerLeaseId
  workerLeaseRevision : ℕ
  attachmentEpoch : ℕ
  assemblyId : ContextAssemblyId
  assemblyRevision : ℕ
  assemblyManifestDigest : String
  assemblyInputDigest : String
  promptDigest : String
  checkpointId : ContextCheckpointId
  checkpointDigest : String
  recoveryId : RuntimeRecoveryAttemptId
  recoveryRevision : ℕ
  runtimeInstanceDigest : String
  runtimeMappingDigest : String
  runtimeThreadId : String
  runtimeThreadIdDigest : String
deriving DecidableEq

/-- SHA-256, and the JSON form of a scope. -/
structure RuntimeTurnEncoding extends MissionEncoding where
  scopeJson : RuntimeTurnScope → List UInt8

def MissionEncoding.textDigest (enc : MissionEncoding) (text : String) : String :=
  enc.digest (utf8 text)

namespace RuntimeTurnScope

def validate (enc : RuntimeTurnEncoding) (self : RuntimeTurnScope) :
    Except RuntimeTurnError Unit :=
  rejectIf (self.capsuleRevision == 0 || self.branchRevision == 0 || self.workerGeneration == 0 ||
    self.workerLeaseRevision == 0 || self.attachmentEpoch == 0 || self.assemblyRevision == 0 ||
    self.recoveryRevision == 0 || !isIdentifier self.runtimeThreadId ||
    !isSha256 self.capsuleAuthorityDigest || !isSha256 self.assemblyManifestDigest ||
    !isSha256 self.assemblyInputDigest || !isSha256 self.promptDigest ||
    !isSha256 self.checkpointDigest || !isSha256 self.runtimeInstanceDigest ||
    !isSha256 self.runtimeMappingDigest || !isSha256 self.runtimeThreadIdDigest ||
    enc.textDigest self.runtimeThreadId != self.runtimeThreadIdDigest) .invalidScope

/-- The serialisation of the scope never fails. -/
def digest (enc : RuntimeTurnEncoding) (self : RuntimeTurnScope) :
    Except RuntimeTurnError String := do
  self.validate enc
  return enc.digest (enc.scopeJson self)

end RuntimeTurnScope

/-! ## Statuses and evidence -/

inductive RuntimeTurnStatus
  | prepared | dispatching | running | waitingLocalApproval | approvalResponding
  | interruptRequested | completed | interrupted | failed | uncertain
deriving DecidableEq

namespace RuntimeTurnStatus

def isTerminal : RuntimeTurnStatus → Bool
  | .completed | .interrupted | .failed => true
  | _ => false

/-- The runtime may report on the turn. -/
def isObservable : RuntimeTurnStatus → Bool
  | .running | .waitingLocalApproval | .interruptRequested | .uncertain => true
  | _ => false

/-- The turn was dispatched, and its outcome can become uncertain. -/
def isLive : RuntimeTurnStatus → Bool
  | .dispatching | .running | .waitingLocalApproval | .approvalResponding | .interruptRequested =>
    true
  | _ => false

/-- A local approval is asked for or answered. -/
def awaitsApproval : RuntimeTurnStatus → Bool
  | .waitingLocalApproval | .approvalResponding => true
  | _ => false

/-- The turn was accepted by the runtime. -/
def needsDispatch : RuntimeTurnStatus → Bool
  | .running | .waitingLocalApproval | .approvalResponding | .interruptRequested | .completed
  | .interrupted => true
  | _ => false

end RuntimeTurnStatus

inductive RuntimeTurnFailureClass
  | dispatchRejected | dispatchNotSent | dispatchUncertain | protocol | runtimeExited | eventStream
  | approvalResponseUncertain | interruptUncertain | runtimeReportedFailure | coordinatorRestart
deriving DecidableEq

inductive RuntimeTurnEvidenceKind
  | prepared | dispatchStarted | dispatchAccepted | turnStarted | itemStarted | agentMessageDelta
  | itemCompleted | diagnostic | localApprovalRequested | localApprovalResponseStarted
  | localApprovalResponseSent | interruptRequested | interruptAccepted | completed | interrupted
  | failed | uncertain
deriving DecidableEq

/-- A report of the runtime that leaves the status as it is. -/
def RuntimeTurnEvidenceKind.isProgress : RuntimeTurnEvidenceKind → Bool
  | .turnStarted | .itemStarted | .agentMessageDelta | .itemCompleted | .diagnostic => true
  | _ => false

structure RuntimeTurnEvidence where
  sequence : ℕ
  kind : RuntimeTurnEvidenceKind
  evidenceDigest : String
  resultingStatus : RuntimeTurnStatus
  observedAt : DateTime
deriving DecidableEq

structure RuntimeTurnFailure where
  class_ : RuntimeTurnFailureClass
  evidenceDigest : String
  recordedAt : DateTime
deriving DecidableEq

def isTerminalReport : RuntimeTurnStatus → RuntimeTurnEvidenceKind → Bool
  | .completed, .completed | .interrupted, .interrupted | .failed, .failed => true
  | _, _ => false

def validStatusTransition (previous current : RuntimeTurnStatus)
    (evidence : RuntimeTurnEvidenceKind) : Bool :=
  match previous, current, evidence with
  | .prepared, .dispatching, .dispatchStarted
  | .prepared, .failed, .failed
  | .dispatching, .failed, .failed
  | .dispatching, .running, .dispatchAccepted
  | .running, .waitingLocalApproval, .localApprovalRequested
  | .waitingLocalApproval, .approvalResponding, .localApprovalResponseStarted
  | .approvalResponding, .running, .localApprovalResponseSent
  | .running, .interruptRequested, .interruptRequested
  | .waitingLocalApproval, .interruptRequested, .interruptRequested
  | .interruptRequested, .interruptRequested, .interruptAccepted => true
  | previous, current, .uncertain => previous.isLive && current == .uncertain
  | previous, current, evidence =>
    if previous == current then current.isObservable && evidence.isProgress
    else previous.isObservable && isTerminalReport current evidence

/-! ## Attempts -/

structure RuntimeTurnAttempt where
  id : RuntimeTurnAttemptId
  scope : RuntimeTurnScope
  runtimeTurnId : Option String
  runtimeTurnIdDigest : Option String
  dispatchRequestDigest : Option String
  dispatchResponseDigest : Option String
  pendingApprovalRequestDigest : Option String
  approvalDecisionDigest : Option String
  interruptRequestDigest : Option String
  failures : List RuntimeTurnFailure
  evidence : List RuntimeTurnEvidence
  status : RuntimeTurnStatus
  revision : ℕ
  createdAt : DateTime
  updatedAt : DateTime

namespace RuntimeTurnAttempt

/-- The number of entries, the instants or the ends of the evidence do not fit the attempt. -/
def headerInvalid (self : RuntimeTurnAttempt) : Bool :=
  self.revision == 0 || self.revision != self.evidence.length || self.evidence.isEmpty ||
    decide (maxTurnEvidence < self.evidence.length) ||
    decide (maxTurnFailures < self.failures.length) || decide (self.updatedAt < self.createdAt) ||
    (self.evidence.head?.any fun first => first.sequence != 1 || first.kind != .prepared ||
      first.resultingStatus != .prepared) ||
    self.evidence.getLast?.map (·.resultingStatus) != some self.status

/-- An entry does not follow the one before it. -/
def evidenceInvalid (createdAt : DateTime) (index : ℕ) (previous : Option RuntimeTurnEvidence)
    (evidence : RuntimeTurnEvidence) : Bool :=
  evidence.sequence != index + 1 || !isSha256 evidence.evidenceDigest ||
    decide (evidence.observedAt < createdAt) ||
    previous.any fun previous => decide (evidence.observedAt < previous.observedAt) ||
      !validStatusTransition previous.resultingStatus evidence.resultingStatus evidence.kind

def validateEvidence (createdAt : DateTime) : ℕ → Option RuntimeTurnEvidence →
    List RuntimeTurnEvidence → Except RuntimeTurnError Unit
  | _, _, [] => .ok ()
  | index, previous, evidence :: rest => do
    rejectIf (evidenceInvalid createdAt index previous evidence) .invalidAttempt
    validateEvidence createdAt (index + 1) (some evidence) rest

def identityValid (enc : RuntimeTurnEncoding) (self : RuntimeTurnAttempt) : Bool :=
  match self.runtimeTurnId, self.runtimeTurnIdDigest with
  | some turnId, some turnDigest =>
    isIdentifier turnId && enc.textDigest turnId == turnDigest
  | none, none => true
  | _, _ => false

def dispatchEvidencePresent (self : RuntimeTurnAttempt) : Bool :=
  self.dispatchRequestDigest.isSome && self.dispatchResponseDigest.isSome &&
    self.runtimeTurnId.isSome

/-- An optional digest is there and is none. -/
def notDigest (value : Option String) : Bool :=
  value.any fun digest => !isSha256 digest

/-- The optional fields are not digests, or do not fit the status. -/
def sidesInvalid (self : RuntimeTurnAttempt) : Bool :=
  notDigest self.dispatchRequestDigest || notDigest self.dispatchResponseDigest ||
    notDigest self.pendingApprovalRequestDigest || notDigest self.approvalDecisionDigest ||
    notDigest self.interruptRequestDigest ||
    (self.status.needsDispatch && !self.dispatchEvidencePresent) ||
    (self.status == .prepared && self.revision != 1) ||
    (self.status == .dispatching && self.runtimeTurnId.isSome) ||
    (self.status == .waitingLocalApproval && self.pendingApprovalRequestDigest.isNone) ||
    (self.status == .approvalResponding && (self.pendingApprovalRequestDigest.isNone ||
      self.approvalDecisionDigest.isNone)) ||
    (!self.status.awaitsApproval && self.pendingApprovalRequestDigest.isSome)

def validate (enc : RuntimeTurnEncoding) (self : RuntimeTurnAttempt) :
    Except RuntimeTurnError Unit := do
  self.scope.validate enc
  rejectIf self.headerInvalid .invalidAttempt
  validateEvidence self.createdAt 0 none self.evidence
  rejectIf (self.failures.any fun failure => !isSha256 failure.evidenceDigest) .invalidAttempt
  rejectIf (!self.identityValid enc) .invalidAttempt
  rejectIf self.sidesInvalid .invalidAttempt

def changed (previous current : Option String) : Bool :=
  previous.any fun value => current != some value

def validateTransitionFrom (enc : RuntimeTurnEncoding) (self previous : RuntimeTurnAttempt) :
    Except RuntimeTurnError Unit := do
  self.validate enc
  previous.validate enc
  let last ← okOr self.evidence.getLast? .invalidTransition
  rejectIf (self.id != previous.id || self.scope != previous.scope ||
    self.createdAt != previous.createdAt || self.revision != previous.revision + 1 ||
    self.evidence.length != previous.evidence.length + 1 ||
    !previous.evidence.isPrefixOf self.evidence ||
    decide (self.failures.length < previous.failures.length) ||
    decide (previous.failures.length + 1 < self.failures.length) ||
    !previous.failures.isPrefixOf self.failures ||
    changed previous.runtimeTurnId self.runtimeTurnId ||
    changed previous.runtimeTurnIdDigest self.runtimeTurnIdDigest ||
    changed previous.dispatchRequestDigest self.dispatchRequestDigest ||
    changed previous.dispatchResponseDigest self.dispatchResponseDigest ||
    changed previous.interruptRequestDigest self.interruptRequestDigest ||
    !validStatusTransition previous.status self.status last.kind) .invalidTransition

end RuntimeTurnAttempt

end Hartevo
