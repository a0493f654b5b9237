import Hartevo.Mission.Contract

/-!
# The data of a Mission

The aggregate `Mission` with its tasks, evidence, work products, effects and outcomes, and, for a
Mission compiled from a Catalog manifest, the `MissionDefinition` with its ordered checkpoints.
The list components are ordered as they were appended and every lookup by identifier takes the
first match.

The confidence of an evidence item is a float that no command reads; it is left out.  The sources
of an application proof are a set that is only iterated, so they are given by the list of their
elements in iteration order.
-/

namespace Hartevo

/-! ## Stages, tasks, evidence and work products -/

inductive MissionStage
  | draft | ready | running | blocked | waitingUser | waitingApproval | verifying
  | cycleReviewed | scheduled | completed | partialOutcome | expectedRefusal | failed | cancelled
deriving DecidableEq

def MissionStage.isTerminal : MissionStage → Bool
  | .completed | .partialOutcome | .expectedRefusal | .failed | .cancelled => true
  | _ => false

inductive MissionTerminalDisposition
  | completed | partialOutcome | expectedRefusal | failed | cancelled
deriving DecidableEq

def MissionTerminalDisposition.stage : MissionTerminalDisposition → MissionStage
  | .completed => .completed
  | .partialOutcome => .partialOutcome
  | .expectedRefusal => .expectedRefusal
  | .failed => .failed
  | .cancelled => .cancelled

structure MissionBlock where
  code : String
  detail : String
  recoverable : Bool
  observedAt : DateTime

inductive TaskStatus
  | ready | running | blocked | completed | cancelled
deriving DecidableEq

structure Task where
  id : TaskId
  title : String
  status : TaskStatus
  capability : String

inductive EvidenceStatus
  | candidate | confirmed | conflicted | invalidated
deriving DecidableEq

structure Evidence where
  id : EvidenceId
  title : String
  sourceUri : String
  observedAt : DateTime
  status : EvidenceStatus
  contentDigest : String

inductive WorkProductStatus
  | draft | readyForReview | accepted | superseded
deriving DecidableEq

structure WorkProduct where
  id : WorkProductId
  title : String
  body : String
  evidenceIds : BTreeSet EvidenceId
  revision : ℕ
  status : WorkProductStatus
  contentDigest : String

/-! ## Effects -/

inductive EffectRisk
  | low | medium | high | critical

inductive ConsentState
  | notRequired | confirmed | missing | withdrawn

inductive EffectStatus
  | proposed | approved | rejected | cancelled | executing | receiptRecorded
  | verificationRequired | verified | reconciled | deadLetter | failed | expired
deriving DecidableEq

inductive DurableProviderState
  | rejected | uncertain | reconciledNotExecuted | deadLetter
deriving DecidableEq

inductive ConsentPurpose
  | emailMarketing | directOutreach | automatedReply | partnerContact | dataSync | attribution
deriving DecidableEq

inductive ContactChannel
  | email | phone | socialDirectMessage | chat
deriving DecidableEq

structure ConsentRequirement where
  personId : PersonId
  purpose : ConsentPurpose
  channel : ContactChannel
  market : String

def ConsentRequirement.validate (requirement : ConsentRequirement) : Bool :=
  !isBlank requirement.personId && !isBlank requirement.market

structure ConversationEffectGuard where
  conversationId : ConversationId
  controlGeneration : ℕ
  scopeDigest : String

structure CreatorContactEffectGuard where
  hiringId : CreatorHiringId
  creatorId : CreatorId
  partnerId : PartnerId
  scopeDigest : String
  permissionEvidenceDigest : String

structure EffectSpec where
  id : EffectId
  actorId : ActorId
  capability : String
  provider : String
  connectionId : Option ConnectionId
  accountId : Option AccountId
  requiredScopes : BTreeSet String
  effectClass : EffectClass
  description : String
  targetResource : String
  audienceDigest : Option String
  payloadDigest : String
  assetDigests : BTreeSet String
  scheduledFor : Option DateTime
  timezone : String
  consent : ConsentState
  consentRecordId : Option ConsentRecordId
  consentRequirement : Option ConsentRequirement
  conversationGuard : Option ConversationEffectGuard
  creatorContactGuard : Option CreatorContactEffectGuard
  policyVersion : String
  risk : EffectRisk
  idempotencyKey : String
  amount : Money
  expiresAt : DateTime

inductive ApprovalDecision
  | approved | rejected
deriving DecidableEq

structure Approval where
  id : ApprovalId
  decision : ApprovalDecision
  decidedBy : ActorId
  decidedAt : DateTime
  validUntil : DateTime
  scopeDigest : String
  permissionDigest : String

structure Receipt where
  id : ReceiptId
  provider : String
  externalId : String
  acceptedAt : DateTime
  requestDigest : String
  responseDigest : String
deriving DecidableEq

inductive VerificationStatus
  | confirmed | rejected | inconclusive
deriving DecidableEq

structure Verification where
  id : VerificationId
  status : VerificationStatus
  verifier : String
  independent : Bool
  observedAt : DateTime
  evidenceDigest : String
  receiptId : ReceiptId

structure Effect where
  id : EffectId
  tenantId : TenantId
  projectId : ProjectId
  missionId : MissionId
  actorId : ActorId
  capability : String
  provider : String
  connectionId : Option ConnectionId
  accountId : Option AccountId
  requiredScopes : BTreeSet String
  effectClass : EffectClass
  description : String
  targetResource : String
  audienceDigest : Option String
  payloadDigest : String
  assetDigests : BTreeSet String
  scheduledFor : Option DateTime
  timezone : String
  consent : ConsentState
  consentRecordId : Option ConsentRecordId
  consentRequirement : Option ConsentRequirement
  conversationGuard : Option ConversationEffectGuard
  creatorContactGuard : Option CreatorContactEffectGuard
  policyVersion : String
  risk : EffectRisk
  idempotencyKey : String
  amount : Money
  expiresAt : DateTime
  status : EffectStatus
  approval : Option Approval
  receipt : Option Receipt
  verification : Option Verification

/-! ## Outcomes -/

inductive OutcomeDecision
  | continue_ | stop | scale | test
deriving DecidableEq

inductive MetricValue
  | count (value : ℤ)
  | money (value : Money)
  | decimal (value : Decimal) (unit : String)

structure Outcome where
  summary : String
  decision : OutcomeDecision
  metrics : BTreeMap String MetricValue
  observedAt : DateTime

inductive OutcomeReviewNextContractIntent
  | validTerminal | continueCurrentContract | scaleWithRevisedContract | testWithNewExperiment
deriving DecidableEq

structure OutcomeReviewNextContractResolution where
  schemaVersion : ℕ
  tenantId : TenantId
  projectId : ProjectId
  missionId : MissionId
  cycle : ℕ
  decisionDigest : String
  action : OutcomeDecision
  nextContractIntent : OutcomeReviewNextContractIntent
  sourceMissionId : MissionId
  sourceMissionRevision : ℕ
  sourceContractDigest : String
  continuedContractDigest : Option String
  terminalDisposition : Option MissionTerminalDisposition
  resolvedAt : DateTime

/-! ## Catalog definitions and checkpoints -/

inductive MissionCheckpointStatus
  | pending | ready | running | blocked | waitingUser | waitingApproval | verifying | completed
  | skipped
deriving DecidableEq

inductive MissionCheckpointExecutor
  | application | runtime | effectBroker | human
deriving DecidableEq

inductive MissionCheckpointCompletionPolicy
  | deterministicEvidence | workProduct | verifiedEffect | effectReadbackV2 | humanConfirmation
deriving DecidableEq

structure MissionCheckpointRoute where
  capabilityId : String
  executor : MissionCheckpointExecutor
  oracleIds : BTreeSet String
  completionPolicy : Option MissionCheckpointCompletionPolicy

structure MissionCheckpointOracleSource where
  sourceKind : String
  sourceId : String
  sourceRevision : ℕ
  projectionDigest : String
  oracleIds : BTreeSet String

structure MissionCheckpointApplicationEvidence where
  schemaVersion : ℕ
  handlerId : String
  tenantId : TenantId
  projectId : ProjectId
  missionId : MissionId
  manifestId : String
  manifestVersion : ℕ
  catalogDigest : String
  cycle : ℕ
  checkpointId : String
  dispatchMissionRevision : ℕ
  dispatchCheckpointRevision : ℕ
  verificationMissionRevision : ℕ
  verificationCheckpointRevision : ℕ
  capabilityId : String
  executor : MissionCheckpointExecutor
  completionPolicy : MissionCheckpointCompletionPolicy
  sources : List MissionCheckpointOracleSource
  observedAt : DateTime

structure MissionCheckpointCompletion where
  oracleIds : BTreeSet String
  workProductIds : BTreeSet WorkProductId
  effectIds : BTreeSet EffectId
  applicationEvidence : Option MissionCheckpointApplicationEvidence
  evidenceDigest : String
  verifiedAt : DateTime

structure MissionCheckpoint where
  id : String
  dependsOn : BTreeSet String
  route : Option MissionCheckpointRoute
  status : MissionCheckpointStatus
  revision : ℕ
  attempt : ℕ
  startedAt : Option DateTime
  block : Option MissionBlock
  completion : Option MissionCheckpointCompletion

structure MissionDefinition where
  manifestId : String
  manifestVersion : ℕ
  catalogDigest : String
  operatingMode : OperatingMode
  capabilityIds : BTreeSet String
  requiredArtifactTypes : BTreeSet String
  oracleIds : BTreeSet String
  checkpoints : List MissionCheckpoint
  cycle : ℕ

/-! ## The aggregate -/

structure Mission where
  tenantId : TenantId
  id : MissionId
  projectId : ProjectId
  title : String
  contract : OperatingContract
  definition : Option MissionDefinition
  stage : MissionStage
  tasks : List Task
  evidence : List Evidence
  workProducts : List WorkProduct
  effects : List Effect
  outcomeHistory : List Outcome
  outcome : Option Outcome
  block : Option MissionBlock
  createdAt : DateTime
  updatedAt : DateTime
  revision : ℕ

def EffectSpec.sample : EffectSpec where
  id := "effect"
  actorId := "actor"
  capability := "research"
  provider := "provider"
  connectionId := none
  accountId := none
  requiredScopes := ∅
  effectClass := .externalWrite
  description := "publish"
  targetResource := "page"
  audienceDigest := none
  payloadDigest := lowerHex 0
  assetDigests := ∅
  scheduledFor := none
  timezone := "UTC"
  consent := .notRequired
  consentRecordId := none
  consentRequirement := none
  conversationGuard := none
  creatorContactGuard := none
  policyVersion := "1"
  risk := .low
  idempotencyKey := "key"
  amount := ⟨0, .sample⟩
  expiresAt := 100

def Approval.sample : Approval where
  id := "approval"
  decision := .approved
  decidedBy := "actor"
  decidedAt := 3
  validUntil := 100
  scopeDigest := lowerHex 0
  permissionDigest := lowerHex 0

def Receipt.sample : Receipt where
  id := "receipt"
  provider := "provider"
  externalId := "external"
  acceptedAt := 5
  requestDigest := lowerHex 0
  responseDigest := lowerHex 0

def Verification.sample : Verification where
  id := "verification"
  status := .confirmed
  verifier := "verifier"
  independent := true
  observedAt := 6
  evidenceDigest := lowerHex 0
  receiptId := "receipt"

def Mission.sample : Mission where
  tenantId := "tenant"
  id := "mission"
  projectId := "project"
  title := "Sample"
  contract := OperatingContract.sample
  definition := none
  stage := .ready
  tasks := []
  evidence := []
  workProducts := []
  effects := []
  outcomeHistory := []
  outcome := none
  block := none
  createdAt := 0
  updatedAt := 0
  revision := 1

end Hartevo
