import Hartevo.Mission.Model

/-!
# The data of a Mission loop

The control plane of long-running automatic work within one Mission: registered peers, bounded
work items (*todos*) with the claims that agents hold on them, open user gates, and the compute
accounting.  A command is an action of an operator or of a registered agent, bound to the revisions
of the loop and of the Mission that it was issued against.

The loop hashes three kinds of records after serializing them to JSON.  The serializer and SHA-256
are code of other packages, so they enter as `LoopEncoding`; what is modelled is that a digest is
the hexadecimal form of a 256-bit hash of the bytes, and that serialization may fail.
-/

namespace Hartevo

/-! ## Policy, peers and hosts -/

structure LoopPolicy where
  operatorId : ActorId
  maxSlots : ℕ
  maxParallel : ℕ
  leaseSeconds : ℕ
  stallLimit : ℕ

/-- Registration establishes identity and capacity, never authority over effects. -/
structure LoopPeer where
  id : String
  capabilities : BTreeSet String
  workspaceDigest : String

structure LoopHost where
  agentId : String
  availableCapabilities : BTreeSet String
  workspaceDigest : String

inductive LoopActor
  | operator (id : ActorId)
  | agent (id : String)
deriving DecidableEq

/-! ## Work items and claims -/

inductive LoopWorkKind
  | advancement | repair | replan | monitor
deriving DecidableEq

structure LoopMonitor where
  targetDigest : String
  nextDueAt : DateTime
  intervalSeconds : ℕ
  expiresAt : DateTime

structure LoopTodoSpec where
  id : String
  title : String
  taskId : Option TaskId
  capability : Option String
  kind : LoopWorkKind
  priority : ℕ
  dependsOn : BTreeSet String
  eligibleAgents : BTreeSet String
  requiredDecisions : BTreeSet String
  workspaceDigest : String
  writeScopes : BTreeSet String
  monitor : Option LoopMonitor

inductive LoopTodoStatus
  | opened | claimed | uncertain | completed | cancelled
deriving DecidableEq

structure LoopClaim where
  todoId : String
  agentId : String
  tokenDigest : String
  generation : ℕ
  steeringGeneration : ℕ
  authorityDigest : String
  claimedAt : DateTime
  expiresAt : DateTime
deriving DecidableEq

structure LoopTodo where
  spec : LoopTodoSpec
  status : LoopTodoStatus
  claim : Option LoopClaim
  executionStarted : Bool
  noProgressAttempts : ℕ
  lastObservationDigest : Option String

/-- The item spends a slot of the quota when it is completed. -/
def LoopTodo.isWork (todo : LoopTodo) : Bool :=
  todo.spec.kind != .monitor

/-! ## Gates -/

inductive LoopGateScope
  | mission
  | agent (id : String)
  | todo (id : String)
  | decision (id : String)

structure LoopUserGate where
  id : String
  question : String
  scope : LoopGateScope

/-! ## Results, actions and commands -/

inductive LoopContinuation
  | nextTodo (id : String)
  | userGate (id : String)
  | replan
  | noFollowup

inductive LoopTurnResult
  | progress (evidenceIds : BTreeSet EvidenceId) (continuation : LoopContinuation)
  | monitorObservation (observationDigest : String)
  | noProgress (reasonDigest : String)
  | failed (evidenceDigest : String) (uncertain : Bool)

def LoopTurnResult.isFailed : LoopTurnResult → Bool
  | .failed _ _ => true
  | _ => false

/-- The result records a failure after which the external state is not known. -/
def LoopTurnResult.isUncertain : LoopTurnResult → Bool
  | .failed _ uncertain => uncertain
  | _ => false

structure LoopRunSummary where
  sequence : ℕ
  todoId : String
  agentId : String
  evidenceDigest : String
  spentSlot : Bool
  notify : Bool
  continuation : Option LoopContinuation
  recordedAt : DateTime

inductive LoopAction
  | registerPeer (peer : LoopPeer)
  | addTodo (todo : LoopTodoSpec)
  | openGate (gate : LoopUserGate)
  | resolveGate (gateId decisionDigest : String)
  | pause (paused : Bool)
  | setQuota (maxSlots : ℕ)
  | steer (rationaleDigest : String)
  | claim (host : LoopHost) (todoId tokenDigest : String)
  | beginExecution (claim : LoopClaim) (host : LoopHost)
  | heartbeat (claim : LoopClaim)
  | settle (claim : LoopClaim) (result : LoopTurnResult)
  | reconcileRetry (todoId evidenceDigest : String)
  | reconcileSettlement (claim : LoopClaim) (result : LoopTurnResult) (readbackDigest : String)
  | cancelTodo (todoId rationaleDigest : String)
  | acknowledgeNotice (notificationDigest : String)

structure LoopCommand where
  operationId : String
  expectedRevision : ℕ
  expectedMissionRevision : ℕ
  actor : LoopActor
  action : LoopAction

structure LoopReceipt where
  revision : ℕ
  claim : Option LoopClaim
  run : Option LoopRunSummary
  replayed : Bool

/-! ## Decisions -/

inductive LoopMode
  | boundedDelivery | monitorPoll | repair | replan | userActionRequired | wait | quotaExhausted
  | paused | reconcileRequired | capabilityUnavailable | workspaceMismatch | terminal
  | contractExpired
deriving DecidableEq

inductive LoopWake
  | now
  | at (time : DateTime)
  | onStateChange
  | stop

structure LoopUserChannel where
  gateIds : List String
  notificationDigest : Option String
  notify : Bool

structure LoopDecision where
  loopRevision : ℕ
  missionRevision : ℕ
  mode : LoopMode
  selectedTodo : Option String
  user : LoopUserChannel
  wake : LoopWake
  remainingSlots : ℕ
  reservedSlots : ℕ
  reconciliationRequired : Bool

/-! ## The aggregate -/

structure LoopMissionFacts where
  mission : Mission
  steeringDigest : String

structure MissionLoop where
  schemaVersion : ℕ
  tenantId : TenantId
  projectId : ProjectId
  missionId : MissionId
  policy : LoopPolicy
  revision : ℕ
  steeringGeneration : ℕ
  claimGeneration : ℕ
  paused : Bool
  spentSlots : ℕ
  noProgressStreak : ℕ
  peers : BTreeMap String LoopPeer
  todos : BTreeMap String LoopTodo
  gates : BTreeMap String LoopUserGate
  acceptedEvidence : BTreeSet EvidenceId
  recentRuns : List LoopRunSummary
  runSequence : ℕ
  acknowledgedNotices : BTreeSet String
  createdAt : DateTime
  updatedAt : DateTime

inductive LoopError
  | invalidPolicy
  | invalidState
  | scopeMismatch
  | revisionConflict
  | missionUnavailable
  | unknownAgent
  | operatorRequired
  | actorMismatch
  | invalidTodo
  | invalidGate
  | frontierFull
  | notRunnable (mode : LoopMode)
  | claimLost
  | executionAlreadyStarted
  | evidenceRequired
  | invalidContinuation
  | overflow
  | clockRegression

/-! ## Digests -/

/-- SHA-256, and the JSON serialization of the three kinds of records the loop hashes. -/
structure LoopEncoding where
  sha256 : List UInt8 → BitVec 256
  authority : TenantId × ProjectId × MissionId × OperatingContract × String → Option (List UInt8)
  gates : List LoopUserGate → Option (List UInt8)
  evidence : List (EvidenceId × String × DateTime) → Option (List UInt8)

def loopDigest (enc : LoopEncoding) (bytes : Option (List UInt8)) : Except LoopError String :=
  match bytes with
  | some bytes => .ok (lowerHex (enc.sha256 bytes))
  | none => .error .invalidState

variable {enc : LoopEncoding} {d : String}

lemma digest_of_loopDigest {bytes : Option (List UInt8)}
    (h : loopDigest enc bytes = .ok d) : digest d = true := by
  cases bytes with
  | none => cases h
  | some bytes =>
    cases h
    exact digest_lowerHex _

/-- The digest of the authority under which a claim is issued: the identity of the Mission, its
contract, and the user steering. -/
def authorityDigest (enc : LoopEncoding) (facts : LoopMissionFacts) :
    Except LoopError String := do
  rejectIf (!digest facts.steeringDigest) .invalidState
  loopDigest enc (enc.authority (facts.mission.tenantId, facts.mission.projectId,
    facts.mission.id, facts.mission.contract, facts.steeringDigest))

lemma digest_of_authorityDigest {fs : LoopMissionFacts}
    (h : authorityDigest enc fs = .ok d) : digest d = true := by
  obtain ⟨-, -, h⟩ := bind_ok.mp h
  exact digest_of_loopDigest h

end Hartevo
