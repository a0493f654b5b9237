import Hartevo.Foundation.Machine
import Hartevo.MissionLoop.Decision

/-!
# The commands of a Mission loop

`MissionLoop.apply` runs one command: it validates the aggregate, checks the revisions, the clock
and the actor, lets `MissionLoop.transition` compute the next aggregate, and validates that one
too.  The transition works on a copy, so a failing command leaves the aggregate as it was.

Each action of the command table has a definition of its own.  The four outcomes of a settlement
are `settleProgress`, `settleObservation`, `settleNoProgress` and `settleFailure`; `settle` is what
they share: the check of the claim before, and the release of the claim and the entry in the
bounded history after.
-/

namespace Hartevo

/-- The history keeps the last `loopHistoryLimit` entries. -/
def truncateHistory (runs : List LoopRunSummary) : List LoopRunSummary :=
  runs.drop (runs.length - loopHistoryLimit)

def requireAgent (actor : LoopActor) (agent : String) : Except LoopError Unit :=
  rejectIf (actor != .agent agent) .actorMismatch

def LoopMonitor.advance (monitor : LoopMonitor) (now : DateTime) :
    Except LoopError LoopMonitor := do
  let interval : ℤ := monitor.intervalSeconds
  let elapsed := max (numSeconds (now - monitor.nextDueAt)) 0
  let ticks ← okOr (checkedI64 (elapsed / interval + 1)) .overflow
  let advance ← okOr (checkedI64 (ticks * interval)) .overflow
  let nextDueAt ← okOr (DateTime.checkedAddSeconds monitor.nextDueAt advance) .overflow
  return { monitor with nextDueAt }

def LoopTodo.new (spec : LoopTodoSpec) : LoopTodo where
  spec := spec
  status := .opened
  claim := none
  executionStarted := false
  noProgressAttempts := 0
  lastObservationDigest := none

def LoopTodo.release (todo : LoopTodo) : LoopTodo :=
  if todo.status != .uncertain then { todo with claim := none, executionStarted := false } else todo

/-- A claim becomes uncertain when it is invalidated; nothing else changes. -/
def LoopTodo.invalidate (todo : LoopTodo) : LoopTodo :=
  if todo.claim.isSome then { todo with status := .uncertain } else todo

namespace MissionLoop

/-! ## Shared checks and updates -/

def requireOperator (self : MissionLoop) (actor : LoopActor) : Except LoopError Unit :=
  rejectIf (actor != .operator self.policy.operatorId) .operatorRequired

def validateActor (self : MissionLoop) (actor : LoopActor) : Except LoopError Unit :=
  match actor with
  | .operator _ => self.requireOperator actor
  | .agent id => rejectIf (!self.peers.contains id) .unknownAgent

def validateTaskBinding (todo : LoopTodoSpec) (mission : Mission) : Except LoopError Unit :=
  rejectIf (todo.taskId.any fun id =>
    !(mission.tasks.any fun task => task.id == id && todo.capability == some task.capability) ||
      todo.capability.all fun capability =>
        !mission.contract.enabledCapabilities.contains capability ||
          mission.contract.forbiddenCapabilities.contains capability) .invalidTodo

def validateContinuation (self : MissionLoop) (current : String) (continuation : LoopContinuation) :
    Except LoopError Unit :=
  match continuation with
  | .nextTodo id =>
    rejectIf (id == current || self.todos[id]?.all fun todo =>
      !(todo.status == .opened || todo.status == .claimed)) .invalidContinuation
  | .userGate id => rejectIf (!self.gates.contains id) .invalidContinuation
  | .replan | .noFollowup => .ok ()

/-- The digests of the current notifications of the registered peers. -/
def currentNotices (enc : LoopEncoding) (self : MissionLoop) :
    Except LoopError (List String) := do
  let channels ← self.peers.keys.mapM (self.userChannel enc)
  return channels.filterMap (·.notificationDigest)

def pruneNoticeAcknowledgements (enc : LoopEncoding) (self : MissionLoop) :
    Except LoopError MissionLoop := do
  let current ← self.currentNotices enc
  return { self with
    acknowledgedNotices := self.acknowledgedNotices.filter fun notice => current.contains notice }

/-- The work items after the claims on them were invalidated. -/
def invalidatedTodos (self : MissionLoop) : BTreeMap String LoopTodo :=
  self.todos.map fun _ todo => todo.invalidate

def invalidateClaims (self : MissionLoop) : Except LoopError MissionLoop := do
  let steeringGeneration ← okOr (checkedAdd 64 self.steeringGeneration 1) .overflow
  return { self with steeringGeneration, todos := self.invalidatedTodos }

def leaseExpiry (self : MissionLoop) (mission : Mission) (todo : LoopTodo) (now : DateTime) :
    Except LoopError DateTime := do
  let lease ← okOr (DateTime.checkedAddSeconds now self.policy.leaseSeconds) .overflow
  let expiresAt := min lease mission.contract.validUntil
  return todo.spec.monitor.elim expiresAt fun monitor => min expiresAt monitor.expiresAt

/-! ## Actions on the frontier -/

def registerPeer (self : MissionLoop) (actor : LoopActor) (peer : LoopPeer) :
    Except LoopError MissionLoop := do
  self.requireOperator actor
  rejectIf (decide (loopPeerLimit ≤ self.peers.size)) .frontierFull
  rejectIf (!token peer.id || !digest peer.workspaceDigest ||
    peer.capabilities.toList.any (!token ·) || self.peers.contains peer.id) .invalidState
  return { self with peers := self.peers.insert peer.id peer }

def addTodo (self : MissionLoop) (mission : Mission) (todo : LoopTodoSpec) :
    Except LoopError MissionLoop := do
  rejectIf (decide (loopFrontierLimit ≤ self.todos.size)) .frontierFull
  rejectIf (self.todos.contains todo.id) .invalidTodo
  self.validateTodoSpec todo
  validateTaskBinding todo mission
  return { self with todos := self.todos.insert todo.id (LoopTodo.new todo) }

/-- An agent opens gates for itself, for a work item or for a decision, not for the Mission. -/
def validateGateActor (actor : LoopActor) (scope : LoopGateScope) : Except LoopError Unit :=
  match actor, scope with
  | .agent _, .mission => .error .operatorRequired
  | .agent agent, .agent id => rejectIf (id != agent) .actorMismatch
  | _, _ => .ok ()

def openGate (enc : LoopEncoding) (self : MissionLoop) (actor : LoopActor)
    (gate : LoopUserGate) : Except LoopError MissionLoop := do
  rejectIf (decide (loopFrontierLimit ≤ self.gates.size)) .frontierFull
  self.validateGate gate
  rejectIf (self.gates.contains gate.id) .invalidGate
  validateGateActor actor gate.scope
  pruneNoticeAcknowledgements enc { self with gates := self.gates.insert gate.id gate }

def resolveGate (enc : LoopEncoding) (self : MissionLoop) (actor : LoopActor)
    (gateId decisionDigest : String) : Except LoopError MissionLoop := do
  self.requireOperator actor
  rejectIf (!digest decisionDigest || !self.gates.contains gateId) .invalidGate
  pruneNoticeAcknowledgements enc { self with gates := self.gates.erase gateId }

def pause (self : MissionLoop) (actor : LoopActor) (paused : Bool) :
    Except LoopError MissionLoop := do
  self.requireOperator actor
  if paused then invalidateClaims { self with paused } else return { self with paused }

def setQuota (self : MissionLoop) (actor : LoopActor) (maxSlots : ℕ) :
    Except LoopError MissionLoop := do
  self.requireOperator actor
  let next ← (if maxSlots < self.policy.maxSlots then self.invalidateClaims else .ok self)
  return { next with policy := { next.policy with maxSlots } }

def steer (self : MissionLoop) (actor : LoopActor) (rationaleDigest : String) :
    Except LoopError MissionLoop := do
  self.requireOperator actor
  rejectIf (!digest rationaleDigest) .invalidState
  self.invalidateClaims

def cancelTodo (self : MissionLoop) (actor : LoopActor) (todoId rationaleDigest : String) :
    Except LoopError MissionLoop := do
  self.requireOperator actor
  rejectIf (!digest rationaleDigest) .invalidState
  let todo ← okOr self.todos[todoId]? .invalidTodo
  rejectIf (todo.status != .opened || todo.claim.isSome) .claimLost
  return { self with todos := self.todos.insert todoId { todo with status := .cancelled } }

/-- The notification is the current one of the agent, or of some peer when the operator asks. -/
def noticeIsKnown (enc : LoopEncoding) (self : MissionLoop) (actor : LoopActor)
    (notificationDigest : String) : Except LoopError Bool :=
  match actor with
  | .agent agent => do
    let channel ← self.userChannel enc agent
    return channel.notificationDigest == some notificationDigest
  | .operator _ => .ok (self.peers.keys.any fun agent =>
      match self.userChannel enc agent with
      | .ok channel => channel.notificationDigest == some notificationDigest
      | .error _ => false)

def acknowledgeNotice (enc : LoopEncoding) (self : MissionLoop) (actor : LoopActor)
    (notificationDigest : String) : Except LoopError MissionLoop := do
  rejectIf (!digest notificationDigest) .invalidState
  let known ← self.noticeIsKnown enc actor notificationDigest
  rejectIf (!known) .invalidGate
  return { self with acknowledgedNotices := self.acknowledgedNotices.insert notificationDigest }

/-! ## Actions on a claim -/

def claimTodo (enc : LoopEncoding) (self : MissionLoop) (facts : LoopMissionFacts)
    (actor : LoopActor) (host : LoopHost) (todoId tokenDigest : String) (now : DateTime) :
    Except LoopError (MissionLoop × LoopClaim) := do
  requireAgent actor host.agentId
  rejectIf (!digest tokenDigest) .invalidState
  let decision ← self.decisionForTodo enc facts host todoId now
  rejectIf (decision.selectedTodo != some todoId) (.notRunnable decision.mode)
  let claimGeneration ← okOr (checkedAdd 64 self.claimGeneration 1) .overflow
  let todo ← okOr self.todos[todoId]? .invalidTodo
  let expiresAt ← self.leaseExpiry facts.mission todo now
  let authority ← authorityDigest enc facts
  let claim : LoopClaim := {
    todoId
    agentId := host.agentId
    tokenDigest
    generation := claimGeneration
    steeringGeneration := self.steeringGeneration
    authorityDigest := authority
    claimedAt := now
    expiresAt }
  let todo := { todo with status := .claimed, claim := some claim, executionStarted := false }
  return ({ self with claimGeneration, todos := self.todos.insert todoId todo }, claim)

def beginExecution (enc : LoopEncoding) (self : MissionLoop) (facts : LoopMissionFacts)
    (actor : LoopActor) (claim : LoopClaim) (host : LoopHost) (now : DateTime) :
    Except LoopError MissionLoop := do
  requireAgent actor claim.agentId
  rejectIf (host.agentId != claim.agentId) .actorMismatch
  self.requireClaim enc facts claim now
  let peer ← okOr self.peers[claim.agentId]? .unknownAgent
  rejectIf (host.workspaceDigest != peer.workspaceDigest) (.notRunnable .workspaceMismatch)
  let todo ← okOr self.todos[claim.todoId]? .claimLost
  rejectIf todo.executionStarted .executionAlreadyStarted
  match self.ineligibleReason facts.mission peer host todo with
  | some reason => .error (.notRunnable reason)
  | none =>
    .ok { self with todos := self.todos.insert claim.todoId { todo with executionStarted := true } }

def heartbeat (enc : LoopEncoding) (self : MissionLoop) (facts : LoopMissionFacts)
    (actor : LoopActor) (claim : LoopClaim) (now : DateTime) :
    Except LoopError (MissionLoop × LoopClaim) := do
  requireAgent actor claim.agentId
  self.requireClaim enc facts claim now
  let todo ← okOr self.todos[claim.todoId]? .claimLost
  let expiresAt ← self.leaseExpiry facts.mission todo now
  let renewed := { claim with expiresAt }
  let todo := { todo with claim := some renewed }
  return ({ self with todos := self.todos.insert claim.todoId todo }, renewed)

def reconcileRetry (enc : LoopEncoding) (self : MissionLoop) (facts : LoopMissionFacts)
    (actor : LoopActor) (todoId evidenceDigest : String) (now : DateTime) :
    Except LoopError MissionLoop := do
  self.requireOperator actor
  rejectIf (!digest evidenceDigest) .evidenceRequired
  let todo ← okOr self.todos[todoId]? .invalidTodo
  let claim ← okOr todo.claim .claimLost
  -- The authority digest is compared only while the claim could still be in use.
  (if todo.status != .uncertain && decide (now < claim.expiresAt) then do
    let authority ← authorityDigest enc facts
    rejectIf (claim.authorityDigest == authority) .claimLost
  else .ok ())
  let todo := { todo with claim := none, executionStarted := false, status := .opened }
  return { self with todos := self.todos.insert todoId todo }

/-! ## Settlement -/

/-- One item of the evidence for progress: the first of its id in the Mission, confirmed, not used
before, and observed while the claim was held. -/
def acceptEvidence (self : MissionLoop) (mission : Mission) (claim : LoopClaim) (now : DateTime)
    (id : EvidenceId) : Except LoopError (EvidenceId × String × DateTime) := do
  let item ← okOr (mission.evidence.find? (·.id == id)) .evidenceRequired
  rejectIf (item.status != .confirmed || self.acceptedEvidence.contains id ||
    decide (item.observedAt < claim.claimedAt) || decide (now < item.observedAt) ||
    !digest item.contentDigest) .evidenceRequired
  return (item.id, item.contentDigest, item.observedAt)

def settleProgress (enc : LoopEncoding) (self : MissionLoop) (mission : Mission)
    (claim : LoopClaim) (evidenceIds : BTreeSet EvidenceId) (continuation : LoopContinuation)
    (todo : LoopTodo) (run : LoopRunSummary) (now : DateTime) :
    Except LoopError (MissionLoop × LoopTodo × LoopRunSummary) := do
  rejectIf (todo.spec.kind == .monitor) .invalidState
  self.validateContinuation todo.spec.id continuation
  rejectIf evidenceIds.isEmpty .evidenceRequired
  let evidence ← evidenceIds.toList.mapM (self.acceptEvidence mission claim now)
  let evidenceDigest ← loopDigest enc (enc.evidence evidence)
  let spentSlots ← okOr (checkedAdd 32 self.spentSlots 1) .overflow
  return (
    { self with
      spentSlots
      acceptedEvidence := self.acceptedEvidence.insertMany evidenceIds.toList
      noProgressStreak := 0 },
    { todo with status := .completed },
    { run with
      evidenceDigest, spentSlot := true, notify := true, continuation := some continuation })

def settleObservation (self : MissionLoop) (observationDigest : String) (todo : LoopTodo)
    (run : LoopRunSummary) (now : DateTime) :
    Except LoopError (MissionLoop × LoopTodo × LoopRunSummary) := do
  rejectIf (!digest observationDigest) .invalidState
  let monitor ← okOr todo.spec.monitor .invalidState
  let advanced ← monitor.advance now
  return (self,
    { todo with
      spec := { todo.spec with monitor := some advanced }
      lastObservationDigest := some observationDigest
      status := if advanced.expiresAt ≤ advanced.nextDueAt then .completed else .opened },
    { run with
      evidenceDigest := observationDigest
      notify := todo.lastObservationDigest.any (· != observationDigest) })

def settleNoProgress (self : MissionLoop) (reasonDigest : String) (todo : LoopTodo)
    (run : LoopRunSummary) : Except LoopError (MissionLoop × LoopTodo × LoopRunSummary) := do
  rejectIf (!digest reasonDigest || todo.spec.kind == .monitor) .invalidState
  return (
    { self with noProgressStreak := saturatingAdd 16 self.noProgressStreak 1 },
    { todo with
      noProgressAttempts := saturatingAdd 16 todo.noProgressAttempts 1
      status := .opened },
    { run with evidenceDigest := reasonDigest })

def settleFailure (self : MissionLoop) (evidenceDigest : String) (uncertain : Bool)
    (todo : LoopTodo) (run : LoopRunSummary) :
    Except LoopError (MissionLoop × LoopTodo × LoopRunSummary) := do
  rejectIf (!digest evidenceDigest) .invalidState
  return (
    { self with noProgressStreak := saturatingAdd 16 self.noProgressStreak 1 },
    { todo with
      noProgressAttempts := saturatingAdd 16 todo.noProgressAttempts 1
      status := if uncertain then .uncertain else .opened },
    { run with evidenceDigest, notify := true })

/-- The effect of the outcome on the accounting, the item and the summary of the run. -/
def settleResult (enc : LoopEncoding) (self : MissionLoop) (mission : Mission)
    (claim : LoopClaim) (result : LoopTurnResult) (todo : LoopTodo) (run : LoopRunSummary)
    (now : DateTime) : Except LoopError (MissionLoop × LoopTodo × LoopRunSummary) :=
  match result with
  | .progress evidenceIds continuation =>
    self.settleProgress enc mission claim evidenceIds continuation todo run now
  | .monitorObservation observationDigest => self.settleObservation observationDigest todo run now
  | .noProgress reasonDigest => self.settleNoProgress reasonDigest todo run
  | .failed evidenceDigest uncertain => self.settleFailure evidenceDigest uncertain todo run

/-- An ambiguous failure can still be recorded after the claim was revoked; any other result needs a
claim in force, unless the operator reconciles it. -/
def settleAuthority (enc : LoopEncoding) (self : MissionLoop) (facts : LoopMissionFacts)
    (claim : LoopClaim) (result : LoopTurnResult) (reconciled : Bool) (now : DateTime) :
    Except LoopError Unit :=
  if reconciled || result.isUncertain then
    rejectIf (self.todos[claim.todoId]?.bind (·.claim) != some claim) .claimLost
  else self.requireClaim enc facts claim now

def settle (enc : LoopEncoding) (self : MissionLoop) (facts : LoopMissionFacts)
    (claim : LoopClaim) (result : LoopTurnResult) (reconciled : Bool) (now : DateTime) :
    Except LoopError (MissionLoop × LoopRunSummary) := do
  self.settleAuthority enc facts claim result reconciled now
  let todo ← okOr self.todos[claim.todoId]? .claimLost
  rejectIf (!todo.executionStarted && !result.isFailed) .claimLost
  let sequence ← okOr (checkedAdd 64 self.runSequence 1) .overflow
  let run : LoopRunSummary := {
    sequence
    todoId := claim.todoId
    agentId := claim.agentId
    evidenceDigest := ""
    spentSlot := false
    notify := false
    continuation := none
    recordedAt := now }
  let (next, todo, run) ← self.settleResult enc facts.mission claim result todo run now
  let todo := todo.release
  return ({ next with
    todos := next.todos.insert todo.spec.id todo
    runSequence := sequence
    recentRuns := truncateHistory (next.recentRuns ++ [run]) }, run)

def reconcileSettlement (enc : LoopEncoding) (self : MissionLoop) (facts : LoopMissionFacts)
    (actor : LoopActor) (claim : LoopClaim) (result : LoopTurnResult) (readbackDigest : String)
    (now : DateTime) : Except LoopError (MissionLoop × LoopRunSummary) := do
  self.requireOperator actor
  rejectIf (!digest readbackDigest) .evidenceRequired
  rejectIf (claim.steeringGeneration != self.steeringGeneration) .claimLost
  let authority ← authorityDigest enc facts
  rejectIf (claim.authorityDigest != authority) .claimLost
  self.settle enc facts claim result true now

/-! ## The command table -/

def transition (enc : LoopEncoding) (self : MissionLoop) (facts : LoopMissionFacts)
    (actor : LoopActor) (action : LoopAction) (receipt : LoopReceipt) (now : DateTime) :
    Except LoopError (MissionLoop × LoopReceipt) :=
  match action with
  | .registerPeer peer => (·, receipt) <$> self.registerPeer actor peer
  | .addTodo todo => (·, receipt) <$> self.addTodo facts.mission todo
  | .openGate gate => (·, receipt) <$> self.openGate enc actor gate
  | .resolveGate gateId decisionDigest =>
    (·, receipt) <$> self.resolveGate enc actor gateId decisionDigest
  | .pause paused => (·, receipt) <$> self.pause actor paused
  | .setQuota maxSlots => (·, receipt) <$> self.setQuota actor maxSlots
  | .steer rationaleDigest => (·, receipt) <$> self.steer actor rationaleDigest
  | .claim host todoId tokenDigest => do
    let (next, claim) ← self.claimTodo enc facts actor host todoId tokenDigest now
    return (next, { receipt with claim := some claim })
  | .beginExecution claim host => do
    let next ← self.beginExecution enc facts actor claim host now
    return (next, { receipt with claim := some claim })
  | .heartbeat claim => do
    let (next, renewed) ← self.heartbeat enc facts actor claim now
    return (next, { receipt with claim := some renewed })
  | .settle claim result => do
    requireAgent actor claim.agentId
    let (next, run) ← self.settle enc facts claim result false now
    return (next, { receipt with run := some run })
  | .reconcileSettlement claim result readbackDigest => do
    let (next, run) ←
      self.reconcileSettlement enc facts actor claim result readbackDigest now
    return (next, { receipt with run := some run })
  | .reconcileRetry todoId evidenceDigest =>
    (·, receipt) <$> self.reconcileRetry enc facts actor todoId evidenceDigest now
  | .cancelTodo todoId rationaleDigest =>
    (·, receipt) <$> self.cancelTodo actor todoId rationaleDigest
  | .acknowledgeNotice notificationDigest =>
    (·, receipt) <$> self.acknowledgeNotice enc actor notificationDigest

/-- The checks of a command before its action is looked at, and the receipt that results. -/
def admission (self : MissionLoop) (facts : LoopMissionFacts) (command : LoopCommand)
    (now : DateTime) : Except LoopError LoopReceipt := do
  self.validateFor facts.mission
  rejectIf (!token command.operationId) .invalidState
  rejectIf (command.expectedRevision != self.revision ||
    command.expectedMissionRevision != facts.mission.revision) .revisionConflict
  rejectIf (decide (now < self.updatedAt)) .clockRegression
  self.validateActor command.actor
  let revision ← okOr (checkedAdd 64 self.revision 1) .overflow
  return { revision, claim := none, run := none, replayed := false }

def proposed (enc : LoopEncoding) (self : MissionLoop) (facts : LoopMissionFacts)
    (command : LoopCommand) (now : DateTime) : Except LoopError (MissionLoop × LoopReceipt) := do
  let receipt ← self.admission facts command now
  let (next, receipt) ←
    self.transition enc facts command.actor command.action receipt now
  return ({ next with revision := receipt.revision, updatedAt := now }, receipt)

/-- The next aggregate of a command that succeeds. -/
def applied (enc : LoopEncoding) (self : MissionLoop) (facts : LoopMissionFacts)
    (command : LoopCommand) (now : DateTime) : Except LoopError (MissionLoop × LoopReceipt) := do
  let (next, receipt) ← self.proposed enc facts command now
  next.validateFor facts.mission
  return (next, receipt)

def apply (enc : LoopEncoding) (self : MissionLoop) (facts : LoopMissionFacts)
    (command : LoopCommand) (now : DateTime) : Except LoopError LoopReceipt × MissionLoop :=
  match self.applied enc facts command now with
  | .ok (next, receipt) => (.ok receipt, next)
  | .error error => (.error error, self)

end MissionLoop

/-- What the environment supplies to one command: the facts about the Mission, which other code
changes between the commands, the command, and the time. -/
structure LoopInput where
  facts : LoopMissionFacts
  command : LoopCommand
  now : DateTime

def MissionLoop.step (enc : LoopEncoding) (self : MissionLoop) (input : LoopInput) :
    Except LoopError LoopReceipt × MissionLoop :=
  self.apply enc input.facts input.command input.now

end Hartevo
