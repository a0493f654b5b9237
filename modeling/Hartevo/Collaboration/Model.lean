import Hartevo.Foundation.Machine
import Hartevo.Mission.Contract

/-!
# Workers and context branches

A worker executes a capsule on a branch of a workspace.  Its handle says whether a runtime is
attached, and counts the attachments: a runtime that was detached comes back with the next epoch,
and what it still tries to do with the old one is refused.  The branch is completed, merged or
abandoned at the end.

The commands restore the record when its revision overflows; `onCopy` is this.  `follows` is the
check that the storage makes between two versions of a record.
-/

namespace Hartevo

open Command

abbrev ContextWorkspaceId := String
abbrev ContextBranchId := String
abbrev ContextCapsuleId := String
abbrev ContextWorkerMailboxId := String
abbrev ContextWorkerMessageId := String
abbrev WorkerId := String
abbrev WorkerLeaseId := String

inductive ContextError
  | invalidBranchTransition
  | invalidWorkerHandle
  | invalidWorkerMessage
  | contextBackpressure
  | workerBudgetExceeded
  | revisionOverflow
deriving DecidableEq

/-! ## Capsules -/

structure ContextBudget where
  tokenLimit : ℕ
  costLimit : Money
  deadlineAt : DateTime
  maxDepth : ℕ
  maxConcurrency : ℕ
deriving DecidableEq

def ContextBudget.isSubsetOf (self parent : ContextBudget) : Bool :=
  self.costLimit.currency == parent.costLimit.currency &&
    decide (self.tokenLimit ≤ parent.tokenLimit) &&
    decide (self.costLimit.amountMinor ≤ parent.costLimit.amountMinor) &&
    decide (self.deadlineAt ≤ parent.deadlineAt) && decide (self.maxDepth ≤ parent.maxDepth) &&
    decide (self.maxConcurrency ≤ parent.maxConcurrency)

structure ContextWorkspace where
  id : ContextWorkspaceId
  tenantId : TenantId
  projectId : ProjectId
  missionId : MissionId
  generation : ℕ

structure WorkerLease where
  id : WorkerLeaseId
  workerId : WorkerId
  generation : ℕ
  runtimeMappingDigest : Option String

inductive ContextCapsuleStatus
  | issued | claimed | resultSubmitted | accepted | cancelled | expired
deriving DecidableEq

structure ContextReturnReceipt where
  resultDigest : String

structure ContextCapsule where
  id : ContextCapsuleId
  workspaceId : ContextWorkspaceId
  branchId : ContextBranchId
  workerId : WorkerId
  workerGeneration : ℕ
  capabilities : BTreeSet String
  budget : ContextBudget
  status : ContextCapsuleStatus
  result : Option ContextReturnReceipt
  issuedAt : DateTime
  updatedAt : DateTime

/-! ## Branches -/

inductive ContextBranchStatus
  | active | completed | merged | abandoned
deriving DecidableEq

inductive ContextMergePolicy
  | typedResultOnly | manualReview
deriving DecidableEq

inductive ContextBranchMergeDisposition
  | applied | rejected
deriving DecidableEq

structure ContextBranchMerge where
  sourceBranchId : ContextBranchId
  sourceBranchRevision : ℕ
  generation : ℕ
  disposition : ContextBranchMergeDisposition
  recordedAt : DateTime

structure ContextBranch where
  id : ContextBranchId
  tenantId : TenantId
  projectId : ProjectId
  workspaceId : ContextWorkspaceId
  parentBranchId : Option ContextBranchId
  depth : ℕ
  forkReason : String
  scopeDigest : String
  mergePolicy : ContextMergePolicy
  status : ContextBranchStatus
  generation : ℕ
  revision : ℕ
  createdAt : DateTime
  updatedAt : DateTime

namespace ContextBranch

def touchBranch (now : DateTime) : Command ContextBranch ContextError Unit := do
  let revision ← check fun self => okOr (checkedAdd 64 self.revision 1) .revisionOverflow
  modify fun self => { self with revision := revision, updatedAt := now }

def enter (status : ContextBranchStatus) (now : DateTime) :
    Command ContextBranch ContextError Unit :=
  onCopy do
    modify fun self => { self with status := status }
    touchBranch now

def completeForCapsule (capsule : ContextCapsule) (now : DateTime) :
    Command ContextBranch ContextError Unit := do
  check fun self => rejectIf (self.status != .active || capsule.branchId != self.id ||
    capsule.workspaceId != self.workspaceId || capsule.workerGeneration != self.generation ||
    capsule.status != .accepted || capsule.result.isNone || decide (now < self.updatedAt) ||
    decide (now < capsule.updatedAt)) .invalidBranchTransition
  enter .completed now

def applyMerge (merge : ContextBranchMerge) (now : DateTime) :
    Command ContextBranch ContextError Unit := do
  check fun self => rejectIf (self.status != .completed || merge.sourceBranchId != self.id ||
    merge.sourceBranchRevision != self.revision || merge.generation != self.generation ||
    merge.disposition != .applied || decide (now < self.updatedAt) ||
    decide (now < merge.recordedAt)) .invalidBranchTransition
  enter .merged now

def abandon (conflictDigest : String) (now : DateTime) :
    Command ContextBranch ContextError Unit := do
  check fun self => rejectIf (!(self.status == .active || self.status == .completed) ||
    !isSha256 conflictDigest || decide (now < self.updatedAt)) .invalidBranchTransition
  enter .abandoned now

def follows (self previous : ContextBranch) : Except ContextError Bool :=
  let allowed := match previous.status, self.status with
    | .active, .completed => true
    | .active, .abandoned => true
    | .completed, .abandoned => true
    | .completed, .merged => true
    | _, _ => false
  .ok (self.id == previous.id && self.tenantId == previous.tenantId &&
    self.projectId == previous.projectId && self.workspaceId == previous.workspaceId &&
    self.parentBranchId == previous.parentBranchId && self.depth == previous.depth &&
    self.forkReason == previous.forkReason && self.scopeDigest == previous.scopeDigest &&
    self.mergePolicy == previous.mergePolicy && self.generation == previous.generation &&
    self.createdAt == previous.createdAt &&
    checkedAdd 64 previous.revision 1 == some self.revision &&
    decide (previous.updatedAt ≤ self.updatedAt) && allowed)

end ContextBranch

/-- The commands on a branch. -/
inductive ContextBranchCommand
  | completeForCapsule (capsule : ContextCapsule) (now : DateTime)
  | applyMerge (merge : ContextBranchMerge) (now : DateTime)
  | abandon (conflictDigest : String) (now : DateTime)

def ContextBranch.step (self : ContextBranch) :
    ContextBranchCommand → Except ContextError Unit × ContextBranch
  | .completeForCapsule capsule now => (completeForCapsule capsule now).exec self
  | .applyMerge merge now => (applyMerge merge now).exec self
  | .abandon conflictDigest now => (abandon conflictDigest now).exec self

/-! ## Usage -/

structure WorkerUsage where
  tokens : ℕ
  cost : Money
  toolCalls : ℕ
  runtimeMillis : ℕ
deriving DecidableEq

namespace WorkerUsage

def zero (currency : CurrencyCode) : WorkerUsage :=
  ⟨0, ⟨0, currency⟩, 0, 0⟩

def record (self : WorkerUsage) (tokenDelta : ℕ) (costDelta : Money)
    (toolCallDelta runtimeMillisDelta : ℕ) (budget : ContextBudget) :
    Except ContextError WorkerUsage := do
  rejectIf (decide (costDelta.amountMinor < 0) || costDelta.currency != self.cost.currency)
    .workerBudgetExceeded
  let nextTokens ← okOr (checkedAdd 64 self.tokens tokenDelta) .workerBudgetExceeded
  let nextCost ← okOr (checkedI64 (self.cost.amountMinor + costDelta.amountMinor))
    .workerBudgetExceeded
  let nextToolCalls ← okOr (checkedAdd 64 self.toolCalls toolCallDelta) .workerBudgetExceeded
  let nextRuntimeMillis ← okOr (checkedAdd 64 self.runtimeMillis runtimeMillisDelta)
    .workerBudgetExceeded
  rejectIf (decide (budget.tokenLimit < nextTokens) ||
    decide (budget.costLimit.amountMinor < nextCost) ||
    budget.costLimit.currency != self.cost.currency) .workerBudgetExceeded
  return {
    tokens := nextTokens
    cost := { self.cost with amountMinor := nextCost }
    toolCalls := nextToolCalls
    runtimeMillis := nextRuntimeMillis }

end WorkerUsage

/-! ## Handles -/

inductive WorkerHandleStatus
  | attached | detached | completed | failed | cancelled
deriving DecidableEq

def WorkerHandleStatus.isTerminal (self : WorkerHandleStatus) : Bool :=
  self == .completed || self == .failed || self == .cancelled

structure WorkerHandle where
  tenantId : TenantId
  projectId : ProjectId
  missionId : MissionId
  workspaceId : ContextWorkspaceId
  branchId : ContextBranchId
  capsuleId : ContextCapsuleId
  leaseId : WorkerLeaseId
  workerId : WorkerId
  parentWorkerId : Option WorkerId
  generation : ℕ
  attachmentEpoch : ℕ
  runtimeMappingDigest : Option String
  capabilities : BTreeSet String
  budget : ContextBudget
  usage : WorkerUsage
  cursor : ℕ
  status : WorkerHandleStatus
  revision : ℕ
  createdAt : DateTime
  updatedAt : DateTime

namespace WorkerHandle

/-- The handle belongs to its parent, and does not exceed it. -/
def parentMatches (self : WorkerHandle) (parent : Option WorkerHandle) : Bool :=
  match parent, self.parentWorkerId with
  | none, none => true
  | some parent, some parentId =>
    parentId == parent.workerId && parent.workspaceId == self.workspaceId &&
      parent.generation == self.generation &&
      (!parent.status.isTerminal || self.status.isTerminal) &&
      (self.capabilities.toList.all parent.capabilities.contains) &&
      self.budget.isSubsetOf parent.budget
  | _, _ => false

def lifecycleMatches (self : WorkerHandle) (branch : ContextBranch) (capsule : ContextCapsule) :
    Bool :=
  match self.status with
  | .attached | .detached => branch.status == .active && (capsule.status == .issued ||
      capsule.status == .claimed || capsule.status == .resultSubmitted)
  | .completed => (branch.status == .completed || branch.status == .merged) &&
      capsule.status == .accepted
  | .cancelled => branch.status == .abandoned && capsule.status == .cancelled
  | .failed => branch.status == .abandoned && capsule.status == .expired

def validateFor (self : WorkerHandle) (workspace : ContextWorkspace) (branch : ContextBranch)
    (lease : WorkerLease) (capsule : ContextCapsule) (parent : Option WorkerHandle)
    (now : DateTime) : Except ContextError Unit :=
  rejectIf (self.tenantId != workspace.tenantId || self.projectId != workspace.projectId ||
    self.missionId != workspace.missionId || self.workspaceId != workspace.id ||
    self.branchId != branch.id || self.capsuleId != capsule.id || self.leaseId != lease.id ||
    self.workerId != capsule.workerId || self.workerId != lease.workerId ||
    self.generation != workspace.generation || self.generation != branch.generation ||
    self.generation != lease.generation || self.generation != capsule.workerGeneration ||
    self.attachmentEpoch == 0 || !self.parentMatches parent ||
    !self.lifecycleMatches branch capsule ||
    self.capabilities.toList != capsule.capabilities.toList || self.budget != capsule.budget ||
    self.usage.cost.currency != self.budget.costLimit.currency ||
    decide (self.budget.tokenLimit < self.usage.tokens) ||
    decide (self.budget.costLimit.amountMinor < self.usage.cost.amountMinor) ||
    decide (self.usage.cost.amountMinor < 0) || self.revision == 0 ||
    decide (self.createdAt < capsule.issuedAt) || decide (now < self.createdAt) ||
    decide (self.updatedAt < self.createdAt) || decide (now < self.updatedAt) ||
    (match self.status with
      | .attached => self.runtimeMappingDigest.all fun value => !isSha256 value
      | .detached | .completed | .failed | .cancelled => self.runtimeMappingDigest.isSome))
    .invalidWorkerHandle

def create (workspace : ContextWorkspace) (branch : ContextBranch) (lease : WorkerLease)
    (capsule : ContextCapsule) (parent : Option WorkerHandle) (now : DateTime) :
    Except ContextError WorkerHandle := do
  let value : WorkerHandle := {
    tenantId := workspace.tenantId
    projectId := workspace.projectId
    missionId := workspace.missionId
    workspaceId := workspace.id
    branchId := branch.id
    capsuleId := capsule.id
    leaseId := lease.id
    workerId := capsule.workerId
    parentWorkerId := parent.map (·.workerId)
    generation := capsule.workerGeneration
    attachmentEpoch := 1
    runtimeMappingDigest := lease.runtimeMappingDigest
    capabilities := capsule.capabilities
    budget := capsule.budget
    usage := WorkerUsage.zero capsule.budget.costLimit.currency
    cursor := 0
    status := .attached
    revision := 1
    createdAt := now
    updatedAt := now }
  value.validateFor workspace branch lease capsule parent now
  return value

def touch (now : DateTime) : Command WorkerHandle ContextError Unit := do
  let revision ← check fun self => okOr (checkedAdd 64 self.revision 1) .revisionOverflow
  modify fun self => { self with revision := revision, updatedAt := now }

def detach (attachmentEpoch : ℕ) (now : DateTime) : Command WorkerHandle ContextError Unit := do
  check fun self => rejectIf (self.status != .attached ||
    self.attachmentEpoch != attachmentEpoch || decide (now < self.updatedAt)) .invalidWorkerHandle
  onCopy do
    modify fun self => { self with status := .detached, runtimeMappingDigest := none }
    touch now

def reattach (attachmentEpoch : ℕ) (runtimeMappingDigest : String) (now : DateTime) :
    Command WorkerHandle ContextError Unit := do
  check fun self => rejectIf (self.status != .detached ||
    self.attachmentEpoch != attachmentEpoch || !isSha256 runtimeMappingDigest ||
    decide (now < self.updatedAt)) .invalidWorkerHandle
  onCopy do
    let epoch ← check fun self => okOr (checkedAdd 64 self.attachmentEpoch 1) .revisionOverflow
    modify fun self => { self with
      attachmentEpoch := epoch
      status := .attached
      runtimeMappingDigest := some runtimeMappingDigest }
    touch now

def executionAuthorized (self : WorkerHandle) (capsule : ContextCapsule) (attachmentEpoch : ℕ) :
    Bool :=
  self.status == .attached && self.attachmentEpoch == attachmentEpoch &&
    capsule.id == self.capsuleId && capsule.workerId == self.workerId &&
    capsule.workerGeneration == self.generation &&
    (capsule.status == .claimed || capsule.status == .resultSubmitted)

def recordUsage (capsule : ContextCapsule) (attachmentEpoch tokenDelta : ℕ) (costDelta : Money)
    (toolCallDelta runtimeMillisDelta : ℕ) (now : DateTime) :
    Command WorkerHandle ContextError Unit := do
  check fun self => rejectIf (!self.executionAuthorized capsule attachmentEpoch ||
    (tokenDelta == 0 && costDelta.amountMinor == 0 && toolCallDelta == 0 &&
      runtimeMillisDelta == 0) ||
    decide (now < self.updatedAt) || decide (self.budget.deadlineAt < now)) .invalidWorkerHandle
  onCopy do
    let usage ← check fun self =>
      self.usage.record tokenDelta costDelta toolCallDelta runtimeMillisDelta self.budget
    modify fun self => { self with usage := usage }
    touch now

def terminate (capsuleStatus : ContextCapsuleStatus) (status : WorkerHandleStatus)
    (capsule : ContextCapsule) (now : DateTime) : Command WorkerHandle ContextError Unit := do
  check fun self => rejectIf (!(self.status == .attached || self.status == .detached) ||
    capsule.id != self.capsuleId || capsule.status != capsuleStatus ||
    decide (now < self.updatedAt)) .invalidWorkerHandle
  onCopy do
    modify fun self => { self with status := status, runtimeMappingDigest := none }
    touch now

def complete (capsule : ContextCapsule) (now : DateTime) :
    Command WorkerHandle ContextError Unit :=
  terminate .accepted .completed capsule now

def cancel (capsule : ContextCapsule) (now : DateTime) : Command WorkerHandle ContextError Unit :=
  terminate .cancelled .cancelled capsule now

def fail (capsule : ContextCapsule) (now : DateTime) : Command WorkerHandle ContextError Unit :=
  terminate .expired .failed capsule now

def advanceCursor (attachmentEpoch sequence : ℕ) (now : DateTime) :
    Command WorkerHandle ContextError Unit := do
  check fun self => rejectIf (self.status != .attached ||
    self.attachmentEpoch != attachmentEpoch || checkedAdd 64 self.cursor 1 != some sequence ||
    decide (now < self.updatedAt)) .invalidWorkerMessage
  onCopy do
    modify fun self => { self with cursor := sequence }
    touch now

def follows (self previous : WorkerHandle) : Except ContextError Bool :=
  let immutable := self.tenantId == previous.tenantId && self.projectId == previous.projectId &&
    self.missionId == previous.missionId && self.workspaceId == previous.workspaceId &&
    self.branchId == previous.branchId && self.capsuleId == previous.capsuleId &&
    self.leaseId == previous.leaseId && self.workerId == previous.workerId &&
    self.parentWorkerId == previous.parentWorkerId && self.generation == previous.generation &&
    self.capabilities.toList == previous.capabilities.toList && self.budget == previous.budget &&
    self.createdAt == previous.createdAt
  let usageUnchanged := self.usage == previous.usage
  let usageAdvanced := decide (previous.usage.tokens ≤ self.usage.tokens) &&
    self.usage.cost.currency == previous.usage.cost.currency &&
    decide (previous.usage.cost.amountMinor ≤ self.usage.cost.amountMinor) &&
    decide (previous.usage.toolCalls ≤ self.usage.toolCalls) &&
    decide (previous.usage.runtimeMillis ≤ self.usage.runtimeMillis) && !usageUnchanged
  let cursorUnchanged := self.cursor == previous.cursor
  let cursorAdvanced := checkedAdd 64 previous.cursor 1 == some self.cursor
  let closes := self.attachmentEpoch == previous.attachmentEpoch &&
    self.runtimeMappingDigest.isNone && cursorUnchanged && usageUnchanged
  let allowed := match previous.status, self.status with
    | .detached, .attached =>
      checkedAdd 64 previous.attachmentEpoch 1 == some self.attachmentEpoch &&
        self.runtimeMappingDigest.isSome && cursorUnchanged && usageUnchanged
    | .attached, .attached =>
      self.attachmentEpoch == previous.attachmentEpoch &&
        self.runtimeMappingDigest == previous.runtimeMappingDigest &&
        ((cursorUnchanged && usageAdvanced) || (cursorAdvanced && usageUnchanged))
    | .attached, .detached | .attached, .completed | .attached, .failed | .attached, .cancelled =>
      closes
    | .detached, .completed | .detached, .failed | .detached, .cancelled => closes
    | _, _ => false
  .ok (immutable && allowed && checkedAdd 64 previous.revision 1 == some self.revision &&
    decide (previous.updatedAt ≤ self.updatedAt))

end WorkerHandle

end Hartevo
