import Hartevo.Collaboration.Model
import Hartevo.Foundation.FirstMatch

/-!
# The mailbox of a worker

Messages for a worker are numbered in the order in which they are enqueued.  The worker claims the
message after its cursor, and acknowledges it with the epoch of its attachment; this advances the
cursor of the mailbox and the one of the handle.  A message that was claimed before the worker was
detached goes back to the queue after it was attached again.

The mailbox and the handle of one worker are a `WorkerPair`, and `WorkerPair.step` is the machine of
all commands on it.
-/

namespace Hartevo

open Command

def maxMailboxCapacity : ℕ := 1024

def maxMessageReferenceBytes : ℕ := 2048

inductive ContextWorkerMessageKind
  | data | steer | followUp | completion | redirect
deriving DecidableEq

inductive ContextWorkerMessageStatus
  | pending | inFlight | acknowledged | deadLetter
deriving DecidableEq

structure ContextWorkerMessage where
  id : ContextWorkerMessageId
  sequence : ℕ
  senderWorkerId : Option WorkerId
  targetWorkerId : WorkerId
  kind : ContextWorkerMessageKind
  payloadRef : String
  payloadDigest : String
  status : ContextWorkerMessageStatus
  claimEpoch : Option ℕ
  resultDigest : Option String
  enqueuedAt : DateTime
  updatedAt : DateTime
deriving DecidableEq

structure WorkerMailbox where
  id : ContextWorkerMailboxId
  tenantId : TenantId
  projectId : ProjectId
  missionId : MissionId
  workspaceId : ContextWorkspaceId
  workerId : WorkerId
  generation : ℕ
  maxPending : ℕ
  nextSequence : ℕ
  acknowledgedCursor : ℕ
  messages : List ContextWorkerMessage
  revision : ℕ
  createdAt : DateTime
  updatedAt : DateTime

/-- A white-space byte of ASCII, other than the vertical tab. -/
def isAsciiWhitespace (c : Char) : Bool :=
  [9, 10, 12, 13, 32].contains c.toNat

def isAsciiControl (c : Char) : Bool :=
  decide (c.toNat < 32) || c.toNat == 127

def isSafeMessageRef (value : String) : Bool :=
  !(value.isEmpty || decide (maxMessageReferenceBytes < strLen value) ||
    (value.toList.any fun c => isAsciiControl c || isAsciiWhitespace c) ||
    containsText value ".." ||
    (value.toList.any fun c => ['\\', '?', '#', '@'].contains c)) &&
    (splitOnce value "://").any fun parts =>
      ["cas", "artifact", "mission", "trace"].contains parts.1 && !parts.2.isEmpty

/-- What the message carries goes with its status. -/
def ContextWorkerMessage.statusIsInvalid (self : ContextWorkerMessage) : Bool :=
  match self.status with
  | .pending => self.claimEpoch.isSome || self.resultDigest.isSome
  | .inFlight => self.claimEpoch.isNone || self.resultDigest.isSome
  | .acknowledged => self.claimEpoch.isNone || self.resultDigest.all fun value => !isSha256 value
  | .deadLetter => self.resultDigest.isNone

def ContextWorkerMessage.validate (self : ContextWorkerMessage) (mailbox : WorkerMailbox)
    (now : DateTime) : Except ContextError Unit :=
  rejectIf (isBlank self.id || self.sequence == 0 || self.targetWorkerId != mailbox.workerId ||
    !isSafeMessageRef self.payloadRef || !isSha256 self.payloadDigest ||
    decide (self.enqueuedAt < mailbox.createdAt) || decide (now < self.enqueuedAt) ||
    decide (self.updatedAt < self.enqueuedAt) || decide (now < self.updatedAt) ||
    self.statusIsInvalid) .invalidWorkerMessage

namespace WorkerMailbox

/-- The message still has to be delivered. -/
def isUnsettled (message : ContextWorkerMessage) : Bool :=
  message.status == .pending || message.status == .inFlight

def unsettledCount (self : WorkerMailbox) : ℕ :=
  (tryFromCount 32 (self.messages.countP isUnsettled)).getD (2 ^ 32 - 1)

def validateEntry (self : WorkerMailbox) (now : DateTime) (entry : ContextWorkerMessage × ℕ) :
    Except ContextError Unit := do
  rejectIf (entry.1.sequence != entry.2 + 1) .invalidWorkerMessage
  entry.1.validate self now
  rejectIf (decide (entry.1.sequence ≤ self.acknowledgedCursor) &&
    entry.1.status != .acknowledged) .invalidWorkerMessage

def validateFor (self : WorkerMailbox) (handle : WorkerHandle) (now : DateTime) :
    Except ContextError Unit := do
  rejectIf (isBlank self.id || self.tenantId != handle.tenantId ||
    self.projectId != handle.projectId || self.missionId != handle.missionId ||
    self.workspaceId != handle.workspaceId || self.workerId != handle.workerId ||
    self.generation != handle.generation || self.maxPending == 0 ||
    decide (maxMailboxCapacity < self.maxPending) ||
    decide (self.maxPending < self.unsettledCount) ||
    self.nextSequence != self.messages.length + 1 || self.acknowledgedCursor != handle.cursor ||
    self.revision == 0 || decide (self.createdAt < handle.createdAt) ||
    decide (now < self.createdAt) || decide (self.updatedAt < self.createdAt) ||
    decide (now < self.updatedAt)) .invalidWorkerMessage
  self.messages.zipIdx.forM (self.validateEntry now)

def create (id : ContextWorkerMailboxId) (handle : WorkerHandle) (maxPending : ℕ)
    (now : DateTime) : Except ContextError WorkerMailbox := do
  let value : WorkerMailbox := {
    id := id
    tenantId := handle.tenantId
    projectId := handle.projectId
    missionId := handle.missionId
    workspaceId := handle.workspaceId
    workerId := handle.workerId
    generation := handle.generation
    maxPending := maxPending
    nextSequence := 1
    acknowledgedCursor := 0
    messages := []
    revision := 1
    createdAt := now
    updatedAt := now }
  value.validateFor handle now
  return value

def touch (now : DateTime) : Command WorkerMailbox ContextError Unit := do
  let revision ← check fun self => okOr (checkedAdd 64 self.revision 1) .revisionOverflow
  modify fun self => { self with revision := revision, updatedAt := now }

def settle (handle : WorkerHandle) (now : DateTime) : Command WorkerMailbox ContextError Unit := do
  touch now
  check fun self => self.validateFor handle now

/-! ## Commands on the mailbox -/

def checkEnqueue (handle : WorkerHandle) (id : ContextWorkerMessageId)
    (senderWorkerId : Option WorkerId) (kind : ContextWorkerMessageKind)
    (payloadRef payloadDigest : String) (now : DateTime) (self : WorkerMailbox) :
    Except ContextError ContextWorkerMessage := do
  self.validateFor handle now
  rejectIf (handle.status.isTerminal || decide (now < self.updatedAt) ||
    (self.messages.any fun message => message.id == id) ||
    decide (self.maxPending ≤ self.unsettledCount))
    (if self.maxPending ≤ self.unsettledCount then .contextBackpressure else .invalidWorkerMessage)
  let message : ContextWorkerMessage := {
    id := id
    sequence := self.nextSequence
    senderWorkerId := senderWorkerId
    targetWorkerId := self.workerId
    kind := kind
    payloadRef := payloadRef
    payloadDigest := payloadDigest
    status := .pending
    claimEpoch := none
    resultDigest := none
    enqueuedAt := now
    updatedAt := now }
  message.validate self now
  return message

def enqueue (handle : WorkerHandle) (id : ContextWorkerMessageId)
    (senderWorkerId : Option WorkerId) (kind : ContextWorkerMessageKind)
    (payloadRef payloadDigest : String) (now : DateTime) :
    Command WorkerMailbox ContextError ContextWorkerMessage := do
  let message ← check
    (checkEnqueue handle id senderWorkerId kind payloadRef payloadDigest now)
  onCopy do
    let nextSequence ← check fun self => okOr (checkedAdd 64 self.nextSequence 1) .revisionOverflow
    modify fun self => { self with
      nextSequence := nextSequence
      messages := self.messages ++ [message] }
    settle handle now
  return message

def isNext (expected : ℕ) (message : ContextWorkerMessage) : Bool :=
  message.sequence == expected && message.status == .pending

/-- The number and the message that `claim_next` looks for. -/
def checkClaimNext (handle : WorkerHandle) (capsule : ContextCapsule) (attachmentEpoch : ℕ)
    (now : DateTime) (self : WorkerMailbox) :
    Except ContextError (ℕ × Option ContextWorkerMessage) := do
  self.validateFor handle now
  rejectIf (!handle.executionAuthorized capsule attachmentEpoch ||
    self.messages.any fun message => message.status == .inFlight) .invalidWorkerMessage
  let expected ← okOr (checkedAdd 64 self.acknowledgedCursor 1) .revisionOverflow
  return (expected, self.messages.find? (isNext expected))

def claimNext (handle : WorkerHandle) (capsule : ContextCapsule) (attachmentEpoch : ℕ)
    (now : DateTime) : Command WorkerMailbox ContextError (Option ContextWorkerMessage) := do
  let (expected, found) ← check (checkClaimNext handle capsule attachmentEpoch now)
  match found with
  | none => return none
  | some message => do
    let claimed := { message with
      status := .inFlight
      claimEpoch := some attachmentEpoch
      updatedAt := now }
    onCopy do
      modify fun self => { self with
        messages := replaceFirst (isNext expected) claimed self.messages }
      settle handle now
    return some claimed

def isStale (handle : WorkerHandle) (message : ContextWorkerMessage) : Bool :=
  message.status == .inFlight &&
    message.claimEpoch.any fun epoch => decide (epoch < handle.attachmentEpoch)

/-- The message is back in the queue. -/
def requeue (now : DateTime) (message : ContextWorkerMessage) : ContextWorkerMessage :=
  { message with status := .pending, claimEpoch := none, updatedAt := now }

def recoverAfterReattach (handle : WorkerHandle) (now : DateTime) :
    Command WorkerMailbox ContextError Bool := do
  let changed ← check fun self => do
    rejectIf (handle.status != .attached || decide (handle.attachmentEpoch ≤ 1) ||
      decide (now < self.updatedAt)) .invalidWorkerMessage
    self.validateFor handle now
    return self.messages.any (isStale handle)
  if changed then
    onCopy do
      modify fun self => { self with
        messages := self.messages.map fun message =>
          if isStale handle message then requeue now message else message }
      settle handle now
  return changed

/-! ## Successors -/

/-- What the messages of two versions of a mailbox went through. -/
structure FollowCounts where
  claimed : ℕ
  recovered : ℕ
  acknowledged : ℕ
  acknowledgedSequence : Option ℕ

/-- Count what one message went through, unless it cannot have. -/
def countEntry (counts : FollowCounts) (entry : ContextWorkerMessage × ContextWorkerMessage) :
    Option FollowCounts :=
  let (old, new) := entry
  if old.id != new.id || old.sequence != new.sequence ||
      old.senderWorkerId != new.senderWorkerId || old.targetWorkerId != new.targetWorkerId ||
      old.kind != new.kind || old.payloadRef != new.payloadRef ||
      old.payloadDigest != new.payloadDigest || old.enqueuedAt != new.enqueuedAt then none
  else if old.status == new.status then (if old != new then none else some counts)
  else match old.status, new.status with
    | .pending, .inFlight =>
      if old.claimEpoch.isSome || old.resultDigest.isSome || new.claimEpoch.isNone ||
          new.resultDigest.isSome || decide (new.updatedAt < old.updatedAt) then none
      else some { counts with claimed := saturatingAdd 32 counts.claimed 1 }
    | .inFlight, .pending =>
      if old.claimEpoch.isNone || new.claimEpoch.isSome || new.resultDigest.isSome ||
          decide (new.updatedAt < old.updatedAt) then none
      else some { counts with recovered := saturatingAdd 32 counts.recovered 1 }
    | .inFlight, .acknowledged =>
      if old.claimEpoch.isNone || new.claimEpoch != old.claimEpoch ||
          (new.resultDigest.all fun value => !isSha256 value) ||
          decide (new.updatedAt < old.updatedAt) then none
      else some { counts with
        acknowledged := saturatingAdd 32 counts.acknowledged 1
        acknowledgedSequence := some new.sequence }
    | _, _ => none

def follows (self previous : WorkerMailbox) : Except ContextError Bool :=
  if self.id != previous.id || self.tenantId != previous.tenantId ||
      self.projectId != previous.projectId || self.missionId != previous.missionId ||
      self.workspaceId != previous.workspaceId || self.workerId != previous.workerId ||
      self.generation != previous.generation || self.maxPending != previous.maxPending ||
      self.createdAt != previous.createdAt ||
      checkedAdd 64 previous.revision 1 != some self.revision ||
      decide (self.messages.length < previous.messages.length) ||
      decide (self.updatedAt < previous.updatedAt) then .ok false
  else match (previous.messages.zip self.messages).foldlM countEntry ⟨0, 0, 0, none⟩ with
    | none => .ok false
    | some counts =>
      let appended := self.messages.length - previous.messages.length
      let transitionCount :=
        saturatingAdd 32 (saturatingAdd 32 counts.claimed counts.recovered) counts.acknowledged
      let enqueue := appended == 1 && transitionCount == 0 &&
        checkedAdd 64 previous.nextSequence 1 == some self.nextSequence &&
        self.acknowledgedCursor == previous.acknowledgedCursor &&
        self.messages.getLast?.any fun message =>
          message.sequence == previous.nextSequence && message.status == .pending &&
            message.claimEpoch.isNone && message.resultDigest.isNone
      let claim := appended == 0 && counts.claimed == 1 && counts.recovered == 0 &&
        counts.acknowledged == 0 && self.nextSequence == previous.nextSequence &&
        self.acknowledgedCursor == previous.acknowledgedCursor
      let recovery := appended == 0 && counts.claimed == 0 && counts.recovered == 1 &&
        counts.acknowledged == 0 && self.nextSequence == previous.nextSequence &&
        self.acknowledgedCursor == previous.acknowledgedCursor
      let acknowledgement := appended == 0 && counts.claimed == 0 && counts.recovered == 0 &&
        counts.acknowledged == 1 && self.nextSequence == previous.nextSequence &&
        checkedAdd 64 previous.acknowledgedCursor 1 == some self.acknowledgedCursor &&
        counts.acknowledgedSequence == some self.acknowledgedCursor
      .ok (enqueue || claim || recovery || acknowledgement)

end WorkerMailbox

/-! ## The mailbox and the handle together -/

/-- The two records of one worker. -/
structure WorkerPair where
  mailbox : WorkerMailbox
  handle : WorkerHandle

namespace WorkerPair

def onMailbox {α : Type} (c : WorkerHandle → Command WorkerMailbox ContextError α) :
    Command WorkerPair ContextError α := do
  let handle ← check fun self => .ok self.handle
  focus mailbox (fun mailbox self => { self with mailbox := mailbox }) (c handle)

def onHandle {α : Type} (c : Command WorkerHandle ContextError α) :
    Command WorkerPair ContextError α :=
  focus handle (fun handle self => { self with handle := handle }) c

def checkAcknowledge (capsule : ContextCapsule) (messageId : ContextWorkerMessageId)
    (attachmentEpoch : ℕ) (resultDigest : String) (now : DateTime) (self : WorkerPair) :
    Except ContextError ContextWorkerMessage := do
  self.mailbox.validateFor self.handle now
  rejectIf (!self.handle.executionAuthorized capsule attachmentEpoch || !isSha256 resultDigest ||
    decide (now < self.mailbox.updatedAt)) .invalidWorkerMessage
  let message ← okOr (self.mailbox.messages.find? fun message => message.id == messageId)
    .invalidWorkerMessage
  rejectIf (message.status != .inFlight || message.claimEpoch != some attachmentEpoch ||
    message.sequence != saturatingAdd 64 self.mailbox.acknowledgedCursor 1) .invalidWorkerMessage
  return message

/-- The write of `acknowledge` to the mailbox. -/
def acknowledgeMessage (messageId : ContextWorkerMessageId) (message : ContextWorkerMessage)
    (resultDigest : String) (now : DateTime) (self : WorkerMailbox) : WorkerMailbox :=
  { self with
    messages := replaceFirst (fun message => message.id == messageId) { message with
      status := .acknowledged
      resultDigest := some resultDigest
      updatedAt := now } self.messages
    acknowledgedCursor := message.sequence }

def acknowledge (capsule : ContextCapsule) (messageId : ContextWorkerMessageId)
    (attachmentEpoch : ℕ) (resultDigest : String) (now : DateTime) :
    Command WorkerPair ContextError ContextWorkerMessage := do
  let message ← check (checkAcknowledge capsule messageId attachmentEpoch resultDigest now)
  onCopy do
    onHandle (WorkerHandle.advanceCursor attachmentEpoch message.sequence now)
    onMailbox fun handle => do
      modify (acknowledgeMessage messageId message resultDigest now)
      WorkerMailbox.settle handle now
  return { message with
    status := .acknowledged
    resultDigest := some resultDigest
    updatedAt := now }

end WorkerPair

/-! ## The machine -/

/-- The commands on a mailbox and its handle. -/
inductive CollaborationCommand
  | enqueue (id : ContextWorkerMessageId) (senderWorkerId : Option WorkerId)
    (kind : ContextWorkerMessageKind) (payloadRef payloadDigest : String) (now : DateTime)
  | claimNext (capsule : ContextCapsule) (attachmentEpoch : ℕ) (now : DateTime)
  | acknowledge (capsule : ContextCapsule) (messageId : ContextWorkerMessageId)
    (attachmentEpoch : ℕ) (resultDigest : String) (now : DateTime)
  | recoverAfterReattach (now : DateTime)
  | detach (attachmentEpoch : ℕ) (now : DateTime)
  | reattach (attachmentEpoch : ℕ) (runtimeMappingDigest : String) (now : DateTime)
  | recordUsage (capsule : ContextCapsule) (attachmentEpoch tokenDelta : ℕ) (costDelta : Money)
    (toolCallDelta runtimeMillisDelta : ℕ) (now : DateTime)
  | complete (capsule : ContextCapsule) (now : DateTime)
  | cancel (capsule : ContextCapsule) (now : DateTime)
  | fail (capsule : ContextCapsule) (now : DateTime)

/-- What a command returns. -/
inductive CollaborationReply
  | done
  | enqueued (message : ContextWorkerMessage)
  | claimed (message : Option ContextWorkerMessage)
  | acknowledged (message : ContextWorkerMessage)
  | recovered (changed : Bool)
deriving DecidableEq

/-- What a command does. -/
def CollaborationCommand.toCommand :
    CollaborationCommand → Command WorkerPair ContextError CollaborationReply
  | .enqueue id senderWorkerId kind payloadRef payloadDigest now =>
    .enqueued <$> WorkerPair.onMailbox fun handle =>
      WorkerMailbox.enqueue handle id senderWorkerId kind payloadRef payloadDigest now
  | .claimNext capsule attachmentEpoch now =>
    .claimed <$> WorkerPair.onMailbox fun handle =>
      WorkerMailbox.claimNext handle capsule attachmentEpoch now
  | .acknowledge capsule messageId attachmentEpoch resultDigest now =>
    .acknowledged <$> WorkerPair.acknowledge capsule messageId attachmentEpoch resultDigest now
  | .recoverAfterReattach now =>
    .recovered <$> WorkerPair.onMailbox fun handle => WorkerMailbox.recoverAfterReattach handle now
  | .detach attachmentEpoch now =>
    (fun _ => .done) <$> WorkerPair.onHandle (WorkerHandle.detach attachmentEpoch now)
  | .reattach attachmentEpoch runtimeMappingDigest now =>
    (fun _ => .done) <$>
      WorkerPair.onHandle (WorkerHandle.reattach attachmentEpoch runtimeMappingDigest now)
  | .recordUsage capsule attachmentEpoch tokenDelta costDelta toolCallDelta runtimeMillisDelta
      now =>
    (fun _ => .done) <$> WorkerPair.onHandle (WorkerHandle.recordUsage capsule attachmentEpoch
      tokenDelta costDelta toolCallDelta runtimeMillisDelta now)
  | .complete capsule now =>
    (fun _ => .done) <$> WorkerPair.onHandle (WorkerHandle.complete capsule now)
  | .cancel capsule now =>
    (fun _ => .done) <$> WorkerPair.onHandle (WorkerHandle.cancel capsule now)
  | .fail capsule now =>
    (fun _ => .done) <$> WorkerPair.onHandle (WorkerHandle.fail capsule now)

def WorkerPair.step (self : WorkerPair) (command : CollaborationCommand) :
    Except ContextError CollaborationReply × WorkerPair :=
  command.toCommand.exec self

end Hartevo
