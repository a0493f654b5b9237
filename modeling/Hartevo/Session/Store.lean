import Hartevo.Session.Handle

/-!
# Sessions: the store

The store holds the live sessions by their ids.  A session is created empty, restored from its
stored events, spawned as a child without a history, or forked: a fork starts with the events of
another session up to a boundary, which are its seed.

A handle keeps the inbox of the session beside the log, the pending messages that the splices of the
log lead to.  The inbox of a fork starts after the seed.
-/

namespace Hartevo.Cordis

open Command

/-! ## The inbox -/

structure AgentInboxState where
  nextTurn : List SessionMessage := []
  nextStep : List SessionMessage := []

namespace AgentInboxState

def list (inbox : AgentInboxState) : AgentInboxTarget → List SessionMessage
  | .nextTurn => inbox.nextTurn
  | .nextStep => inbox.nextStep

def setList (inbox : AgentInboxState) (target : AgentInboxTarget)
    (messages : List SessionMessage) : AgentInboxState :=
  match target with
  | .nextTurn => { inbox with nextTurn := messages }
  | .nextStep => { inbox with nextStep := messages }

def other : AgentInboxTarget → AgentInboxTarget
  | .nextTurn => .nextStep
  | .nextStep => .nextTurn

/-- The list with a number of messages from `start` on replaced by others. -/
def spliced (messages : List SessionMessage) (start removedCount : ℕ)
    (inserted : List SessionMessage) : List SessionMessage :=
  messages.take start ++ inserted ++ messages.drop (start + removedCount)

/-- No pending message has the id of another one; the first one that has is reported. -/
def validateIdentities (messages : List SessionMessage) : Except SessionError (List String) :=
  messages.foldlM
    (fun identities message => do
      rejectIf (identities.contains message.id) (.duplicatePendingMessage message.id)
      return identities ++ [message.id]) []

def validate (inbox : AgentInboxState) (target : AgentInboxTarget) (start : ℕ)
    (removedCount : Option ℕ) (inserted : List SessionMessage)
    (outcome : Option AgentInboxOutcome) : Except SessionError Unit := do
  validateAgentInboxEvent removedCount inserted outcome
  let messages := inbox.list target
  let finish ← okOr (checkedAdd 64 start (removedCount.getD 0))
    (.invalidInboxSplice "coordinates within the pending list")
  rejectIf (decide (messages.length < start) || decide (messages.length < finish))
    (.invalidInboxSplice "coordinates within the pending list")
  let _ ← validateIdentities
    (spliced messages start (removedCount.getD 0) inserted ++ inbox.list (other target))

def apply (inbox : AgentInboxState) (target : AgentInboxTarget) (start : ℕ)
    (removedCount : Option ℕ) (inserted : List SessionMessage)
    (outcome : Option AgentInboxOutcome) :
    Except SessionError (List SessionMessage × AgentInboxState) := do
  inbox.validate target start removedCount inserted outcome
  let messages := inbox.list target
  return ((messages.drop start).take (removedCount.getD 0),
    inbox.setList target (spliced messages start (removedCount.getD 0) inserted))

/-- The inbox after one event of the log. -/
def restoreEvent (inbox : AgentInboxState) (event : SessionEvent) :
    Except SessionError AgentInboxState :=
  match event.kind with
  | .agentInboxSpliced target start removedCount inserted outcome =>
    match inbox.apply target start removedCount inserted outcome with
    | .ok (_, inbox) => .ok inbox
    | .error _ => .error (.invalidPersistedInboxSplice event.seq)
  | _ => .ok inbox

def restore (header : SessionHeader) (events : List SessionEvent) :
    Except SessionError AgentInboxState :=
  (events.drop (header.seedLength.getD 0)).foldlM restoreEvent {}

end AgentInboxState

/-! ## Handles -/

structure SessionHandle where
  id : SessionId
  log : SessionLog
  inbox : AgentInboxState

namespace SessionHandle

def new (log : SessionLog) : Except SessionError SessionHandle := do
  let inbox ← AgentInboxState.restore log.header log.events
  return { id := log.header.id, log, inbox }

def onLog {α : Type} (body : Command SessionLog SessionError α) :
    Command SessionHandle SessionError α :=
  focus SessionHandle.log (fun log handle => { handle with log }) body

def startTurn (clock : Clock) : Command SessionHandle SessionError ℕ :=
  onLog (SessionLog.commit (SessionLog.startTurn clock))

end SessionHandle

/-! ## Children -/

namespace SessionLog

/-- The events of a session up to a boundary; without a boundary, all of them. -/
def forkSeed (source : SessionLog) (sourceId : SessionId) (boundary : Option ℕ) :
    Except SessionError (List SessionEvent) :=
  let lastSeq := source.events.getLast?.map SessionEvent.seq
  match boundary.or lastSeq with
  | none => .ok []
  | some boundary => do
    let event ← okOr source.events[boundary]? (.forkBoundaryDoesNotExist sourceId boundary lastSeq)
    rejectIf (event.seq != boundary) (.forkBoundaryNotContiguous sourceId boundary)
    return source.events.take (boundary + 1)

/-- The log of a child that starts with a part of the history of its source. -/
def fork (source : SessionLog) (sourceId : SessionId) (boundary : Option ℕ) (childId : SessionId)
    (createdAtMs : ℤ) : Except SessionError SessionLog := do
  let seed ← source.forkSeed sourceId boundary
  let child ← restore
    { version := sessionFormatVersion, id := childId, createdAtMs, parentSession := some sourceId,
      delegationDepth := source.header.delegationDepth, seedLength := some seed.length } seed
  match child.state.openTurn with
  | some turn => do
    let boundary ← okOr (boundary.or (source.events.getLast?.map SessionEvent.seq))
      .eventSequenceOverflow
    .error (.forkInsideOpenTurn sourceId boundary turn)
  | none => return child

def spawnChild (parent : SessionLog) (parentId childId : SessionId) (createdAtMs : ℤ) :
    Except SessionError SessionLog := do
  let delegationDepth ← okOr (checkedAdd 32 parent.header.delegationDepth 1)
    .delegationDepthOverflow
  restore
    { version := sessionFormatVersion, id := childId, createdAtMs, parentSession := some parentId,
      delegationDepth, seedLength := some 0 } []

end SessionLog

/-! ## The store -/

structure SessionStore where
  sessions : BTreeMap SessionId SessionHandle := ∅

namespace SessionStore

/-- A new session takes an id that is not in use. -/
def requireFree (store : SessionStore) (id : SessionId) : Except SessionError Unit :=
  rejectIf (store.sessions.contains id) (.sessionAlreadyExists id)

def lookup (store : SessionStore) (id : SessionId) : Except SessionError SessionHandle :=
  okOr store.sessions[id]? (.sessionNotFound id)

/-- Store the handle that a reading of the store made, under an id. -/
def establish (id : SessionId) (make : SessionStore → Except SessionError SessionHandle) :
    Command SessionStore SessionError SessionHandle := do
  let handle ← check make
  modify fun store => { sessions := store.sessions.insert id handle }
  return handle

def create (id : SessionId) (createdAtMs : ℤ) : Command SessionStore SessionError SessionHandle :=
  establish id fun store => do
    store.requireFree id
    SessionHandle.new (← SessionLog.newAt id createdAtMs)

def spawnChild (parentId childId : SessionId) (createdAtMs : ℤ) :
    Command SessionStore SessionError SessionHandle :=
  establish childId fun store => do
    store.requireFree childId
    let parent ← store.lookup parentId
    SessionHandle.new (← parent.log.spawnChild parentId childId createdAtMs)

def restore (header : SessionHeader) (events : List SessionEvent) :
    Command SessionStore SessionError SessionHandle :=
  establish header.id fun store => do
    store.requireFree header.id
    SessionHandle.new (← SessionLog.restore header events)

def fork (sourceId : SessionId) (boundary : Option ℕ) (childId : SessionId) (createdAtMs : ℤ) :
    Command SessionStore SessionError SessionHandle :=
  establish childId fun store => do
    store.requireFree childId
    let source ← store.lookup sourceId
    SessionHandle.new (← source.log.fork sourceId boundary childId createdAtMs)

end SessionStore

end Hartevo.Cordis
