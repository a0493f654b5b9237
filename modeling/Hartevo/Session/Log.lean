import Hartevo.Session.Surface

/-!
# Sessions: the log

A `SessionLog` keeps its events together with the state and the surface that they lead to.  It grows
in one way only: `SessionLog.appendAt` checks an event against the state and the surface, and stores
all three.  Every other command of the log is a number of checks around appends.
`SessionLog.restore` reads a list of events from the start and checks each of them in the same way.

Every append reads the clock.  The clock of a command gives the time that is read for the event with
a certain sequence number.
-/

namespace Hartevo.Cordis

open Command

/-- The time that is read when the event with a sequence number is appended. -/
abbrev Clock := ℕ → ℤ

structure SessionLog where
  header : SessionHeader
  events : List SessionEvent
  state : SessionState
  surface : SessionSurfaceState

def SessionHeader.newAt (id : SessionId) (createdAtMs : ℤ) : Except SessionError SessionHeader := do
  rejectIf (decide (createdAtMs < 0)) (.invalidCreatedAt createdAtMs)
  return {
    version := sessionFormatVersion, id, createdAtMs, parentSession := none, delegationDepth := 0
    seedLength := none }

def validateHeader (header : SessionHeader) (eventCount : ℕ) : Except SessionError Unit := do
  rejectIf (header.version != sessionFormatVersion)
    (.unsupportedFormatVersion sessionFormatVersion header.version)
  rejectIf (decide (header.createdAtMs < 0)) (.invalidCreatedAt header.createdAtMs)
  match header.seedLength with
  | some seedLength =>
    rejectIf (decide (eventCount < seedLength)) (.seedBeyondLog seedLength eventCount)
  | none => .ok ()

namespace SessionLog

def newAt (id : SessionId) (createdAtMs : ℤ) : Except SessionError SessionLog := do
  let header ← SessionHeader.newAt id createdAtMs
  return { header, events := [], state := {}, surface := {} }

/-! ## Replay -/

/-- The check of one stored event after the events `prior`. -/
def replayEvent (prior : List SessionEvent) (state : SessionState) (surface : SessionSurfaceState)
    (event : SessionEvent) : Except SessionError (SessionState × SessionSurfaceState) := do
  rejectIf (event.seq != prior.length) (.unexpectedEventSequence prior.length event.seq)
  rejectIf (decide (event.timeMs < 0)) (.invalidEventTime event.seq event.timeMs)
  let state ← state.apply event.seq event.kind
  let plan ← surface.plan event.seq event.kind prior
  return (state, surface.apply plan)

/-- The loop of `restore`, after the events `prior`. -/
def replayFrom (prior : List SessionEvent) (state : SessionState)
    (surface : SessionSurfaceState) :
    List SessionEvent → Except SessionError (SessionState × SessionSurfaceState)
  | [] => .ok (state, surface)
  | event :: events => do
    let (state, surface) ← replayEvent prior state surface event
    replayFrom (prior ++ [event]) state surface events

def replay (events : List SessionEvent) :
    Except SessionError (SessionState × SessionSurfaceState) :=
  replayFrom [] {} {} events

def restore (header : SessionHeader) (events : List SessionEvent) :
    Except SessionError SessionLog := do
  validateHeader header events.length
  let (state, surface) ← replay events
  return { header, events, state, surface }

/-! ## Appending -/

def accept (log : SessionLog) (kind : SessionEventKind) (timeMs : ℤ) :
    Except SessionError SessionLog := do
  let seq := log.events.length
  rejectIf (decide (timeMs < 0)) (.invalidEventTime seq timeMs)
  let nextState ← log.state.apply seq kind
  let surfacePlan ← log.surface.plan seq kind log.events
  return { log with
    events := log.events ++ [⟨seq, timeMs, kind⟩]
    state := nextState
    surface := log.surface.apply surfacePlan }

def appendAt (kind : SessionEventKind) (timeMs : ℤ) :
    Command SessionLog SessionError SessionEvent := do
  let next ← check fun log => log.accept kind timeMs
  modify fun _ => next
  check fun log => okOr log.events.getLast? .eventSequenceOverflow

def append (clock : Clock) (kind : SessionEventKind) :
    Command SessionLog SessionError SessionEvent := do
  let seq ← check fun log => .ok log.events.length
  appendAt kind (clock seq)

/-! ## Turns and steps -/

def startTurn (clock : Clock) : Command SessionLog SessionError ℕ := do
  let turn ← check fun log => okOr (checkedAdd 64 log.state.lastTurn 1) .turnSequenceOverflow
  let _ ← append clock (.turnStart turn)
  return turn

def finishTurn (clock : Clock) (turn : ℕ) (reason : TurnEndReason) :
    Command SessionLog SessionError Unit := do
  let _ ← append clock (.turnEnd turn reason)

def startStep (clock : Clock) (turn : ℕ) : Command SessionLog SessionError ℕ := do
  check fun log => requireTurn log.state.openTurn turn
  let step ← check fun log => okOr (checkedAdd 64 log.state.lastStep 1) (.stepSequenceOverflow turn)
  let _ ← append clock (.stepStart turn step)
  return step

def finishStep (clock : Clock) (turn step : ℕ) : Command SessionLog SessionError Unit := do
  let _ ← append clock (.stepEnd turn step)

/-! ## Single events -/

def appendSubagentDescriptor (clock : Clock) (descriptor : OneShotSubagentDescriptor) :
    Command SessionLog SessionError ℕ := do
  return (← append clock (.subagentDescriptor descriptor)).seq

def appendAgentInboxSplice (clock : Clock) (target : AgentInboxTarget) (start : ℕ)
    (removedCount : Option ℕ) (inserted : List SessionMessage)
    (outcome : Option AgentInboxOutcome) : Command SessionLog SessionError SessionEvent :=
  append clock (.agentInboxSpliced target start removedCount inserted outcome)

def appendUserMessageWithSurface (clock : Clock) (message : SessionMessage)
    (surface : SessionSurfaceIntent) : Command SessionLog SessionError Unit := do
  let _ ← append clock (.userMessage message surface)

def appendUserMessage (clock : Clock) (message : SessionMessage) :
    Command SessionLog SessionError Unit :=
  appendUserMessageWithSurface clock message .append

def appendAssistantChunk (clock : Clock) (turn step : ℕ) (chunk : SessionStreamChunk) :
    Command SessionLog SessionError ℕ := do
  return (← append clock (.assistantChunk turn step chunk)).seq

def appendRequestHeader (clock : Clock) (header : SessionEpochHeader)
    (reason : SessionRequestHeaderReason) (startsSeries : Bool) :
    Command SessionLog SessionError Unit := do
  let request : SessionRequestHeader := { header, reason, startsSeries }
  let _ ← append clock (.requestHeader request.canonicalized)

def appendRequestContext (clock : Clock) (context : SessionRequestContext) :
    Command SessionLog SessionError Unit := do
  let _ ← append clock (.requestContext context)

def beginApproval (clock : Clock) (toolName : String) (callId reason : Option String) :
    Command SessionLog SessionError ApprovalRequestId := do
  let (id, approval) ← check fun log => do
    requireOpenTurn log.state.openTurn
    let id ← okOr (NonEmptyText.ofText
      (log.header.id.text ++ ":approval:" ++ toString log.events.length)) .emptyApprovalId
    let approval ← SessionApprovalAsked.new id toolName callId reason
    return (id, approval)
  let _ ← append clock (.approvalAsked approval)
  return id

def decideApproval (clock : Clock) (id : ApprovalRequestId) (outcome : ApprovalOutcome) :
    Command SessionLog SessionError ℕ := do
  return (← append clock (.approvalDecided ⟨id, outcome⟩)).seq

def appendApprovalPolicy (clock : Clock) (policy : ApprovalPolicy)
    (source : Option ApprovalPolicySource) : Command SessionLog SessionError ℕ := do
  return (← append clock (.approvalPolicy ⟨policy, source⟩)).seq

def appendSandboxMode (clock : Clock) (mode : SandboxMode) (source : Option SandboxModeSource) :
    Command SessionLog SessionError ℕ := do
  return (← append clock (.sandboxMode ⟨mode, source⟩)).seq

def appendLlmRetry (clock : Clock) (retry : SessionLlmRetry) :
    Command SessionLog SessionError ℕ := do
  return (← append clock (.llmRetry retry)).seq

def appendLlmRetryStarted (clock : Clock) (started : SessionLlmRetryStarted) :
    Command SessionLog SessionError ℕ := do
  return (← append clock (.llmRetryStarted started)).seq

def appendToolCall (clock : Clock) (turn step : ℕ) (callId name arguments : String) :
    Command SessionLog SessionError ℕ := do
  return (← append clock (.toolCall turn step callId name arguments)).seq

def appendAssistantMessageWithSurface (clock : Clock) (turn step : ℕ) (message : SessionMessage)
    (surface : SessionSurfaceIntent) : Command SessionLog SessionError Unit := do
  let _ ← append clock (.assistantMessage turn step message surface)

def appendToolResultWithErrorAndSurface (clock : Clock) (turn step : ℕ) (message : SessionMessage)
    (error : Option SessionToolError) (surface : SessionSurfaceIntent) :
    Command SessionLog SessionError ℕ := do
  return (← append clock (.toolResult turn step message error surface)).seq

/-! ## Compactions -/

end SessionLog

structure CompactionSummaryDraft where
  summary : List SessionContentBlock
  shadowedTokenCount : ℕ
  provider : String
  model : String
  maxTokens : Option ℕ
  usage : Option SessionTokenUsage
  rawOutput : Option (List SessionContentBlock)
  llmStreamCall : Bool

structure CompactionCheckpoint where
  messageId : String
  content : List SessionContentBlock

structure CompactionRegion where
  start : ℕ
  finish : ℕ
  shadowedSeqs : List ℕ
  surfaceGeneration : ℕ
deriving DecidableEq

structure CompactionLease where
  sessionId : SessionId
  compactionId : CompactionId
  sourceCommandId : Option String
  turn : Option ℕ
  startSeq : ℕ
  region : CompactionRegion

structure CompactionResult where
  compactionId : CompactionId
  sourceCommandId : Option String
  startSeq : ℕ
  summarySeq : ℕ
  endSeq : ℕ
  summary : List SessionContentBlock
  shadowedRange : CompactionRange
  shadowedSeqs : List ℕ
  shadowedTokenCount : ℕ

def CompactionSummaryDraft.complete (draft : CompactionSummaryDraft) (lease : CompactionLease)
    (region : CompactionRegion) : SessionCompactionSummary where
  compactionId := lease.compactionId
  sourceCommandId := lease.sourceCommandId
  summary := draft.summary
  shadowedRange := ⟨region.start, region.finish⟩
  shadowedSeqs := region.shadowedSeqs
  shadowedTokenCount := draft.shadowedTokenCount
  provider := draft.provider
  model := draft.model
  maxTokens := draft.maxTokens
  usage := draft.usage
  rawOutput := draft.rawOutput
  llmStreamCall := draft.llmStreamCall

def CompactionCheckpoint.message (checkpoint : CompactionCheckpoint) (lease : CompactionLease) :
    SessionMessage where
  id := checkpoint.messageId
  role := .user
  content := checkpoint.content
  source := compactCheckpointSource lease.compactionId lease.sourceCommandId

def CompactionLease.close (lease : CompactionLease) (error : Option String) :
    SessionCompactionEnd where
  compactionId := lease.compactionId
  sourceCommandId := lease.sourceCommandId
  turn := lease.turn
  error := error

namespace SessionLog

def toolPairingCuts (log : SessionLog) : Except SessionError (List (ℕ × Bool × Bool)) :=
  toolPairingCutsFor log.surface.nodes log.events

def toolPairingBalancedAt (log : SessionLog) (seq : ℕ) (after : Bool) :
    Except SessionError Bool := do
  let cuts ← log.toolPairingCuts
  let cut ← okOr (cuts.find? fun cut => cut.1 == seq) (.compactionSurfaceNodeNotFound seq)
  return if after then cut.2.2 else cut.2.1

def selectCompactionRegion (log : SessionLog) (start finish : ℕ) :
    Except SessionError CompactionRegion := do
  let startIndex ← okOr (position log.surface.nodes start) (.compactionSurfaceNodeNotFound start)
  let endIndex ← okOr (position log.surface.nodes finish) (.compactionSurfaceNodeNotFound finish)
  rejectIf (decide (endIndex < startIndex)) (.compactionRangeReversed start finish)
  let balancedBefore ← log.toolPairingBalancedAt start false
  rejectIf (!balancedBefore) (.compactionRangeUnbalanced "start" start)
  let balancedAfter ← log.toolPairingBalancedAt finish true
  rejectIf (!balancedAfter) (.compactionRangeUnbalanced "end" finish)
  return {
    start, finish, shadowedSeqs := slice log.surface.nodes startIndex endIndex
    surfaceGeneration := log.surface.replaceGeneration }

def beginCompaction (clock : Clock) (compactionId : CompactionId) (sourceCommandId : Option String)
    (turn : Option ℕ) (start finish : ℕ) : Command SessionLog SessionError CompactionLease := do
  let (sessionId, region) ← check fun log => do
    log.state.requireNoCompaction
    let region ← log.selectCompactionRegion start finish
    return (log.header.id, region)
  let event ← append clock (.compactionStart { compactionId, sourceCommandId, turn })
  return { sessionId, compactionId, sourceCommandId, turn, startSeq := event.seq, region }

def validateCompactionLease (log : SessionLog) (lease : CompactionLease) :
    Except SessionError Unit := do
  rejectIf (log.header.id != lease.sessionId)
    (.compactionLeaseSessionMismatch log.header.id lease.sessionId)
  let opened ← okOr log.state.compaction .compactionNotOpen
  validateCompactionIdentity opened.compactionId opened.sourceCommandId lease.compactionId
    lease.sourceCommandId
  rejectIf (opened.turn != lease.turn) (.compactionOwnerMismatch opened.turn lease.turn)
  rejectIf (opened.startSeq != lease.startSeq) .compactionLeaseMismatch

def completeCompaction (clock : Clock) (lease : CompactionLease) (draft : CompactionSummaryDraft)
    (checkpoint : CompactionCheckpoint) : Command SessionLog SessionError CompactionResult := do
  let current ← check fun log => do
    log.validateCompactionLease lease
    let current ← log.selectCompactionRegion lease.region.start lease.region.finish
    rejectIf (current != lease.region) .compactionRegionChanged
    return current
  let summary := draft.complete lease current
  let summaryEvent ← append clock (.compactionSummary summary)
  let _ ← append clock (.userMessage (checkpoint.message lease)
    (.replace current.start current.finish
      (lease.startSeq :: summaryEvent.seq :: current.shadowedSeqs)))
  let endEvent ← append clock (.compactionEnd (lease.close none))
  return {
    compactionId := lease.compactionId, sourceCommandId := lease.sourceCommandId
    startSeq := lease.startSeq, summarySeq := summaryEvent.seq, endSeq := endEvent.seq
    summary := summary.summary, shadowedRange := summary.shadowedRange
    shadowedSeqs := current.shadowedSeqs, shadowedTokenCount := summary.shadowedTokenCount }

def failCompaction (clock : Clock) (lease : CompactionLease) (error : String) :
    Command SessionLog SessionError ℕ := do
  check fun log => log.validateCompactionLease lease
  return (← append clock (.compactionEnd (lease.close (some error)))).seq

/-! ## Readings -/

def requestHeader (log : SessionLog) : Option SessionEpochHeader :=
  log.events.reverse.findSome? fun event =>
    match event.kind with
    | .requestHeader request => some request.header
    | _ => none

def requestContext (log : SessionLog) : Option SessionRequestContext :=
  log.events.reverse.findSome? fun event =>
    match event.kind with
    | .requestContext context => some context
    | _ => none

end SessionLog

/-! ## Repair -/

/-- A tool call that a model asked for and that has no result: its id, its step, and the recorded
call, if there is one. -/
structure InterruptedToolCall where
  callId : String
  step : ℕ
  callSeq : Option ℕ

def updateInterrupted (id : String) (f : InterruptedToolCall → InterruptedToolCall)
    (pending : List InterruptedToolCall) : List InterruptedToolCall :=
  pending.modify (pending.findIdx fun call => call.callId == id) f

/-- A call that a message asks for waits again, as not started. -/
def requestInterrupted (step : ℕ) (pending : List InterruptedToolCall) (id : String) :
    List InterruptedToolCall :=
  if pending.any fun call => call.callId == id then
    updateInterrupted id (fun call => { call with step, callSeq := none }) pending
  else pending ++ [⟨id, step, none⟩]

def scanInterrupted (pending : List InterruptedToolCall) (event : SessionEvent) :
    List InterruptedToolCall :=
  match event.kind with
  | .turnStart _ => []
  | .turnEnd _ _ => []
  | .stepEnd _ _ => []
  | .assistantMessage _ step message _ =>
    message.toolCallIds.foldl (requestInterrupted step) pending
  | .toolCall _ _ callId _ _ =>
    updateInterrupted callId (fun call => { call with callSeq := some event.seq }) pending
  | .toolResult _ _ message _ _ =>
    match message.source with
    | .tool callId => pending.filter fun call => call.callId != callId
    | _ => pending
  | _ => pending

def pendingInterruptedToolCalls (events : List SessionEvent) : List InterruptedToolCall :=
  events.foldl scanInterrupted []

namespace InterruptedToolCall

def failure (call : InterruptedToolCall) : String × String × String :=
  if call.callSeq.isSome then
    ("ToolOutcomeUnknownError", toolOutcomeUnknown, toolOutcomeUnknownMessage)
  else ("ToolNotStartedError", toolNotStarted, toolNotStartedMessage)

def message (call : InterruptedToolCall) (seq : ℕ) : SessionMessage where
  id := "interrupted-tool-result-" ++ call.callId ++ "-" ++ toString seq
  role := .user
  content := [.toolResult call.callId [.text call.failure.2.2] true]
  source := .tool call.callId

def result (call : InterruptedToolCall) (turn seq : ℕ) : SessionEventKind :=
  .toolResult turn call.step (call.message seq) (some ⟨call.failure.1, call.failure.2.1⟩)
    (call.callSeq.elim .append fun sourceSeq => .appendFrom [sourceSeq])

end InterruptedToolCall

def SessionCompactionState.interrupt (compaction : SessionCompactionState) :
    SessionCompactionEnd where
  compactionId := compaction.compactionId
  sourceCommandId := compaction.sourceCommandId
  turn := compaction.turn
  error := some "session interrupted during compaction"

namespace SessionLog

/-- End the open compaction, if there is one. -/
def closeCompaction (timeMs : ℤ) : Command SessionLog SessionError Unit := do
  let compaction ← check fun log => .ok log.state.compaction
  match compaction with
  | some compaction => do
    let _ ← appendAt (.compactionEnd compaction.interrupt) timeMs
  | none => pure ()

/-- Cancel the pending approvals, in the order of their ids. -/
def cancelApprovals (timeMs : ℤ) : Command SessionLog SessionError Unit := do
  let approvals ← check fun log => .ok log.state.pendingApprovals.toList
  approvals.forM fun id => do
    let _ ← appendAt (.approvalDecided ⟨id, .cancelled⟩) timeMs

/-- Record a result for every interrupted tool call. -/
def answerInterrupted (turn : ℕ) (timeMs : ℤ) (calls : List InterruptedToolCall) :
    Command SessionLog SessionError Unit :=
  calls.forM fun call => do
    let seq ← check fun log => .ok log.events.length
    let _ ← appendAt (call.result turn seq) timeMs

/-- End the open step, if there is one. -/
def closeStep (turn : ℕ) (timeMs : ℤ) : Command SessionLog SessionError Unit := do
  let openStep ← check fun log => .ok log.state.openStep
  match openStep with
  | some step => do
    let _ ← appendAt (.stepEnd turn step) timeMs
  | none => pure ()

/-- Close what a crash left open in a turn.  The approvals of a set come out in order, so sorting
them again does nothing. -/
def repairInterruptedTail : Command SessionLog SessionError Bool := do
  let openTurn ← check fun log => .ok log.state.openTurn
  match openTurn with
  | none => return false
  | some turn => do
    let timeMs ← check fun log =>
      okOr (log.events.getLast?.map SessionEvent.timeMs) .eventSequenceOverflow
    let interrupted ← check fun log => .ok (pendingInterruptedToolCalls log.events)
    onCopy do
      closeCompaction timeMs
      cancelApprovals timeMs
      answerInterrupted turn timeMs interrupted
      closeStep turn timeMs
      let _ ← appendAt (.turnEnd turn .interrupted) timeMs
    return true

end SessionLog

end Hartevo.Cordis
