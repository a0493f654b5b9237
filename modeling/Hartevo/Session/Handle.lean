import Hartevo.Session.Log

/-!
# Sessions: the commands on a live log

Everybody who holds a session appends to its log through a handle.  A command that appends one event
runs on the log itself (`commit`), one that appends several runs on a copy (`commitBatch`), so that
either all of them are stored or none.  `SessionCommand` lists the commands, with the repair of a
log that was read back, and `SessionCommand.body` says what each of them does to the log.

Two commands never work on a log at the same time: one that finds the log in use fails before it
reads anything, and is left out here.
-/

namespace Hartevo.Cordis

open Command

namespace SessionLog

variable {α : Type}

/-- Run a command that has to append exactly one event. -/
def commit (body : Command SessionLog SessionError α) : Command SessionLog SessionError α := do
  let previousLen ← check fun log => .ok log.events.length
  let result ← body
  check fun log => do
    let _ ← okOr (log.events[previousLen]?.filter fun event => event.seq == previousLen)
      .eventSequenceOverflow
    rejectIf (log.events.length != previousLen + 1) .eventSequenceOverflow
  return result

def commitBatch (body : Command SessionLog SessionError α) : Command SessionLog SessionError α := do
  let previousLen ← check fun log => .ok log.events.length
  onCopy do
    let result ← body
    check fun log => rejectIf (decide (log.events.length ≤ previousLen)) .eventSequenceOverflow
    return result

def claimAgentInboxSplice (clock : Clock) (turn : ℕ) (target : AgentInboxTarget) (start : ℕ)
    (removedCount : Option ℕ) (inserted : List SessionMessage)
    (outcome : Option AgentInboxOutcome) : Command SessionLog SessionError SessionEvent := do
  check fun log => requireTurn log.state.openTurn turn
  appendAgentInboxSplice clock target start removedCount inserted outcome

/-- Take a number of messages out of the inbox, if there are any to be taken. -/
def claimIf (clock : Clock) (condition : Bool) (target : AgentInboxTarget) (count : ℕ) :
    Command SessionLog SessionError (List SessionEvent) :=
  if condition then
    List.singleton <$> appendAgentInboxSplice clock target 0 (some count) [] none
  else pure []

def claimAgentInboxBatch (clock : Clock) (turn nextStepRemovedCount : ℕ) (claimNextTurn : Bool) :
    Command SessionLog SessionError (List SessionEvent) := do
  check fun log => requireTurn log.state.openTurn turn
  onCopy do
    let nextStep ← claimIf clock (decide (0 < nextStepRemovedCount)) .nextStep nextStepRemovedCount
    let nextTurn ← claimIf clock claimNextTurn .nextTurn 1
    return nextStep ++ nextTurn

def enterAgentStep (clock : Clock) (turn step : ℕ) (messages : List SessionMessage) :
    Command SessionLog SessionError Unit :=
  onCopy do
    let expected ← startStep clock turn
    check fun _ => rejectIf (step != expected) (.unexpectedStep turn expected step)
    messages.forM (appendUserMessage clock)

structure SessionRequestStateRecord where
  headerReason : Option SessionRequestHeaderReason
  contextAppended : Bool

/-- Why a request header has to be recorded, and whether it starts a series. -/
def headerRecord (baseline : Option SessionEpochHeader) (header : SessionEpochHeader)
    (headerLogged startsSeries : Bool) : Option (SessionRequestHeaderReason × Bool) :=
  if !headerLogged then some (if baseline.isNone then .initial else .resume, false)
  else if baseline != some header then some (.change, startsSeries)
  else if startsSeries then some (.series, false)
  else none

/-- Record a request header, if there is a reason to. -/
def appendHeaderRecord (clock : Clock) (header : SessionEpochHeader) :
    Option (SessionRequestHeaderReason × Bool) → Command SessionLog SessionError Unit
  | some (reason, startsSeries) => appendRequestHeader clock header reason startsSeries
  | none => pure ()

def recordAgentRequestState (clock : Clock) (turn step : ℕ) (header : SessionEpochHeader)
    (headerLogged startsSeries : Bool) (context : SessionRequestContext) :
    Command SessionLog SessionError SessionRequestStateRecord := do
  let header := header.canonicalized
  let (record, contextAppended) ← check fun log => do
    rejectIf (header.config.provider != context.provider || header.config.model != context.model)
      (.invalidRequestContext "provider and model matching request/header")
    requireTurn log.state.openTurn turn
    requireStep log.state.openStep turn step
    return (headerRecord log.requestHeader header headerLogged startsSeries,
      log.requestContext != some context)
  onCopy do
    appendHeaderRecord clock header record
    if contextAppended then
      appendRequestContext clock context
  return { headerReason := record.map Prod.fst, contextAppended }

def setApprovalPolicy (clock : Clock) (policy : ApprovalPolicy)
    (source : Option ApprovalPolicySource) : Command SessionLog SessionError Bool := do
  let current ← check fun log => .ok log.state.approvalPolicy
  if current = policy then
    return false
  else
    let _ ← appendApprovalPolicy clock policy source
    return true

end SessionLog

/-! ## Commands -/

inductive SessionCommand
  | startTurn
  | finishTurn (turn : ℕ) (reason : TurnEndReason)
  | startStep (turn : ℕ)
  | finishStep (turn step : ℕ)
  | appendSubagentDescriptor (descriptor : OneShotSubagentDescriptor)
  | appendAgentInboxSplice (target : AgentInboxTarget) (start : ℕ) (removedCount : Option ℕ)
    (inserted : List SessionMessage) (outcome : Option AgentInboxOutcome)
  | claimAgentInboxSplice (turn : ℕ) (target : AgentInboxTarget) (start : ℕ)
    (removedCount : Option ℕ) (inserted : List SessionMessage)
    (outcome : Option AgentInboxOutcome)
  | claimAgentInboxBatch (turn nextStepRemovedCount : ℕ) (claimNextTurn : Bool)
  | enterAgentStep (turn step : ℕ) (messages : List SessionMessage)
  | recordAgentRequestState (turn step : ℕ) (header : SessionEpochHeader)
    (headerLogged startsSeries : Bool) (context : SessionRequestContext)
  | appendUserMessage (message : SessionMessage) (surface : SessionSurfaceIntent)
  | appendAssistantChunk (turn step : ℕ) (chunk : SessionStreamChunk)
  | appendRequestHeader (header : SessionEpochHeader) (reason : SessionRequestHeaderReason)
    (startsSeries : Bool)
  | appendRequestContext (context : SessionRequestContext)
  | beginApproval (toolName : String) (callId reason : Option String)
  | decideApproval (id : ApprovalRequestId) (outcome : ApprovalOutcome)
  | setApprovalPolicy (policy : ApprovalPolicy) (source : Option ApprovalPolicySource)
  | appendSandboxMode (mode : SandboxMode) (source : Option SandboxModeSource)
  | appendLlmRetry (retry : SessionLlmRetry)
  | appendLlmRetryStarted (started : SessionLlmRetryStarted)
  | appendToolCall (turn step : ℕ) (callId name arguments : String)
  | appendAssistantMessage (turn step : ℕ) (message : SessionMessage)
    (surface : SessionSurfaceIntent)
  | appendToolResult (turn step : ℕ) (message : SessionMessage) (error : Option SessionToolError)
    (surface : SessionSurfaceIntent)
  | beginCompaction (compactionId : CompactionId) (sourceCommandId : Option String)
    (turn : Option ℕ) (start finish : ℕ)
  | completeCompaction (lease : CompactionLease) (summary : CompactionSummaryDraft)
    (checkpoint : CompactionCheckpoint)
  | failCompaction (lease : CompactionLease) (error : String)
  | repairInterruptedTail

/-- Run a command that appends one event and leave out its result. -/
def commitSilently {α : Type} (body : Command SessionLog SessionError α) :
    Command SessionLog SessionError Unit :=
  (fun _ => ()) <$> SessionLog.commit body

def SessionCommand.body (clock : Clock) : SessionCommand → Command SessionLog SessionError Unit
  | startTurn => commitSilently (SessionLog.startTurn clock)
  | finishTurn turn reason => commitSilently (SessionLog.finishTurn clock turn reason)
  | startStep turn => commitSilently (SessionLog.startStep clock turn)
  | finishStep turn step => commitSilently (SessionLog.finishStep clock turn step)
  | appendSubagentDescriptor descriptor =>
    commitSilently (SessionLog.appendSubagentDescriptor clock descriptor)
  | appendAgentInboxSplice target start removedCount inserted outcome =>
    commitSilently
      (SessionLog.appendAgentInboxSplice clock target start removedCount inserted outcome)
  | claimAgentInboxSplice turn target start removedCount inserted outcome =>
    commitSilently
      (SessionLog.claimAgentInboxSplice clock turn target start removedCount inserted outcome)
  | claimAgentInboxBatch turn nextStepRemovedCount claimNextTurn =>
    (fun _ => ()) <$>
      SessionLog.claimAgentInboxBatch clock turn nextStepRemovedCount claimNextTurn
  | enterAgentStep turn step messages => SessionLog.enterAgentStep clock turn step messages
  | recordAgentRequestState turn step header headerLogged startsSeries context =>
    (fun _ => ()) <$>
      SessionLog.recordAgentRequestState clock turn step header headerLogged startsSeries context
  | appendUserMessage message surface =>
    commitSilently (SessionLog.appendUserMessageWithSurface clock message surface)
  | appendAssistantChunk turn step chunk =>
    commitSilently (SessionLog.appendAssistantChunk clock turn step chunk)
  | appendRequestHeader header reason startsSeries =>
    commitSilently (SessionLog.appendRequestHeader clock header reason startsSeries)
  | appendRequestContext context => commitSilently (SessionLog.appendRequestContext clock context)
  | beginApproval toolName callId reason =>
    commitSilently (SessionLog.beginApproval clock toolName callId reason)
  | decideApproval id outcome => commitSilently (SessionLog.decideApproval clock id outcome)
  | setApprovalPolicy policy source =>
    (fun _ => ()) <$> SessionLog.setApprovalPolicy clock policy source
  | appendSandboxMode mode source => commitSilently (SessionLog.appendSandboxMode clock mode source)
  | appendLlmRetry retry => commitSilently (SessionLog.appendLlmRetry clock retry)
  | appendLlmRetryStarted started => commitSilently (SessionLog.appendLlmRetryStarted clock started)
  | appendToolCall turn step callId name arguments =>
    commitSilently (SessionLog.appendToolCall clock turn step callId name arguments)
  | appendAssistantMessage turn step message surface =>
    commitSilently (SessionLog.appendAssistantMessageWithSurface clock turn step message surface)
  | appendToolResult turn step message error surface =>
    commitSilently
      (SessionLog.appendToolResultWithErrorAndSurface clock turn step message error surface)
  | beginCompaction compactionId sourceCommandId turn start finish =>
    commitSilently (SessionLog.beginCompaction clock compactionId sourceCommandId turn start finish)
  | completeCompaction lease summary checkpoint =>
    (fun _ => ()) <$>
      SessionLog.commitBatch (SessionLog.completeCompaction clock lease summary checkpoint)
  | failCompaction lease error => commitSilently (SessionLog.failCompaction clock lease error)
  | repairInterruptedTail => (fun _ => ()) <$> SessionLog.repairInterruptedTail

end Hartevo.Cordis
