import Hartevo.Session.Validation

/-!
# Sessions: the reducer

`SessionState` is what a log has to remember to decide whether the next event may follow: the open
turn and step, the tool calls and approvals that wait for an answer, the retry chains and the open
compaction.  `SessionState.apply` is the transition of the log for every kind of event, with its
sub-functions as the source divides them.
-/

namespace Hartevo.Cordis

structure SessionRetryState where
  turn : ℕ
  step : ℕ
  provider : String
  mode : SessionLlmRetryMode
  policyKey : String
  retry : ℕ
  maxRetries : Option ℕ
  started : Bool

inductive SessionCompactionStage
  | started
  | summarized (summarySeq : ℕ) (summary : SessionCompactionSummary)
  | checkpointed

/-- Whether the checkpoint of a compaction is in place. -/
def SessionCompactionStage.isCheckpointed : SessionCompactionStage → Bool
  | .checkpointed => true
  | _ => false

structure SessionCompactionState where
  compactionId : CompactionId
  sourceCommandId : Option String
  turn : Option ℕ
  startSeq : ℕ
  stage : SessionCompactionStage

structure SessionState where
  lastTurn : ℕ := 0
  openTurn : Option ℕ := none
  lastStep : ℕ := 0
  openStep : Option ℕ := none
  pendingToolCalls : BTreeSet String := ∅
  pendingApprovals : BTreeSet ApprovalRequestId := ∅
  approvalPolicy : ApprovalPolicy := .ask
  sandboxMode : Option SandboxMode := none
  requestProvider : Option String := none
  retryChains : BTreeMap String SessionRetryState := ∅
  compaction : Option SessionCompactionState := none

def SessionEventKind.isTurnBoundary : SessionEventKind → Bool
  | turnStart _ => true
  | turnEnd _ _ => true
  | _ => false

/-- The event is a message from the compaction plugin. -/
def SessionEventKind.isCompactCheckpoint : SessionEventKind → Bool
  | userMessage message _ => isCompactCheckpointSource message.source
  | _ => false

def SessionEventKind.isFailedCompactionEnd : SessionEventKind → Bool
  | compactionEnd compaction => compaction.error.isSome
  | _ => false

def SessionEventKind.isCompactionEnd : SessionEventKind → Bool
  | compactionEnd _ => true
  | _ => false

namespace SessionState

/-! ## Compactions -/

def validateCompactionAdjacency (state : SessionState) (kind : SessionEventKind) :
    Except SessionError Unit :=
  match state.compaction with
  | none => .ok ()
  | some compaction =>
    match compaction.stage with
    | .started => .ok ()
    | .summarized _ _ =>
      rejectIf (!(kind.isCompactCheckpoint || kind.isFailedCompactionEnd))
        (.compactionCheckpointExpected compaction.compactionId)
    | .checkpointed =>
      rejectIf (!kind.isCompactionEnd) (.compactionEndExpected compaction.compactionId)

/-- Refuse while an approval is pending, naming the first of them. -/
def requireNoApproval (state : SessionState) : Except SessionError Unit :=
  rejectSome state.pendingApprovals.toList.head? .approvalStillPending

/-- Refuse while a compaction is open. -/
def requireNoCompaction (state : SessionState) : Except SessionError Unit :=
  rejectSome state.compaction fun compaction => .compactionAlreadyOpen compaction.compactionId

def applyCompactionStart (state : SessionState) (seq : ℕ) (start : SessionCompactionStart) :
    Except SessionError SessionState := do
  start.toJsonValue
  state.requireNoApproval
  state.requireNoCompaction
  validateCompactionOwner start.turn state.openTurn
  return { state with
    compaction := some ⟨start.compactionId, start.sourceCommandId, start.turn, seq, .started⟩ }

def applyCompactionSummary (state : SessionState) (seq : ℕ) (summary : SessionCompactionSummary) :
    Except SessionError SessionState := do
  summary.validate
  let opened ← okOr state.compaction .compactionNotOpen
  validateCompactionIdentity opened.compactionId opened.sourceCommandId summary.compactionId
    summary.sourceCommandId
  validateCompactionOwner opened.turn state.openTurn
  match opened.stage with
  | .started =>
    return { state with compaction := some { opened with stage := .summarized seq summary } }
  | _ => .error (.compactionSummaryAlreadyRecorded opened.compactionId)

/-- The source has a second test of the plugin marker, for which the caller has already looked. -/
def applyCompactionCheckpoint (state : SessionState) (message : SessionMessage)
    (surface : SessionSurfaceIntent) : Except SessionError SessionState :=
  match message.source with
  | .plugin plugin (some checkpointId) sourceCommandId => do
    rejectIf (plugin != compactionCheckpointPlugin)
      (.invalidCompaction "the compact checkpoint plugin marker")
    let opened ← okOr state.compaction .compactionNotOpen
    validateCompactionIdentity opened.compactionId opened.sourceCommandId checkpointId
      sourceCommandId
    match opened.stage with
    | .summarized summarySeq summary => do
      rejectIf (surface.surfaceOp !=
          .replace summary.shadowedRange.start summary.shadowedRange.finish)
        .compactionCheckpointRangeMismatch
      rejectIf (surface.sourceEventSeqs !=
          some (opened.startSeq :: summarySeq :: summary.shadowedSeqs))
        .compactionCheckpointProvenanceMismatch
      return { state with compaction := some { opened with stage := .checkpointed } }
    | _ => .error (.compactionSummaryExpected opened.compactionId)
  | _ => .error (.invalidCompaction "a typed compact checkpoint source")

def applyCompactionEnd (state : SessionState) (compaction : SessionCompactionEnd) :
    Except SessionError SessionState := do
  compaction.toJsonValue
  let opened ← okOr state.compaction .compactionNotOpen
  validateCompactionIdentity opened.compactionId opened.sourceCommandId compaction.compactionId
    compaction.sourceCommandId
  rejectIf (compaction.turn != opened.turn) (.compactionOwnerMismatch opened.turn compaction.turn)
  validateCompactionOwner opened.turn state.openTurn
  rejectIf (compaction.error.isNone && !opened.stage.isCheckpointed)
    (.compactionCheckpointExpected opened.compactionId)
  return { state with compaction := none }

/-! ## Retries -/

def applyLlmRetry (state : SessionState) (retry : SessionLlmRetry) :
    Except SessionError SessionState := do
  requireTurn state.openTurn retry.turn
  requireStep state.openStep retry.turn retry.step
  validateLlmRetry retry
  rejectIf (state.requestProvider != some retry.provider)
    (.invalidLlmRetry "the request-header provider in force for the open step")
  match state.retryChains[retry.retryId]? with
  | some chain => do
    rejectIf (chain.turn != retry.turn || chain.step != retry.step ||
        chain.provider != retry.provider || chain.mode != retry.mode ||
        chain.policyKey != retry.policyKey || chain.maxRetries != retry.maxRetries ||
        !chain.started || checkedAdd 64 chain.retry 1 != some retry.retry)
      (.invalidLlmRetry
        "one monotonic started chain with stable scope, provider, and policy")
    return { state with
      retryChains := state.retryChains.insert retry.retryId
        { chain with retry := retry.retry, started := false } }
  | none => do
    rejectIf (retry.retry != 1) (.invalidLlmRetry "a new retry chain beginning at retry one")
    return { state with
      retryChains := state.retryChains.insert retry.retryId
        { turn := retry.turn, step := retry.step, provider := retry.provider, mode := retry.mode,
          policyKey := retry.policyKey, retry := retry.retry, maxRetries := retry.maxRetries,
          started := false } }

def applyLlmRetryStarted (state : SessionState) (started : SessionLlmRetryStarted) :
    Except SessionError SessionState := do
  requireTurn state.openTurn started.turn
  requireStep state.openStep started.turn started.step
  validateLlmRetryStarted started
  let chain ← okOr state.retryChains[started.retryId]?
    (.invalidLlmRetry "a prior matching llm/retry schedule")
  rejectIf (chain.turn != started.turn || chain.step != started.step ||
      chain.retry != started.retry || chain.started)
    (.invalidLlmRetry "one not-yet-started matching retry schedule")
  return { state with
    retryChains := state.retryChains.insert started.retryId { chain with started := true } }

/-! ## Messages and tool calls -/

def applyToolCall (state : SessionState) (turn step : ℕ) (callId name : String) :
    Except SessionError SessionState := do
  requireTurn state.openTurn turn
  requireStep state.openStep turn step
  rejectIf (callId.isEmpty || name.isEmpty) (.invalidToolCall "non-empty call id and name")
  return { state with pendingToolCalls := state.pendingToolCalls.insert callId }

def validateInboxSplice (state : SessionState) (removedCount : Option ℕ)
    (inserted : List SessionMessage) (outcome : Option AgentInboxOutcome) :
    Except SessionError Unit := do
  validateAgentInboxEvent removedCount inserted outcome
  if removedCount.isSome && outcome.isNone then
    requireOpenTurn state.openTurn

def validateMessageEvent (state : SessionState) : SessionEventKind → Except SessionError Unit
  | .userMessage message _ =>
    validateMessage message .user "user/message" validUserSource "user or non-empty plugin"
  | .assistantMessage turn step message _ => do
    requireTurn state.openTurn turn
    requireStep state.openStep turn step
    validateMessage message .assistant "assistant/message" validModelSource
      "non-empty model provider and model"
  | .toolResult turn step message error _ => do
    requireTurn state.openTurn turn
    requireStep state.openStep turn step
    validateMessage message .user "tool/result" validToolSource "non-empty tool call id"
    validateToolResultMessage message
    validateToolResultError message error
  | _ => .ok ()

def applyToolResult (state : SessionState) (kind : SessionEventKind) (message : SessionMessage)
    (error : Option SessionToolError) (surface : SessionSurfaceIntent) :
    Except SessionError SessionState := do
  state.validateMessageEvent kind
  match surface.surfaceOp with
  | .replace _ _ => return state
  | .append =>
    match message.source with
    | .tool callId => do
      rejectIf (!state.pendingToolCalls.contains callId && !syntheticToolNotStarted message error)
        (.toolResultWithoutCall callId)
      return { state with pendingToolCalls := state.pendingToolCalls.erase callId }
    | _ => .error (.invalidMessageSource "tool/result" "non-empty tool call id")

/-! ## Events -/

def transition (state : SessionState) (seq : ℕ) (kind : SessionEventKind) :
    Except SessionError SessionState :=
  match kind with
  | .turnStart turn => do
    rejectSome state.openTurn .turnAlreadyOpen
    let expected ← okOr (checkedAdd 64 state.lastTurn 1) .turnSequenceOverflow
    rejectIf (turn != expected) (.unexpectedTurn expected turn)
    return { state with lastTurn := turn, openTurn := some turn, lastStep := 0, retryChains := ∅ }
  | .turnEnd turn _ => do
    requireTurn state.openTurn turn
    rejectSome state.openStep (.stepStillOpen turn)
    state.requireNoApproval
    return { state with openTurn := none, retryChains := ∅ }
  | .stepStart turn step => do
    requireTurn state.openTurn turn
    rejectSome state.openStep (.stepAlreadyOpen turn)
    let expected ← okOr (checkedAdd 64 state.lastStep 1) (.stepSequenceOverflow turn)
    rejectIf (step != expected) (.unexpectedStep turn expected step)
    return { state with lastStep := step, openStep := some step, retryChains := ∅ }
  | .stepEnd turn step => do
    requireTurn state.openTurn turn
    requireStep state.openStep turn step
    return { state with pendingToolCalls := ∅, openStep := none, retryChains := ∅ }
  | .subagentDescriptor descriptor => do
    rejectIf (descriptor.version != subagentDescriptorVersion)
      (.invalidSubagentDescriptor "the current descriptor version")
    rejectIf (isBlank descriptor.provider) (.invalidSubagentDescriptor "a non-blank provider")
    return state
  | .agentInboxSpliced _ _ removedCount inserted outcome => do
    state.validateInboxSplice removedCount inserted outcome
    return state
  | .assistantChunk turn step chunk => do
    requireTurn state.openTurn turn
    requireStep state.openStep turn step
    validateAssistantChunk chunk
    return state
  | .requestHeader request => do
    requireOpenTurn state.openTurn
    validateRequestHeader request
    return { state with requestProvider := some request.header.config.provider }
  | .requestContext context => do
    requireOpenTurn state.openTurn
    validateRequestContext context
    return state
  | .approvalAsked approval => do
    requireOpenTurn state.openTurn
    state.requireNoCompaction
    rejectIf (state.pendingApprovals.contains approval.id)
      (.duplicatePendingApproval approval.id)
    return { state with pendingApprovals := state.pendingApprovals.insert approval.id }
  | .approvalDecided approval => do
    requireOpenTurn state.openTurn
    rejectIf (!state.pendingApprovals.contains approval.id)
      (.approvalDecisionWithoutRequest approval.id)
    return { state with pendingApprovals := state.pendingApprovals.erase approval.id }
  | .approvalPolicy approval => return { state with approvalPolicy := approval.policy }
  | .sandboxMode sandbox => return { state with sandboxMode := some sandbox.mode }
  | .llmRetry retry => state.applyLlmRetry retry
  | .llmRetryStarted started => state.applyLlmRetryStarted started
  | .compactionStart compaction => state.applyCompactionStart seq compaction
  | .compactionSummary compaction => state.applyCompactionSummary seq compaction
  | .compactionEnd compaction => state.applyCompactionEnd compaction
  | .toolCall turn step callId name _ => state.applyToolCall turn step callId name
  | .toolResult _ _ message error surface => state.applyToolResult kind message error surface
  | .userMessage message surface => do
    state.validateMessageEvent kind
    if isCompactCheckpointSource message.source then
      state.applyCompactionCheckpoint message surface
    else
      return state
  | .assistantMessage _ _ _ _ => do
    state.validateMessageEvent kind
    return state

def apply (state : SessionState) (seq : ℕ) (kind : SessionEventKind) :
    Except SessionError SessionState := do
  state.validateCompactionAdjacency kind
  rejectIf (state.compaction.isSome && kind.isTurnBoundary) .compactionCrossesTurnBoundary
  state.transition seq kind

end SessionState

end Hartevo.Cordis
