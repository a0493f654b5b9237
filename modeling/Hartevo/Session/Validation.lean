import Hartevo.Session.Model

/-!
# Sessions: checks of the payloads

These checks read one payload and nothing of the log.  They are shared by the reducer of the session
state, which applies them to every event, and by the code that makes the payloads.  Several of them
are the checks that the code makes before it serialises a payload; the serialisation itself does not
fail and is left out.
-/

namespace Hartevo.Cordis

/-! ## Content and messages -/

mutual

/-- The check of one block, and then of the blocks inside it. -/
def validateContentBlock (eventType : String) : SessionContentBlock → Except SessionError Unit
  | .text _ => .ok ()
  | .reasoning _ => .ok ()
  | .toolCall id name _ =>
    rejectIf (id.isEmpty || name.isEmpty)
      (.invalidContentBlock eventType "non-empty tool call id and name")
  | .toolResult toolCallId content _ => do
    rejectIf toolCallId.isEmpty (.invalidContentBlock eventType "non-empty tool result call id")
    validateContentBlocks eventType content

/-- The source keeps a stack of blocks and takes the last one first; the content of a block goes on
top of the stack, so it is checked before the blocks that stand before it. -/
def validateContentBlocks (eventType : String) :
    List SessionContentBlock → Except SessionError Unit
  | [] => .ok ()
  | block :: blocks => do
    validateContentBlocks eventType blocks
    validateContentBlock eventType block

end

def validateMessage (message : SessionMessage) (expectedRole : SessionMessageRole)
    (eventType : String) (validSource : SessionMessageSource → Bool) (expectedSource : String) :
    Except SessionError Unit := do
  rejectIf message.id.isEmpty (.emptyMessageId eventType)
  rejectIf (message.role != expectedRole)
    (.unexpectedMessageRole eventType expectedRole message.role)
  rejectIf (!validSource message.source) (.invalidMessageSource eventType expectedSource)
  validateContentBlocks eventType message.content

def CompactionId.validate (id : CompactionId) : Except SessionError Unit :=
  rejectIf id.isEmpty .emptyCompactionId

/-- A user message comes from the user or from a named plugin; only the compaction plugin names a
compaction. -/
def validUserSource : SessionMessageSource → Bool
  | .user => true
  | .plugin plugin compactionId sourceCommandId =>
    !plugin.isEmpty &&
      if plugin == compactionCheckpointPlugin then
        compactionId.any (fun id => (CompactionId.validate id).isOk) &&
          sourceCommandId.all (fun id => !id.isEmpty)
      else compactionId.isNone && sourceCommandId.isNone
  | .model _ _ => false
  | .tool _ => false

def validModelSource : SessionMessageSource → Bool
  | .model provider model => !provider.isEmpty && !model.isEmpty
  | _ => false

def validToolSource : SessionMessageSource → Bool
  | .tool callId => !callId.isEmpty
  | _ => false

def validateAgentUserMessage (message : SessionMessage) (eventType : String) :
    Except SessionError Unit :=
  validateMessage message .user eventType validUserSource "user or non-empty plugin"

def validateInboxUserMessage (message : SessionMessage) : Except SessionError Unit :=
  validateAgentUserMessage message "agent/inbox/spliced"

def validateToolResultMessage (message : SessionMessage) : Except SessionError Unit :=
  match message.source with
  | .tool callId =>
    match message.content with
    | [.toolResult toolCallId _ _] => rejectIf (callId != toolCallId) .mismatchedToolCallIds
    | _ => .error .invalidToolResultShape
  | _ => .error (.invalidMessageSource "tool/result" "non-empty tool call id")

def validateToolResultError (message : SessionMessage) (error : Option SessionToolError) :
    Except SessionError Unit :=
  match error with
  | none => .ok ()
  | some error =>
    match message.content with
    | [.toolResult _ _ isError] =>
      rejectIf (error.name.isEmpty || error.code.isEmpty || !isError)
        (.invalidToolResultError "non-empty name/code on an error result")
    | _ => .error .invalidToolResultShape

/-- The result of a call that was never started needs no recorded call. -/
def syntheticToolNotStarted (message : SessionMessage) (error : Option SessionToolError) : Bool :=
  match message.content, error with
  | [.toolResult _ _ true], some error => error.code == toolNotStarted
  | _, _ => false

/-! ## Requests and streams -/

def validateCallConfig (config : SessionCallConfig) : Except String Unit := do
  rejectIf (config.provider.isEmpty || config.model.isEmpty) "non-empty provider and model"
  rejectIf (config.reasoningEffort.any String.isEmpty) "a non-empty optional reasoning effort"

def validateRequestHeader (request : SessionRequestHeader) : Except SessionError Unit := do
  rejectIf (request.canonicalized != request)
    (.invalidRequestHeader "canonical absent empty system, tools, and adapter defaults")
  (validateCallConfig request.header.config).mapError .invalidRequestHeader
  let config := request.header.config
  rejectIf (request.header.adapterDefaults.any fun defaults =>
      (!defaults.reasoningEffort && !defaults.maxTokens) ||
        (defaults.reasoningEffort && config.reasoningEffort.isNone) ||
        (defaults.maxTokens && config.maxTokens.isNone))
    (.invalidRequestHeader "adapter-default markers for present config fields")

def validateRequestContext (context : SessionRequestContext) : Except SessionError Unit :=
  rejectIf (context.provider.isEmpty || context.model.isEmpty)
    (.invalidRequestContext "non-empty provider and model")

def validateTokenUsage (usage : SessionTokenUsage) : Except SessionError Unit := do
  rejectIf (usage.reasoningTokens.any fun reasoning => decide (usage.outputTokens < reasoning))
    (.invalidAssistantChunk "reasoning tokens within output tokens")
  let exactTotal ← okOr
    (((checkedAdd 64 usage.inputTokens usage.outputTokens).bind fun total =>
      checkedAdd 64 total (usage.cacheReadTokens.getD 0)).bind fun total =>
      checkedAdd 64 total (usage.cacheWriteTokens.getD 0))
    (.invalidAssistantChunk "token counts without overflow")
  rejectIf (usage.totalTokens.any fun total => total != exactTotal)
    (.invalidAssistantChunk "an exact total matching disjoint token counts")

def llmFailureIsValid (failure : SessionLlmFailure) : Bool :=
  !failure.message.isEmpty && !failure.code.isEmpty && failure.status != some 0 &&
    !failure.requestId.any String.isEmpty

def validateLlmFailure (failure : SessionLlmFailure) : Except SessionError Unit :=
  rejectIf (!llmFailureIsValid failure)
    (.invalidAssistantChunk "non-empty failure message/code/request id and positive status")

def validateAssistantChunk : SessionStreamChunk → Except SessionError Unit
  | .blockStart _ _ => .ok ()
  | .textDelta _ _ => .ok ()
  | .reasoningDelta _ _ => .ok ()
  | .toolCallDelta _ id name _ =>
    rejectIf (id.isEmpty || name.any String.isEmpty)
      (.invalidAssistantChunk "non-empty tool call id and optional name")
  | .blockEnd _ block =>
    match block with
    | .toolResult _ _ _ => .error (.invalidAssistantChunk "assistant block-end content")
    | block => validateContentBlocks "assistant/chunk" [block]
  | .usage usage => validateTokenUsage usage
  | .finish reason replayState =>
    match reason with
    | .aborted failure => failed failure replayState
    | .error failure => failed failure replayState
    | _ => .ok ()
where
  /-- A failed stream carries no replay state. -/
  failed (failure : SessionLlmFailure) (replayState : Option SessionReplayEnvelope) :
      Except SessionError Unit := do
    rejectIf replayState.isSome
      (.invalidAssistantChunk "replay state only on a successful finish")
    validateLlmFailure failure

def validateLlmRetry (retry : SessionLlmRetry) : Except SessionError Unit :=
  let modeIsValid :=
    match retry.mode with
    | .normal => retry.maxRetries.any fun maxRetries => decide (retry.retry ≤ maxRetries)
    | .always => retry.maxRetries.isNone
  rejectIf (retry.retryId.isEmpty || retry.turn == 0 || retry.step == 0 ||
      retry.provider.isEmpty || retry.policyKey.isEmpty || retry.retry == 0 || !modeIsValid ||
      !llmFailureIsValid retry.failure)
    (.invalidLlmRetry "canonical identity, scope, provider, policy, budget, and failure facts")

def validateLlmRetryStarted (started : SessionLlmRetryStarted) : Except SessionError Unit :=
  rejectIf (started.retryId.isEmpty || started.turn == 0 || started.step == 0 ||
      started.retry == 0)
    (.invalidLlmRetry "a non-empty identity and positive matching scope/retry number")

/-! ## Approvals -/

def SessionApprovalAsked.new (id : ApprovalRequestId) (toolName : String) (callId : Option String)
    (reason : Option String) : Except SessionError SessionApprovalAsked :=
  if htool : toolName.isEmpty = true then .error (.invalidApproval "a non-empty toolName")
  else if hcall : callId.any String.isEmpty = true then
    .error (.invalidApproval "a non-empty callId when present")
  else if hreason : reason.any String.isEmpty = true then
    .error (.invalidApproval "a non-empty reason when present")
  else
    .ok ⟨id, toolName, callId, reason, Bool.eq_false_iff.mpr htool, Bool.eq_false_iff.mpr hcall,
      Bool.eq_false_iff.mpr hreason⟩

/-! ## Compactions -/

def validateSourceCommandId (value : Option String) : Except SessionError Unit :=
  rejectIf (value.any String.isEmpty)
    (.invalidCompaction "a non-empty source command id when present")

def validateIdentity (compactionId : CompactionId) (sourceCommandId : Option String)
    (turn : Option ℕ) : Except SessionError Unit := do
  CompactionId.validate compactionId
  validateSourceCommandId sourceCommandId
  rejectIf (turn == some 0) (.invalidCompaction "a positive owner turn when present")

def SessionCompactionStart.toJsonValue (start : SessionCompactionStart) :
    Except SessionError Unit :=
  validateIdentity start.compactionId start.sourceCommandId start.turn

def SessionCompactionSummary.validate (summary : SessionCompactionSummary) :
    Except SessionError Unit := do
  validateIdentity summary.compactionId summary.sourceCommandId none
  validateContentBlocks "compaction/summary" summary.summary
  rejectIf summary.shadowedSeqs.isEmpty (.invalidCompaction "non-empty shadowed sequences")
  rejectIf (summary.shadowedSeqs.head? != some summary.shadowedRange.start ||
      summary.shadowedSeqs.getLast? != some summary.shadowedRange.finish)
    (.invalidCompaction "range endpoints matching the first and last shadowed sequences")
  rejectIf (summary.provider.isEmpty || summary.model.isEmpty)
    (.invalidCompaction "non-empty summary provider and model")
  rejectIf (summary.maxTokens == some 0)
    (.invalidCompaction "a positive max token cap when present")
  summary.usage.elim (.ok ()) validateTokenUsage
  summary.rawOutput.elim (.ok ()) (validateContentBlocks "compaction/summary raw output")
  rejectIf (summary.llmStreamCall && summary.rawOutput.isNone)
    (.invalidCompaction "raw output for a marked LLM stream call")

def SessionCompactionEnd.toJsonValue (compaction : SessionCompactionEnd) :
    Except SessionError Unit := do
  validateIdentity compaction.compactionId compaction.sourceCommandId compaction.turn
  rejectIf (compaction.error.any String.isEmpty)
    (.invalidCompaction "a non-empty failure message when present")

def validateCompactionOwner (owner openTurn : Option ℕ) : Except SessionError Unit :=
  rejectIf (owner != openTurn) (.compactionOwnerMismatch owner openTurn)

def validateCompactionIdentity (expectedId : CompactionId) (expectedSource : Option String)
    (actualId : CompactionId) (actualSource : Option String) : Except SessionError Unit := do
  rejectIf (expectedId != actualId) (.compactionIdMismatch expectedId actualId)
  rejectIf (expectedSource != actualSource)
    (.compactionSourceCommandMismatch expectedSource actualSource)

/-- The source of the message that takes the place of a compacted span. -/
def compactCheckpointSource (compactionId : CompactionId) (sourceCommandId : Option String) :
    SessionMessageSource :=
  .plugin compactionCheckpointPlugin (some compactionId) sourceCommandId

def isCompactCheckpointSource : SessionMessageSource → Bool
  | .plugin plugin _ _ => plugin == compactionCheckpointPlugin
  | _ => false

/-! ## The inbox -/

def validateAgentInboxEvent (removedCount : Option ℕ) (inserted : List SessionMessage)
    (outcome : Option AgentInboxOutcome) : Except SessionError Unit := do
  rejectIf (removedCount == some 0) (.invalidInboxSplice "an omitted zero removed count")
  rejectIf (removedCount.isNone && inserted.isEmpty)
    (.invalidInboxSplice "at least one insertion or removal")
  rejectIf (outcome.isSome && removedCount.isNone)
    (.invalidInboxSplice "a cancellation outcome only with removals")
  inserted.forM validateInboxUserMessage

/-! ## Open turns and steps -/

def requireTurn (openTurn : Option ℕ) (actual : ℕ) : Except SessionError Unit :=
  match openTurn with
  | some expected => rejectIf (expected != actual) (.turnMismatch expected actual)
  | none => .error .noOpenTurn

def requireOpenTurn (openTurn : Option ℕ) : Except SessionError Unit :=
  rejectIf openTurn.isNone .noOpenTurn

def requireStep (openStep : Option ℕ) (turn actual : ℕ) : Except SessionError Unit :=
  match openStep with
  | some expected => rejectIf (expected != actual) (.stepMismatch turn expected actual)
  | none => .error (.noOpenStep turn)

variable {ot own : Option ℕ} {turn actual : ℕ}

@[simp] lemma requireTurn_ok : requireTurn ot actual = .ok () ↔ ot = some actual := by
  rcases ot with _ | expected
  · simp [requireTurn]
  · simp [requireTurn, rejectIf_ok]

@[simp] lemma requireStep_ok : requireStep ot turn actual = .ok () ↔ ot = some actual := by
  rcases ot with _ | expected
  · simp [requireStep]
  · simp [requireStep, rejectIf_ok]

@[simp] lemma requireOpenTurn_ok : requireOpenTurn ot = .ok () ↔ ot.isSome = true := by
  rcases ot with _ | expected <;> simp [requireOpenTurn]

@[simp] lemma validateCompactionOwner_ok : validateCompactionOwner own ot = .ok () ↔ own = ot := by
  simp [validateCompactionOwner]

end Hartevo.Cordis
