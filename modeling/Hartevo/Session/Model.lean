import Hartevo.Foundation.Names
import Hartevo.Foundation.BTree
import Hartevo.Foundation.Command
import Hartevo.Foundation.Text

/-!
# Sessions: the vocabulary of the log

A session is an append-only log of events with an immutable header.  The events record the turns and
steps of an agent, what was asked of a model and what it streamed back, the tool calls and their
results, approvals, retries, and compactions.  Three kinds of events carry a message, and a message
event says how the message enters the surface, the ordered list of what the model sees: at its end,
or in the place of a span of nodes that it replaces.

JSON values that no function of the log looks into (the parameters of a tool, the replay state of a
provider) are kept as their texts.
-/

namespace Hartevo.Cordis

/-! ## Identifiers -/

abbrev SessionId := NonEmptyText

abbrev ApprovalRequestId := NonEmptyText

abbrev CompactionId := String

abbrev JsonText := String

def sessionFormatVersion : ℕ := 0

def subagentDescriptorVersion : ℕ := 3

def compactionCheckpointPlugin : String := "compact"

def toolNotStarted : String := "TOOL_NOT_STARTED"

def toolOutcomeUnknown : String := "TOOL_OUTCOME_UNKNOWN"

def toolNotStartedMessage : String :=
  "The tool call was interrupted before the Harness recorded it as started. Retry it if it is " ++
    "still needed."

def toolOutcomeUnknownMessage : String :=
  "The tool call was interrupted after it was recorded, but no result was durably recorded. Its " ++
    "outcome is unknown. Decide whether to retry from the tool semantics: retry only if the " ++
    "operation is read-only or idempotent; if it may have side effects, first verify external " ++
    "state or ask the user. Do not retry blindly."

structure SessionHeader where
  version : ℕ
  id : SessionId
  createdAtMs : ℤ
  parentSession : Option SessionId
  delegationDepth : ℕ
  seedLength : Option ℕ

inductive SessionCancelCause
  | user | parent | hook | disposed | legacy

inductive TurnEndReason
  | completed | aborted (cause : SessionCancelCause) | blocked | error | maxTokens | interrupted

/-! ## Requests to a model -/

structure SessionCallConfig where
  provider : String
  model : String
  reasoningEffort : Option String
  temperature : Option JsonText
  maxTokens : Option ℕ
  stop : Option (List String)
deriving DecidableEq

structure SessionCallConfigAdapterDefaults where
  reasoningEffort : Bool
  maxTokens : Bool
deriving DecidableEq

structure SessionToolSchema where
  name : String
  description : String
  parameters : JsonText
deriving DecidableEq

structure SessionEpochHeader where
  config : SessionCallConfig
  adapterDefaults : Option SessionCallConfigAdapterDefaults
  system : Option String
  tools : Option (List SessionToolSchema)
deriving DecidableEq

def SessionEpochHeader.canonicalized (header : SessionEpochHeader) : SessionEpochHeader where
  config := header.config
  adapterDefaults :=
    if header.adapterDefaults.any fun defaults => !defaults.reasoningEffort && !defaults.maxTokens
    then none else header.adapterDefaults
  system := if header.system.any String.isEmpty then none else header.system
  tools := if header.tools.any List.isEmpty then none else header.tools

inductive SessionRequestHeaderReason
  | initial | resume | change | series
deriving DecidableEq

structure SessionRequestHeader where
  header : SessionEpochHeader
  reason : SessionRequestHeaderReason
  startsSeries : Bool
deriving DecidableEq

def SessionRequestHeader.canonicalized (request : SessionRequestHeader) : SessionRequestHeader :=
  { request with header := request.header.canonicalized }

structure SessionRequestContext where
  provider : String
  model : String
  contextWindow : Option ℕ
deriving DecidableEq

/-! ## Messages -/

inductive SessionMessageRole
  | user | assistant
deriving DecidableEq

inductive SessionMessageSource
  | user
  | plugin (plugin : String) (compactionId : Option CompactionId) (sourceCommandId : Option String)
  | model (provider model : String)
  | tool (callId : String)
deriving DecidableEq

inductive SessionContentBlock
  | text (text : String)
  | reasoning (text : String)
  | toolCall (id name arguments : String)
  | toolResult (toolCallId : String) (content : List SessionContentBlock) (isError : Bool)

structure SessionMessage where
  id : String
  role : SessionMessageRole
  content : List SessionContentBlock
  source : SessionMessageSource

structure SessionToolError where
  name : String
  code : String
deriving DecidableEq

inductive SessionSurfaceOp
  | append
  | replace (start finish : ℕ)
deriving DecidableEq

structure SessionSurfaceIntent where
  surfaceOp : SessionSurfaceOp
  sourceEventSeqs : Option (List ℕ)

namespace SessionSurfaceIntent

def append : SessionSurfaceIntent := ⟨.append, none⟩

def appendFrom (sourceEventSeqs : List ℕ) : SessionSurfaceIntent := ⟨.append, some sourceEventSeqs⟩

def replace (start finish : ℕ) (sourceEventSeqs : List ℕ) : SessionSurfaceIntent :=
  ⟨.replace start finish, some sourceEventSeqs⟩

end SessionSurfaceIntent

/-! ## Streams and retries -/

inductive SessionStreamBlockType
  | text | reasoning | toolCall

structure SessionLlmFailure where
  message : String
  code : String
  status : Option ℕ
  providerRetryAfterMs : Option ℕ
  requestId : Option String

inductive SessionLlmRetryMode
  | normal | always
deriving DecidableEq

structure SessionLlmRetry where
  retryId : String
  turn : ℕ
  step : ℕ
  provider : String
  mode : SessionLlmRetryMode
  policyKey : String
  retry : ℕ
  maxRetries : Option ℕ
  delayMs : ℕ
  failure : SessionLlmFailure

structure SessionLlmRetryStarted where
  retryId : String
  turn : ℕ
  step : ℕ
  retry : ℕ

inductive SessionFinishReason
  | stop | toolCalls | maxTokens
  | aborted (failure : SessionLlmFailure)
  | error (failure : SessionLlmFailure)

structure SessionTokenUsage where
  inputTokens : ℕ
  outputTokens : ℕ
  totalTokens : Option ℕ
  cacheReadTokens : Option ℕ
  cacheWriteTokens : Option ℕ
  reasoningTokens : Option ℕ

structure SessionReplayEnvelope where
  response : JsonText
  blocks : Option (List JsonText)

inductive SessionStreamChunk
  | blockStart (index : ℕ) (blockType : SessionStreamBlockType)
  | textDelta (index : ℕ) (text : String)
  | reasoningDelta (index : ℕ) (text : String)
  | toolCallDelta (index : ℕ) (id : String) (name : Option String) (argumentsDelta : String)
  | blockEnd (index : ℕ) (block : SessionContentBlock)
  | usage (usage : SessionTokenUsage)
  | finish (reason : SessionFinishReason) (replayState : Option SessionReplayEnvelope)

/-! ## Approvals, sandbox modes, subagents and the inbox -/

inductive ApprovalOutcome
  | allowedOnce | rejected | cancelled | unavailable

inductive ApprovalPolicy
  | ask | never
deriving DecidableEq

inductive ApprovalPolicySource
  | delegation

structure SessionApprovalAsked where
  id : ApprovalRequestId
  toolName : String
  callId : Option String
  reason : Option String
  toolName_isEmpty : toolName.isEmpty = false
  callId_isEmpty : callId.any String.isEmpty = false
  reason_isEmpty : reason.any String.isEmpty = false

structure SessionApprovalDecided where
  id : ApprovalRequestId
  outcome : ApprovalOutcome

structure SessionApprovalPolicy where
  policy : ApprovalPolicy
  source : Option ApprovalPolicySource

inductive SandboxMode
  | readOnly | workspaceWrite | dangerFullAccess

inductive SandboxModeSource
  | delegation

structure SessionSandboxMode where
  mode : SandboxMode
  source : Option SandboxModeSource

inductive SubagentDescriptorMode
  | oneShot

structure OneShotSubagentDescriptor where
  version : ℕ
  mode : SubagentDescriptorMode
  provider : String
  label : Option String

inductive AgentInboxTarget
  | nextTurn | nextStep

inductive AgentInboxOutcome
  | canceled

/-! ## Compactions -/

structure CompactionRange where
  start : ℕ
  finish : ℕ

structure SessionCompactionStart where
  compactionId : CompactionId
  sourceCommandId : Option String
  turn : Option ℕ

structure SessionCompactionSummary where
  compactionId : CompactionId
  sourceCommandId : Option String
  summary : List SessionContentBlock
  shadowedRange : CompactionRange
  shadowedSeqs : List ℕ
  shadowedTokenCount : ℕ
  provider : String
  model : String
  maxTokens : Option ℕ
  usage : Option SessionTokenUsage
  rawOutput : Option (List SessionContentBlock)
  llmStreamCall : Bool

structure SessionCompactionEnd where
  compactionId : CompactionId
  sourceCommandId : Option String
  turn : Option ℕ
  error : Option String

/-! ## Events -/

inductive SessionEventKind
  | turnStart (turn : ℕ)
  | turnEnd (turn : ℕ) (reason : TurnEndReason)
  | stepStart (turn step : ℕ)
  | stepEnd (turn step : ℕ)
  | subagentDescriptor (descriptor : OneShotSubagentDescriptor)
  | agentInboxSpliced (target : AgentInboxTarget) (start : ℕ) (removedCount : Option ℕ)
    (inserted : List SessionMessage) (outcome : Option AgentInboxOutcome)
  | assistantChunk (turn step : ℕ) (chunk : SessionStreamChunk)
  | requestHeader (request : SessionRequestHeader)
  | requestContext (context : SessionRequestContext)
  | approvalAsked (approval : SessionApprovalAsked)
  | approvalDecided (approval : SessionApprovalDecided)
  | approvalPolicy (approval : SessionApprovalPolicy)
  | sandboxMode (sandbox : SessionSandboxMode)
  | llmRetry (retry : SessionLlmRetry)
  | llmRetryStarted (started : SessionLlmRetryStarted)
  | compactionStart (compaction : SessionCompactionStart)
  | compactionSummary (compaction : SessionCompactionSummary)
  | compactionEnd (compaction : SessionCompactionEnd)
  | toolCall (turn step : ℕ) (callId name arguments : String)
  | userMessage (message : SessionMessage) (surface : SessionSurfaceIntent)
  | assistantMessage (turn step : ℕ) (message : SessionMessage) (surface : SessionSurfaceIntent)
  | toolResult (turn step : ℕ) (message : SessionMessage) (error : Option SessionToolError)
    (surface : SessionSurfaceIntent)

namespace SessionEventKind

def eventType : SessionEventKind → String
  | turnStart _ => "turn/start"
  | turnEnd _ _ => "turn/end"
  | stepStart _ _ => "step/start"
  | stepEnd _ _ => "step/end"
  | subagentDescriptor _ => "subagent/descriptor"
  | agentInboxSpliced _ _ _ _ _ => "agent/inbox/spliced"
  | assistantChunk _ _ _ => "assistant/chunk"
  | requestHeader _ => "request/header"
  | requestContext _ => "request/context"
  | approvalAsked _ => "approval/asked"
  | approvalDecided _ => "approval/decided"
  | approvalPolicy _ => "approval/policy"
  | sandboxMode _ => "sandbox/mode"
  | llmRetry _ => "llm/retry"
  | llmRetryStarted _ => "llm/retry-started"
  | compactionStart _ => "compaction/start"
  | compactionSummary _ => "compaction/summary"
  | compactionEnd _ => "compaction/end"
  | toolCall _ _ _ _ _ => "tool/call"
  | userMessage _ _ => "user/message"
  | assistantMessage _ _ _ _ => "assistant/message"
  | toolResult _ _ _ _ _ => "tool/result"

def surfaceIntent : SessionEventKind → Option SessionSurfaceIntent
  | userMessage _ surface => some surface
  | assistantMessage _ _ _ surface => some surface
  | toolResult _ _ _ _ surface => some surface
  | _ => none

end SessionEventKind

structure SessionEvent where
  seq : ℕ
  timeMs : ℤ
  kind : SessionEventKind

/-! ## Errors -/

inductive SessionError
  | emptySessionId
  | unsupportedFormatVersion (expected actual : ℕ)
  | invalidCreatedAt (createdAtMs : ℤ)
  | invalidEventTime (seq : ℕ) (timeMs : ℤ)
  | unexpectedEventSequence (expected actual : ℕ)
  | eventSequenceOverflow
  | delegationDepthOverflow
  | turnSequenceOverflow
  | stepSequenceOverflow (turn : ℕ)
  | turnAlreadyOpen (turn : ℕ)
  | unexpectedTurn (expected actual : ℕ)
  | noOpenTurn
  | turnMismatch (expected actual : ℕ)
  | stepAlreadyOpen (turn step : ℕ)
  | unexpectedStep (turn expected actual : ℕ)
  | noOpenStep (turn : ℕ)
  | stepMismatch (turn expected actual : ℕ)
  | stepStillOpen (turn step : ℕ)
  | emptyApprovalId
  | invalidApproval (expected : String)
  | duplicatePendingApproval (id : ApprovalRequestId)
  | approvalDecisionWithoutRequest (id : ApprovalRequestId)
  | approvalStillPending (id : ApprovalRequestId)
  | emptyMessageId (eventType : String)
  | unexpectedMessageRole (eventType : String) (expected actual : SessionMessageRole)
  | invalidMessageSource (eventType expected : String)
  | invalidContentBlock (eventType expected : String)
  | invalidToolResultShape
  | mismatchedToolCallIds
  | toolResultWithoutCall (callId : String)
  | invalidToolResultError (expected : String)
  | invalidToolCall (expected : String)
  | invalidSubagentDescriptor (expected : String)
  | invalidAssistantChunk (expected : String)
  | invalidRequestHeader (expected : String)
  | invalidRequestContext (expected : String)
  | invalidLlmRetry (expected : String)
  | emptyCompactionId
  | invalidCompaction (expected : String)
  | compactionAlreadyOpen (id : CompactionId)
  | compactionNotOpen
  | compactionIdMismatch (expected actual : CompactionId)
  | compactionSourceCommandMismatch (expected actual : Option String)
  | compactionOwnerMismatch (expected actual : Option ℕ)
  | compactionCrossesTurnBoundary
  | compactionSummaryAlreadyRecorded (id : CompactionId)
  | compactionSummaryExpected (id : CompactionId)
  | compactionCheckpointExpected (id : CompactionId)
  | compactionEndExpected (id : CompactionId)
  | compactionCheckpointRangeMismatch
  | compactionCheckpointProvenanceMismatch
  | compactionSurfaceCorrupt (seq : ℕ)
  | compactionSurfaceNodeNotFound (seq : ℕ)
  | compactionToolResultWithoutCall (seq : ℕ)
  | compactionRangeReversed (start finish : ℕ)
  | compactionRangeUnbalanced (edge : String) (seq : ℕ)
  | compactionRegionChanged
  | compactionLeaseMismatch
  | compactionLeaseSessionMismatch (expected actual : SessionId)
  | emptySurfaceProvenance (eventType : String)
  | duplicateSurfaceProvenance (sourceSeq : ℕ)
  | assistantChunkProvenanceTarget (sourceSeq : ℕ)
  | assistantChunkProvenanceScope (sourceSeq expectedTurn expectedStep actualTurn actualStep : ℕ)
  | surfaceProvenanceNotEarlier (sourceSeq current : ℕ)
  | surfaceReplaceStartNotFound (start : ℕ)
  | surfaceReplaceEndNotFound (finish : ℕ)
  | surfaceReplaceRangeReversed (start finish : ℕ)
  | incompleteSurfaceProvenance (missing : List ℕ)
  | toolResultSurfaceReplaceRange
  | toolResultSurfaceReplaceTarget
  | toolResultSurfaceReplaceDrift
  | surfaceGenerationOverflow
  | invalidInboxSplice (expected : String)
  | duplicatePendingMessage (id : String)
  | invalidPersistedInboxSplice (seq : ℕ)
  | seedBeyondLog (seedLength eventCount : ℕ)
  | sessionAlreadyExists (id : SessionId)
  | sessionNotFound (id : SessionId)
  | forkBoundaryDoesNotExist (id : SessionId) (boundary : ℕ) (lastSeq : Option ℕ)
  | forkBoundaryNotContiguous (id : SessionId) (boundary : ℕ)
  | forkInsideOpenTurn (id : SessionId) (boundary turn : ℕ)

end Hartevo.Cordis
