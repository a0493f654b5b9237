import Hartevo.Foundation.Splice
import Hartevo.Session.State

/-!
# Sessions: the surface

The surface is the ordered list of the message events that the model sees.  A message is appended at
its end, or it replaces a span of it.  `SessionSurfaceState.plan` decides whether and how an event
enters the surface, from the surface before it and the events before it; it changes nothing, and
`SessionSurfaceState.apply` carries the plan out.

A compaction may only take the place of a span that contains whole exchanges with tools.
`toolPairingCutsFor` walks the surface and keeps the number of calls that are not answered yet.
-/

namespace Hartevo.Cordis

structure SessionSurfaceState where
  nodes : List ℕ := []
  replaceGeneration : ℕ := 0

inductive SessionSurfacePlan
  | none
  | append (seq : ℕ)
  | replace (seq startIndex endIndex generation : ℕ)

/-! ## Pairing calls and results -/

def SessionMessage.toolCallIds (message : SessionMessage) : List String :=
  message.content.filterMap fun block =>
    match block with
    | .toolCall id _ _ => some id
    | _ => none

/-- The number of open calls after one event of the surface. -/
def SessionEventKind.pairing (kind : SessionEventKind) (seq inProgress : ℕ) :
    Except SessionError ℕ :=
  match kind with
  | .assistantMessage _ _ message _ =>
    okOr (checkedAdd 64 inProgress message.toolCallIds.length) .eventSequenceOverflow
  | .toolResult _ _ _ _ _ =>
    if inProgress = 0 then .error (.compactionToolResultWithoutCall seq) else .ok (inProgress - 1)
  | _ => .ok inProgress

def surfaceEvent (events : List SessionEvent) (seq : ℕ) : Except SessionError SessionEvent :=
  okOr (events[seq]?.filter fun event => event.seq == seq) (.compactionSurfaceCorrupt seq)

/-- For every node, whether all calls are answered before it and after it. -/
def toolPairingCutsFrom (events : List SessionEvent) (inProgress : ℕ) :
    List ℕ → Except SessionError (List (ℕ × Bool × Bool))
  | [] => .ok []
  | seq :: nodes => do
    let event ← surfaceEvent events seq
    let next ← event.kind.pairing seq inProgress
    let cuts ← toolPairingCutsFrom events next nodes
    return (seq, inProgress == 0, next == 0) :: cuts

def toolPairingCutsFor (surfaceNodes : List ℕ) (events : List SessionEvent) :
    Except SessionError (List (ℕ × Bool × Bool)) :=
  toolPairingCutsFrom events 0 surfaceNodes

/-! ## Compactions -/

/-- The checkpoint of a compaction follows its summary, covers the span of the summary, and the span
is balanced at both ends. -/
def validateCompactionReplacement (replacement : SessionEventKind) (shadowed surfaceNodes : List ℕ)
    (startIndex endIndex : ℕ) (priorEvents : List SessionEvent) : Except SessionError Unit :=
  if replacement.isCompactCheckpoint then
    match priorEvents.getLast?.map SessionEvent.kind with
    | some (.compactionSummary compaction) => do
      rejectIf (shadowed != compaction.shadowedSeqs) .compactionCheckpointRangeMismatch
      let cuts ← toolPairingCutsFor surfaceNodes priorEvents
      let (_, balancedBefore, _) ← okOr cuts[startIndex]?
        (.compactionSurfaceCorrupt compaction.shadowedRange.start)
      rejectIf (!balancedBefore) (.compactionRangeUnbalanced "start" compaction.shadowedRange.start)
      let (_, _, balancedAfter) ← okOr cuts[endIndex]?
        (.compactionSurfaceCorrupt compaction.shadowedRange.finish)
      rejectIf (!balancedAfter) (.compactionRangeUnbalanced "end" compaction.shadowedRange.finish)
    | _ => .error .compactionCheckpointProvenanceMismatch
  else .ok ()

/-- The summary of a compaction names a span of the surface that is balanced at both ends.  There is
a cut for every position of the surface, so the two readings of the cuts do not fail. -/
def validateCompactionSummarySurface (summary : SessionCompactionSummary) (surfaceNodes : List ℕ)
    (priorEvents : List SessionEvent) : Except SessionError Unit := do
  let startIndex ← okOr (position surfaceNodes summary.shadowedRange.start)
    (.compactionSurfaceNodeNotFound summary.shadowedRange.start)
  let endIndex ← okOr (position surfaceNodes summary.shadowedRange.finish)
    (.compactionSurfaceNodeNotFound summary.shadowedRange.finish)
  rejectIf (decide (endIndex < startIndex))
    (.compactionRangeReversed summary.shadowedRange.start summary.shadowedRange.finish)
  rejectIf (slice surfaceNodes startIndex endIndex != summary.shadowedSeqs)
    .compactionRegionChanged
  let cuts ← toolPairingCutsFor surfaceNodes priorEvents
  rejectIf (!(cuts[startIndex]?.any fun cut => cut.2.1))
    (.compactionRangeUnbalanced "start" summary.shadowedRange.start)
  rejectIf (!(cuts[endIndex]?.any fun cut => cut.2.2))
    (.compactionRangeUnbalanced "end" summary.shadowedRange.finish)

/-! ## Provenance -/

/-- The sources of a message are distinct and come before it. -/
def validateSources (seq : ℕ) (sourceEventSeqs : List ℕ) : Except SessionError (List ℕ) :=
  sourceEventSeqs.foldlM
    (fun sources source => do
      rejectIf (sources.contains source) (.duplicateSurfaceProvenance source)
      rejectIf (decide (seq ≤ source)) (.surfaceProvenanceNotEarlier source seq)
      return sources ++ [source]) []

/-- A source of an assistant message is a node that it shadows, or a chunk of its own step. -/
def validateChunkSource (turn step : ℕ) (shadowed : List ℕ) (priorEvents : List SessionEvent)
    (source : ℕ) : Except SessionError Unit :=
  if shadowed.contains source then .ok ()
  else
    match priorEvents[source]?.map SessionEvent.kind with
    | some (.assistantChunk sourceTurn sourceStep _) =>
      rejectIf (!(sourceTurn == turn && sourceStep == step))
        (.assistantChunkProvenanceScope source turn step sourceTurn sourceStep)
    | _ => .error (.assistantChunkProvenanceTarget source)

def SessionEventKind.isAssistantMessage : SessionEventKind → Bool
  | assistantMessage _ _ _ _ => true
  | _ => false

/-- The sources that a message names, checked one after the other. -/
def collectSources (seq : ℕ) (kind : SessionEventKind) (intent : SessionSurfaceIntent) :
    Except SessionError (List ℕ) :=
  match intent.sourceEventSeqs with
  | none => .ok []
  | some sourceEventSeqs => do
    rejectIf (sourceEventSeqs.isEmpty && !kind.isAssistantMessage)
      (.emptySurfaceProvenance kind.eventType)
    validateSources seq sourceEventSeqs

/-- The sources of an assistant message are chunks of its step, or nodes that it shadows. -/
def validateChunkSources (kind : SessionEventKind) (intent : SessionSurfaceIntent)
    (shadowed : List ℕ) (priorEvents : List SessionEvent) : Except SessionError Unit :=
  match kind, intent.sourceEventSeqs with
  | .assistantMessage turn step _ _, some sourceEventSeqs =>
    sourceEventSeqs.forM (validateChunkSource turn step shadowed priorEvents)
  | _, _ => .ok ()

def validateSurfaceProvenance (seq : ℕ) (kind : SessionEventKind) (intent : SessionSurfaceIntent)
    (shadowed : List ℕ) (priorEvents : List SessionEvent) : Except SessionError Unit := do
  let sources ← collectSources seq kind intent
  validateChunkSources kind intent shadowed priorEvents
  let missing := shadowed.filter fun node => !sources.contains node
  rejectIf (!missing.isEmpty) (.incompleteSurfaceProvenance missing)

/-! ## Replaced tool results -/

def toolResultSameExceptContent (original replacement : SessionMessage) : Bool :=
  if original.id != replacement.id || original.role != replacement.role ||
      original.source != replacement.source then false
  else
    match original.content, replacement.content with
    | [.toolResult originalCall _ originalError],
        [.toolResult replacementCall _ replacementError] =>
      originalCall == replacementCall && originalError == replacementError
    | _, _ => false

/-- A tool result replaces exactly one other result, and changes nothing but its content. -/
def validateToolResultReplacement (replacement : SessionEventKind) (shadowed : List ℕ)
    (priorEvents : List SessionEvent) : Except SessionError Unit :=
  match replacement with
  | .toolResult turn step message error _ =>
    match shadowed with
    | [originalSeq] =>
      match priorEvents[originalSeq]?.map SessionEvent.kind with
      | some (.toolResult originalTurn originalStep originalMessage originalError _) =>
        rejectIf (turn != originalTurn || step != originalStep || error != originalError ||
            !toolResultSameExceptContent originalMessage message)
          .toolResultSurfaceReplaceDrift
      | _ => .error .toolResultSurfaceReplaceTarget
    | _ => .error .toolResultSurfaceReplaceRange
  | _ => .ok ()

/-! ## The plan of an event -/

namespace SessionSurfaceState

/-- The place of a message: at the end, or the span that it replaces. -/
def planMessage (surface : SessionSurfaceState) (seq : ℕ) (kind : SessionEventKind)
    (intent : SessionSurfaceIntent) (priorEvents : List SessionEvent) :
    Except SessionError SessionSurfacePlan :=
  match intent.surfaceOp with
  | .append => do
    validateSurfaceProvenance seq kind intent [] priorEvents
    return .append seq
  | .replace start finish => do
    let startIndex ← okOr (position surface.nodes start) (.surfaceReplaceStartNotFound start)
    let endIndex ← okOr (position surface.nodes finish) (.surfaceReplaceEndNotFound finish)
    rejectIf (decide (endIndex < startIndex)) (.surfaceReplaceRangeReversed start finish)
    let shadowed := slice surface.nodes startIndex endIndex
    validateSurfaceProvenance seq kind intent shadowed priorEvents
    validateCompactionReplacement kind shadowed surface.nodes startIndex endIndex priorEvents
    validateToolResultReplacement kind shadowed priorEvents
    let generation ← okOr (checkedAdd 64 surface.replaceGeneration 1) .surfaceGenerationOverflow
    return .replace seq startIndex endIndex generation

def plan (surface : SessionSurfaceState) (seq : ℕ) (kind : SessionEventKind)
    (priorEvents : List SessionEvent) : Except SessionError SessionSurfacePlan :=
  match kind with
  | .compactionSummary compaction => do
    validateCompactionSummarySurface compaction surface.nodes priorEvents
    return .none
  | kind =>
    match kind.surfaceIntent with
    | none => return .none
    | some intent => surface.planMessage seq kind intent priorEvents

def apply (surface : SessionSurfaceState) : SessionSurfacePlan → SessionSurfaceState
  | .none => surface
  | .append seq => { surface with nodes := surface.nodes ++ [seq] }
  | .replace seq startIndex endIndex generation =>
    { nodes := splice surface.nodes startIndex endIndex seq, replaceGeneration := generation }

end SessionSurfaceState

end Hartevo.Cordis
