import Hartevo.Session.Replay

/-!
# Sessions: reachable logs

A log is reachable when it can be made by the operations of the package: it is new, a child, or the
result of a command on a reachable log.  The commands are parameters of the notion, by a condition
`Allowed` on the log before the command, so that it serves both for all commands and for those that
keep to a discipline.

`SessionCommand.growsAt` looks at every command once.
-/

namespace Hartevo.Cordis

open Command SessionLog

/-! ## What a command appends -/

/-- The event neither asks for a tool nor answers a call, and if it replaces a span of the surface,
it is the checkpoint of a compaction. -/
def SessionEventKind.isNeutral : SessionEventKind → Bool
  | userMessage message surface =>
    surface.surfaceOp == .append || isCompactCheckpointSource message.source
  | assistantMessage _ _ _ _ => false
  | toolCall _ _ _ _ _ => false
  | toolResult _ _ _ _ _ => false
  | _ => true

namespace SessionCommand

/-- The event of a command that appends a message or a tool call as it was given. -/
def given : SessionCommand → Option SessionEventKind
  | appendUserMessage message surface => some (.userMessage message surface)
  | appendToolCall turn step callId name arguments =>
    some (.toolCall turn step callId name arguments)
  | appendAssistantMessage turn step message surface =>
    some (.assistantMessage turn step message surface)
  | appendToolResult turn step message error surface =>
    some (.toolResult turn step message error surface)
  | _ => none

end SessionCommand

namespace SessionLog

section

variable {P : SessionLog → SessionEventKind → Prop} {clock : Clock} {log : SessionLog}

def HoldsOfNeutral (P : SessionLog → SessionEventKind → Prop) : Prop :=
  ∀ (log : SessionLog) (kind : SessionEventKind) (timeMs : ℤ) (next : SessionLog),
    kind.isNeutral = true → log.accept kind timeMs = .ok next → P log kind

section

variable (hP : HoldsOfNeutral P)

include hP

lemma HoldsOfNeutral.append (kind : SessionEventKind)
    (hk : kind.isNeutral = true) : AppendsAt P (append clock kind) log :=
  appendsAt_append fun ms next => hP log kind ms next hk

lemma HoldsOfNeutral.startStep (turn : ℕ) : AppendsAt P (startStep clock turn) log :=
  AppendsAt.check_bind fun _ _ => AppendsAt.check_bind fun step _ =>
    (hP.append (.stepStart turn step) rfl).bind_pure

lemma HoldsOfNeutral.beginApproval (toolName : String) (callId reason : Option String) :
    AppendsAt P (beginApproval clock toolName callId reason) log := by
  refine AppendsAt.check_bind ?_
  rintro ⟨id, apr⟩ -
  exact (hP.append _ rfl).bind_pure

lemma HoldsOfNeutral.beginCompaction (compactionId : CompactionId)
    (sourceCommandId : Option String) (turn : Option ℕ) (start finish : ℕ) :
    AppendsAt P (beginCompaction clock compactionId sourceCommandId turn start finish) log := by
  refine AppendsAt.check_bind ?_
  rintro ⟨sessionId, region⟩ -
  exact (hP.append _ rfl).bind_pure

lemma HoldsOfNeutral.completeCompaction (ls : CompactionLease)
    (summary : CompactionSummaryDraft) (cp : CompactionCheckpoint) :
    GrowsIfOk P (completeCompaction clock ls summary cp) log := by
  refine GrowsIfOk.check_bind fun current _ => ?_
  refine (hP.append _ rfl).growsIfOk.bind fun summaryEvent middle _ => ?_
  refine (hP.append _ ?_).growsIfOk.bind fun _ next _ => ?_
  · simp [SessionEventKind.isNeutral, CompactionCheckpoint.message, compactCheckpointSource,
      isCompactCheckpointSource]
  · exact (hP.append _ rfl).bind_pure.growsIfOk

lemma HoldsOfNeutral.claimIf (condition : Bool) (target : AgentInboxTarget) (count : ℕ) :
    GrowsIfOk P (claimIf clock condition target count) log := by
  rcases condition with _ | _
  · exact growsIfOk_pure [] log
  · exact ((hP.append _ rfl).map List.singleton).growsIfOk

lemma HoldsOfNeutral.claimAgentInboxBatch (turn nextStepRemovedCount : ℕ) (claimNextTurn : Bool) :
    GrowsAt P (claimAgentInboxBatch clock turn nextStepRemovedCount claimNextTurn) log := by
  refine GrowsAt.check_bind fun _ _ => GrowsIfOk.onCopy ?_
  refine (hP.claimIf _ _ _).bind fun nextStep next _ => ?_
  exact (hP.claimIf _ _ _).bind fun nextTurn last _ => growsIfOk_pure _ last

lemma HoldsOfNeutral.enterAgentStep (turn step : ℕ)
    (msgs : List SessionMessage) : GrowsAt P (enterAgentStep clock turn step msgs) log := by
  refine GrowsIfOk.onCopy ((hP.startStep turn).growsIfOk.bind fun expected next _ => ?_)
  refine GrowsIfOk.check_bind fun _ _ => growsIfOk_forM (fun msg _ log => ?_) next
  exact (hP.append _ rfl).bind_pure.growsIfOk

lemma HoldsOfNeutral.recordAgentRequestState (turn step : ℕ)
    (header : SessionEpochHeader) (headerLogged startsSeries : Bool)
    (context : SessionRequestContext) :
    GrowsAt P (recordAgentRequestState clock turn step header headerLogged startsSeries context)
      log := by
  refine GrowsAt.check_bind ?_
  rintro ⟨record, contextAppended⟩ -
  refine GrowsAt.bind_pure (GrowsIfOk.onCopy (GrowsIfOk.bind ?_ fun _ next _ => ?_))
  · rcases record with _ | ⟨reason, startsSeries⟩
    · exact growsIfOk_pure () log
    · exact (hP.append _ rfl).bind_pure.growsIfOk
  · rcases contextAppended with _ | _
    · exact growsIfOk_pure () next
    · exact (hP.append _ rfl).bind_pure.growsIfOk

lemma HoldsOfNeutral.setApprovalPolicy (policy : ApprovalPolicy)
    (source : Option ApprovalPolicySource) :
    GrowsAt P (setApprovalPolicy clock policy source) log := by
  refine GrowsAt.check_bind fun current _ => ?_
  split
  · exact .inr ⟨false, log, rfl, .refl⟩
  · exact ((hP.append _ rfl).bind_pure (f := SessionEvent.seq)).bind_pure.growsAt

lemma HoldsOfNeutral.repairInterruptedTail
    (hres : ∀ (log : SessionLog) (call : InterruptedToolCall) (turn : ℕ),
      P log (call.result turn log.events.length)) : GrowsAt P repairInterruptedTail log := by
  have ha : ∀ {kind : SessionEventKind} {ms : ℤ} {log : SessionLog},
      kind.isNeutral = true → GrowsIfOk P (appendAt kind ms >>= fun _ => pure ()) log :=
    fun {kind ms log} hk =>
      (appendsAt_appendAt fun next => hP log kind ms next hk).bind_pure.growsIfOk
  refine GrowsAt.check_bind fun ot _ => ?_
  rcases ot with _ | turn
  · exact .inr ⟨false, log, rfl, .refl⟩
  refine GrowsAt.check_bind fun ms _ => GrowsAt.check_bind fun interrupted _ => ?_
  refine (GrowsIfOk.onCopy ?_).bind_pure
  refine GrowsIfOk.bind ?_ fun _ log _ => GrowsIfOk.bind ?_ fun _ log _ =>
    GrowsIfOk.bind ?_ fun _ log _ => GrowsIfOk.bind ?_ fun _ log _ => ha rfl
  · refine GrowsIfOk.check_bind fun compaction _ => ?_
    rcases compaction with _ | compaction
    · exact growsIfOk_pure () log
    · exact ha rfl
  · refine GrowsIfOk.check_bind fun approvals _ => ?_
    exact growsIfOk_forM (fun id _ log => ha rfl) log
  · refine growsIfOk_forM (fun call _ log => GrowsIfOk.check_bind fun seq hseq => ?_) log
    cases hseq
    exact (appendsAt_appendAt fun next _ => hres log call turn).bind_pure.growsIfOk
  · refine GrowsIfOk.check_bind fun openStep _ => ?_
    rcases openStep with _ | step
    · exact growsIfOk_pure () log
    · exact ha rfl

end

end

end SessionLog

/-- Every command is refused and leaves the log alone, or it succeeds and the log grows by events
that satisfy `P`. -/
lemma SessionCommand.growsAt {log : SessionLog} {P : SessionLog → SessionEventKind → Prop}
    (hP : HoldsOfNeutral P) (clock : Clock) (cmd : SessionCommand)
    (hg : ∀ kind, cmd.given = some kind → P log kind)
    (hr : cmd = .repairInterruptedTail → GrowsAt P SessionLog.repairInterruptedTail log) :
    GrowsAt P (cmd.body clock) log := by
  have ha : ∀ kind, cmd.given = some kind → AppendsAt P (append clock kind) log :=
    fun kind hk => appendsAt_append fun _ _ _ => hg kind hk
  cases cmd with
  | startTurn =>
    exact (AppendsAt.check_bind fun turn _ =>
      (hP.append (.turnStart turn) rfl).bind_pure).commitSilently.growsAt
  | finishTurn | finishStep | appendSubagentDescriptor | appendAssistantChunk
  | appendRequestContext | decideApproval | appendSandboxMode | appendLlmRetry
  | appendLlmRetryStarted => exact (hP.append _ rfl).bind_pure.commitSilently.growsAt
  | startStep turn => exact (hP.startStep turn).commitSilently.growsAt
  | appendAgentInboxSplice =>
    exact (hP.append _ rfl).commitSilently.growsAt
  | claimAgentInboxSplice =>
    exact (AppendsAt.check_bind fun _ _ => hP.append _ rfl).commitSilently.growsAt
  | claimAgentInboxBatch turn nextStepRemovedCount claimNextTurn =>
    exact (hP.claimAgentInboxBatch turn nextStepRemovedCount claimNextTurn).map _
  | enterAgentStep turn step msgs => exact hP.enterAgentStep turn step msgs
  | recordAgentRequestState turn step header headerLogged startsSeries context =>
    exact (hP.recordAgentRequestState turn step header headerLogged startsSeries context).map _
  | appendUserMessage | appendToolCall | appendAssistantMessage | appendToolResult =>
    exact (ha _ rfl).bind_pure.commitSilently.growsAt
  | appendRequestHeader =>
    exact (hP.append _ rfl).bind_pure.commitSilently.growsAt
  | beginApproval toolName callId reason =>
    exact (hP.beginApproval toolName callId reason).commitSilently.growsAt
  | setApprovalPolicy policy source => exact (hP.setApprovalPolicy policy source).map _
  | beginCompaction compactionId sourceCommandId turn start finish =>
    exact (hP.beginCompaction compactionId sourceCommandId turn start finish).commitSilently.growsAt
  | completeCompaction ls summary cp =>
    refine GrowsAt.map _ (GrowsAt.check_bind fun previousLen _ => GrowsIfOk.onCopy ?_)
    refine (hP.completeCompaction ls summary cp).bind fun result next _ => ?_
    exact GrowsIfOk.check_bind fun _ _ => growsIfOk_pure result next
  | failCompaction =>
    exact (AppendsAt.check_bind fun _ _ => (hP.append _ rfl).bind_pure).commitSilently.growsAt
  | repairInterruptedTail => exact (hr rfl).map _

/-! ## Reachable logs -/

inductive SessionLog.Reachable (Allowed : SessionLog → SessionCommand → Prop) : SessionLog → Prop
  | new {id : SessionId} {createdAtMs : ℤ} {log : SessionLog}
    (h : SessionLog.newAt id createdAtMs = .ok log) : Reachable Allowed log
  | spawn {parent child : SessionLog} {parentId childId : SessionId} {createdAtMs : ℤ}
    (hparent : Reachable Allowed parent)
    (h : parent.spawnChild parentId childId createdAtMs = .ok child) : Reachable Allowed child
  | fork {source child : SessionLog} {sourceId childId : SessionId} {boundary : Option ℕ}
    {createdAtMs : ℤ} (hsource : Reachable Allowed source)
    (h : source.fork sourceId boundary childId createdAtMs = .ok child) :
    Reachable Allowed child
  | command {log : SessionLog} (clock : Clock) (command : SessionCommand)
    (hlog : Reachable Allowed log) (hallowed : Allowed log command) :
    Reachable Allowed ((command.body clock).exec log).2

namespace SessionLog

lemma newAt_ok {log : SessionLog} {cms : ℤ} {id : SessionId} (h : newAt id cms = .ok log) :
    0 ≤ cms ∧ log = { header := ⟨sessionFormatVersion, id, cms, none, 0, none⟩,
                              events := [], state := {}, surface := {} } := by
  simp only [newAt, SessionHeader.newAt, bind_ok, passed, exists_const] at h
  obtain ⟨header, ⟨hc, hh⟩, hlog⟩ := h
  cases hh
  cases hlog
  exact ⟨hc, rfl⟩

lemma fork_ok {cms : ℤ} {sourceId childId : SessionId} {boundary : Option ℕ}
    {source child : SessionLog} (h : source.fork sourceId boundary childId cms = .ok child) :
    ∃ header seed, source.forkSeed sourceId boundary = .ok seed ∧
      restore header seed = .ok child ∧ child.state.openTurn = none := by
  rw [fork, bind_ok] at h
  obtain ⟨seed, hs, h⟩ := h
  obtain ⟨restored, hr, h⟩ := bind_ok.mp h
  rcases ho : restored.state.openTurn with _ | turn
  · rw [ho] at h
    cases h
    exact ⟨_, seed, hs, hr, ho⟩
  · rw [ho] at h
    obtain ⟨boundary, -, he⟩ := bind_ok.mp h
    cases he

lemma growsAt_body (clock : Clock) (cmd : SessionCommand) (log : SessionLog) :
    GrowsAt (fun _ _ => True) (cmd.body clock) log := by
  have hn : HoldsOfNeutral fun _ _ => True := fun _ _ _ _ _ _ => trivial
  refine cmd.growsAt hn clock (fun _ _ => trivial) fun _ => ?_
  exact hn.repairInterruptedTail fun _ _ _ => trivial

lemma Reachable.restorable {Allowed : SessionLog → SessionCommand → Prop} {log : SessionLog}
    (h : log.Reachable Allowed) : log.Restorable := by
  induction h with
  | new h =>
    obtain ⟨hc, rfl⟩ := newAt_ok h
    exact restorable_iff.mpr ⟨validateHeader_ok.mpr ⟨rfl, hc, le_rfl⟩, rfl⟩
  | spawn _ h =>
    obtain ⟨depth, -, hr⟩ := bind_ok.mp h
    exact restorable_of_restore hr
  | fork _ h =>
    obtain ⟨header, seed, -, hr, -⟩ := fork_ok h
    exact restorable_of_restore hr
  | command clock cmd _ _ ih =>
    rcases growsAt_body clock cmd _ with ⟨e, he⟩ | ⟨a, next, he, hg⟩
    · rwa [he]
    · rw [he]
      exact hg.restorable ih

lemma Restorable.take {n : ℕ} {log : SessionLog} (h : log.Restorable)
    (hn : log.header.seedLength.getD 0 ≤ n) :
    ∃ earlier, restore log.header (log.events.take n) = .ok earlier := by
  obtain ⟨hh, hr⟩ := restorable_iff.mp h
  obtain ⟨st, surf, he⟩ := exists_replay_of_prefix (List.take_prefix n log.events) hr
  obtain ⟨hve, hc, hs⟩ := validateHeader_ok.mp hh
  have hv : validateHeader log.header (log.events.take n).length = .ok () := by
    rw [List.length_take]
    exact validateHeader_ok.mpr ⟨hve, hc, le_min hn hs⟩
  refine ⟨⟨log.header, log.events.take n, st, surf⟩, ?_⟩
  exact restore_ok.mpr ⟨hv, he, rfl, rfl⟩

end SessionLog

/-- A reachable log is what its header and its events are restored to, so is the log at every
earlier point that is not before its seed, and a command that fails leaves the log as it was. -/
theorem reachable_log_replays {log : SessionLog} (h : log.Reachable fun _ _ => True) :
    SessionLog.restore log.header log.events = .ok log ∧
      (∀ n, log.header.seedLength.getD 0 ≤ n →
        ∃ earlier, SessionLog.restore log.header (log.events.take n) = .ok earlier) ∧
      ∀ (clock : Clock) (command : SessionCommand) (e : SessionError),
        ((command.body clock).exec log).1 = .error e →
          ((command.body clock).exec log).2 = log := by
  refine ⟨h.restorable, fun n hn => h.restorable.take hn, fun clock command e her => ?_⟩
  rcases growsAt_body clock command log with ⟨e', he⟩ | ⟨a, next, he, -⟩
  · rw [he]
  · rw [he] at her
    cases her

def SessionLog.sample : SessionLog where
  header := ⟨sessionFormatVersion, ⟨"session", by decide⟩, 0, none, 0, none⟩
  events := []
  state := {}
  surface := {}

def SessionMessage.sample : SessionMessage :=
  ⟨"message", .user, [.text "hello"], .user⟩

lemma SessionLog.sample_new :
    SessionLog.newAt ⟨"session", by decide⟩ 0 = .ok SessionLog.sample := rfl

/-- A message of a model that asks for a number of calls. -/
def SessionMessage.asking (ids : List String) : SessionMessage :=
  ⟨"asking", .assistant, ids.map fun id => .toolCall id "tool" "{}", .model "provider" "model"⟩

/-- The log after a number of commands. -/
def SessionLog.after (commands : List SessionCommand) : SessionLog :=
  commands.foldl (fun log command => ((command.body fun _ => 0).exec log).2) .sample

lemma reachable_after (cmds : List SessionCommand) :
    (SessionLog.after cmds).Reachable fun _ _ => True := by
  induction cmds using List.reverseRecOn with
  | nil => exact .new SessionLog.sample_new
  | append_singleton cmds cmd ih =>
    rw [SessionLog.after, List.foldl_concat]
    exact .command _ cmd ih trivial

/-- The call of a tool and its result. -/
def answeredCall : List SessionCommand :=
  [.appendToolCall 1 1 "a" "tool" "{}", .appendToolResult 1 1
    ⟨"result", .user, [.toolResult "a" [.text "done"] false], .tool "a"⟩ none .append]

/-- A model asks for the tool in the first step. -/
def askedCall : List SessionCommand :=
  [.startTurn, .startStep 1, .appendAssistantMessage 1 1 (.asking ["a"]) .append]

/-- The log of a turn with an answered call, and a command that it refuses. -/
theorem reachable_log_replays_answeredCall :
    let log := SessionLog.after (askedCall ++ answeredCall)
    log.events.length = 5 ∧ SessionLog.restore log.header log.events = .ok log ∧
      (∀ n, ∃ earlier, SessionLog.restore log.header (log.events.take n) = .ok earlier) ∧
      ((SessionCommand.startTurn.body fun _ => 0).exec log).2 = log := by
  intro log
  obtain ⟨hlog, htake, hfail⟩ := reachable_log_replays (reachable_after (askedCall ++ answeredCall))
  refine ⟨by decide +kernel, hlog, fun n => htake n (Nat.zero_le n), ?_⟩
  exact hfail _ .startTurn _ rfl

end Hartevo.Cordis
