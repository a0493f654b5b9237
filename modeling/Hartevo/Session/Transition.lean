import Hartevo.Session.Placement

/-!
# Sessions: the transitions of the state

`Applied` lists what an accepted event can do to the state, one constructor for each kind of event
that opens or closes something, with what was checked before.  Everything that is proved about the
states of restorable logs splits on it.

`SessionState.Coherent` says how the open parts of a session fit together, and every accepted event
keeps it.
-/

namespace Hartevo.Cordis

/-! ## What an event does to the state -/

/-- The event opens and closes nothing. -/
def SessionEventKind.isSetting : SessionEventKind → Bool
  | subagentDescriptor _ => true
  | agentInboxSpliced _ _ _ _ _ => true
  | assistantChunk _ _ _ => true
  | requestHeader _ => true
  | requestContext _ => true
  | approvalPolicy _ => true
  | sandboxMode _ => true
  | llmRetry _ => true
  | llmRetryStarted _ => true
  | _ => false

section

variable (state : SessionState) (seq : ℕ)

/-- The state after an accepted event. -/
inductive Applied : SessionEventKind → SessionState → Prop
  | turnStart {turn : ℕ} (hopen : state.openTurn = none) (hcompaction : state.compaction = none)
    (hturn : state.lastTurn + 1 = turn) :
    Applied (.turnStart turn)
      { state with lastTurn := turn, openTurn := some turn, lastStep := 0, retryChains := ∅ }
  | turnEnd {turn : ℕ} {reason : TurnEndReason} (hturn : state.openTurn = some turn)
    (hstep : state.openStep = none) (happrovals : state.pendingApprovals.toList = [])
    (hcompaction : state.compaction = none) :
    Applied (.turnEnd turn reason) { state with openTurn := none, retryChains := ∅ }
  | stepStart {turn step : ℕ} (hturn : state.openTurn = some turn) (hstep : state.openStep = none)
    (hlast : state.lastStep + 1 = step) :
    Applied (.stepStart turn step)
      { state with lastStep := step, openStep := some step, retryChains := ∅ }
  | stepEnd {turn step : ℕ} (hturn : state.openTurn = some turn)
    (hstep : state.openStep = some step) :
    Applied (.stepEnd turn step)
      { state with pendingToolCalls := ∅, openStep := none, retryChains := ∅ }
  | approvalAsked {approval : SessionApprovalAsked} (hturn : state.openTurn.isSome = true)
    (hcompaction : state.compaction = none) :
    Applied (.approvalAsked approval)
      { state with pendingApprovals := state.pendingApprovals.insert approval.id }
  | approvalDecided {approval : SessionApprovalDecided} (hturn : state.openTurn.isSome = true)
    (hid : approval.id ∈ state.pendingApprovals) :
    Applied (.approvalDecided approval)
      { state with pendingApprovals := state.pendingApprovals.erase approval.id }
  | compactionStart {start : SessionCompactionStart} (hvalid : start.toJsonValue = .ok ())
    (happrovals : state.pendingApprovals.toList = []) (hnone : state.compaction = none)
    (howner : start.turn = state.openTurn) :
    Applied (.compactionStart start)
      { state with
        compaction :=
          some ⟨start.compactionId, start.sourceCommandId, start.turn, seq, .started⟩ }
  | compactionSummary {summary : SessionCompactionSummary} {opened : SessionCompactionState}
    (hopened : state.compaction = some opened) :
    Applied (.compactionSummary summary)
      { state with compaction := some { opened with stage := .summarized seq summary } }
  | checkpoint {message : SessionMessage} {surface : SessionSurfaceIntent}
    {opened : SessionCompactionState} (hsource : isCompactCheckpointSource message.source = true)
    (hopened : state.compaction = some opened) :
    Applied (.userMessage message surface)
      { state with compaction := some { opened with stage := .checkpointed } }
  | compactionEnd {compaction : SessionCompactionEnd} {opened : SessionCompactionState}
    (hopened : state.compaction = some opened) :
    Applied (.compactionEnd compaction) { state with compaction := none }
  | toolCall {turn step : ℕ} {callId name arguments : String} (hturn : state.openTurn = some turn)
    (hstep : state.openStep = some step) :
    Applied (.toolCall turn step callId name arguments)
      { state with pendingToolCalls := state.pendingToolCalls.insert callId }
  | toolReplaced {turn step : ℕ} {message : SessionMessage} {error : Option SessionToolError}
    {surface : SessionSurfaceIntent} {callId : String} {start finish : ℕ}
    (hturn : state.openTurn = some turn) (hstep : state.openStep = some step)
    (hsource : message.source = .tool callId) (hop : surface.surfaceOp = .replace start finish) :
    Applied (.toolResult turn step message error surface) state
  | toolAnswered {turn step : ℕ} {message : SessionMessage} {error : Option SessionToolError}
    {surface : SessionSurfaceIntent} {callId : String} (hturn : state.openTurn = some turn)
    (hstep : state.openStep = some step) (hsource : message.source = .tool callId)
    (hop : surface.surfaceOp = .append) :
    Applied (.toolResult turn step message error surface)
      { state with pendingToolCalls := state.pendingToolCalls.erase callId }
  | assistantMessage {turn step : ℕ} {message : SessionMessage} {surface : SessionSurfaceIntent}
    (hturn : state.openTurn = some turn) (hstep : state.openStep = some step)
    (hvalid : validateContentBlocks "assistant/message" message.content = .ok ()) :
    Applied (.assistantMessage turn step message surface) state
  | userMessage {message : SessionMessage} {surface : SessionSurfaceIntent}
    (hsource : isCompactCheckpointSource message.source = false) :
    Applied (.userMessage message surface) state
  | setting {kind : SessionEventKind} (hkind : kind.isSetting = true) (policy : ApprovalPolicy)
    (mode : Option SandboxMode) (provider : Option String)
    (chains : BTreeMap String SessionRetryState) :
    Applied kind
      { state with
        approvalPolicy := policy, sandboxMode := mode, requestProvider := provider,
        retryChains := chains }

end

variable {st st' : SessionState} {seq turn step : ℕ} {u : Unit} {msg : SessionMessage}
  {surf : SessionSurfaceIntent} {kind : SessionEventKind}

lemma requireNoApproval_ok : st.requireNoApproval = .ok u ↔ st.pendingApprovals.toList = [] := by
  rw [SessionState.requireNoApproval, rejectSome_ok, List.head?_eq_none_iff]

lemma requireNoCompaction_ok : st.requireNoCompaction = .ok u ↔ st.compaction = none := by
  rw [SessionState.requireNoCompaction, rejectSome_ok]

lemma applied_of_llmRetry {retry : SessionLlmRetry} (h : st.applyLlmRetry retry = .ok st') :
    Applied st seq (.llmRetry retry) st' := by
  obtain ⟨-, h⟩ := check_ok.mp h
  obtain ⟨-, h⟩ := check_ok.mp h
  obtain ⟨-, h⟩ := check_ok.mp h
  obtain ⟨-, h⟩ := check_ok.mp h
  rcases hc : st.retryChains[retry.retryId]? with _ | chain
  all_goals
    rw [hc] at h
    obtain ⟨-, hs⟩ := check_ok.mp h
    cases hs
    exact .setting rfl _ _ _ _

lemma applied_of_llmRetryStarted {started : SessionLlmRetryStarted}
    (h : st.applyLlmRetryStarted started = .ok st') :
    Applied st seq (.llmRetryStarted started) st' := by
  obtain ⟨-, h⟩ := check_ok.mp h
  obtain ⟨-, h⟩ := check_ok.mp h
  obtain ⟨-, h⟩ := check_ok.mp h
  obtain ⟨chain, -, h⟩ := bind_ok.mp h
  obtain ⟨-, hs⟩ := check_ok.mp h
  cases hs
  exact .setting rfl _ _ _ _

lemma applied_of_compactionStart {start : SessionCompactionStart}
    (h : st.applyCompactionStart seq start = .ok st') :
    Applied st seq (.compactionStart start) st' := by
  obtain ⟨hv, h⟩ := check_ok.mp h
  obtain ⟨ha, h⟩ := check_ok.mp h
  obtain ⟨hn, h⟩ := check_ok.mp h
  obtain ⟨ho, hs⟩ := check_ok.mp h
  cases hs
  exact .compactionStart hv (requireNoApproval_ok.mp ha)
    (requireNoCompaction_ok.mp hn) (validateCompactionOwner_ok.mp ho)

lemma applied_of_compactionSummary {summary : SessionCompactionSummary}
    (h : st.applyCompactionSummary seq summary = .ok st') :
    Applied st seq (.compactionSummary summary) st' := by
  obtain ⟨-, h⟩ := check_ok.mp h
  obtain ⟨opened, ho, h⟩ := bind_ok.mp h
  obtain ⟨-, h⟩ := check_ok.mp h
  obtain ⟨-, h⟩ := check_ok.mp h
  rcases hs : opened.stage with _ | ⟨summarySeq, earlier⟩ | _
  all_goals
    rw [hs] at h
    cases h
  exact .compactionSummary (okOr_ok.mp ho)

lemma applied_of_checkpoint (hsrc : isCompactCheckpointSource msg.source = true)
    (h : st.applyCompactionCheckpoint msg surf = .ok st') :
    Applied st seq (.userMessage msg surf) st' := by
  rw [SessionState.applyCompactionCheckpoint] at h
  split at h
  · obtain ⟨-, h⟩ := check_ok.mp h
    obtain ⟨opened, ho, h⟩ := bind_ok.mp h
    obtain ⟨-, h⟩ := check_ok.mp h
    rcases hs : opened.stage with _ | ⟨summarySeq, summary⟩ | _
    · rw [hs] at h
      cases h
    · rw [hs] at h
      obtain ⟨-, h⟩ := check_ok.mp h
      obtain ⟨-, hst⟩ := check_ok.mp h
      cases hst
      exact .checkpoint hsrc (okOr_ok.mp ho)
    · rw [hs] at h
      cases h
  · cases h

lemma applied_of_compactionEnd {compaction : SessionCompactionEnd}
    (h : st.applyCompactionEnd compaction = .ok st') :
    Applied st seq (.compactionEnd compaction) st' := by
  obtain ⟨-, h⟩ := check_ok.mp h
  obtain ⟨opened, ho, h⟩ := bind_ok.mp h
  obtain ⟨-, h⟩ := check_ok.mp h
  obtain ⟨-, h⟩ := check_ok.mp h
  obtain ⟨-, h⟩ := check_ok.mp h
  obtain ⟨-, hs⟩ := check_ok.mp h
  cases hs
  exact .compactionEnd (okOr_ok.mp ho)

lemma applied_of_toolResult {error : Option SessionToolError}
    (h : st.applyToolResult (.toolResult turn step msg error surf) msg error surf =
      .ok st') : Applied st seq (.toolResult turn step msg error surf) st' := by
  obtain ⟨hv, h⟩ := check_ok.mp h
  obtain ⟨ht, hv⟩ := check_ok.mp hv
  obtain ⟨hstep, hv⟩ := check_ok.mp hv
  obtain ⟨-, hv⟩ := check_ok.mp hv
  obtain ⟨hs, -⟩ := check_ok.mp hv
  rw [requireTurn_ok] at ht
  rw [requireStep_ok] at hstep
  obtain ⟨callId, hsrc⟩ : ∃ callId, msg.source = .tool callId := by
    rw [validateToolResultMessage] at hs
    split at hs
    · next callId hsrc => exact ⟨callId, hsrc⟩
    · cases hs
  rcases hop : surf.surfaceOp with _ | ⟨start, finish⟩
  · rw [hop, hsrc] at h
    obtain ⟨-, hst⟩ := check_ok.mp h
    cases hst
    exact .toolAnswered ht hstep hsrc hop
  · rw [hop] at h
    cases h
    exact .toolReplaced ht hstep hsrc hop

lemma applied_of_transition (hb : kind.isTurnBoundary = true → st.compaction = none)
    (h : st.transition seq kind = .ok st') : Applied st seq kind st' := by
  cases kind with
  | turnStart =>
    obtain ⟨ho, h⟩ := check_ok.mp h
    obtain ⟨expected, he, h⟩ := bind_ok.mp h
    obtain ⟨ht, hs⟩ := check_ok.mp h
    obtain ⟨-, rfl⟩ := checkedAdd_eq_some.mp (okOr_ok.mp he)
    rw [rejectIf_ok, bne_eq_false_iff_eq] at ht
    cases hs
    exact .turnStart (rejectSome_ok.mp ho) (hb rfl) ht.symm
  | turnEnd =>
    obtain ⟨ht, h⟩ := check_ok.mp h
    obtain ⟨hstep, h⟩ := check_ok.mp h
    obtain ⟨ha, hs⟩ := check_ok.mp h
    cases hs
    exact .turnEnd (requireTurn_ok.mp ht) (rejectSome_ok.mp hstep)
      (requireNoApproval_ok.mp ha) (hb rfl)
  | stepStart =>
    obtain ⟨ht, h⟩ := check_ok.mp h
    obtain ⟨ho, h⟩ := check_ok.mp h
    obtain ⟨expected, he, h⟩ := bind_ok.mp h
    obtain ⟨hstep, hs⟩ := check_ok.mp h
    obtain ⟨-, rfl⟩ := checkedAdd_eq_some.mp (okOr_ok.mp he)
    rw [rejectIf_ok, bne_eq_false_iff_eq] at hstep
    cases hs
    exact .stepStart (requireTurn_ok.mp ht) (rejectSome_ok.mp ho) hstep.symm
  | stepEnd =>
    obtain ⟨ht, h⟩ := check_ok.mp h
    obtain ⟨hstep, hs⟩ := check_ok.mp h
    cases hs
    exact .stepEnd (requireTurn_ok.mp ht) (requireStep_ok.mp hstep)
  | subagentDescriptor | requestHeader | requestContext =>
    obtain ⟨-, h⟩ := check_ok.mp h
    obtain ⟨-, hs⟩ := check_ok.mp h
    cases hs
    exact .setting rfl _ _ _ _
  | agentInboxSpliced =>
    obtain ⟨-, hs⟩ := check_ok.mp h
    cases hs
    exact .setting rfl _ _ _ _
  | assistantChunk =>
    obtain ⟨-, h⟩ := check_ok.mp h
    obtain ⟨-, h⟩ := check_ok.mp h
    obtain ⟨-, hs⟩ := check_ok.mp h
    cases hs
    exact .setting rfl _ _ _ _
  | approvalAsked =>
    obtain ⟨ht, h⟩ := check_ok.mp h
    obtain ⟨hn, h⟩ := check_ok.mp h
    obtain ⟨-, hs⟩ := check_ok.mp h
    cases hs
    exact .approvalAsked (requireOpenTurn_ok.mp ht) (requireNoCompaction_ok.mp hn)
  | approvalDecided =>
    obtain ⟨ht, h⟩ := check_ok.mp h
    obtain ⟨hid, hs⟩ := check_ok.mp h
    rw [rejectIf_ok, Bool.not_eq_false_eq_eq_true] at hid
    cases hs
    exact .approvalDecided (requireOpenTurn_ok.mp ht) (Std.ExtTreeSet.contains_iff_mem.mp hid)
  | approvalPolicy | sandboxMode =>
    cases h
    exact .setting rfl _ _ _ _
  | llmRetry => exact applied_of_llmRetry h
  | llmRetryStarted => exact applied_of_llmRetryStarted h
  | compactionStart => exact applied_of_compactionStart h
  | compactionSummary => exact applied_of_compactionSummary h
  | compactionEnd => exact applied_of_compactionEnd h
  | toolCall =>
    obtain ⟨ht, h⟩ := check_ok.mp h
    obtain ⟨hstep, h⟩ := check_ok.mp h
    obtain ⟨-, hs⟩ := check_ok.mp h
    cases hs
    exact .toolCall (requireTurn_ok.mp ht) (requireStep_ok.mp hstep)
  | toolResult => exact applied_of_toolResult h
  | userMessage msg =>
    obtain ⟨-, h⟩ := check_ok.mp h
    rcases hsrc : isCompactCheckpointSource msg.source with _ | _
    · rw [hsrc] at h
      cases h
      exact .userMessage hsrc
    · rw [hsrc] at h
      exact applied_of_checkpoint hsrc h
  | assistantMessage =>
    obtain ⟨hv, hs⟩ := check_ok.mp h
    obtain ⟨ht, hv⟩ := check_ok.mp hv
    obtain ⟨hstep, hv⟩ := check_ok.mp hv
    obtain ⟨-, hv⟩ := check_ok.mp hv
    obtain ⟨-, hv⟩ := check_ok.mp hv
    obtain ⟨-, hbl⟩ := check_ok.mp hv
    cases hs
    exact .assistantMessage (requireTurn_ok.mp ht) (requireStep_ok.mp hstep) hbl

lemma applied_of_apply (h : st.apply seq kind = .ok st') : Applied st seq kind st' := by
  obtain ⟨-, h⟩ := check_ok.mp h
  obtain ⟨hc, h⟩ := check_ok.mp h
  refine applied_of_transition (fun hk => ?_) h
  rw [rejectIf_ok, hk, Bool.and_true, Option.isSome_eq_false_iff, Option.isNone_iff_eq_none]
    at hc
  exact hc

/-! ## Open parts -/

/-- How the open parts of a session fit together: a step is open in the last turn, calls and
approvals wait only while there is somebody to answer them, and a compaction belongs to the turn
that is open, if there is one. -/
structure SessionState.Coherent (state : SessionState) : Prop where
  step_turn : state.openStep.isSome = true → state.openTurn.isSome = true
  turn_last : ∀ turn, state.openTurn = some turn → turn = state.lastTurn
  step_last : ∀ step, state.openStep = some step → step = state.lastStep
  calls : state.openStep = none → state.pendingToolCalls = ∅
  approvals : ∀ id ∈ state.pendingApprovals,
    state.openTurn.isSome = true ∧ state.compaction = none
  compaction : ∀ opened, state.compaction = some opened →
    opened.turn = state.openTurn ∧
      validateIdentity opened.compactionId opened.sourceCommandId opened.turn = .ok ()

namespace SessionState.Coherent

lemma empty : ({} : SessionState).Coherent where
  step_turn := fun h => absurd h (by decide)
  turn_last := fun _ h => absurd h (by simp)
  step_last := fun _ h => absurd h (by simp)
  calls := fun _ => rfl
  approvals := fun _ h => absurd h Std.ExtTreeSet.not_mem_empty
  compaction := fun _ h => absurd h (by simp)

/-- Without a pending approval, nothing is to be shown about pending approvals. -/
lemma notMem_of_toList_nil (h : st.pendingApprovals.toList = []) (id : ApprovalRequestId) :
    id ∉ st.pendingApprovals := by
  rw [← Std.ExtTreeSet.mem_toList, h]
  exact List.not_mem_nil

lemma applied (h : st.Coherent) (hap : Applied st seq kind st') : st'.Coherent := by
  cases hap with
  | turnStart hope hc =>
    have hstep : st.openStep = none := by
      by_contra hs
      have := h.step_turn (Option.isSome_iff_ne_none.mpr hs)
      rw [hope] at this
      cases this
    exact
      { step_turn := fun _ => rfl
        turn_last := fun turn h => (Option.some.inj h).symm
        step_last := fun step hs => absurd hs (by rw [hstep]; simp)
        calls := h.calls
        approvals := fun id hid => ⟨rfl, hc⟩
        compaction := fun opened ho => absurd (hc.symm.trans ho) (by simp) }
  | turnEnd ht hstep ha hc =>
    exact
      { step_turn := fun hs => absurd hs (by simp [hstep])
        turn_last := fun _ h => absurd h (by simp)
        step_last := h.step_last
        calls := h.calls
        approvals := fun id hid => absurd hid (notMem_of_toList_nil ha id)
        compaction := fun opened ho => absurd (hc.symm.trans ho) (by simp) }
  | stepStart ht =>
    exact
      { step_turn := fun _ => by simp [ht]
        turn_last := h.turn_last
        step_last := fun step h => (Option.some.inj h).symm
        calls := fun hn => absurd hn (by simp)
        approvals := h.approvals
        compaction := h.compaction }
  | stepEnd =>
    exact
      { step_turn := fun hs => absurd hs (by simp)
        turn_last := h.turn_last
        step_last := fun _ h => absurd h (by simp)
        calls := fun _ => rfl
        approvals := h.approvals
        compaction := h.compaction }
  | approvalAsked ht hc =>
    exact { h with approvals := fun _ _ => ⟨ht, hc⟩ }
  | approvalDecided ht hid =>
    exact
      { h with
        approvals := fun id hid => h.approvals id (Std.ExtTreeSet.mem_of_mem_erase hid) }
  | compactionStart hv ha hn how =>
    exact
      { h with
        approvals := fun id hid => absurd hid (notMem_of_toList_nil ha id)
        compaction := by
          intro opened ho
          cases ho
          exact ⟨how, hv⟩ }
  | compactionSummary ho | checkpoint _ ho =>
    have hk := h.compaction _ ho
    exact
      { h with
        approvals := fun id hid => absurd ((h.approvals id hid).2.symm.trans ho) (by simp)
        compaction := by
          intro opened' ho'
          cases ho'
          exact hk }
  | compactionEnd ho =>
    exact
      { h with
        approvals := fun id hid => absurd ((h.approvals id hid).2.symm.trans ho) (by simp)
        compaction := fun opened ho => absurd ho (by simp) }
  | toolCall ht hstep | toolAnswered ht hstep hsrc hop =>
    exact { h with calls := fun hn => absurd (hstep.symm.trans hn) (by simp) }
  | toolReplaced | assistantMessage | userMessage => exact h
  | setting => exact { h with }

lemma of_replay {evs : List SessionEvent} {surf : SessionSurfaceState}
    (h : SessionLog.replay evs = .ok (st, surf)) : st.Coherent := by
  refine SessionLog.replay_induction (I := fun _ st _ => st.Coherent) empty ?_ h
  intro evs st surf ev st' surf' _ ih he
  exact ih.applied (applied_of_apply (SessionLog.replayEvent_ok.mp he).2.2.1)

end SessionState.Coherent

end Hartevo.Cordis
