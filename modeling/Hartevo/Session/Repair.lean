import Hartevo.Session.Scan

/-!
# Sessions: the repair of an interrupted log

A log that was cut after any of its events is repaired by closing what the cut left open: the
compaction, the approvals, the interrupted calls, the step and the turn, in this order.  Each of
these events has to pass the same checks as any other event.  That it does is shown stage by stage:
the closing event is accepted (`apply_interrupt`, `apply_cancel`, `apply_result`, `apply_stepEnd`,
`apply_turnEnd`), and the stage leaves the state in which the next one can go on.

The repair looks only at the open turn.  A compaction that was begun between two turns stays open,
and then no turn can be started any more.
-/

namespace Hartevo.Cordis

open Command List SessionLog

/-! ## Closing events -/

variable {st : SessionState} {seq : ℕ} {kind : SessionEventKind}

lemma apply_ok {state' : SessionState} (ha : st.validateCompactionAdjacency kind = .ok ())
    (hb : (st.compaction.isSome && kind.isTurnBoundary) = false)
    (h : st.transition seq kind = .ok state') : st.apply seq kind = .ok state' :=
  check_ok.mpr ⟨ha, check_ok.mpr ⟨rejectIf_ok.mpr hb, h⟩⟩

/-- Without an open compaction, only the transition decides. -/
lemma apply_eq_ok_of_none {st' : SessionState}
    (hn : st.compaction = none) (h : st.transition seq kind = .ok st') :
    st.apply seq kind = .ok st' := by
  refine apply_ok ?_ ?_ h
  · rw [SessionState.validateCompactionAdjacency, hn]
  · rw [hn]
    rfl

lemma apply_interrupt {opened : SessionCompactionState}
    (h : st.Coherent) (ho : st.compaction = some opened) :
    st.apply seq (.compactionEnd opened.interrupt) = .ok { st with compaction := none } := by
  obtain ⟨how, hi⟩ := h.compaction opened ho
  refine apply_ok ?_ (Bool.and_false _) ?_
  · rw [SessionState.validateCompactionAdjacency, ho]
    rcases hs : opened.stage with _ | _ | _ <;> simp only [hs] <;> rfl
  · have hj : opened.interrupt.toJsonValue = .ok () :=
      check_ok.mpr ⟨hi, rejectIf_ok.mpr (by simp [SessionCompactionState.interrupt])⟩
    have hsa : validateCompactionIdentity opened.compactionId opened.sourceCommandId
        opened.interrupt.compactionId opened.interrupt.sourceCommandId = .ok () := by
      simp [validateCompactionIdentity, SessionCompactionState.interrupt, check_ok]
    refine check_ok.mpr ⟨hj, ?_⟩
    refine bind_ok.mpr ⟨opened, okOr_ok.mpr ho, ?_⟩
    refine check_ok.mpr ⟨hsa, ?_⟩
    refine check_ok.mpr ⟨by simp [SessionCompactionState.interrupt], ?_⟩
    refine check_ok.mpr ⟨validateCompactionOwner_ok.mpr how, ?_⟩
    exact check_ok.mpr ⟨rejectIf_ok.mpr rfl, rfl⟩

lemma apply_cancel (seq : ℕ) (ht : st.openTurn.isSome = true) (hn : st.compaction = none)
    {id : ApprovalRequestId} (hid : id ∈ st.pendingApprovals) :
    st.apply seq (.approvalDecided ⟨id, .cancelled⟩) =
      .ok { st with pendingApprovals := st.pendingApprovals.erase id } := by
  refine apply_eq_ok_of_none hn ?_
  refine check_ok.mpr ⟨requireOpenTurn_ok.mpr ht, ?_⟩
  refine check_ok.mpr ⟨rejectIf_ok.mpr ?_, rfl⟩
  rw [Bool.not_eq_false_eq_eq_true]
  exact Std.ExtTreeSet.contains_iff_mem.mpr hid

lemma apply_stepEnd {turn step : ℕ} (ht : st.openTurn = some turn)
    (hstep : st.openStep = some step) (hn : st.compaction = none) :
    st.apply seq (.stepEnd turn step) =
      .ok { st with pendingToolCalls := ∅, openStep := none, retryChains := ∅ } := by
  refine apply_eq_ok_of_none hn ?_
  refine check_ok.mpr ⟨requireTurn_ok.mpr ht, ?_⟩
  exact check_ok.mpr ⟨requireStep_ok.mpr hstep, rfl⟩

/-- The open turn can be ended, once nothing is open in it. -/
lemma apply_turnEnd {turn : ℕ} {reason : TurnEndReason} (ht : st.openTurn = some turn)
    (hstep : st.openStep = none) (ha : st.pendingApprovals = ∅) (hn : st.compaction = none) :
    st.apply seq (.turnEnd turn reason) = .ok { st with openTurn := none, retryChains := ∅ } := by
  refine apply_eq_ok_of_none hn ?_
  refine check_ok.mpr ⟨requireTurn_ok.mpr ht, ?_⟩
  refine check_ok.mpr ⟨rejectSome_ok.mpr hstep, ?_⟩
  refine check_ok.mpr ⟨requireNoApproval_ok.mpr ?_, rfl⟩
  rw [ha]
  rfl

lemma apply_turnStart (ht : st.openTurn = none) (hn : st.compaction = none)
    (hr : st.lastTurn + 1 < 2 ^ 64) :
    st.apply seq (.turnStart (st.lastTurn + 1)) = .ok { st with
        lastTurn := st.lastTurn + 1, openTurn := some (st.lastTurn + 1), lastStep := 0,
        retryChains := ∅ } := by
  refine apply_eq_ok_of_none hn ?_
  refine check_ok.mpr ⟨rejectSome_ok.mpr ht, ?_⟩
  refine bind_ok.mpr ⟨st.lastTurn + 1, okOr_ok.mpr ?_, ?_⟩
  · exact checkedAdd_eq_some.mpr ⟨hr, rfl⟩
  · exact check_ok.mpr ⟨rejectIf_ok.mpr (by simp), rfl⟩

/-! ## Synthesized results -/

section Results

variable {call : InterruptedToolCall} {turn eventCount : ℕ}

lemma isEmpty_eq_false {text : String} (h : text ≠ "") : text.isEmpty = false := by
  rwa [Bool.eq_false_iff, ne_eq, String.isEmpty_iff]

lemma append_ne_empty {a b : String} (h : a ≠ "") : a ++ b ≠ "" := by
  rw [ne_eq, String.append_eq_empty_iff]
  exact fun hb => h hb.1

lemma validate_toolResult {step : ℕ} {callId : String} {content : List SessionContentBlock}
    {msg : SessionMessage} {error : SessionToolError} {surf : SessionSurfaceIntent}
    (ht : st.openTurn = some turn)
    (hstep : st.openStep = some step) (hid : msg.id ≠ "") (hr : msg.role = .user)
    (hsrc : msg.source = .tool callId) (hca : callId ≠ "")
    (hc : msg.content = [.toolResult callId content true])
    (hb : validateContentBlocks "tool/result" content = .ok ())
    (hn : error.name ≠ "") (hco : error.code ≠ "") :
    st.validateMessageEvent (.toolResult turn step msg (some error) surf) = .ok () := by
  have hmsg : validateMessage msg .user "tool/result" validToolSource
      "non-empty tool call id" = .ok () := by
    simp only [validateMessage, check_ok, rejectIf_ok, isEmpty_eq_false hid,
      hr, hsrc, validToolSource, isEmpty_eq_false hca, hc, validateContentBlocks,
      validateContentBlock, hb, bne_self_eq_false, Bool.not_false, Bool.not_true, and_self]
  have hs : validateToolResultMessage msg = .ok () := by
    simp only [validateToolResultMessage, hsrc, hc, rejectIf_ok, bne_self_eq_false]
  have he : validateToolResultError msg (some error) = .ok () := by
    simp only [validateToolResultError, hc, rejectIf_ok, isEmpty_eq_false hn,
      isEmpty_eq_false hco, Bool.not_true, Bool.or_self]
  refine check_ok.mpr ⟨requireTurn_ok.mpr ht, ?_⟩
  refine check_ok.mpr ⟨requireStep_ok.mpr hstep, ?_⟩
  refine check_ok.mpr ⟨hmsg, ?_⟩
  exact check_ok.mpr ⟨hs, he⟩

lemma failure_ne_empty : call.failure.1 ≠ "" ∧ call.failure.2.1 ≠ "" := by
  rw [InterruptedToolCall.failure]
  split <;> exact ⟨by decide, by decide⟩

lemma message_id :
    (call.message seq).id = "interrupted-tool-result-" ++ call.callId ++ "-" ++ toString seq := by
  unfold InterruptedToolCall.message
  rfl

lemma message_source : (call.message seq).source = .tool call.callId := rfl

lemma message_content :
    (call.message seq).content = [.toolResult call.callId [.text call.failure.2.2] true] := rfl

lemma validate_result (ht : st.openTurn = some turn) (ho : call.Open st eventCount) :
    st.validateMessageEvent (call.result turn seq) = .ok () := by
  have hid : (call.message seq).id ≠ "" := by
    rw [message_id]
    exact append_ne_empty (append_ne_empty (append_ne_empty (by simp)))
  have hb : validateContentBlocks "tool/result" [.text call.failure.2.2] = .ok () := by
    rw [validateContentBlocks, validateContentBlocks, validateContentBlock]
    rfl
  rw [InterruptedToolCall.result]
  exact validate_toolResult ht ho.step hid rfl message_source ho.id message_content hb
    failure_ne_empty.1 failure_ne_empty.2

lemma answers_result (ho : call.Open st eventCount) :
    (!st.pendingToolCalls.contains call.callId && !syntheticToolNotStarted (call.message seq)
      (some ⟨call.failure.1, call.failure.2.1⟩)) = false := by
  rcases hseq : call.callSeq with _ | source
  · have hc : call.failure.2.1 = toolNotStarted := by
      rw [InterruptedToolCall.failure, hseq]
      rfl
    have hs : syntheticToolNotStarted (call.message seq)
        (some ⟨call.failure.1, call.failure.2.1⟩) = true := by
      change (call.failure.2.1 == toolNotStarted) = true
      rw [hc, beq_self_eq_true]
    rw [hs, Bool.not_true, Bool.and_false]
  · have hp := Std.ExtTreeSet.contains_iff_mem.mpr (ho.recorded source hseq).1
    rw [hp, Bool.not_true, Bool.false_and]

lemma surfaceOp_result : (call.callSeq.elim SessionSurfaceIntent.append fun sourceSeq =>
      .appendFrom [sourceSeq]).surfaceOp = .append := by
  rcases call.callSeq with _ | source <;> rfl

lemma apply_result (ht : st.openTurn = some turn) (hn : st.compaction = none)
    (ho : call.Open st eventCount) :
    st.apply seq (call.result turn seq) =
      .ok { st with pendingToolCalls := st.pendingToolCalls.erase call.callId } := by
  refine apply_eq_ok_of_none hn ?_
  rw [InterruptedToolCall.result, SessionState.transition, SessionState.applyToolResult]
  refine check_ok.mpr ⟨validate_result ht ho, ?_⟩
  simp only [surfaceOp_result, message_source]
  exact check_ok.mpr ⟨rejectIf_ok.mpr (answers_result ho), rfl⟩

lemma plan_result (turn : ℕ) (surf : SessionSurfaceState) (prior : List SessionEvent)
    (ho : call.Open st eventCount) (hseq : eventCount ≤ seq) :
    surf.plan seq (call.result turn seq) prior = .ok (.append seq) := by
  rcases hc : call.callSeq with _ | source
  · simp only [InterruptedToolCall.result, hc]
    rfl
  · have hsrc : source < seq := (ho.recorded source hc).2.trans_le hseq
    have hs : validateSources seq [source] = .ok [source] := by
      simp only [validateSources, foldlM_cons, foldlM_nil, contains_nil,
        decide_eq_false (not_le.mpr hsrc)]
      rfl
    simp only [InterruptedToolCall.result, hc]
    refine check_ok.mpr ⟨?_, rfl⟩
    refine bind_ok.mpr ⟨[source], ?_, rfl⟩
    exact check_ok.mpr ⟨rfl, hs⟩

end Results

/-! ## The stages of a repair -/

namespace SessionLog

variable {log next : SessionLog} {timeMs : ℤ} {ids : List ApprovalRequestId}

lemma accept_of {st' : SessionState} {kind : SessionEventKind} {plan : SessionSurfacePlan}
    (ht : 0 ≤ timeMs) (hs : log.state.apply log.events.length kind = .ok st')
    (hp : log.surface.plan log.events.length kind log.events = .ok plan) :
    log.accept kind timeMs = .ok
      { log with
        events := log.events ++ [⟨log.events.length, timeMs, kind⟩]
        state := st'
        surface := log.surface.apply plan } := by
  refine check_ok.mpr ⟨rejectIf_ok.mpr (decide_eq_false (not_lt.mpr ht)), ?_⟩
  refine bind_ok.mpr ⟨st', hs, ?_⟩
  exact bind_ok.mpr ⟨plan, hp, rfl⟩

/-- The event closes something, and it is not on the surface. -/
def IsClosing (_ : SessionLog) (kind : SessionEventKind) : Prop :=
  kind.isNeutral = true ∧ kind.surfaceIntent = none

/-- The event closes something, and the scan for interrupted calls does not look at it. -/
def IsSettling (log : SessionLog) (kind : SessionEventKind) : Prop :=
  IsClosing log kind ∧ ∀ pending seq timeMs, scanInterrupted pending ⟨seq, timeMs, kind⟩ = pending

lemma exec_appendAt_closing {state' : SessionState}
    (P : SessionLog → SessionEventKind → Prop) (kind : SessionEventKind)
    (ht : 0 ≤ timeMs) (hk : P log kind)
    (hp : log.surface.plan log.events.length kind log.events = .ok .none)
    (hs : log.state.apply log.events.length kind = .ok state') :
    ∃ next, (appendAt kind timeMs >>= fun _ => pure ()).exec log = (.ok (), next) ∧
      Grows P log next ∧ next.state = state' := by
  have ha := accept_of ht hs hp
  refine ⟨_, exec_bind_of_ok (exec_appendAt_of_accept ha), ?_, rfl⟩
  exact Relation.ReflTransGen.single ⟨kind, timeMs, hk, ha⟩

/-- The events of a log that can be replayed have times from the start of the calendar on. -/
lemma timeMs_nonneg_of_replay {surf : SessionSurfaceState} {evs : List SessionEvent}
    {st : SessionState} (h : replay evs = .ok (st, surf)) :
    ∀ {event}, event ∈ evs → 0 ≤ event.timeMs := by
  refine replay_induction (I := fun evs _ _ => ∀ {event}, event ∈ evs → 0 ≤ event.timeMs)
    (fun he => absurd he not_mem_nil) ?_ h
  intro evs st surf last st' surf' _ ih hl event he
  rcases mem_append.mp he with he | he
  · exact ih he
  · rw [mem_singleton.mp he]
    exact (replayEvent_ok.mp hl).2.1

lemma Restorable.coherent (h : log.Restorable) : log.state.Coherent :=
  .of_replay (restorable_iff.mp h).2

lemma Restorable.scanned (h : log.Restorable) : Scanned log.events log.state :=
  .of_replay (restorable_iff.mp h).2

lemma exec_closeCompaction (hlog : log.Restorable) (ht : 0 ≤ timeMs) :
    ∃ next, (closeCompaction timeMs).exec log = (.ok (), next) ∧ Grows IsSettling log next ∧
      next.state = { log.state with compaction := none } := by
  rw [closeCompaction, exec_read_bind]
  rcases ho : log.state.compaction with _ | opened
  · refine ⟨log, rfl, .refl, ?_⟩
    rw [← ho]
  · exact exec_appendAt_closing _ _ ht ⟨⟨rfl, rfl⟩, fun _ _ _ => rfl⟩ rfl
      (apply_interrupt hlog.coherent ho)

lemma mem_foldl_erase {approvals : BTreeSet ApprovalRequestId} {id : ApprovalRequestId} :
    id ∈ ids.foldl (fun approvals id => approvals.erase id) approvals ↔
      id ∈ approvals ∧ id ∉ ids := by
  induction ids generalizing approvals with
  | nil => simp
  | cons first ids ih =>
    rw [foldl_cons, ih, Std.ExtTreeSet.mem_erase_iff, mem_cons, not_or]
    constructor
    · rintro ⟨⟨hne, hmem⟩, hids⟩
      exact ⟨hmem, hne, hids⟩
    · rintro ⟨hmem, hne, hids⟩
      exact ⟨⟨hne, hmem⟩, hids⟩

lemma exec_cancelAll (hti : 0 ≤ timeMs) (hn : ids.Nodup)
    (hmem : ∀ id ∈ ids, id ∈ log.state.pendingApprovals)
    (ht : log.state.openTurn.isSome = true) (hno : log.state.compaction = none) :
    ∃ next, (ids.forM fun id => appendAt (.approvalDecided ⟨id, .cancelled⟩) timeMs >>= fun _ =>
        (pure () : Command SessionLog SessionError Unit)).exec log = (.ok (), next) ∧
      Grows IsSettling log next ∧
      next.state = { log.state with
        pendingApprovals := ids.foldl (fun approvals id => approvals.erase id)
          log.state.pendingApprovals } := by
  induction ids generalizing log with
  | nil => exact ⟨log, rfl, .refl, rfl⟩
  | cons id ids ih =>
    obtain ⟨hid, hn⟩ := nodup_cons.mp hn
    have hc := apply_cancel log.events.length ht hno (hmem id mem_cons_self)
    obtain ⟨middle, hf, hg, hs⟩ :=
      exec_appendAt_closing IsSettling (.approvalDecided ⟨id, .cancelled⟩) hti
        ⟨⟨rfl, rfl⟩, fun _ _ _ => rfl⟩ rfl hc
    have hl : ∀ other ∈ ids, other ∈ middle.state.pendingApprovals := by
      intro other ho
      rw [hs]
      refine Std.ExtTreeSet.mem_erase_iff.mpr ⟨?_, hmem other (mem_cons_of_mem _ ho)⟩
      rintro rfl
      exact hid ho
    obtain ⟨last, hr, hg', hs'⟩ := ih hn hl (by rw [hs]; exact ht)
      (by rw [hs]; exact hno)
    refine ⟨last, (exec_bind_of_ok hf).trans hr, hg.trans hg', ?_⟩
    rw [hs', hs]
    rfl

lemma exec_cancelApprovals (log : SessionLog) (ht : 0 ≤ timeMs)
    (htu : log.state.openTurn.isSome = true) (hn : log.state.compaction = none) :
    ∃ next, (cancelApprovals timeMs).exec log = (.ok (), next) ∧ Grows IsSettling log next ∧
      next.state = { log.state with pendingApprovals := ∅ } := by
  obtain ⟨next, hex, hg, hs⟩ := exec_cancelAll ht
    log.state.pendingApprovals.nodup_toList (fun id hid => Std.ExtTreeSet.mem_toList.mp hid) htu
    hn
  refine ⟨next, hex, hg, ?_⟩
  have he : log.state.pendingApprovals.toList.foldl (fun approvals id => approvals.erase id)
      log.state.pendingApprovals = ∅ := by
    refine Std.ExtTreeSet.ext_mem fun id => ?_
    rw [mem_foldl_erase, Std.ExtTreeSet.mem_toList]
    simp
  rw [hs, he]

def answers (turn : ℕ) (timeMs : ℤ) (seq : ℕ) : List InterruptedToolCall → List SessionEvent
  | [] => []
  | call :: calls => ⟨seq, timeMs, call.result turn seq⟩ :: answers turn timeMs (seq + 1) calls

/-- The event answers a call that the scan of the log finds. -/
def IsAnswer (turn : ℕ) (log : SessionLog) (kind : SessionEventKind) : Prop :=
  ∃ call ∈ pendingInterruptedToolCalls log.events, kind = call.result turn log.events.length

def answerCall (turn : ℕ) (timeMs : ℤ) (call : InterruptedToolCall) :
    Command SessionLog SessionError Unit := do
  let seq ← check fun log => .ok log.events.length
  let _ ← appendAt (call.result turn seq) timeMs

lemma answerInterrupted_cons (turn : ℕ) (ms : ℤ) (call : InterruptedToolCall)
    (calls : List InterruptedToolCall) :
    answerInterrupted turn ms (call :: calls) =
      answerCall turn ms call >>= fun _ => answerInterrupted turn ms calls := rfl

lemma exec_answerInterrupted {turn : ℕ} {calls : List InterruptedToolCall}
    (hlog : log.Restorable) (hti : 0 ≤ timeMs)
    (ht : log.state.openTurn = some turn) (hno : log.state.compaction = none)
    (hn : (interruptedIds calls).Nodup)
    (hc : ∀ call ∈ calls, call ∈ pendingInterruptedToolCalls log.events) :
    ∃ next, (answerInterrupted turn timeMs calls).exec log = (.ok (), next) ∧
      Grows (IsAnswer turn) log next ∧
      next.events = log.events ++ answers turn timeMs log.events.length calls ∧
      ∃ pending, next.state = { log.state with pendingToolCalls := pending } := by
  induction calls generalizing log with
  | nil => exact ⟨log, rfl, .refl, (append_nil _).symm, log.state.pendingToolCalls, rfl⟩
  | cons call calls ih =>
    obtain ⟨hfr, hn⟩ := nodup_cons.mp hn
    have hca := hc call mem_cons_self
    have hop := hlog.scanned.opened call hca
    have ha := accept_of hti (apply_result ht hno hop)
      (plan_result turn log.surface log.events hop le_rfl)
    have hf : (answerCall turn timeMs call).exec log = (.ok (), _) :=
      (exec_read_bind _ _ log).trans (exec_bind_of_ok (exec_appendAt_of_accept ha))
    -- Answering a call removes only that call from the scan.
    have hl : ∀ other ∈ calls, other ∈ pendingInterruptedToolCalls
        (log.events ++ [⟨log.events.length, timeMs, call.result turn log.events.length⟩]) := by
      intro other ho
      rw [pendingInterrupted_concat, InterruptedToolCall.result,
        scan_toolResult _ _ _ _ _ _ _ message_source]
      refine mem_filter.mpr ⟨hc other (mem_cons_of_mem _ ho), ?_⟩
      rw [bne_iff_ne]
      intro heq
      exact hfr (mem_interruptedIds.mpr ⟨other, ho, heq⟩)
    obtain ⟨last, hr, hg, he, pending, hs⟩ := ih (hlog.accept ha) ht hno hn hl
    refine ⟨last, ?_, ?_, ?_, pending, hs⟩
    · rw [answerInterrupted_cons, exec_bind_of_ok hf, hr]
    · exact Relation.ReflTransGen.head ⟨_, timeMs, ⟨call, hca, rfl⟩, ha⟩ hg
    · rw [he, append_assoc, length_append]
      rfl

lemma exec_closeStep (log : SessionLog) (turn : ℕ) (ht : 0 ≤ timeMs)
    (htu : log.state.openTurn = some turn) (hn : log.state.compaction = none) :
    ∃ next, (closeStep turn timeMs).exec log = (.ok (), next) ∧ Grows IsClosing log next ∧
      ∃ pend chains, next.state = { log.state with
        pendingToolCalls := pend, openStep := none, retryChains := chains } := by
  rw [closeStep, exec_read_bind]
  rcases hstep : log.state.openStep with _ | step
  · refine ⟨log, rfl, .refl, log.state.pendingToolCalls, log.state.retryChains, ?_⟩
    rw [← hstep]
  · obtain ⟨next, he, hg, hs⟩ :=
      exec_appendAt_closing IsClosing (.stepEnd turn step) ht ⟨rfl, rfl⟩ rfl
        (apply_stepEnd htu hstep hn)
    exact ⟨next, he, hg, ∅, ∅, hs⟩

/-! ## The repair -/

section Repair

variable {P Q : SessionLog → SessionEventKind → Prop}

lemma Grows.mono (hPQ : ∀ log kind, P log kind → Q log kind) (h : Grows P log next) :
    Grows Q log next := by
  induction h with
  | refl => exact .refl
  | tail _ hl ih =>
    obtain ⟨kind, timeMs, hk, ha⟩ := hl
    exact ih.tail ⟨kind, timeMs, hPQ _ kind hk, ha⟩

lemma Grows.exists_tail {R : SessionEventKind → Prop} (hR : ∀ log kind, P log kind → R kind)
    (h : Grows P log next) : ∃ tail, next.events = log.events ++ tail ∧ ∀ ev ∈ tail, R ev.kind := by
  induction h with
  | refl => exact ⟨[], (append_nil _).symm, fun _ h => absurd h not_mem_nil⟩
  | tail _ hl ih =>
    obtain ⟨tail, ht, hall⟩ := ih
    obtain ⟨kind, timeMs, hk, ha⟩ := hl
    have hev := events_of_accept ha
    rw [ht, append_assoc] at hev
    refine ⟨_, hev, fun ev he => ?_⟩
    rcases mem_append.mp he with he | he
    · exact hall ev he
    · rw [mem_singleton.mp he]
      exact hR _ kind hk

lemma Grows.scan_eq (h : Grows IsSettling log next) :
    pendingInterruptedToolCalls next.events = pendingInterruptedToolCalls log.events := by
  induction h with
  | refl => rfl
  | tail _ hl ih =>
    obtain ⟨kind, timeMs, hk, ha⟩ := hl
    rw [events_of_accept ha, pendingInterrupted_concat, hk.2, ih]

/-- An event of a repair closes something or answers an interrupted call. -/
def IsRepair (turn : ℕ) (log : SessionLog) (kind : SessionEventKind) : Prop :=
  IsClosing log kind ∨ IsAnswer turn log kind

/-- What a repair makes of a log with an open turn. -/
structure Repaired (turn : ℕ) (log repaired : SessionLog) : Prop where
  grows : Grows (IsRepair turn) log repaired
  /-- The answers to the interrupted calls stand among events that are not on the surface. -/
  events : ∃ timeMs before after, repaired.events = log.events ++ before ++
      answers turn timeMs (log.events ++ before).length (pendingInterruptedToolCalls log.events) ++
      after ∧
    ∀ event ∈ before ++ after, event.kind.isNeutral = true ∧ event.kind.surfaceIntent = none
  openTurn : repaired.state.openTurn = none
  openStep : repaired.state.openStep = none
  approvals : repaired.state.pendingApprovals = ∅
  compaction : repaired.state.compaction = none
  lastTurn : repaired.state.lastTurn = log.state.lastTurn

/-- The commands of a repair, once it has found an open turn. -/
def closeTail (turn : ℕ) (timeMs : ℤ) (interrupted : List InterruptedToolCall) :
    Command SessionLog SessionError Unit := do
  closeCompaction timeMs
  cancelApprovals timeMs
  answerInterrupted turn timeMs interrupted
  closeStep turn timeMs
  let _ ← appendAt (.turnEnd turn .interrupted) timeMs

lemma exec_closeTail {ms : ℤ} {turn : ℕ} (hlog : log.Restorable) (hti : 0 ≤ ms)
    (ht : log.state.openTurn = some turn) :
    ∃ repaired, (closeTail turn ms (pendingInterruptedToolCalls log.events)).exec log =
      (.ok (), repaired) ∧ Repaired turn log repaired := by
  obtain ⟨log₁, he₁, hg₁, hs₁⟩ := exec_closeCompaction hlog hti
  have hlog₁ := hg₁.restorable hlog
  have ht₁ : log₁.state.openTurn = some turn := by rw [hs₁]; exact ht
  obtain ⟨log₂, he₂, hg₂, hs₂⟩ := exec_cancelApprovals log₁ hti (by rw [ht₁]; rfl) (by rw [hs₁])
  have hlog₂ := hg₂.restorable hlog₁
  have ht₂ : log₂.state.openTurn = some turn := by rw [hs₂]; exact ht₁
  have hn₂ : log₂.state.compaction = none := by rw [hs₂, hs₁]
  have hsc : pendingInterruptedToolCalls log₂.events = pendingInterruptedToolCalls log.events :=
    hg₂.scan_eq.trans hg₁.scan_eq
  obtain ⟨log₃, he₃, hg₃, heve₃, pending₃, hs₃⟩ := exec_answerInterrupted hlog₂ hti
    ht₂ hn₂ hlog.scanned.nodup fun call hca => hsc ▸ hca
  obtain ⟨log₄, he₄, hg₄, pending₄, chains₄, hs₄⟩ := exec_closeStep log₃ turn
    hti (by rw [hs₃]; exact ht₂) (by rw [hs₃]; exact hn₂)
  have hcl : log₄.state.apply log₄.events.length (.turnEnd turn .interrupted) = .ok
      { log₄.state with openTurn := none, retryChains := ∅ } := by
    refine apply_turnEnd ?_ ?_ ?_ ?_
    · rw [hs₄, hs₃]
      exact ht₂
    · rw [hs₄]
    · rw [hs₄, hs₃, hs₂]
    · rw [hs₄, hs₃]
      exact hn₂
  obtain ⟨log₅, he₅, hg₅, hs₅⟩ := exec_appendAt_closing IsClosing
    (.turnEnd turn .interrupted) hti ⟨rfl, rfl⟩ rfl hcl
  have hse := hg₁.trans hg₂
  have hc := hg₄.trans hg₅
  refine ⟨log₅, ?_, ?_⟩
  · refine (exec_bind_of_ok he₁).trans ((exec_bind_of_ok he₂).trans ?_)
    exact (exec_bind_of_ok he₃).trans ((exec_bind_of_ok he₄).trans he₅)
  · obtain ⟨before, hb, hq⟩ := hse.exists_tail
      (R := fun kind => kind.isNeutral = true ∧ kind.surfaceIntent = none) fun _ _ h => h.1
    obtain ⟨after, ha, hq'⟩ := hc.exists_tail
      (R := fun kind => kind.isNeutral = true ∧ kind.surfaceIntent = none) fun _ _ h => h
    refine
      { grows := (hse.mono fun _ _ h => .inl h.1).trans
          ((hg₃.mono fun _ _ h => .inr h).trans (hc.mono fun _ _ h => .inl h))
        events := ⟨ms, before, after, ?_, ?_⟩
        openTurn := by rw [hs₅]
        openStep := by rw [hs₅, hs₄]
        approvals := by rw [hs₅, hs₄, hs₃, hs₂]
        compaction := by rw [hs₅, hs₄, hs₃]; exact hn₂
        lastTurn := by rw [hs₅, hs₄, hs₃, hs₂, hs₁] }
    · rw [ha, heve₃, hb]
    · intro ev hev
      rcases mem_append.mp hev with hev | hev
      · exact hq ev hev
      · exact hq' ev hev

lemma exec_repair_of_open {turn : ℕ} (hlog : log.Restorable) (ht : log.state.openTurn = some turn) :
    ∃ repaired, repairInterruptedTail.exec log = (.ok true, repaired) ∧
      Repaired turn log repaired := by
  obtain ⟨last, hl⟩ : ∃ last, log.events.getLast? = some last := by
    rcases hl : log.events.getLast? with _ | last
    · have hr := (restorable_iff.mp hlog).2
      rw [getLast?_eq_none_iff.mp hl] at hr
      have hs : log.state = {} := congrArg Prod.fst (Except.ok.inj hr.symm)
      rw [hs] at ht
      cases ht
    · exact ⟨last, rfl⟩
  have hti : 0 ≤ last.timeMs :=
    timeMs_nonneg_of_replay (restorable_iff.mp hlog).2 (mem_of_getLast? hl)
  obtain ⟨repaired, he, hre⟩ := exec_closeTail hlog hti ht
  have hc : okOr (log.events.getLast?.map SessionEvent.timeMs)
      SessionError.eventSequenceOverflow = .ok last.timeMs := by
    rw [hl]
    rfl
  refine ⟨repaired, ?_, hre⟩
  rw [repairInterruptedTail, exec_read_bind, ht]
  refine (exec_check_bind_of_ok (g := fun log : SessionLog =>
    okOr (log.events.getLast?.map SessionEvent.timeMs) SessionError.eventSequenceOverflow)
    hc).trans ?_
  exact exec_bind_of_ok (exec_onCopy_ok.mpr he)

/-- A repair of a log without an open turn does nothing. -/
lemma exec_repair_of_closed (ht : log.state.openTurn = none) :
    repairInterruptedTail.exec log = (.ok false, log) := by
  rw [repairInterruptedTail, exec_read_bind, ht]
  rfl

end Repair

end SessionLog

end Hartevo.Cordis
