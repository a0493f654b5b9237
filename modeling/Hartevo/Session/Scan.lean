import Hartevo.Session.Transition

/-!
# Sessions: the scan for interrupted tool calls

A repair finds the calls that it has to answer by a scan of the events, and the log decides from its
state whether it takes the answers.  `Scanned` says that the two agree: every call that the scan
finds belongs to the open step, it is found once, and where the scan has seen the call recorded, the
state waits for its result.
-/

namespace Hartevo.Cordis

open List

/-! ## Lists of interrupted calls -/

def interruptedIds (pending : List InterruptedToolCall) : List String :=
  pending.map InterruptedToolCall.callId

section Lists

variable {id : String} {pend : List InterruptedToolCall} {step : ℕ}
  {f : InterruptedToolCall → InterruptedToolCall} {call : InterruptedToolCall}

lemma mem_interruptedIds : id ∈ interruptedIds pend ↔ ∃ call ∈ pend, call.callId = id := mem_map

lemma any_callId : pend.any (fun call => call.callId == id) = true ↔ id ∈ interruptedIds pend := by
  rw [any_eq_true, mem_interruptedIds]
  simp only [beq_iff_eq]

lemma interruptedIds_update (hf : ∀ call, (f call).callId = call.callId) :
    interruptedIds (updateInterrupted id f pend) = interruptedIds pend := by
  rw [updateInterrupted, interruptedIds, interruptedIds]
  generalize pend.findIdx _ = i
  induction pend generalizing i with
  | nil => cases i <;> rfl
  | cons call pend ih =>
    cases i with
    | zero => rw [modify_zero_cons, map_cons, map_cons, hf]
    | succ i => rw [modify_succ_cons, map_cons, map_cons, ih]

lemma mem_update (h : call ∈ updateInterrupted id f pend) :
    call ∈ pend ∨ ∃ old ∈ pend, old.callId = id ∧ call = f old := by
  induction pend with
  | nil => exact absurd h (by simp [updateInterrupted])
  | cons first pend ih =>
    rw [updateInterrupted, findIdx_cons] at h
    rcases hf : first.callId == id with _ | _
    · rw [hf, cond_false, modify_succ_cons, mem_cons] at h
      rcases h with rfl | h
      · exact .inl mem_cons_self
      · rcases ih h with hold | ⟨old, hold, hc⟩
        · exact .inl (mem_cons_of_mem _ hold)
        · exact .inr ⟨old, mem_cons_of_mem _ hold, hc⟩
    · rw [hf, cond_true, modify_zero_cons, mem_cons] at h
      rcases h with rfl | h
      · exact .inr ⟨first, mem_cons_self, beq_iff_eq.mp hf, rfl⟩
      · exact .inl (mem_cons_of_mem _ h)

lemma interruptedIds_request : interruptedIds (requestInterrupted step pend id) =
      if id ∈ interruptedIds pend then interruptedIds pend
      else interruptedIds pend ++ [id] := by
  rw [requestInterrupted]
  by_cases hid : id ∈ interruptedIds pend
  · rw [if_pos (any_callId.mpr hid), if_pos hid]
    exact interruptedIds_update fun _ => rfl
  · rw [if_neg (mt any_callId.mp hid), if_neg hid, interruptedIds, map_append]
    rfl

lemma mem_request (h : call ∈ requestInterrupted step pend id) :
    call ∈ pend ∨ (call.callId = id ∧ call.step = step ∧ call.callSeq = none) := by
  rw [requestInterrupted] at h
  split at h
  · rcases mem_update h with hold | ⟨old, -, hid, rfl⟩
    · exact .inl hold
    · exact .inr ⟨hid, rfl, rfl⟩
  · rcases mem_append.mp h with hold | hnew
    · exact .inl hold
    · rw [mem_singleton.mp hnew]
      exact .inr ⟨rfl, rfl, rfl⟩

lemma interruptedIds_requests (ids : List String) (pend : List InterruptedToolCall) :
    (∀ id, id ∈ interruptedIds (ids.foldl (requestInterrupted step) pend) ↔
      id ∈ interruptedIds pend ∨ id ∈ ids) ∧
    ((interruptedIds pend).Nodup →
      (interruptedIds (ids.foldl (requestInterrupted step) pend)).Nodup) := by
  induction ids generalizing pend with
  | nil => simp
  | cons first ids ih =>
    rw [foldl_cons]
    obtain ⟨hmem, hn⟩ := ih (requestInterrupted step pend first)
    constructor
    · intro id
      rw [hmem, interruptedIds_request]
      by_cases hf : first ∈ interruptedIds pend
      · rw [if_pos hf, mem_cons]
        constructor
        · rintro (hid | hid)
          · exact .inl hid
          · exact .inr (.inr hid)
        · rintro (hid | rfl | hid)
          · exact .inl hid
          · exact .inl hf
          · exact .inr hid
      · rw [if_neg hf, mem_append, mem_singleton, mem_cons, or_assoc]
    · intro hp
      refine hn ?_
      rw [interruptedIds_request]
      split
      · exact hp
      · next hf =>
        refine nodup_append.mpr ⟨hp, nodup_singleton _, ?_⟩
        rintro id hid _ hl rfl
        rw [mem_singleton] at hl
        exact hf (hl ▸ hid)

lemma mem_requests {ids : List String} (h : call ∈ ids.foldl (requestInterrupted step) pend) :
    call ∈ pend ∨ (call.callId ∈ ids ∧ call.step = step ∧ call.callSeq = none) := by
  induction ids generalizing pend with
  | nil => exact .inl h
  | cons first ids ih =>
    rcases ih h with hold | ⟨hid, hstep, hseq⟩
    · rcases mem_request hold with hold | ⟨hid, hstep, hseq⟩
      · exact .inl hold
      · exact .inr ⟨hid ▸ mem_cons_self, hstep, hseq⟩
    · exact .inr ⟨mem_cons_of_mem _ hid, hstep, hseq⟩

end Lists

variable {msg : SessionMessage}

lemma ne_empty_of_mem_toolCallIds {eventType : String}
    (h : validateContentBlocks eventType msg.content = .ok ())
    {id : String} (hid : id ∈ msg.toolCallIds) : id ≠ "" := by
  rw [SessionMessage.toolCallIds] at hid
  generalize msg.content = content at h hid
  induction content with
  | nil => exact absurd hid not_mem_nil
  | cons block blocks ih =>
    rw [validateContentBlocks, check_ok] at h
    obtain ⟨hb, hbl⟩ := h
    rw [filterMap_cons] at hid
    split at hid
    · exact ih hb hid
    · next found hf =>
      rcases mem_cons.mp hid with rfl | hid
      · cases block with
        | toolCall =>
          cases hf
          rw [validateContentBlock, rejectIf_ok, Bool.or_eq_false_iff] at hbl
          rintro rfl
          exact absurd hbl.1 (by decide)
        | text | reasoning | toolResult => cases hf
      · exact ih hb hid

/-! ## The invariant -/

/-- The log waits for the call: it belongs to the open step, and if the scan saw it recorded, its
result is pending. -/
structure InterruptedToolCall.Open (call : InterruptedToolCall) (state : SessionState)
    (eventCount : ℕ) : Prop where
  step : state.openStep = some call.step
  id : call.callId ≠ ""
  recorded : ∀ seq, call.callSeq = some seq →
    call.callId ∈ state.pendingToolCalls ∧ seq < eventCount

/-- The scan of the events agrees with the state. -/
structure Scanned (events : List SessionEvent) (state : SessionState) : Prop where
  nodup : (interruptedIds (pendingInterruptedToolCalls events)).Nodup
  opened : ∀ call ∈ pendingInterruptedToolCalls events, call.Open state events.length

lemma pendingInterrupted_concat (evs : List SessionEvent) (ev : SessionEvent) :
    pendingInterruptedToolCalls (evs ++ [ev]) =
      scanInterrupted (pendingInterruptedToolCalls evs) ev := by
  rw [pendingInterruptedToolCalls, foldl_concat, ← pendingInterruptedToolCalls]

lemma interruptedIds_scan_toolCall (pend : List InterruptedToolCall) (seq : ℕ) (ms : ℤ)
    (turn step : ℕ) (callId name arguments : String) :
    interruptedIds (scanInterrupted pend
      ⟨seq, ms, .toolCall turn step callId name arguments⟩) = interruptedIds pend :=
  interruptedIds_update fun _ => rfl

lemma scan_toolResult {callId : String} (pend : List InterruptedToolCall) (seq : ℕ) (ms : ℤ)
    (turn step : ℕ) (error : Option SessionToolError)
    (surf : SessionSurfaceIntent) (hsrc : msg.source = .tool callId) :
    scanInterrupted pend ⟨seq, ms, .toolResult turn step msg error surf⟩ =
      pend.filter fun call => call.callId != callId := by
  simp only [scanInterrupted, hsrc]

/-- A setting says nothing about tool calls. -/
lemma scan_setting {kind : SessionEventKind} (hk : kind.isSetting = true)
    (pend : List InterruptedToolCall) (seq : ℕ) (ms : ℤ) :
    scanInterrupted pend ⟨seq, ms, kind⟩ = pend := by
  cases kind <;> first | rfl | cases hk

/-- A call stays open when the step stays open and its recorded call is still pending. -/
lemma InterruptedToolCall.Open.mono {st st' : SessionState} {n m : ℕ}
    {call : InterruptedToolCall} (h : call.Open st n) (hstep : st'.openStep = st.openStep)
    (hp : call.callId ∈ st.pendingToolCalls → call.callId ∈ st'.pendingToolCalls)
    (hle : n ≤ m) : call.Open st' m where
  step := hstep.trans h.step
  id := h.id
  recorded := fun seq hseq =>
    ⟨hp (h.recorded seq hseq).1, (h.recorded seq hseq).2.trans_le hle⟩

namespace Scanned

variable {evs : List SessionEvent} {st st' : SessionState} {ev : SessionEvent}

/-- Without an open step there is nothing to be found. -/
lemma eq_nil (h : Scanned evs st) (hstep : st.openStep = none) :
    pendingInterruptedToolCalls evs = [] := by
  refine eq_nil_iff_forall_not_mem.mpr fun call hc => ?_
  have ho := (h.opened call hc).step
  rw [hstep] at ho
  cases ho

lemma of_eq_nil (h : scanInterrupted (pendingInterruptedToolCalls evs) ev = []) :
    Scanned (evs ++ [ev]) st' where
  nodup := by
    rw [pendingInterrupted_concat, h]
    exact nodup_nil
  opened := by
    intro call hc
    rw [pendingInterrupted_concat, h] at hc
    exact absurd hc not_mem_nil

lemma of_eq (h : Scanned evs st) (hs : scanInterrupted (pendingInterruptedToolCalls evs) ev =
      pendingInterruptedToolCalls evs)
    (hstep : st'.openStep = st.openStep) (hp : st'.pendingToolCalls = st.pendingToolCalls) :
    Scanned (evs ++ [ev]) st' where
  nodup := by
    rw [pendingInterrupted_concat, hs]
    exact h.nodup
  opened := by
    intro call hc
    rw [pendingInterrupted_concat, hs] at hc
    refine (h.opened call hc).mono hstep (fun hmem => hp ▸ hmem) ?_
    rw [length_append]
    exact Nat.le_add_right _ _

lemma applied (h : Scanned evs st) (hseq : ev.seq = evs.length)
    (ha : Applied st ev.seq ev.kind st') : Scanned (evs ++ [ev]) st' := by
  have hlen : evs.length ≤ (evs ++ [ev]).length := by
    rw [length_append]
    exact Nat.le_add_right _ _
  rcases ev with ⟨seq, timeMs, kind⟩
  cases ha with
  | turnStart | turnEnd | stepEnd => exact of_eq_nil rfl
  | stepStart ht hstep =>
    refine of_eq_nil ?_
    exact h.eq_nil hstep
  | approvalAsked | approvalDecided | compactionStart | compactionSummary | checkpoint
  | compactionEnd | userMessage => exact h.of_eq rfl rfl rfl
  | toolCall =>
    constructor
    · rw [pendingInterrupted_concat, interruptedIds_scan_toolCall]
      exact h.nodup
    · intro call hc
      rw [pendingInterrupted_concat] at hc
      rcases mem_update hc with hold | ⟨old, hold, hid, rfl⟩
      · exact (h.opened call hold).mono rfl
          (fun hmem => Std.ExtTreeSet.mem_insert_iff.mpr (.inr hmem)) hlen
      · have ho := h.opened old hold
        refine ⟨ho.step, ho.id, ?_⟩
        rintro _ ⟨⟩
        refine ⟨Std.ExtTreeSet.mem_insert_iff.mpr (.inl hid), ?_⟩
        rw [length_append]
        exact Nat.lt_succ_of_le hseq.le
  | toolReplaced ht hstep hsrc =>
    constructor
    · rw [pendingInterrupted_concat, scan_toolResult _ _ _ _ _ _ _ hsrc]
      exact h.nodup.sublist (filter_sublist.map _)
    · intro call hc
      rw [pendingInterrupted_concat, scan_toolResult _ _ _ _ _ _ _ hsrc] at hc
      exact (h.opened call (mem_of_mem_filter hc)).mono rfl id hlen
  | toolAnswered ht hstep hsrc =>
    constructor
    · rw [pendingInterrupted_concat, scan_toolResult _ _ _ _ _ _ _ hsrc]
      exact h.nodup.sublist (filter_sublist.map _)
    · intro call hc
      rw [pendingInterrupted_concat, scan_toolResult _ _ _ _ _ _ _ hsrc] at hc
      obtain ⟨hold, hot⟩ := mem_filter.mp hc
      refine (h.opened call hold).mono rfl (fun hmem => ?_) hlen
      exact Std.ExtTreeSet.mem_erase_iff.mpr ⟨bne_iff_ne.mp hot, hmem⟩
  | assistantMessage ht hstep hv =>
    constructor
    · rw [pendingInterrupted_concat]
      exact (interruptedIds_requests _ _).2 h.nodup
    · intro call hc
      rw [pendingInterrupted_concat] at hc
      rcases mem_requests hc with hold | ⟨hid, rfl, hn⟩
      · exact (h.opened call hold).mono rfl id hlen
      · refine ⟨hstep, ne_empty_of_mem_toolCallIds hv hid, fun seq hs => ?_⟩
        rw [hn] at hs
        cases hs
  | setting hk =>
    exact h.of_eq (scan_setting hk _ _ _) rfl rfl

lemma of_replay {surf : SessionSurfaceState}
    (h : SessionLog.replay evs = .ok (st, surf)) : Scanned evs st := by
  refine SessionLog.replay_induction (I := fun evs st _ => Scanned evs st)
    ⟨nodup_nil, fun call hc => absurd hc not_mem_nil⟩ ?_ h
  intro evs st surf ev st' surf' _ ih he
  obtain ⟨hseq, -, ha, -⟩ := SessionLog.replayEvent_ok.mp he
  exact ih.applied hseq (applied_of_apply ha)

end Scanned

end Hartevo.Cordis
