import Hartevo.Collaboration.ExactlyOnce

/-!
# Every command makes a recognised successor

A stored record is replaced only by one that `follows` it.  The three `follows` are a second
description of the commands, written independently of them.  Here every command that succeeds is
shown to be recognised: the storage never refuses what the commands did.

The mailbox is the one that needs its history.  A recovery returns every stale message, and the
mailbox that follows may have only one of them; this is the message at the cursor
(`WorkerMailbox.Represents.map_requeue`).
-/

namespace Hartevo

open List

variable {b b' : ContextBranch} {i cursor epoch : ℕ} {msg : ContextWorkerMessage}
  {reply : CollaborationReply}

/-! ## Branches -/

lemma ContextBranch.Move.follows (h : b.Move b') : b'.follows b = .ok true := by
  obtain ⟨hs, hrev, hu, hf⟩ := h
  rw [hf]
  simp only [mem_cons, Prod.mk.injEq, not_mem_nil, or_false] at hs
  rcases hs with ⟨hold, hnew⟩ | ⟨hold, hnew⟩ | ⟨hold, hnew⟩ | ⟨hold, hnew⟩ <;>
    simp [ContextBranch.follows, hold, hnew, hu, checkedAdd_one hrev]

lemma ContextBranch.move_of_step {cmd : ContextBranchCommand}
    (h : (b.step cmd).1 = .ok ()) : b.Move (b.step cmd).2 := by
  cases cmd with
  | completeForCapsule => exact move_of_completeForCapsule (Prod.ext h rfl)
  | applyMerge => exact move_of_applyMerge (Prod.ext h rfl)
  | abandon => exact move_of_abandon (Prod.ext h rfl)

/-! ## Handles -/

lemma WorkerHandle.Move.follows {h h' : WorkerHandle} (hm : h.Move h') :
    h'.follows h = .ok true := by
  obtain ⟨⟨next, hch, heq⟩, hrev, hu⟩ := hm
  rw [heq]
  cases hch with
  | detach hs =>
    simp [WorkerHandle.follows, touched, hs, hu, checkedAdd_one hrev]
  | reattach hs he =>
    simp [WorkerHandle.follows, touched, hs, hu, checkedAdd_one hrev, checkedAdd_one he]
  | spend hs usage hto hc hco htoo hr hsp =>
    simp [WorkerHandle.follows, touched, hs, hu, checkedAdd_one hrev, hto, hc, hco, htoo, hr, hsp]
  | finish hs st ht =>
    simp only [WorkerHandleStatus.isTerminal, Bool.or_eq_true, beq_iff_eq] at ht
    rcases hs with hs | hs <;>
      rcases ht with (rfl | rfl) | rfl <;>
        simp [WorkerHandle.follows, touched, hs, hu, checkedAdd_one hrev]
  | advance hs hcu =>
    simp [WorkerHandle.follows, touched, hs, hu, checkedAdd_one hrev, checkedAdd_one hcu]

/-! ## Mailboxes -/

namespace WorkerMailbox

variable {m : WorkerMailbox} {handle : WorkerHandle} {now : DateTime}

lemma countEntry_self (counts : FollowCounts) (msg : ContextWorkerMessage) :
    countEntry counts (msg, msg) = some counts := by
  simp [countEntry]

lemma foldlM_countEntry_self (counts : FollowCounts) (msgs : List ContextWorkerMessage) :
    (msgs.zip msgs).foldlM countEntry counts = some counts := by
  induction msgs with
  | nil => rfl
  | cons msg msgs ih =>
    rw [zip_cons_cons, foldlM_cons, countEntry_self]
    exact ih

lemma foldlM_countEntry_set (counts : FollowCounts) {msgs : List ContextWorkerMessage}
    (msg' : ContextWorkerMessage) (hmsg : msgs[i]? = some msg) :
    (msgs.zip (msgs.set i msg')).foldlM countEntry counts = countEntry counts (msg, msg') := by
  obtain ⟨hi, rfl⟩ := List.getElem?_eq_some_iff.mp hmsg
  obtain ⟨before, after, hs, -, hset⟩ :
      ∃ before after, msgs = before ++ msgs[i] :: after ∧ before.length = i ∧
        msgs.set i msg' = before ++ msg' :: after := exists_of_set hi
  rw [hset]
  nth_rewrite 1 [hs]
  rw [zip_append rfl, zip_cons_cons, foldlM_append, foldlM_countEntry_self]
  show (List.foldlM countEntry counts ((msgs[i], msg') :: after.zip after)) = _
  rw [foldlM_cons]
  cases hc : countEntry counts (msgs[i], msg') with
  | none => rfl
  | some counts' => exact foldlM_countEntry_self counts' after

lemma follows_enqueue (hf : m.Fits handle now)
    (hseq : msg.sequence = m.nextSequence) (hst : msg.status = .pending)
    (hc : msg.claimEpoch = none) (hres : msg.resultDigest = none)
    (hn : m.nextSequence + 1 < 2 ^ 64) (hrev : m.revision + 1 < 2 ^ 64) :
    (touched now { m with
      nextSequence := m.nextSequence + 1
      messages := m.messages ++ [msg] }).follows m = .ok true := by
  have hzip : m.messages.zip (m.messages ++ [msg]) = m.messages.zip m.messages := by
    have hs : (m.messages ++ []).zip (m.messages ++ [msg]) =
        m.messages.zip m.messages ++ [].zip [msg] := zip_append rfl
    rwa [append_nil, zip_nil_left, append_nil] at hs
  simp [follows, touched, hzip, foldlM_countEntry_self, hseq, hst, hc, hres,
    checkedAdd_one hn, checkedAdd_one hrev, saturatingAdd]
  exact decide_eq_false (not_lt.mpr hf.updated)

lemma follows_set {counts : WorkerMailbox.FollowCounts}
    {msg' : ContextWorkerMessage} (hu : m.updatedAt ≤ now)
    (hmsg : m.messages[i]? = some msg) (hrev : m.revision + 1 < 2 ^ 64)
    (hcou : countEntry ⟨0, 0, 0, none⟩ (msg, msg') = some counts)
    (hco : (counts = ⟨1, 0, 0, none⟩ ∧ cursor = m.acknowledgedCursor) ∨
      (counts = ⟨0, 1, 0, none⟩ ∧ cursor = m.acknowledgedCursor) ∨
      (counts = ⟨0, 0, 1, some cursor⟩ ∧
        checkedAdd 64 m.acknowledgedCursor 1 = some cursor)) :
    (touched now { m with
      messages := m.messages.set i msg'
      acknowledgedCursor := cursor }).follows m = .ok true := by
  have hf := (foldlM_countEntry_set ⟨0, 0, 0, none⟩ msg' hmsg).trans hcou
  rcases hco with ⟨rfl, hc⟩ | ⟨rfl, hc⟩ | ⟨rfl, hc⟩
  · simp [follows, touched, hf, checkedAdd_one hrev, hu, hc]
  · simp [follows, touched, hf, checkedAdd_one hrev, hu, hc]
  · simp [follows, touched, hf, checkedAdd_one hrev, hc]
    exact decide_eq_false (not_lt.mpr hu)

lemma countEntry_claimedIn (epoch : ℕ) (hst : msg.status = .pending)
    (hs : msg.statusIsInvalid = false) (hu : msg.updatedAt ≤ now) :
    countEntry ⟨0, 0, 0, none⟩ (msg, msg.claimedIn epoch now) = some ⟨1, 0, 0, none⟩ := by
  simp only [ContextWorkerMessage.statusIsInvalid, hst, Bool.or_eq_false_iff] at hs
  simp [countEntry, ContextWorkerMessage.claimedIn, hst, hs.1, hs.2, saturatingAdd]
  exact decide_eq_false (not_lt.mpr hu)

lemma countEntry_acknowledgedWith {resultDigest : String}
    (hs : msg.status = .inFlight) (hc : msg.claimEpoch = some epoch)
    (hres : isSha256 resultDigest = true) (hu : msg.updatedAt ≤ now) :
    countEntry ⟨0, 0, 0, none⟩ (msg, msg.acknowledgedWith resultDigest now) =
      some ⟨0, 0, 1, some msg.sequence⟩ := by
  simp [countEntry, ContextWorkerMessage.acknowledgedWith, hs, hc, hres, hu, saturatingAdd]

lemma countEntry_requeue (hst : msg.status = .inFlight)
    (hs : msg.statusIsInvalid = false) (hu : msg.updatedAt ≤ now) :
    countEntry ⟨0, 0, 0, none⟩ (msg, requeue now msg) = some ⟨0, 1, 0, none⟩ := by
  simp only [ContextWorkerMessage.statusIsInvalid, hst, Bool.or_eq_false_iff] at hs
  simp [countEntry, requeue, hst, hs.1, hs.2, saturatingAdd]
  exact decide_eq_false (not_lt.mpr hu)

end WorkerMailbox

/-! ## Runs -/

namespace WorkerPair

variable {s s' : WorkerPair} {d : Delivery Envelope ℕ}

/-- The command that was answered wrote the mailbox. -/
def writesMailbox : CollaborationReply → Bool
  | .enqueued _ | .claimed (some _) | .acknowledged _ | .recovered true => true
  | _ => false

/-- The command that was answered wrote the handle. -/
def writesHandle : CollaborationReply → Bool
  | .done | .acknowledged _ => true
  | _ => false

/-- What a command wrote follows what was there, and the rest is as it was. -/
structure Succeeds (s : WorkerPair) (reply : CollaborationReply) (s' : WorkerPair) : Prop where
  mailbox : if writesMailbox reply then s'.mailbox.follows s.mailbox = .ok true
    else s'.mailbox = s.mailbox
  handle : if writesHandle reply then s'.handle.follows s.handle = .ok true
    else s'.handle = s.handle

lemma succeeds_of_transition (ht : s.Transition reply s') (h : s.Tracks d) :
    s.Succeeds reply s' := by
  cases ht with
  | idle hr => rcases hr with rfl | rfl <;> exact ⟨rfl, rfl⟩
  | handle h' hmo => exact ⟨rfl, hmo.follows⟩
  | enqueue msg now hf hseq hs hcl hres hn hrev =>
    exact ⟨WorkerMailbox.follows_enqueue hf hseq hs hcl hres hn hrev, rfl⟩
  | claim msg i now hf hmsg hs hseq hfr hrev =>
    obtain ⟨hsh, hu⟩ := hf.shape msg (mem_of_getElem? hmsg)
    have hc := WorkerMailbox.countEntry_claimedIn s.handle.attachmentEpoch hs hsh hu
    exact ⟨WorkerMailbox.follows_set hf.updated hmsg hrev hc (Or.inl ⟨rfl, rfl⟩), rfl⟩
  | acknowledge msg i resultDigest now h' hf hmsg hs hcl hseq hres hmo
      hcu hb hrev =>
    obtain ⟨-, hu⟩ := hf.shape msg (mem_of_getElem? hmsg)
    have hc := WorkerMailbox.countEntry_acknowledgedWith hs hcl hres hu
    have hn : checkedAdd 64 s.mailbox.acknowledgedCursor 1 = some msg.sequence := by
      rw [hseq] at hb ⊢
      exact checkedAdd_one hb
    exact ⟨WorkerMailbox.follows_set hf.updated hmsg hrev hc
      (Or.inr (Or.inr ⟨rfl, hn⟩)), hmo.follows⟩
  | recover now hf hst hrev =>
    obtain ⟨msg, hmsg, hm, hset⟩ := h.mailbox.map_requeue now hst
    obtain ⟨hsh, hu⟩ := hf.shape msg (mem_of_getElem? hmsg)
    have hs := beq_iff_eq.mp (Bool.and_eq_true_iff.mp hm).1
    have hc := WorkerMailbox.countEntry_requeue hs hsh hu
    rw [hset]
    exact ⟨WorkerMailbox.follows_set hf.updated hmsg hrev hc (Or.inr (Or.inl ⟨rfl, rfl⟩)), rfl⟩

lemma handle_follows_of_ok {cmd : CollaborationCommand} (h : (s.step cmd).1 = .ok reply)
    (hw : writesHandle reply = true) : (s.step cmd).2.handle.follows s.handle = .ok true := by
  have ht := transition_of_ok h
  generalize (s.step cmd).2 = t at ht ⊢
  cases ht with
  | idle hr => rcases hr with rfl | rfl <;> cases hw
  | handle h' hm => exact hm.follows
  | acknowledge _ _ _ _ _ _ _ _ _ _ _ hm => exact hm.follows
  | enqueue | claim | recover => cases hw

/-- In every run on a mailbox and a handle that were created together, what a successful command
writes follows what it replaces: the mailbox after an enqueue, a claim, an acknowledgement and a
recovery, and the handle after every command on it and after an acknowledgement.  For handles this
needs no history, and neither does it for branches. -/
theorem every_step_follows (h : s.IsCreated) (commands : List CollaborationCommand) :
    (∀ e ∈ trace step s commands, ∀ reply, e.output = .ok reply →
      e.before.Succeeds reply e.after) ∧
    (∀ (t : WorkerPair) command reply, (t.step command).1 = .ok reply →
      writesHandle reply = true → (t.step command).2.handle.follows t.handle = .ok true) ∧
    ∀ (b : ContextBranch) command, (b.step command).1 = .ok () →
      (b.step command).2.follows b = .ok true := by
  refine ⟨?_, fun t command reply => handle_follows_of_ok, fun b command hok =>
    (ContextBranch.move_of_step hok).follows⟩
  intro e he reply hr
  obtain ⟨earlier, command, later, -, rfl⟩ := (mem_trace_iff step).mp he
  obtain ⟨d, -, ht⟩ := tracks_run h earlier
  exact succeeds_of_transition (transition_of_ok hr) ht

/-- The recovery after the reattachment is a legal successor. -/
theorem every_step_follows_recoveredRun :
    sample.IsCreated ∧
      let recovery := eventOf step (run step sample (recoveredRun.take 5)) (.recoverAfterReattach 8)
      recovery.output = .ok (.recovered true) ∧
        recovery.before.Succeeds (.recovered true) recovery.after := by
  have hr : (eventOf step (run step sample (recoveredRun.take 5))
      (.recoverAfterReattach 8)).output = .ok (.recovered true) := by decide +kernel
  refine ⟨isCreated_sample, hr, ?_⟩
  exact (every_step_follows isCreated_sample recoveredRun).1 _
    ((mem_trace_iff step).mpr ⟨recoveredRun.take 5, _, recoveredRun.drop 6, rfl, rfl⟩) _ hr

end WorkerPair

end Hartevo
