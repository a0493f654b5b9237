import Hartevo.Collaboration.Mailbox

/-!
# What the collaboration commands do

The commands restore their records when they fail, so a command that fails leaves everything as it
was.  What a command does when it succeeds is written down here once: `ContextBranch.Move`,
`WorkerHandle.Move` and `WorkerPair.Transition` list the changes, each with what was checked before,
and `WorkerPair.transition_of_ok` says that there are no others.
-/

namespace Hartevo

open Command

variable {st : ContextBranchStatus} {cap : ContextCapsule} {h h' next : WorkerHandle}
  {ep tokenDelta toolCallDelta runtimeMillisDelta : ℕ} {costDelta : Money} {α : Type}
  {cmd : CollaborationCommand} {now : DateTime}

/-! ## Branches -/

namespace ContextBranch

variable {b b' : ContextBranch}

structure Move (b b' : ContextBranch) : Prop where
  status : (b.status, b'.status) ∈ [(ContextBranchStatus.active, ContextBranchStatus.completed),
    (.active, .abandoned), (.completed, .abandoned), (.completed, .merged)]
  revision : b.revision + 1 < 2 ^ 64
  updated : b.updatedAt ≤ b'.updatedAt
  frame : b' = { b with
    status := b'.status
    revision := b.revision + 1
    updatedAt := b'.updatedAt }

lemma enter_ok (h : (enter st now).exec b = (.ok (), b')) : b.revision + 1 < 2 ^ 64 ∧
      b' = { b with status := st, revision := b.revision + 1, updatedAt := now } := by
  rw [enter, exec_onCopy_ok, exec_modify_bind, touchBranch, exec_check_ok] at h
  obtain ⟨revision, hrev, hm⟩ := h
  rw [okOr_ok, checkedAdd_eq_some] at hrev
  obtain ⟨hb, rfl⟩ := hrev
  cases hm
  exact ⟨hb, rfl⟩

lemma move_of_enter (h : (enter st now).exec b = (.ok (), b'))
    (hs : (b.status, st) ∈ [(ContextBranchStatus.active, ContextBranchStatus.completed),
      (.active, .abandoned), (.completed, .abandoned), (.completed, .merged)])
    (hnow : b.updatedAt ≤ now) : b.Move b' := by
  obtain ⟨hb, rfl⟩ := enter_ok h
  exact ⟨hs, hb, hnow, rfl⟩

lemma move_of_completeForCapsule (h : (completeForCapsule cap now).exec b = (.ok (), b')) :
    b.Move b' := by
  obtain ⟨⟨⟩, hc, h⟩ := exec_check_ok.mp h
  simp only [passed, and_assoc] at hc
  obtain ⟨hs, -, -, -, -, -, hnow, -⟩ := hc
  refine move_of_enter h ?_ hnow
  rw [hs]
  decide

lemma move_of_applyMerge {merge : ContextBranchMerge}
    (h : (applyMerge merge now).exec b = (.ok (), b')) : b.Move b' := by
  obtain ⟨⟨⟩, hc, h⟩ := exec_check_ok.mp h
  simp only [passed, and_assoc] at hc
  obtain ⟨hs, -, -, -, -, hnow, -⟩ := hc
  refine move_of_enter h ?_ hnow
  rw [hs]
  decide

lemma move_of_abandon {conflictDigest : String}
    (h : (abandon conflictDigest now).exec b = (.ok (), b')) : b.Move b' := by
  obtain ⟨⟨⟩, hc, h⟩ := exec_check_ok.mp h
  simp only [passed, Bool.or_eq_true, beq_iff_eq] at hc
  obtain ⟨⟨hs, -⟩, hnow⟩ := hc
  refine move_of_enter h ?_ hnow
  rcases hs with hact | hd
  · rw [hact]
    decide
  · rw [hd]
    decide

end ContextBranch

/-! ## Handles -/

namespace WorkerHandle

/-- The record with the next revision. -/
def touched (now : DateTime) (self : WorkerHandle) : WorkerHandle :=
  { self with revision := self.revision + 1, updatedAt := now }

inductive Change (h : WorkerHandle) : WorkerHandle → Prop
  | detach (hstatus : h.status = .attached) :
    Change h { h with status := .detached, runtimeMappingDigest := none }
  | reattach (hstatus : h.status = .detached) (hepoch : h.attachmentEpoch + 1 < 2 ^ 64)
    (runtimeMappingDigest : String) :
    Change h { h with
      attachmentEpoch := h.attachmentEpoch + 1
      status := .attached
      runtimeMappingDigest := some runtimeMappingDigest }
  | spend (hstatus : h.status = .attached) (usage : WorkerUsage)
    (htokens : h.usage.tokens ≤ usage.tokens)
    (hcurrency : usage.cost.currency = h.usage.cost.currency)
    (hcost : h.usage.cost.amountMinor ≤ usage.cost.amountMinor)
    (htools : h.usage.toolCalls ≤ usage.toolCalls)
    (hruntime : h.usage.runtimeMillis ≤ usage.runtimeMillis) (hspent : usage ≠ h.usage) :
    Change h { h with usage := usage }
  | finish (hstatus : h.status = .attached ∨ h.status = .detached) (status : WorkerHandleStatus)
    (hterminal : status.isTerminal = true) :
    Change h { h with status := status, runtimeMappingDigest := none }
  | advance (hstatus : h.status = .attached) (hcursor : h.cursor + 1 < 2 ^ 64) :
    Change h { h with cursor := h.cursor + 1 }

structure Move (h h' : WorkerHandle) : Prop where
  change : ∃ next, h.Change next ∧ h' = next.touched h'.updatedAt
  revision : h.revision + 1 < 2 ^ 64
  updated : h.updatedAt ≤ h'.updatedAt

lemma Change.revision_eq (hc : h.Change next) : next.revision = h.revision := by
  cases hc <;> rfl

lemma touch_ok : (touch now).exec h = (.ok (), h') ↔
    h.revision + 1 < 2 ^ 64 ∧ h' = h.touched now := by
  rw [touch, exec_check_ok]
  simp only [okOr_ok, checkedAdd_eq_some, exec_modify, Prod.mk.injEq, true_and]
  constructor
  · rintro ⟨rev, ⟨hb, rfl⟩, rfl⟩
    exact ⟨hb, rfl⟩
  · rintro ⟨hb, rfl⟩
    exact ⟨_, ⟨hb, rfl⟩, rfl⟩

lemma move_of_touch {cursor : ℕ} (hc : h.Change next)
    (he : (touch now).exec next = (.ok (), h')) (hnow : h.updatedAt ≤ now)
    (hcu : next.cursor = cursor) : h.Move h' ∧ h'.cursor = cursor := by
  obtain ⟨hb, rfl⟩ := touch_ok.mp he
  rw [hc.revision_eq] at hb
  exact ⟨⟨⟨next, hc, rfl⟩, hb, hnow⟩, hcu⟩

lemma move_of_detach (he : (detach ep now).exec h = (.ok (), h')) :
    h.Move h' ∧ h'.cursor = h.cursor := by
  obtain ⟨⟨⟩, hc, he⟩ := exec_check_ok.mp he
  simp only [passed] at hc
  rw [exec_onCopy_ok, exec_modify_bind] at he
  exact move_of_touch (.detach hc.1.1) he hc.2 rfl

lemma move_of_reattach {runtimeMappingDigest : String}
    (he : (reattach ep runtimeMappingDigest now).exec h = (.ok (), h')) :
    h.Move h' ∧ h'.cursor = h.cursor := by
  obtain ⟨⟨⟩, hc, he⟩ := exec_check_ok.mp he
  simp only [passed] at hc
  obtain ⟨epoch, hep, he⟩ := exec_check_ok.mp (exec_onCopy_ok.mp he)
  rw [okOr_ok, checkedAdd_eq_some] at hep
  obtain ⟨hb, rfl⟩ := hep
  rw [exec_modify_bind] at he
  exact move_of_touch (.reattach hc.1.1.1 hb runtimeMappingDigest) he hc.2 rfl

end WorkerHandle

lemma WorkerUsage.record_ok {usage usage' : WorkerUsage} {budget : ContextBudget}
    (h : usage.record tokenDelta costDelta toolCallDelta runtimeMillisDelta budget = .ok usage') :
    0 ≤ costDelta.amountMinor ∧ usage' = {
      tokens := usage.tokens + tokenDelta
      cost := ⟨usage.cost.amountMinor + costDelta.amountMinor, usage.cost.currency⟩
      toolCalls := usage.toolCalls + toolCallDelta
      runtimeMillis := usage.runtimeMillis + runtimeMillisDelta } := by
  obtain ⟨hd, h⟩ := check_ok.mp h
  obtain ⟨tokens, ht, h⟩ := bind_ok.mp h
  obtain ⟨cost, hc, h⟩ := bind_ok.mp h
  obtain ⟨toolCalls, hto, h⟩ := bind_ok.mp h
  obtain ⟨runtimeMillis, hr, h⟩ := bind_ok.mp h
  obtain ⟨-, h⟩ := check_ok.mp h
  cases h
  simp only [passed] at hd
  simp only [okOr_ok, checkedAdd_eq_some, checkedI64_eq_some] at ht hc hto hr
  obtain ⟨⟨-, rfl⟩, ⟨-, rfl⟩, ⟨-, rfl⟩, ⟨-, rfl⟩⟩ := ht, hc, hto, hr
  exact ⟨hd.1, rfl⟩

namespace WorkerHandle

/-- What was used is not nothing, so that the usage changes. -/
lemma move_of_recordUsage
    (he : (recordUsage cap ep tokenDelta costDelta toolCallDelta runtimeMillisDelta now).exec h =
      (.ok (), h')) : h.Move h' ∧ h'.cursor = h.cursor := by
  obtain ⟨⟨⟩, hc, he⟩ := exec_check_ok.mp he
  simp only [passed, executionAuthorized, Bool.and_eq_true, beq_iff_eq, and_assoc] at hc
  obtain ⟨hst, -, -, -, -, -, hd, hnow, -⟩ := hc
  obtain ⟨usage, hu, he⟩ := exec_check_ok.mp (exec_onCopy_ok.mp he)
  obtain ⟨hco, heq⟩ := WorkerUsage.record_ok hu
  rw [exec_modify_bind] at he
  have ht : usage.tokens = h.usage.tokens + tokenDelta := by rw [heq]
  have hamt : usage.cost.amountMinor = h.usage.cost.amountMinor + costDelta.amountMinor := by
    rw [heq]
  have hto : usage.toolCalls = h.usage.toolCalls + toolCallDelta := by rw [heq]
  have hr : usage.runtimeMillis = h.usage.runtimeMillis + runtimeMillisDelta := by rw [heq]
  refine move_of_touch (.spend hst usage (by omega) (by rw [heq]) (by omega) (by omega)
    (by omega) fun hs => ?_) he hnow rfl
  simp only [Bool.and_eq_false_iff, beq_eq_false_iff_ne] at hd
  rw [hs] at ht hamt hto hr
  omega

lemma move_of_terminate {capsuleStatus : ContextCapsuleStatus} {st : WorkerHandleStatus}
    (ht : st.isTerminal = true) (he : (terminate capsuleStatus st cap now).exec h = (.ok (), h')) :
    h.Move h' ∧ h'.cursor = h.cursor := by
  obtain ⟨⟨⟩, hc, he⟩ := exec_check_ok.mp he
  simp only [passed, Bool.or_eq_true, beq_iff_eq] at hc
  rw [exec_onCopy_ok, exec_modify_bind] at he
  exact move_of_touch (.finish hc.1.1.1 st ht) he hc.2 rfl

/-- The cursor moves to the next message only. -/
lemma advanceCursor_ok {sequence : ℕ} (he : (advanceCursor ep sequence now).exec h = (.ok (), h')) :
    h.Move h' ∧ sequence = h.cursor + 1 ∧ sequence < 2 ^ 64 ∧ h'.cursor = sequence := by
  obtain ⟨⟨⟩, hc, he⟩ := exec_check_ok.mp he
  simp only [passed, checkedAdd_eq_some] at hc
  obtain ⟨⟨⟨hs, -⟩, hb, rfl⟩, hnow⟩ := hc
  rw [exec_onCopy_ok, exec_modify_bind] at he
  obtain ⟨hm, hcu⟩ := move_of_touch (.advance hs hb) he hnow rfl
  exact ⟨hm, rfl, hb, hcu⟩

end WorkerHandle

/-! ## Mailboxes -/

namespace WorkerMailbox

variable {m m' : WorkerMailbox} {handle : WorkerHandle}

/-- The record with the next revision. -/
def touched (now : DateTime) (self : WorkerMailbox) : WorkerMailbox :=
  { self with revision := self.revision + 1, updatedAt := now }

/-- What a mailbox satisfies that was validated for its handle. -/
structure Fits (m : WorkerMailbox) (handle : WorkerHandle) (now : DateTime) : Prop where
  cursor : m.acknowledgedCursor = handle.cursor
  next : m.nextSequence = m.messages.length + 1
  updated : m.updatedAt ≤ now
  sequence : ∀ i message, m.messages[i]? = some message → message.sequence = i + 1
  shape : ∀ message ∈ m.messages, message.statusIsInvalid = false ∧ message.updatedAt ≤ now

lemma fits_of_validateFor (h : m.validateFor handle now = .ok ()) : m.Fits handle now := by
  obtain ⟨hf, hen⟩ := check_ok.mp h
  simp only [passed] at hf
  obtain ⟨⟨⟨⟨⟨⟨⟨-, hn⟩, hc⟩, -⟩, -⟩, -⟩, -⟩, hu⟩ := hf
  have he : ∀ i msg, m.messages[i]? = some msg →
      m.validateEntry now (msg, i) = .ok () := fun i msg hmsg =>
    forM_eq_ok_iff.mp hen _ (List.mk_mem_zipIdx_iff_getElem?.mpr hmsg)
  refine ⟨hc, hn, hu, fun i msg hmsg => ?_, fun msg hmem => ?_⟩
  · have hs := (check_ok.mp (he i msg hmsg)).1
    simpa using hs
  · obtain ⟨i, hmsg⟩ := List.mem_iff_getElem?.mp hmem
    obtain ⟨-, hr⟩ := check_ok.mp (he i msg hmsg)
    have hv := (check_ok.mp hr).1
    simp only [ContextWorkerMessage.validate, passed] at hv
    exact ⟨hv.2, hv.1.2⟩

lemma settle_ok (h : (settle handle now).exec m = (.ok (), m')) :
    m.revision + 1 < 2 ^ 64 ∧ m' = m.touched now := by
  obtain ⟨⟨⟩, t, ht, hc⟩ := exec_bind_ok.mp h
  obtain ⟨rev, hrev, hm⟩ := exec_check_ok.mp ht
  rw [okOr_ok, checkedAdd_eq_some] at hrev
  obtain ⟨hb, rfl⟩ := hrev
  rw [exec_check, Prod.mk.injEq] at hc
  cases hm
  exact ⟨hb, hc.2.symm⟩

end WorkerMailbox

namespace ContextWorkerMessage

/-- The message in the hands of an attachment. -/
def claimedIn (epoch : ℕ) (now : DateTime) (self : ContextWorkerMessage) : ContextWorkerMessage :=
  { self with status := .inFlight, claimEpoch := some epoch, updatedAt := now }

def acknowledgedWith (resultDigest : String) (now : DateTime) (self : ContextWorkerMessage) :
    ContextWorkerMessage :=
  { self with status := .acknowledged, resultDigest := some resultDigest, updatedAt := now }

end ContextWorkerMessage

/-! ## Pairs -/

namespace WorkerPair

variable {s s' : WorkerPair}

inductive Transition (s : WorkerPair) : CollaborationReply → WorkerPair → Prop
  | idle {reply : CollaborationReply}
    (hreply : reply = .claimed none ∨ reply = .recovered false) : Transition s reply s
  | handle (h' : WorkerHandle) (hmove : s.handle.Move h') (hcursor : h'.cursor = s.handle.cursor) :
    Transition s .done { s with handle := h' }
  | enqueue (message : ContextWorkerMessage) (now : DateTime) (hfits : s.mailbox.Fits s.handle now)
    (hsequence : message.sequence = s.mailbox.nextSequence) (hstatus : message.status = .pending)
    (hclaim : message.claimEpoch = none) (hresult : message.resultDigest = none)
    (hnext : s.mailbox.nextSequence + 1 < 2 ^ 64) (hrevision : s.mailbox.revision + 1 < 2 ^ 64) :
    Transition s (.enqueued message) { s with
      mailbox := WorkerMailbox.touched now { s.mailbox with
        nextSequence := s.mailbox.nextSequence + 1
        messages := s.mailbox.messages ++ [message] } }
  | claim (message : ContextWorkerMessage) (i : ℕ) (now : DateTime)
    (hfits : s.mailbox.Fits s.handle now) (hmessage : s.mailbox.messages[i]? = some message)
    (hstatus : message.status = .pending)
    (hsequence : message.sequence = s.mailbox.acknowledgedCursor + 1)
    (hfree : ∀ other ∈ s.mailbox.messages, other.status ≠ .inFlight)
    (hrevision : s.mailbox.revision + 1 < 2 ^ 64) :
    Transition s (.claimed (some (message.claimedIn s.handle.attachmentEpoch now))) { s with
      mailbox := WorkerMailbox.touched now { s.mailbox with
        messages := s.mailbox.messages.set i
          (message.claimedIn s.handle.attachmentEpoch now) } }
  | acknowledge (message : ContextWorkerMessage) (i : ℕ) (resultDigest : String) (now : DateTime)
    (h' : WorkerHandle) (hfits : s.mailbox.Fits s.handle now)
    (hmessage : s.mailbox.messages[i]? = some message) (hstatus : message.status = .inFlight)
    (hclaim : message.claimEpoch = some s.handle.attachmentEpoch)
    (hsequence : message.sequence = s.mailbox.acknowledgedCursor + 1)
    (hresult : isSha256 resultDigest = true) (hmove : s.handle.Move h')
    (hcursor : h'.cursor = message.sequence) (hbound : message.sequence < 2 ^ 64)
    (hrevision : s.mailbox.revision + 1 < 2 ^ 64) :
    Transition s (.acknowledged (message.acknowledgedWith resultDigest now)) {
      mailbox := WorkerMailbox.touched now { s.mailbox with
        messages := s.mailbox.messages.set i (message.acknowledgedWith resultDigest now)
        acknowledgedCursor := message.sequence }
      handle := h' }
  | recover (now : DateTime) (hfits : s.mailbox.Fits s.handle now)
    (hstale : ∃ message ∈ s.mailbox.messages, WorkerMailbox.isStale s.handle message = true)
    (hrevision : s.mailbox.revision + 1 < 2 ^ 64) :
    Transition s (.recovered true) { s with
      mailbox := WorkerMailbox.touched now { s.mailbox with
        messages := s.mailbox.messages.map fun message =>
          if WorkerMailbox.isStale s.handle message then WorkerMailbox.requeue now message
          else message } }

lemma onMailbox_ok {c : WorkerHandle → Command WorkerMailbox ContextError α} {a : α}
    (h : (onMailbox c).exec s = (.ok a, s')) :
    ∃ m', (c s.handle).exec s.mailbox = (.ok a, m') ∧ s' = { s with mailbox := m' } := by
  obtain ⟨handle, hh, h⟩ := exec_check_ok.mp h
  cases hh
  exact exec_focus_ok.mp h

lemma transition_of_handle {c : Command WorkerHandle ContextError Unit} {s s' : WorkerPair}
    (h : (onHandle c).exec s = (.ok (), s'))
    (hm : ∀ h', c.exec s.handle = (.ok (), h') → s.handle.Move h' ∧ h'.cursor = s.handle.cursor) :
    s.Transition .done s' := by
  obtain ⟨h', he, rfl⟩ := exec_focus_ok.mp h
  obtain ⟨hm, hc⟩ := hm h' he
  exact .handle h' hm hc

lemma transition_of_enqueue {id : ContextWorkerMessageId} {senderWorkerId : Option WorkerId}
    {kind : ContextWorkerMessageKind} {payloadRef payloadDigest : String} {now : DateTime}
    {msg : ContextWorkerMessage}
    (h : (onMailbox fun handle => WorkerMailbox.enqueue handle id senderWorkerId kind payloadRef
      payloadDigest now).exec s = (.ok msg, s')) : s.Transition (.enqueued msg) s' := by
  obtain ⟨m', hrun, rfl⟩ := onMailbox_ok h
  obtain ⟨msg', hc, hrun⟩ := exec_check_ok.mp hrun
  obtain ⟨⟨⟩, t, hco, hp⟩ := exec_bind_ok.mp hrun
  cases hp
  obtain ⟨next, hn, he⟩ := exec_check_ok.mp (exec_onCopy_ok.mp hco)
  rw [okOr_ok, checkedAdd_eq_some] at hn
  obtain ⟨hb, rfl⟩ := hn
  rw [exec_modify_bind] at he
  obtain ⟨hrev, rfl⟩ := WorkerMailbox.settle_ok he
  obtain ⟨hv, hc⟩ := check_ok.mp hc
  obtain ⟨-, hc⟩ := check_ok.mp hc
  obtain ⟨-, hc⟩ := check_ok.mp hc
  cases hc
  exact .enqueue _ now (WorkerMailbox.fits_of_validateFor hv) rfl rfl rfl rfl hb hrev

lemma transition_of_claimNext {now : DateTime} {found : Option ContextWorkerMessage}
    (h : (onMailbox fun handle => WorkerMailbox.claimNext handle cap ep now).exec s =
      (.ok found, s')) : s.Transition (.claimed found) s' := by
  obtain ⟨m', hrun, rfl⟩ := onMailbox_ok h
  obtain ⟨⟨expected, candidate⟩, hc, hrun⟩ := exec_check_ok.mp hrun
  obtain ⟨hv, hc⟩ := check_ok.mp hc
  obtain ⟨hg, hc⟩ := check_ok.mp hc
  obtain ⟨expected', he, hc⟩ := bind_ok.mp hc
  cases hc
  simp only [passed, List.any_eq_false, beq_iff_eq, WorkerHandle.executionAuthorized,
    Bool.and_eq_true, and_assoc] at hg
  obtain ⟨-, rfl, -, -, -, -, hfr⟩ := hg
  rw [okOr_ok, checkedAdd_eq_some] at he
  obtain ⟨-, rfl⟩ := he
  cases hf : s.mailbox.messages.find?
      (WorkerMailbox.isNext (s.mailbox.acknowledgedCursor + 1)) with
  | none =>
    rw [hf] at hrun
    cases hrun
    exact .idle (Or.inl rfl)
  | some msg =>
    rw [hf] at hrun
    obtain ⟨⟨⟩, t, hco, hp⟩ := exec_bind_ok.mp hrun
    cases hp
    rw [exec_onCopy_ok, exec_modify_bind] at hco
    obtain ⟨hrev, rfl⟩ := WorkerMailbox.settle_ok hco
    obtain ⟨i, hmsg, hset⟩ := exists_set_of_find? hf
    have hn := List.find?_some hf
    simp only [WorkerMailbox.isNext, Bool.and_eq_true, beq_iff_eq] at hn
    rw [hset]
    exact .claim msg i now (WorkerMailbox.fits_of_validateFor hv) hmsg hn.2 hn.1 hfr hrev

lemma transition_of_recover {now : DateTime} {changed : Bool}
    (h : (onMailbox fun handle => WorkerMailbox.recoverAfterReattach handle now).exec s =
      (.ok changed, s')) : s.Transition (.recovered changed) s' := by
  obtain ⟨m', hrun, rfl⟩ := onMailbox_ok h
  obtain ⟨changed', hc, hrun⟩ := exec_check_ok.mp hrun
  obtain ⟨-, hc⟩ := check_ok.mp hc
  obtain ⟨hv, hc⟩ := check_ok.mp hc
  cases hc
  cases hs : s.mailbox.messages.any (WorkerMailbox.isStale s.handle) with
  | false =>
    rw [hs] at hrun
    cases hrun
    exact .idle (Or.inr rfl)
  | true =>
    rw [hs] at hrun
    obtain ⟨⟨⟩, t, hco, hp⟩ := exec_bind_ok.mp hrun
    cases hp
    rw [exec_onCopy_ok, exec_modify_bind] at hco
    obtain ⟨hrev, rfl⟩ := WorkerMailbox.settle_ok hco
    exact .recover now (WorkerMailbox.fits_of_validateFor hv) (List.any_eq_true.mp hs) hrev

lemma transition_of_acknowledge {messageId : ContextWorkerMessageId} {resultDigest : String}
    {now : DateTime} {rp : ContextWorkerMessage}
    (h : (acknowledge cap messageId ep resultDigest now).exec s = (.ok rp, s')) :
    s.Transition (.acknowledged rp) s' := by
  obtain ⟨msg, hc, h⟩ := exec_check_ok.mp h
  obtain ⟨⟨⟩, t, hco, hp⟩ := exec_bind_ok.mp h
  cases hp
  obtain ⟨⟨⟩, u, hh, hm⟩ := exec_bind_ok.mp (exec_onCopy_ok.mp hco)
  obtain ⟨h', ha, rfl⟩ := exec_focus_ok.mp hh
  obtain ⟨m', he, rfl⟩ := onMailbox_ok hm
  rw [exec_modify_bind] at he
  obtain ⟨hrev, rfl⟩ := WorkerMailbox.settle_ok he
  obtain ⟨hv, hc⟩ := check_ok.mp hc
  obtain ⟨hg, hc⟩ := check_ok.mp hc
  obtain ⟨found, hfi, hc⟩ := bind_ok.mp hc
  obtain ⟨hs, hc⟩ := check_ok.mp hc
  cases hc
  have hf := WorkerMailbox.fits_of_validateFor hv
  simp only [passed, beq_iff_eq, WorkerHandle.executionAuthorized, Bool.and_eq_true, and_assoc]
    at hg hs
  obtain ⟨-, rfl, -, -, -, -, hres, -⟩ := hg
  obtain ⟨hst, hcl, -⟩ := hs
  -- The cursor of the handle, and with it the one of the mailbox, moves by one.
  obtain ⟨hmo, hseq, hb, hcu⟩ := WorkerHandle.advanceCursor_ok ha
  obtain ⟨i, hmsg, hset⟩ := exists_set_of_find? (okOr_ok.mp hfi)
  unfold acknowledgeMessage at hrev ⊢
  rw [hset]
  exact .acknowledge msg i resultDigest now h' hf hmsg hst hcl
    (by rw [hf.cursor]; exact hseq) hres hmo hcu hb hrev

lemma transition_of_ok {rp : CollaborationReply} (h : (s.step cmd).1 = .ok rp) :
    s.Transition rp (s.step cmd).2 := by
  unfold step at h ⊢
  cases cmd with
  | enqueue =>
    obtain ⟨msg, t, he, rfl, ha⟩ := exec_map_ok h
    exact ha ▸ transition_of_enqueue he
  | claimNext =>
    obtain ⟨msg, t, he, rfl, ha⟩ := exec_map_ok h
    exact ha ▸ transition_of_claimNext he
  | acknowledge =>
    obtain ⟨msg, t, he, rfl, ha⟩ := exec_map_ok h
    exact ha ▸ transition_of_acknowledge he
  | recoverAfterReattach =>
    obtain ⟨changed, t, he, rfl, ha⟩ := exec_map_ok h
    exact ha ▸ transition_of_recover he
  | detach =>
    obtain ⟨_, t, he, rfl, ha⟩ := exec_map_ok h
    exact ha ▸ transition_of_handle he fun h' => WorkerHandle.move_of_detach
  | reattach =>
    obtain ⟨_, t, he, rfl, ha⟩ := exec_map_ok h
    exact ha ▸ transition_of_handle he fun h' => WorkerHandle.move_of_reattach
  | recordUsage =>
    obtain ⟨_, t, he, rfl, ha⟩ := exec_map_ok h
    exact ha ▸ transition_of_handle he fun h' => WorkerHandle.move_of_recordUsage
  | complete cap now | cancel cap now | fail cap now =>
    obtain ⟨_, t, he, rfl, ha⟩ := exec_map_ok h
    exact ha ▸ transition_of_handle he fun h' => WorkerHandle.move_of_terminate rfl

/-! ## Failed commands -/

lemma atomicAt_onMailbox {c : WorkerHandle → Command WorkerMailbox ContextError α}
    (h : AtomicAt (c s.handle) s.mailbox) : AtomicAt (onMailbox c) s := by
  refine AtomicAt.check_bind fun handle hh => ?_
  cases hh
  exact AtomicAt.focus rfl h

lemma atomicAt_claimNext (handle : WorkerHandle) (cap : ContextCapsule) (ep : ℕ)
    (now : DateTime) (m : WorkerMailbox) :
    AtomicAt (WorkerMailbox.claimNext handle cap ep now) m := by
  refine AtomicAt.check_bind fun ⟨expected, found⟩ _ => ?_
  cases found with
  | none => exact AtomicAt.of_ok rfl
  | some msg => exact AtomicAt.bind_pure (atomicAt_onCopy _ m)

lemma atomicAt_recoverAfterReattach (handle : WorkerHandle) (now : DateTime) (m : WorkerMailbox) :
    AtomicAt (WorkerMailbox.recoverAfterReattach handle now) m := by
  refine AtomicAt.check_bind fun changed _ => ?_
  cases changed with
  | false => exact AtomicAt.of_ok rfl
  | true => exact AtomicAt.bind_pure (atomicAt_onCopy _ m)

lemma step_of_error {e : ContextError} (h : (s.step cmd).1 = .error e) : (s.step cmd).2 = s := by
  have ha : AtomicAt cmd.toCommand s := by
    cases cmd with
    | enqueue =>
      exact (atomicAt_map _).mpr (atomicAt_onMailbox
        (AtomicAt.check_bind fun _ _ => AtomicAt.bind_pure (atomicAt_onCopy _ _)))
    | claimNext =>
      exact (atomicAt_map _).mpr (atomicAt_onMailbox (atomicAt_claimNext _ _ _ _ _))
    | acknowledge =>
      exact (atomicAt_map _).mpr
        (AtomicAt.check_bind fun _ _ => AtomicAt.bind_pure (atomicAt_onCopy _ _))
    | recoverAfterReattach =>
      exact (atomicAt_map _).mpr (atomicAt_onMailbox (atomicAt_recoverAfterReattach _ _ _))
    | detach | reattach | recordUsage | complete | cancel | fail =>
      exact (atomicAt_map _).mpr
        (AtomicAt.focus rfl (AtomicAt.check_bind fun _ _ => atomicAt_onCopy _ _))
  exact ha e h

end WorkerPair

end Hartevo
