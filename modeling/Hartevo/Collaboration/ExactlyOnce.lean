import Hartevo.Collaboration.Transitions
import Hartevo.Foundation.Delivery

/-!
# Exactly-once delivery in order

The mailbox of a worker is an ordered queue in the sense of `Delivery`: its entries are the messages
without their state, the cursor counts those that are done, and the holder of the next one is the
epoch in which it was claimed.  The state of every message follows from its position
(`WorkerMailbox.Represents`), although the mailbox stores it with the message and checks only one
half of this.

Every transition is one action on the queue or leaves it as it is (`simulates`).  So the messages
that were acknowledged are the first ones that were enqueued, each of them once.
-/

namespace Hartevo

open List

variable {i attachmentEpoch epoch : ℕ} {msg msg' : ContextWorkerMessage} {m' : WorkerMailbox}
  {now : DateTime} {resultDigest : String} {rp : CollaborationReply} {capsule : ContextCapsule}
  {messageId : ContextWorkerMessageId}

/-! ## The mailbox as a queue -/

/-- What never changes in a message. -/
structure Envelope where
  id : ContextWorkerMessageId
  sequence : ℕ
  senderWorkerId : Option WorkerId
  targetWorkerId : WorkerId
  kind : ContextWorkerMessageKind
  payloadRef : String
  payloadDigest : String
  enqueuedAt : DateTime

namespace ContextWorkerMessage

def envelope (self : ContextWorkerMessage) : Envelope :=
  ⟨self.id, self.sequence, self.senderWorkerId, self.targetWorkerId, self.kind, self.payloadRef,
    self.payloadDigest, self.enqueuedAt⟩

def IsIn (self : ContextWorkerMessage) : EntryState ℕ → Prop
  | .waiting => self.status = .pending
  | .held epoch => self.status = .inFlight ∧ self.claimEpoch = some epoch
  | .done => self.status = .acknowledged

end ContextWorkerMessage

namespace WorkerMailbox

/-- The mailbox holds the entries of the queue, each in the state that its position gives it. -/
structure Represents (m : WorkerMailbox) (d : Delivery Envelope ℕ) : Prop where
  sent : m.messages.map ContextWorkerMessage.envelope = d.sent
  cursor : m.acknowledgedCursor = d.acked
  sequence : ∀ i (message : ContextWorkerMessage), m.messages[i]? = some message →
    message.sequence = i + 1
  state : ∀ i (message : ContextWorkerMessage), m.messages[i]? = some message →
    message.IsIn (d.stateAt i)

variable {m : WorkerMailbox} {d d' : Delivery Envelope ℕ}

variable (h : m.Represents d)

include h

lemma Represents.length_eq : m.messages.length = d.sent.length := by
  rw [← h.sent, length_map]

lemma Represents.acked_le : d.acked ≤ m.messages.length := by
  rw [h.length_eq]
  exact le_trans (Nat.le_add_right _ _) d.bounded

lemma Represents.index_eq (hmsg : m.messages[i]? = some msg)
    (hseq : msg.sequence = m.acknowledgedCursor + 1) : i = d.acked := by
  have hi := h.sequence i msg hmsg
  rw [← h.cursor]
  omega

lemma Represents.holder_eq_none
    (hf : ∀ msg ∈ m.messages, msg.status ≠ .inFlight) : d.holder = none := by
  cases hh : d.holder with
  | none => rfl
  | some epoch =>
    have hlt : d.acked < m.messages.length := by
      rw [h.length_eq]
      exact Delivery.lt_of_holder hh
    have hm := getElem?_eq_getElem hlt
    have hs := h.state _ _ hm
    rw [Delivery.stateAt_of_holder hh] at hs
    exact absurd hs.1 (hf _ (getElem_mem hlt))

lemma Represents.inFlight (hmsg : m.messages[i]? = some msg)
    (hst : msg.status = .inFlight) : i = d.acked ∧ ∃ epoch, d.holder = some epoch := by
  have hs := h.state i msg hmsg
  rcases lt_trichotomy i d.acked with hlt | rfl | hgt
  · rw [Delivery.stateAt_of_lt hlt] at hs
    cases hst.symm.trans hs
  · refine ⟨rfl, ?_⟩
    cases hh : d.holder with
    | some epoch => exact ⟨epoch, rfl⟩
    | none =>
      rw [Delivery.stateAt_of_free hh] at hs
      cases hst.symm.trans hs
  · rw [Delivery.stateAt_of_gt hgt] at hs
    cases hst.symm.trans hs

lemma Represents.set (hmsg : m.messages[d.acked]? = some msg)
    (hm : m'.messages = m.messages.set d.acked msg')
    (henv : msg'.envelope = msg.envelope) (hse : d'.sent = d.sent)
    (hc : m'.acknowledgedCursor = d'.acked) (hst : msg'.IsIn (d'.stateAt d.acked))
    (ho : ∀ i, i ≠ d.acked → d'.stateAt i = d.stateAt i) : m'.Represents d' := by
  have hlt : d.acked < m.messages.length := (List.getElem?_eq_some_iff.mp hmsg).1
  refine ⟨?_, hc, fun i other hi => ?_, fun i other hi => ?_⟩
  · rw [hm, map_set, henv, hse, ← h.sent]
    refine ext_getElem? fun j => ?_
    by_cases hj : d.acked = j
    · subst hj
      rw [getElem?_set_self (by rw [length_map]; exact hlt), getElem?_map, hmsg]
      rfl
    · rw [getElem?_set_ne hj]
  · rw [hm] at hi
    by_cases hj : d.acked = i
    · subst hj
      rw [getElem?_set_self hlt] at hi
      cases hi
      have hs := h.sequence _ _ hmsg
      rw [← hs]
      exact congrArg Envelope.sequence henv
    · rw [getElem?_set_ne hj] at hi
      exact h.sequence i other hi
  · rw [hm] at hi
    by_cases hj : d.acked = i
    · subst hj
      rw [getElem?_set_self hlt] at hi
      cases hi
      exact hst
    · rw [getElem?_set_ne hj] at hi
      rw [ho i (Ne.symm hj)]
      exact h.state i other hi

/-- A recovery hits only the message at the cursor. -/
lemma Represents.map_requeue {handle : WorkerHandle} (now : DateTime)
    (hst : ∃ msg ∈ m.messages, isStale handle msg = true) :
    ∃ msg, m.messages[d.acked]? = some msg ∧ isStale handle msg = true ∧ (m.messages.map fun msg =>
        if isStale handle msg then requeue now msg else msg) =
          m.messages.set d.acked (requeue now msg) := by
  have hf : ∀ i msg, m.messages[i]? = some msg → isStale handle msg = true → i = d.acked := by
    intro i msg hmsg hm
    have hs := (Bool.and_eq_true_iff.mp hm).1
    exact (h.inFlight hmsg (beq_iff_eq.mp hs)).1
  obtain ⟨msg, hmem, hm⟩ := hst
  obtain ⟨i, hmsg⟩ := mem_iff_getElem?.mp hmem
  obtain rfl := hf i msg hmsg hm
  refine ⟨msg, hmsg, hm, ext_getElem? fun j => ?_⟩
  rw [getElem?_map]
  by_cases hj : d.acked = j
  · subst hj
    rw [List.getElem?_set_self (List.getElem?_eq_some_iff.mp hmsg).1, hmsg, Option.map_some,
      if_pos hm]
  · rw [getElem?_set_ne hj]
    cases hot : m.messages[j]? with
    | none => rfl
    | some other =>
      have hfr : ¬isStale handle other = true := fun ho => hj (hf j other hot ho).symm
      rw [Option.map_some, if_neg hfr]

end WorkerMailbox

namespace WorkerPair

variable {s s' : WorkerPair} {d : Delivery Envelope ℕ}

def action : CollaborationReply → Option (DeliveryAction Envelope ℕ)
  | .enqueued message => some (.send message.envelope)
  | .claimed (some message) => message.claimEpoch.map .hold
  | .acknowledged message => some (.ack message.envelope)
  | .recovered true => some .release
  | _ => none

/-- The two cursors agree, and the mailbox is the queue. -/
structure Tracks (s : WorkerPair) (d : Delivery Envelope ℕ) : Prop where
  mailbox : s.mailbox.Represents d
  cursor : s.mailbox.acknowledgedCursor = s.handle.cursor

lemma Tracks.enqueue (h : s.Tracks d) (hseq : msg.sequence = s.mailbox.messages.length + 1)
    (hs : msg.status = .pending) (hm : m'.messages = s.mailbox.messages ++ [msg])
    (hc : m'.acknowledgedCursor = s.mailbox.acknowledgedCursor) :
    ∃ d', Delivery.Step d (.send msg.envelope) d' ∧ Tracks { s with mailbox := m' } d' := by
  have hr := h.mailbox
  refine ⟨⟨d.sent ++ [msg.envelope], d.acked, d.holder, ?_⟩, .send rfl rfl rfl,
    ⟨?_, hc.trans hr.cursor, fun i other hi => ?_, fun i other hi => ?_⟩,
    hc.trans h.cursor⟩
  · rw [length_append]
    exact le_trans d.bounded (Nat.le_add_right _ _)
  · rw [hm, map_append, hr.sent]
    rfl
  · rw [hm] at hi
    rcases getElem?_concat_cases hi with hold | ⟨rfl, rfl⟩
    · exact hr.sequence i other hold
    · exact hseq
  · rw [hm] at hi
    rcases getElem?_concat_cases hi with hold | ⟨rfl, rfl⟩
    · exact hr.state i other hold
    · -- The new message comes after the cursor, or at it when there is nothing else to deliver.
      show other.IsIn (d.stateAt _)
      rcases lt_or_eq_of_le hr.acked_le with hlt | heq
      · rw [Delivery.stateAt_of_gt hlt]
        exact hs
      · have hf : d.holder = none := by
          cases hh : d.holder with
          | none => rfl
          | some epoch =>
            have hlt := Delivery.lt_of_holder hh
            rw [← hr.length_eq] at hlt
            omega
        rw [← heq, Delivery.stateAt_of_free hf]
        exact hs

lemma Tracks.claim (h : s.Tracks d) (hmsg : s.mailbox.messages[i]? = some msg)
    (hseq : msg.sequence = s.mailbox.acknowledgedCursor + 1)
    (hf : ∀ other ∈ s.mailbox.messages, other.status ≠ .inFlight)
    (hm : m'.messages = s.mailbox.messages.set i (msg.claimedIn epoch now))
    (hc : m'.acknowledgedCursor = s.mailbox.acknowledgedCursor) :
    ∃ d', Delivery.Step d (.hold epoch) d' ∧ Tracks { s with mailbox := m' } d' := by
  have hr := h.mailbox
  obtain rfl := hr.index_eq hmsg hseq
  have hlt : d.acked < d.sent.length := by
    rw [← hr.length_eq]
    exact (List.getElem?_eq_some_iff.mp hmsg).1
  let d' : Delivery Envelope ℕ := ⟨d.sent, d.acked, some epoch, hlt⟩
  refine ⟨d', .hold (hr.holder_eq_none hf) rfl rfl rfl, ?_, hc.trans h.cursor⟩
  refine hr.set hmsg hm rfl rfl (hc.trans hr.cursor) ?_ fun j hj => Delivery.stateAt_congr rfl hj
  have hs : d'.stateAt d.acked = .held epoch := Delivery.stateAt_of_holder rfl
  rw [hs]
  exact ⟨rfl, rfl⟩

lemma Tracks.acknowledge {h' : WorkerHandle}
    (h : s.Tracks d) (hmsg : s.mailbox.messages[i]? = some msg)
    (hseq : msg.sequence = s.mailbox.acknowledgedCursor + 1)
    (hm : m'.messages = s.mailbox.messages.set i (msg.acknowledgedWith resultDigest now))
    (hc : m'.acknowledgedCursor = msg.sequence) (hh : h'.cursor = msg.sequence) :
    ∃ d', Delivery.Step d (.ack msg.envelope) d' ∧ Tracks ⟨m', h'⟩ d' := by
  have hr := h.mailbox
  obtain rfl := hr.index_eq hmsg hseq
  have hlt : d.acked < d.sent.length := by
    rw [← hr.length_eq]
    exact (List.getElem?_eq_some_iff.mp hmsg).1
  let d' : Delivery Envelope ℕ := ⟨d.sent, d.acked + 1, none, hlt⟩
  have he : d.sent[d.acked]? = some msg.envelope := by
    rw [← hr.sent, getElem?_map, hmsg]
    rfl
  refine ⟨d', .ack he rfl rfl rfl, ?_, hc.trans hh.symm⟩
  refine hr.set hmsg hm rfl rfl ?_ ?_ fun j hj => ?_
  · rw [hc, hseq, hr.cursor]
  · rw [Delivery.stateAt_of_lt (Nat.lt_succ_self d.acked)]
    exact rfl
  · rcases lt_or_gt_of_ne hj with hj | hj
    · rw [Delivery.stateAt_of_lt hj, Delivery.stateAt_of_lt (Nat.lt_succ_of_lt hj)]
    · rw [Delivery.stateAt_of_gt hj]
      rcases lt_or_eq_of_le (Nat.succ_le_of_lt hj) with hgt | heq
      · exact Delivery.stateAt_of_gt hgt
      · have hf : d'.stateAt d'.acked = .waiting := Delivery.stateAt_of_free rfl
        rw [← heq]
        exact hf

lemma Tracks.recover (h : s.Tracks d)
    (hs : ∃ msg ∈ s.mailbox.messages, WorkerMailbox.isStale s.handle msg = true)
    (hm : m'.messages = s.mailbox.messages.map fun msg =>
      if WorkerMailbox.isStale s.handle msg then WorkerMailbox.requeue now msg else msg)
    (hc : m'.acknowledgedCursor = s.mailbox.acknowledgedCursor) :
    ∃ d', Delivery.Step d .release d' ∧ Tracks { s with mailbox := m' } d' := by
  have hr := h.mailbox
  obtain ⟨msg, hmsg, -, hset⟩ := hr.map_requeue now hs
  have hb : d.acked ≤ d.sent.length := le_trans (Nat.le_add_right _ _) d.bounded
  let d' : Delivery Envelope ℕ := ⟨d.sent, d.acked, none, hb⟩
  refine ⟨d', .release rfl rfl rfl, ?_, hc.trans h.cursor⟩
  refine hr.set hmsg (hm.trans hset) rfl rfl
    (hc.trans hr.cursor) ?_ fun j hj => Delivery.stateAt_congr rfl hj
  have hst : d'.stateAt d.acked = .waiting := Delivery.stateAt_of_free rfl
  rw [hst]
  exact rfl

/-- What was returned is an action on the queue, or the queue is as it was. -/
def Simulated (d : Delivery Envelope ℕ) (reply : CollaborationReply) (s' : WorkerPair) : Prop :=
  (action reply = none ∧ s'.Tracks d) ∨
    ∃ label d', action reply = some label ∧ Delivery.Step d label d' ∧ s'.Tracks d'

lemma simulated_of_step {label : DeliveryAction Envelope ℕ} (hl : action rp = some label)
    (h : ∃ d', Delivery.Step d label d' ∧ s'.Tracks d') : Simulated d rp s' := by
  obtain ⟨d', hstep, ht⟩ := h
  exact .inr ⟨label, d', hl, hstep, ht⟩

lemma simulates (ht : s.Transition rp s') (h : s.Tracks d) : Simulated d rp s' := by
  cases ht with
  | idle hr =>
    refine .inl ⟨?_, h⟩
    rcases hr with rfl | rfl <;> rfl
  | handle h' hm hc =>
    exact .inl ⟨rfl, h.mailbox, h.cursor.trans hc.symm⟩
  | enqueue msg now hf hseq hs =>
    exact simulated_of_step rfl (h.enqueue (hseq.trans hf.next) hs rfl rfl)
  | claim msg i now hf hmsg hs hseq hfr =>
    exact simulated_of_step (show _ = some (.hold s.handle.attachmentEpoch) from rfl)
      (h.claim hmsg hseq hfr rfl rfl)
  | acknowledge msg i resultDigest now h' hf hmsg _ _ hseq _ _ hc =>
    exact simulated_of_step (show _ = some (.ack msg.envelope) from rfl)
      (h.acknowledge hmsg hseq rfl rfl hc)
  | recover now hf hst =>
    exact simulated_of_step rfl (h.recover hst rfl rfl)

/-! ## Runs -/

/-- One command of a run on a mailbox and its handle. -/
abbrev CollaborationEvent :=
  Event WorkerPair CollaborationCommand (Except ContextError CollaborationReply)

def actionOf (e : CollaborationEvent) : Option (DeliveryAction Envelope ℕ) :=
  e.output.toOption.bind action

def enqueuedBy (e : CollaborationEvent) : Option Envelope :=
  match e.output with
  | .ok (.enqueued message) => some message.envelope
  | _ => none

def acknowledgedBy (e : CollaborationEvent) : Option Envelope :=
  match e.output with
  | .ok (.acknowledged message) => some message.envelope
  | _ => none

/-- A mailbox and a handle that were created together. -/
def IsCreated (s : WorkerPair) : Prop :=
  ∃ workspace branch lease capsule parent created id maxPending now,
    WorkerHandle.create workspace branch lease capsule parent created = .ok s.handle ∧
      WorkerMailbox.create id s.handle maxPending now = .ok s.mailbox

lemma IsCreated.tracks (h : s.IsCreated) : s.Tracks .empty := by
  obtain ⟨workspace, branch, ls, capsule, parent, created, id, maxPending, now, hh, hm⟩ := h
  obtain ⟨-, hh⟩ := check_ok.mp hh
  obtain ⟨-, hm⟩ := check_ok.mp hm
  have hc : s.handle.cursor = 0 := by rw [← Except.ok.inj hh]
  have he : s.mailbox.messages = [] := by rw [← Except.ok.inj hm]
  have ha : s.mailbox.acknowledgedCursor = 0 := by rw [← Except.ok.inj hm]
  refine ⟨⟨?_, ha, ?_, ?_⟩, ha.trans hc.symm⟩
  · rw [he]
    rfl
  · rw [he]
    exact fun i msg hmsg => by cases hmsg
  · rw [he]
    exact fun i msg hmsg => by cases hmsg

/-- The events of a run are a history of the queue. -/
lemma tracks_run (h : s.IsCreated) (cmds : List CollaborationCommand) :
    ∃ d, Delivery.Run ((trace step s cmds).filterMap actionOf) d ∧ (run step s cmds).Tracks d := by
  refine trace_invariant step (J := fun evs t => ∃ d, Delivery.Run (evs.filterMap actionOf) d ∧
    t.Tracks d) ⟨.empty, .start, h.tracks⟩ ?_ cmds
  rintro evs t cmd ⟨d, hrun, ht⟩
  rw [filterMap_append]
  cases hout : (t.step cmd).1 with
  | error =>
    have hn : [eventOf step t cmd].filterMap actionOf = [] := by
      simp [actionOf, eventOf, hout, Except.toOption]
    rw [hn, append_nil, step_of_error hout]
    exact ⟨d, hrun, ht⟩
  | ok rp =>
    have ha : [eventOf step t cmd].filterMap actionOf = (action rp).toList := by
      cases hr : action rp <;> simp [actionOf, eventOf, hout, Except.toOption, hr]
    rw [ha]
    rcases simulates (transition_of_ok hout) ht with ⟨hn, hs⟩ | ⟨label, d', hl, hstep, hne⟩
    · rw [hn]
      exact ⟨d, (append_nil _).symm ▸ hrun, hs⟩
    · rw [hl]
      exact ⟨d', .step hrun hstep, hne⟩

lemma epoch_of_acknowledge
    (h : (s.step (.acknowledge capsule messageId attachmentEpoch resultDigest now)).1 = .ok rp) :
    attachmentEpoch = s.handle.attachmentEpoch := by
  obtain ⟨msg, t, he, -, -⟩ := Command.exec_map_ok h
  obtain ⟨found, hc, -⟩ := Command.exec_check_ok.mp he
  obtain ⟨-, hc⟩ := check_ok.mp hc
  obtain ⟨hg, -⟩ := check_ok.mp hc
  simp only [passed, beq_iff_eq, WorkerHandle.executionAuthorized, Bool.and_eq_true] at hg
  exact hg.1.1.1.1.1.1.2.symm

/-- An attachment that was replaced acknowledges nothing. -/
lemma acknowledge_of_old_epoch (h : attachmentEpoch < s.handle.attachmentEpoch) :
    ∃ error, (s.step (.acknowledge capsule messageId attachmentEpoch resultDigest now)).1 =
      .error error := by
  cases hout : (s.step (.acknowledge capsule messageId attachmentEpoch resultDigest now)).1 with
  | error error => exact ⟨error, rfl⟩
  | ok => exact absurd (epoch_of_acknowledge hout) h.ne

/-- What the messages of a mailbox look like at any time. -/
structure InSequence (s : WorkerPair) : Prop where
  sequences : s.mailbox.messages.map (·.sequence) = List.range' 1 s.mailbox.messages.length
  acknowledged : ∀ message ∈ s.mailbox.messages,
    message.status = .acknowledged ↔ message.sequence ≤ s.mailbox.acknowledgedCursor
  inFlight : ∀ message ∈ s.mailbox.messages, message.status = .inFlight →
    message.sequence = s.mailbox.acknowledgedCursor + 1
  unique : ∀ (i j : ℕ) (message other : ContextWorkerMessage),
    s.mailbox.messages[i]? = some message → s.mailbox.messages[j]? = some other →
      message.status = .inFlight → other.status = .inFlight → i = j
  cursor : s.mailbox.acknowledgedCursor = s.handle.cursor

lemma Tracks.inSequence (h : s.Tracks d) : s.InSequence := by
  have hr := h.mailbox
  refine ⟨?_, fun msg hmem => ?_, fun msg hmem hst => ?_,
    fun i j msg other hmsg hot hst ho => ?_, h.cursor⟩
  · refine ext_getElem? fun i => ?_
    rw [getElem?_map]
    cases hmsg : s.mailbox.messages[i]? with
    | none =>
      have hl := getElem?_eq_none_iff.mp hmsg
      rw [Option.map_none, eq_comm, getElem?_eq_none_iff, length_range']
      exact hl
    | some msg =>
      have hlt := (List.getElem?_eq_some_iff.mp hmsg).1
      rw [Option.map_some, hr.sequence i msg hmsg, getElem?_range' hlt]
      simp [Nat.add_comm]
  · obtain ⟨i, hmsg⟩ := mem_iff_getElem?.mp hmem
    have hs := hr.state i msg hmsg
    rw [hr.sequence i msg hmsg, hr.cursor]
    constructor
    · intro hst
      by_contra hlt
      rcases lt_or_eq_of_le (show d.acked ≤ i by omega) with hgt | rfl
      · rw [Delivery.stateAt_of_gt hgt] at hs
        cases hst.symm.trans hs
      · cases hh : d.holder with
        | none =>
          rw [Delivery.stateAt_of_free hh] at hs
          cases hst.symm.trans hs
        | some epoch =>
          rw [Delivery.stateAt_of_holder hh] at hs
          cases hst.symm.trans hs.1
    · intro hle
      rw [Delivery.stateAt_of_lt (by omega)] at hs
      exact hs
  · obtain ⟨i, hmsg⟩ := mem_iff_getElem?.mp hmem
    rw [hr.sequence i msg hmsg, hr.cursor, (hr.inFlight hmsg hst).1]
  · rw [(hr.inFlight hmsg hst).1, (hr.inFlight hot ho).1]

lemma sends_actionOf (evs : List CollaborationEvent) :
    Delivery.sends (evs.filterMap actionOf) = evs.filterMap enqueuedBy := by
  rw [Delivery.sends, filterMap_filterMap]
  refine filterMap_congr fun e _ => ?_
  unfold actionOf enqueuedBy
  rcases e.output with error | _ | msg | (_ | msg) | msg | (_ | _)
  case ok.claimed.some => cases he : msg.claimEpoch <;> simp [Except.toOption, action, he]
  all_goals rfl

lemma acks_actionOf (evs : List CollaborationEvent) :
    Delivery.acks (evs.filterMap actionOf) = evs.filterMap acknowledgedBy := by
  rw [Delivery.acks, filterMap_filterMap]
  refine filterMap_congr fun e _ => ?_
  unfold actionOf acknowledgedBy
  rcases e.output with error | _ | msg | (_ | msg) | msg | (_ | _)
  case ok.claimed.some => cases he : msg.claimEpoch <;> simp [Except.toOption, action, he]
  all_goals rfl

/-- In every run on a mailbox and a handle that were created together, the messages are numbered in
the order in which they were enqueued, exactly those up to the cursor are acknowledged, at most the
next one is in flight, and the two cursors agree.  An attachment that was replaced acknowledges
nothing.  No message that was enqueued is lost, and the acknowledged ones are the first of them, in
order and each of them once. -/
theorem exactly_once (h : s.IsCreated) (commands : List CollaborationCommand) :
    let events := trace step s commands
    let t := run step s commands
    t.InSequence ∧
      (∀ e ∈ events, ∀ capsule messageId attachmentEpoch resultDigest now,
        e.input = .acknowledge capsule messageId attachmentEpoch resultDigest now →
          attachmentEpoch < e.before.handle.attachmentEpoch → ∃ error, e.output = .error error) ∧
      events.filterMap enqueuedBy = t.mailbox.messages.map ContextWorkerMessage.envelope ∧
      events.filterMap acknowledgedBy =
        (t.mailbox.messages.map ContextWorkerMessage.envelope).take
          t.mailbox.acknowledgedCursor := by
  obtain ⟨d, hrun, ht⟩ := tracks_run h commands
  refine ⟨ht.inSequence, ?_, ?_, ?_⟩
  · intro e he capsule messageId attachmentEpoch resultDigest now hi hep
    obtain ⟨earlier, command, later, -, rfl⟩ := (mem_trace_iff step).mp he
    obtain rfl : command = _ := hi
    simp only [eventOf] at hep ⊢
    exact acknowledge_of_old_epoch hep
  · rw [← sends_actionOf, hrun.sends_eq, ht.mailbox.sent]
  · rw [← acks_actionOf, hrun.acks_eq, ht.mailbox.sent, ht.mailbox.cursor]

/-! ## Sample -/

/-- The capsule of a worker that was claimed. -/
def sampleCapsule : ContextCapsule where
  id := "capsule"
  workspaceId := "workspace"
  branchId := "branch"
  workerId := "worker"
  workerGeneration := 1
  capabilities := ∅
  budget := ⟨100, ⟨100, .sample⟩, 1000, 1, 1⟩
  status := .claimed
  result := none
  issuedAt := 0
  updatedAt := 0

def sample : WorkerPair where
  handle := {
    tenantId := "tenant"
    projectId := "project"
    missionId := "mission"
    workspaceId := "workspace"
    branchId := "branch"
    capsuleId := "capsule"
    leaseId := "lease"
    workerId := "worker"
    parentWorkerId := none
    generation := 1
    attachmentEpoch := 1
    runtimeMappingDigest := some (lowerHex 0)
    capabilities := ∅
    budget := sampleCapsule.budget
    usage := .zero .sample
    cursor := 0
    status := .attached
    revision := 1
    createdAt := 1
    updatedAt := 1 }
  mailbox := {
    id := "mailbox"
    tenantId := "tenant"
    projectId := "project"
    missionId := "mission"
    workspaceId := "workspace"
    workerId := "worker"
    generation := 1
    maxPending := 10
    nextSequence := 1
    acknowledgedCursor := 0
    messages := []
    revision := 1
    createdAt := 2
    updatedAt := 2 }

lemma isCreated_sample : sample.IsCreated := ⟨⟨"workspace", "tenant", "project", "mission", 1⟩,
    ⟨"branch", "tenant", "project", "workspace", none, 0, "fork", "", .typedResultOnly, .active, 1,
      1, 0, 0⟩,
    ⟨"lease", "worker", 1, some (lowerHex 0)⟩, sampleCapsule, none, 1, "mailbox", 10, 2, rfl, rfl⟩

/-- A message is claimed, the worker is detached and attached again, and the message is recovered
before it is claimed again and acknowledged. -/
def recoveredRun : List CollaborationCommand :=
  [.enqueue "message" none .data "cas://payload" (lowerHex 0) 3, .claimNext sampleCapsule 1 4,
    .detach 1 5, .reattach 1 (lowerHex 0) 6,
    .acknowledge sampleCapsule "message" 1 (lowerHex 0) 7, .recoverAfterReattach 8,
    .claimNext sampleCapsule 2 9, .acknowledge sampleCapsule "message" 2 (lowerHex 0) 10]

/-- The recovered run acknowledges one message. -/
theorem exactly_once_recoveredRun :
    sample.IsCreated ∧ (run step sample recoveredRun).mailbox.acknowledgedCursor = 1 ∧
      (trace step sample recoveredRun).filterMap acknowledgedBy =
        ((run step sample recoveredRun).mailbox.messages.map ContextWorkerMessage.envelope).take
          (run step sample recoveredRun).mailbox.acknowledgedCursor :=
  ⟨isCreated_sample, by decide +kernel, (exactly_once isCreated_sample recoveredRun).2.2.2⟩

end WorkerPair

end Hartevo
