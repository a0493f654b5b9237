import Hartevo.Foundation.Keyed
import Hartevo.Outcome.Transitions

/-!
# Orders and refunds are projections of the events

The orders and refunds of a ledger are those that its events place and issue, in the order of the
events, and nothing else changes them.  `OutcomeLedger.Projected` says this together with what the
checks of every event add to it: identifiers are used once, every refund has its order, and what is
left of an order after its refunds is an amount that is not negative.

Whatever a replay of events makes is projected, and the projection depends on the events only.
-/

namespace Hartevo

open Command List

variable {oid : OrderId} {order : OutcomeOrder} {refund : OutcomeRefund} {ka : DateTime}
  {tid : TenantId} {pid : ProjectId} {events : List OutcomeEvent}

/-! ## Taking refunds off an amount -/

namespace OutcomeLedger

/-- The sum of some refunds, in minor units. -/
def refundedMinor (refunds : List OutcomeRefund) : ℤ :=
  (refunds.map fun refund => refund.amount.amountMinor).sum

lemma subtractRefunds_concat (amount : Money) (rfs : List OutcomeRefund) (rf : OutcomeRefund) :
    subtractRefunds amount (rfs ++ [rf]) = (do
      let net ← subtractRefunds amount rfs
      (net.checkedSub rf.amount).mapError fun _ => .currencyOrArithmeticMismatch) := by
  unfold subtractRefunds
  rw [foldlM_append]
  refine bind_congr fun net => ?_
  rw [foldlM_cons]
  cases (net.checkedSub rf.amount).mapError fun _ =>
    OutcomeLedgerError.currencyOrArithmeticMismatch <;> rfl

lemma subtractRefunds_ok {amount net : Money} {rfs : List OutcomeRefund}
    (h : subtractRefunds amount rfs = .ok net) :
    (∀ refund ∈ rfs, refund.amount.currency = amount.currency) ∧
      net = ⟨amount.amountMinor - refundedMinor rfs, amount.currency⟩ := by
  induction rfs using List.reverseRecOn generalizing net with
  | nil =>
    cases h
    exact ⟨fun _ hmem => absurd hmem not_mem_nil, by simp [refundedMinor]⟩
  | append_singleton rfs refund ih =>
    rw [subtractRefunds_concat, bind_ok] at h
    obtain ⟨prev, hp, hn⟩ := h
    rw [Except.mapError_ok, Money.checkedSub_ok] at hn
    obtain ⟨hc, -, rfl⟩ := hn
    obtain ⟨hall, rfl⟩ := ih hp
    refine ⟨fun other ho => ?_, ?_⟩
    · rcases mem_append.mp ho with hmem | hmem
      · exact hall other hmem
      · rw [mem_singleton.mp hmem]
        exact hc.symm
    · simp [refundedMinor, sub_sub]

/-! ## Projected ledgers -/

def refundsOf (l : OutcomeLedger) (orderId : OrderId) : List OutcomeRefund :=
  l.refunds.filter fun refund => refund.orderId == orderId

structure Projected (l : OutcomeLedger) : Prop where
  orders : l.orders = l.events.filterMap OutcomeEvent.order
  refunds : l.refunds = l.events.filterMap OutcomeEvent.refund
  envelopes : ∀ e ∈ l.events, e.validateEnvelope = .ok ()
  eventIds : (l.events.map (·.id)).Nodup
  sources : (l.events.map fun e => (e.provider, e.sourceEventId)).Nodup
  orderIds : (l.orders.map (·.id)).Nodup
  refundIds : (l.refunds.map (·.id)).Nodup
  refundOrders : ∀ refund ∈ l.refunds, ∃ order ∈ l.orders, order.id = refund.orderId
  net : ∀ order ∈ l.orders, ∃ net, subtractRefunds order.originalAmount (l.refundsOf order.id) =
    .ok net ∧ 0 ≤ net.amountMinor

variable {l l' : OutcomeLedger} {e : OutcomeEvent}

/-- The projection reads nothing but the events, orders and refunds. -/
lemma Projected.congr (h : l.Projected) (he : l'.events = l.events)
    (ho : l'.orders = l.orders) (hr : l'.refunds = l.refunds) : l'.Projected := by
  rcases l' with ⟨tenant, project, events, orders, refunds, attributions, commissions, rev⟩
  subst he ho hr
  exact { h with }

lemma Projected.order?_eq_some_iff (h : l.Projected) :
    l.order? oid = some order ↔ order ∈ l.orders ∧ order.id = oid :=
  find?_key_eq_some_iff h.orderIds

lemma projected_of_empty (he : l.events = []) (ho : l.orders = [])
    (hr : l.refunds = []) : l.Projected := by
  constructor <;> simp [he, ho, hr]

/-- The amount of an order or of a refund is positive. -/
lemma positive_of_envelope {amount : Money} (henv : e.validateEnvelope = .ok ())
    (hk : e.kind = .orderPlaced ∨ e.kind = .refundIssued) (hamt : e.amount = some amount) :
    0 < amount.amountMinor := by
  obtain ⟨-, hs⟩ := check_ok.mp henv
  rcases hk with hk | hk <;>
    simp only [passed, OutcomeEvent.shapeValid, hk, hamt, Bool.and_eq_true, Option.any_some,
      Money.isPositive, decide_eq_true_eq] at hs <;>
    exact hs.2

lemma Projected.refund_positive (h : l.Projected) (hmem : refund ∈ l.refunds) :
    0 < refund.amount.amountMinor := by
  rw [h.refunds] at hmem
  obtain ⟨e, he, hr⟩ := mem_filterMap.mp hmem
  obtain ⟨hk, -, -, hamt, -, -⟩ := OutcomeEvent.refund_eq_some.mp hr
  exact positive_of_envelope (h.envelopes e he) (Or.inr hk) hamt

lemma filterMap_concat {α β : Type} (f : α → Option β) (items : List α) (a : α) :
    (items ++ [a]).filterMap f = items.filterMap f ++ (f a).toList := by
  rw [filterMap_append]
  cases h : f a <;> simp [h]

lemma Projected.accept_order (h : l.Projected) (henv : e.validateEnvelope = .ok ())
    (ho : e.order = some order) (hf : ∀ stored ∈ l.orders, stored.id ≠ order.id) :
    ((l.orders ++ [order]).map (·.id)).Nodup ∧ ∀ stored ∈ l.orders ++ [order], ∃ net,
        subtractRefunds stored.originalAmount (l.refundsOf stored.id) = .ok net ∧
          0 ≤ net.amountMinor := by
  refine ⟨nodup_map_concat h.orderIds hf, fun stored hs => ?_⟩
  rcases mem_append.mp hs with hmem | hmem
  · exact h.net stored hmem
  · obtain rfl := mem_singleton.mp hmem
    -- There is no refund of an order that was not there.
    have hn : l.refundsOf stored.id = [] := by
      refine filter_eq_nil_iff.mpr fun refund hr hsa => ?_
      obtain ⟨other, hot, hid⟩ := h.refundOrders refund hr
      exact hf other hot (hid.trans (beq_iff_eq.mp hsa))
    rw [hn]
    obtain ⟨hk, -, hamt, -, -⟩ := OutcomeEvent.order_eq_some.mp ho
    exact ⟨stored.originalAmount, rfl, (positive_of_envelope henv (Or.inl hk) hamt).le⟩

lemma Projected.accept_refund (h : l.Projected) (l' : OutcomeLedger)
    (hfi : l.Refundable refund) (hr : l'.refunds = l.refunds ++ [refund]) :
    ∀ order ∈ l.orders, ∃ net, subtractRefunds order.originalAmount (l'.refundsOf order.id) =
      .ok net ∧ 0 ≤ net.amountMinor := by
  intro order hmem
  by_cases hs : refund.orderId = order.id
  · obtain ⟨net, next, hnet, hn, hp⟩ := hfi.net
    have hf : l.order? refund.orderId = some order := h.order?_eq_some_iff.mpr ⟨hmem, hs.symm⟩
    rw [netOrderAmount, hf, hs] at hnet
    have hsp : l'.refundsOf order.id = l.refundsOf order.id ++ [refund] := by
      simp [refundsOf, hr, hs]
    refine ⟨next, ?_, hp⟩
    rw [hsp, subtractRefunds_concat, bind_ok]
    exact ⟨net, hnet, Except.mapError_ok.mpr hn⟩
  · have hsp : l'.refundsOf order.id = l.refundsOf order.id := by
      simp [refundsOf, hr, hs]
    rw [hsp]
    exact h.net order hmem

lemma Projected.accept (h : l.Projected) (henv : e.validateEnvelope = .ok ())
    (hadm : l.Admissible e) : (l.accept e).Projected := by
  have hids : ((l.events ++ [e]).map (·.id)).Nodup :=
    nodup_map_concat h.eventIds fun stored hs => (hadm.fresh stored hs).1
  have hso : ((l.events ++ [e]).map fun e => (e.provider, e.sourceEventId)).Nodup :=
    nodup_map_concat h.sources fun stored hs hsa =>
      (hadm.fresh stored hs).2 (Prod.ext_iff.mp hsa)
  have he : ∀ stored ∈ l.events ++ [e], stored.validateEnvelope = .ok () := by
    intro stored hs
    rcases mem_append.mp hs with hmem | hmem
    · exact h.envelopes stored hmem
    · rw [mem_singleton.mp hmem]
      exact henv
  have hor : l.orders ++ e.order.toList = (l.events ++ [e]).filterMap OutcomeEvent.order := by
    rw [filterMap_concat, h.orders]
  have hre : l.refunds ++ e.refund.toList = (l.events ++ [e]).filterMap OutcomeEvent.refund := by
    rw [filterMap_concat, h.refunds]
  refine ⟨hor, hre, he, hids, hso, ?_, ?_, ?_, ?_⟩
  · cases ho : e.order with
    | none => simpa [OutcomeLedger.accept, ho] using h.orderIds
    | some order =>
      obtain ⟨order', ho', hfr⟩ := hadm.order (OutcomeEvent.order_eq_some.mp ho).1
      cases ho.symm.trans ho'
      simpa [OutcomeLedger.accept, ho] using (h.accept_order henv ho hfr).1
  · cases hr : e.refund with
    | none => simpa [OutcomeLedger.accept, hr] using h.refundIds
    | some refund =>
      obtain ⟨rf', hr', hf⟩ := hadm.refund (OutcomeEvent.refund_eq_some.mp hr).1
      cases hr.symm.trans hr'
      simpa [OutcomeLedger.accept, hr] using nodup_map_concat h.refundIds hf.fresh
  · intro refund hmem
    rcases mem_append.mp hmem with hold | hnew
    · obtain ⟨order, ho, hid⟩ := h.refundOrders refund hold
      exact ⟨order, mem_append_left _ ho, hid⟩
    · rw [Option.mem_toList] at hnew
      obtain ⟨rf', hr', hf⟩ := hadm.refund (OutcomeEvent.refund_eq_some.mp hnew).1
      cases Option.mem_def.mp hnew |>.symm.trans hr'
      obtain ⟨order, hfo, -⟩ := hf.order
      obtain ⟨ho, hid⟩ := order?_eq_some hfo
      exact ⟨order, mem_append_left _ ho, hid⟩
  · cases ho : e.order with
    | some order =>
      have hk := (OutcomeEvent.order_eq_some.mp ho).1
      have hn : e.refund = none := OutcomeEvent.refund_of_kind_ne (by rw [hk]; decide)
      obtain ⟨order', ho', hfr⟩ := hadm.order hk
      cases ho.symm.trans ho'
      have hnet := (h.accept_order henv ho hfr).2
      simpa [OutcomeLedger.accept, refundsOf, ho, hn] using hnet
    | none =>
      cases hr : e.refund with
      | none => simpa [OutcomeLedger.accept, refundsOf, ho, hr] using h.net
      | some refund =>
        obtain ⟨rf', hr', hf⟩ := hadm.refund (OutcomeEvent.refund_eq_some.mp hr).1
        cases hr.symm.trans hr'
        have hnet := h.accept_refund (l.accept e) hf (by simp [OutcomeLedger.accept, hr])
        simpa [OutcomeLedger.accept, ho] using hnet

/-! ## Refunds known at an instant -/

/-- The refund of an order that an event issues, if the event was received by an instant. -/
def knownRefund (orderId : OrderId) (knownAt : DateTime) (e : OutcomeEvent) :
    Option OutcomeRefund :=
  if e.receivedAt ≤ knownAt then e.refund.filter fun refund => refund.orderId == orderId else none

lemma knownRefund_eq_some : knownRefund oid ka e = some refund ↔
      e.receivedAt ≤ ka ∧ e.refund = some refund ∧ refund.orderId = oid := by
  unfold knownRefund
  split
  · next hk =>
    rw [Option.filter_eq_some_iff, beq_iff_eq]
    exact ⟨fun hf => ⟨hk, hf⟩, And.right⟩
  · next hl => exact ⟨nofun, fun hf => absurd hf.1 hl⟩

lemma knownRefund_eq_none
    (h : ∀ refund, e.refund = some refund → refund.orderId = oid → ka < e.receivedAt) :
    knownRefund oid ka e = none := by
  rcases hf : knownRefund oid ka e with _ | refund
  · rfl
  · obtain ⟨hk, hr, ho⟩ := knownRefund_eq_some.mp hf
    exact absurd (h refund hr ho) (not_lt.mpr hk)

lemma Projected.refundsKnownAt_eq (h : l.Projected) (oid : OrderId) (ka : DateTime) :
    l.refundsKnownAt oid ka = l.events.filterMap (knownRefund oid ka) := by
  unfold refundsKnownAt
  rw [h.refunds, filter_filterMap]
  refine filterMap_congr fun e he => ?_
  rcases hr : e.refund with _ | refund
  · simp [knownRefund, hr]
  · have hsrc : refund.sourceEventId = e.id := (OutcomeEvent.refund_eq_some.mp hr).2.2.2.2.1
    have hf : (l.events.find? fun ev => ev.id == refund.sourceEventId) = some e := by
      rw [hsrc]
      exact find?_key_of_mem h.eventIds he
    by_cases hk : e.receivedAt ≤ ka
    · simp [knownRefund, Option.filter_some, hr, hk, hf]
    · simp [knownRefund, Option.filter_some, hk, hf]

lemma Projected.refundsKnownAt_accept (h : l.Projected) (h' : (l.accept e).Projected)
    (oid : OrderId) (ka : DateTime) :
    (l.accept e).refundsKnownAt oid ka =
      l.refundsKnownAt oid ka ++ (knownRefund oid ka e).toList := by
  rw [h.refundsKnownAt_eq, h'.refundsKnownAt_eq]
  exact filterMap_concat _ _ _

lemma Projected.refundsKnownAt_eq_refundsOf (h : l.Projected)
    (hk : ∀ e ∈ l.events, e.kind = .refundIssued → e.orderId = some oid → e.receivedAt ≤ ka) :
    l.refundsKnownAt oid ka = l.refundsOf oid := by
  rw [h.refundsKnownAt_eq, refundsOf, h.refunds, filter_filterMap]
  refine filterMap_congr fun e he => ?_
  rcases hr : e.refund with _ | refund
  · simp [knownRefund, hr]
  · obtain ⟨hki, ho, -⟩ := OutcomeEvent.refund_eq_some.mp hr
    by_cases hs : refund.orderId = oid
    · have hre := hk e he hki (ho.trans (congrArg some hs))
      simp [knownRefund, hr, hre]
    · simp [knownRefund, Option.filter_some, hr, hs]

/-! ## Replays -/

/-- The ledger with its events only. -/
def bare (l : OutcomeLedger) : OutcomeLedger :=
  { l with attributions := [], commissions := [], revision := l.events.length + 1 }

lemma new_ok : new tid pid = .ok l ↔ (isBlank tid = false ∧ isBlank pid = false) ∧
        l = ⟨tid, pid, [], [], [], [], [], 1⟩ := by
  rw [new, check_ok, rejectIf_ok, Bool.or_eq_false_iff]
  exact and_congr_right fun _ => ⟨fun h => (Except.ok.inj h).symm, fun h => h ▸ rfl⟩

lemma replay_nil : replay tid pid [] = new tid pid := by
  unfold replay
  rcases new tid pid with error | start <;> rfl

lemma replay_concat_ok : replay tid pid (events ++ [e]) = .ok l' ↔
      ∃ l, replay tid pid events = .ok l ∧ e.validatePersisted = .ok () ∧
        l.Admissible e ∧ l' = l.accept e := by
  unfold replay
  simp only [foldlM_append, bind_ok, foldlM_cons, foldlM_nil]
  constructor
  · rintro ⟨start, hs, l, hl, next, hn, hd⟩
    cases hd
    refine ⟨l, ⟨start, hs, hl⟩, ?_⟩
    split at hn
    · next he =>
      cases hn
      exact ingestPersisted_ok.mp he
    · cases hn
  · rintro ⟨l, ⟨start, hs, hl⟩, hm⟩
    refine ⟨start, hs, l, hl, l', ?_, rfl⟩
    rw [ingestPersisted_ok.mpr hm]

lemma envelope_of_persisted (h : e.validatePersisted = .ok ()) : e.validateEnvelope = .ok () :=
  (check_ok.mp h).1

lemma projected_of_replay (h : replay tid pid events = .ok l) :
    l.Projected ∧ l.events = events ∧ l.tenantId = tid ∧ l.projectId = pid := by
  induction events using List.reverseRecOn generalizing l with
  | nil =>
    rw [replay_nil, new_ok] at h
    obtain ⟨-, rfl⟩ := h
    exact ⟨projected_of_empty rfl rfl rfl, rfl, rfl, rfl⟩
  | append_singleton events e ih =>
    obtain ⟨prev, hp, hv, hadm, rfl⟩ := replay_concat_ok.mp h
    obtain ⟨hprj, he, ht, hpr⟩ := ih hp
    refine ⟨hprj.accept (envelope_of_persisted hv) hadm, ?_, ht, hpr⟩
    rw [accept, he]

lemma Admissible.bare (h : l.Admissible e) (hrev : l.events.length + 1 ≤ l.revision) :
    l.bare.Admissible e :=
  ⟨h.tenant, h.project, h.fresh, lt_of_le_of_lt (Nat.succ_le_succ hrev) h.revision, h.order,
    fun hk =>
      let ⟨refund, hr, hf⟩ := h.refund hk
      ⟨refund, hr, hf.fresh, hf.net, hf.order⟩⟩

lemma bare_accept : l.bare.accept e = (l.accept e).bare := by
  unfold bare accept
  rcases e.refund with _ | refund <;> simp

lemma persisted_of_validate (h : e.validate = .ok ()) : e.validatePersisted = .ok () := by
  obtain ⟨henv, h⟩ := check_ok.mp h
  obtain ⟨vf, hs, h⟩ := bind_ok.mp h
  obtain ⟨hver, -⟩ := check_ok.mp h
  refine check_ok.mpr ⟨henv, ?_⟩
  rw [okOr_ok.mp hs]
  exact hver

end OutcomeLedger

end Hartevo
