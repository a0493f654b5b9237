import Hartevo.Outcome.Ledger

/-!
# What the commands on the ledger do

Every command reads the ledger first, and writes only when all of its checks are passed: a command
that fails leaves the ledger as it was.  What is written is said here once.  An event that is taken
in (`OutcomeLedger.Admissible`) makes the ledger `OutcomeLedger.accept`, an attribution is appended,
and a commission that can be calculated (`OutcomeLedger.Calculated`) is appended and replaces the
active one of its order and partner.
-/

namespace Hartevo

open Command List

lemma Except.mapError_ok {ε ε' α : Type} {x : Except ε α} {f : ε → ε'} {a : α} :
    x.mapError f = .ok a ↔ x = .ok a := by
  cases x <;> simp [Except.mapError]

lemma Money.checkedSub_ok {a b c : Money} : a.checkedSub b = .ok c ↔ a.currency = b.currency ∧
      (-2 ^ 63 ≤ a.amountMinor - b.amountMinor ∧ a.amountMinor - b.amountMinor < 2 ^ 63) ∧
      c = ⟨a.amountMinor - b.amountMinor, a.currency⟩ := by
  unfold Money.checkedSub Money.requireSameCurrency
  rw [check_ok, bind_ok, rejectIf_ok, bne_eq_false_iff_eq]
  constructor
  · rintro ⟨hcu, amount, hamt, hc⟩
    rw [okOr_ok, checkedI64_eq_some] at hamt
    obtain ⟨hr, rfl⟩ := hamt
    cases hc
    exact ⟨hcu, hr, rfl⟩
  · rintro ⟨hcu, hr, rfl⟩
    exact ⟨hcu, _, okOr_ok.mpr (checkedI64_eq_some.mpr ⟨hr, rfl⟩), rfl⟩

/-! ## Events -/

namespace OutcomeEvent

def order (e : OutcomeEvent) : Option OutcomeOrder :=
  match e.kind, e.orderId, e.amount with
  | .orderPlaced, some orderId, some amount => some ⟨orderId, e.id, amount, e.occurredAt⟩
  | _, _, _ => none

def refund (e : OutcomeEvent) : Option OutcomeRefund :=
  match e.kind, e.orderId, e.refundId, e.amount with
  | .refundIssued, some orderId, some refundId, some amount =>
    some ⟨refundId, orderId, e.id, amount, e.occurredAt⟩
  | _, _, _, _ => none

variable {e : OutcomeEvent}

lemma order_eq_some {order : OutcomeOrder} : e.order = some order ↔
    e.kind = .orderPlaced ∧ e.orderId = some order.id ∧ e.amount = some order.originalAmount ∧
      order.sourceEventId = e.id ∧ order.occurredAt = e.occurredAt := by
  unfold OutcomeEvent.order
  constructor
  · split
    · next oid amount hk ho hamt =>
      rintro ⟨⟩
      exact ⟨hk, ho, hamt, rfl, rfl⟩
    · nofun
  · rintro ⟨hk, ho, hamt, hsrc, ht⟩
    rw [hk, ho, hamt, ← hsrc, ← ht]

lemma refund_eq_some {rf : OutcomeRefund} : e.refund = some rf ↔
    e.kind = .refundIssued ∧ e.orderId = some rf.orderId ∧ e.refundId = some rf.id ∧
      e.amount = some rf.amount ∧ rf.sourceEventId = e.id ∧
      rf.occurredAt = e.occurredAt := by
  unfold OutcomeEvent.refund
  constructor
  · split
    · next oid refundId amount hk ho hr hamt =>
      rintro ⟨⟩
      exact ⟨hk, ho, hr, hamt, rfl, rfl⟩
    · nofun
  · rintro ⟨hk, ho, hr, hamt, hsrc, ht⟩
    rw [hk, ho, hr, hamt, ← hsrc, ← ht]

lemma order_of_kind_ne (h : e.kind ≠ .orderPlaced) : e.order = none := by
  cases ho : e.order with
  | none => rfl
  | some order => exact absurd (order_eq_some.mp ho).1 h

lemma refund_of_kind_ne (h : e.kind ≠ .refundIssued) : e.refund = none := by
  cases hr : e.refund with
  | none => rfl
  | some rf => exact absurd (refund_eq_some.mp hr).1 h

end OutcomeEvent

namespace OutcomeLedger

variable {l l' : OutcomeLedger} {e : OutcomeEvent} {oid : OrderId} {pid : PartnerId}

lemma order?_eq_some {order : OutcomeOrder}
    (h : l.order? oid = some order) : order ∈ l.orders ∧ order.id = oid :=
  ⟨mem_of_find?_eq_some h, by simpa using find?_some h⟩

/-- The refund fits its order. -/
structure Refundable (l : OutcomeLedger) (refund : OutcomeRefund) : Prop where
  fresh : ∀ stored ∈ l.refunds, stored.id ≠ refund.id
  net : ∃ net next, l.netOrderAmount refund.orderId = .ok net ∧
    net.checkedSub refund.amount = .ok next ∧ 0 ≤ next.amountMinor
  order : ∃ order, l.order? refund.orderId = some order ∧ order.occurredAt ≤ refund.occurredAt

/-- The event can be taken in. -/
structure Admissible (l : OutcomeLedger) (e : OutcomeEvent) : Prop where
  tenant : e.tenantId = l.tenantId
  project : e.projectId = l.projectId
  fresh : ∀ stored ∈ l.events, stored.id ≠ e.id ∧
    ¬(stored.provider = e.provider ∧ stored.sourceEventId = e.sourceEventId)
  revision : l.revision + 1 < 2 ^ 64
  order : e.kind = .orderPlaced → ∃ order, e.order = some order ∧
    ∀ stored ∈ l.orders, stored.id ≠ order.id
  refund : e.kind = .refundIssued → ∃ refund, e.refund = some refund ∧ l.Refundable refund

def accept (l : OutcomeLedger) (e : OutcomeEvent) : OutcomeLedger :=
  { l with
    events := l.events ++ [e]
    orders := l.orders ++ e.order.toList
    refunds := l.refunds ++ e.refund.toList
    commissions := match e.refund with
      | some refund => l.commissions.map (requireRecalculation refund.orderId)
      | none => l.commissions
    revision := l.revision + 1 }

lemma nextRevision_ok {revision : ℕ} :
    l.nextRevision = .ok revision ↔ l.revision + 1 < 2 ^ 64 ∧ l.revision + 1 = revision := by
  rw [nextRevision, okOr_ok, checkedAdd_eq_some]

lemma ingestOrder_ok : (ingestOrder e).exec l = (.ok (), l') ↔
    ∃ oid amount, e.orderId = some oid ∧ (∀ stored ∈ l.orders, stored.id ≠ oid) ∧
      e.amount = some amount ∧
      l' = { l with orders := l.orders ++ [⟨oid, e.id, amount, e.occurredAt⟩] } := by
  rw [ingestOrder, exec_check_ok]
  simp only [bind_ok, exists_const, okOr_ok, rejectIf_ok, any_eq_false,
    beq_iff_eq, exec_modify, Prod.mk.injEq, true_and]
  constructor
  · rintro ⟨order, ⟨oid, ho, hf, amount, hamt, hm⟩, rfl⟩
    cases hm
    exact ⟨oid, amount, ho, hf, hamt, rfl⟩
  · rintro ⟨oid, amount, ho, hf, hamt, rfl⟩
    exact ⟨_, ⟨oid, ho, hf, amount, hamt, rfl⟩, rfl⟩

lemma ingestRefund_ok : (ingestRefund e).exec l = (.ok (), l') ↔
    ∃ oid refundId amount, e.orderId = some oid ∧ e.refundId = some refundId ∧
      e.amount = some amount ∧ l.Refundable ⟨refundId, oid, e.id, amount, e.occurredAt⟩ ∧
      l' = { l with
        refunds := l.refunds ++ [⟨refundId, oid, e.id, amount, e.occurredAt⟩]
        commissions := l.commissions.map (requireRecalculation oid) } := by
  rw [ingestRefund, exec_check_ok]
  simp only [bind_ok, exists_const, Except.mapError_ok, okOr_ok, passed, any_eq_false,
    beq_iff_eq, exec_modify, Prod.mk.injEq, true_and]
  constructor
  · rintro ⟨rf, ⟨oid, ho, refundId, hr, hfr, amount, hamt, net, hnet, next,
      hn, hp, order, hf, ht, hm⟩, rfl⟩
    cases hm
    exact ⟨oid, refundId, amount, ho, hr, hamt,
      ⟨hfr, ⟨net, next, hnet, hn, hp⟩, ⟨order, hf, ht⟩⟩, rfl⟩
  · rintro ⟨oid, refundId, amount, ho, hr, hamt,
      ⟨hfr, ⟨net, next, hnet, hn, hp⟩, ⟨order, hf, ht⟩⟩, rfl⟩
    exact ⟨_, ⟨oid, ho, refundId, hr, hfr, amount, hamt, net, hnet, next, hn,
      hp, order, hf, ht, rfl⟩, rfl⟩

/-- The checks that every event has to pass. -/
lemma ingestValidated_eq_ok_iff : (ingestValidated e).exec l = (.ok (), l') ↔
    e.tenantId = l.tenantId ∧ e.projectId = l.projectId ∧ (∀ stored ∈ l.events, stored.id ≠ e.id ∧
        ¬(stored.provider = e.provider ∧ stored.sourceEventId = e.sourceEventId)) ∧
      l.revision + 1 < 2 ^ 64 ∧
      ∃ t, (ingestProjection e).exec l = (.ok (), t) ∧
        l' = { t with events := t.events ++ [e], revision := l.revision + 1 } := by
  rw [ingestValidated, exec_check_ok]
  simp only [bind_ok, exists_const, passed, nextRevision_ok, any_eq_false, Bool.or_eq_true,
    Bool.and_eq_true, beq_iff_eq, not_or]
  constructor
  · rintro ⟨revision, ⟨⟨ht, hp⟩, hf, hb, rfl⟩, hr⟩
    obtain ⟨⟨⟩, t, hk, hm⟩ := exec_bind_ok.mp hr
    rw [exec_modify, Prod.mk.injEq] at hm
    exact ⟨ht, hp, hf, hb, t, hk, hm.2.symm⟩
  · rintro ⟨ht, hp, hf, hb, t, hk, rfl⟩
    exact ⟨_, ⟨⟨ht, hp⟩, hf, hb, rfl⟩, exec_bind_ok.mpr ⟨(), t, hk, rfl⟩⟩

/-- An event is taken in exactly when it is admissible. -/
lemma ingestValidated_ok :
    (ingestValidated e).exec l = (.ok (), l') ↔ l.Admissible e ∧ l' = l.accept e := by
  rw [ingestValidated_eq_ok_iff]
  by_cases ho : e.kind = .orderPlaced
  · have hr : e.refund = none := OutcomeEvent.refund_of_kind_ne (by rw [ho]; decide)
    have hp : ingestProjection e = ingestOrder e := by rw [ingestProjection, ho]
    simp only [hp, ingestOrder_ok]
    constructor
    · rintro ⟨ht, hp, hf, hb, t, ⟨oid, amount, hid, hnew, hamt, rfl⟩, rfl⟩
      have hm : e.order = some ⟨oid, e.id, amount, e.occurredAt⟩ :=
        OutcomeEvent.order_eq_some.mpr ⟨ho, hid, hamt, rfl, rfl⟩
      refine ⟨⟨ht, hp, hf, hb, fun _ => ⟨_, hm, hnew⟩, ?_⟩, ?_⟩
      · rw [ho]
        nofun
      · rw [accept, hm, hr]
        simp
    · rintro ⟨⟨ht, hp, hf, hb, hpl, -⟩, rfl⟩
      obtain ⟨order, hm, hnew⟩ := hpl ho
      obtain ⟨-, hid, hamt, hsrc, hti⟩ := OutcomeEvent.order_eq_some.mp hm
      refine ⟨ht, hp, hf, hb, _, ⟨_, _, hid, hnew, hamt, rfl⟩, ?_⟩
      rw [accept, hm, hr, ← hsrc, ← hti]
      simp
  by_cases hr : e.kind = .refundIssued
  · have hpl : e.order = none := OutcomeEvent.order_of_kind_ne ho
    have hp : ingestProjection e = ingestRefund e := by rw [ingestProjection, hr]
    simp only [hp, ingestRefund_ok]
    constructor
    · rintro ⟨ht, hp, hf, hb, t, ⟨oid, refundId, amount, hid, hre, hamt, hfi, rfl⟩, rfl⟩
      have hm : e.refund = some ⟨refundId, oid, e.id, amount, e.occurredAt⟩ :=
        OutcomeEvent.refund_eq_some.mpr ⟨hr, hid, hre, hamt, rfl, rfl⟩
      refine ⟨⟨ht, hp, hf, hb, fun h => absurd h ho, fun _ => ⟨_, hm, hfi⟩⟩, ?_⟩
      rw [accept, hm, hpl]
      simp
    · rintro ⟨⟨ht, hp, hf, hb, -, hi⟩, rfl⟩
      obtain ⟨rf, hm, hfi⟩ := hi hr
      obtain ⟨-, hid, hre, hamt, hsrc, hti⟩ := OutcomeEvent.refund_eq_some.mp hm
      refine ⟨ht, hp, hf, hb, _, ⟨_, _, _, hid, hre, hamt, ?_, rfl⟩, ?_⟩
      · rw [← hsrc, ← hti]
        exact hfi
      · rw [accept, hm, hpl, ← hsrc, ← hti]
        simp
  · have hpl : e.order = none := OutcomeEvent.order_of_kind_ne ho
    have hi : e.refund = none := OutcomeEvent.refund_of_kind_ne hr
    have hp : ingestProjection e = pure () := by
      unfold ingestProjection
      split
      · next hk => exact absurd hk ho
      · next hk => exact absurd hk hr
      · rfl
    simp only [hp, exec_pure, Prod.mk.injEq, true_and]
    constructor
    · rintro ⟨ht, hp, hf, hb, t, rfl, rfl⟩
      refine ⟨⟨ht, hp, hf, hb, fun h => absurd h ho, fun h => absurd h hr⟩, ?_⟩
      rw [accept, hpl, hi]
      simp
    · rintro ⟨⟨ht, hp, hf, hb, -, -⟩, rfl⟩
      refine ⟨ht, hp, hf, hb, l, rfl, ?_⟩
      rw [accept, hpl, hi]
      simp

lemma ingest_ok : (ingest e).exec l = (.ok (), l') ↔
    e.validate = .ok () ∧ l.Admissible e ∧ l' = l.accept e := by
  rw [ingest, exec_check_ok, ← ingestValidated_ok]
  exact ⟨fun ⟨⟨⟩, hv, hr⟩ => ⟨hv, hr⟩, fun ⟨hv, hr⟩ => ⟨(), hv, hr⟩⟩

lemma ingestPersisted_ok : (ingestPersisted e).exec l = (.ok (), l') ↔
    e.validatePersisted = .ok () ∧ l.Admissible e ∧ l' = l.accept e := by
  rw [ingestPersisted, exec_check_ok, ← ingestValidated_ok]
  exact ⟨fun ⟨⟨⟩, hv, hr⟩ => ⟨hv, hr⟩, fun ⟨hv, hr⟩ => ⟨(), hv, hr⟩⟩

/-! ## Attributions and commissions -/

/-- The attribution can be recorded. -/
structure Attributable (l : OutcomeLedger) (record : AttributionRecord) : Prop where
  fresh : ∀ stored ∈ l.attributions, stored.id ≠ record.id
  revision : l.revision + 1 < 2 ^ 64
  order : ∃ order, l.order? record.orderId = some order ∧
    record.validate l.tenantId l.projectId order = .ok ()

def attributed (l : OutcomeLedger) (record : AttributionRecord) : OutcomeLedger :=
  { l with attributions := l.attributions ++ [record], revision := l.revision + 1 }

lemma attributeRecord_ok {record : AttributionRecord} :
    (attributeRecord record).exec l = (.ok (), l') ↔
      l.Attributable record ∧ l' = l.attributed record := by
  rw [attributeRecord, exec_check_ok]
  simp only [bind_ok, exists_const, rejectIf_ok, nextRevision_ok, okOr_ok,
    any_eq_false, beq_iff_eq, exec_modify, Prod.mk.injEq, true_and]
  constructor
  · rintro ⟨rev, ⟨hfr, next, ⟨hb, rfl⟩, order, hf, ⟨⟩, hv, hm⟩, rfl⟩
    cases hm
    exact ⟨⟨hfr, hb, order, hf, hv⟩, rfl⟩
  · rintro ⟨⟨hfr, hb, order, hf, hv⟩, rfl⟩
    exact ⟨_, ⟨hfr, _, ⟨hb, rfl⟩, order, hf, (), hv, rfl⟩, rfl⟩

def IsActiveFor (orderId : OrderId) (partnerId : PartnerId) (record : CommissionRecord) : Prop :=
  record.orderId = orderId ∧ record.partnerId = partnerId ∧ record.status ≠ .superseded

/-- The position holds the only active commission of the order and the partner, or there is none. -/
def IsActiveIndex (l : OutcomeLedger) (orderId : OrderId) (partnerId : PartnerId) :
    Option ℕ → Prop
  | none => ∀ record ∈ l.commissions, ¬IsActiveFor orderId partnerId record
  | some index => (∃ record, l.commissions[index]? = some record ∧
      IsActiveFor orderId partnerId record) ∧
    ∀ (i : ℕ) (record : CommissionRecord), l.commissions[i]? = some record →
      IsActiveFor orderId partnerId record → i = index

lemma isActiveIndex_of_ok {index : Option ℕ} (h : l.activeCommissionIndex oid pid = .ok index) :
    l.IsActiveIndex oid pid index := by
  have hmem : ∀ i record, l.commissions[i]? = some record → (IsActiveFor oid pid record ↔
        i ∈ (l.commissions.zipIdx.filter fun entry => entry.1.orderId == oid &&
          entry.1.partnerId == pid && entry.1.isActive).map Prod.snd) := by
    intro i record hr
    simp only [mem_map, mem_filter, Prod.exists, mk_mem_zipIdx_iff_getElem?,
      Bool.and_eq_true, beq_iff_eq, CommissionRecord.isActive, bne_iff_ne, IsActiveFor, and_assoc]
    constructor
    · rintro ⟨ho, hp, hact⟩
      exact ⟨record, i, hr, ho, hp, hact, rfl⟩
    · rintro ⟨other, j, hot, ho, hp, hact, rfl⟩
      cases hr.symm.trans hot
      exact ⟨ho, hp, hact⟩
  unfold activeCommissionIndex at h
  split at h
  · next hn =>
    cases h
    intro record hr hact
    obtain ⟨i, hi⟩ := mem_iff_getElem?.mp hr
    have := (hmem i record hi).mp hact
    rw [hn] at this
    cases this
  · next found hone =>
    cases h
    have hf : found ∈ (l.commissions.zipIdx.filter fun entry => entry.1.orderId == oid &&
        entry.1.partnerId == pid && entry.1.isActive).map Prod.snd := by
      rw [hone]
      exact mem_singleton_self found
    obtain ⟨⟨record, i⟩, he, rfl⟩ := mem_map.mp hf
    have hr := mk_mem_zipIdx_iff_getElem?.mp (mem_filter.mp he).1
    refine ⟨⟨record, hr, (hmem i record hr).mpr hf⟩, fun j other hot hact => ?_⟩
    have := (hmem j other hot).mp hact
    rw [hone] at this
    exact mem_singleton.mp this
  · cases h

/-- The commission can be calculated, and replaces the one at a position. -/
structure Calculated (enc : OutcomeEncoding) (l : OutcomeLedger) (index : Option ℕ)
    (record : CommissionRecord) : Prop where
  tenant : record.tenantId = l.tenantId
  project : record.projectId = l.projectId
  id : isBlank record.id = false
  partner : isBlank record.partnerId = false
  ratePositive : 0 < record.rate.mantissa
  rateBound : record.rate.exceedsOne = false
  terms : isSha256 record.termsDigest = true
  fresh : ∀ stored ∈ l.commissions, stored.id ≠ record.id
  revision : l.revision + 1 < 2 ^ 64
  order : ∃ order, l.order? record.orderId = some order ∧ order.occurredAt ≤ record.calculatedAt
  known : ∀ e ∈ l.events, e.kind = .refundIssued → e.orderId = some record.orderId →
    e.receivedAt ≤ record.calculatedAt
  net : l.netOrderAmount record.orderId = .ok record.eligibleNetAmount
  amount : enc.commissionMinor record.eligibleNetAmount.amountMinor record.rate =
    some record.commissionAmount.amountMinor
  currency : record.commissionAmount.currency = record.eligibleNetAmount.currency
  digest : record.refundSetDigest = l.refundSetDigestAt enc record.orderId record.calculatedAt
  position : l.activeCommissionIndex record.orderId record.partnerId = .ok index
  supersedes : record.supersedes = index.bind fun index => l.commissions[index]?.map (·.id)
  status : record.status = .current

def calculated (l : OutcomeLedger) (index : Option ℕ) (record : CommissionRecord) :
    OutcomeLedger :=
  { l with
    commissions := supersede l.commissions index ++ [record]
    revision := l.revision + 1 }

lemma latestRefundObservedAt_le {t : DateTime} :
    ((l.latestRefundObservedAt oid).any fun oa => decide (t < oa)) = false ↔
      ∀ e ∈ l.events, e.kind = .refundIssued → e.orderId = some oid → e.receivedAt ≤ t := by
  unfold latestRefundObservedAt
  cases hmax : ((l.events.filter fun ev => ev.kind == .refundIssued &&
      ev.orderId == some oid).map (·.receivedAt)).max? with
  | none =>
    rw [max?_eq_none_iff, map_eq_nil_iff, filter_eq_nil_iff] at hmax
    refine iff_of_true rfl fun e he hk ho => ?_
    exact absurd (by simp [hk, ho]) (hmax e he)
  | some latest =>
    obtain ⟨hmem, hle⟩ := max?_eq_some_iff.mp hmax
    simp only [Option.any_some, passed]
    simp only [mem_map, mem_filter, Bool.and_eq_true, beq_iff_eq] at hmem hle
    constructor
    · intro hb e he hk ho
      exact (hle _ ⟨e, ⟨he, hk, ho⟩, rfl⟩).trans hb
    · intro hall
      obtain ⟨e, ⟨he, hk, ho⟩, rfl⟩ := hmem
      exact hall e he hk ho

lemma calculateCommission_ok {rate : Decimal} {terms : String} {ca : DateTime}
    {record : CommissionRecord} {enc : OutcomeEncoding} {id : CommissionId} :
    (calculateCommission enc id oid pid rate terms ca).exec l = (.ok record, l') ↔
      ∃ index, l.Calculated enc index record ∧ record.id = id ∧ record.orderId = oid ∧
        record.partnerId = pid ∧ record.rate = rate ∧ record.termsDigest = terms ∧
        record.calculatedAt = ca ∧ l' = l.calculated index record := by
  rw [calculateCommission, exec_check_ok]
  simp only [checkCommission, bind_ok, exists_const, passed, nextRevision_ok, okOr_ok,
    not_le, any_eq_false, beq_iff_eq, latestRefundObservedAt_le]
  constructor
  · rintro ⟨⟨rev, index, made⟩, ⟨⟨⟨⟨⟨⟨hid, hpa⟩, hp⟩, hra⟩, hte⟩, hfr⟩, _,
      ⟨hb, rfl⟩, order, hf, ⟨ht, hk⟩, net, hnet, amount, hamt, active, hact,
      hm⟩, hr⟩
    cases hm
    rw [exec_modify_bind, exec_pure, Prod.mk.injEq, Except.ok.injEq] at hr
    obtain ⟨rfl, rfl⟩ := hr
    exact ⟨index, ⟨rfl, rfl, hid, hpa, hp, hra, hte, hfr, hb,
      ⟨order, hf, ht⟩, hk, hnet, hamt, rfl, rfl, hact, rfl, rfl⟩, rfl, rfl, rfl,
      rfl, rfl, rfl, rfl⟩
  · rintro ⟨index, h, rfl, rfl, rfl, rfl, rfl, rfl, rfl⟩
    obtain ⟨order, hf, ht⟩ := h.order
    refine ⟨(l.revision + 1, index, record), ⟨⟨⟨⟨⟨⟨h.id, h.partner⟩, h.ratePositive⟩, h.rateBound⟩,
      h.terms⟩, h.fresh⟩, _, ⟨h.revision, rfl⟩, order, hf, ⟨ht, h.known⟩, _, h.net, _,
      h.amount, index, h.position, ?_⟩, rfl⟩
    rw [← h.tenant, ← h.project, ← h.currency, ← h.digest, ← h.supersedes, ← h.status]
    rfl

/-! ## The machine -/

inductive Transition (enc : OutcomeEncoding) (l : OutcomeLedger) :
    OutcomeCommand → OutcomeReply → OutcomeLedger → Prop
  | ingest (e : OutcomeEvent) (hvalid : e.validate = .ok ()) (hadmissible : l.Admissible e) :
    Transition enc l (.ingest e) .done (l.accept e)
  | attributeRecord (record : AttributionRecord) (hattributable : l.Attributable record) :
    Transition enc l (.attributeRecord record) .done (l.attributed record)
  | calculateCommission (index : Option ℕ) (record : CommissionRecord)
    (hcalculated : l.Calculated enc index record) :
    Transition enc l (.calculateCommission record.id record.orderId record.partnerId
      record.rate record.termsDigest record.calculatedAt) (.calculated record)
      (l.calculated index record)

variable {enc : OutcomeEncoding} {cmd : OutcomeCommand}

lemma transition_of_ok {rp : OutcomeReply} (h : (l.step enc cmd).1 = .ok rp) :
    l.Transition enc cmd rp (l.step enc cmd).2 := by
  unfold step at h ⊢
  cases cmd with
  | ingest e =>
    obtain ⟨⟨⟩, t, he, rfl, ha⟩ := exec_map_ok h
    obtain ⟨hv, hadm, rfl⟩ := ingest_ok.mp he
    exact ha ▸ .ingest e hv hadm
  | attributeRecord record =>
    obtain ⟨⟨⟩, t, he, rfl, ha⟩ := exec_map_ok h
    obtain ⟨hat, rfl⟩ := attributeRecord_ok.mp he
    exact ha ▸ .attributeRecord record hat
  | calculateCommission =>
    obtain ⟨record, t, he, rfl, ha⟩ := exec_map_ok h
    obtain ⟨index, hc, rfl, rfl, rfl, rfl, rfl, rfl, rfl⟩ := calculateCommission_ok.mp he
    exact ha ▸ .calculateCommission index record hc

lemma atomicAt_ingest : AtomicAt (ingest e) l := by
  refine AtomicAt.check_bind fun _ _ => AtomicAt.check_bind fun _ _ => ?_
  refine atomicAt_bind_modify.mpr ?_
  unfold ingestProjection
  split
  · exact AtomicAt.check_bind fun _ _ => atomicAt_modify _ _
  · exact AtomicAt.check_bind fun _ _ => atomicAt_modify _ _
  · exact AtomicAt.of_ok rfl

lemma step_of_error {error : OutcomeLedgerError}
    (h : (l.step enc cmd).1 = .error error) : (l.step enc cmd).2 = l := by
  have ha : AtomicAt (cmd.toCommand enc) l := by
    cases cmd with
    | ingest => exact (atomicAt_map _).mpr atomicAt_ingest
    | attributeRecord =>
      exact (atomicAt_map _).mpr (AtomicAt.check_bind fun _ _ => atomicAt_modify _ _)
    | calculateCommission =>
      refine (atomicAt_map _).mpr (AtomicAt.check_bind fun made _ => ?_)
      exact AtomicAt.bind_pure (atomicAt_modify _ _)
  exact ha error h

end OutcomeLedger

end Hartevo
