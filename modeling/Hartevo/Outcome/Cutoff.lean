import Hartevo.Outcome.Kpi
import Hartevo.Outcome.PartnerClosure

/-!
# Projections for an earlier instant

The KPIs and the settlement of a Mission are projected for an instant.  Events that are received
later must not change them, although both projections also read parts of the ledger without a cut:
the Missions of all orders, all commissions, and the list of partners.

`OutcomeLedger.ExtendsAfter` says that a ledger differs from another one by events received after
the instant only.  A later refund also changes the status of commissions, which the settlement does
not read.  The Mission of an order that was known before stays the same, because a later order has
another identifier.
-/

namespace Hartevo

open List

variable {β : Type} {id : PartnerId} {next st : SettlementState} {ms : Mission}
  {records records' : List Partner} {missions missions' : BTreeMap OrderId MissionId}
  {oid : OrderId} {events evs' : List OutcomeEvent} {chain chain' : OutcomeIdentityChainProjection}

def CommissionRecord.withoutStatus (record : CommissionRecord) : CommissionRecord :=
  { record with status := .current }

namespace OutcomeLedger

variable {l l' : OutcomeLedger} {e : OutcomeEvent} {T start stop : DateTime}
  {enc : ProjectionEncoding}

/-! ## Later events -/

/-- The second ledger took in more events, all of them received after the instant. -/
structure ExtendsAfter (T : DateTime) (l l' : OutcomeLedger) : Prop where
  tenantId : l'.tenantId = l.tenantId
  projectId : l'.projectId = l.projectId
  events : ∃ later, l'.events = l.events ++ later ∧ ∀ e ∈ later, T < e.receivedAt
  commissions : l'.commissions.map CommissionRecord.withoutStatus =
    l.commissions.map CommissionRecord.withoutStatus

lemma extendsAfter_accept (hl : T < e.receivedAt) : ExtendsAfter T l (l.accept e) where
  tenantId := rfl
  projectId := rfl
  events := ⟨[e], rfl, by simpa using hl⟩
  commissions := map_commissions_accept CommissionRecord.withoutStatus fun _ _ => rfl

lemma ExtendsAfter.filter_events {p : OutcomeEvent → Bool} (h : ExtendsAfter T l l')
    (hp : ∀ e, p e = true → e.receivedAt ≤ T) : l'.events.filter p = l.events.filter p := by
  obtain ⟨later, hev, hl⟩ := h.events
  have hn : later.filter p = [] := by
    refine filter_eq_nil_iff.mpr fun e he hpe => ?_
    exact absurd (hl e he) (not_lt.mpr (hp e hpe))
  rw [hev, filter_append, hn, append_nil]

lemma ExtendsAfter.filterMap_events {α : Type*} {g : OutcomeEvent → Option α}
    (h : ExtendsAfter T l l')
    (hg : ∀ e, T < e.receivedAt → g e = none) : l'.events.filterMap g = l.events.filterMap g := by
  obtain ⟨later, hev, hl⟩ := h.events
  have hn : later.filterMap g = [] := filterMap_eq_nil_iff.mpr fun e he => hg e (hl e he)
  rw [hev, filterMap_append, hn, append_nil]

lemma receivedAt_of_isKnownAt (h : e.isKnownAt T = true) : e.receivedAt ≤ T := by
  unfold OutcomeEvent.isKnownAt at h
  simp only [Bool.and_eq_true, decide_eq_true_eq] at h
  exact h.1

lemma isKnownAt_of_late (h : T < e.receivedAt) : e.isKnownAt T = false := by
  refine Bool.eq_false_iff.mpr fun hk => ?_
  exact absurd h (not_lt.mpr (receivedAt_of_isKnownAt hk))

lemma ExtendsAfter.references (h : ExtendsAfter T l l') (hid : l.References id) :
    l'.References id := by
  obtain ⟨later, hev, -⟩ := h.events
  rcases hid with ⟨e, he, hp⟩ | hc
  · exact .inl ⟨e, hev ▸ mem_append_left _ he, hp⟩
  · have hids := congrArg (List.map CommissionRecord.partnerId) h.commissions
    rw [map_map, map_map] at hids
    have hmem : id ∈ l'.commissions.map (·.partnerId) := by
      have hs : l'.commissions.map (·.partnerId) = l.commissions.map (·.partnerId) := hids
      rw [hs]
      exact mem_map.mpr hc
    exact .inr (mem_map.mp hmem)

/-! ## Orders and refunds -/

lemma ExtendsAfter.addSourceOrder (h : ExtendsAfter T l l') (hl : l.Projected)
    (hl' : l'.Projected) {orders next : SourceOrders}
    (hadd : l.addSourceOrder orders e = .ok next) : l'.addSourceOrder orders e = .ok next := by
  obtain ⟨later, he, -⟩ := h.events
  have ho : l'.orders = l.orders ++ later.filterMap OutcomeEvent.order := by
    rw [hl'.orders, hl.orders, he, filterMap_append]
  unfold OutcomeLedger.addSourceOrder at hadd ⊢
  simp only [bind_ok, okOr_ok] at hadd ⊢
  obtain ⟨oid, hid, order, hf, hr⟩ := hadd
  refine ⟨oid, hid, order, ?_, hr⟩
  rw [ho, find?_append, hf]
  rfl

/-- The orders of a Mission at the instant are still the same. -/
lemma ExtendsAfter.sourceMissionOrders {result : DateTime × DateTime × SourceOrders}
    (h : ExtendsAfter T l l') (hl : l.Projected)
    (hl' : l'.Projected) (hr : l.sourceMissionOrders ms T = .ok result) :
    l'.sourceMissionOrders ms T = .ok result := by
  unfold OutcomeLedger.sourceMissionOrders at hr ⊢
  rw [h.tenantId, h.projectId]
  simp only [bind_ok] at hr ⊢
  obtain ⟨⟨⟩, hs, ⟨⟩, hcon, ⟨⟩, hw, orders, ho, hre⟩ := hr
  refine ⟨(), hs, (), hcon, (), hw, orders, ?_, hre⟩
  rw [h.filter_events fun e he => ?_]
  · exact foldlM_transfer (fun _ _ _ _ hstep => h.addSourceOrder hl hl' hstep) ho
  · unfold isSourceOrder at he
    simp only [Bool.and_eq_true] at he
    exact receivedAt_of_isKnownAt he.2

def scopedRefund (orderId : OrderId) (observedAt : DateTime) (e : OutcomeEvent) :
    Option (OutcomeRefund × OutcomeEvent) :=
  if e.isKnownAt observedAt then
    (e.refund.filter fun refund => refund.orderId == orderId).map fun refund => (refund, e)
  else none

lemma Projected.settlementRefunds_eq (h : l.Projected) (oid : OrderId) (oa : DateTime) :
    (l.refunds.filterMap fun rf =>
      if rf.orderId != oid then none
      else ((l.events.find? fun ev => ev.id == rf.sourceEventId).filter
        fun ev => ev.isKnownAt oa).map fun ev => (rf, ev)) =
      l.events.filterMap (scopedRefund oid oa) := by
  rw [h.refunds, filterMap_filterMap]
  refine filterMap_congr fun e he => ?_
  rcases hr : e.refund with _ | rf
  · simp [scopedRefund, hr]
  · have hsrc : rf.sourceEventId = e.id := (OutcomeEvent.refund_eq_some.mp hr).2.2.2.2.1
    have hf : (l.events.find? fun ev => ev.id == rf.sourceEventId) = some e := by
      rw [hsrc]
      exact find?_key_of_mem h.eventIds he
    rw [Option.bind_some, hf]
    by_cases hk : e.isKnownAt oa = true
    · by_cases ho : rf.orderId = oid
      · simp [scopedRefund, Option.filter_some, hr, hk, ho]
      · simp [scopedRefund, Option.filter_some, hr, hk, ho]
    · simp [scopedRefund, Option.filter_some, hk]

lemma ExtendsAfter.settlementRefunds (h : ExtendsAfter T l l') (hl : l.Projected)
    (hl' : l'.Projected) (oid : OrderId) :
    l'.settlementRefunds oid T = l.settlementRefunds oid T := by
  unfold OutcomeLedger.settlementRefunds
  rw [hl.settlementRefunds_eq, hl'.settlementRefunds_eq, h.filterMap_events fun e he => ?_]
  unfold scopedRefund
  rw [isKnownAt_of_late he]
  rfl

lemma ExtendsAfter.viewOrders (h : ExtendsAfter T l l') (hl : l.Projected) (hl' : l'.Projected)
    (sos : SourceOrders) : l'.viewOrders sos T = l.viewOrders sos T := by
  unfold OutcomeLedger.viewOrders
  simp only [h.settlementRefunds hl hl']

lemma ExtendsAfter.refundSetDigestAt (h : ExtendsAfter T l l') (hl : l.Projected)
    (hl' : l'.Projected) (outcomeEncoding : OutcomeEncoding) (oid : OrderId) :
    l'.refundSetDigestAt outcomeEncoding oid T = l.refundSetDigestAt outcomeEncoding oid T := by
  unfold OutcomeLedger.refundSetDigestAt
  rw [hl.refundsKnownAt_eq, hl'.refundsKnownAt_eq, h.filterMap_events fun e he => ?_]
  exact knownRefund_eq_none fun _ _ _ => he

/-! ## Commissions -/

lemma ExtendsAfter.latestCalculated (h : ExtendsAfter T l l') (sos : SourceOrders) :
    (l'.latestCalculated sos T).map (fun _ => CommissionRecord.withoutStatus) =
      (l.latestCalculated sos T).map fun _ => CommissionRecord.withoutStatus := by
  unfold OutcomeLedger.latestCalculated
  rw [← latestBy_map (f := CommissionRecord.withoutStatus) (fun _ => rfl) fun _ _ => rfl,
    ← latestBy_map (f := CommissionRecord.withoutStatus) (fun _ => rfl) fun _ _ => rfl]
  have hf (commissions : List CommissionRecord) :
      (commissions.filter fun record => sos.contains record.orderId &&
        decide (record.calculatedAt ≤ T)).map CommissionRecord.withoutStatus =
      (commissions.map CommissionRecord.withoutStatus).filter fun record =>
        sos.contains record.orderId && decide (record.calculatedAt ≤ T) := by
    rw [filter_map]
    rfl
  rw [hf, hf, h.commissions]

lemma foldlM_toList_map {K V ε : Type} [Ord K] [Std.TransOrd K] [Std.LawfulEqOrd K]
    {step : β → K × V → Except ε β} {f : V → V} (hstep : ∀ b k v, step b (k, f v) = step b (k, v))
    (m : BTreeMap K V) (b : β) :
    (m.map fun _ => f).toList.foldlM step b = m.toList.foldlM step b := by
  rw [Std.ExtTreeMap.toList_map, foldlM_map]
  exact foldlM_congr (fun entry _ b => hstep b entry.1 entry.2) b

/-- In both tables a partner has the same supply class, and all partners of the first are in the
second. -/
def SameSupply (partners partners' : BTreeMap PartnerId Partner) : Prop :=
  ∀ (id : PartnerId) partner, partners[id]? = some partner →
    ∃ partner', partners'[id]? = some partner' ∧ partner'.supplyClass = partner.supplyClass

variable {partners partners' : BTreeMap PartnerId Partner}

lemma ExtendsAfter.accumulateCalculated {outcomeEncoding : OutcomeEncoding}
    {entry : Lex (OrderId × PartnerId) × CommissionRecord} (h : ExtendsAfter T l l')
    (hl : l.Projected) (hl' : l'.Projected) (hs : SameSupply partners partners')
    (hstep : l.accumulateCalculated outcomeEncoding partners T st entry = .ok next) :
    l'.accumulateCalculated outcomeEncoding partners' T st entry = .ok next := by
  simp only [OutcomeLedger.accumulateCalculated, h.refundSetDigestAt hl hl', bind_ok,
    okOr_ok] at hstep ⊢
  obtain ⟨pt, hf, hr⟩ := hstep
  obtain ⟨pt', hf', hsa⟩ := hs _ pt hf
  refine ⟨pt', hf', ?_⟩
  rw [hsa]
  exact hr

lemma SameSupply.accumulateNetworkEvent {sos : SourceOrders} (h : SameSupply partners partners')
    {cms next : BTreeMap CommissionId NetworkCommissionAccumulator}
    (hstep : accumulateNetworkEvent partners sos cms e = .ok next) :
    accumulateNetworkEvent partners' sos cms e = .ok next := by
  unfold OutcomeLedger.accumulateNetworkEvent at hstep ⊢
  simp only [bind_ok, okOr_ok] at hstep ⊢
  obtain ⟨oid, ho, pid, hp, commissionId, hc, amount, hamt, pt, hf, hr⟩ := hstep
  obtain ⟨pt', hf', hs⟩ := h pid pt hf
  refine ⟨oid, ho, pid, hp, commissionId, hc, amount, hamt, pt', hf', ?_⟩
  rw [hs]
  exact hr

lemma SameSupply.settleNetworkCommission {cm : NetworkCommissionAccumulator}
    (h : SameSupply partners partners')
    (hstep : settleNetworkCommission partners st cm = .ok next) :
    settleNetworkCommission partners' st cm = .ok next := by
  unfold OutcomeLedger.settleNetworkCommission at hstep ⊢
  simp only [bind_ok, okOr_ok] at hstep ⊢
  obtain ⟨accrued, ha, net, hnet, ⟨⟩, hp, pt, hf, hr⟩ := hstep
  obtain ⟨pt', hf', hs⟩ := h cm.partnerId pt hf
  refine ⟨accrued, ha, net, hnet, (), hp, pt', hf', ?_⟩
  rw [hs]
  exact hr

lemma mem_of_foldlM_addPartner {pt : Partner} (h : records.foldlM l.addPartner ∅ = .ok partners)
    (hf : partners[id]? = some pt) : pt ∈ records ∧ pt.id = id := by
  refine foldlM_invariant (fun index : BTreeMap PartnerId Partner =>
    ∀ (id : PartnerId) pt, index[id]? = some pt → pt ∈ records ∧ pt.id = id)
    (fun added ha before after hb hstep => ?_) (fun id pt he => ?_) h id pt
    hf
  · obtain ⟨-, -, rfl⟩ := addPartner_ok.mp hstep
    intro id pt hf
    rw [Std.ExtTreeMap.getElem?_insert_iff] at hf
    split at hf
    · next hid =>
      cases hf
      exact ⟨ha, hid⟩
    · exact hb id pt hf
  · simp at he

lemma ExtendsAfter.sameSupply (h : ExtendsAfter T l l')
    (hs : ∀ p ∈ records, ∀ p' ∈ records', p.id = p'.id → p.supplyClass = p'.supplyClass)
    (hp : l.settlementPartners records = .ok partners)
    (hp' : l'.settlementPartners records' = .ok partners') : SameSupply partners partners' := by
  obtain ⟨hfo, hc⟩ := settlementPartners_ok.mp hp
  obtain ⟨hfo', hc'⟩ := settlementPartners_ok.mp hp'
  intro id pt hf
  have hmem : id ∈ partners := Std.ExtTreeMap.mem_iff_isSome_getElem?.mpr (by rw [hf]; rfl)
  have hmem' : id ∈ partners' := (hc' id).mpr (h.references ((hc id).mp hmem))
  obtain ⟨pt', hf'⟩ := Option.isSome_iff_exists.mp (Std.ExtTreeMap.mem_iff_isSome_getElem?.mp hmem')
  obtain ⟨hrec, hid⟩ := mem_of_foldlM_addPartner hfo hf
  obtain ⟨hrec', hid'⟩ := mem_of_foldlM_addPartner hfo' hf'
  refine ⟨pt', hf', (hs pt hrec pt' hrec' ?_).symm⟩
  rw [hid, hid']

/-! ## Events of networks and payouts -/

lemma ExtendsAfter.networkEvents (h : ExtendsAfter T l l') (sos : SourceOrders) :
    l'.networkEvents sos T = l.networkEvents sos T := by
  unfold OutcomeLedger.networkEvents
  rw [h.filter_events fun e he => ?_]
  simp only [Bool.and_eq_true] at he
  exact receivedAt_of_isKnownAt he.2

lemma ExtendsAfter.payoutEvents (h : ExtendsAfter T l l') (ms : Mission) :
    l'.payoutEvents ms T = l.payoutEvents ms T := by
  unfold OutcomeLedger.payoutEvents
  rw [h.filter_events fun e he => ?_]
  simp only [Bool.and_eq_true] at he
  exact receivedAt_of_isKnownAt he.2

/-! ## Missions of the orders -/

lemma addOrderMission_ok {next : BTreeMap OrderId MissionId} :
    addOrderMission missions e = .ok next ↔
      ∃ oid, e.orderId = some oid ∧ next = missions.insert oid e.missionId := by
  rw [addOrderMission, bind_ok]
  simp only [okOr_ok]
  refine exists_congr fun oid => and_congr_right fun _ => ?_
  exact ⟨fun hm => by cases hm; rfl, fun hm => by rw [hm]; rfl⟩

lemma mem_orderMissions (h : l.orderMissions = .ok missions) (hmem : oid ∈ missions) :
    ∃ e ∈ l.events, e.kind = .orderPlaced ∧ e.orderId = some oid := by
  refine foldlM_invariant (fun missions : BTreeMap OrderId MissionId => ∀ oid ∈ missions,
    ∃ e ∈ l.events, e.kind = .orderPlaced ∧ e.orderId = some oid)
    (fun e he before after hb hstep => ?_) (fun oid hem => ?_) h oid hmem
  · obtain ⟨placed, hp, rfl⟩ := addOrderMission_ok.mp hstep
    intro oid hin
    rw [Std.ExtTreeMap.mem_insert, Std.LawfulEqCmp.compare_eq_iff_eq] at hin
    rcases hin with rfl | hold
    · rw [mem_filter, beq_iff_eq] at he
      exact ⟨e, he.1, he.2, hp⟩
    · exact hb oid hold
  · simp at hem

lemma getElem?_of_foldlM_addOrderMission {next : BTreeMap OrderId MissionId}
    (h : events.foldlM addOrderMission missions = .ok next)
    (ho : ∀ e ∈ events, e.orderId ≠ some oid) : next[oid]? = missions[oid]? := by
  refine foldlM_invariant (fun current : BTreeMap OrderId MissionId =>
    current[oid]? = missions[oid]?) (fun e he before after hb hstep => ?_) rfl h
  obtain ⟨placed, hp, rfl⟩ := addOrderMission_ok.mp hstep
  have hne : placed ≠ oid := by
    rintro rfl
    exact ho e he hp
  rw [Std.ExtTreeMap.getElem?_insert_ne _ _ hne, hb]

lemma Projected.order_of_kind (h : l.Projected) (he : e ∈ l.events)
    (hk : e.kind = .orderPlaced) (hid : e.orderId = some oid) :
    ∃ order, e.order = some order ∧ order.id = oid := by
  obtain ⟨-, hs⟩ := check_ok.mp (h.envelopes e he)
  simp only [passed, OutcomeEvent.shapeValid, hk, Bool.and_eq_true] at hs
  rcases hamt : e.amount with _ | amount
  · rw [hamt] at hs
    cases hs.2
  · exact ⟨⟨oid, e.id, amount, e.occurredAt⟩,
      OutcomeEvent.order_eq_some.mpr ⟨hk, hid, hamt, rfl, rfl⟩, rfl⟩

lemma ExtendsAfter.orderMissions (h : ExtendsAfter T l l') (hl : l.Projected)
    (hl' : l'.Projected) (hm : l.orderMissions = .ok missions)
    (hm' : l'.orderMissions = .ok missions')
    (hmem : oid ∈ missions) : missions'[oid]? = missions[oid]? := by
  obtain ⟨later, hev, -⟩ := h.events
  obtain ⟨placed, hp, hk, hid⟩ := mem_orderMissions hm hmem
  unfold OutcomeLedger.orderMissions at hm hm'
  rw [hev, filter_append, foldlM_append, hm] at hm'
  refine getElem?_of_foldlM_addOrderMission hm' fun e he hs => ?_
  rw [mem_filter, beq_iff_eq] at he
  -- Otherwise the same order would be placed before and after, against the distinct identifiers.
  have hin : e ∈ l'.events := hev ▸ mem_append_right _ he.1
  obtain ⟨order, hor, ho⟩ := hl.order_of_kind hp hk hid
  obtain ⟨order', hor', ho'⟩ := hl'.order_of_kind hin he.2 hs
  have hd := hl'.orderIds
  rw [hl'.orders, hev, filterMap_append, map_append, nodup_append] at hd
  refine hd.2.2 oid ?_ oid ?_ rfl
  · exact mem_map.mpr ⟨order, mem_filterMap.mpr ⟨placed, hp, hor⟩, ho⟩
  · exact mem_map.mpr ⟨order', mem_filterMap.mpr ⟨e, he.1, hor'⟩, ho'⟩

/-- The events of a Mission at the instant are still the same. -/
lemma ExtendsAfter.scopedEvents (h : ExtendsAfter T l l') (hl : l.Projected)
    (hl' : l'.Projected) (hev : l.scopedEvents ms start stop T = .ok events)
    (hev' : l'.scopedEvents ms start stop T = .ok evs') : evs' = events := by
  unfold OutcomeLedger.scopedEvents at hev hev'
  simp only [bind_ok, rejectIf_ok, exists_const] at hev hev'
  obtain ⟨missions, hm, ⟨⟩, hfo, -, hma⟩ := hev
  obtain ⟨missions', hm', ⟨⟩, -, -, hma'⟩ := hev'
  have hk := forM_eq_ok_iff.mp hfo
  have how : ∀ e ∈ l.events, owningMission missions' e = owningMission missions e := by
    intro e he
    unfold owningMission
    split
    · next hf =>
      rcases ho : e.orderId with _ | oid
      · rfl
      · have hin := hk e he
        rw [rejectIf_ok, hf, ho, Bool.true_and, Option.all_some, Bool.not_eq_false',
          Std.ExtTreeMap.contains_iff_mem] at hin
        rw [Option.bind_some, Option.bind_some, h.orderMissions hl hl' hm hm' hin]
    · rfl
  have hfi := h.filter_events (p := fun ev =>
    owningMission missions' ev == ms.id && decide (start ≤ ev.occurredAt) &&
      decide (ev.occurredAt ≤ stop) && ev.isKnownAt T) fun e he => ?_
  · cases hma
    cases hma'
    rw [hfi]
    refine congrArg _ (filter_congr fun e he => ?_)
    rw [how e he]
  · simp only [Bool.and_eq_true] at he
    exact receivedAt_of_isKnownAt he.2

/-! ## The projections -/

lemma ExtendsAfter.kpi (h : ExtendsAfter T l l') {kpi kpi' : MissionKpiProjection}
    (hkpi : l.verifiedMissionKpiProjection enc ms chain T = .ok kpi)
    (hkpi' : l'.verifiedMissionKpiProjection enc ms chain' T = .ok kpi') :
    { kpi with
      sourceLedgerRevision := kpi'.sourceLedgerRevision
      normalizationDigest := kpi'.normalizationDigest
      identityChainDigest := kpi'.identityChainDigest } = kpi' := by
  simp only [verifiedMissionKpiProjection, bind_ok, rejectIf_ok, exists_const,
    verifiedNormalizationProjection_ok] at hkpi hkpi'
  obtain ⟨_, ⟨hv, -, rfl⟩, -, -, ⟨⟩, -, -, events, he, count, hc, ⟨measured, met⟩,
    hm, size, hs, hma⟩ := hkpi
  obtain ⟨_, ⟨hv', -, rfl⟩, -, -, ⟨⟩, -, -, events', he', count', hc',
    ⟨measured', met'⟩, hm', size', hs', hma'⟩ := hkpi'
  obtain rfl := h.scopedEvents hv.projected hv'.projected he he'
  cases hc.symm.trans hc'
  cases hm.symm.trans hm'
  cases hs.symm.trans hs'
  cases hma
  cases hma'
  rw [h.tenantId, h.projectId]

/-- The settlement at the instant is the same but for the names of the ledger and the partners that
it is made from, and the digest of the commissions with their status. -/
lemma ExtendsAfter.settlement (h : ExtendsAfter T l l')
    (hsu : ∀ p ∈ records, ∀ p' ∈ records', p.id = p'.id → p.supplyClass = p'.supplyClass)
    {sett sett' : OutcomeSettlementProjection}
    (hs : l.verifiedSettlementProjection enc ms chain records T = .ok sett)
    (hs' : l'.verifiedSettlementProjection enc ms chain' records' T = .ok sett') :
    { sett with
      sourceLedgerRevision := sett'.sourceLedgerRevision
      normalizationDigest := sett'.normalizationDigest
      identityChainDigest := sett'.identityChainDigest
      commissionSourceDigest := sett'.commissionSourceDigest
      partnerPolicyDigest := sett'.partnerPolicyDigest } = sett' := by
  simp only [verifiedSettlementProjection, bind_ok, rejectIf_ok, exists_const,
    Except.mapError_ok, verifiedNormalizationProjection_ok, length_sortByKey] at hs hs'
  obtain ⟨_, ⟨hva, -, rfl⟩, -, ⟨start, stop, orders⟩, hor, index, hi, count, -, -, viewed,
    hv, calculated, hcal, network, hnet, settled, hne, ⟨paid, groups⟩,
    hpa, closed, hcl, orderCount, ho, refundCount, hr, calculatedCount,
    hc, networkCount, hn, payoutCount, hp, groupCount, hg,
    hm⟩ := hs
  obtain ⟨_, ⟨hva', -, rfl⟩, -, ⟨start', stop', orders'⟩, hor', index', hi', count', -, -,
    viewed', hv', calculated', hcal', network', hnet', settled', hne',
    ⟨paid', groups'⟩, hpa', closed', hcl', orderCount', ho', refundCount',
    hr', calculatedCount', hc', networkCount', hn', payoutCount',
    hp', groupCount', hg', hm'⟩ := hs'
  have hl := hva.projected
  have hl' := hva'.projected
  have hsa := h.sameSupply hsu hi hi'
  cases (h.sourceMissionOrders hl hl' hor).symm.trans hor'
  cases hv.symm.trans ((h.viewOrders hl hl' orders).symm.trans hv')
  have hla := h.latestCalculated orders
  have hst (ledger : OutcomeLedger) (ps : BTreeMap PartnerId Partner)
      (st : SettlementState) :
      ((ledger.latestCalculated orders T).map fun _ =>
        CommissionRecord.withoutStatus).toList.foldlM
          (l'.accumulateCalculated enc.toOutcomeEncoding ps T) st =
        (ledger.latestCalculated orders T).toList.foldlM
          (l'.accumulateCalculated enc.toOutcomeEncoding ps T) st :=
    foldlM_toList_map (f := CommissionRecord.withoutStatus) (fun _ _ _ => rfl) _ st
  have hca := foldlM_transfer (fun _ _ _ _ hstep => h.accumulateCalculated hl hl' hsa hstep) hcal
  rw [← hst, ← hla, hst, hcal'] at hca
  cases hca
  rw [h.networkEvents] at hnet' hn'
  cases (foldlM_transfer (fun _ _ _ _ hstep => hsa.accumulateNetworkEvent hstep)
    hnet).symm.trans hnet'
  cases (foldlM_transfer (fun _ _ _ _ hstep => hsa.settleNetworkCommission hstep)
    hne).symm.trans hne'
  rw [h.payoutEvents] at hpa' hp'
  cases hpa.symm.trans hpa'
  cases hcl.symm.trans hcl'
  have hle : (l'.latestCalculated orders T).vals.length =
      (l.latestCalculated orders T).vals.length := by
    have hli := congrArg (fun m => m.toList.length) hla
    simpa [Std.ExtTreeMap.toList_map, Std.ExtTreeMap.vals] using hli
  rw [hle] at hc'
  cases ho.symm.trans ho'
  cases hr.symm.trans hr'
  cases hc.symm.trans hc'
  cases hn.symm.trans hn'
  cases hp.symm.trans hp'
  cases hg.symm.trans hg'
  cases hm
  cases hm'
  rw [h.tenantId, h.projectId, h.payoutEvents]

/-- An event that is received after an instant changes neither the KPIs nor the settlement of any
Mission at that instant: they differ in the names of the ledger that they are made from only, and
the settlement also in the digests of the partners and of the commissions with their status.

The two settlements are made with the partners of their own ledgers.  The supply class of a partner
is fixed, and is the same in both lists. -/
theorem projections_of_later_event (enc : ProjectionEncoding) {l l' : OutcomeLedger}
    {e : OutcomeEvent} {T : DateTime} (hingest : (ingest e).exec l = (.ok (), l'))
    (hlate : T < e.receivedAt) (mission : Mission) (chain chain' : OutcomeIdentityChainProjection) :
    (∀ kpi kpi', l.verifiedMissionKpiProjection enc mission chain T = .ok kpi →
      l'.verifiedMissionKpiProjection enc mission chain' T = .ok kpi' →
      { kpi with
        sourceLedgerRevision := kpi'.sourceLedgerRevision
        normalizationDigest := kpi'.normalizationDigest
        identityChainDigest := kpi'.identityChainDigest } = kpi') ∧
    ∀ partners partners' settlement settlement',
      (∀ p ∈ partners, ∀ p' ∈ partners', p.id = p'.id → p.supplyClass = p'.supplyClass) →
      l.verifiedSettlementProjection enc mission chain partners T = .ok settlement →
      l'.verifiedSettlementProjection enc mission chain' partners' T = .ok settlement' →
      { settlement with
        sourceLedgerRevision := settlement'.sourceLedgerRevision
        normalizationDigest := settlement'.normalizationDigest
        identityChainDigest := settlement'.identityChainDigest
        commissionSourceDigest := settlement'.commissionSourceDigest
        partnerPolicyDigest := settlement'.partnerPolicyDigest } = settlement' := by
  obtain ⟨-, -, rfl⟩ := ingest_ok.mp hingest
  have he : ExtendsAfter T l (l.accept e) := extendsAfter_accept hlate
  refine ⟨fun kpi kpi' hkpi hkpi' => he.kpi hkpi hkpi', ?_⟩
  intro partners partners' settlement settlement' hsu hs hs'
  exact he.settlement hsu hs hs'

/-- The sample Mission with one KPI, on its revenue. -/
def revenueMission : Mission :=
  { Mission.sample with contract := { OperatingContract.sample with
      kpis := (∅ : BTreeMap String KpiContract).insert "net_revenue_minor"
        ⟨none, ⟨5000, 0⟩, "minor_units:EUR", .atLeast⟩ } }

/-- A refund that is received and verified after two hundred nanoseconds. -/
def lateRefund : OutcomeEvent :=
  { OutcomeEvent.sampleRefund "late" 3000 300 with
    sourceVerification := some ⟨.signedWebhook, "verifier", true, 300, lowerHex 0⟩ }

/-- Both projections of a ledger at an instant, with the identity chain of its support records. -/
def projectionsAt (l : OutcomeLedger) (observedAt : DateTime) :
    Except OutcomeLedgerError (OutcomeIdentityChainProjection × MissionKpiProjection ×
      OutcomeSettlementProjection) := do
  let chain ← l.verifiedIdentityChainProjection .sample partnerSupport
  let kpi ← l.verifiedMissionKpiProjection .sample revenueMission chain observedAt
  let settlement ← l.verifiedSettlementProjection .sample revenueMission chain
    partnerSupport.partners observedAt
  return (chain, kpi, settlement)

/-- The late refund leaves the projections at 200 as they were. -/
theorem projections_of_later_event_lateRefund :
    ∃ l' chain chain' kpi kpi' settlement settlement',
      (ingest lateRefund).exec commissionedLedger = (.ok (), l') ∧
      projectionsAt commissionedLedger 200 = .ok (chain, kpi, settlement) ∧
      projectionsAt l' 200 = .ok (chain', kpi', settlement') ∧
      kpi.measurements = kpi'.measurements ∧ settlement.orders = settlement'.orders ∧
      settlement.settlements = settlement'.settlements := by
  have hrun : ((ingest lateRefund).exec commissionedLedger).1 = .ok () ∧
      (projectionsAt commissionedLedger 200).isOk = true ∧
      (projectionsAt ((ingest lateRefund).exec commissionedLedger).2 200).isOk = true := by
    decide +kernel
  have hl : (200 : DateTime) < lateRefund.receivedAt := by decide
  obtain ⟨hok, hf, hsec⟩ := hrun
  rcases he : (ingest lateRefund).exec commissionedLedger with ⟨_, l'⟩
  rw [he] at hok hsec
  cases hok
  rcases hp : projectionsAt commissionedLedger 200 with error | ⟨chain, kpi, settlement⟩
  · rw [hp] at hf
    cases hf
  rcases hp' : projectionsAt l' 200 with error | ⟨chain', kpi', settlement'⟩
  · rw [hp'] at hsec
    cases hsec
  have hpa := hp
  have hpa' := hp'
  simp only [projectionsAt, bind_ok] at hpa hpa'
  obtain ⟨_, -, _, hkpi, _, hse, hm⟩ := hpa
  obtain ⟨_, -, _, hkpi', _, hse', hm'⟩ := hpa'
  cases hm
  cases hm'
  obtain ⟨hsam, hsa⟩ :=
    projections_of_later_event .sample he hl revenueMission chain chain'
  have hsu : ∀ p ∈ partnerSupport.partners, ∀ p' ∈ partnerSupport.partners,
      p.id = p'.id → p.supplyClass = p'.supplyClass := by
    decide
  have hk := hsam kpi kpi' hkpi hkpi'
  have hs := hsa _ _ settlement settlement' hsu hse hse'
  refine ⟨l', chain, chain', kpi, kpi', settlement, settlement', rfl, rfl, hp', ?_, ?_, ?_⟩
  · rw [← hk]
  · rw [← hs]
  · rw [← hs]

end OutcomeLedger

end Hartevo
