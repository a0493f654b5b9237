import Hartevo.Outcome.Validation

/-!
# Normalization of the events

The normalization of a ledger counts its events, orders and refunds and hashes them in an order that
does not depend on their arrival.  Two ledgers that took in the same events in different orders
agree on all of it, except for the number of events that stood in another place.

The order of the events is total because no two of them share an identifier, and orders and refunds
depend on the set of the events only (`OutcomeLedger.Projected`).
-/

namespace Hartevo

open Command List

/-! ## Canonical digests -/

def OutcomeEventKind.name : OutcomeEventKind → String
  | .leadQualified => "lead_qualified"
  | .meetingBooked => "meeting_booked"
  | .opportunityStageChanged => "opportunity_stage_changed"
  | .orderPlaced => "order_placed"
  | .refundIssued => "refund_issued"
  | .commissionAccrued => "commission_accrued"
  | .commissionReversed => "commission_reversed"
  | .payoutCompleted => "payout_completed"

def OutcomeVerificationMethod.name : OutcomeVerificationMethod → String
  | .signedWebhook => "signed_webhook"
  | .independentReadback => "independent_readback"
  | .userConfirmed => "user_confirmed"
  | .internalDerived => "internal_derived"

def hashOutcomeEvent (enc : OutcomeEncoding) (event : OutcomeEvent) : List UInt8 :=
  hashField event.id ++ hashField event.tenantId ++ hashField event.projectId ++
    hashField event.missionId ++ hashField event.kind.name ++ hashField event.provider ++
    hashOptional event.connectionId ++ hashOptional event.accountId ++
    hashField event.sourceEventId ++ hashOptional event.identityLinkId ++
    hashOptional event.opportunityId ++ hashOptional event.campaignId ++
    hashOptional event.orderId ++ hashOptional event.refundId ++ hashOptional event.commissionId ++
    hashOptional event.payoutId ++ hashOptional event.partnerId ++
    (match event.amount with
      | some amount => hashField "some" ++ hashField (toString amount.amountMinor) ++
          hashField amount.currency.code
      | none => hashField "none") ++
    hashField (enc.toRfc3339 event.occurredAt) ++
    hashField (enc.toRfc3339 event.receivedAt) ++ hashField event.evidenceDigest ++
    hashField event.rawPayloadDigest ++
    (match event.sourceVerification with
      | some verification => hashField "some" ++ hashField verification.method.name ++
          hashField verification.verifier ++ hashField (toString verification.independent) ++
          hashField (enc.toRfc3339 verification.verifiedAt) ++
          hashField verification.evidenceDigest
      | none => hashField "none")

def canonicalOutcomeEventDigest (enc : OutcomeEncoding) (events : List OutcomeEvent)
    (eventCount : ℕ) : String :=
  enc.digest (hashField "hartevo-outcome-canonical-events/v1" ++
    hashField (toString eventCount) ++ events.flatMap (hashOutcomeEvent enc))

/-- The bytes that an order adds to a hash. -/
def hashOrder (enc : OutcomeEncoding) (order : OutcomeOrder) : List UInt8 :=
  hashField order.id ++ hashField order.sourceEventId ++
    hashField (toString order.originalAmount.amountMinor) ++
    hashField order.originalAmount.currency.code ++ hashField (enc.toRfc3339 order.occurredAt)

/-- The bytes that a refund adds to a hash. -/
def hashRefund (enc : OutcomeEncoding) (refund : OutcomeRefund) : List UInt8 :=
  hashField refund.id ++ hashField refund.orderId ++ hashField refund.sourceEventId ++
    hashField (toString refund.amount.amountMinor) ++ hashField refund.amount.currency.code ++
    hashField (enc.toRfc3339 refund.occurredAt)

/-- Refunds are sorted by order, and then by identifier. -/
def OutcomeRefund.canonicalKey (refund : OutcomeRefund) : OrderId ×ₗ RefundId :=
  toLex (refund.orderId, refund.id)

def canonicalOrderRefundDigest (enc : OutcomeEncoding) (orders : List OutcomeOrder)
    (refunds : List OutcomeRefund) : String :=
  let canonicalOrders := sortByKey OutcomeOrder.id orders
  let canonicalRefunds := sortByKey OutcomeRefund.canonicalKey refunds
  enc.digest (hashField "hartevo-outcome-order-refund-projection/v1" ++
    hashField (toString canonicalOrders.length) ++ canonicalOrders.flatMap (hashOrder enc) ++
    hashField (toString canonicalRefunds.length) ++ canonicalRefunds.flatMap (hashRefund enc))

/-! ## The projection -/

structure OutcomeNormalizationProjection where
  schemaVersion : ℕ
  tenantId : TenantId
  projectId : ProjectId
  sourceLedgerRevision : ℕ
  eventCount : ℕ
  uniqueEventIdCount : ℕ
  uniqueProviderSourceCount : ℕ
  orderCount : ℕ
  refundCount : ℕ
  observedReorderCount : ℕ
  canonicalEventDigest : String
  orderRefundProjectionDigest : String

def OutcomeNormalizationProjection.digest (enc : OutcomeEncoding)
    (self : OutcomeNormalizationProjection) : String :=
  enc.digest (hashField "hartevo-outcome-normalization/v1" ++
    hashField (toString self.schemaVersion) ++ hashField self.tenantId ++
    hashField self.projectId ++ hashField (toString self.sourceLedgerRevision) ++
    hashField (toString self.eventCount) ++ hashField (toString self.uniqueEventIdCount) ++
    hashField (toString self.uniqueProviderSourceCount) ++ hashField (toString self.orderCount) ++
    hashField (toString self.refundCount) ++ hashField (toString self.observedReorderCount) ++
    hashField self.canonicalEventDigest ++ hashField self.orderRefundProjectionDigest)

/-- Events are sorted by the instants at which they occurred and were received, and then by the
identities of the provider and of the ledger. -/
def OutcomeEvent.canonicalKey (event : OutcomeEvent) :
    DateTime ×ₗ DateTime ×ₗ String ×ₗ String ×ₗ OutcomeEventId :=
  toLex (event.occurredAt, toLex (event.receivedAt, toLex (event.provider,
    toLex (event.sourceEventId, event.id))))

def projectionCount (count : ℕ) : Except OutcomeLedgerError ℕ :=
  okOr (tryFromCount 64 count) .projectionCountOverflow

namespace OutcomeLedger

/-- The number of events that do not stand where they are in the canonical order. -/
def reorderCount (events canonical : List OutcomeEvent) : ℕ :=
  (events.zip canonical).countP fun pair => pair.1.id != pair.2.id

def verifiedNormalizationProjection (enc : OutcomeEncoding) (self : OutcomeLedger) :
    Except OutcomeLedgerError OutcomeNormalizationProjection := do
  self.validate enc
  self.events.forM fun event => event.validate
  let eventCount ← projectionCount self.events.length
  let uniqueEventIdCount ← projectionCount (self.events.map (·.id)).dedup.length
  let uniqueProviderSourceCount ←
    projectionCount
      (self.events.map fun event => (event.provider, event.sourceEventId)).dedup.length
  rejectIf (uniqueEventIdCount != eventCount || uniqueProviderSourceCount != eventCount)
    .duplicateEvent
  let canonicalEvents := sortByKey OutcomeEvent.canonicalKey self.events
  let observedReorderCount ← projectionCount (reorderCount self.events canonicalEvents)
  let orderCount ← projectionCount self.orders.length
  let refundCount ← projectionCount self.refunds.length
  return {
    schemaVersion := 1
    tenantId := self.tenantId
    projectId := self.projectId
    sourceLedgerRevision := self.revision
    eventCount := eventCount
    uniqueEventIdCount := uniqueEventIdCount
    uniqueProviderSourceCount := uniqueProviderSourceCount
    orderCount := orderCount
    refundCount := refundCount
    observedReorderCount := observedReorderCount
    canonicalEventDigest := canonicalOutcomeEventDigest enc canonicalEvents eventCount
    orderRefundProjectionDigest := canonicalOrderRefundDigest enc self.orders self.refunds }

/-- What the normalization makes of a ledger that passes its checks. -/
def normalization (enc : OutcomeEncoding) (l : OutcomeLedger) :
    OutcomeNormalizationProjection where
  schemaVersion := 1
  tenantId := l.tenantId
  projectId := l.projectId
  sourceLedgerRevision := l.revision
  eventCount := l.events.length
  uniqueEventIdCount := l.events.length
  uniqueProviderSourceCount := l.events.length
  orderCount := l.orders.length
  refundCount := l.refunds.length
  observedReorderCount := reorderCount l.events (sortByKey OutcomeEvent.canonicalKey l.events)
  canonicalEventDigest := canonicalOutcomeEventDigest enc
    (sortByKey OutcomeEvent.canonicalKey l.events) l.events.length
  orderRefundProjectionDigest := canonicalOrderRefundDigest enc l.orders l.refunds

variable {l l' : OutcomeLedger} {enc : OutcomeEncoding}

lemma Valid.projected (h : l.Valid enc) : l.Projected :=
  (projected_of_replay h.replays).1.congr rfl rfl rfl

lemma projectionCount_ok {count result : ℕ} :
    projectionCount count = .ok result ↔ count < 2 ^ 64 ∧ count = result := by
  rw [projectionCount, okOr_ok, tryFromCount_eq_some]

lemma verifiedNormalizationProjection_ok {pj : OutcomeNormalizationProjection} :
    l.verifiedNormalizationProjection enc = .ok pj ↔
      l.Valid enc ∧ (∀ e ∈ l.events, e.validate = .ok ()) ∧ pj = l.normalization enc := by
  unfold verifiedNormalizationProjection
  rw [check_ok, check_ok, validate_ok, forM_eq_ok_iff]
  refine and_congr_right fun hv => and_congr_right fun _ => ?_
  have hp := hv.projected
  have hids : (l.events.map (·.id)).dedup.length = l.events.length := by
    rw [hp.eventIds.dedup, length_map]
  have hs : (l.events.map fun ev => (ev.provider, ev.sourceEventId)).dedup.length =
      l.events.length := by
    rw [hp.sources.dedup, length_map]
  have hc : l.events.length < 2 ^ 64 := by
    have hrev := hv.count
    have hb := hv.bounded
    omega
  have ho : l.orders.length ≤ l.events.length := by
    rw [hp.orders]
    exact length_filterMap_le _ _
  have hr : l.refunds.length ≤ l.events.length := by
    rw [hp.refunds]
    exact length_filterMap_le _ _
  have hre : reorderCount l.events (sortByKey OutcomeEvent.canonicalKey l.events) ≤
      l.events.length := by
    refine countP_le_length.trans ?_
    rw [length_zip]
    exact min_le_left _ _
  simp only [hids, hs, bind_ok, projectionCount_ok, exists_const, passed]
  constructor
  · rintro ⟨_, ⟨-, rfl⟩, _, ⟨-, rfl⟩, _, ⟨-, rfl⟩, -, _, ⟨-, rfl⟩, _, ⟨-, rfl⟩, _, ⟨-, rfl⟩, hm⟩
    cases hm
    rfl
  · rintro rfl
    exact ⟨_, ⟨hc, rfl⟩, _, ⟨hc, rfl⟩, _, ⟨hc, rfl⟩, ⟨rfl, rfl⟩, _,
      ⟨hre.trans_lt hc, rfl⟩, _, ⟨ho.trans_lt hc, rfl⟩, _,
      ⟨hr.trans_lt hc, rfl⟩, rfl⟩

/-! ## Ledgers made of events -/

def ingestStep (l : OutcomeLedger) (event : OutcomeEvent) :
    Except OutcomeLedgerError Unit × OutcomeLedger :=
  (ingest event).exec l

lemma ingestStep_cases (l : OutcomeLedger) (e : OutcomeEvent) : (l.ingestStep e).2 = l ∨
      e.validate = .ok () ∧ l.Admissible e ∧ (l.ingestStep e).2 = l.accept e := by
  have ha : AtomicAt (ingest e) l := atomicAt_ingest
  unfold ingestStep
  unfold AtomicAt at ha
  rcases he : (ingest e).exec l with ⟨error | ⟨⟩, after⟩
  · rw [he] at ha
    exact .inl (ha error rfl)
  · exact .inr (ingest_ok.mp he)

structure EventsOnly (l : OutcomeLedger) : Prop where
  kept : l.Kept
  attributions : l.attributions = []
  commissions : l.commissions = []
  tenants : ∀ e ∈ l.events, e.tenantId = l.tenantId ∧ e.projectId = l.projectId

lemma EventsOnly.accept {e : OutcomeEvent} (h : l.EventsOnly) (hv : e.validate = .ok ())
    (hadm : l.Admissible e) : (l.accept e).EventsOnly := by
  refine ⟨h.kept.accept hv hadm, h.attributions, ?_, fun stored hs => ?_⟩
  · rcases commissions_accept l e with hsa | ⟨rf, -, hmap⟩
    · rw [hsa, h.commissions]
    · rw [hmap, h.commissions, map_nil]
  · rcases mem_append.mp hs with hmem | hmem
    · exact h.tenants stored hmem
    · rw [mem_singleton.mp hmem]
      exact ⟨hadm.tenant, hadm.project⟩

lemma EventsOnly.ingestStep (h : l.EventsOnly) (e : OutcomeEvent) :
    (l.ingestStep e).2.EventsOnly := by
  rcases ingestStep_cases l e with hs | ⟨hv, hadm, ha⟩
  · rw [hs]
    exact h
  · rw [ha]
    exact h.accept hv hadm

lemma eventsOnly_run {tid : TenantId} {pid : ProjectId}
    (h : new tid pid = .ok l) (evs : List OutcomeEvent) : (run ingestStep l evs).EventsOnly := by
  have hl : l.EventsOnly := by
    obtain ⟨-, hl⟩ := new_ok.mp h
    refine ⟨kept_of_new h, by rw [hl], by rw [hl], fun e he => ?_⟩
    rw [hl] at he
    exact absurd he not_mem_nil
  exact run_invariant ingestStep (I := EventsOnly)
    (fun t e ht => EventsOnly.ingestStep ht e) hl evs

/-- Events never change the scope of a ledger. -/
lemma scope_run (evs : List OutcomeEvent) : (run ingestStep l evs).tenantId = l.tenantId ∧
      (run ingestStep l evs).projectId = l.projectId := by
  refine run_invariant ingestStep
    (I := fun t => t.tenantId = l.tenantId ∧ t.projectId = l.projectId)
    (fun t e ht => ?_) ⟨rfl, rfl⟩ evs
  rcases ingestStep_cases t e with hs | ⟨-, -, ha⟩
  · rw [hs]
    exact ht
  · rw [ha]
    exact ht

lemma EventsOnly.valid (h : l.EventsOnly) : l.Valid enc := by
  refine h.kept.valid fun record hrec => ?_
  rw [h.commissions] at hrec
  exact absurd hrec not_mem_nil

/-! ## Independence of the order -/

lemma normalization_perm (hprj : l.Projected) (hprj' : l'.Projected)
    (hp : l.events.Perm l'.events) (ht : l.tenantId = l'.tenantId)
    (hpr : l.projectId = l'.projectId) (hrev : l.revision = l'.revision) :
    { l.normalization enc with
      observedReorderCount := (l'.normalization enc).observedReorderCount } =
        l'.normalization enc := by
  have ho : l.orders.Perm l'.orders := by
    rw [hprj.orders, hprj'.orders]
    exact hp.filterMap _
  have hr : l.refunds.Perm l'.refunds := by
    rw [hprj.refunds, hprj'.refunds]
    exact hp.filterMap _
  have he : sortByKey OutcomeEvent.canonicalKey l.events =
      sortByKey OutcomeEvent.canonicalKey l'.events := by
    refine sortByKey_eq_of_perm hp fun a ha b hb hkey => ?_
    simp only [OutcomeEvent.canonicalKey, EmbeddingLike.apply_eq_iff_eq, Prod.mk.injEq] at hkey
    exact inj_on_of_nodup_map hprj.eventIds ha hb hkey.2.2.2.2
  have hd : canonicalOrderRefundDigest enc l.orders l.refunds =
      canonicalOrderRefundDigest enc l'.orders l'.refunds := by
    have hso : sortByKey OutcomeOrder.id l.orders = sortByKey OutcomeOrder.id l'.orders :=
      sortByKey_eq_of_perm ho fun a ha b hb hkey =>
        inj_on_of_nodup_map hprj.orderIds ha hb hkey
    have hs : sortByKey OutcomeRefund.canonicalKey l.refunds =
        sortByKey OutcomeRefund.canonicalKey l'.refunds := by
      refine sortByKey_eq_of_perm hr fun a ha b hb hkey => ?_
      simp only [OutcomeRefund.canonicalKey, EmbeddingLike.apply_eq_iff_eq, Prod.mk.injEq] at hkey
      exact inj_on_of_nodup_map hprj.refundIds ha hb hkey.2
    unfold canonicalOrderRefundDigest
    rw [hso, hs]
  unfold normalization
  rw [he, hd, hp.length_eq, ho.length_eq, hr.length_eq, ht, hpr, hrev]

/-- Two ledgers that took in the same events in different orders have normalizations that agree on
every field except the number of moved events.  Without any event they have to be ledgers of the
same tenant and project. -/
theorem normalization_order_independent (enc : OutcomeEncoding)
    {tenantId tenantId' : TenantId} {projectId projectId' : ProjectId}
    (h : OutcomeLedger.new tenantId projectId = .ok l)
    (h' : OutcomeLedger.new tenantId' projectId' = .ok l') (events events' : List OutcomeEvent)
    (hperm : (run ingestStep l events).events.Perm (run ingestStep l' events').events)
    (hscope : (run ingestStep l events).events ≠ [] ∨
      tenantId = tenantId' ∧ projectId = projectId') :
    ∃ projection projection',
      (run ingestStep l events).verifiedNormalizationProjection enc = .ok projection ∧
      (run ingestStep l' events').verifiedNormalizationProjection enc = .ok projection' ∧
      { projection with observedReorderCount := projection'.observedReorderCount } =
        projection' := by
  have hf := eventsOnly_run h events
  have hs := eventsOnly_run h' events'
  have hsc : (run ingestStep l events).tenantId = (run ingestStep l' events').tenantId ∧
      (run ingestStep l events).projectId = (run ingestStep l' events').projectId := by
    rcases hscope with hne | ⟨rfl, rfl⟩
    · obtain ⟨e, he⟩ := exists_mem_of_ne_nil _ hne
      obtain ⟨ht, hp⟩ := hf.tenants e he
      obtain ⟨ht', hp'⟩ := hs.tenants e (hperm.mem_iff.mp he)
      exact ⟨ht.symm.trans ht', hp.symm.trans hp'⟩
    · rw [(scope_run events).1, (scope_run events).2, (scope_run events').1, (scope_run events').2,
        (new_ok.mp h).2, (new_ok.mp h').2]
      exact ⟨rfl, rfl⟩
  have hr : (run ingestStep l events).revision = (run ingestStep l' events').revision := by
    rw [hf.kept.count, hs.kept.count, hperm.length_eq, hf.attributions,
      hs.attributions, hf.commissions, hs.commissions]
  refine ⟨_, _, verifiedNormalizationProjection_ok.mpr ⟨hf.valid, hf.kept.verified, rfl⟩,
    verifiedNormalizationProjection_ok.mpr ⟨hs.valid, hs.kept.verified, rfl⟩, ?_⟩
  exact normalization_perm hf.kept.projected hs.kept.projected hperm hsc.1 hsc.2 hr

/-- A refund of 30 euros. -/
def firstRefund : OutcomeEvent :=
  .sampleRefund "first" 3000 4

/-- A refund of 20 euros. -/
def secondRefund : OutcomeEvent :=
  .sampleRefund "second" 2000 5

lemma events_of_refunds : (run ingestStep sample [.sampleOrder, firstRefund, secondRefund]).events =
        [.sampleOrder, firstRefund, secondRefund] ∧
      (run ingestStep sample [.sampleOrder, secondRefund, firstRefund]).events =
        [.sampleOrder, secondRefund, firstRefund] := by
  decide +kernel

/-- Two refunds normalise alike in both orders. -/
theorem normalization_order_independent_refunds :
    ∃ projection projection',
      (run ingestStep sample
        [.sampleOrder, firstRefund, secondRefund]).verifiedNormalizationProjection .sample =
          .ok projection ∧
      (run ingestStep sample
        [.sampleOrder, secondRefund, firstRefund]).verifiedNormalizationProjection .sample =
          .ok projection' ∧
      { projection with observedReorderCount := projection'.observedReorderCount } =
        projection' := by
  refine normalization_order_independent .sample new_sample new_sample _ _ ?_ (Or.inr ⟨rfl, rfl⟩)
  rw [events_of_refunds.1, events_of_refunds.2]
  exact List.Perm.cons _ (List.Perm.swap _ _ _)

/-- Two ledgers without events are permutations of each other, whatever their tenants are. -/
theorem normalization_of_empty_ledgers :
    let other : OutcomeLedger := { sample with tenantId := "other" }
    OutcomeLedger.new "tenant" "project" = .ok sample ∧
    OutcomeLedger.new "other" "project" = .ok other ∧
    (run ingestStep sample []).events.Perm (run ingestStep other []).events ∧
    ∃ projection projection', sample.verifiedNormalizationProjection .sample = .ok projection ∧
      other.verifiedNormalizationProjection .sample = .ok projection' ∧
      projection.tenantId ≠ projection'.tenantId := by
  intro other
  have hse : OutcomeLedger.new "other" "project" = .ok other := by decide +kernel
  have hs : sample.EventsOnly := eventsOnly_run new_sample []
  have ho : other.EventsOnly := eventsOnly_run hse []
  refine ⟨new_sample, hse, List.Perm.refl _, sample.normalization .sample,
    other.normalization .sample, ?_, ?_, ?_⟩
  · exact verifiedNormalizationProjection_ok.mpr ⟨hs.valid, hs.kept.verified, rfl⟩
  · exact verifiedNormalizationProjection_ok.mpr ⟨ho.valid, ho.kept.verified, rfl⟩
  · show "tenant" ≠ "other"
    decide

end OutcomeLedger

end Hartevo
