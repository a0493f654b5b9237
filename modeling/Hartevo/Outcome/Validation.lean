import Hartevo.Outcome.Conservation

/-!
# What the validation of a ledger accepts

The validation of a ledger is a sequence of checks.  `OutcomeLedger.Valid` says what they accept
together: the ledger is the replay of its events, its revision counts events, attributions and
commissions, and each of these records is in order.  For a commission that is `OutcomeLedger.Sound`:
it was calculated from what was known of its order at its instant, it replaced an earlier one of its
order and partner, and its status agrees with the later refunds.
-/

namespace Hartevo

open List

namespace OutcomeLedger

variable {l : OutcomeLedger} {enc : OutcomeEncoding} {records : List CommissionRecord}
  {touchpoint : Touchpoint} {ra windowStartedAt windowEndedAt : DateTime} {order : OutcomeOrder}
  {tid : TenantId} {pid : ProjectId}

/-! ## Attributions -/

/-- The attribution passes the check of stored ones. -/
def AttributionStored (l : OutcomeLedger) (record : AttributionRecord) : Prop :=
  ∃ order, l.order? record.orderId = some order ∧
    record.validatePersisted l.tenantId l.projectId order = .ok ()

lemma validateAttributions_ok {seen : List AttributionId} {records : List AttributionRecord} :
    l.validateAttributions seen records = .ok () ↔
      (∀ record ∈ records, record.id ∉ seen ∧ l.AttributionStored record) ∧
        (records.map (·.id)).Nodup := by
  induction records generalizing seen with
  | nil => simp [validateAttributions]
  | cons record records ih =>
    unfold validateAttributions
    simp only [bind_ok, exists_const, rejectIf_ok, okOr_ok, ih]
    constructor
    · rintro ⟨hfr, order, hf, ⟨⟩, hv, hr, hids⟩
      have hn : record.id ∉ seen := by simpa using hfr
      refine ⟨fun other ho => ?_, ?_⟩
      · rcases mem_cons.mp ho with rfl | hmem
        · exact ⟨hn, order, hf, hv⟩
        · exact ⟨fun hse => (hr other hmem).1 (mem_cons_of_mem _ hse), (hr other hmem).2⟩
      · rw [map_cons, nodup_cons]
        refine ⟨fun hmem => ?_, hids⟩
        obtain ⟨other, ho, hs⟩ := mem_map.mp hmem
        exact (hr other ho).1 (hs ▸ mem_cons_self)
    · rintro ⟨hall, hids⟩
      rw [map_cons, nodup_cons] at hids
      obtain ⟨hn, order, hf, hv⟩ := hall record mem_cons_self
      refine ⟨by simpa using hn, order, hf, (), hv, fun other ho => ?_, hids.2⟩
      obtain ⟨ho', hst⟩ := hall other (mem_cons_of_mem _ ho)
      refine ⟨fun hmem => ?_, hst⟩
      rcases mem_cons.mp hmem with hs | hse
      · exact hids.1 (hs ▸ mem_map_of_mem ho)
      · exact ho' hse

lemma validateVerification_persisted (h : touchpoint.validateVerification ra true = .ok ()) :
    touchpoint.validateVerification ra false = .ok () := by
  unfold Touchpoint.validateVerification at h ⊢
  generalize touchpoint.sourceVerification = verification at h ⊢
  rcases verification with _ | verification
  · rfl
  · simp only [bind_ok, exists_const, rejectIf_ok, okOr_ok] at h ⊢
    obtain ⟨receivedAt, hr, ⟨⟩, hv, ht, -⟩ := h
    exact ⟨receivedAt, hr, (), hv, ht, Bool.false_and _⟩

lemma validateTouchpoint_persisted {model : AttributionModel}
    (h : validateTouchpoint touchpoint order model windowStartedAt windowEndedAt ra true =
      .ok ()) :
    validateTouchpoint touchpoint order model windowStartedAt windowEndedAt ra false = .ok () := by
  unfold validateTouchpoint at h ⊢
  simp only [bind_ok, exists_const, passed, Bool.true_and, Bool.false_and, Bool.or_false,
    Bool.and_eq_false_iff] at h ⊢
  obtain ⟨hs, -, ⟨⟩, hv, hi, hl⟩ := h
  exact ⟨hs, trivial, (), validateVerification_persisted hv, hi.imp id And.left, hl.imp id And.left⟩

lemma persisted_of_validate_attribution {record : AttributionRecord}
    (h : record.validate tid pid order = .ok ()) :
    record.validatePersisted tid pid order = .ok () := by
  unfold AttributionRecord.validate AttributionRecord.validateShape at h
  unfold AttributionRecord.validatePersisted AttributionRecord.validateShape
  obtain ⟨hs, hm⟩ := check_ok.mp h
  refine check_ok.mpr ⟨hs, ?_⟩
  generalize record.model = model at hm ⊢
  rcases model with _ | _ | _ | _
  case unattributed => exact hm
  all_goals
    simp only [bind_ok, rejectIf_ok, okOr_ok] at hm ⊢
    obtain ⟨touchpoint, ht, ⟨⟩, hv, hi⟩ := hm
    exact ⟨touchpoint, ht, (), validateTouchpoint_persisted hv, hi⟩

/-! ## Commissions -/

/-- The stored commission is the one that would be calculated from what was known at its instant. -/
structure Sound (enc : OutcomeEncoding) (l : OutcomeLedger) (record : CommissionRecord) :
    Prop where
  shape : l.commissionShapeInvalid record = false
  order : ∃ order, l.order? record.orderId = some order ∧ order.occurredAt ≤ record.calculatedAt
  net : l.netOrderAmountAt record.orderId record.calculatedAt = .ok record.eligibleNetAmount
  amount : enc.commissionMinor record.eligibleNetAmount.amountMinor record.rate =
    some record.commissionAmount.amountMinor
  currency : record.commissionAmount.currency = record.eligibleNetAmount.currency
  digest : record.refundSetDigest = l.refundSetDigestAt enc record.orderId record.calculatedAt
  superseded : l.validateSuperseded record = .ok ()
  current : record.status = .current → l.laterRefundExists record = false
  stale : record.status = .recalculationRequired → l.laterRefundExists record = true

lemma validateCommissionRecord_ok {record : CommissionRecord} :
    l.validateCommissionRecord enc record = .ok () ↔ l.Sound enc record := by
  unfold validateCommissionRecord
  simp only [bind_ok, exists_const, passed, okOr_ok]
  constructor
  · rintro ⟨hsh, order, hf, ht, net, hnet, amount, hamt, ⟨⟨rfl, hc⟩, hd⟩, ⟨⟩, hsup, hs⟩
    refine ⟨hsh, ⟨order, hf, ht⟩, hnet, ?_, ?_, hd, hsup, ?_, ?_⟩
    · rw [hc]
      exact hamt
    · rw [hc]
    · intro hcur
      simpa [hcur, rejectIf_ok] using hs
    · intro hst
      simpa [hst, rejectIf_ok] using hs
  · intro h
    obtain ⟨order, hf, ht⟩ := h.order
    refine ⟨h.shape, order, hf, ht, _, h.net, _, h.amount, ⟨⟨rfl, ?_⟩, h.digest⟩, (),
      h.superseded, ?_⟩
    · rw [← h.currency]
    · cases hs : record.status with
      | current => simpa [rejectIf_ok] using h.current hs
      | recalculationRequired => simpa [rejectIf_ok] using h.stale hs
      | superseded => rfl

lemma activeKeys_cons (record : CommissionRecord) (records : List CommissionRecord) :
    activeKeys (record :: records) = if record.isActive then
      (record.orderId, record.partnerId) :: activeKeys records else activeKeys records := by
  unfold activeKeys
  rw [filter_cons]
  split <;> rfl

lemma mem_activeKeys {key : OrderId × PartnerId} : key ∈ activeKeys records ↔
      ∃ record ∈ records, record.isActive = true ∧ (record.orderId, record.partnerId) = key := by
  simp only [activeKeys, mem_map, mem_filter, and_assoc]

lemma validateCommissions_ok {seen : List CommissionId} {active : List (OrderId × PartnerId)} :
    l.validateCommissions enc seen active records = .ok () ↔
      (∀ record ∈ records, record.id ∉ seen ∧ l.Sound enc record ∧
        (record.isActive = true → (record.orderId, record.partnerId) ∉ active)) ∧
      (records.map (·.id)).Nodup ∧ (activeKeys records).Nodup := by
  induction records generalizing seen active with
  | nil => simp [validateCommissions, activeKeys]
  | cons record records ih =>
    unfold validateCommissions
    simp only [bind_ok, exists_const, rejectIf_ok, ih]
    rw [forall_mem_cons, map_cons, nodup_cons, activeKeys_cons]
    by_cases hact : record.isActive = true
    · simp only [hact, Bool.true_and, if_true, nodup_cons, mem_cons, not_or,
        contains_eq_mem, decide_eq_false_iff_not, forall_const]
      constructor
      · rintro ⟨hf, ⟨⟩, hso, hkey, hr, hids, hk⟩
        refine ⟨⟨⟨hf, validateCommissionRecord_ok.mp hso, hkey⟩, fun other ho => ?_⟩,
          ⟨fun hmem => ?_, hids⟩, fun hmem => ?_, hk⟩
        · obtain ⟨⟨-, hno⟩, ho, hn⟩ := hr other ho
          exact ⟨hno, ho, fun h => (hn h).2⟩
        · obtain ⟨other, ho, hs⟩ := mem_map.mp hmem
          exact (hr other ho).1.1 hs
        · obtain ⟨other, ho, hoth, hs⟩ := mem_activeKeys.mp hmem
          exact ((hr other ho).2.2 hoth).1 hs
      · rintro ⟨⟨⟨hf, hso, hkey⟩, hr⟩, ⟨hid, hids⟩, hnew, hk⟩
        refine ⟨hf, (), validateCommissionRecord_ok.mpr hso, hkey, fun other ho => ?_, hids, hk⟩
        obtain ⟨hno, hot, hn⟩ := hr other ho
        refine ⟨⟨fun hs => hid (hs ▸ mem_map_of_mem ho), hno⟩, hot, fun h => ⟨fun hs => ?_, hn h⟩⟩
        exact hnew (mem_activeKeys.mpr ⟨other, ho, h, hs⟩)
    · simp only [Bool.not_eq_true] at hact
      simp only [hact, Bool.false_and, Bool.false_eq_true, if_false, mem_cons, not_or,
        contains_eq_mem, decide_eq_false_iff_not, true_and, false_implies, and_true]
      constructor
      · rintro ⟨hf, ⟨⟩, hso, hr, hids, hk⟩
        refine ⟨⟨⟨hf, validateCommissionRecord_ok.mp hso⟩, fun other ho => ?_⟩,
          ⟨fun hmem => ?_, hids⟩, hk⟩
        · obtain ⟨⟨-, hno⟩, ho, hn⟩ := hr other ho
          exact ⟨hno, ho, hn⟩
        · obtain ⟨other, ho, hs⟩ := mem_map.mp hmem
          exact (hr other ho).1.1 hs
      · rintro ⟨⟨⟨hf, hso⟩, hr⟩, ⟨hid, hids⟩, hk⟩
        refine ⟨hf, (), validateCommissionRecord_ok.mpr hso, fun other ho => ?_, hids, hk⟩
        obtain ⟨hno, hot, hn⟩ := hr other ho
        exact ⟨⟨fun hs => hid (hs ▸ mem_map_of_mem ho), hno⟩, hot, hn⟩

/-! ## Ledgers -/

structure Valid (enc : OutcomeEncoding) (l : OutcomeLedger) : Prop where
  replays : replay l.tenantId l.projectId l.events = .ok l.bare
  count : l.revision = l.events.length + l.attributions.length + l.commissions.length + 1
  bounded : l.revision < 2 ^ 64
  attributionIds : (l.attributions.map (·.id)).Nodup
  attributions : ∀ record ∈ l.attributions, l.AttributionStored record
  commissionIds : (l.commissions.map (·.id)).Nodup
  active : (activeKeys l.commissions).Nodup
  commissions : ∀ record ∈ l.commissions, l.Sound enc record

/-- A replay makes a ledger with nothing but its events. -/
lemma bare_of_replay {evs : List OutcomeEvent} (h : replay tid pid evs = .ok l) : l.bare = l := by
  induction evs using List.reverseRecOn generalizing l with
  | nil =>
    rw [replay_nil, new_ok] at h
    obtain ⟨-, rfl⟩ := h
    rfl
  | append_singleton evs e ih =>
    obtain ⟨prev, hp, -, -, rfl⟩ := replay_concat_ok.mp h
    rw [← bare_accept, ih hp]

/-- The orders and refunds are those of the replay exactly when the replay makes the ledger. -/
lemma replay_eq_bare_iff : (∃ pj, replay l.tenantId l.projectId l.events = .ok pj ∧
      pj.orders = l.orders ∧ pj.refunds = l.refunds) ↔
      replay l.tenantId l.projectId l.events = .ok l.bare := by
  constructor
  · rintro ⟨pj, hr, ho, hre⟩
    obtain ⟨-, he, ht, hp⟩ := projected_of_replay hr
    have hb : pj = l.bare := by
      rw [← bare_of_replay hr]
      unfold bare
      rw [he, ht, hp, ho, hre]
    rw [hr, hb]
  · intro hr
    exact ⟨l.bare, hr, rfl, rfl⟩

lemma validate_ok : l.validate enc = .ok () ↔ l.Valid enc := by
  unfold validate
  simp only [bind_ok, exists_const, passed, okOr_ok, Option.bind_eq_some_iff,
    checkedAdd_eq_some, validateCommissions_ok, not_mem_nil, not_false_eq_true, implies_true,
    true_and, and_true]
  constructor
  · rintro ⟨-, mutations, ⟨count, ⟨-, rfl⟩, -, rfl⟩, _, ⟨hb, rfl⟩, hrev, pj,
      hr, hs, ⟨⟩, hat, hso, hids, hact⟩
    obtain ⟨hst, ha⟩ := validateAttributions_ok.mp hat
    exact ⟨replay_eq_bare_iff.mp ⟨pj, hr, hs⟩, hrev, hrev ▸ hb,
      ha, fun record hrec => (hst record hrec).2, hids, hact, hso⟩
  · intro h
    have hsc : isBlank l.tenantId = false ∧ isBlank l.projectId = false := by
      obtain ⟨start, hsta, -⟩ := bind_ok.mp h.replays
      exact (new_ok.mp hsta).1
    obtain ⟨pj, hr, hs⟩ := replay_eq_bare_iff.mpr h.replays
    have hc := h.count
    have hbo := h.bounded
    refine ⟨hsc, _, ⟨_, ⟨by omega, rfl⟩, by omega, rfl⟩, _, ⟨by omega, rfl⟩, hc, pj,
      hr, hs, (), validateAttributions_ok.mpr ⟨fun record hrec => ?_,
        h.attributionIds⟩, h.commissions, h.commissionIds, h.active⟩
    exact ⟨not_mem_nil, h.attributions record hrec⟩

lemma Kept.valid (h : l.Kept) (hs : ∀ record ∈ l.commissions, l.Sound enc record) :
    l.Valid enc := by
  refine { h with attributions := fun record hrec => ?_, commissions := hs }
  obtain ⟨order, hf, hv⟩ := h.attributions record hrec
  exact ⟨order, hf, persisted_of_validate_attribution hv⟩

end OutcomeLedger

end Hartevo
