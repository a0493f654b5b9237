import Hartevo.Outcome.Normalization

/-!
# Ledgers that are validated again

A stored commission is validated against what was known at its own instant, while its status is kept
in the order in which commands arrive.  The two views agree as long as the instants do not run back:
a refund is received after every commission on its order was calculated, and a commission is not
calculated before the one that it replaces (`OutcomeLedger.Timely`).

Under that condition, and only then, a command leaves a ledger that is validated.
-/

namespace Hartevo

open Command List

namespace OutcomeLedger

variable {l l' : OutcomeLedger} {e : OutcomeEvent} {enc : OutcomeEncoding}
  {record stored : CommissionRecord} {index : Option ℕ} {new : CommissionRecord}
  {cmd : OutcomeCommand} {rp : OutcomeReply} {α : Type}

/-! ## The condition -/

/-- The instants of the command do not run back behind those of the commissions. -/
def Timely (l : OutcomeLedger) : OutcomeCommand → Prop
  | .ingest e => e.kind = .refundIssued → ∀ record ∈ l.commissions,
      e.orderId = some record.orderId → record.calculatedAt < e.receivedAt
  | .attributeRecord _ => True
  | .calculateCommission _ orderId partnerId _ _ calculatedAt => ∀ record ∈ l.commissions,
      record.orderId = orderId ∧ record.partnerId = partnerId ∧ record.status ≠ .superseded →
        record.calculatedAt ≤ calculatedAt

instance (l : OutcomeLedger) (command : OutcomeCommand) : Decidable (l.Timely command) := by
  cases command <;> unfold Timely <;> infer_instance

/-! ## Commissions that were replaced -/

def Replaces (l : OutcomeLedger) (record : CommissionRecord) : Prop :=
  ∀ id, record.supersedes = some id → ∃ previous ∈ l.commissions, previous.id = id ∧
    previous.orderId = record.orderId ∧ previous.partnerId = record.partnerId ∧
    previous.calculatedAt ≤ record.calculatedAt ∧ previous.status = .superseded

lemma validateSuperseded_ok (hids : (l.commissions.map (·.id)).Nodup) :
    l.validateSuperseded record = .ok () ↔ l.Replaces record := by
  unfold validateSuperseded Replaces
  rcases record.supersedes with _ | id
  · simp
  · simp only [bind_ok, okOr_ok, passed, find?_key_eq_some_iff hids, Option.some.injEq,
      forall_eq', and_assoc]

lemma Replaces.mono (h : l.Replaces record)
    (hk : ∀ prev ∈ l.commissions, prev.status = .superseded →
      prev ∈ l'.commissions) (status : CommissionStatus) :
    l'.Replaces { record with status := status } := by
  intro id hid
  obtain ⟨prev, hmem, hpr, ho, hp, ht, hs⟩ := h id hid
  exact ⟨prev, hk prev hmem hs, hpr, ho, hp, ht, hs⟩

lemma mem_accept_of_superseded (hmem : record ∈ l.commissions)
    (hst : record.status = .superseded) : record ∈ (l.accept e).commissions := by
  rcases commissions_accept l e with hs | ⟨rf, -, hmap⟩
  · rw [hs]
    exact hmem
  · rw [hmap]
    refine mem_map.mpr ⟨record, hmem, ?_⟩
    simp [requireRecalculation, hst]

lemma mem_calculated_of_superseded
    (hmem : record ∈ l.commissions) (hs : record.status = .superseded) :
    record ∈ (l.calculated index new).commissions := by
  obtain ⟨i, hi⟩ := mem_iff_getElem?.mp hmem
  refine mem_append_left _ (mem_iff_getElem?.mpr ⟨i, ?_⟩)
  rw [getElem?_supersede, hi]
  split
  · rw [Option.map_some, ← hs]
  · rfl

/-! ## Commissions that stay sound -/

/-- A commission stays sound when its order, the refunds known at its instant and the commission
that it replaced stay, and its new status agrees with the later refunds. -/
lemma Sound.transfer {status : CommissionStatus} (h : l.Sound enc record) (l' : OutcomeLedger)
    (ht : l'.tenantId = l.tenantId) (hp : l'.projectId = l.projectId)
    (ho : ∀ order, l.order? record.orderId = some order → l'.order? record.orderId = some order)
    (hk : l'.refundsKnownAt record.orderId record.calculatedAt =
      l.refundsKnownAt record.orderId record.calculatedAt) (hsup :
      l'.validateSuperseded { record with status := status } = .ok ())
    (hcur : status = .current → l'.laterRefundExists record = false)
    (hst : status = .recalculationRequired → l'.laterRefundExists record = true) :
    l'.Sound enc { record with status := status } := by
  obtain ⟨order, hf, hti⟩ := h.order
  have hnet : l'.netOrderAmountAt record.orderId record.calculatedAt =
      l.netOrderAmountAt record.orderId record.calculatedAt := by
    unfold netOrderAmountAt
    rw [hf, ho order hf, hk]
  have hd : l'.refundSetDigestAt enc record.orderId record.calculatedAt =
      l.refundSetDigestAt enc record.orderId record.calculatedAt := by
    unfold refundSetDigestAt
    rw [hk]
  refine ⟨?_, ⟨order, ho order hf, hti⟩, hnet.trans h.net, h.amount, h.currency,
    h.digest.trans hd.symm, hsup, hcur, hst⟩
  have hs := h.shape
  unfold commissionShapeInvalid at hs ⊢
  rw [ht, hp]
  exact hs

lemma laterRefundExists_eq_true : l.laterRefundExists record = true ↔
    ∃ e ∈ l.events, e.kind = .refundIssued ∧ e.orderId = some record.orderId ∧
      record.calculatedAt < e.receivedAt := by
  simp only [laterRefundExists, any_eq_true, Bool.and_eq_true, beq_iff_eq, decide_eq_true_eq,
    and_assoc]

lemma laterRefundExists_eq_false : l.laterRefundExists record = false ↔
    ∀ e ∈ l.events, e.kind = .refundIssued → e.orderId = some record.orderId →
      e.receivedAt ≤ record.calculatedAt := by
  rw [← Bool.not_eq_true, laterRefundExists_eq_true]
  push Not
  rfl

/-! ## Events -/

def statusAfter (e : OutcomeEvent) (record : CommissionRecord) : CommissionStatus :=
  match e.refund with
  | some refund => (requireRecalculation refund.orderId record).status
  | none => record.status

lemma mem_accept_commissions : stored ∈ (l.accept e).commissions ↔
      ∃ record ∈ l.commissions, stored = { record with status := statusAfter e record } := by
  unfold statusAfter accept
  rcases e.refund with _ | refund
  · simp
  · simp only [mem_map]
    refine exists_congr fun record => and_congr_right fun _ => ?_
    rw [← (requireRecalculation_eq refund.orderId record).1]
    exact eq_comm

/-- The event is a refund of the order that was received too late to be known at the instant of the
commission. -/
lemma laterRefundExists_accept (record : CommissionRecord) :
    (l.accept e).laterRefundExists record = true ↔ l.laterRefundExists record = true ∨
        (e.kind = .refundIssued ∧ e.orderId = some record.orderId ∧
          record.calculatedAt < e.receivedAt) := by
  rw [laterRefundExists_eq_true, laterRefundExists_eq_true]
  simp [accept, or_and_right, exists_or]

lemma sound_accept (hke : l.Kept) (ha : (l.accept e).Kept) (hadm : l.Admissible e)
    (hmem : record ∈ l.commissions) (hso : l.Sound enc record) (ht : l.Timely (.ingest e)) :
    (l.accept e).Sound enc { record with status := statusAfter e record } := by
  have hn : knownRefund record.orderId record.calculatedAt e = none := by
    refine knownRefund_eq_none fun rf hr ho => ?_
    obtain ⟨hk, he, -⟩ := OutcomeEvent.refund_eq_some.mp hr
    exact ht hk record hmem (he.trans (congrArg some ho))
  have hkn : (l.accept e).refundsKnownAt record.orderId record.calculatedAt =
      l.refundsKnownAt record.orderId record.calculatedAt := by
    rw [hke.projected.refundsKnownAt_accept ha.projected, hn]
    exact append_nil _
  have hre : (l.accept e).Replaces { record with status := statusAfter e record } :=
    ((validateSuperseded_ok hke.commissionIds).mp hso.superseded).mono
      (fun prev hp hs => mem_accept_of_superseded hp hs) _
  -- The event is a later refund of the order exactly when it makes a current commission stale.
  have hi : ∀ oid, e.kind = .refundIssued → e.orderId = some oid →
      ∃ rf, e.refund = some rf ∧ rf.orderId = oid := by
    intro oid hk ho
    obtain ⟨rf, hr, -⟩ := hadm.refund hk
    obtain ⟨-, he, -⟩ := OutcomeEvent.refund_eq_some.mp hr
    exact ⟨rf, hr, Option.mem_unique he ho⟩
  refine hso.transfer (l.accept e) rfl rfl (fun order => order?_accept) hkn
    ((validateSuperseded_ok ha.commissionIds).mpr hre) ?_ ?_
  · intro hs
    rw [← Bool.not_eq_true, laterRefundExists_accept, not_or]
    unfold statusAfter at hs
    constructor
    · have hcur : record.status = .current := by
        rcases hr : e.refund with _ | rf
        · simpa [hr] using hs
        · simp only [hr, requireRecalculation] at hs
          split at hs
          · cases hs
          · exact hs
      rw [Bool.not_eq_true]
      exact hso.current hcur
    · rintro ⟨hk, ho, -⟩
      obtain ⟨rf, hr, hsa⟩ := hi _ hk ho
      simp only [hr, requireRecalculation, hsa] at hs
      split at hs
      · cases hs
      · next hot => exact hot (by simp [hs])
  · intro hs
    rw [laterRefundExists_accept]
    unfold statusAfter at hs
    rcases hr : e.refund with _ | rf
    · rw [hr] at hs
      exact .inl (hso.stale hs)
    · obtain ⟨hk, he, -⟩ := OutcomeEvent.refund_eq_some.mp hr
      simp only [hr, requireRecalculation] at hs
      split at hs
      · next hsa =>
        simp only [Bool.and_eq_true, beq_iff_eq] at hsa
        have ho : e.orderId = some record.orderId := he.trans (congrArg some hsa.1.symm)
        exact .inr ⟨hk, ho, ht hk record hmem ho⟩
      · exact .inl (hso.stale hs)

/-- A refund that was received by the instant of a commission on its order changes what the
commission should have been. -/
lemma timely_of_sound_accept (hke : l.Kept) (ha : (l.accept e).Kept)
    (hadm : l.Admissible e) (hso : ∀ record ∈ l.commissions, l.Sound enc record)
    (hs : ∀ record ∈ (l.accept e).commissions, (l.accept e).Sound enc record) :
    l.Timely (.ingest e) := by
  intro hki record hmem ho
  by_contra hl
  obtain ⟨refund, hr, -⟩ := hadm.refund hki
  have hsa : refund.orderId = record.orderId := by
    obtain ⟨-, he, -⟩ := OutcomeEvent.refund_eq_some.mp hr
    exact Option.mem_unique he ho
  have hk : knownRefund record.orderId record.calculatedAt e = some refund :=
    knownRefund_eq_some.mpr ⟨not_lt.mp hl, hr, hsa⟩
  have hb := hso record hmem
  have hst := hs _ (mem_accept_commissions.mpr ⟨record, hmem, rfl⟩)
  obtain ⟨order, hf, -⟩ := hb.order
  have hnet := hb.net
  have hn : (l.accept e).netOrderAmountAt record.orderId record.calculatedAt =
      .ok record.eligibleNetAmount := hst.net
  unfold netOrderAmountAt at hnet hn
  rw [hf] at hnet
  rw [order?_accept hf, hke.projected.refundsKnownAt_accept ha.projected, hk]
    at hn
  have hfi := (subtractRefunds_ok hnet).2
  have hse := (subtractRefunds_ok hn).2
  have hp : 0 < refund.amount.amountMinor := by
    refine ha.projected.refund_positive (mem_append_right _ ?_)
    rw [hr]
    exact mem_singleton_self refund
  have ham := congrArg Money.amountMinor (hfi.symm.trans hse)
  simp only [refundedMinor, Option.toList_some, map_append, map_cons, map_nil,
    sum_append, sum_singleton] at ham
  omega

/-! ## Commissions -/

lemma commissionMinor_nonneg {net amount : ℤ} {rate : Decimal}
    (h : enc.commissionMinor net rate = some amount) (hnet : 0 ≤ net)
    (hr : 0 ≤ rate.mantissa) : 0 ≤ amount := by
  unfold OutcomeEncoding.commissionMinor at h
  obtain ⟨-, rfl⟩ := checkedI64_eq_some.mp h
  have hp := enc.mul_nonneg (.ofInt net) rate hnet hr
  unfold Decimal.roundAwayFromZero
  exact mul_nonneg (Int.sign_nonneg_iff.mpr hp) (Int.natCast_nonneg _)

lemma sound_calculated_new (hke : l.Kept) (hc : l.Calculated enc index record)
    (ha : (l.calculated index record).Kept) (hre : (l.calculated index record).Replaces record) :
    (l.calculated index record).Sound enc record := by
  have hp := hke.projected
  obtain ⟨order, hf, ht⟩ := hc.order
  obtain ⟨ho, hid⟩ := order?_eq_some hf
  have hk : l.refundsKnownAt record.orderId record.calculatedAt = l.refundsOf record.orderId :=
    hp.refundsKnownAt_eq_refundsOf hc.known
  have hnet : l.netOrderAmountAt record.orderId record.calculatedAt =
      .ok record.eligibleNetAmount := by
    rw [← hc.net, netOrderAmountAt, hk]
    rfl
  have hn : 0 ≤ record.eligibleNetAmount.amountMinor := by
    obtain ⟨-, net, hamt, -, hpo, -⟩ := hp.netOrderAmount_eq ho
    rw [hid, hc.net] at hamt
    cases hamt
    exact hpo
  have hco : 0 ≤ record.commissionAmount.amountMinor :=
    commissionMinor_nonneg hc.amount hn hc.ratePositive.le
  have hr : isSha256 record.refundSetDigest = true := by
    rw [hc.digest]
    exact isSha256_of_digest (digest_lowerHex _)
  refine ⟨?_, ⟨order, hf, ht⟩, hnet, hc.amount, hc.currency,
    hc.digest, (validateSuperseded_ok ha.commissionIds).mpr hre, ?_, ?_⟩
  · simp only [commissionShapeInvalid, hc.id, hc.partner, hc.rateBound, hc.terms, hr, hc.tenant,
      hc.project, hc.currency, calculated, bne_self_eq_false, Bool.or_self, Bool.not_true,
      Bool.or_false, Bool.false_or, passed, not_le]
    exact ⟨⟨hc.ratePositive, hn⟩, hco⟩
  · intro _
    exact laterRefundExists_eq_false.mpr hc.known
  · intro hs
    rw [hc.status] at hs
    cases hs

lemma sound_calculated_old (hk : l.Kept)
    (ha : (l.calculated index new).Kept) (hs : ∀ record ∈ l.commissions, l.Sound enc record)
    (hmem : record ∈ supersede l.commissions index) :
    (l.calculated index new).Sound enc record := by
  have ht : ∀ old ∈ l.commissions, ∀ status, (status = .current → l.laterRefundExists old = false) →
      (status = .recalculationRequired → l.laterRefundExists old = true) →
      (l.calculated index new).Sound enc { old with status := status } := by
    intro old hold status hcur hst
    have hr := (validateSuperseded_ok hk.commissionIds).mp (hs old hold).superseded
    exact (hs old hold).transfer (l.calculated index new) rfl rfl (fun _ => id) rfl
      ((validateSuperseded_ok ha.commissionIds).mpr
        (hr.mono (fun _ => mem_calculated_of_superseded) status)) hcur hst
  obtain ⟨i, hi⟩ := mem_iff_getElem?.mp hmem
  rw [getElem?_supersede] at hi
  split at hi
  · obtain ⟨old, hold, rfl⟩ := Option.map_eq_some_iff.mp hi
    exact ht old (mem_of_getElem? hold) _ nofun nofun
  · have hold := mem_of_getElem? hi
    exact ht record hold record.status (hs record hold).current (hs record hold).stale

/-- The commission that is calculated replaces the active one, which must not be younger. -/
lemma replaces_calculated_iff
    (hc : l.Calculated enc index record) (haf : (l.calculated index record).Kept) :
    (l.calculated index record).Replaces record ↔
      l.Timely (.calculateCommission record.id record.orderId record.partnerId record.rate
        record.termsDigest record.calculatedAt) := by
  have ha := isActiveIndex_of_ok hc.position
  have hs := hc.supersedes
  unfold Timely
  rcases index with _ | i
  · refine iff_of_true (fun id hid => ?_) (fun old hold hold' => absurd hold' (ha old hold))
    rw [hs] at hid
    cases hid
  · obtain ⟨⟨old, hold, hor, hp, hst⟩, hu⟩ := ha
    have hid : record.supersedes = some old.id := by
      rw [hs, Option.bind_some, hold]
      rfl
    have hsup : { old with status := .superseded } ∈
        (l.calculated (some i) record).commissions := by
      refine mem_append_left _ (mem_iff_getElem?.mpr ⟨i, ?_⟩)
      rw [getElem?_supersede, if_pos rfl, hold]
      rfl
    constructor
    · intro hr other hot ho
      obtain ⟨j, hj⟩ := mem_iff_getElem?.mp hot
      obtain rfl := hu j other hj ho
      obtain rfl := Option.mem_unique hold hj
      obtain ⟨prev, hpr, hsa, -, -, ht, -⟩ := hr old.id hid
      have heq : prev = { old with status := .superseded } :=
        inj_on_of_nodup_map haf.commissionIds hpr hsup hsa
      rw [heq] at ht
      exact ht
    · intro hti id hid'
      obtain rfl := Option.mem_unique hid hid'
      exact ⟨_, hsup, rfl, hor, hp, hti old (mem_of_getElem? hold) ⟨hor, hp, hst⟩, rfl⟩

/-! ## One command -/

/-- A command that succeeds on a validated ledger leaves a validated one exactly when it is
timely. -/
lemma valid_after_iff (hk : l.Kept)
    (hva : l.Valid enc) (h : l.Transition enc cmd rp l') : l'.Valid enc ↔ l.Timely cmd := by
  rcases h with ⟨e, he, hadm⟩ | ⟨record, hat⟩ | ⟨index, record, hc⟩
  · have ha := hk.accept he hadm
    constructor
    · intro hv
      exact timely_of_sound_accept hk ha hadm hva.commissions hv.commissions
    · intro ht
      refine ha.valid fun stored hs => ?_
      obtain ⟨record, hmem, rfl⟩ := mem_accept_commissions.mp hs
      exact sound_accept hk ha hadm hmem (hva.commissions record hmem) ht
  · refine iff_of_true ((hk.attributed hat).valid fun stored hs => ?_) trivial
    exact { hva.commissions stored hs with }
  · have ha := hk.calculated hc
    rw [← replaces_calculated_iff hc ha]
    constructor
    · intro hv
      refine (validateSuperseded_ok ha.commissionIds).mp ?_
      exact (hv.commissions record (mem_append_right _ (by simp))).superseded
    · intro hr
      refine ha.valid fun stored hs => ?_
      rcases mem_append.mp hs with hold | hnew
      · exact sound_calculated_old hk ha hva.commissions hold
      · rw [mem_singleton.mp hnew]
        exact sound_calculated_new hk hc ha hr

/-! ## Successors -/

lemma isEqv_self {r : α → α → Bool}
    (hr : ∀ a, r a a = true) (items : List α) : items.isEqv items r = true := by
  induction items with
  | nil => rfl
  | cons a items ih => simp [List.isEqv, hr a, ih]

lemma same_self (l : OutcomeLedger) : l.same l = true := by
  have ha : l.attributions.isEqv l.attributions AttributionRecord.same = true :=
    isEqv_self (fun record => by simp [AttributionRecord.same, Decimal.same]) _
  have hc : l.commissions.isEqv l.commissions CommissionRecord.same = true :=
    isEqv_self (fun record => by simp [CommissionRecord.same, Decimal.same]) _
  simp [same, ha, hc]

lemma isResultOf_of_ok {a : α} {cmd : Command OutcomeLedger OutcomeLedgerError α}
    (h : cmd.exec l = (.ok a, l')) : l'.isResultOf l cmd = true := by
  unfold isResultOf
  rw [h]
  exact same_self l'

lemma follows_of_result (hva : l.Valid enc) (hv : l'.Valid enc)
    (ht : l'.tenantId = l.tenantId) (hp : l'.projectId = l.projectId)
    (hrev : l'.revision = l.revision + 1)
    (hres : (∃ e, l'.events = l.events ++ [e] ∧ (ingest e).exec l = (.ok (), l')) ∨
      (∃ record, l'.attributions = l.attributions ++ [record] ∧
        (attributeRecord record).exec l = (.ok (), l')) ∨
      ∃ record, l'.commissions.length = l.commissions.length + 1 ∧
        l'.commissions.getLast? = some record ∧
        (calculateCommission enc record.id record.orderId record.partnerId record.rate
          record.termsDigest record.calculatedAt).exec l = (.ok record, l')) :
    l'.follows enc l = .ok true := by
  have hn : checkedAdd 64 l.revision 1 = some l'.revision := by
    rw [checkedAdd_eq_some, hrev]
    exact ⟨hrev ▸ hv.bounded, rfl⟩
  unfold follows
  rw [validate_ok.mpr hva, validate_ok.mpr hv, ht, hp, hn]
  simp only [bne_self_eq_false, Bool.or_self, Bool.false_eq_true, if_false]
  -- A ledger that follows in an earlier way is accepted before the later ones are looked at.
  change (if _ then _ else _) = Except.ok true
  split
  · rfl
  next hev =>
  split
  · rfl
  next ha =>
  split
  · rfl
  next hc =>
  rcases hres with ⟨e, hl, he⟩ | ⟨record, hl, he⟩ | ⟨record, hle, hla, he⟩
  · refine absurd ?_ hev
    simp [hl, isResultOf_of_ok he]
  · refine absurd ?_ ha
    have hs := isEqv_self (r := AttributionRecord.same)
      (fun record => by simp [AttributionRecord.same, Decimal.same]) l.attributions
    simp [hl, attributionsStartWith, hs, isResultOf_of_ok he]
  · refine absurd ?_ hc
    simp [hle, hla, isResultOf_of_ok he]

lemma follows_of_transition (hva : l.Valid enc) (hv : l'.Valid enc)
    (h : l.Transition enc cmd rp l') : l'.follows enc l = .ok true := by
  rcases h with ⟨e, hev, hadm⟩ | ⟨record, ha⟩ | ⟨index, record, hc⟩
  · have he := ingest_ok.mpr ⟨hev, hadm, rfl⟩
    exact follows_of_result hva hv rfl rfl rfl (Or.inl ⟨e, rfl, he⟩)
  · have he := attributeRecord_ok.mpr ⟨ha, rfl⟩
    exact follows_of_result hva hv rfl rfl rfl (Or.inr (Or.inl ⟨record, rfl, he⟩))
  · have he := calculateCommission_ok.mpr ⟨index, hc, rfl, rfl, rfl, rfl, rfl, rfl, rfl⟩
    have hl : (l.calculated index record).commissions.length = l.commissions.length + 1 := by
      have hs := congrArg List.length (map_supersede (fun _ => ()) l.commissions index fun _ => rfl)
      simpa [calculated] using hs
    exact follows_of_result hva hv rfl rfl rfl
      (Or.inr (Or.inr ⟨record, hl, by simp [calculated], he⟩))

/-! ## Runs -/

/-- In a run from a new ledger whose accepted commands are timely, the ledger is validated and can
be projected, and every accepted command leaves a successor of the ledger before it.  On such a
ledger a command that is accepted leaves a validated one exactly when it is timely. -/
theorem validates_of_timely (enc : OutcomeEncoding) {tenantId : TenantId}
    {projectId : ProjectId} (h : OutcomeLedger.new tenantId projectId = .ok l)
    (commands : List OutcomeCommand)
    (htimely : ∀ event ∈ trace (step enc) l commands, event.output.isOk = true →
      event.before.Timely event.input) :
    let t := run (step enc) l commands
    t.validate enc = .ok () ∧
    (∃ projection, t.verifiedNormalizationProjection enc = .ok projection) ∧
    (∀ event ∈ trace (step enc) l commands, event.output.isOk = true →
      event.after.follows enc event.before = .ok true) ∧
    ∀ command, (t.step enc command).1.isOk = true →
      ((t.step enc command).2.validate enc = .ok () ↔ t.Timely command) := by
  intro t
  have hi : l.Kept ∧ l.Valid enc := by
    refine ⟨kept_of_new h, (kept_of_new h).valid fun record hr => ?_⟩
    rw [(new_ok.mp h).2] at hr
    exact absurd hr not_mem_nil
  have hrun := run_rely (step enc) (I := fun s => s.Kept ∧ s.Valid enc)
    (C := fun event => event.output.isOk = true → event.before.Timely event.input)
    (P := fun event => event.output.isOk = true →
      event.after.follows enc event.before = .ok true)
    (fun s command ⟨hk, hv⟩ hc => ?_) hi htimely
  · obtain ⟨⟨hk, hv⟩, hf⟩ := hrun
    refine ⟨validate_ok.mpr hv, ⟨_, verifiedNormalizationProjection_ok.mpr
      ⟨hv, hk.verified, rfl⟩⟩, hf, fun command hok => ?_⟩
    rw [validate_ok]
    rcases hout : (t.step enc command).1 with error | reply
    · rw [hout] at hok
      cases hok
    · exact valid_after_iff hk hv (transition_of_ok hout)
  · rcases hout : (s.step enc command).1 with error | reply
    · rw [step_of_error hout]
      refine ⟨⟨hk, hv⟩, fun hok => ?_⟩
      rw [eventOf, hout] at hok
      cases hok
    · have ht := transition_of_ok hout
      have hok : (eventOf (step enc) s command).output.isOk = true := by
        rw [eventOf, hout]
        rfl
      have hva := (valid_after_iff hk hv ht).mpr (hc hok)
      exact ⟨⟨hk.step command, hva⟩, fun _ => follows_of_transition hv hva ht⟩

/-- An order, a commission, a refund that is received later, and the commission after it. -/
def timelyRun : List OutcomeCommand :=
  [.ingest .sampleOrder, .sampleCommission "commission" 3, .ingest firstRefund,
    .sampleCommission "recalculated" 5]

/-- The timely run recalculates and validates. -/
theorem validates_of_timely_timelyRun :
    let t := run (step .sample) sample timelyRun
    (t.commissions.map fun record => (record.id, record.status)) =
      [("commission", .superseded), ("recalculated", .current)] ∧
    t.validate .sample = .ok () := by
  have hrun : (∀ event ∈ trace (step .sample) sample timelyRun, event.output.isOk = true →
        event.before.Timely event.input) ∧
      ((run (step .sample) sample timelyRun).commissions.map fun record =>
        (record.id, record.status)) =
          [("commission", .superseded), ("recalculated", .current)] := by
    decide +kernel
  exact ⟨hrun.2, (validates_of_timely .sample new_sample timelyRun hrun.1).1⟩

/-- A refund that arrives after a commission on its order was calculated, but was received before,
leaves a ledger that is not validated.  So does a commission that is calculated for an instant
before the one that it replaces. -/
theorem lateRefund_not_validated :
    let late := run (step .sample) sample
      [.ingest .sampleOrder, .sampleCommission "commission" 10, .ingest firstRefund]
    let early := run (step .sample) sample
      [.ingest .sampleOrder, .sampleCommission "commission" 10, .sampleCommission "recalculated" 5]
    (late.revision = 4 ∧ late.validate .sample = .error .commissionProjectionMismatch) ∧
      early.revision = 4 ∧ early.validate .sample = .error .commissionProjectionMismatch := by
  decide +kernel

end OutcomeLedger

end Hartevo
