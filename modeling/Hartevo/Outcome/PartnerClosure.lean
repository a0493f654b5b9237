import Hartevo.Outcome.IdentityChain
import Hartevo.Outcome.Settlement

/-!
# The partners of the chain and of the settlement

The identity chain and the settlement both ask for exactly the partners that are referenced.  The
settlement reads them off the events and commissions; the chain adds the partners that an identity
link has as its subject.  A settlement that comes to compare the two accepts the partners of the
chain exactly when every such subject is also the partner of an event or a commission.

Otherwise no list of partners is accepted together with the chain: the settlement would need fewer
of them than the chain has.
-/

namespace Hartevo

open List

namespace OutcomeLedger

variable {id : PartnerId} {partners index : BTreeMap PartnerId Partner} {observedAt : DateTime}
  {entry : (OrderId ×ₗ PartnerId) × CommissionRecord} {commission : NetworkCommissionAccumulator}
  {e : OutcomeEvent} {sourceOrders : SourceOrders}

variable {enc : ProjectionEncoding} {l : OutcomeLedger} {support : IdentitySupport}
  {chain : OutcomeIdentityChainProjection}

/-! ## The partners of a settlement -/

lemma mem_expectedPartnerIds : id ∈ l.expectedPartnerIds ↔ l.References id := by
  unfold expectedPartnerIds References
  rw [mem_ofList, mem_append, mem_filterMap, mem_map]

lemma addPartner_ok {partner : Partner} {next : BTreeMap PartnerId Partner} :
    l.addPartner partners partner = .ok next ↔
      (partner.validate = .ok () ∧ partner.tenantId = l.tenantId ∧
        partner.projectId = l.projectId) ∧ partner.id ∉ partners ∧
      next = partners.insert partner.id partner := by
  rw [addPartner, check_ok, check_ok, Except.mapError_ok, rejectIf_ok]
  simp only [passed, contains_eq_false_iff]
  constructor
  · rintro ⟨hv, ⟨⟨ht, hp⟩, hf⟩, hm⟩
    cases hm
    exact ⟨⟨hv, ht, hp⟩, hf, rfl⟩
  · rintro ⟨⟨hv, ht, hp⟩, hf, rfl⟩
    exact ⟨hv, ⟨⟨ht, hp⟩, hf⟩, rfl⟩

lemma foldlM_addPartner {partners : List Partner} (hv : ∀ pt ∈ partners, pt.validate = .ok () ∧
      pt.tenantId = l.tenantId ∧ pt.projectId = l.projectId) (hd : (partners.map (·.id)).Nodup) :
    partners.foldlM l.addPartner ∅ = .ok (indexBy (·.id) partners) := by
  induction partners using List.reverseRecOn with
  | nil => rfl
  | append_singleton partners pt ih =>
    rw [map_append, nodup_append] at hd
    obtain ⟨hb, -, hdi⟩ := hd
    have he := ih (fun p hp => hv p (mem_append_left _ hp)) hb
    have hf : pt.id ∉ indexBy (·.id) partners := by
      intro hmem
      obtain ⟨other, ho, heq⟩ := mem_indexBy.mp hmem
      exact hdi _ (mem_map_of_mem ho) pt.id (by simp) heq
    rw [foldlM_append, he, indexBy_concat]
    refine bind_ok.mpr ⟨_, rfl, ?_⟩
    rw [foldlM_cons, bind_ok]
    refine ⟨_, addPartner_ok.mpr ⟨hv pt ?_, hf, rfl⟩, rfl⟩
    exact mem_append_right _ (mem_singleton_self _)

lemma settlementPartners_ok {ps : List Partner} :
    l.settlementPartners ps = .ok index ↔ ps.foldlM l.addPartner ∅ = .ok index ∧
      ∀ id, id ∈ index ↔ l.References id := by
  rw [settlementPartners, bind_ok]
  simp only [check_ok, passed, treeSet_eq_iff, mem_keySet, mem_expectedPartnerIds]
  constructor
  · rintro ⟨made, hf, hc, hm⟩
    cases hm
    exact ⟨hf, hc⟩
  · rintro ⟨hf, hc⟩
    exact ⟨index, hf, hc, rfl⟩

lemma Chained.settlementPartners (h : l.Chained enc support chain)
    (hr : ∀ link ∈ support.identityLinks, ∀ id, link.subject = .partner id →
      l.References id) : l.settlementPartners support.partners = .ok support.index.partners := by
  refine settlementPartners_ok.mpr ⟨?_, fun id => ?_⟩
  · exact foldlM_addPartner h.valid (nodup_of_size_indexBy h.size)
  · rw [h.closure]
    constructor
    · rintro (hre | ⟨link, hl, hs⟩)
      · exact hre
      · exact hr link hl id hs
    · exact .inl

lemma Chained.settlementPartners_error {link : IdentityLink} (h : l.Chained enc support chain)
    (hl : link ∈ support.identityLinks) (hs : link.subject = .partner id) (hu : ¬l.References id) :
    l.settlementPartners support.partners = .error .settlementPartnerSupportClosureMismatch := by
  have hne : keySet support.index.partners ≠ l.expectedPartnerIds := by
    intro heq
    have hmem := mem_keySet.mpr ((h.closure id).mpr (Or.inr ⟨link, hl, hs⟩))
    rw [heq, mem_expectedPartnerIds] at hmem
    exact hu hmem
  rw [OutcomeLedger.settlementPartners, foldlM_addPartner h.valid (nodup_of_size_indexBy h.size)]
  change (rejectIf (keySet support.index.partners != _) _ >>= _) = _
  rw [bne_iff_ne.mpr hne]
  rfl

/-! ## Errors of the parts -/

/-- The errors that say that the partners or the chain do not fit the ledger. -/
def IsClosureError (e : OutcomeLedgerError) : Prop :=
  e = .settlementPartnerSupportClosureMismatch ∨ e = .settlementIdentityChainMismatch

instance : DecidablePred IsClosureError :=
  fun e => inferInstanceAs (Decidable (e = _ ∨ e = _))

lemma avoids_countOne (count : ℕ) : Avoids IsClosureError (countOne count) :=
  Avoids.okOr fun _ => by decide

lemma avoids_projectionCount (count : ℕ) : Avoids IsClosureError (projectionCount count) :=
  Avoids.okOr fun _ => by decide

lemma avoids_lookup (hmem : id ∈ partners) (error : OutcomeLedgerError) :
    Avoids IsClosureError (okOr partners[id]? error) := by
  refine Avoids.okOr fun hn => ?_
  rw [Std.ExtTreeMap.mem_iff_isSome_getElem?, hn] at hmem
  cases hmem

lemma avoids_sourceMissionOrders (l : OutcomeLedger) (ms : Mission) (oa : DateTime) :
    Avoids IsClosureError ((l.sourceMissionOrders ms oa).mapError settlementError) := by
  have hr : Avoids IsClosureError (l.sourceMissionOrders ms oa) := by
    unfold sourceMissionOrders
    refine .rejectIf_bind (by decide) ?_
    refine (Avoids.mapError fun _ _ => by decide).bind fun _ _ => ?_
    refine .rejectIf_bind (by decide) ?_
    refine (Avoids.foldlM_of_step (fun ev _ orders => ?_) _).bind fun _ _ => ?_
    · unfold addSourceOrder
      refine .okOr_bind (by decide) fun _ => ?_
      refine .okOr_bind (by decide) fun _ => ?_
      exact .rejectIf_bind (by decide) (.pure _)
    · exact .rejectIf_bind (by decide) (.pure _)
  refine Avoids.mapError fun e he hbad => hr e he ?_
  -- The three errors that are renamed become errors of the settlement that are not among the two.
  unfold settlementError at hbad
  split at hbad
  · exact absurd hbad (by decide)
  · exact absurd hbad (by decide)
  · exact absurd hbad (by decide)
  · exact hbad

lemma avoids_viewOrders (l : OutcomeLedger) (sos : SourceOrders)
    (oa : DateTime) : Avoids IsClosureError (l.viewOrders sos oa) := by
  refine Avoids.foldlM_of_step (fun entry _ views => ?_) _
  unfold OrderViews.add
  have hr (rfs : List (OutcomeRefund × OutcomeEvent)) :
      Avoids IsClosureError (refundedAmount entry.2.1 rfs) := by
    refine Avoids.foldlM_of_step (fun _ _ _ => ?_) _
    exact (Avoids.rejectIf fun _ => by decide).bind fun _ _ => Avoids.mapError fun _ _ => by decide
  refine (hr _).bind fun refunded _ => ?_
  refine (Avoids.mapError fun _ _ => by decide).bind fun _ _ => ?_
  refine .rejectIf_bind (by decide) ?_
  dsimp only
  split
  · refine (Avoids.ok _).bind fun _ _ => ?_
    exact (avoids_projectionCount _).bind fun _ _ => Avoids.pure _
  · refine (avoids_countOne _).bind fun _ _ => ?_
    exact (avoids_projectionCount _).bind fun _ _ => Avoids.pure _

lemma avoids_addCommission (accumulator : SettlementAccumulator) (oid : OrderId)
    (amountMinor : ℤ) : Avoids IsClosureError (accumulator.addCommission oid amountMinor) := by
  refine (avoids_countOne _).bind fun _ _ => ?_
  exact .okOr_bind (by decide) fun _ => .pure _

/-- A commission whose partner is there fails in another way only. -/
lemma avoids_accumulateCalculated (hmem : (ofLex entry.1).2 ∈ partners)
    (outcomeEncoding : OutcomeEncoding) (st : SettlementState) :
    Avoids IsClosureError
      (l.accumulateCalculated outcomeEncoding partners observedAt st entry) := by
  unfold accumulateCalculated
  have hb (supplyClass : PartnerSupplyClass) :
      Avoids IsClosureError (calculatedBasis supplyClass) := by
    intro e he
    rcases supplyClass <;> cases he <;> decide
  refine (avoids_lookup hmem _).bind fun pt _ => ?_
  refine (hb _).bind fun _ _ => ?_
  refine .okOr_bind (by decide) fun _ => ?_
  refine .okOr_bind (by decide) fun _ => ?_
  refine .rejectIf_bind (by decide) ?_
  refine (avoids_countOne _).bind fun _ _ => ?_
  refine .rejectIf_bind (by decide) ?_
  exact (avoids_addCommission _ _ _).bind fun _ _ => Avoids.pure _

lemma avoids_addEvent (cm : NetworkCommissionAccumulator) (kind : OutcomeEventKind)
    (amountMinor : ℤ) : Avoids IsClosureError (cm.addEvent kind amountMinor) := by
  unfold NetworkCommissionAccumulator.addEvent
  refine (avoids_countOne _).bind fun _ _ => ?_
  split
  · exact .rejectIf_bind (by decide) (.pure _)
  · exact .okOr_bind (by decide) fun _ => .pure _

lemma addEvent_partnerId {kind : OutcomeEventKind} {amountMinor : ℤ}
    {next : NetworkCommissionAccumulator} (h : commission.addEvent kind amountMinor = .ok next) :
    next.partnerId = commission.partnerId := by
  unfold NetworkCommissionAccumulator.addEvent at h
  obtain ⟨count, -, hr⟩ := bind_ok.mp h
  split at hr
  · obtain ⟨⟨⟩, -, hm⟩ := bind_ok.mp hr
    cases hm
    rfl
  · obtain ⟨reversed, -, hm⟩ := bind_ok.mp hr
    cases hm
    rfl

lemma avoids_accumulateNetworkEvent (hmem : ∀ id, e.partnerId = some id → id ∈ partners)
    (sos : SourceOrders) (cms : BTreeMap CommissionId NetworkCommissionAccumulator) :
    Avoids IsClosureError (accumulateNetworkEvent partners sos cms e) := by
  unfold accumulateNetworkEvent
  refine .okOr_bind (by decide) fun _ => ?_
  refine (Avoids.okOr fun _ => by decide).bind fun pid hp => ?_
  refine .okOr_bind (by decide) fun _ => ?_
  refine .okOr_bind (by decide) fun _ => ?_
  refine (avoids_lookup (hmem pid (okOr_ok.mp hp)) _).bind fun _ _ => ?_
  refine .rejectIf_bind (by decide) ?_
  refine .okOr_bind (by decide) fun _ => ?_
  refine .rejectIf_bind (by decide) ?_
  refine .rejectIf_bind (by decide) ?_
  exact (avoids_addEvent _ _ _).bind fun _ _ => Avoids.pure _

/-- The commissions of networks are those of partners that are there. -/
def KnownPartners (partners : BTreeMap PartnerId Partner)
    (commissions : BTreeMap CommissionId NetworkCommissionAccumulator) : Prop :=
  ∀ (id : CommissionId) commission, commissions[id]? = some commission →
    commission.partnerId ∈ partners

lemma KnownPartners.accumulateNetworkEvent
    {cms next : BTreeMap CommissionId NetworkCommissionAccumulator}
    (hb : KnownPartners partners cms)
    (h : accumulateNetworkEvent partners sourceOrders cms e = .ok next) :
    KnownPartners partners next := by
  simp only [OutcomeLedger.accumulateNetworkEvent, bind_ok, exists_const, okOr_ok, rejectIf_ok]
    at h
  obtain ⟨oid, -, partnerId, -, commissionId, -, amount, -, pt, hp, -, source, -, -,
    hs, added, ha, hm⟩ := h
  cases hm
  intro id commission hf
  rw [Std.ExtTreeMap.getElem?_insert_iff] at hf
  split at hf
  · cases hf
    rw [addEvent_partnerId ha]
    simp only [passed] at hs
    rw [hs.1.1.1]
    exact Std.ExtTreeMap.mem_iff_isSome_getElem?.mpr (by rw [hp]; rfl)
  · exact hb id commission hf

lemma avoids_settleNetworkCommission (hmem : commission.partnerId ∈ partners)
    (st : SettlementState) :
    Avoids IsClosureError (settleNetworkCommission partners st commission) := by
  unfold settleNetworkCommission
  refine .okOr_bind (by decide) fun _ => ?_
  refine .okOr_bind (by decide) fun _ => ?_
  refine .rejectIf_bind (by decide) ?_
  refine (avoids_lookup hmem _).bind fun _ _ => ?_
  refine .rejectIf_bind (by decide) ?_
  refine (avoids_addCommission _ _ _).bind fun _ _ => ?_
  refine .okOr_bind (by decide) fun _ => ?_
  exact .okOr_bind (by decide) fun _ => .pure _

lemma avoids_payOut (st : BTreeSet PayoutId × SettlementAccumulators) (e : OutcomeEvent) :
    Avoids IsClosureError (payOut st e) := by
  unfold payOut
  refine .okOr_bind (by decide) fun _ => ?_
  refine .rejectIf_bind (by decide) ?_
  refine .okOr_bind (by decide) fun _ => ?_
  refine .okOr_bind (by decide) fun _ => ?_
  refine .okOr_bind (by decide) fun _ => ?_
  refine .rejectIf_bind (by decide) ?_
  refine Avoids.bind ?_ fun _ _ => Avoids.pure _
  unfold SettlementAccumulator.addPayout
  refine (avoids_countOne _).bind fun _ _ => ?_
  refine .okOr_bind (by decide) fun _ => ?_
  exact .rejectIf_bind (by decide) (.pure _)

lemma avoids_close (groups : SettlementGroups) (accumulator : SettlementAccumulator) :
    Avoids IsClosureError (groups.close accumulator) := by
  unfold SettlementGroups.close
  have hs (groups : SettlementGroups) (st : SettlementGroupStatus) :
      Avoids IsClosureError (groups.countStatus st) := by
    rcases st <;> exact (avoids_countOne _).bind fun _ _ => Avoids.pure _
  have hb (groups : SettlementGroups) (basis : SettlementCommissionBasis) :
      Avoids IsClosureError (groups.countBasis basis) := by
    rcases basis <;> exact (avoids_countOne _).bind fun _ _ => Avoids.pure _
  refine .okOr_bind (by decide) fun _ => ?_
  refine .rejectIf_bind (by decide) ?_
  refine (hs _ _).bind fun _ _ => ?_
  refine (hb _ _).bind fun _ _ => ?_
  exact (avoids_projectionCount _).bind fun _ _ => Avoids.pure _

/-! ## The closures agree -/

lemma references_of_latestCalculated
    (hmem : entry ∈ (l.latestCalculated sourceOrders observedAt).toList) :
    l.References (ofLex entry.1).2 := by
  obtain ⟨key, record⟩ := entry
  rw [Std.ExtTreeMap.mem_toList_iff_getElem?_eq_some] at hmem
  obtain ⟨hrec, hkey⟩ := mem_of_getElem?_latestBy hmem
  refine .inr ⟨record, mem_of_mem_filter hrec, ?_⟩
  rw [← hkey]
  rfl

lemma references_of_networkEvents (hmem : e ∈ l.networkEvents sourceOrders observedAt)
    (hid : e.partnerId = some id) : l.References id := by
  rw [networkEvents, mem_sortByKey] at hmem
  exact .inl ⟨e, mem_of_mem_filter hmem, hid⟩

/-- With the partners of its own identity chain a settlement is never refused because of the
partners or the chain, provided that the partners that identity links have as their subjects are
referenced by the ledger when the settlement comes to look at them. -/
lemma avoids_settlement (h : l.Chained enc support chain) (mission : Mission)
    (observedAt : DateTime)
    (hreferenced : ∀ orders, l.sourceMissionOrders mission observedAt = .ok orders →
      ∀ link ∈ support.identityLinks, ∀ id, link.subject = .partner id → l.References id) :
    Avoids IsClosureError
      (l.verifiedSettlementProjection enc mission chain support.partners observedAt) := by
  unfold verifiedSettlementProjection
  refine (Avoids.of_eq_ok h.normalized).bind fun normalized hn => ?_
  cases h.normalized.symm.trans hn
  refine (Avoids.rejectIf fun hm => ?_).bind fun _ _ => ?_
  · rw [h.current] at hm
    cases hm
  refine (avoids_sourceMissionOrders l mission observedAt).bind fun ⟨_, _, sourceOrders⟩ hs => ?_
  have hp := h.settlementPartners (hreferenced _ (Except.mapError_ok.mp hs))
  have hc := (settlementPartners_ok.mp hp).2
  refine (Avoids.of_eq_ok hp).bind fun partners hma => ?_
  cases hp.symm.trans hma
  refine (avoids_projectionCount _).bind fun partnerCount hcou => ?_
  refine (Avoids.rejectIf fun hm => ?_).bind fun _ _ => ?_
  · have hs := (projectionCount_ok.mp hcou).2
    rw [← hs, h.count.1, h.size, h.policy] at hm
    simp at hm
  refine (avoids_viewOrders l sourceOrders observedAt).bind fun viewed _ => ?_
  refine Avoids.bind ?_ fun calculated _ => ?_
  · refine Avoids.foldlM_of_step (fun entry hen state => ?_) _
    refine avoids_accumulateCalculated ?_ _ state
    exact (hc _).mpr (references_of_latestCalculated hen)
  refine Avoids.bind ?_ fun commissions hco => ?_
  · refine Avoids.foldlM_of_step (fun e he state => ?_) _
    refine avoids_accumulateNetworkEvent (fun id hid => ?_) sourceOrders state
    exact (hc id).mpr (references_of_networkEvents he hid)
  have hk : KnownPartners support.index.partners commissions := by
    refine foldlM_invariant (KnownPartners support.index.partners)
      (fun e _ before after hb hstep => hb.accumulateNetworkEvent hstep) ?_ hco
    intro id commission hf
    simp at hf
  refine Avoids.bind ?_ fun settled _ => ?_
  · refine Avoids.foldlM_of_step (fun commission hcom state => ?_) _
    obtain ⟨id, hf⟩ := Std.ExtTreeMap.mem_vals.mp hcom
    exact avoids_settleNetworkCommission (hk id commission hf) state
  refine (Avoids.foldlM_of_step (fun e _ state => avoids_payOut state e) _).bind fun _ _ => ?_
  refine (Avoids.foldlM_of_step (fun accumulator _ groups =>
    avoids_close groups accumulator) _).bind fun _ _ => ?_
  refine (avoids_projectionCount _).bind fun _ _ => ?_
  refine (avoids_projectionCount _).bind fun _ _ => ?_
  refine (avoids_projectionCount _).bind fun _ _ => ?_
  refine (avoids_projectionCount _).bind fun _ _ => ?_
  refine (avoids_projectionCount _).bind fun _ _ => ?_
  exact (avoids_projectionCount _).bind fun _ _ => Avoids.pure _

/-- With the partners of its own identity chain a settlement is not refused because of the partners
or the chain, exactly when it does not come to look at them, or the partners that identity links
have as their subjects are referenced by the ledger. -/
theorem settlement_accepts_chain_partners_iff (enc : ProjectionEncoding) {l : OutcomeLedger}
    {support : IdentitySupport} {chain : OutcomeIdentityChainProjection}
    (hchain : l.verifiedIdentityChainProjection enc support = .ok chain) (mission : Mission)
    (observedAt : DateTime) :
    (l.verifiedSettlementProjection enc mission chain support.partners observedAt ≠
        .error .settlementPartnerSupportClosureMismatch ∧
      l.verifiedSettlementProjection enc mission chain support.partners observedAt ≠
        .error .settlementIdentityChainMismatch) ↔
    (∃ e, l.sourceMissionOrders mission observedAt = .error e) ∨
      ∀ link ∈ support.identityLinks, ∀ id, link.subject = .partner id → l.References id := by
  have h := chained_of_projection hchain
  constructor
  · rintro ⟨hm, -⟩
    rcases hs : l.sourceMissionOrders mission observedAt with e | orders
    · exact .inl ⟨e, rfl⟩
    refine .inr fun link hl id hsu => by_contra fun hu => hm ?_
    rw [verifiedSettlementProjection, h.normalized, hs]
    change (rejectIf (chain.mismatches l _) _ >>= _) = _
    rw [rejectIf_bind h.current]
    change (l.settlementPartners support.partners >>= _) = _
    rw [h.settlementPartners_error hl hsu hu]
    rfl
  · intro hr
    have ha := avoids_settlement h mission observedAt fun orders hok => hr.resolve_left fun he => by
      obtain ⟨e, he⟩ := he
      cases he.symm.trans hok
    exact ⟨fun her => ha _ her (Or.inl rfl), fun her => ha _ her (Or.inr rfl)⟩

/-- Support records of the sample order: its connection, and an identity link to a partner. -/
def partnerSupport : IdentitySupport where
  connections := [{
    id := "connection", tenantId := "tenant", projectId := "project", provider := "shop"
    accountId := "account", expectedExternalAccountId := "external"
    requiredScopes := (∅ : BTreeSet String).insert "orders", grantedScopes := ∅
    status := .pendingAuth, lastProbe := none, revokedAt := none, revision := 1, createdAt := 0
    updatedAt := 0 }]
  identityLinks := [{
    id := "link", tenantId := "tenant", projectId := "project", subject := .partner "partner"
    identities := [⟨"shop", "account", lowerHex 0, "secret://subject", lowerHex 0⟩]
    confidence := ⟨1, 0⟩, status := .confirmed
    decisions := [⟨.proposed, .confirmed, "actor", lowerHex 0, 0⟩], revision := 2 }]
  people := []
  companies := []
  partners := [{
    id := "partner", tenantId := "tenant", projectId := "project", personId := none
    companyId := none, displayName := "Partner", supplyClass := .hartevoOptIn
    contactPermission := .explicitOptIn, permissionEvidenceDigest := some (lowerHex 0)
    revision := 1 }]
  opportunities := []

/-- The sample order, with a commission for the partner. -/
def commissionedLedger : OutcomeLedger :=
  run (step .sample) sample [.ingest .sampleOrder, .sampleCommission "commission" 150]

/-- The commissioned partner is accepted. -/
theorem settlement_accepts_chain_partners_iff_commissioned :
    ∃ chain, commissionedLedger.verifiedIdentityChainProjection .sample partnerSupport = .ok chain ∧
      commissionedLedger.verifiedSettlementProjection .sample .sample chain
          partnerSupport.partners 200 ≠ .error .settlementPartnerSupportClosureMismatch ∧
      commissionedLedger.verifiedSettlementProjection .sample .sample chain
          partnerSupport.partners 200 ≠ .error .settlementIdentityChainMismatch := by
  have hok : (commissionedLedger.verifiedIdentityChainProjection .sample
        partnerSupport).isOk = true ∧
      "partner" ∈ commissionedLedger.commissions.map (·.partnerId) := by
    decide +kernel
  obtain ⟨hc, hmem⟩ := hok
  rcases hch : commissionedLedger.verifiedIdentityChainProjection .sample partnerSupport with
    error | chain
  · rw [hch] at hc
    cases hc
  · refine ⟨chain, rfl, (settlement_accepts_chain_partners_iff .sample hch .sample 200).mpr
      (Or.inr fun link hl id hs => ?_)⟩
    rw [partnerSupport, mem_singleton] at hl
    rw [hl] at hs
    cases hs
    exact .inr (mem_map.mp hmem)

/-- If an identity link has a partner as its subject that the ledger does not reference, no list of
partners lets a settlement pass with the chain. -/
lemma no_settlement_of_unreferenced {link : IdentityLink}
    (hch : l.verifiedIdentityChainProjection enc support = .ok chain)
    (hl : link ∈ support.identityLinks)
    (hsu : link.subject = .partner id) (hu : ¬l.References id) (ms : Mission)
    (ps : List Partner) (oa : DateTime) (projection : OutcomeSettlementProjection) :
    l.verifiedSettlementProjection enc ms chain ps oa ≠ .ok projection := by
  intro hs
  have h := chained_of_projection hch
  simp only [verifiedSettlementProjection, bind_ok, exists_const, passed, projectionCount_ok]
    at hs
  obtain ⟨_, _, _, _, _, index, hi, count, ⟨_, hco⟩, ⟨hsa, _⟩, _⟩ := hs
  have hc := (settlementPartners_ok.mp hi).2
  have hsm : index.size < support.index.partners.size := by
    refine size_lt_of_keys (fun k hk => ?_) (k := id) ?_ ?_
    · exact (h.closure k).mpr (Or.inl ((hc k).mp hk))
    · exact (h.closure id).mpr (Or.inr ⟨link, hl, hsu⟩)
    · exact fun hmem => hu ((hc id).mp hmem)
  have hsi := h.size
  have hcha := h.count.1
  omega

/-- Without the commission, the partner is the subject of the order's identity link only.  The chain
asks for it, and the settlement refuses it. -/
theorem settlement_refuses_link_subject :
    ∃ chain, (sample.accept .sampleOrder).verifiedIdentityChainProjection .sample partnerSupport =
        .ok chain ∧
      (sample.accept .sampleOrder).verifiedSettlementProjection .sample .sample chain
        partnerSupport.partners 200 = .error .settlementPartnerSupportClosureMismatch ∧
      ∀ mission partners observedAt projection,
        (sample.accept .sampleOrder).verifiedSettlementProjection .sample mission chain partners
          observedAt ≠ .ok projection := by
  have hrun : ((sample.accept .sampleOrder).verifiedIdentityChainProjection .sample
      partnerSupport).toOption.any (fun chain => decide
        (((sample.accept .sampleOrder).verifiedSettlementProjection .sample .sample chain
          partnerSupport.partners 200).map (fun _ => ()) =
            .error .settlementPartnerSupportClosureMismatch)) = true := by
    decide +kernel
  rcases hc : (sample.accept .sampleOrder).verifiedIdentityChainProjection .sample
    partnerSupport with error | chain
  · rw [hc] at hrun
    cases hrun
  rw [hc] at hrun
  have hr := of_decide_eq_true hrun
  refine ⟨chain, rfl, ?_, fun mission partners observedAt projection => ?_⟩
  · rcases hs : (sample.accept .sampleOrder).verifiedSettlementProjection .sample .sample
      chain partnerSupport.partners 200 with error | projection
    · rw [hs] at hr
      exact congrArg _ (Except.error.inj hr)
    · rw [hs] at hr
      cases hr
  · refine no_settlement_of_unreferenced hc (mem_singleton_self _) rfl ?_ mission partners
      observedAt projection
    rintro (⟨e, he, hp⟩ | ⟨record, hre, -⟩)
    · rw [mem_singleton.mp he] at hp
      cases hp
    · exact absurd hre not_mem_nil

end OutcomeLedger

end Hartevo
