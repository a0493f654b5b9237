import Hartevo.Foundation.Index
import Hartevo.Outcome.Projections

/-!
# Settlement of the orders of a Mission

For an instant, the settlement takes the orders of a Mission that were received and verified by
then. Of every order it takes off the refunds that were known, and checks the latest commission of
every partner against what is left.  Commissions of official networks come as events instead.  The
commissions are summed up in one group for a partner and a currency, and payouts are booked against
the groups.

The partners have to be exactly those that an event or a commission of the ledger names, and the
same as those of the identity chain.
-/

namespace Hartevo

/-! ## Groups -/

structure SettlementAccumulator where
  partnerId : PartnerId
  supplyClass : PartnerSupplyClass
  basis : SettlementCommissionBasis
  currency : CurrencyCode
  sourceOrders : BTreeSet OrderId
  sourceCommissionCount : ℕ
  commissionAmountMinor : ℤ
  payoutCount : ℕ
  payoutCompletedMinor : ℤ
  authoritativeProviders : BTreeSet String

/-- The groups by partner and currency. -/
abbrev SettlementAccumulators := BTreeMap (PartnerId ×ₗ String) SettlementAccumulator

namespace SettlementAccumulator

def key (partnerId : PartnerId) (currency : CurrencyCode) : PartnerId ×ₗ String :=
  toLex (partnerId, currency.code)

def empty (partnerId : PartnerId) (supplyClass : PartnerSupplyClass)
    (basis : SettlementCommissionBasis) (currency : CurrencyCode)
    (authoritativeProviders : BTreeSet String) : SettlementAccumulator where
  partnerId := partnerId
  supplyClass := supplyClass
  basis := basis
  currency := currency
  sourceOrders := ∅
  sourceCommissionCount := 0
  commissionAmountMinor := 0
  payoutCount := 0
  payoutCompletedMinor := 0
  authoritativeProviders := authoritativeProviders

def addCommission (self : SettlementAccumulator) (orderId : OrderId) (amountMinor : ℤ) :
    Except OutcomeLedgerError SettlementAccumulator := do
  let count ← countOne self.sourceCommissionCount
  let total ← okOr (checkedI64 (self.commissionAmountMinor + amountMinor)) .settlementMoneyMismatch
  return { self with
    sourceOrders := self.sourceOrders.insert orderId
    sourceCommissionCount := count
    commissionAmountMinor := total }

def providerAllowed (self : SettlementAccumulator) (provider : String) : Bool :=
  match self.basis with
  | .officialNetworkFacts => self.authoritativeProviders.contains provider
  | .hartevoCalculated | .tenantPrivateCalculated =>
    provider == "stripe" || provider == "stripe-connect"

def addPayout (self : SettlementAccumulator) (amountMinor : ℤ) :
    Except OutcomeLedgerError SettlementAccumulator := do
  let count ← countOne self.payoutCount
  let completed ←
    okOr (checkedI64 (self.payoutCompletedMinor + amountMinor)) .settlementMoneyMismatch
  rejectIf (decide (self.commissionAmountMinor < completed)) .settlementPayoutMismatch
  return { self with payoutCount := count, payoutCompletedMinor := completed }

end SettlementAccumulator

/-- The orders and the groups, as far as they are settled. -/
structure SettlementState where
  orders : BTreeMap OrderId OrderSettlementView
  accumulators : SettlementAccumulators

/-! ## Orders -/

/-- The orders of a Mission with their events. -/
abbrev SourceOrders := BTreeMap OrderId (OutcomeOrder × OutcomeEvent)

/-- The views of the orders and the refunds that they are made with. -/
structure OrderViews where
  views : BTreeMap OrderId OrderSettlementView
  scopedRefunds : List (OutcomeRefund × OutcomeEvent)
  refundedOrderCount : ℕ

/-- The sum of the refunds of an order, none of which occurred before it. -/
def refundedAmount (order : OutcomeOrder) (refunds : List (OutcomeRefund × OutcomeEvent)) :
    Except OutcomeLedgerError Money :=
  refunds.foldlM (fun refunded entry => do
    rejectIf (decide (entry.2.occurredAt < order.occurredAt)) .settlementWindowMismatch
    (refunded.checkedAdd entry.1.amount).mapError fun _ => .settlementMoneyMismatch)
    (.zero order.originalAmount.currency)

def OrderViews.add (self : OrderViews) (orderId : OrderId) (order : OutcomeOrder)
    (refunds : List (OutcomeRefund × OutcomeEvent)) : Except OutcomeLedgerError OrderViews := do
  let refunded ← refundedAmount order refunds
  let eligibleNet ←
    (order.originalAmount.checkedSub refunded).mapError fun _ => .settlementMoneyMismatch
  rejectIf (decide (eligibleNet.amountMinor < 0)) .settlementMoneyMismatch
  let refundedOrderCount ←
    if refunds.isEmpty then .ok self.refundedOrderCount else countOne self.refundedOrderCount
  let refundCount ← projectionCount refunds.length
  return {
    views := self.views.insert orderId {
      orderId := orderId
      originalAmount := order.originalAmount
      refundCount := refundCount
      refundedAmount := refunded
      eligibleNetAmount := eligibleNet
      calculatedCommissionRecordCount := 0
      networkCommissionEventCount := 0 }
    scopedRefunds := self.scopedRefunds ++ refunds
    refundedOrderCount := refundedOrderCount }

namespace OutcomeLedger

def isSourceOrder (mission : Mission) (windowStartedAt windowEndedAt observedAt : DateTime)
    (event : OutcomeEvent) : Bool :=
  event.kind == .orderPlaced && event.missionId == mission.id &&
    decide (windowStartedAt ≤ event.occurredAt) && decide (event.occurredAt ≤ windowEndedAt) &&
    event.isKnownAt observedAt

def addSourceOrder (self : OutcomeLedger) (sourceOrders : SourceOrders) (event : OutcomeEvent) :
    Except OutcomeLedgerError SourceOrders := do
  let orderId ← okOr event.orderId .eventKindShapeMismatch
  let order ← okOr (self.orders.find? fun order =>
    order.id == orderId && order.sourceEventId == event.id) .eventProjectionMismatch
  rejectIf (sourceOrders.contains orderId) .duplicateOrder
  return sourceOrders.insert orderId (order, event)

def sourceMissionOrders (self : OutcomeLedger) (mission : Mission) (observedAt : DateTime) :
    Except OutcomeLedgerError (DateTime × DateTime × SourceOrders) := do
  rejectIf (mission.tenantId != self.tenantId || mission.projectId != self.projectId ||
    mission.revision == 0) .attributionMissionScopeMismatch
  (mission.contract.validate mission.contract.validFrom).mapError
    fun _ => .attributionMissionScopeMismatch
  rejectIf (decide (observedAt < mission.contract.validFrom)) .attributionWindowMismatch
  let windowStartedAt := mission.contract.validFrom
  let windowEndedAt := min observedAt mission.contract.validUntil
  let sourceOrders ← (self.events.filter
    (isSourceOrder mission windowStartedAt windowEndedAt observedAt)).foldlM self.addSourceOrder ∅
  rejectIf sourceOrders.isEmpty .attributionSourceOrdersUnavailable
  return (windowStartedAt, windowEndedAt, sourceOrders)

/-- The errors of `sourceMissionOrders`, as those of a settlement. -/
def settlementError : OutcomeLedgerError → OutcomeLedgerError
  | .attributionMissionScopeMismatch => .settlementMissionScopeMismatch
  | .attributionWindowMismatch => .settlementWindowMismatch
  | .attributionSourceOrdersUnavailable => .settlementSourceOrdersUnavailable
  | other => other

/-- The refunds of an order that were known at an instant, with their events. -/
def settlementRefunds (self : OutcomeLedger) (orderId : OrderId) (observedAt : DateTime) :
    List (OutcomeRefund × OutcomeEvent) :=
  sortByKey (fun entry => (toLex (entry.2.receivedAt, toLex (entry.1.occurredAt, entry.1.id)) :
      DateTime ×ₗ DateTime ×ₗ RefundId))
    (self.refunds.filterMap fun refund =>
      if refund.orderId != orderId then none
      else ((self.events.find? fun event => event.id == refund.sourceEventId).filter
        fun event => event.isKnownAt observedAt).map fun event => (refund, event))

def viewOrders (self : OutcomeLedger) (sourceOrders : SourceOrders) (observedAt : DateTime) :
    Except OutcomeLedgerError OrderViews :=
  sourceOrders.toList.foldlM (fun views entry =>
    views.add entry.1 entry.2.1 (self.settlementRefunds entry.1 observedAt)) ⟨∅, [], 0⟩

/-! ## Partners -/

/-- The partners that an event or a commission names. -/
def expectedPartnerIds (self : OutcomeLedger) : BTreeSet PartnerId :=
  .ofList (self.events.filterMap (·.partnerId) ++ self.commissions.map (·.partnerId))

def addPartner (self : OutcomeLedger) (partners : BTreeMap PartnerId Partner) (partner : Partner) :
    Except OutcomeLedgerError (BTreeMap PartnerId Partner) := do
  partner.validate.mapError fun _ => .settlementPartnerPolicyMismatch
  rejectIf (partner.tenantId != self.tenantId || partner.projectId != self.projectId ||
    partners.contains partner.id) .settlementPartnerPolicyMismatch
  return partners.insert partner.id partner

/-- The partners by their identifiers, which are exactly the expected ones. -/
def settlementPartners (self : OutcomeLedger) (partners : List Partner) :
    Except OutcomeLedgerError (BTreeMap PartnerId Partner) := do
  let partnerMap ← partners.foldlM self.addPartner ∅
  rejectIf (keySet partnerMap != self.expectedPartnerIds) .settlementPartnerSupportClosureMismatch
  return partnerMap

/-! ## Calculated commissions -/

/-- The latest commission of every order and partner. -/
def latestCalculated (self : OutcomeLedger) (sourceOrders : SourceOrders) (observedAt : DateTime) :
    BTreeMap (OrderId ×ₗ PartnerId) CommissionRecord :=
  latestBy (fun record => toLex (record.orderId, record.partnerId))
    (fun record current => decide ((toLex (current.calculatedAt, current.id) :
      DateTime ×ₗ CommissionId) < toLex (record.calculatedAt, record.id)))
    (self.commissions.filter fun record => sourceOrders.contains record.orderId &&
      decide (record.calculatedAt ≤ observedAt))

def calculatedBasis : PartnerSupplyClass → Except OutcomeLedgerError SettlementCommissionBasis
  | .hartevoOptIn => .ok .hartevoCalculated
  | .tenantPrivate => .ok .tenantPrivateCalculated
  | .officialAuthorizedNetwork | .publicCandidate => .error .settlementCommissionAuthorityMismatch

/-- A commission is checked against what is left of its order and added to its group. -/
def accumulateCalculated (enc : OutcomeEncoding) (self : OutcomeLedger)
    (partners : BTreeMap PartnerId Partner) (observedAt : DateTime) (state : SettlementState)
    (entry : (OrderId ×ₗ PartnerId) × CommissionRecord) :
    Except OutcomeLedgerError SettlementState := do
  let (orderId, partnerId) := ofLex entry.1
  let record := entry.2
  let partner ← okOr partners[partnerId]? .settlementPartnerSupportClosureMismatch
  let basis ← calculatedBasis partner.supplyClass
  let expectedRefundSet := self.refundSetDigestAt enc orderId observedAt
  let view ← okOr state.orders[orderId]? .settlementSourceOrdersUnavailable
  let expectedNet := view.eligibleNetAmount
  let expectedMinor ← okOr (enc.commissionMinor expectedNet.amountMinor record.rate)
    .settlementMoneyMismatch
  rejectIf (record.refundSetDigest != expectedRefundSet ||
    record.eligibleNetAmount != expectedNet ||
    record.commissionAmount != ⟨expectedMinor, expectedNet.currency⟩)
    .settlementCommissionRecalculationRequired
  let count ← countOne view.calculatedCommissionRecordCount
  let currency := record.commissionAmount.currency
  let key := SettlementAccumulator.key partnerId currency
  let accumulator := state.accumulators[key]?.getD
    (.empty partnerId partner.supplyClass basis currency (.ofList ["stripe-connect"]))
  rejectIf (accumulator.basis != basis) .settlementCommissionAuthorityMismatch
  let next ← accumulator.addCommission orderId record.commissionAmount.amountMinor
  return {
    orders := state.orders.insert orderId { view with calculatedCommissionRecordCount := count }
    accumulators := state.accumulators.insert key next }

end OutcomeLedger

/-! ## Commissions of networks -/

def officialNetworkProvider (provider : String) : Bool :=
  provider == "awin" || provider == "impact" || provider == "impact.com" || provider == "cj"

structure NetworkCommissionAccumulator where
  partnerId : PartnerId
  currency : CurrencyCode
  provider : String
  orderId : OrderId
  accruedMinor : Option ℤ
  reversedMinor : ℤ
  eventCount : ℕ

/-- A commission accrues once, and is reversed any number of times. -/
def NetworkCommissionAccumulator.addEvent (self : NetworkCommissionAccumulator)
    (kind : OutcomeEventKind) (amountMinor : ℤ) :
    Except OutcomeLedgerError NetworkCommissionAccumulator := do
  let count ← countOne self.eventCount
  if kind == .commissionAccrued then
    rejectIf self.accruedMinor.isSome .settlementCommissionAuthorityMismatch
    return { self with eventCount := count, accruedMinor := some amountMinor }
  else
    let reversed ← okOr (checkedI64 (self.reversedMinor + amountMinor)) .settlementMoneyMismatch
    return { self with eventCount := count, reversedMinor := reversed }

/-- Events of a settlement are sorted by the instants at which they were received and occurred, and
then by the identities of the provider and of the ledger. -/
def OutcomeEvent.settlementKey (event : OutcomeEvent) :
    DateTime ×ₗ DateTime ×ₗ String ×ₗ String ×ₗ OutcomeEventId :=
  toLex (event.receivedAt, toLex (event.occurredAt, toLex (event.provider,
    toLex (event.sourceEventId, event.id))))

namespace OutcomeLedger

def networkEvents (self : OutcomeLedger) (sourceOrders : SourceOrders) (observedAt : DateTime) :
    List OutcomeEvent :=
  sortByKey OutcomeEvent.settlementKey (self.events.filter fun event =>
    (event.kind == .commissionAccrued || event.kind == .commissionReversed) &&
      event.orderId.any sourceOrders.contains && event.isKnownAt observedAt)

def accumulateNetworkEvent (partners : BTreeMap PartnerId Partner) (sourceOrders : SourceOrders)
    (commissions : BTreeMap CommissionId NetworkCommissionAccumulator) (event : OutcomeEvent) :
    Except OutcomeLedgerError (BTreeMap CommissionId NetworkCommissionAccumulator) := do
  let orderId ← okOr event.orderId .eventKindShapeMismatch
  let partnerId ← okOr event.partnerId .eventKindShapeMismatch
  let commissionId ← okOr event.commissionId .eventKindShapeMismatch
  let amount ← okOr event.amount .eventKindShapeMismatch
  let partner ← okOr partners[partnerId]? .settlementPartnerSupportClosureMismatch
  rejectIf (partner.supplyClass != .officialAuthorizedNetwork ||
    !officialNetworkProvider event.provider) .settlementCommissionAuthorityMismatch
  let (order, _) ← okOr sourceOrders[orderId]? .settlementSourceOrdersUnavailable
  rejectIf (decide (event.occurredAt < order.occurredAt)) .settlementWindowMismatch
  let commission := commissions[commissionId]?.getD
    ⟨partnerId, amount.currency, event.provider, orderId, none, 0, 0⟩
  rejectIf (commission.partnerId != partnerId || commission.currency != amount.currency ||
    commission.provider != event.provider || commission.orderId != orderId)
    .settlementCommissionAuthorityMismatch
  let next ← commission.addEvent event.kind amount.amountMinor
  return commissions.insert commissionId next

/-- What is left of a network's commission is added to its group. -/
def settleNetworkCommission (partners : BTreeMap PartnerId Partner) (state : SettlementState)
    (commission : NetworkCommissionAccumulator) : Except OutcomeLedgerError SettlementState := do
  let accruedMinor ← okOr commission.accruedMinor .settlementCommissionAuthorityMismatch
  let netMinor ← okOr (checkedI64 (accruedMinor - commission.reversedMinor))
    .settlementMoneyMismatch
  rejectIf (decide (netMinor < 0)) .settlementMoneyMismatch
  let partner ← okOr partners[commission.partnerId]? .settlementPartnerSupportClosureMismatch
  let key := SettlementAccumulator.key commission.partnerId commission.currency
  let accumulator := state.accumulators[key]?.getD
    (.empty commission.partnerId partner.supplyClass .officialNetworkFacts commission.currency ∅)
  rejectIf (accumulator.basis != .officialNetworkFacts) .settlementCommissionAuthorityMismatch
  let next ← accumulator.addCommission commission.orderId netMinor
  let view ← okOr state.orders[commission.orderId]? .settlementSourceOrdersUnavailable
  let count ← okOr (checkedAdd 64 view.networkCommissionEventCount commission.eventCount)
    .projectionCountOverflow
  return {
    orders := state.orders.insert commission.orderId
      { view with networkCommissionEventCount := count }
    accumulators := state.accumulators.insert key { next with
      authoritativeProviders := next.authoritativeProviders.insert commission.provider } }

/-! ## Payouts -/

def payoutEvents (self : OutcomeLedger) (mission : Mission) (observedAt : DateTime) :
    List OutcomeEvent :=
  sortByKey OutcomeEvent.settlementKey (self.events.filter fun event =>
    event.kind == .payoutCompleted && event.missionId == mission.id && event.isKnownAt observedAt)

/-- A payout that was not booked yet is booked against its group. -/
def payOut (state : BTreeSet PayoutId × SettlementAccumulators) (event : OutcomeEvent) :
    Except OutcomeLedgerError (BTreeSet PayoutId × SettlementAccumulators) := do
  let payoutId ← okOr event.payoutId .eventKindShapeMismatch
  rejectIf (state.1.contains payoutId) .settlementDuplicatePayout
  let partnerId ← okOr event.partnerId .eventKindShapeMismatch
  let amount ← okOr event.amount .eventKindShapeMismatch
  let key := SettlementAccumulator.key partnerId amount.currency
  let accumulator ← okOr state.2[key]? .settlementPayoutMismatch
  rejectIf (!accumulator.providerAllowed event.provider) .settlementPayoutMismatch
  let next ← accumulator.addPayout amount.amountMinor
  return (state.1.insert payoutId, state.2.insert key next)

end OutcomeLedger

/-! ## Closing the groups -/

/-- The groups that are closed, counted by status and by basis. -/
structure SettlementGroups where
  settlements : List PartnerSettlementView
  paidGroupCount : ℕ
  outstandingGroupCount : ℕ
  noPaymentDueGroupCount : ℕ
  officialNetworkGroupCount : ℕ
  hartevoManagedGroupCount : ℕ
  tenantPrivateGroupCount : ℕ

namespace SettlementGroups

def statusOf (commissionMinor outstandingMinor : ℤ) : SettlementGroupStatus :=
  if commissionMinor == 0 then .noPaymentDue
  else if outstandingMinor == 0 then .paid
  else .outstanding

def countStatus (self : SettlementGroups) :
    SettlementGroupStatus → Except OutcomeLedgerError SettlementGroups
  | .noPaymentDue => do
    let count ← countOne self.noPaymentDueGroupCount
    return { self with noPaymentDueGroupCount := count }
  | .paid => do
    let count ← countOne self.paidGroupCount
    return { self with paidGroupCount := count }
  | .outstanding => do
    let count ← countOne self.outstandingGroupCount
    return { self with outstandingGroupCount := count }

def countBasis (self : SettlementGroups) :
    SettlementCommissionBasis → Except OutcomeLedgerError SettlementGroups
  | .officialNetworkFacts => do
    let count ← countOne self.officialNetworkGroupCount
    return { self with officialNetworkGroupCount := count }
  | .hartevoCalculated => do
    let count ← countOne self.hartevoManagedGroupCount
    return { self with hartevoManagedGroupCount := count }
  | .tenantPrivateCalculated => do
    let count ← countOne self.tenantPrivateGroupCount
    return { self with tenantPrivateGroupCount := count }

def close (self : SettlementGroups) (accumulator : SettlementAccumulator) :
    Except OutcomeLedgerError SettlementGroups := do
  let outstandingMinor ← okOr
    (checkedI64 (accumulator.commissionAmountMinor - accumulator.payoutCompletedMinor))
    .settlementMoneyMismatch
  rejectIf (decide (outstandingMinor < 0)) .settlementPayoutMismatch
  let status := statusOf accumulator.commissionAmountMinor outstandingMinor
  let withStatus ← self.countStatus status
  let withBasis ← withStatus.countBasis accumulator.basis
  let sourceOrderCount ← projectionCount accumulator.sourceOrders.size
  return { withBasis with
    settlements := withBasis.settlements ++ [{
      partnerId := accumulator.partnerId
      supplyClass := accumulator.supplyClass
      basis := accumulator.basis
      currency := accumulator.currency
      sourceOrderCount := sourceOrderCount
      sourceCommissionCount := accumulator.sourceCommissionCount
      commissionAmount := ⟨accumulator.commissionAmountMinor, accumulator.currency⟩
      payoutCount := accumulator.payoutCount
      payoutCompletedAmount := ⟨accumulator.payoutCompletedMinor, accumulator.currency⟩
      outstandingAmount := ⟨outstandingMinor, accumulator.currency⟩
      status := status }] }

end SettlementGroups

/-! ## The projection -/

/-- Commissions are sorted by order and partner, and then by age. -/
def CommissionRecord.settlementKey (record : CommissionRecord) :
    OrderId ×ₗ PartnerId ×ₗ DateTime ×ₗ CommissionId :=
  toLex (record.orderId, toLex (record.partnerId, toLex (record.calculatedAt, record.id)))

namespace OutcomeLedger

def verifiedSettlementProjection (enc : ProjectionEncoding) (self : OutcomeLedger)
    (mission : Mission) (identityChain : OutcomeIdentityChainProjection) (partners : List Partner)
    (observedAt : DateTime) : Except OutcomeLedgerError OutcomeSettlementProjection := do
  let normalization ← self.verifiedNormalizationProjection enc.toOutcomeEncoding
  rejectIf (identityChain.mismatches self normalization) .settlementIdentityChainMismatch
  let (windowStartedAt, _, sourceOrders) ←
    (self.sourceMissionOrders mission observedAt).mapError settlementError
  let partnerMap ← self.settlementPartners partners
  let partnerPolicyDigest := enc.digest (enc.partnersJson partnerMap.vals)
  let partnerCount ← projectionCount partnerMap.size
  rejectIf (identityChain.partnerCount != partnerCount ||
    identityChain.partnerPolicyDigest != partnerPolicyDigest) .settlementIdentityChainMismatch
  let viewed ← self.viewOrders sourceOrders observedAt
  let latestCalculated := self.latestCalculated sourceOrders observedAt
  let calculated ← latestCalculated.toList.foldlM
    (self.accumulateCalculated enc.toOutcomeEncoding partnerMap observedAt) ⟨viewed.views, ∅⟩
  let selectedCalculated := sortByKey CommissionRecord.settlementKey latestCalculated.vals
  let networkEvents := self.networkEvents sourceOrders observedAt
  let networkCommissions ←
    networkEvents.foldlM (accumulateNetworkEvent partnerMap sourceOrders) ∅
  let settled ← networkCommissions.vals.foldlM (settleNetworkCommission partnerMap) calculated
  let payoutEvents := self.payoutEvents mission observedAt
  let (_, accumulators) ← payoutEvents.foldlM payOut (∅, settled.accumulators)
  let groups ← accumulators.vals.foldlM SettlementGroups.close ⟨[], 0, 0, 0, 0, 0, 0⟩
  let orderCount ← projectionCount settled.orders.size
  let refundCount ← projectionCount viewed.scopedRefunds.length
  let calculatedCommissionCount ← projectionCount selectedCalculated.length
  let networkCommissionEventCount ← projectionCount networkEvents.length
  let payoutCount ← projectionCount payoutEvents.length
  let settlementGroupCount ← projectionCount groups.settlements.length
  return {
    schemaVersion := 1
    tenantId := self.tenantId
    projectId := self.projectId
    sourceMissionId := mission.id
    sourceMissionRevision := mission.revision
    sourceLedgerRevision := self.revision
    windowStartedAt := windowStartedAt
    windowEndedAt := observedAt
    orderCount := orderCount
    refundedOrderCount := viewed.refundedOrderCount
    refundCount := refundCount
    calculatedCommissionCount := calculatedCommissionCount
    networkCommissionEventCount := networkCommissionEventCount
    payoutCount := payoutCount
    settlementGroupCount := settlementGroupCount
    paidGroupCount := groups.paidGroupCount
    outstandingGroupCount := groups.outstandingGroupCount
    noPaymentDueGroupCount := groups.noPaymentDueGroupCount
    officialNetworkGroupCount := groups.officialNetworkGroupCount
    hartevoManagedGroupCount := groups.hartevoManagedGroupCount
    tenantPrivateGroupCount := groups.tenantPrivateGroupCount
    normalizationDigest := normalization.digest enc.toOutcomeEncoding
    identityChainDigest := identityChain.digest enc.toOutcomeEncoding
    orderRefundDigest := enc.digest (enc.orderViewsJson settled.orders)
    commissionSourceDigest :=
      enc.digest (enc.commissionSourceJson selectedCalculated networkEvents)
    payoutSourceDigest := enc.digest (enc.eventsJson payoutEvents)
    partnerPolicyDigest := partnerPolicyDigest
    orders := settled.orders
    settlements := sortByKey
      (fun view => SettlementAccumulator.key view.partnerId view.currency) groups.settlements }

end OutcomeLedger

end Hartevo
