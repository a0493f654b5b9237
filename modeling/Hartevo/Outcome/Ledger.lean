import Hartevo.Outcome.Model
import Hartevo.Foundation.Machine

/-!
# The outcome ledger

The ledger takes in events, attributions and commissions one at a time.  An order is there once, the
refunds of an order never exceed it, and a commission is calculated from the amount that is left of
its order.  A later refund of the order, or a later commission for the same order and partner, only
changes the status of the commissions that are there.

`OutcomeLedger.validate` derives everything again from the stored events and records, and
`OutcomeLedger.follows` accepts a ledger as the successor of another one if it is the result of one
command.
-/

namespace Hartevo

open Command

namespace OutcomeLedger

def new (tenantId : TenantId) (projectId : ProjectId) :
    Except OutcomeLedgerError OutcomeLedger := do
  rejectIf (isBlank tenantId || isBlank projectId) .invalidLedgerScope
  return ⟨tenantId, projectId, [], [], [], [], [], 1⟩

def nextRevision (self : OutcomeLedger) : Except OutcomeLedgerError ℕ :=
  okOr (checkedAdd 64 self.revision 1) .revisionOverflow

/-- The order with an identifier. -/
def order? (self : OutcomeLedger) (orderId : OrderId) : Option OutcomeOrder :=
  self.orders.find? fun order => order.id == orderId

/-! ## What is left of an order -/

/-- An amount without the refunds, taken off one after the other. -/
def subtractRefunds (amount : Money) (refunds : List OutcomeRefund) :
    Except OutcomeLedgerError Money :=
  refunds.foldlM (fun net refund =>
    (net.checkedSub refund.amount).mapError fun _ => .currencyOrArithmeticMismatch) amount

def netOrderAmount (self : OutcomeLedger) (orderId : OrderId) :
    Except OutcomeLedgerError Money := do
  let order ← okOr (self.order? orderId) .unknownOrder
  subtractRefunds order.originalAmount (self.refunds.filter fun refund => refund.orderId == orderId)

/-- The refunds of an order whose events were received by an instant. -/
def refundsKnownAt (self : OutcomeLedger) (orderId : OrderId) (knownAt : DateTime) :
    List OutcomeRefund :=
  self.refunds.filter fun refund => refund.orderId == orderId &&
    ((self.events.find? fun event => event.id == refund.sourceEventId).any fun event =>
      decide (event.receivedAt ≤ knownAt))

def netOrderAmountAt (self : OutcomeLedger) (orderId : OrderId) (knownAt : DateTime) :
    Except OutcomeLedgerError Money := do
  let order ← okOr (self.order? orderId) .unknownOrder
  subtractRefunds order.originalAmount (self.refundsKnownAt orderId knownAt)

/-- The serialisation of the refunds never fails. -/
def refundSetDigestAt (enc : OutcomeEncoding) (self : OutcomeLedger) (orderId : OrderId)
    (knownAt : DateTime) : String :=
  enc.digest (refundsJson enc (self.refundsKnownAt orderId knownAt))

/-! ## Commands -/

def ingestOrder (event : OutcomeEvent) : Command OutcomeLedger OutcomeLedgerError Unit := do
  let order ← check fun self => do
    let orderId ← okOr event.orderId .eventKindShapeMismatch
    rejectIf (self.orders.any fun order => order.id == orderId) .duplicateOrder
    let amount ← okOr event.amount .eventKindShapeMismatch
    return ({
      id := orderId
      sourceEventId := event.id
      originalAmount := amount
      occurredAt := event.occurredAt } : OutcomeOrder)
  modify fun self => { self with orders := self.orders ++ [order] }

/-- A refund of the order makes a current commission stale. -/
def requireRecalculation (orderId : OrderId) (commission : CommissionRecord) : CommissionRecord :=
  if commission.orderId == orderId && commission.status == .current then
    { commission with status := .recalculationRequired }
  else commission

def ingestRefund (event : OutcomeEvent) : Command OutcomeLedger OutcomeLedgerError Unit := do
  let refund ← check fun self => do
    let orderId ← okOr event.orderId .eventKindShapeMismatch
    let refundId ← okOr event.refundId .eventKindShapeMismatch
    rejectIf (self.refunds.any fun refund => refund.id == refundId) .duplicateRefund
    let amount ← okOr event.amount .eventKindShapeMismatch
    let currentNet ← self.netOrderAmount orderId
    let nextNet ← (currentNet.checkedSub amount).mapError fun _ => .currencyOrArithmeticMismatch
    rejectIf (decide (nextNet.amountMinor < 0)) .refundExceedsOrder
    let order ← okOr (self.order? orderId) .unknownOrder
    rejectIf (decide (event.occurredAt < order.occurredAt)) .refundPredatesOrder
    return ({
      id := refundId
      orderId := orderId
      sourceEventId := event.id
      amount := amount
      occurredAt := event.occurredAt } : OutcomeRefund)
  modify fun self => { self with
    refunds := self.refunds ++ [refund]
    commissions := self.commissions.map (requireRecalculation refund.orderId) }

/-- What an event adds to the orders and refunds. -/
def ingestProjection (event : OutcomeEvent) : Command OutcomeLedger OutcomeLedgerError Unit :=
  match event.kind with
  | .orderPlaced => ingestOrder event
  | .refundIssued => ingestRefund event
  | _ => pure ()

def ingestValidated (event : OutcomeEvent) : Command OutcomeLedger OutcomeLedgerError Unit := do
  let nextRevision ← check fun self => do
    rejectIf (event.tenantId != self.tenantId || event.projectId != self.projectId) .scopeMismatch
    rejectIf (self.events.any fun stored => stored.id == event.id ||
      (stored.provider == event.provider && stored.sourceEventId == event.sourceEventId))
      .duplicateEvent
    self.nextRevision
  ingestProjection event
  modify fun self => { self with events := self.events ++ [event], revision := nextRevision }

def ingest (event : OutcomeEvent) : Command OutcomeLedger OutcomeLedgerError Unit := do
  check fun _ => event.validate
  ingestValidated event

def ingestPersisted (event : OutcomeEvent) : Command OutcomeLedger OutcomeLedgerError Unit := do
  check fun _ => event.validatePersisted
  ingestValidated event

/-- The command `attribute`; the word is reserved. -/
def attributeRecord (record : AttributionRecord) :
    Command OutcomeLedger OutcomeLedgerError Unit := do
  let nextRevision ← check fun self => do
    rejectIf (self.attributions.any fun stored => stored.id == record.id) .duplicateAttribution
    let nextRevision ← self.nextRevision
    let order ← okOr (self.order? record.orderId) .unknownOrder
    record.validate self.tenantId self.projectId order
    return nextRevision
  modify fun self => { self with
    attributions := self.attributions ++ [record]
    revision := nextRevision }

def activeCommissionIndex (self : OutcomeLedger) (orderId : OrderId) (partnerId : PartnerId) :
    Except OutcomeLedgerError (Option ℕ) :=
  match (self.commissions.zipIdx.filter fun entry => entry.1.orderId == orderId &&
      entry.1.partnerId == partnerId && entry.1.isActive).map Prod.snd with
  | [] => .ok none
  | [index] => .ok (some index)
  | _ => .error .commissionInvariantViolation

/-- When the last refund of the order was received. -/
def latestRefundObservedAt (self : OutcomeLedger) (orderId : OrderId) : Option DateTime :=
  ((self.events.filter fun event => event.kind == .refundIssued &&
    event.orderId == some orderId).map (·.receivedAt)).max?

/-- The record of a commission that can be calculated now, and the position of the one that it
replaces. -/
def checkCommission (enc : OutcomeEncoding) (self : OutcomeLedger) (id : CommissionId)
    (orderId : OrderId) (partnerId : PartnerId) (rate : Decimal) (termsDigest : String)
    (calculatedAt : DateTime) :
    Except OutcomeLedgerError (ℕ × Option ℕ × CommissionRecord) := do
  rejectIf (isBlank id || isBlank partnerId || decide (rate.mantissa ≤ 0) || rate.exceedsOne ||
    !isSha256 termsDigest || self.commissions.any fun record => record.id == id) .invalidCommission
  let nextRevision ← self.nextRevision
  let order ← okOr (self.order? orderId) .unknownOrder
  rejectIf (decide (calculatedAt < order.occurredAt) ||
    (self.latestRefundObservedAt orderId).any fun observedAt => decide (calculatedAt < observedAt))
    .invalidCommission
  let net ← self.netOrderAmount orderId
  let amount ← okOr (enc.commissionMinor net.amountMinor rate) .arithmeticOverflow
  let supersededIndex ← self.activeCommissionIndex orderId partnerId
  return (nextRevision, supersededIndex, {
    id := id
    tenantId := self.tenantId
    projectId := self.projectId
    orderId := orderId
    partnerId := partnerId
    rate := rate
    eligibleNetAmount := net
    commissionAmount := ⟨amount, net.currency⟩
    termsDigest := termsDigest
    refundSetDigest := self.refundSetDigestAt enc orderId calculatedAt
    supersedes := supersededIndex.bind fun index => self.commissions[index]?.map (·.id)
    status := .current
    calculatedAt := calculatedAt })

def supersede (commissions : List CommissionRecord) : Option ℕ → List CommissionRecord
  | some index => commissions.modify index fun record => { record with status := .superseded }
  | none => commissions

def calculateCommission (enc : OutcomeEncoding) (id : CommissionId) (orderId : OrderId)
    (partnerId : PartnerId) (rate : Decimal) (termsDigest : String) (calculatedAt : DateTime) :
    Command OutcomeLedger OutcomeLedgerError CommissionRecord := do
  let (nextRevision, supersededIndex, record) ← check fun self =>
    self.checkCommission enc id orderId partnerId rate termsDigest calculatedAt
  modify fun self => { self with
    commissions := supersede self.commissions supersededIndex ++ [record]
    revision := nextRevision }
  return record

/-! ## Validation -/

/-- The checks of a stored commission that read nothing else. -/
def commissionShapeInvalid (self : OutcomeLedger) (record : CommissionRecord) : Bool :=
  isBlank record.id || record.tenantId != self.tenantId || record.projectId != self.projectId ||
    isBlank record.partnerId || decide (record.rate.mantissa ≤ 0) || record.rate.exceedsOne ||
    !isSha256 record.termsDigest || !isSha256 record.refundSetDigest ||
    decide (record.eligibleNetAmount.amountMinor < 0) ||
    decide (record.commissionAmount.amountMinor < 0) ||
    record.eligibleNetAmount.currency != record.commissionAmount.currency

/-- The commission that a stored one replaced. -/
def validateSuperseded (self : OutcomeLedger) (record : CommissionRecord) :
    Except OutcomeLedgerError Unit :=
  match record.supersedes with
  | none => .ok ()
  | some previousId => do
    let previous ← okOr (self.commissions.find? fun candidate => candidate.id == previousId)
      .commissionProjectionMismatch
    rejectIf (previous.orderId != record.orderId || previous.partnerId != record.partnerId ||
      decide (record.calculatedAt < previous.calculatedAt) || previous.status != .superseded)
      .commissionProjectionMismatch

def laterRefundExists (self : OutcomeLedger) (record : CommissionRecord) : Bool :=
  self.events.any fun event => event.kind == .refundIssued &&
    event.orderId == some record.orderId && decide (record.calculatedAt < event.receivedAt)

def validateCommissionRecord (enc : OutcomeEncoding) (self : OutcomeLedger)
    (record : CommissionRecord) : Except OutcomeLedgerError Unit := do
  rejectIf (self.commissionShapeInvalid record) .invalidCommission
  let order ← okOr (self.order? record.orderId) .unknownOrder
  rejectIf (decide (record.calculatedAt < order.occurredAt)) .invalidCommission
  let expectedNet ← self.netOrderAmountAt record.orderId record.calculatedAt
  let expectedAmount ← okOr (enc.commissionMinor expectedNet.amountMinor record.rate)
    .arithmeticOverflow
  rejectIf (record.eligibleNetAmount != expectedNet ||
    record.commissionAmount != ⟨expectedAmount, expectedNet.currency⟩ ||
    record.refundSetDigest != self.refundSetDigestAt enc record.orderId record.calculatedAt)
    .commissionProjectionMismatch
  self.validateSuperseded record
  match record.status with
  | .current => rejectIf (self.laterRefundExists record) .commissionProjectionMismatch
  | .recalculationRequired =>
    rejectIf (!self.laterRefundExists record) .commissionProjectionMismatch
  | .superseded => .ok ()

/-- The stored attributions, given the identifiers of those before. -/
def validateAttributions (self : OutcomeLedger) :
    List AttributionId → List AttributionRecord → Except OutcomeLedgerError Unit
  | _, [] => .ok ()
  | seen, attribution :: rest => do
    rejectIf (seen.contains attribution.id) .duplicateAttribution
    let order ← okOr (self.order? attribution.orderId) .unknownOrder
    attribution.validatePersisted self.tenantId self.projectId order
    self.validateAttributions (attribution.id :: seen) rest

/-- The stored commissions, given the identifiers of those before, and the orders and partners for
which there is an active one. -/
def validateCommissions (enc : OutcomeEncoding) (self : OutcomeLedger) :
    List CommissionId → List (OrderId × PartnerId) → List CommissionRecord →
      Except OutcomeLedgerError Unit
  | _, _, [] => .ok ()
  | seen, active, commission :: rest => do
    rejectIf (seen.contains commission.id) .invalidCommission
    self.validateCommissionRecord enc commission
    rejectIf (commission.isActive && active.contains (commission.orderId, commission.partnerId))
      .commissionInvariantViolation
    self.validateCommissions enc (commission.id :: seen)
      (if commission.isActive then (commission.orderId, commission.partnerId) :: active
        else active) rest

def replay (tenantId : TenantId) (projectId : ProjectId) (events : List OutcomeEvent) :
    Except OutcomeLedgerError OutcomeLedger := do
  let start ← OutcomeLedger.new tenantId projectId
  events.foldlM (fun projection event =>
    match (ingestPersisted event).exec projection with
    | (.ok (), next) => .ok next
    | (.error error, _) => .error error) start

def validate (enc : OutcomeEncoding) (self : OutcomeLedger) :
    Except OutcomeLedgerError Unit := do
  rejectIf (isBlank self.tenantId || isBlank self.projectId) .invalidLedgerScope
  let mutationCount ← okOr ((checkedAdd 64 self.events.length self.attributions.length).bind
    fun count => checkedAdd 64 count self.commissions.length) .revisionOverflow
  let expectedRevision ← okOr (checkedAdd 64 mutationCount 1) .revisionOverflow
  rejectIf (self.revision != expectedRevision)
    (.projectionRevisionMismatch expectedRevision self.revision)
  let eventProjection ← replay self.tenantId self.projectId self.events
  rejectIf (eventProjection.orders != self.orders || eventProjection.refunds != self.refunds)
    .eventProjectionMismatch
  self.validateAttributions [] self.attributions
  self.validateCommissions enc [] [] self.commissions

/-! ## Successors -/

/-- Equal ledgers, up to the representation of decimals. -/
def same (a b : OutcomeLedger) : Bool :=
  a.tenantId == b.tenantId && a.projectId == b.projectId && a.events == b.events &&
    a.orders == b.orders && a.refunds == b.refunds &&
    a.attributions.isEqv b.attributions AttributionRecord.same &&
    a.commissions.isEqv b.commissions CommissionRecord.same && a.revision == b.revision

/-- The ledger is what a command makes of another one. -/
def isResultOf {α : Type} (self previous : OutcomeLedger)
    (command : Command OutcomeLedger OutcomeLedgerError α) : Bool :=
  match command.exec previous with
  | (.ok _, candidate) => candidate.same self
  | (.error _, _) => false

/-- The attributions begin with those of another ledger. -/
def attributionsStartWith (self previous : OutcomeLedger) : Bool :=
  (self.attributions.take previous.attributions.length).isEqv previous.attributions
    AttributionRecord.same

def follows (enc : OutcomeEncoding) (self previous : OutcomeLedger) :
    Except OutcomeLedgerError Bool := do
  previous.validate enc
  self.validate enc
  if self.tenantId != previous.tenantId || self.projectId != previous.projectId ||
      checkedAdd 64 previous.revision 1 != some self.revision then
    return false
  if self.events.length == previous.events.length + 1 &&
      previous.events.isPrefixOf self.events &&
      self.events.getLast?.any fun event => self.isResultOf previous (ingest event) then
    return true
  if self.attributions.length == previous.attributions.length + 1 &&
      self.attributionsStartWith previous &&
      self.attributions.getLast?.any fun record =>
        self.isResultOf previous (attributeRecord record) then
    return true
  if self.commissions.length == previous.commissions.length + 1 &&
      self.commissions.getLast?.any fun next => self.isResultOf previous
        (calculateCommission enc next.id next.orderId next.partnerId next.rate next.termsDigest
          next.calculatedAt) then
    return true
  return false

end OutcomeLedger

/-! ## The ledger as a machine -/

inductive OutcomeCommand
  | ingest (event : OutcomeEvent)
  | attributeRecord (record : AttributionRecord)
  | calculateCommission (id : CommissionId) (orderId : OrderId) (partnerId : PartnerId)
    (rate : Decimal) (termsDigest : String) (calculatedAt : DateTime)

inductive OutcomeReply
  | done
  | calculated (record : CommissionRecord)

/-- What a command does. -/
def OutcomeCommand.toCommand (enc : OutcomeEncoding) :
    OutcomeCommand → Command OutcomeLedger OutcomeLedgerError OutcomeReply
  | .ingest event => (fun _ => .done) <$> OutcomeLedger.ingest event
  | .attributeRecord record => (fun _ => .done) <$> OutcomeLedger.attributeRecord record
  | .calculateCommission id orderId partnerId rate termsDigest calculatedAt =>
    .calculated <$> OutcomeLedger.calculateCommission enc id orderId partnerId rate termsDigest
      calculatedAt

def OutcomeLedger.step (enc : OutcomeEncoding) (self : OutcomeLedger)
    (command : OutcomeCommand) : Except OutcomeLedgerError OutcomeReply × OutcomeLedger :=
  (command.toCommand enc).exec self

/-! ## A sample ledger -/

/-- A verified order of 100 euros. -/
def OutcomeEvent.sampleOrder : OutcomeEvent where
  id := "order-event"
  tenantId := "tenant"
  projectId := "project"
  missionId := "mission"
  kind := .orderPlaced
  provider := "shop"
  connectionId := some "connection"
  accountId := some "account"
  sourceEventId := "order-source"
  identityLinkId := some "link"
  opportunityId := none
  campaignId := none
  orderId := some "order"
  refundId := none
  commissionId := none
  payoutId := none
  partnerId := none
  amount := some ⟨10000, .sample⟩
  occurredAt := 1
  receivedAt := 1
  evidenceDigest := lowerHex 0
  rawPayloadDigest := lowerHex 0
  sourceVerification := some ⟨.signedWebhook, "verifier", true, 100, lowerHex 0⟩

/-- A refund of that order, with its identifier, amount and the instant at which it was received. -/
def OutcomeEvent.sampleRefund (refundId : RefundId) (amountMinor : ℤ) (receivedAt : DateTime) :
    OutcomeEvent :=
  { sampleOrder with
    id := refundId ++ "-event"
    kind := .refundIssued
    sourceEventId := refundId ++ "-source"
    refundId := some refundId
    amount := some ⟨amountMinor, .sample⟩
    occurredAt := 2
    receivedAt := receivedAt }

def OutcomeLedger.sample : OutcomeLedger :=
  ⟨"tenant", "project", [], [], [], [], [], 1⟩

/-- A commission of ten percent on that order for a partner. -/
def OutcomeCommand.sampleCommission (id : CommissionId) (calculatedAt : DateTime) :
    OutcomeCommand :=
  .calculateCommission id "order" "partner" ⟨1, 1⟩ (lowerHex 0) calculatedAt

end Hartevo
