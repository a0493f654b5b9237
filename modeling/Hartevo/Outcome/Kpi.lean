import Hartevo.Outcome.Projections

/-!
# KPIs of a Mission

The contract of a Mission names metrics with a target and a unit.  For an instant, every metric is
measured on the events of the Mission that occurred in the window of the contract and were received
and verified by then.  A refund or a commission belongs to the Mission of its order.

Counts are compared with a target without fraction, sums of money are all in the currency of the
unit.
-/

namespace Hartevo

/-! ## Decimals and units -/

namespace Decimal

/-- The number has no fraction. -/
def isWhole (self : Decimal) : Bool :=
  self.mantissa % 10 ^ self.scale == 0

/-- The number without its fraction. -/
def trunc (self : Decimal) : ℤ :=
  self.mantissa.tdiv (10 ^ self.scale)

def toU64 (self : Decimal) : Option ℕ :=
  if self.isNegative then none else tryFromCount 64 self.trunc.toNat

def toI64 (self : Decimal) : Option ℤ :=
  checkedI64 self.trunc

end Decimal

def CurrencyCode.parse (value : String) : Option CurrencyCode :=
  if h : strLen value = 3 ∧ (value.toList.all Char.isUpper) = true then some ⟨value, h⟩ else none

def unitCurrency (unit : String) : Option CurrencyCode :=
  if startsWith unit "minor_units:" then
    CurrencyCode.parse (String.ofList (unit.toList.drop "minor_units:".toList.length))
  else none

/-! ## Metrics -/

inductive MissionKpiMetric
  | eventCount (kind : OutcomeEventKind)
  | grossRevenue | refundTotal | netRevenue | commissionAccrued | commissionReversed
  | payoutCompleted
deriving DecidableEq

def missionKpiMetric (metricId : String) : Except OutcomeLedgerError MissionKpiMetric :=
  match metricId with
  | "lead_qualified_count" => .ok (.eventCount .leadQualified)
  | "meeting_booked_count" => .ok (.eventCount .meetingBooked)
  | "opportunity_stage_change_count" => .ok (.eventCount .opportunityStageChanged)
  | "order_count" => .ok (.eventCount .orderPlaced)
  | "refund_count" => .ok (.eventCount .refundIssued)
  | "commission_accrued_count" => .ok (.eventCount .commissionAccrued)
  | "commission_reversed_count" => .ok (.eventCount .commissionReversed)
  | "payout_completed_count" => .ok (.eventCount .payoutCompleted)
  | "gross_revenue_minor" => .ok .grossRevenue
  | "refund_total_minor" => .ok .refundTotal
  | "net_revenue_minor" => .ok .netRevenue
  | "commission_accrued_minor" => .ok .commissionAccrued
  | "commission_reversed_minor" => .ok .commissionReversed
  | "payout_completed_minor" => .ok .payoutCompleted
  | _ => .error .unsupportedKpiMetric

/-- The events that a sum of money is taken over. -/
def MissionKpiMetric.isRelevant (self : MissionKpiMetric) (kind : OutcomeEventKind) : Bool :=
  match self with
  | .eventCount _ => false
  | .grossRevenue => kind == .orderPlaced
  | .refundTotal => kind == .refundIssued
  | .netRevenue => kind == .orderPlaced || kind == .refundIssued
  | .commissionAccrued => kind == .commissionAccrued
  | .commissionReversed => kind == .commissionReversed
  | .payoutCompleted => kind == .payoutCompleted

def kpiTargetMet (observed : Decimal) (contract : KpiContract) : Bool :=
  match contract.direction with
  | .atLeast => !observed.lt contract.target
  | .atMost => !contract.target.lt observed

/-! ## Measurements -/

def measureCount (metricId : String) (contract : KpiContract) (kind : OutcomeEventKind)
    (events : List OutcomeEvent) : Except OutcomeLedgerError MissionKpiMeasurement := do
  rejectIf (contract.unit != "count" || contract.target.isNegative || !contract.target.isWhole ||
    contract.target.toU64.isNone || contract.baseline.any fun baseline =>
      baseline.isNegative || !baseline.isWhole || baseline.toU64.isNone) .invalidKpiContract
  let count ← projectionCount (events.countP fun event => event.kind == kind)
  return {
    metricId := metricId
    sourceEventCount := count
    observed := .count count
    baseline := contract.baseline
    target := contract.target
    unit := contract.unit
    direction := contract.direction
    targetMet := kpiTargetMet (.ofInt count) contract }

/-- One more event of a sum; refunds are taken off the net revenue. -/
def addMoney (metric : MissionKpiMetric) (currency : CurrencyCode) (amount : Money)
    (event : OutcomeEvent) : Except OutcomeLedgerError Money := do
  let eventAmount ← okOr event.amount .eventKindShapeMismatch
  rejectIf (eventAmount.currency != currency) .kpiCurrencyMismatch
  (if metric == .netRevenue && event.kind == .refundIssued then amount.checkedSub eventAmount
    else amount.checkedAdd eventAmount).mapError fun _ => .kpiArithmetic

/-- The sum of the amounts of the relevant events. -/
def measureMoney (metricId : String) (contract : KpiContract) (metric : MissionKpiMetric)
    (events : List OutcomeEvent) : Except OutcomeLedgerError MissionKpiMeasurement := do
  let currency ← okOr (unitCurrency contract.unit) .invalidKpiContract
  rejectIf (!contract.target.isWhole || contract.target.toI64.isNone ||
    contract.baseline.any fun baseline => !baseline.isWhole || baseline.toI64.isNone)
    .invalidKpiContract
  let relevant := events.filter fun event => metric.isRelevant event.kind
  let amount ← relevant.foldlM (addMoney metric currency) (.zero currency)
  let count ← projectionCount relevant.length
  return {
    metricId := metricId
    sourceEventCount := count
    observed := .money amount
    baseline := contract.baseline
    target := contract.target
    unit := contract.unit
    direction := contract.direction
    targetMet := kpiTargetMet (.ofInt amount.amountMinor) contract }

def missionKpiMeasurement (metricId : String) (contract : KpiContract)
    (events : List OutcomeEvent) : Except OutcomeLedgerError MissionKpiMeasurement := do
  let metric ← missionKpiMetric metricId
  match metric with
  | .eventCount kind => measureCount metricId contract kind events
  | _ => measureMoney metricId contract metric events

/-- One more metric of the contract: the measurements and the number of targets that are met. -/
def measureMetric (events : List OutcomeEvent)
    (measured : BTreeMap String MissionKpiMeasurement × ℕ) (entry : String × KpiContract) :
    Except OutcomeLedgerError (BTreeMap String MissionKpiMeasurement × ℕ) := do
  let measurement ← missionKpiMeasurement entry.1 entry.2 events
  let targetMetCount ← if measurement.targetMet then countOne measured.2 else .ok measured.2
  return (measured.1.insert entry.1 measurement, targetMetCount)

/-! ## The events of a Mission -/

/-- Events of the kind belong to the Mission of their order. -/
def OutcomeEventKind.followsOrder (self : OutcomeEventKind) : Bool :=
  self == .refundIssued || self == .commissionAccrued || self == .commissionReversed

namespace OutcomeLedger

def addOrderMission (missions : BTreeMap OrderId MissionId) (event : OutcomeEvent) :
    Except OutcomeLedgerError (BTreeMap OrderId MissionId) := do
  let orderId ← okOr event.orderId .eventKindShapeMismatch
  return missions.insert orderId event.missionId

def orderMissions (self : OutcomeLedger) :
    Except OutcomeLedgerError (BTreeMap OrderId MissionId) :=
  (self.events.filter fun event => event.kind == .orderPlaced).foldlM addOrderMission ∅

def owningMission (orderMissions : BTreeMap OrderId MissionId) (event : OutcomeEvent) : MissionId :=
  if event.kind.followsOrder then
    (event.orderId.bind fun orderId => orderMissions[orderId]?).getD event.missionId
  else event.missionId

/-- The events of the Mission in the window that are known at the instant. -/
def scopedEvents (self : OutcomeLedger) (mission : Mission)
    (windowStartedAt windowEndedAt observedAt : DateTime) :
    Except OutcomeLedgerError (List OutcomeEvent) := do
  let orderMissions ← self.orderMissions
  self.events.forM fun event =>
    rejectIf (event.kind.followsOrder &&
      event.orderId.all fun orderId => !orderMissions.contains orderId) .unknownOrder
  let inScope := self.events.filter fun event =>
    owningMission orderMissions event == mission.id &&
      decide (windowStartedAt ≤ event.occurredAt) && decide (event.occurredAt ≤ windowEndedAt) &&
      event.isKnownAt observedAt
  rejectIf inScope.isEmpty .kpiSourceEventsUnavailable
  return sortByKey OutcomeEvent.canonicalKey inScope

/-! ## The projection -/

def verifiedMissionKpiProjection (enc : ProjectionEncoding) (self : OutcomeLedger)
    (mission : Mission) (identityChain : OutcomeIdentityChainProjection) (observedAt : DateTime) :
    Except OutcomeLedgerError MissionKpiProjection := do
  let normalization ← self.verifiedNormalizationProjection enc.toOutcomeEncoding
  rejectIf (identityChain.mismatches self normalization) .kpiIdentityChainMismatch
  rejectIf (mission.tenantId != self.tenantId || mission.projectId != self.projectId ||
    mission.revision == 0) .kpiMissionScopeMismatch
  (mission.contract.validate mission.contract.validFrom).mapError fun _ => .invalidKpiContract
  rejectIf (mission.contract.kpis.isEmpty || decide (observedAt < mission.contract.validFrom))
    .invalidKpiContract
  let windowStartedAt := mission.contract.validFrom
  let windowEndedAt := min observedAt mission.contract.validUntil
  let inScope ← self.scopedEvents mission windowStartedAt windowEndedAt observedAt
  let sourceEventCount ← projectionCount inScope.length
  let (measurements, targetMetCount) ←
    mission.contract.kpis.toList.foldlM (measureMetric inScope) (∅, 0)
  let measurementCount ← projectionCount measurements.size
  return {
    schemaVersion := 1
    tenantId := self.tenantId
    projectId := self.projectId
    sourceMissionId := mission.id
    sourceMissionRevision := mission.revision
    sourceLedgerRevision := self.revision
    windowStartedAt := windowStartedAt
    windowEndedAt := windowEndedAt
    sourceEventCount := sourceEventCount
    measurementCount := measurementCount
    targetMetCount := targetMetCount
    sourceContractDigest := enc.digest (enc.kpiContractJson mission)
    sourceEventDigest :=
      canonicalOutcomeEventDigest enc.toOutcomeEncoding inScope sourceEventCount
    normalizationDigest := normalization.digest enc.toOutcomeEncoding
    identityChainDigest := identityChain.digest enc.toOutcomeEncoding
    measurements := measurements }

end OutcomeLedger

end Hartevo
