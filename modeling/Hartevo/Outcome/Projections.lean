import Hartevo.Identity.Support
import Hartevo.Outcome.Normalization

/-!
# What is projected from a ledger

The identity chain of a ledger says that every event is covered by an identity, and names the
support records by their digest.  The KPI projection of a Mission measures the metrics of its
contract, and the settlement projection reconciles its orders with commissions and payouts.  Both
are made for an instant, and name the identity chain that they were made with.

The JSON forms of the records that enter a digest are code of another package and come as
`ProjectionEncoding`.
-/

namespace Hartevo

/-! ## Identity chain -/

/-- The records that the identity chain is resolved with. -/
structure IdentitySupport where
  connections : List ConnectionSnapshot
  identityLinks : List IdentityLink
  people : List Person
  companies : List Company
  partners : List Partner
  opportunities : List Opportunity

structure OutcomeIdentityChainProjection where
  schemaVersion : ℕ
  tenantId : TenantId
  projectId : ProjectId
  sourceLedgerRevision : ℕ
  eventCount : ℕ
  identityCoveredEventCount : ℕ
  directIdentityEventCount : ℕ
  inheritedOrderIdentityEventCount : ℕ
  externalAccountMatchCount : ℕ
  connectionCount : ℕ
  identityLinkCount : ℕ
  personCount : ℕ
  companyCount : ℕ
  partnerCount : ℕ
  opportunityCount : ℕ
  partnerPolicyDigest : String
  sourceSupportDigest : String

def OutcomeIdentityChainProjection.digest (enc : OutcomeEncoding)
    (self : OutcomeIdentityChainProjection) : String :=
  enc.digest (hashField "hartevo-outcome-identity-chain/v1" ++
    hashField (toString self.schemaVersion) ++ hashField self.tenantId ++
    hashField self.projectId ++ hashField (toString self.sourceLedgerRevision) ++
    hashField (toString self.eventCount) ++
    hashField (toString self.identityCoveredEventCount) ++
    hashField (toString self.directIdentityEventCount) ++
    hashField (toString self.inheritedOrderIdentityEventCount) ++
    hashField (toString self.externalAccountMatchCount) ++
    hashField (toString self.connectionCount) ++ hashField (toString self.identityLinkCount) ++
    hashField (toString self.personCount) ++ hashField (toString self.companyCount) ++
    hashField (toString self.partnerCount) ++ hashField (toString self.opportunityCount) ++
    hashField self.partnerPolicyDigest ++ hashField self.sourceSupportDigest)

/-- The chain is not one of the ledger as it is. -/
def OutcomeIdentityChainProjection.mismatches (self : OutcomeIdentityChainProjection)
    (ledger : OutcomeLedger) (normalization : OutcomeNormalizationProjection) : Bool :=
  self.tenantId != ledger.tenantId || self.projectId != ledger.projectId ||
    self.sourceLedgerRevision != ledger.revision ||
    self.eventCount != normalization.eventCount ||
    self.identityCoveredEventCount != normalization.eventCount

/-- The event was received and verified by an instant. -/
def OutcomeEvent.isKnownAt (self : OutcomeEvent) (observedAt : DateTime) : Bool :=
  decide (self.receivedAt ≤ observedAt) &&
    self.sourceVerification.any fun verification => decide (verification.verifiedAt ≤ observedAt)

def countOne (count : ℕ) : Except OutcomeLedgerError ℕ :=
  okOr (checkedAdd 64 count 1) .projectionCountOverflow

/-! ## KPIs -/

inductive MissionKpiObservedValue
  | count (value : ℕ)
  | money (value : Money)

structure MissionKpiMeasurement where
  metricId : String
  sourceEventCount : ℕ
  observed : MissionKpiObservedValue
  baseline : Option Decimal
  target : Decimal
  unit : String
  direction : KpiDirection
  targetMet : Bool

structure MissionKpiProjection where
  schemaVersion : ℕ
  tenantId : TenantId
  projectId : ProjectId
  sourceMissionId : MissionId
  sourceMissionRevision : ℕ
  sourceLedgerRevision : ℕ
  windowStartedAt : DateTime
  windowEndedAt : DateTime
  sourceEventCount : ℕ
  measurementCount : ℕ
  targetMetCount : ℕ
  sourceContractDigest : String
  sourceEventDigest : String
  normalizationDigest : String
  identityChainDigest : String
  measurements : BTreeMap String MissionKpiMeasurement

/-! ## Settlement -/

inductive SettlementCommissionBasis
  | officialNetworkFacts | hartevoCalculated | tenantPrivateCalculated
deriving DecidableEq

inductive SettlementGroupStatus
  | noPaymentDue | outstanding | paid

structure OrderSettlementView where
  orderId : OrderId
  originalAmount : Money
  refundCount : ℕ
  refundedAmount : Money
  eligibleNetAmount : Money
  calculatedCommissionRecordCount : ℕ
  networkCommissionEventCount : ℕ

structure PartnerSettlementView where
  partnerId : PartnerId
  supplyClass : PartnerSupplyClass
  basis : SettlementCommissionBasis
  currency : CurrencyCode
  sourceOrderCount : ℕ
  sourceCommissionCount : ℕ
  commissionAmount : Money
  payoutCount : ℕ
  payoutCompletedAmount : Money
  outstandingAmount : Money
  status : SettlementGroupStatus

structure OutcomeSettlementProjection where
  schemaVersion : ℕ
  tenantId : TenantId
  projectId : ProjectId
  sourceMissionId : MissionId
  sourceMissionRevision : ℕ
  sourceLedgerRevision : ℕ
  windowStartedAt : DateTime
  windowEndedAt : DateTime
  orderCount : ℕ
  refundedOrderCount : ℕ
  refundCount : ℕ
  calculatedCommissionCount : ℕ
  networkCommissionEventCount : ℕ
  payoutCount : ℕ
  settlementGroupCount : ℕ
  paidGroupCount : ℕ
  outstandingGroupCount : ℕ
  noPaymentDueGroupCount : ℕ
  officialNetworkGroupCount : ℕ
  hartevoManagedGroupCount : ℕ
  tenantPrivateGroupCount : ℕ
  normalizationDigest : String
  identityChainDigest : String
  orderRefundDigest : String
  commissionSourceDigest : String
  payoutSourceDigest : String
  partnerPolicyDigest : String
  orders : BTreeMap OrderId OrderSettlementView
  settlements : List PartnerSettlementView

/-! ## Encodings -/

/-- The JSON forms of what enters the digests of the projections. -/
structure ProjectionEncoding extends OutcomeEncoding where
  supportJson : String → IdentitySupport → List UInt8
  partnersJson : List Partner → List UInt8
  kpiContractJson : Mission → List UInt8
  orderViewsJson : BTreeMap OrderId OrderSettlementView → List UInt8
  commissionSourceJson : List CommissionRecord → List OutcomeEvent → List UInt8
  eventsJson : List OutcomeEvent → List UInt8

def ProjectionEncoding.sample : ProjectionEncoding where
  toOutcomeEncoding := .sample
  supportJson _ _ := []
  partnersJson _ := []
  kpiContractJson _ := []
  orderViewsJson _ := []
  commissionSourceJson _ _ := []
  eventsJson _ := []

end Hartevo
