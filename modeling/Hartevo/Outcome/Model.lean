import Hartevo.Mission.Digest

/-!
# Outcome events and the records of the ledger

What a Mission achieved is recorded as outcome events: orders and refunds, commissions and payouts,
and the meetings and opportunities before them.  An event names its provider and the provider's own
identity of it, the instants at which it occurred and was received, and how its source was verified.

The ledger derives orders and refunds from the events, and keeps records of attribution and of
commissions next to them.

SHA-256, the printed forms of an instant and the multiplication of decimals are code of other
packages and enter as `OutcomeEncoding`.
-/

namespace Hartevo

/-! ## Identifiers and errors -/

abbrev AttributionId := String
abbrev CampaignId := String
abbrev CommissionId := String
abbrev CompanyId := String
abbrev IdentityLinkId := String
abbrev OpportunityId := String
abbrev OrderId := String
abbrev OutcomeEventId := String
abbrev PayoutId := String
abbrev RefundId := String

inductive OutcomeLedgerError
  | invalidLedgerScope
  | invalidEventEnvelope
  | eventKindShapeMismatch
  | unverifiedOutcomeSource
  | scopeMismatch
  | duplicateEvent
  | duplicateOrder
  | duplicateRefund
  | unknownOrder
  | refundPredatesOrder
  | refundExceedsOrder
  | currencyOrArithmeticMismatch
  | duplicateAttribution
  | invalidAttribution
  | unverifiedAttributionSource
  | invalidCommission
  | commissionInvariantViolation
  | commissionProjectionMismatch
  | eventProjectionMismatch
  | projectionRevisionMismatch (expected actual : ℕ)
  | projectionCountOverflow
  | identityChainCoverageMismatch
  | identityChainSupportClosureMismatch
  | identityLinkUnconfirmed
  | identityProviderAccountMismatch
  | identityRelationshipMismatch
  | kpiIdentityChainMismatch
  | kpiMissionScopeMismatch
  | invalidKpiContract
  | unsupportedKpiMetric
  | kpiSourceEventsUnavailable
  | kpiCurrencyMismatch
  | kpiArithmetic
  | attributionMissionScopeMismatch
  | attributionWindowMismatch
  | attributionSourceOrdersUnavailable
  | settlementIdentityChainMismatch
  | settlementMissionScopeMismatch
  | settlementWindowMismatch
  | settlementSourceOrdersUnavailable
  | settlementPartnerSupportClosureMismatch
  | settlementPartnerPolicyMismatch
  | settlementCommissionAuthorityMismatch
  | settlementCommissionRecalculationRequired
  | settlementMoneyMismatch
  | settlementDuplicatePayout
  | settlementPayoutMismatch
  | outcomeReviewEffectStateMismatch
  | arithmeticOverflow
  | revisionOverflow
deriving DecidableEq

/-! ## Money and decimals -/

inductive MoneyError
  | currencyMismatch (left right : CurrencyCode)
  | overflow

namespace Money

def zero (currency : CurrencyCode) : Money :=
  ⟨0, currency⟩

def requireSameCurrency (self other : Money) : Except MoneyError Unit :=
  rejectIf (self.currency != other.currency) (.currencyMismatch self.currency other.currency)

def checkedAdd (self other : Money) : Except MoneyError Money := do
  self.requireSameCurrency other
  let amountMinor ← okOr (checkedI64 (self.amountMinor + other.amountMinor)) .overflow
  return ⟨amountMinor, self.currency⟩

def checkedSub (self other : Money) : Except MoneyError Money := do
  self.requireSameCurrency other
  let amountMinor ← okOr (checkedI64 (self.amountMinor - other.amountMinor)) .overflow
  return ⟨amountMinor, self.currency⟩

end Money

namespace Decimal

def ofInt (n : ℤ) : Decimal :=
  ⟨n, 0⟩

/-- Two representations of one number. -/
def same (a b : Decimal) : Bool :=
  a.mantissa * 10 ^ b.scale == b.mantissa * 10 ^ a.scale

def isZero (self : Decimal) : Bool :=
  self.mantissa == 0

def isOne (self : Decimal) : Bool :=
  self.mantissa == 10 ^ self.scale

def isNegative (self : Decimal) : Bool :=
  decide (self.mantissa < 0)

def exceedsOne (self : Decimal) : Bool :=
  decide (10 ^ self.scale < self.mantissa)

/-- The nearest integer, away from zero in the middle between two. -/
def roundAwayFromZero (self : Decimal) : ℤ :=
  self.mantissa.sign * ((2 * self.mantissa.natAbs + 10 ^ self.scale) / (2 * 10 ^ self.scale) : ℕ)

end Decimal

/-- The code of other packages that the ledger uses: SHA-256 and the printed form of an instant, its
form in JSON, and the product of two decimals. -/
structure OutcomeEncoding extends MissionEncoding where
  serdeTime : DateTime → String
  mul : Decimal → Decimal → Decimal
  mul_nonneg : ∀ a b, 0 ≤ a.mantissa → 0 ≤ b.mantissa → 0 ≤ (mul a b).mantissa

def OutcomeEncoding.sample : OutcomeEncoding where
  toMissionEncoding := .sample
  serdeTime _ := ""
  mul a b := ⟨a.mantissa * b.mantissa, a.scale + b.scale⟩
  mul_nonneg _ _ := Int.mul_nonneg

/-- The commission on an amount, in whole minor units. -/
def OutcomeEncoding.commissionMinor (enc : OutcomeEncoding) (net : ℤ) (rate : Decimal) :
    Option ℤ :=
  checkedI64 (enc.mul (.ofInt net) rate).roundAwayFromZero

/-! ## Events -/

inductive OutcomeEventKind
  | leadQualified | meetingBooked | opportunityStageChanged | orderPlaced | refundIssued
  | commissionAccrued | commissionReversed | payoutCompleted
deriving DecidableEq

inductive OutcomeVerificationMethod
  | signedWebhook | independentReadback | userConfirmed | internalDerived
deriving DecidableEq

/-- The source was verified outside of the application. -/
def OutcomeVerificationMethod.isExternal (self : OutcomeVerificationMethod) : Bool :=
  self == .signedWebhook || self == .independentReadback

structure OutcomeSourceVerification where
  method : OutcomeVerificationMethod
  verifier : String
  independent : Bool
  verifiedAt : DateTime
  evidenceDigest : String
deriving DecidableEq

def OutcomeSourceVerification.validate (self : OutcomeSourceVerification) (receivedAt : DateTime) :
    Except OutcomeLedgerError Unit :=
  rejectIf (isBlank self.verifier || decide (self.verifiedAt < receivedAt) ||
    !isSha256 self.evidenceDigest || (self.method.isExternal && !self.independent))
    .unverifiedOutcomeSource

structure OutcomeEvent where
  id : OutcomeEventId
  tenantId : TenantId
  projectId : ProjectId
  missionId : MissionId
  kind : OutcomeEventKind
  provider : String
  connectionId : Option ConnectionId
  accountId : Option AccountId
  sourceEventId : String
  identityLinkId : Option IdentityLinkId
  opportunityId : Option OpportunityId
  campaignId : Option CampaignId
  orderId : Option OrderId
  refundId : Option RefundId
  commissionId : Option CommissionId
  payoutId : Option PayoutId
  partnerId : Option PartnerId
  amount : Option Money
  occurredAt : DateTime
  receivedAt : DateTime
  evidenceDigest : String
  rawPayloadDigest : String
  sourceVerification : Option OutcomeSourceVerification
deriving DecidableEq

namespace OutcomeEvent

/-- The references and the amount are those of the kind. -/
def shapeValid (self : OutcomeEvent) : Bool :=
  let amountPositive := self.amount.any Money.isPositive
  let noFinancialReferences := self.orderId.isNone && self.refundId.isNone &&
    self.commissionId.isNone && self.payoutId.isNone && self.amount.isNone
  match self.kind with
  | .orderPlaced => self.orderId.isSome && self.refundId.isNone && self.commissionId.isNone &&
      self.payoutId.isNone && amountPositive
  | .refundIssued => self.orderId.isSome && self.refundId.isSome && self.commissionId.isNone &&
      self.payoutId.isNone && amountPositive
  | .commissionAccrued | .commissionReversed => self.orderId.isSome && self.refundId.isNone &&
      self.commissionId.isSome && self.payoutId.isNone && self.partnerId.isSome && amountPositive
  | .payoutCompleted => self.orderId.isNone && self.refundId.isNone && self.payoutId.isSome &&
      self.partnerId.isSome && amountPositive
  | .leadQualified | .meetingBooked => noFinancialReferences && self.identityLinkId.isSome
  | .opportunityStageChanged => noFinancialReferences && self.opportunityId.isSome

def validateEnvelope (self : OutcomeEvent) : Except OutcomeLedgerError Unit := do
  rejectIf (isBlank self.id || isBlank self.tenantId || isBlank self.projectId ||
    isBlank self.missionId || isBlank self.provider || isBlank self.sourceEventId ||
    decide (self.receivedAt < self.occurredAt) || !isSha256 self.evidenceDigest ||
    !isSha256 self.rawPayloadDigest) .invalidEventEnvelope
  rejectIf (!self.shapeValid) .eventKindShapeMismatch

def validate (self : OutcomeEvent) : Except OutcomeLedgerError Unit := do
  self.validateEnvelope
  let verification ← okOr self.sourceVerification .unverifiedOutcomeSource
  verification.validate self.receivedAt
  let external := verification.method.isExternal
  rejectIf (external != (self.connectionId.isSome && self.accountId.isSome) ||
    (!external && (self.connectionId.isSome || self.accountId.isSome)) ||
    ((self.kind == .orderPlaced || self.kind == .refundIssued || self.kind == .payoutCompleted) &&
      !external) ||
    (self.kind == .orderPlaced && self.identityLinkId.isNone)) .unverifiedOutcomeSource

def validatePersisted (self : OutcomeEvent) : Except OutcomeLedgerError Unit := do
  self.validateEnvelope
  match self.sourceVerification with
  | some verification => verification.validate self.receivedAt
  | none => .ok ()

end OutcomeEvent

/-! ## Orders, refunds and attributions -/

structure OutcomeOrder where
  id : OrderId
  sourceEventId : OutcomeEventId
  originalAmount : Money
  occurredAt : DateTime
deriving DecidableEq

structure OutcomeRefund where
  id : RefundId
  orderId : OrderId
  sourceEventId : OutcomeEventId
  amount : Money
  occurredAt : DateTime
deriving DecidableEq

inductive AttributionModel
  | verifiedIdentity | lastNonDirect | firstTouch | unattributed
deriving DecidableEq

inductive AttributionTrafficClass
  | direct | nonDirect
deriving DecidableEq

structure Touchpoint where
  missionId : MissionId
  source : String
  effectId : Option EffectId
  trafficClass : Option AttributionTrafficClass
  providerIdentityDigest : Option String
  verifiedLinkOrCouponDigest : Option String
  occurredAt : DateTime
  receivedAt : Option DateTime
  evidenceDigest : String
  sourceVerification : Option OutcomeSourceVerification
deriving DecidableEq

structure AttributionRecord where
  id : AttributionId
  tenantId : TenantId
  projectId : ProjectId
  orderId : OrderId
  model : AttributionModel
  touchpoint : Option Touchpoint
  windowStartedAt : DateTime
  windowEndedAt : DateTime
  confidence : Decimal
  causalClaim : Bool
  rationale : String
  evidenceDigest : String
  recordedAt : DateTime
deriving DecidableEq

def Touchpoint.validateVerification (touchpoint : Touchpoint) (recordedAt : DateTime)
    (requireCurrentSourceVerification : Bool) : Except OutcomeLedgerError Unit :=
  match touchpoint.sourceVerification with
  | none => .ok ()
  | some verification => do
    let receivedAt ← okOr touchpoint.receivedAt .unverifiedAttributionSource
    (verification.validate receivedAt).mapError fun _ => .unverifiedAttributionSource
    rejectIf (decide (recordedAt < verification.verifiedAt)) .unverifiedAttributionSource
    rejectIf (requireCurrentSourceVerification &&
      verification.evidenceDigest != touchpoint.evidenceDigest) .unverifiedAttributionSource

def validateTouchpoint (touchpoint : Touchpoint) (order : OutcomeOrder) (model : AttributionModel)
    (windowStartedAt windowEndedAt recordedAt : DateTime)
    (requireCurrentSourceVerification : Bool) : Except OutcomeLedgerError Unit := do
  rejectIf (isBlank touchpoint.missionId || isBlank touchpoint.source ||
    decide (touchpoint.occurredAt < windowStartedAt) ||
    decide (windowEndedAt < touchpoint.occurredAt) ||
    decide (order.occurredAt < touchpoint.occurredAt) || !isSha256 touchpoint.evidenceDigest ||
    (touchpoint.providerIdentityDigest.any fun digest => !isSha256 digest) ||
    (touchpoint.verifiedLinkOrCouponDigest.any fun digest => !isSha256 digest) ||
    (touchpoint.receivedAt.any fun receivedAt => decide (receivedAt < touchpoint.occurredAt) ||
      decide (recordedAt < receivedAt))) .invalidAttribution
  rejectIf (requireCurrentSourceVerification && (touchpoint.trafficClass.isNone ||
    touchpoint.receivedAt.isNone || touchpoint.sourceVerification.isNone))
    .unverifiedAttributionSource
  touchpoint.validateVerification recordedAt requireCurrentSourceVerification
  rejectIf (model == .verifiedIdentity && ((touchpoint.providerIdentityDigest.isNone &&
    touchpoint.verifiedLinkOrCouponDigest.isNone) ||
    (requireCurrentSourceVerification && touchpoint.effectId.isNone))) .invalidAttribution
  rejectIf (model == .lastNonDirect && (touchpoint.trafficClass == some .direct ||
    (requireCurrentSourceVerification && touchpoint.trafficClass != some .nonDirect)))
    .invalidAttribution

namespace AttributionRecord

def validateShape (self : AttributionRecord) (tenantId : TenantId) (projectId : ProjectId)
    (order : OutcomeOrder) (requireCurrentSourceVerification : Bool) :
    Except OutcomeLedgerError Unit := do
  rejectIf (self.tenantId != tenantId || self.projectId != projectId ||
    self.orderId != order.id || decide (self.windowEndedAt ≤ self.windowStartedAt) ||
    decide (order.occurredAt < self.windowStartedAt) ||
    decide (self.windowEndedAt < order.occurredAt) || decide (self.recordedAt < order.occurredAt) ||
    self.confidence.isNegative || self.confidence.exceedsOne || self.causalClaim ||
    isBlank self.rationale || !isSha256 self.evidenceDigest) .invalidAttribution
  match self.model with
  | .unattributed =>
    rejectIf (self.touchpoint.isSome || !self.confidence.isZero) .invalidAttribution
  | _ => do
    let touchpoint ← okOr self.touchpoint .invalidAttribution
    validateTouchpoint touchpoint order self.model self.windowStartedAt self.windowEndedAt
      self.recordedAt requireCurrentSourceVerification
    rejectIf (self.model == .verifiedIdentity && !self.confidence.isOne) .invalidAttribution

def validate (self : AttributionRecord) (tenantId : TenantId) (projectId : ProjectId)
    (order : OutcomeOrder) : Except OutcomeLedgerError Unit :=
  self.validateShape tenantId projectId order true

def validatePersisted (self : AttributionRecord) (tenantId : TenantId) (projectId : ProjectId)
    (order : OutcomeOrder) : Except OutcomeLedgerError Unit :=
  self.validateShape tenantId projectId order false

/-- Equal records, up to the representation of the confidence. -/
def same (a b : AttributionRecord) : Bool :=
  a.confidence.same b.confidence && decide ({ a with confidence := b.confidence } = b)

end AttributionRecord

/-! ## Commissions and the ledger -/

inductive CommissionStatus
  | current | recalculationRequired | superseded
deriving DecidableEq

structure CommissionRecord where
  id : CommissionId
  tenantId : TenantId
  projectId : ProjectId
  orderId : OrderId
  partnerId : PartnerId
  rate : Decimal
  eligibleNetAmount : Money
  commissionAmount : Money
  termsDigest : String
  refundSetDigest : String
  supersedes : Option CommissionId
  status : CommissionStatus
  calculatedAt : DateTime
deriving DecidableEq

namespace CommissionRecord

/-- The record is the one that counts for its order and partner. -/
def isActive (self : CommissionRecord) : Bool :=
  self.status != .superseded

/-- Equal records, up to the representation of the rate. -/
def same (a b : CommissionRecord) : Bool :=
  a.rate.same b.rate && decide ({ a with rate := b.rate } = b)

end CommissionRecord

structure OutcomeLedger where
  tenantId : TenantId
  projectId : ProjectId
  events : List OutcomeEvent
  orders : List OutcomeOrder
  refunds : List OutcomeRefund
  attributions : List AttributionRecord
  commissions : List CommissionRecord
  revision : ℕ
deriving DecidableEq

/-! ## The form of refunds in JSON -/

/-- A character of a JSON string. -/
def jsonChar (c : Char) : List Char :=
  if c == '"' then ['\\', '"']
  else if c == '\\' then ['\\', '\\']
  else if c.toNat == 8 then ['\\', 'b']
  else if c.toNat == 9 then ['\\', 't']
  else if c.toNat == 10 then ['\\', 'n']
  else if c.toNat == 12 then ['\\', 'f']
  else if c.toNat == 13 then ['\\', 'r']
  else if c.toNat < 32 then
    ['\\', 'u', '0', '0', hexDigit (c.toNat / 16), hexDigit c.toNat]
  else [c]

def jsonString (value : String) : List Char :=
  '"' :: value.toList.flatMap jsonChar ++ ['"']

def jsonArray (items : List (List Char)) : List Char :=
  '[' :: List.intercalate [','] items ++ [']']

def OutcomeRefund.json (enc : OutcomeEncoding) (refund : OutcomeRefund) : List Char :=
  jsonArray [jsonString refund.id, jsonString refund.sourceEventId,
    (toString refund.amount.amountMinor).toList, jsonString refund.amount.currency.code,
    jsonString (enc.serdeTime refund.occurredAt)]

def refundsJson (enc : OutcomeEncoding) (refunds : List OutcomeRefund) : List UInt8 :=
  utf8 (String.ofList (jsonArray (refunds.map (OutcomeRefund.json enc))))

end Hartevo
