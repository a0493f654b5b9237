import Hartevo.Foundation.BTree
import Hartevo.Foundation.Command
import Hartevo.Foundation.Text

/-!
# Operating contracts

The authority under which a Mission works: goal, window of validity, budget, cadence, approval
policy and the capabilities that are enabled or forbidden.  `OperatingContract.validate` is the
check made when a Mission is compiled, when a scheduled cycle starts, and by the Mission loop
before it lets automatic work run.

Identifiers of every kind are strings, and an amount of money is a signed number of minor units of
a currency.
-/

namespace Hartevo

/-! ## Identifiers and money -/

abbrev TenantId := String
abbrev ProjectId := String
abbrev MissionId := String
abbrev ActorId := String
abbrev AccountId := String
abbrev ApprovalId := String
abbrev ConnectionId := String
abbrev ConsentRecordId := String
abbrev ConversationId := String
abbrev CreatorHiringId := String
abbrev CreatorId := String
abbrev EffectId := String
abbrev EvidenceId := String
abbrev PartnerId := String
abbrev PersonId := String
abbrev ReceiptId := String
abbrev TaskId := String
abbrev VerificationId := String
abbrev WorkProductId := String

structure CurrencyCode where
  code : String
  wellFormed : strLen code = 3 ∧ (code.toList.all Char.isUpper) = true
deriving DecidableEq

def CurrencyCode.sample : CurrencyCode :=
  ⟨"EUR", by decide⟩

structure Money where
  amountMinor : ℤ
  currency : CurrencyCode
deriving DecidableEq

def Money.isPositive (money : Money) : Bool :=
  0 < money.amountMinor

/-- A decimal number, `mantissa / 10 ^ scale`. -/
structure Decimal where
  mantissa : ℤ
  scale : ℕ
deriving DecidableEq

/-! ## The contract -/

inductive EffectClass
  | read | localWrite | externalWrite | outreach | spend | payment
deriving DecidableEq, Ord

inductive Constraint
  | requireApproval (effectClasses : List EffectClass)
  | budget (amountMinor : ℤ) (currency : String)
  | market (value : String)
  | stopCondition (description : String)
  | userInstruction (description : String)

inductive OperatingMode
  | buildOnce | continuousOperator | campaign | continuousRelationship | oneOffDecision
deriving DecidableEq

inductive AutonomyLevel
  | disabled | draftOnly | approvalRequired | autonomousLowRisk
deriving DecidableEq

inductive CadenceTriggerKind
  | interval | eventDriven | intervalOrEvent
deriving DecidableEq

structure Cadence where
  intervalSeconds : ℕ
  anchorAt : DateTime
  trigger : CadenceTriggerKind
  eventTopics : BTreeSet String

inductive KpiDirection
  | atLeast | atMost

structure KpiContract where
  baseline : Option Decimal
  target : Decimal
  unit : String
  direction : KpiDirection

structure ApprovalPolicy where
  requiredEffectClasses : BTreeSet EffectClass
  validitySeconds : ℕ
  exactScopeRequired : Bool

structure OperatingContract where
  version : ℕ
  mode : OperatingMode
  parentMissionId : Option MissionId
  goal : String
  nonGoals : List String
  market : String
  language : String
  audience : String
  kpis : BTreeMap String KpiContract
  budget : Money
  timezone : String
  cadence : Option Cadence
  autonomyByCapability : BTreeMap String AutonomyLevel
  consentRequirements : BTreeSet String
  approvalPolicy : ApprovalPolicy
  stopConditions : List String
  completionConditions : List String
  validFrom : DateTime
  validUntil : DateTime
  constraints : List Constraint
  enabledCapabilities : BTreeSet String
  forbiddenCapabilities : BTreeSet String

inductive OperatingContractError
  | incomplete
  | invalidValidity
  | negativeBudget
  | unsafeApprovalPolicy
  | missingCadence
  | invalidCadence
  | invalidKpi
  | capabilityConflict
  | autonomyMismatch
deriving DecidableEq

def Cadence.isInvalid (cadence : Cadence) : Bool :=
  cadence.eventTopics.toList.any isBlank ||
    match cadence.trigger with
    | .interval => cadence.intervalSeconds == 0 || !cadence.eventTopics.isEmpty
    | .eventDriven => cadence.intervalSeconds != 0 || cadence.eventTopics.isEmpty
    | .intervalOrEvent => cadence.intervalSeconds == 0 || cadence.eventTopics.isEmpty

/-- The capabilities with an autonomy level other than `disabled`. -/
def OperatingContract.autonomousCapabilities (contract : OperatingContract) : BTreeSet String :=
  .ofList ((contract.autonomyByCapability.toList.filter fun entry =>
    entry.2 != .disabled).map Prod.fst)

def OperatingContract.validate (contract : OperatingContract) (now : DateTime) :
    Except OperatingContractError Unit := do
  rejectIf (contract.version == 0 ||
    contract.parentMissionId.any isBlank ||
    isBlank contract.goal ||
    isBlank contract.market ||
    isBlank contract.language ||
    isBlank contract.audience ||
    isBlank contract.timezone ||
    contract.stopConditions.all isBlank ||
    contract.completionConditions.all isBlank) .incomplete
  rejectIf (decide (contract.validFrom > now) || decide (contract.validUntil ≤ now) ||
    decide (contract.validUntil ≤ contract.validFrom)) .invalidValidity
  rejectIf (decide (contract.budget.amountMinor < 0)) .negativeBudget
  rejectIf (contract.approvalPolicy.validitySeconds == 0 ||
    !contract.approvalPolicy.exactScopeRequired) .unsafeApprovalPolicy
  rejectIf ((contract.mode == .continuousOperator || contract.mode == .continuousRelationship) &&
    contract.cadence.isNone) .missingCadence
  rejectIf (contract.cadence.any Cadence.isInvalid) .invalidCadence
  rejectIf (contract.kpis.toList.any fun entry => isBlank entry.1 || isBlank entry.2.unit)
    .invalidKpi
  rejectIf (contract.enabledCapabilities.toList.any isBlank ||
    contract.enabledCapabilities.toList.any contract.forbiddenCapabilities.contains)
    .capabilityConflict
  rejectIf (contract.autonomousCapabilities != contract.enabledCapabilities ||
    contract.forbiddenCapabilities.toList.any fun capability =>
      contract.autonomyByCapability[capability]?.any (· != .disabled)) .autonomyMismatch

lemma OperatingContract.validUntil_of_validate {now : DateTime} {ct : OperatingContract}
    (h : ct.validate now = .ok ()) : ct.validFrom ≤ now ∧ now < ct.validUntil := by
  simp only [OperatingContract.validate, bind_ok, passed, not_le] at h
  obtain ⟨-, -, -, ⟨⟨hf, hu⟩, -⟩, -⟩ := h
  exact ⟨hf, hu⟩

def OperatingContract.sample : OperatingContract where
  version := 1
  mode := .oneOffDecision
  parentMissionId := none
  goal := "decide"
  nonGoals := []
  market := "EU"
  language := "en"
  audience := "founders"
  kpis := ∅
  budget := ⟨0, .sample⟩
  timezone := "UTC"
  cadence := none
  autonomyByCapability := (∅ : BTreeMap String AutonomyLevel).insert "research" .draftOnly
  consentRequirements := ∅
  approvalPolicy := ⟨∅, 60, true⟩
  stopConditions := ["budget"]
  completionConditions := ["decided"]
  validFrom := 0
  validUntil := 1000 * nanosPerSecond
  constraints := []
  enabledCapabilities := (∅ : BTreeSet String).insert "research"
  forbiddenCapabilities := ∅

example : OperatingContract.sample.validate 0 = .ok () := by rfl

end Hartevo
