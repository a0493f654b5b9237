import Hartevo.Mission.Definition

/-!
# What the commands of a Mission read

The compilation of a Mission, and the checks and lookups that its commands make before they write.
Everything here reads its arguments only.  Lookups by identifier take the first match.

The policy of a contract bounds an approval in seconds, and a cadence its interval.  A number of
seconds beyond the range of a duration makes the code panic; such an instant is also beyond the
calendar, and is treated as one here.
-/

namespace Hartevo

/-! ## Work products -/

namespace WorkProduct

def validate (enc : MissionEncoding) (self : WorkProduct) : Except MissionError Unit :=
  rejectIf (isBlank self.id || isBlank self.title || isBlank self.body || self.revision == 0 ||
    self.evidenceIds.toList.any isBlank || self.contentDigest != self.computedDigest enc)
    (.invalidWorkProduct self.id)

/-- The adoption states that may follow each other. -/
def transitionAllowed : WorkProductStatus → WorkProductStatus → Bool
  | .draft, .draft => true
  | .draft, .readyForReview => true
  | .readyForReview, .readyForReview => true
  | .readyForReview, .accepted => true
  | .readyForReview, .superseded => true
  | .accepted, .superseded => true
  | _, _ => false

def follows (enc : MissionEncoding) (self previous : WorkProduct) :
    Except MissionError Bool := do
  self.validate enc
  previous.validate enc
  return self.id == previous.id && checkedAdd 64 previous.revision 1 == some self.revision &&
    transitionAllowed previous.status self.status

end WorkProduct

/-! ## Effects -/

/-- The effect is neither refused, nor done, nor given up. -/
def EffectStatus.isPending : EffectStatus → Bool
  | .proposed | .approved | .executing | .receiptRecorded | .verificationRequired => true
  | _ => false

def validateEffectConnectionScope (spec : EffectSpec) : Except MissionError Unit :=
  let hasConnection := spec.connectionId.isSome || spec.accountId.isSome
  rejectIf (spec.connectionId.isSome != spec.accountId.isSome ||
    (hasConnection && spec.requiredScopes.isEmpty) ||
    (!hasConnection && !spec.requiredScopes.isEmpty) ||
    spec.requiredScopes.toList.any isBlank) .invalidEffectScope

def validateEffectContentScope (spec : EffectSpec) (now : DateTime) : Except MissionError Unit :=
  rejectIf (isBlank spec.capability || isBlank spec.provider || isBlank spec.description ||
    isBlank spec.targetResource || isBlank spec.timezone || isBlank spec.policyVersion ||
    !isSha256 spec.payloadDigest || spec.audienceDigest.any (!isSha256 ·) ||
    spec.assetDigests.toList.any (!isSha256 ·) || decide (spec.expiresAt ≤ now) ||
    (spec.scheduledFor.any fun scheduled =>
      decide (scheduled < now) || decide (spec.expiresAt ≤ scheduled)) ||
    spec.connectionId.any isBlank || spec.accountId.any isBlank ||
    (spec.conversationGuard.any fun guard =>
      isBlank guard.conversationId || guard.controlGeneration == 0 ||
        !isSha256 guard.scopeDigest) ||
    spec.creatorContactGuard.any fun guard =>
      isBlank guard.hiringId || isBlank guard.creatorId || isBlank guard.partnerId ||
        !isSha256 guard.scopeDigest || !isSha256 guard.permissionEvidenceDigest ||
        guard.scopeDigest != spec.payloadDigest) .invalidEffectScope

def validateEffectConsentScope (spec : EffectSpec) : Except MissionError Unit :=
  let valid := match spec.consent with
    | .notRequired => spec.consentRecordId.isNone && spec.consentRequirement.isNone
    | .confirmed | .withdrawn =>
      spec.consentRecordId.isSome && spec.consentRequirement.any ConsentRequirement.validate
    | .missing =>
      spec.consentRecordId.isNone && spec.consentRequirement.any ConsentRequirement.validate
  rejectIf (!valid) .consentRecordMismatch

def validateReceiptScope (enc : MissionEncoding) (effect : Effect) (receipt : Receipt) :
    Except MissionError Unit :=
  rejectIf (receipt.provider != effect.provider || isBlank receipt.externalId ||
    receipt.requestDigest != effect.approvalDigest enc || !isSha256 receipt.responseDigest ||
    decide (effect.expiresAt ≤ receipt.acceptedAt) ||
    effect.approval.all fun approval => decide (receipt.acceptedAt < approval.decidedAt))
    .receiptScopeMismatch

def durableExecutionStartIsValid (enc : MissionEncoding) (effect : Effect)
    (approval : Approval) (executionStartedAt : DateTime) : Bool :=
  approval.scopeDigest == effect.approvalDigest enc &&
    decide (approval.decidedAt ≤ executionStartedAt) &&
    decide (executionStartedAt < approval.validUntil) &&
    decide (executionStartedAt < effect.expiresAt)

/-! ## Outcomes and waiting stages -/

def nextIntervalDueAt (cadence : Cadence) (after : DateTime) : Option DateTime :=
  if cadence.trigger == .eventDriven then none
  else if cadence.intervalSeconds == 0 || decide (2 ^ 63 ≤ cadence.intervalSeconds) then none
  else if after < cadence.anchorAt then some cadence.anchorAt
  else
    let interval : ℤ := cadence.intervalSeconds
    let elapsed := numSeconds (after - cadence.anchorAt)
    let seconds := interval * (elapsed / interval + 1)
    if seconds < 2 ^ 63 then DateTime.checkedAddSeconds cadence.anchorAt seconds else none

def cadenceHasFutureAuthority (contract : OperatingContract) (observedAt : DateTime) : Bool :=
  if contract.validUntil ≤ observedAt then false
  else contract.cadence.any fun cadence =>
    match cadence.trigger with
    | .eventDriven | .intervalOrEvent => true
    | .interval => (nextIntervalDueAt cadence observedAt).any fun dueAt =>
        decide (dueAt < contract.validUntil)

def nextStageAfterOutcome (contract : OperatingContract) (decision : OutcomeDecision)
    (observedAt : DateTime) : MissionStage :=
  if decision == .stop then .completed
  else match contract.mode with
  | .buildOnce | .oneOffDecision => .completed
  | .continuousOperator | .continuousRelationship =>
    if cadenceHasFutureAuthority contract observedAt then .scheduled else .completed
  | .campaign =>
    if cadenceHasFutureAuthority contract observedAt then .scheduled
    else if contract.cadence.isSome then .completed else .cycleReviewed

def checkpointStatusForMissionStage : MissionStage → Except MissionError MissionCheckpointStatus
  | .blocked => .ok .blocked
  | .waitingUser => .ok .waitingUser
  | .waitingApproval => .ok .waitingApproval
  | _ => .error .invalidBlock

def MissionStage.isWaiting : MissionStage → Bool
  | .blocked | .waitingUser | .waitingApproval => true
  | _ => false

namespace Mission

/-! ## Compilation -/

def initial (tenantId : TenantId) (id : MissionId) (projectId : ProjectId) (title : String)
    (contract : OperatingContract) (definition : Option MissionDefinition) (now : DateTime) :
    Mission where
  tenantId := tenantId
  id := id
  projectId := projectId
  title := title
  contract := contract
  definition := definition
  stage := .ready
  tasks := []
  evidence := []
  workProducts := []
  effects := []
  outcomeHistory := []
  outcome := none
  block := none
  createdAt := now
  updatedAt := now
  revision := 1

def validateContract (contract : OperatingContract) (now : DateTime) : Except MissionError Unit :=
  (contract.validate now).mapError .operatingContract

def compile (tenantId : TenantId) (id : MissionId) (projectId : ProjectId) (title : String)
    (contract : OperatingContract) (now : DateTime) : Except MissionError Mission := do
  rejectIf ((trim title).isEmpty || isBlank contract.goal) .emptyMission
  validateContract contract now
  return initial tenantId id projectId (trim title) contract none now

def compileCatalog (enc : MissionEncoding) (tenantId : TenantId) (id : MissionId)
    (projectId : ProjectId) (title : String) (contract : OperatingContract)
    (definition : MissionDefinition) (now : DateTime) : Except MissionError Mission := do
  definition.validate enc
  rejectIf (definition.operatingMode != contract.mode ||
    definition.capabilityIds != contract.enabledCapabilities ||
    definition.capabilityIds.toList.any contract.forbiddenCapabilities.contains)
    .missionDefinitionContractMismatch
  let mission ← compile tenantId id projectId title contract now
  return { mission with definition := some definition }

/-! ## Checks on the aggregate -/

def requireStage (self : Mission) (expected : List MissionStage) : Except MissionError Unit :=
  rejectIf (!expected.contains self.stage) (.invalidMissionStage self.stage expected)

def ensureTouchable (self : Mission) : Except MissionError Unit :=
  rejectIf (checkedAdd 64 self.revision 1).isNone .revisionOverflow

def effect (self : Mission) (effectId : EffectId) : Except MissionError Effect :=
  okOr (self.effects.find? (·.id == effectId)) (.unknownEffect effectId)

def requireDefinition (self : Mission) : Except MissionError MissionDefinition :=
  okOr self.definition .missionDefinitionRequired

def requireCheckpoint (definition : MissionDefinition) (id : String) :
    Except MissionError MissionCheckpoint :=
  okOr (definition.findCheckpoint id) (.missionCheckpointNotFound id)

/-- Every evidence item is one of the Mission. -/
def requireEvidence (self : Mission) (evidenceIds : BTreeSet EvidenceId) :
    Except MissionError Unit :=
  evidenceIds.toList.forM fun id =>
    rejectIf (!self.evidence.any (·.id == id)) (.unknownEvidence id)

/-- The definition is the one of the given manifest. -/
def isManifest (self : Mission) (manifestId : String) : Bool :=
  self.definition.any (·.manifestId == manifestId)

def validateEffectSpec (self : Mission) (spec : EffectSpec) (now : DateTime) :
    Except MissionError Unit := do
  rejectIf (self.contract.forbiddenCapabilities.contains spec.capability ||
    !self.contract.enabledCapabilities.contains spec.capability)
    (.capabilityNotEnabled spec.capability)
  rejectIf (isBlank spec.idempotencyKey) .emptyIdempotencyKey
  rejectIf (decide (spec.amount.amountMinor < 0)) .negativeCostLimit
  rejectIf (spec.effectClass == .payment && !spec.amount.isPositive) .paymentAmountNotPositive
  rejectIf (spec.effectClass == .payment && (spec.connectionId.isNone || spec.accountId.isNone))
    .invalidEffectScope
  validateEffectConnectionScope spec
  validateEffectContentScope spec now
  validateEffectConsentScope spec
  rejectIf (self.effects.any (·.idempotencyKey == spec.idempotencyKey))
    (.duplicateIdempotencyKey spec.idempotencyKey)

def approvalValidUntil (self : Mission) (effectId : EffectId) (decidedAt : DateTime) :
    Except MissionError DateTime := do
  let effect ← self.effect effectId
  let validitySeconds := self.contract.approvalPolicy.validitySeconds
  rejectIf (decide (2 ^ 63 ≤ validitySeconds)) .invalidApproval
  let policyDeadline ← okOr (DateTime.checkedAddSeconds decidedAt validitySeconds) .invalidApproval
  let validUntil := min (min policyDeadline effect.expiresAt) self.contract.validUntil
  rejectIf (validitySeconds == 0 || decide (validUntil ≤ decidedAt)) .invalidApproval
  return validUntil

def validApplicationCheckpointEvidence (enc : MissionEncoding) (self : Mission)
    (definition : MissionDefinition) (checkpoint : MissionCheckpoint)
    (route : MissionCheckpointRoute) (completion : MissionCheckpointCompletion) : Bool :=
  if route.executor != .application then completion.applicationEvidence.isNone
  else completion.applicationEvidence.any fun evidence =>
    evidence.tenantId == self.tenantId && evidence.projectId == self.projectId &&
      evidence.missionId == self.id && evidence.verificationMissionRevision == self.revision &&
      evidence.verificationCheckpointRevision == checkpoint.revision &&
      applicationEvidenceMatches enc definition checkpoint route completion evidence

/-- The route refuses the completion of its checkpoint. -/
def routeRefuses (enc : MissionEncoding) (self : Mission) (definition : MissionDefinition)
    (checkpoint : MissionCheckpoint) (completion : MissionCheckpointCompletion)
    (route : MissionCheckpointRoute) : Bool :=
  !route.isContracted || completion.oracleIds != route.oracleIds ||
    !self.validApplicationCheckpointEvidence enc definition checkpoint route completion ||
    (route.oracleIds.contains "work_product" && completion.workProductIds.isEmpty) ||
    route.completionPolicy == some .effectReadbackV2 ||
    (route.completionPolicy == some .verifiedEffect && completion.effectIds.isEmpty) ||
    !self.tasks.any fun task => task.status == .running && task.capability == route.capabilityId

def validatedCheckpointCompletionRoute (enc : MissionEncoding) (self : Mission)
    (checkpointId : String) (completion : MissionCheckpointCompletion) :
    Except MissionError (Option MissionCheckpointRoute) := do
  let definition ← self.requireDefinition
  let checkpoint ← requireCheckpoint definition checkpointId
  rejectIf (completion.oracleIds.isEmpty ||
    !completion.oracleIds.toList.all definition.oracleIds.contains ||
    !isSha256 completion.evidenceDigest ||
    !(completion.workProductIds.toList.all fun id => self.workProducts.any (·.id == id)) ||
    !(completion.effectIds.toList.all fun id =>
      self.effects.any fun effect => effect.id == id && effect.status == .verified) ||
    checkpoint.route.any (self.routeRefuses enc definition checkpoint completion))
    (.invalidCheckpointCompletion checkpointId)
  return checkpoint.route

end Mission

end Hartevo
