import Hartevo.Mission.Commands

/-!
# The effect commands of a Mission

An effect is proposed, approved, dispatched, receipted and verified by commands of the Mission
that owns it.  Most of them do not look at the stage of the Mission: they check the status of the
effect, write the effect back, and set the stage from what they wrote.  In a Catalog Mission they
then move the active checkpoint along, which fails when no checkpoint is active.
-/

namespace Hartevo

/-! ## Statuses and blocks -/

/-- The statuses from which a durable receipt is taken over. -/
def EffectStatus.acceptsDurableReceipt : EffectStatus → Bool
  | .approved | .executing | .receiptRecorded | .verificationRequired => true
  | _ => false

def VerificationStatus.effectStatus : VerificationStatus → EffectStatus
  | .confirmed => .verified
  | .rejected => .failed
  | .inconclusive => .verificationRequired

def DurableProviderState.target : DurableProviderState → EffectStatus
  | .rejected => .failed
  | .uncertain => .verificationRequired
  | .reconciledNotExecuted => .reconciled
  | .deadLetter => .deadLetter

/-- The statuses from which a Provider state is taken over. -/
def DurableProviderState.transitionAllowed : DurableProviderState → EffectStatus → Bool
  | .rejected, status =>
    status == .approved || status == .executing || status == .verificationRequired ||
      status == .failed
  | .uncertain, status =>
    status == .approved || status == .executing || status == .verificationRequired
  | .reconciledNotExecuted, status =>
    status == .approved || status == .executing || status == .verificationRequired ||
      status == .reconciled
  | .deadLetter, status => status == .verificationRequired || status == .deadLetter

def effectFailedBlock (effectId : EffectId) (now : DateTime) : MissionBlock where
  code := "effect_failed"
  detail := "effect " ++ effectId ++ " requires recovery or an explicit terminal decision"
  recoverable := true
  observedAt := now

def DurableProviderState.block (durableState : DurableProviderState) (effectId : EffectId)
    (recordedAt : DateTime) : Option MissionBlock :=
  match durableState with
  | .rejected => some (effectFailedBlock effectId recordedAt)
  | .uncertain => none
  | .reconciledNotExecuted => some
    { code := "effect_reconciled_not_executed"
      detail := "effect " ++ effectId ++ " was independently reconciled as not executed; " ++
        "any retry requires a new exact effect and approval"
      recoverable := true
      observedAt := recordedAt }
  | .deadLetter => some
    { code := "effect_reconciliation_dead_letter"
      detail := "effect " ++ effectId ++
        " exhausted bounded reconciliation and requires explicit support review"
      recoverable := true
      observedAt := recordedAt }

def approvalBlock (effectId : EffectId) (now : DateTime) : MissionBlock where
  code := "effect_approval_required"
  detail := "effect " ++ effectId ++ " requires an exact, time-bounded approval"
  recoverable := true
  observedAt := now

/-- The block of a Mission with a refuted effect. -/
def verificationRejectedBlock (now : DateTime) : MissionBlock where
  code := "verification_rejected"
  detail := "independent verification rejected at least one provider effect"
  recoverable := true
  observedAt := now

namespace Mission

/-! ## Stage and checkpoint -/

/-- Enter a stage and let the active checkpoint follow. -/
def enterStage (stage : MissionStage) (status : MissionCheckpointStatus) (now : DateTime) :
    Command Mission MissionError Unit := do
  modify fun self => { self with stage }
  setCatalogCheckpointStatus status none
  modify (touch now)

/-- Block the Mission and its active checkpoint. -/
def enterBlocked (block : MissionBlock) : Command Mission MissionError Unit := do
  modify fun self => { self with stage := .blocked }
  setCatalogCheckpointStatus .blocked (some block)
  modify fun self => touch block.observedAt { self with block := some block }

/-- The stage after a decision on one of the proposed effects: wait for the others, or go on. -/
def decidedStage (self : Mission) : MissionStage :=
  if self.effects.any (·.status == .proposed) then .waitingApproval else .running

/-- Go on with the active checkpoint when no proposed effect is left. -/
def afterDecision (now : DateTime) : Command Mission MissionError Unit := do
  modify fun self => { self with stage := self.decidedStage }
  Command.branch (fun self => self.definition.isSome && self.stage == .running)
    (do
      setCatalogCheckpointStatus .running none
      modify fun self => { self with block := none })
    (pure ())
  modify (touch now)

/-! ## Proposals and decisions -/

def checkProposeEffect (self : Mission) (spec : EffectSpec) (now : DateTime) :
    Except MissionError Unit := do
  self.requireStage [.running, .waitingApproval]
  self.validateEffectSpec spec now
  self.ensureTouchable

/-- The effect of a specification, in the scope of the Mission. -/
def proposedEffect (self : Mission) (spec : EffectSpec) : Effect where
  id := spec.id
  tenantId := self.tenantId
  projectId := self.projectId
  missionId := self.id
  actorId := spec.actorId
  capability := spec.capability
  provider := spec.provider
  connectionId := spec.connectionId
  accountId := spec.accountId
  requiredScopes := spec.requiredScopes
  effectClass := spec.effectClass
  description := spec.description
  targetResource := spec.targetResource
  audienceDigest := spec.audienceDigest
  payloadDigest := spec.payloadDigest
  assetDigests := spec.assetDigests
  scheduledFor := spec.scheduledFor
  timezone := spec.timezone
  consent := spec.consent
  consentRecordId := spec.consentRecordId
  consentRequirement := spec.consentRequirement
  conversationGuard := spec.conversationGuard
  creatorContactGuard := spec.creatorContactGuard
  policyVersion := spec.policyVersion
  risk := spec.risk
  idempotencyKey := spec.idempotencyKey
  amount := spec.amount
  expiresAt := spec.expiresAt
  status := .proposed
  approval := none
  receipt := none
  verification := none

/-- Append the effect of a specification. -/
def pushEffect (spec : EffectSpec) (self : Mission) : Mission :=
  { self with effects := self.effects ++ [self.proposedEffect spec] }

/-- Let the stage and, in a Catalog Mission, the active checkpoint wait for the approval. -/
def followProposal (spec : EffectSpec) (now : DateTime) :
    Command Mission MissionError EffectId := do
  Command.branch (·.definition.isSome)
    (do
      let block := approvalBlock spec.id now
      setCatalogCheckpointStatus .waitingApproval (some block)
      modify fun self => { self with block := some block })
    (pure ())
  modify fun self => touch now { self with stage := .waitingApproval }
  return spec.id

def proposeEffect (spec : EffectSpec) (now : DateTime) : Command Mission MissionError EffectId := do
  Command.check (·.checkProposeEffect spec now)
  modify (pushEffect spec)
  followProposal spec now

def checkApproveEffect (enc : MissionEncoding) (self : Mission) (effectId : EffectId)
    (approval : Approval) : Except MissionError Effect := do
  self.ensureTouchable
  let expectedValidUntil ← self.approvalValidUntil effectId approval.decidedAt
  let effect ← self.effect effectId
  rejectIf (effect.status != .proposed) (.invalidEffectTransition effect.status .approved)
  rejectIf (approval.scopeDigest != effect.approvalDigest enc) .approvalScopeChanged
  rejectIf (isBlank approval.id || !isSha256 approval.permissionDigest ||
    decide (effect.expiresAt ≤ approval.decidedAt) || approval.validUntil != expectedValidUntil)
    .invalidApproval
  return { effect with
    status := if approval.decision == .rejected then .rejected else .approved
    approval := some approval }

def approveEffect (enc : MissionEncoding) (effectId : EffectId) (approval : Approval) :
    Command Mission MissionError Unit := do
  let effect ← Command.check (checkApproveEffect enc · effectId approval)
  modify (writeEffect effect)
  afterDecision approval.decidedAt

def checkCancelEffect (self : Mission) (effectId : EffectId) : Except MissionError Effect := do
  self.ensureTouchable
  let effect ← self.effect effectId
  rejectIf (!(effect.status == .proposed || effect.status == .approved))
    (.invalidEffectTransition effect.status .cancelled)
  return { effect with status := .cancelled }

def cancelEffect (effectId : EffectId) (now : DateTime) : Command Mission MissionError Unit := do
  let effect ← Command.check (·.checkCancelEffect effectId)
  modify (writeEffect effect)
  afterDecision now

/-! ## Dispatch and receipts -/

def checkBeginEffect (enc : MissionEncoding) (self : Mission) (effectId : EffectId) :
    Except MissionError (Effect × Approval) := do
  self.ensureTouchable
  let effect ← self.effect effectId
  rejectIf (effect.status != .approved) (.invalidEffectTransition effect.status .executing)
  let approval ← okOr effect.approval .missingApproval
  rejectIf (approval.scopeDigest != effect.approvalDigest enc) .approvalScopeChanged
  return (effect, approval)

def beginEffect (enc : MissionEncoding) (effectId : EffectId) (now : DateTime) :
    Command Mission MissionError Unit := do
  let (effect, approval) ← Command.check (checkBeginEffect enc · effectId)
  if approval.validUntil ≤ now then do
    modify (writeEffect { effect with status := .expired })
    throw .approvalExpired
  else if effect.expiresAt ≤ now then do
    modify (writeEffect { effect with status := .expired })
    throw .effectExpired
  else
    modify fun self =>
      touch now { writeEffect { effect with status := .executing } self with stage := .running }

def checkRecordReceipt (enc : MissionEncoding) (self : Mission) (effectId : EffectId)
    (receipt : Receipt) : Except MissionError Effect := do
  self.ensureTouchable
  let effect ← self.effect effectId
  rejectIf (effect.status != .executing) (.invalidEffectTransition effect.status .receiptRecorded)
  validateReceiptScope enc effect receipt
  return { effect with receipt := some receipt, status := .receiptRecorded }

def recordReceipt (enc : MissionEncoding) (effectId : EffectId) (receipt : Receipt) :
    Command Mission MissionError Unit := do
  let effect ← Command.check (checkRecordReceipt enc · effectId receipt)
  modify (writeEffect effect)
  enterStage .verifying .verifying receipt.acceptedAt

/-! ## Recovery from the durable ledger -/

/-- The effect to write, or none for a replay of the recorded receipt. -/
def checkReconcileDurableReceipt (enc : MissionEncoding) (self : Mission)
    (effectId : EffectId) (receipt : Receipt) (executionStartedAt : DateTime) :
    Except MissionError (Option Effect) := do
  self.ensureTouchable
  let effect ← self.effect effectId
  rejectIf (!effect.status.acceptsDurableReceipt)
    (.invalidEffectTransition effect.status .receiptRecorded)
  let approval ← okOr effect.approval .missingApproval
  rejectIf (!durableExecutionStartIsValid enc effect approval executionStartedAt ||
    decide (receipt.acceptedAt < executionStartedAt)) .durableReceiptRecoveryMismatch
  validateReceiptScope enc effect receipt
  rejectIf (effect.status == .receiptRecorded && effect.receipt != some receipt)
    .durableReceiptRecoveryMismatch
  return if effect.status == .receiptRecorded then none
    else some { effect with receipt := some receipt, status := .receiptRecorded }

def reconcileDurableReceipt (enc : MissionEncoding) (effectId : EffectId) (receipt : Receipt)
    (executionStartedAt : DateTime) : Command Mission MissionError Unit := do
  match ←
    Command.check (checkReconcileDurableReceipt enc · effectId receipt executionStartedAt) with
  | none => return
  | some effect =>
    modify fun self =>
      touch receipt.acceptedAt { writeEffect effect self with stage := .verifying }

/-- The effect to write, or none for a replay of the recorded state. -/
def checkReconcileDurableProviderState (enc : MissionEncoding) (self : Mission)
    (effectId : EffectId) (durableState : DurableProviderState)
    (executionStartedAt recordedAt : DateTime) : Except MissionError (Option Effect) := do
  self.ensureTouchable
  let target := durableState.target
  let effect ← self.effect effectId
  rejectIf (!durableState.transitionAllowed effect.status)
    (.invalidEffectTransition effect.status target)
  let approval ← okOr effect.approval .missingApproval
  rejectIf (!durableExecutionStartIsValid enc effect approval executionStartedAt ||
    decide (recordedAt < executionStartedAt)) .durableProviderRecoveryMismatch
  return if effect.status == target then none else some { effect with status := target }

/-- Set the stage, and the block if there is one. -/
def enterRecovered (block : Option MissionBlock) (self : Mission) : Mission :=
  match block with
  | none => { self with stage := .verifying }
  | some block => { self with stage := .blocked, block := some block }

def reconcileDurableProviderState (enc : MissionEncoding) (effectId : EffectId)
    (durableState : DurableProviderState) (executionStartedAt recordedAt : DateTime) :
    Command Mission MissionError Unit := do
  match ← Command.check (checkReconcileDurableProviderState enc · effectId durableState
    executionStartedAt recordedAt) with
  | none => return
  | some effect =>
    modify fun self => touch recordedAt
      (enterRecovered (durableState.block effectId recordedAt)
        (writeEffect effect self))

/-! ## Results -/

def checkMarkEffectUncertain (self : Mission) (effectId : EffectId) :
    Except MissionError Effect := do
  self.ensureTouchable
  let effect ← self.effect effectId
  rejectIf (!(effect.status == .executing || effect.status == .receiptRecorded))
    (.invalidEffectTransition effect.status .verificationRequired)
  return { effect with status := .verificationRequired }

def markEffectUncertain (effectId : EffectId) (now : DateTime) :
    Command Mission MissionError Unit := do
  let effect ← Command.check (·.checkMarkEffectUncertain effectId)
  modify (writeEffect effect)
  enterStage .verifying .verifying now

def checkMarkEffectFailed (self : Mission) (effectId : EffectId) :
    Except MissionError Effect := do
  self.ensureTouchable
  let effect ← self.effect effectId
  rejectIf (effect.status != .executing) (.invalidEffectTransition effect.status .failed)
  return { effect with status := .failed }

def markEffectFailed (effectId : EffectId) (now : DateTime) :
    Command Mission MissionError Unit := do
  let effect ← Command.check (·.checkMarkEffectFailed effectId)
  modify (writeEffect effect)
  enterBlocked (effectFailedBlock effectId now)

def checkRecordVerification (self : Mission) (effectId : EffectId) (verification : Verification) :
    Except MissionError Effect := do
  self.ensureTouchable
  let effect ← self.effect effectId
  rejectIf (!(effect.status == .receiptRecorded || effect.status == .verificationRequired))
    (.invalidEffectTransition effect.status .verified)
  let receipt ← okOr effect.receipt .verificationReceiptMismatch
  rejectIf (receipt.id != verification.receiptId || isBlank verification.verifier ||
    !verification.independent || !isSha256 verification.evidenceDigest ||
    decide (verification.observedAt < receipt.acceptedAt)) .verificationReceiptMismatch
  return { effect with
    status := verification.status.effectStatus
    verification := some verification }

def recordVerification (effectId : EffectId) (verification : Verification) :
    Command Mission MissionError Unit := do
  let effect ← Command.check (·.checkRecordVerification effectId verification)
  modify (writeEffect effect)
  Command.branch (·.effects.any (·.status == .failed))
    (enterBlocked (verificationRejectedBlock verification.observedAt))
    (enterStage .verifying .verifying verification.observedAt)

def checkContinueAfterVerifiedEffect (self : Mission) (effectId : EffectId) :
    Except MissionError Unit := do
  self.requireStage [.verifying]
  let effect ← self.effect effectId
  rejectIf (effect.status != .verified ||
    self.effects.any fun effect => effect.status.isPending || effect.status == .failed)
    .journeyContinuationNotReady
  self.ensureTouchable

def continueAfterVerifiedEffect (effectId : EffectId) (now : DateTime) :
    Command Mission MissionError Unit := do
  Command.check (·.checkContinueAfterVerifiedEffect effectId)
  enterStage .running .running now

end Mission

end Hartevo
