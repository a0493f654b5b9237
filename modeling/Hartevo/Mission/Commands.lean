import Hartevo.Mission.Terminals

/-!
# The commands of a Mission

Each public command works on the aggregate through a mutable reference.  It first checks that it
applies, and then writes.  The checks of a command, with what they compute for the writes, are a
definition of their own, `checkX` for the command `x`: it reads the Mission only.  What follows it
in the command are the writes, in their order, together with the failures that can still occur
between them.

Four commands resolve a checkpoint on a copy of the Mission and store it at the end; they use
`Command.onCopy`.
-/

namespace Hartevo

namespace Mission

/-! ## Writes -/

def touch (now : DateTime) (self : Mission) : Mission :=
  { self with updatedAt := now, revision := self.revision + 1 }

/-- Write back an effect that was found by its id. -/
def writeEffect (effect : Effect) (self : Mission) : Mission :=
  { self with effects := replaceFirst (·.id == effect.id) effect self.effects }

/-- Write back a checkpoint that was found by its id. -/
def writeCheckpoint (checkpoint : MissionCheckpoint) (self : Mission) : Mission :=
  { self with
    definition := self.definition.map fun definition =>
      { definition with
        checkpoints := replaceFirst (·.id == checkpoint.id) checkpoint definition.checkpoints } }

/-- Run a command on the definition, if there is one. -/
def onDefinition (command : Command MissionDefinition MissionError Unit) :
    Command Mission MissionError Unit :=
  Command.focusSome (·.definition)
    (fun definition self => { self with definition := some definition }) command

def setCatalogCheckpointStatus (status : MissionCheckpointStatus) (block : Option MissionBlock) :
    Command Mission MissionError Unit :=
  onDefinition (MissionDefinition.setActiveStatus status block)

def nextRevision (checkpoint : MissionCheckpoint) : Except MissionError ℕ :=
  okOr (checkedAdd 64 checkpoint.revision 1) .revisionOverflow

/-! ## Cycles -/

def checkFirstTasks (self : Mission) (tasks : List Task) : Except MissionError Unit :=
  self.definition.elim (.ok ()) (·.validateFirstCheckpointTasks tasks)

def checkStartResearch (self : Mission) (tasks : List Task) (now : DateTime) :
    Except MissionError (Option MissionDefinition) := do
  self.requireStage [.ready]
  self.checkFirstTasks tasks
  self.ensureTouchable
  match self.definition with
  | none => .ok none
  | some definition => some <$> definition.startFirstCheckpoint now

/-- What starting a cycle does to the Mission itself. -/
def startCycle (tasks : List Task) (now : DateTime) (self : Mission) : Mission :=
  touch now { self with tasks := self.tasks ++ tasks, stage := .running, block := none }

def startResearch (tasks : List Task) (now : DateTime) : Command Mission MissionError Unit := do
  let definition ← Command.check (·.checkStartResearch tasks now)
  modify fun self => startCycle tasks now { self with definition }

def checkStartScheduledCycle (self : Mission) (cycle : ℕ) (tasks : List Task) (now : DateTime) :
    Except MissionError Unit := do
  self.requireStage [.scheduled]
  validateContract self.contract now
  let expected ← okOr ((tryFromCount 64 self.outcomeHistory.length).bind (checkedAdd 64 · 1))
    .revisionOverflow
  rejectIf (cycle != expected || decide (cycle < 2)) (.invalidMissionCycle expected cycle)
  self.checkFirstTasks tasks
  self.ensureTouchable

/-- Reset the checkpoints for the next cycle and run the first one. -/
def beginNextCycle (enc : MissionEncoding) (cycle : ℕ) (now : DateTime) :
    Command MissionDefinition MissionError Unit := do
  MissionDefinition.resetForNextCycle enc cycle
  let started ← Command.check (·.startFirstCheckpoint now)
  modify fun _ => started

def startScheduledCycle (enc : MissionEncoding) (cycle : ℕ) (tasks : List Task)
    (now : DateTime) : Command Mission MissionError Unit := do
  Command.check (·.checkStartScheduledCycle cycle tasks now)
  onDefinition (beginNextCycle enc cycle now)
  modify (startCycle tasks now)

/-! ## Evidence and work products -/

def checkRecordEvidence (self : Mission) (evidence : Evidence) : Except MissionError Unit := do
  self.requireStage [.running]
  rejectIf (self.evidence.any (·.id == evidence.id)) (.duplicateEvidence evidence.id)
  self.ensureTouchable

def recordEvidence (evidence : Evidence) (now : DateTime) :
    Command Mission MissionError Unit := do
  Command.check (·.checkRecordEvidence evidence)
  modify fun self => touch now { self with evidence := self.evidence ++ [evidence] }

def checkRecordWorkProduct (enc : MissionEncoding) (self : Mission)
    (workProduct : WorkProduct) : Except MissionError Unit := do
  self.requireStage [.running]
  workProduct.validate enc
  rejectIf (workProduct.revision != 1 || workProduct.status != .draft)
    (.invalidWorkProduct workProduct.id)
  rejectIf (self.workProducts.any (·.id == workProduct.id)) (.duplicateWorkProduct workProduct.id)
  self.requireEvidence workProduct.evidenceIds
  self.ensureTouchable

def recordWorkProduct (enc : MissionEncoding) (workProduct : WorkProduct) (now : DateTime) :
    Command Mission MissionError Unit := do
  Command.check (·.checkRecordWorkProduct enc workProduct)
  modify fun self => touch now { self with
    workProducts := self.workProducts ++ [{ workProduct with status := .readyForReview }] }

def checkReviseWorkProduct (enc : MissionEncoding) (self : Mission)
    (workProduct : WorkProduct) : Except MissionError Unit := do
  self.requireStage [.running, .waitingUser, .waitingApproval, .verifying]
  let previous ← okOr (self.workProducts.find? (·.id == workProduct.id))
    (.unknownWorkProduct workProduct.id)
  let follows ← workProduct.follows enc previous
  rejectIf (!follows) (.invalidWorkProductTransition workProduct.id)
  self.requireEvidence workProduct.evidenceIds
  self.ensureTouchable

def reviseWorkProduct (enc : MissionEncoding) (workProduct : WorkProduct) (now : DateTime) :
    Command Mission MissionError Unit := do
  Command.check (·.checkReviseWorkProduct enc workProduct)
  modify fun self => touch now { self with
    workProducts := replaceFirst (·.id == workProduct.id) workProduct self.workProducts }

/-! ## Blocks, outcomes and the end -/

/-- The block says why the Mission waits, and the stage is one in which it can. -/
def blockIsInvalid (block : MissionBlock) (waitingStage : MissionStage) : Bool :=
  !waitingStage.isWaiting || isBlank block.code || isBlank block.detail

def checkBlock (self : Mission) (block : MissionBlock) (waitingStage : MissionStage) :
    Except MissionError MissionCheckpointStatus := do
  rejectIf (self.stage.isTerminal || blockIsInvalid block waitingStage) .invalidBlock
  self.ensureTouchable
  checkpointStatusForMissionStage waitingStage

def blockMission (block : MissionBlock) (waitingStage : MissionStage) :
    Command Mission MissionError Unit := do
  let status ← Command.check (·.checkBlock block waitingStage)
  setCatalogCheckpointStatus status (some block)
  modify fun self =>
    touch block.observedAt { self with block := some block, stage := waitingStage }

def checkResume (self : Mission) : Except MissionError Unit := do
  self.requireStage [.blocked, .waitingUser]
  rejectIf (self.block.any (!·.recoverable)) .blockNotRecoverable
  self.ensureTouchable

def resume (now : DateTime) : Command Mission MissionError Unit := do
  Command.check (·.checkResume)
  setCatalogCheckpointStatus .running none
  modify fun self => touch now { self with block := none, stage := .running }

def checkRecordOutcome (self : Mission) (outcome : Outcome) : Except MissionError Unit := do
  self.requireStage [.running, .verifying, .cycleReviewed]
  rejectIf (isBlank outcome.summary ||
    (self.outcomeHistory.getLast?.any fun previous =>
      decide (outcome.observedAt ≤ previous.observedAt)) ||
    self.effects.any (·.status.isPending) ||
    self.definition.any fun definition => !definition.checkpoints.all (·.status.isTerminal))
    .invalidOutcome
  self.ensureTouchable

def recordOutcome (outcome : Outcome) : Command Mission MissionError Unit := do
  Command.check (·.checkRecordOutcome outcome)
  modify fun self => touch outcome.observedAt { self with
    outcomeHistory := self.outcomeHistory ++ [outcome]
    outcome := some outcome
    stage := nextStageAfterOutcome self.contract outcome.decision outcome.observedAt
    block := none
    tasks := self.tasks.map fun task =>
      if task.status == .cancelled then task else { task with status := .completed } }

def checkTerminate (self : Mission) (disposition : MissionTerminalDisposition) :
    Except MissionError Unit := do
  rejectIf self.stage.isTerminal .alreadyTerminal
  rejectIf (disposition == .completed && self.isManifest "VM-04" && !vm04ValidTerminalIsTyped self)
    .vm04ValidTerminalResolutionRequired
  rejectIf (disposition == .completed && self.isManifest "VM-11" && !vm11ValidTerminalIsTyped self)
    .vm11ValidTerminalResolutionRequired
  self.ensureTouchable

def terminate (disposition : MissionTerminalDisposition) (now : DateTime) :
    Command Mission MissionError Unit := do
  Command.check (·.checkTerminate disposition)
  modify fun self => touch now { self with
    stage := disposition.stage
    block := none
    tasks := self.tasks.map fun task =>
      { task with status := if disposition == .cancelled then .cancelled else .completed } }

/-! ## Checkpoints -/

def routeOf (self : Mission) (checkpointId : String) : Option MissionCheckpointRoute :=
  (self.definition.bind (·.findCheckpoint checkpointId)).bind (·.route)

def checkBeginCheckpointTransition (self : Mission) (checkpointId : String) :
    Except MissionError MissionCheckpoint := do
  self.requireStage [.running]
  self.ensureTouchable
  let definition ← self.requireDefinition
  let checkpoint ← requireCheckpoint definition checkpointId
  rejectIf (checkpoint.status != .ready)
    (.invalidCheckpointTransition checkpoint.id checkpoint.status .running)
  rejectIf (!checkpoint.dependsOn.toList.all definition.completedIds.contains)
    (.checkpointDependencyIncomplete checkpoint.id)
  return checkpoint

def beginCheckpointTransition (checkpointId : String) (now : DateTime) :
    Command Mission MissionError Unit := do
  let checkpoint ← Command.check (·.checkBeginCheckpointTransition checkpointId)
  let running := { checkpoint with status := .running }
  modify (writeCheckpoint running)
  let attempt ← Command.check fun _ =>
    okOr (checkedAdd 32 running.attempt 1) .invalidMissionDefinition
  let started := { running with attempt, startedAt := some now, block := none }
  modify (writeCheckpoint started)
  let revision ← Command.check fun _ => nextRevision started
  modify fun self => touch now (writeCheckpoint { started with revision } self)

def checkUnrouted (self : Mission) (checkpointId : String) : Except MissionError Unit :=
  (self.routeOf checkpointId).elim (.ok ()) fun route =>
    .error (.missionCheckpointTaskMismatch checkpointId route.capabilityId)

def beginCheckpoint (checkpointId : String) (now : DateTime) :
    Command Mission MissionError Unit := do
  Command.check (·.checkUnrouted checkpointId)
  beginCheckpointTransition checkpointId now

def checkCheckpointTask (self : Mission) (checkpointId : String) (task : Task) :
    Except MissionError Unit := do
  let route ← okOr (self.routeOf checkpointId) .missionDefinitionRequired
  rejectIf (task.status != .running || isBlank task.title ||
    task.capability != route.capabilityId || self.tasks.any (·.id == task.id))
    (.missionCheckpointTaskMismatch checkpointId route.capabilityId)

def beginCheckpointWithTask (checkpointId : String) (task : Task) (now : DateTime) :
    Command Mission MissionError Unit := do
  Command.check (·.checkCheckpointTask checkpointId task)
  beginCheckpointTransition checkpointId now
  modify fun self => { self with tasks := self.tasks ++ [task] }

def checkBeginCheckpointVerification (self : Mission) (checkpointId : String) :
    Except MissionError MissionCheckpoint := do
  self.requireStage [.running]
  rejectIf (self.effects.any (·.status.isPending)) .journeyContinuationNotReady
  self.ensureTouchable
  let definition ← self.requireDefinition
  let checkpoint ← requireCheckpoint definition checkpointId
  rejectIf (checkpoint.status != .running)
    (.invalidCheckpointTransition checkpoint.id checkpoint.status .verifying)
  return checkpoint

def beginCheckpointVerification (checkpointId : String) (now : DateTime) :
    Command Mission MissionError Unit := do
  let checkpoint ← Command.check (·.checkBeginCheckpointVerification checkpointId)
  let verifying := { checkpoint with status := .verifying }
  modify (writeCheckpoint verifying)
  let revision ← Command.check fun _ => nextRevision verifying
  modify fun self =>
    touch now { writeCheckpoint { verifying with revision } self with stage := .verifying }

def checkBlockCheckpoint (self : Mission) (checkpointId : String) (block : MissionBlock)
    (waitingStage : MissionStage) :
    Except MissionError (MissionCheckpoint × MissionCheckpointStatus) := do
  rejectIf (blockIsInvalid block waitingStage) .invalidBlock
  self.requireStage [.running, .verifying]
  self.ensureTouchable
  let definition ← self.requireDefinition
  let checkpoint ← requireCheckpoint definition checkpointId
  let status ← checkpointStatusForMissionStage waitingStage
  rejectIf (!(checkpoint.status == .running || checkpoint.status == .verifying))
    (.invalidCheckpointTransition checkpoint.id checkpoint.status status)
  return (checkpoint, status)

def blockCheckpoint (checkpointId : String) (block : MissionBlock) (waitingStage : MissionStage) :
    Command Mission MissionError Unit := do
  let (checkpoint, status) ← Command.check (·.checkBlockCheckpoint checkpointId block waitingStage)
  let waiting := { checkpoint with status, block := some block }
  modify (writeCheckpoint waiting)
  let revision ← Command.check fun _ => nextRevision waiting
  modify fun self => touch block.observedAt
    { writeCheckpoint { waiting with revision } self with
      block := some block, stage := waitingStage }

/-! ## Completed checkpoints -/

def checkCompleteCheckpointValidated (enc : MissionEncoding) (self : Mission)
    (checkpointId : String) (completion : MissionCheckpointCompletion) :
    Except MissionError (Option MissionCheckpointRoute × MissionCheckpoint) := do
  self.requireStage [.verifying]
  let route ← self.validatedCheckpointCompletionRoute enc checkpointId completion
  self.ensureTouchable
  let definition ← self.requireDefinition
  let checkpoint ← requireCheckpoint definition checkpointId
  rejectIf (checkpoint.status != .verifying ||
    !checkpoint.startedAt.any fun startedAt => decide (startedAt ≤ completion.verifiedAt))
    (.invalidCheckpointTransition checkpoint.id checkpoint.status .completed)
  return (route, checkpoint)

def completeRouteTasks (route : Option MissionCheckpointRoute) (self : Mission) : Mission :=
  { self with
    tasks := self.tasks.map fun task =>
      if task.status == .running && route.any (task.capability == ·.capabilityId) then
        { task with status := .completed }
      else task }

/-- The checkpoint waits for nothing but its turn. -/
def isNext (completed : BTreeSet String) (candidate : MissionCheckpoint) : Bool :=
  candidate.status == .pending && candidate.dependsOn.toList.all completed.contains

def writeNext (completed : BTreeSet String) (next : MissionCheckpoint) (self : Mission) : Mission :=
  { self with
    definition := self.definition.map fun definition =>
      { definition with
        checkpoints := replaceFirst (isNext completed) next definition.checkpoints } }

/-- Make the next checkpoint ready, if there is one.  When its revision overflows, its status is
written already. -/
def advance (verifiedAt : DateTime) : Command Mission MissionError Unit := do
  let definition ← Command.check (·.requireDefinition)
  let completed := definition.completedIds
  match definition.checkpoints.find? (isNext completed) with
  | none => modify fun self => touch verifiedAt { self with stage := .verifying }
  | some next =>
    let ready := { next with status := .ready }
    match checkedAdd 64 ready.revision 1 with
    | none =>
      modify (writeNext completed ready)
      throw .revisionOverflow
    | some revision =>
      modify fun self =>
        touch verifiedAt { writeNext completed { ready with revision } self with stage := .running }

def completeCheckpointValidated (enc : MissionEncoding) (checkpointId : String)
    (completion : MissionCheckpointCompletion) : Command Mission MissionError Unit := do
  let (route, checkpoint) ←
    Command.check (·.checkCompleteCheckpointValidated enc checkpointId completion)
  let completed :=
    { checkpoint with status := .completed, completion := some completion, block := none }
  modify (writeCheckpoint completed)
  let revision ← Command.check fun _ => nextRevision completed
  modify fun self => completeRouteTasks route (writeCheckpoint { completed with revision } self)
  advance completion.verifiedAt

/-- Refuse the checkpoints that have a typed resolution, and a command of their own for it. -/
def checkUntyped (self : Mission) (checkpointId : String) : Except MissionError Unit := do
  rejectIf (checkpointId == "replan_or_terminal" && self.isManifest "VM-07")
    .vm07ReplanOrTerminalResolutionRequired
  rejectIf (checkpointId == "channel_rebalance" && self.isManifest "VM-04")
    .vm04ValidTerminalResolutionRequired
  rejectIf (checkpointId == "next_contract_or_valid_terminal" && self.isManifest "VM-11")
    .vm11NextContractResolutionRequired
  rejectIf (checkpointId == "candidate_learning" && self.isManifest "VM-11")
    .vm11CandidateLearningTerminalResolutionRequired

def completeCheckpoint (enc : MissionEncoding) (checkpointId : String)
    (completion : MissionCheckpointCompletion) : Command Mission MissionError Unit := do
  Command.check (·.checkUntyped checkpointId)
  completeCheckpointValidated enc checkpointId completion

/-! ## Typed resolutions -/

/-- Complete the last checkpoint of a manifest and, when it carries its typed resolution, the
Mission. -/
def completeTerminal (enc : MissionEncoding) (checkpointId : String)
    (isTyped : Mission → Bool) (required : MissionError)
    (completion : MissionCheckpointCompletion) : Command Mission MissionError Unit :=
  Command.onCopy do
    completeCheckpointValidated enc checkpointId completion
    Command.check fun resolved => rejectIf (!isTyped resolved) required
    terminate .completed completion.verifiedAt

def completeVm04ChannelRebalanceTerminal (enc : MissionEncoding) :
    MissionCheckpointCompletion → Command Mission MissionError Unit :=
  completeTerminal enc "channel_rebalance" vm04ValidTerminalIsTyped
    .vm04ValidTerminalResolutionRequired

def completeVm07ReplanOrTerminalTerminal (enc : MissionEncoding) :
    MissionCheckpointCompletion → Command Mission MissionError Unit :=
  completeTerminal enc "replan_or_terminal" (vm07ReplanOrTerminalValidTerminalIsTyped enc)
    .vm07ReplanOrTerminalResolutionRequired

def completeVm11CandidateLearningTerminal (enc : MissionEncoding) :
    MissionCheckpointCompletion → Command Mission MissionError Unit :=
  completeTerminal enc "candidate_learning" vm11CandidateLearningValidTerminalIsTyped
    .vm11CandidateLearningTerminalResolutionRequired

def checkSkipVm11CandidateLearning (self : Mission) : Except MissionError MissionCheckpoint := do
  let definition ← self.requireDefinition
  let candidate ← requireCheckpoint definition "candidate_learning"
  rejectIf (candidate.status != .ready || candidate.completion.isSome || candidate.block.isSome)
    .vm11ValidTerminalResolutionRequired
  return candidate

def skipVm11CandidateLearning : Command Mission MissionError Unit := do
  let candidate ← Command.check (·.checkSkipVm11CandidateLearning)
  let skipped := { candidate with status := .skipped }
  modify (writeCheckpoint skipped)
  let revision ← Command.check fun _ => nextRevision skipped
  modify (writeCheckpoint { skipped with revision })

def resolvedVm11NextContractMission (enc : MissionEncoding)
    (resolution : OutcomeReviewNextContractResolution) (completion : MissionCheckpointCompletion) :
    Command Mission MissionError Unit := do
  completeCheckpointValidated enc "next_contract_or_valid_terminal" completion
  if resolution.nextContractIntent == .validTerminal then do
    Command.check fun _ => validateVm11StopResolution resolution
    skipVm11CandidateLearning
    terminate .completed resolution.resolvedAt
  else
    Command.check fun _ => validateVm11ContinueResolution resolution

def completeVm11NextContractResolution (enc : MissionEncoding)
    (resolution : OutcomeReviewNextContractResolution) (completion : MissionCheckpointCompletion) :
    Command Mission MissionError Unit := do
  Command.check (validateVm11NextContractCompletionSources · resolution completion)
  Command.onCopy (resolvedVm11NextContractMission enc resolution completion)

end Mission

end Hartevo
