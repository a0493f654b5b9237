import Hartevo.Foundation.FirstMatch
import Hartevo.Mission.Digest

/-!
# Catalog definitions

A Mission that is compiled from a Catalog manifest carries a `MissionDefinition`: its checkpoints,
in order, each with the checkpoints it depends on and, in a routed definition, the capability, the
executor and the oracles that complete it.

`MissionDefinition.validate` is the check of a definition, at compilation and whenever a persisted
one is read back.  A definition is changed through a mutable reference.  A change that is checked
before its first write is modelled by the definition it writes; the two that can fail on the way,
`resetForNextCycle` and `setActiveStatus`, are commands on the definition.
-/

namespace Hartevo

/-! ## Errors -/

inductive MissionError
  | operatingContract (error : OperatingContractError)
  | emptyMission
  | invalidMissionDefinition
  | missionDefinitionContractMismatch
  | invalidMissionCycle (expected actual : ℕ)
  | missionCycleCheckpointIncomplete
  | missionDefinitionRequired
  | missionCheckpointNotFound (id : String)
  | invalidCheckpointTransition (checkpointId : String) (source target : MissionCheckpointStatus)
  | checkpointDependencyIncomplete (id : String)
  | invalidCheckpointCompletion (id : String)
  | missionCheckpointTaskMismatch (checkpointId expectedCapability : String)
  | invalidMissionStage (actual : MissionStage) (expected : List MissionStage)
  | duplicateEvidence (id : EvidenceId)
  | unknownEvidence (id : EvidenceId)
  | invalidWorkProduct (id : WorkProductId)
  | duplicateWorkProduct (id : WorkProductId)
  | unknownWorkProduct (id : WorkProductId)
  | invalidWorkProductTransition (id : WorkProductId)
  | unknownEffect (id : EffectId)
  | emptyIdempotencyKey
  | duplicateIdempotencyKey (key : String)
  | capabilityNotEnabled (capability : String)
  | negativeCostLimit
  | paymentAmountNotPositive
  | invalidEffectScope
  | consentRecordMismatch
  | invalidEffectTransition (source target : EffectStatus)
  | approvalScopeChanged
  | invalidApproval
  | missingApproval
  | effectExpired
  | approvalExpired
  | receiptScopeMismatch
  | durableReceiptRecoveryMismatch
  | durableProviderRecoveryMismatch
  | verificationReceiptMismatch
  | invalidOutcome
  | journeyContinuationNotReady
  | invalidBlock
  | blockNotRecoverable
  | alreadyTerminal
  | vm04ValidTerminalResolutionRequired
  | vm07ReplanOrTerminalResolutionRequired
  | vm11ValidTerminalResolutionRequired
  | vm11NextContractResolutionRequired
  | vm11CandidateLearningTerminalResolutionRequired
  | revisionOverflow
deriving DecidableEq

/-! ## Checkpoints and routes -/

def MissionCheckpointStatus.isActive : MissionCheckpointStatus → Bool
  | .running | .blocked | .waitingUser | .waitingApproval | .verifying => true
  | .pending | .ready | .completed | .skipped => false

def MissionCheckpointStatus.isTerminal : MissionCheckpointStatus → Bool
  | .completed | .skipped => true
  | _ => false

def MissionCheckpointStatus.isWaiting : MissionCheckpointStatus → Bool
  | .blocked | .waitingUser | .waitingApproval => true
  | _ => false

namespace MissionCheckpointRoute

def isContracted (self : MissionCheckpointRoute) : Bool :=
  !self.oracleIds.isEmpty && self.completionPolicy.isSome

def policyFits : MissionCheckpointExecutor → MissionCheckpointCompletionPolicy → Bool
  | .application, .deterministicEvidence => true
  | .runtime, .workProduct => true
  | .effectBroker, .verifiedEffect => true
  | .effectBroker, .effectReadbackV2 => true
  | .human, .humanConfirmation => true
  | _, _ => false

def validate (self : MissionCheckpointRoute) : Except MissionError Unit :=
  rejectIf (isBlank self.capabilityId || self.oracleIds.toList.any isBlank ||
    self.oracleIds.isEmpty != self.completionPolicy.isNone ||
    self.completionPolicy.any fun policy => !policyFits self.executor policy)
    .invalidMissionDefinition

end MissionCheckpointRoute

def setOf (elements : List String) : BTreeSet String :=
  .ofList elements

@[simp] lemma contains_setOf {elements : List String} {a : String}
    : (setOf elements).contains a = true ↔ a ∈ elements := by
  rw [setOf, Std.ExtTreeSet.contains_ofList, List.contains_iff_mem]

def applicationEvidenceSchemaVersion : ℕ := 1

/-- The sources of an application proof are well formed and cover exactly the oracles of the
route. -/
def applicationSourcesAreValid (route : MissionCheckpointRoute)
    (sources : List MissionCheckpointOracleSource) : Bool :=
  !sources.isEmpty &&
    (sources.all fun source =>
      !isBlank source.sourceKind && !isBlank source.sourceId && source.sourceRevision != 0 &&
        isSha256 source.projectionDigest && !source.oracleIds.isEmpty &&
        source.oracleIds.toList.all route.oracleIds.contains) &&
    setOf (sources.flatMap (·.oracleIds.toList)) == route.oracleIds

/-- The part of an application proof that is the same before and after the completion. -/
def applicationEvidenceMatches (enc : MissionEncoding) (definition : MissionDefinition)
    (checkpoint : MissionCheckpoint) (route : MissionCheckpointRoute)
    (completion : MissionCheckpointCompletion) (evidence : MissionCheckpointApplicationEvidence) :
    Bool :=
  evidence.schemaVersion == applicationEvidenceSchemaVersion && !isBlank evidence.handlerId &&
    evidence.manifestId == definition.manifestId &&
    evidence.manifestVersion == definition.manifestVersion &&
    evidence.catalogDigest == definition.catalogDigest && evidence.cycle == definition.cycle &&
    evidence.checkpointId == checkpoint.id && evidence.dispatchMissionRevision != 0 &&
    decide (evidence.dispatchMissionRevision ≤ evidence.verificationMissionRevision) &&
    evidence.dispatchCheckpointRevision != 0 &&
    decide (evidence.dispatchCheckpointRevision ≤ evidence.verificationCheckpointRevision) &&
    evidence.capabilityId == route.capabilityId && evidence.executor == route.executor &&
    some evidence.completionPolicy == route.completionPolicy &&
    evidence.observedAt == completion.verifiedAt &&
    applicationSourcesAreValid route evidence.sources &&
    evidence.digest enc == completion.evidenceDigest

def validPersistedApplicationCheckpointEvidence (enc : MissionEncoding)
    (definition : MissionDefinition) (checkpoint : MissionCheckpoint)
    (route : MissionCheckpointRoute) (completion : MissionCheckpointCompletion) : Bool :=
  if route.executor != .application then completion.applicationEvidence.isNone
  else completion.applicationEvidence.any fun evidence =>
    !isBlank evidence.tenantId && !isBlank evidence.projectId && !isBlank evidence.missionId &&
      checkedAdd 64 evidence.verificationCheckpointRevision 1 == some checkpoint.revision &&
      applicationEvidenceMatches enc definition checkpoint route completion evidence

namespace MissionDefinition

/-- The record of a completed checkpoint proves its completion. -/
def completionIsValid (enc : MissionEncoding) (self : MissionDefinition)
    (checkpoint : MissionCheckpoint) (completion : MissionCheckpointCompletion) : Bool :=
  !completion.oracleIds.isEmpty && completion.oracleIds.toList.all self.oracleIds.contains &&
    isSha256 completion.evidenceDigest &&
    (checkpoint.startedAt.any fun startedAt => decide (startedAt ≤ completion.verifiedAt)) &&
    checkpoint.route.all fun route =>
      route.isContracted && completion.oracleIds == route.oracleIds &&
        route.completionPolicy != some .effectReadbackV2 &&
        validPersistedApplicationCheckpointEvidence enc self checkpoint route completion &&
        (!route.oracleIds.contains "work_product" || !completion.workProductIds.isEmpty) &&
        (route.completionPolicy != some .verifiedEffect || !completion.effectIds.isEmpty)

def checkpointIsValid (enc : MissionEncoding) (self : MissionDefinition)
    (checkpoint : MissionCheckpoint) (seen : BTreeSet String) : Bool :=
  !(isBlank checkpoint.id || checkpoint.revision == 0 ||
    (checkpoint.route.any fun route =>
      !route.validate.isOk || !self.capabilityIds.contains route.capabilityId ||
        !route.oracleIds.toList.all self.oracleIds.contains) ||
    checkpoint.dependsOn.contains checkpoint.id ||
    !checkpoint.dependsOn.toList.all seen.contains ||
    (checkpoint.attempt == 0 && checkpoint.startedAt.isSome) ||
    (checkpoint.status == .pending && (checkpoint.startedAt.isSome || checkpoint.block.isSome ||
      checkpoint.completion.isSome)) ||
    (checkpoint.status == .ready && (checkpoint.block.isSome || checkpoint.completion.isSome)) ||
    (checkpoint.status == .completed && checkpoint.completion.isNone) ||
    (checkpoint.status != .completed && checkpoint.completion.isSome) ||
    checkpoint.status.isWaiting != checkpoint.block.isSome) &&
  checkpoint.completion.all (self.completionIsValid enc checkpoint)

/-- The checkpoints are valid one after the other, and each depends only on earlier ones. -/
def checkpointsAreValid (enc : MissionEncoding) (self : MissionDefinition) :
    BTreeSet String → List MissionCheckpoint → Bool
  | _, [] => true
  | seen, checkpoint :: rest =>
    self.checkpointIsValid enc checkpoint seen &&
      checkpointsAreValid enc self (seen.insert checkpoint.id) rest

def routesAreValid (self : MissionDefinition) : Bool :=
  let routes := self.checkpoints.filterMap (·.route)
  let contractedCount := routes.countP (·.isContracted)
  setOf (routes.map (·.capabilityId)) == self.capabilityIds &&
    (contractedCount == 0 || contractedCount == routes.length) &&
    (contractedCount != routes.length ||
      setOf (routes.flatMap (·.oracleIds.toList)) == self.oracleIds)

def validate (enc : MissionEncoding) (self : MissionDefinition) :
    Except MissionError Unit := do
  rejectIf (isBlank self.manifestId || self.manifestVersion == 0 || !isSha256 self.catalogDigest ||
    self.capabilityIds.isEmpty || self.requiredArtifactTypes.isEmpty || self.oracleIds.isEmpty ||
    self.checkpoints.isEmpty || self.cycle == 0 ||
    (setOf (self.checkpoints.map (·.id))).size != self.checkpoints.length ||
    self.capabilityIds.toList.any isBlank || self.requiredArtifactTypes.toList.any isBlank ||
    self.oracleIds.toList.any isBlank) .invalidMissionDefinition
  let routedCheckpointCount := self.checkpoints.countP (·.route.isSome)
  rejectIf (routedCheckpointCount != 0 && routedCheckpointCount != self.checkpoints.length)
    .invalidMissionDefinition
  rejectIf (routedCheckpointCount == self.checkpoints.length && !self.routesAreValid)
    .invalidMissionDefinition
  rejectIf (!self.checkpointsAreValid enc ∅ self.checkpoints) .invalidMissionDefinition
  rejectIf (decide (self.checkpoints.countP (·.status == .ready) > 1) ||
    decide (self.checkpoints.countP (·.status.isActive) > 1)) .invalidMissionDefinition

/-! ## Construction from a manifest -/

/-- The checkpoints of a linear manifest: each depends on the one before it. -/
def linearCheckpoints (previous : Option String) :
    List (String × Option MissionCheckpointRoute) → List MissionCheckpoint
  | [] => []
  | (id, route) :: rest =>
    { id
      dependsOn := setOf previous.toList
      route
      status := if previous.isNone then .ready else .pending
      revision := 1
      attempt := 0
      startedAt := none
      block := none
      completion := none } :: linearCheckpoints (some id) rest

def fromManifestParts (enc : MissionEncoding) (manifestId : String) (manifestVersion : ℕ)
    (catalogDigest : String) (operatingMode : OperatingMode)
    (capabilityIds requiredArtifactTypes oracleIds : List String)
    (checkpointRoutes : List (String × Option MissionCheckpointRoute)) :
    Except MissionError MissionDefinition := do
  let definition : MissionDefinition := {
    manifestId
    manifestVersion
    catalogDigest
    operatingMode
    capabilityIds := setOf capabilityIds
    requiredArtifactTypes := setOf requiredArtifactTypes
    oracleIds := setOf oracleIds
    checkpoints := linearCheckpoints none checkpointRoutes
    cycle := 1 }
  definition.validate enc
  return definition

def fromLinearManifest (enc : MissionEncoding) (manifestId : String) (manifestVersion : ℕ)
    (catalogDigest : String) (operatingMode : OperatingMode)
    (capabilityIds requiredArtifactTypes oracleIds checkpointIds : List String) :
    Except MissionError MissionDefinition :=
  fromManifestParts enc manifestId manifestVersion catalogDigest operatingMode capabilityIds
    requiredArtifactTypes oracleIds (checkpointIds.map fun id => (id, none))

def fromRoutedLinearManifest (enc : MissionEncoding) (manifestId : String)
    (manifestVersion : ℕ) (catalogDigest : String) (operatingMode : OperatingMode)
    (capabilityIds requiredArtifactTypes oracleIds : List String)
    (checkpointRoutes : List (String × MissionCheckpointRoute)) :
    Except MissionError MissionDefinition :=
  fromManifestParts enc manifestId manifestVersion catalogDigest operatingMode capabilityIds
    requiredArtifactTypes oracleIds (checkpointRoutes.map fun entry => (entry.1, some entry.2))

/-! ## Reading and changing the checkpoints -/

def activeCheckpoint (self : MissionDefinition) : Option MissionCheckpoint :=
  self.checkpoints.find? (·.status.isActive)

def findCheckpoint (self : MissionDefinition) (id : String) : Option MissionCheckpoint :=
  self.checkpoints.find? (·.id == id)

def completedIds (self : MissionDefinition) : BTreeSet String :=
  setOf ((self.checkpoints.filter (·.status == .completed)).map (·.id))

def validateFirstCheckpointTasks (self : MissionDefinition) (tasks : List Task) :
    Except MissionError Unit :=
  match self.checkpoints with
  | [] => .error .invalidMissionDefinition
  | checkpoint :: _ =>
    match checkpoint.route with
    | none => .ok ()
    | some route =>
      rejectIf (tasks.isEmpty ||
        (tasks.any fun task =>
          task.status != .running || isBlank task.title || task.capability != route.capabilityId) ||
        (setOf (tasks.map (·.id))).size != tasks.length)
        (.missionCheckpointTaskMismatch checkpoint.id route.capabilityId)

def startFirstCheckpoint (self : MissionDefinition) (now : DateTime) :
    Except MissionError MissionDefinition :=
  match self.checkpoints with
  | [] => .error .invalidMissionDefinition
  | checkpoint :: rest => do
    rejectIf (checkpoint.status != .ready || checkpoint.attempt != 0 || checkpoint.startedAt.isSome)
      (.invalidCheckpointTransition checkpoint.id checkpoint.status .running)
    let checkpoint := { checkpoint with
      status := .running
      attempt := 1
      startedAt := some now
      revision := (checkpoint.revision + 1) % 2 ^ 64 }
    return { self with checkpoints := checkpoint :: rest }

/-- Reset the checkpoints from the given one on.  When a revision overflows, the checkpoints before
it are reset already, and its own status too. -/
def resetCheckpoints : Bool → List MissionCheckpoint →
    Except MissionError Unit × List MissionCheckpoint
  | _, [] => (.ok (), [])
  | first, checkpoint :: rest =>
    let status : MissionCheckpointStatus := if first then .ready else .pending
    match checkedAdd 64 checkpoint.revision 1 with
    | none => (.error .revisionOverflow, { checkpoint with status } :: rest)
    | some revision =>
      let result := resetCheckpoints false rest
      (result.1, { checkpoint with
        status
        revision
        attempt := 0
        startedAt := none
        block := none
        completion := none } :: result.2)

/-- The next cycle may start: it is the next one, and every checkpoint is done. -/
def requireNextCycle (self : MissionDefinition) (cycle : ℕ) : Except MissionError Unit :=
  rejectIf (checkedAdd 64 self.cycle 1 != some cycle ||
    !self.checkpoints.all (·.status.isTerminal)) .missionCycleCheckpointIncomplete

def resetForNextCycle (enc : MissionEncoding) (cycle : ℕ) :
    Command MissionDefinition MissionError Unit := do
  Command.check (·.requireNextCycle cycle)
  Command.focus (·.checkpoints) (fun checkpoints self => { self with checkpoints })
    (resetCheckpoints true)
  modify fun self => { self with cycle }
  Command.check (·.validate enc)

def writeActive (self : MissionDefinition) (checkpoint : MissionCheckpoint) : MissionDefinition :=
  { self with checkpoints := replaceFirst (·.status.isActive) checkpoint self.checkpoints }

def requireActive (self : MissionDefinition) : Except MissionError MissionCheckpoint :=
  okOr self.activeCheckpoint .invalidMissionDefinition

/-- Give the active checkpoint a status and a block.  When its revision overflows, these two are
written already. -/
def setActiveStatus (status : MissionCheckpointStatus) (block : Option MissionBlock) :
    Command MissionDefinition MissionError Unit := do
  let checkpoint ← Command.check (·.requireActive)
  match checkedAdd 64 checkpoint.revision 1 with
  | none =>
    modify (·.writeActive { checkpoint with status, block })
    throw .revisionOverflow
  | some revision => modify (·.writeActive { checkpoint with status, block, revision })

end MissionDefinition

def MissionDefinition.sample : MissionDefinition where
  manifestId := "VM-01"
  manifestVersion := 1
  catalogDigest := lowerHex 0
  operatingMode := .oneOffDecision
  capabilityIds := setOf ["research"]
  requiredArtifactTypes := setOf ["report"]
  oracleIds := setOf ["goal"]
  checkpoints := MissionDefinition.linearCheckpoints none [("first", none), ("second", none)]
  cycle := 1

def MissionCheckpointCompletion.sample : MissionCheckpointCompletion where
  oracleIds := setOf ["goal"]
  workProductIds := ∅
  effectIds := ∅
  applicationEvidence := none
  evidenceDigest := lowerHex 0
  verifiedAt := 3

def MissionCheckpointApplicationEvidence.sample : MissionCheckpointApplicationEvidence where
  schemaVersion := 1
  handlerId := "handler"
  tenantId := "tenant"
  projectId := "project"
  missionId := "mission"
  manifestId := "VM-01"
  manifestVersion := 1
  catalogDigest := lowerHex 0
  cycle := 1
  checkpointId := "first"
  dispatchMissionRevision := 1
  dispatchCheckpointRevision := 1
  verificationMissionRevision := 1
  verificationCheckpointRevision := 1
  capabilityId := "research"
  executor := .application
  completionPolicy := .deterministicEvidence
  sources := []
  observedAt := 3

end Hartevo
