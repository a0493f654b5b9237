import Hartevo.Mission.Checks

/-!
# Typed terminals

Three manifests of the Catalog may be completed only through a typed resolution of their last
checkpoint.  The predicates of this module say that the stored checkpoints carry that resolution;
they are read by the commands that terminate a Mission.
-/

namespace Hartevo

/-- The source of the given kind in an application proof. -/
def MissionCheckpointApplicationEvidence.source (self : MissionCheckpointApplicationEvidence)
    (kind : String) : Option MissionCheckpointOracleSource :=
  self.sources.find? (·.sourceKind == kind)

def MissionCheckpointApplicationEvidence.sourceKinds
    (self : MissionCheckpointApplicationEvidence) : BTreeSet String :=
  setOf (self.sources.map (·.sourceKind))

/-- The completion of the checkpoint with the given id. -/
def MissionDefinition.completionOf (self : MissionDefinition) (id : String) :
    Option MissionCheckpointCompletion :=
  (self.findCheckpoint id).bind (·.completion)

/-- The definition is the third version of the manifest, and all of its checkpoints are
completed. -/
def MissionDefinition.isCompletedManifest (self : MissionDefinition) (manifestId : String) : Bool :=
  self.manifestId == manifestId && self.manifestVersion == 3 &&
    self.checkpoints.all (·.status == .completed)

def vm04ValidTerminalIsTyped (mission : Mission) : Bool :=
  mission.definition.any fun definition =>
    definition.isCompletedManifest "VM-04" &&
      ((definition.completionOf "channel_rebalance").bind
        (·.applicationEvidence)).any fun evidence =>
        evidence.handlerId == "vm04.channel-rebalance/v1" &&
          evidence.checkpointId == "channel_rebalance" &&
          evidence.sourceKinds ==
            setOf ["channel_rebalance", "engagement_review", "mission_checkpoint",
              "mission_contract"]

/-! ## The plan of VM-07 -/

/-- The last completion is the decision on the plan of the prioritized experiments. -/
def vm07ResolutionMatches (enc : MissionEncoding) (mission : Mission)
    (prioritized : MissionCheckpoint) (prioritizedCompletion finalCompletion :
      MissionCheckpointCompletion)
    (prioritizedEvidence finalEvidence : MissionCheckpointApplicationEvidence)
    (plan : WorkProduct) : Bool :=
  prioritizedEvidence.handlerId == "vm07.prioritized-experiments/v1" &&
    prioritizedEvidence.digest enc == prioritizedCompletion.evidenceDigest &&
    prioritizedCompletion.effectIds.isEmpty && finalCompletion.workProductIds.isEmpty &&
    finalCompletion.effectIds.isEmpty &&
    finalCompletion.oracleIds == setOf ["decision", "goal", "operating_state", "outcome"] &&
    finalEvidence.digest enc == finalCompletion.evidenceDigest &&
    finalEvidence.handlerId == "vm07.replan-or-terminal/v1" &&
    finalEvidence.checkpointId == "replan_or_terminal" &&
    finalEvidence.sourceKinds ==
      setOf ["budgeted_experiment_plan", "mission_checkpoint", "mission_contract",
        "prioritized_experiments"] &&
    ((finalEvidence.source "prioritized_experiments").any fun source =>
      source.sourceId == mission.id ++ ":prioritized_experiments" &&
        source.sourceRevision == prioritized.revision &&
        source.projectionDigest == prioritizedCompletion.evidenceDigest &&
        source.oracleIds == setOf ["decision"]) &&
    ((finalEvidence.source "budgeted_experiment_plan").any fun source =>
      source.sourceId == plan.id && source.sourceRevision == plan.revision &&
        source.projectionDigest == plan.contentDigest && source.oracleIds == setOf ["outcome"]) &&
    (finalEvidence.source "mission_contract").any fun source =>
      source.sourceId == mission.id && source.oracleIds == setOf ["goal"]

def onlyWorkProduct (mission : Mission) (completion : MissionCheckpointCompletion) :
    Option WorkProduct :=
  match completion.workProductIds.toList with
  | [id] => mission.workProducts.find? (·.id == id)
  | _ => none

def vm07ReplanOrTerminalValidTerminalIsTyped (enc : MissionEncoding) (mission : Mission) :
    Bool :=
  mission.definition.any fun definition =>
    definition.isCompletedManifest "VM-07" &&
      (definition.findCheckpoint "prioritized_experiments").any fun prioritized =>
        prioritized.completion.any fun prioritizedCompletion =>
          prioritizedCompletion.applicationEvidence.any fun prioritizedEvidence =>
            (onlyWorkProduct mission prioritizedCompletion).any fun plan =>
              (definition.completionOf "replan_or_terminal").any fun finalCompletion =>
                finalCompletion.applicationEvidence.any fun finalEvidence =>
                  vm07ResolutionMatches enc mission prioritized prioritizedCompletion
                    finalCompletion prioritizedEvidence finalEvidence plan

/-! ## The resolutions of VM-11 -/

def nextContractHandlerId : String := "vm11.next-contract-or-valid-terminal/v1"

def outcomeDecisionName : OutcomeDecision → String
  | .continue_ => "continue"
  | .stop => "stop"
  | .scale => "scale"
  | .test => "test"

def nextContractIntentName : OutcomeReviewNextContractIntent → String
  | .validTerminal => "valid_terminal"
  | .continueCurrentContract => "continue_current_contract"
  | .scaleWithRevisedContract => "scale_with_revised_contract"
  | .testWithNewExperiment => "test_with_new_experiment"

def OutcomeReviewNextContractResolution.decisionSourceId
    (self : OutcomeReviewNextContractResolution) : String :=
  self.missionId ++ ":cycle:" ++ toString self.cycle ++ ":" ++ outcomeDecisionName self.action ++
    ":" ++ nextContractIntentName self.nextContractIntent

/-- The completed candidate closes the review that decided to continue. -/
def vm11CandidateMatches (nextCompletion candidateCompletion : MissionCheckpointCompletion)
    (nextEvidence candidateEvidence : MissionCheckpointApplicationEvidence)
    (nextDecisionSource : MissionCheckpointOracleSource) : Bool :=
  nextEvidence.handlerId == nextContractHandlerId &&
    endsWith nextDecisionSource.sourceId ":continue:continue_current_contract" &&
    candidateEvidence.handlerId == "vm11.candidate-learning/v1" &&
    candidateEvidence.checkpointId == "candidate_learning" &&
    candidateEvidence.sourceKinds ==
      setOf ["candidate_learning_proposal", "mission_checkpoint", "next_contract_resolution"] &&
    candidateCompletion.workProductIds.size == 1 &&
    ((candidateEvidence.source "candidate_learning_proposal").any fun source =>
      source.sourceRevision == 1 && source.oracleIds == setOf ["work_product"] &&
        candidateCompletion.workProductIds.toList.any (· == source.sourceId)) &&
    (candidateEvidence.source "next_contract_resolution").any fun source =>
      source.sourceId == nextDecisionSource.sourceId &&
        source.sourceRevision == nextDecisionSource.sourceRevision &&
        source.projectionDigest == nextCompletion.evidenceDigest &&
        source.oracleIds == setOf ["decision"]

def vm11CandidateLearningValidTerminalIsTyped (mission : Mission) : Bool :=
  mission.definition.any fun definition =>
    definition.isCompletedManifest "VM-11" &&
      (definition.completionOf "next_contract_or_valid_terminal").any fun nextCompletion =>
        nextCompletion.applicationEvidence.any fun nextEvidence =>
          (nextEvidence.source "outcome_review_decision").any fun nextDecisionSource =>
            (definition.completionOf "candidate_learning").any fun candidateCompletion =>
              candidateCompletion.applicationEvidence.any fun candidateEvidence =>
                vm11CandidateMatches nextCompletion candidateCompletion nextEvidence
                  candidateEvidence nextDecisionSource

/-- The review decided to stop, and the candidate was skipped. -/
def vm11StopTerminal (checkpoint candidate : MissionCheckpoint)
    (evidence : MissionCheckpointApplicationEvidence) : Bool :=
  checkpoint.status == .completed && candidate.status == .skipped &&
    evidence.handlerId == nextContractHandlerId &&
    evidence.sources.any fun source =>
      source.sourceKind == "outcome_review_decision" &&
        endsWith source.sourceId ":stop:valid_terminal" && source.oracleIds == setOf ["outcome"]

def vm11ValidTerminalIsTyped (mission : Mission) : Bool :=
  mission.definition.any fun definition =>
    definition.manifestId == "VM-11" && definition.manifestVersion == 3 &&
      (definition.findCheckpoint "next_contract_or_valid_terminal").any fun checkpoint =>
        (definition.findCheckpoint "candidate_learning").any fun candidate =>
          (checkpoint.completion.bind (·.applicationEvidence)).any fun evidence =>
            vm11StopTerminal checkpoint candidate evidence ||
              vm11CandidateLearningValidTerminalIsTyped mission

def validateVm11StopResolution (resolution : OutcomeReviewNextContractResolution) :
    Except MissionError Unit :=
  rejectIf (resolution.action != .stop || resolution.terminalDisposition != some .completed ||
    resolution.continuedContractDigest.isSome) .vm11ValidTerminalResolutionRequired

def validateVm11ContinueResolution (resolution : OutcomeReviewNextContractResolution) :
    Except MissionError Unit :=
  rejectIf (resolution.action != .continue_ ||
    resolution.nextContractIntent != .continueCurrentContract ||
    resolution.continuedContractDigest != some resolution.sourceContractDigest ||
    resolution.terminalDisposition.isSome)
    (.invalidCheckpointCompletion "next_contract_or_valid_terminal")

def validateVm11NextContractCompletionSources (mission : Mission)
    (resolution : OutcomeReviewNextContractResolution) (completion : MissionCheckpointCompletion) :
    Except MissionError Unit := do
  let definition ← mission.requireDefinition
  let checkpoint ← Mission.requireCheckpoint definition "next_contract_or_valid_terminal"
  let evidence ← okOr completion.applicationEvidence
    (.invalidCheckpointCompletion "next_contract_or_valid_terminal")
  rejectIf (definition.manifestId != "VM-11" || definition.cycle != resolution.cycle ||
    checkpoint.status != .verifying || resolution.tenantId != mission.tenantId ||
    resolution.projectId != mission.projectId || resolution.missionId != mission.id ||
    resolution.resolvedAt != completion.verifiedAt ||
    evidence.handlerId != nextContractHandlerId || evidence.observedAt != resolution.resolvedAt ||
    evidence.sourceKinds !=
      setOf ["mission_checkpoint", "outcome_review_decision", "parent_mission_contract"] ||
    ((evidence.source "mission_checkpoint").all fun source =>
      source.sourceId != mission.id ++ ":" ++ checkpoint.id ||
        source.oracleIds != setOf ["operating_state"]) ||
    ((evidence.source "parent_mission_contract").all fun source =>
      source.sourceId != resolution.sourceMissionId ||
        source.sourceRevision != resolution.sourceMissionRevision ||
        source.projectionDigest != resolution.sourceContractDigest ||
        source.oracleIds != setOf ["goal"]) ||
    (evidence.source "outcome_review_decision").all fun source =>
      source.sourceId != resolution.decisionSourceId || source.sourceRevision != resolution.cycle ||
        source.projectionDigest != resolution.decisionDigest ||
        source.oracleIds != setOf ["outcome"])
    (.invalidCheckpointCompletion "next_contract_or_valid_terminal")

end Hartevo
