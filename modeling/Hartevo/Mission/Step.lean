import Hartevo.Foundation.Machine
import Hartevo.Mission.EffectCommands

/-!
# A Mission as a machine

`MissionCommand` lists the public commands of the aggregate, with their arguments.
`Mission.step` runs one of them, so that a run of a Mission is a run of a machine from the state
that `Mission.compile` or `Mission.compileCatalog` returned.  A command that fails is a step too: it
leaves the state it had written until then.
-/

namespace Hartevo

/-- The public commands of a Mission. -/
inductive MissionCommand
  | startResearch (tasks : List Task) (now : DateTime)
  | startScheduledCycle (cycle : ℕ) (tasks : List Task) (now : DateTime)
  | recordEvidence (evidence : Evidence) (now : DateTime)
  | recordWorkProduct (workProduct : WorkProduct) (now : DateTime)
  | reviseWorkProduct (workProduct : WorkProduct) (now : DateTime)
  | beginCheckpoint (checkpointId : String) (now : DateTime)
  | beginCheckpointWithTask (checkpointId : String) (task : Task) (now : DateTime)
  | beginCheckpointVerification (checkpointId : String) (now : DateTime)
  | completeCheckpoint (checkpointId : String) (completion : MissionCheckpointCompletion)
  | completeVm04ChannelRebalanceTerminal (completion : MissionCheckpointCompletion)
  | completeVm07ReplanOrTerminalTerminal (completion : MissionCheckpointCompletion)
  | completeVm11CandidateLearningTerminal (completion : MissionCheckpointCompletion)
  | completeVm11NextContractResolution (resolution : OutcomeReviewNextContractResolution)
    (completion : MissionCheckpointCompletion)
  | blockCheckpoint (checkpointId : String) (reason : MissionBlock) (waitingStage : MissionStage)
  | proposeEffect (spec : EffectSpec) (now : DateTime)
  | approveEffect (effectId : EffectId) (approval : Approval)
  | cancelEffect (effectId : EffectId) (now : DateTime)
  | beginEffect (effectId : EffectId) (now : DateTime)
  | recordReceipt (effectId : EffectId) (receipt : Receipt)
  | reconcileDurableReceipt (effectId : EffectId) (receipt : Receipt)
    (executionStartedAt : DateTime)
  | reconcileDurableProviderState (effectId : EffectId) (durableState : DurableProviderState)
    (executionStartedAt recordedAt : DateTime)
  | markEffectUncertain (effectId : EffectId) (now : DateTime)
  | markEffectFailed (effectId : EffectId) (now : DateTime)
  | recordVerification (effectId : EffectId) (verification : Verification)
  | continueAfterVerifiedEffect (effectId : EffectId) (now : DateTime)
  | recordOutcome (outcome : Outcome)
  | block (reason : MissionBlock) (waitingStage : MissionStage)
  | resume (now : DateTime)
  | terminate (disposition : MissionTerminalDisposition) (now : DateTime)

/-- What a command does.  The id that a proposal returns is the one of its specification. -/
def MissionCommand.toCommand (enc : MissionEncoding) :
    MissionCommand → Command Mission MissionError Unit
  | .startResearch tasks now => Mission.startResearch tasks now
  | .startScheduledCycle cycle tasks now => Mission.startScheduledCycle enc cycle tasks now
  | .recordEvidence evidence now => Mission.recordEvidence evidence now
  | .recordWorkProduct workProduct now => Mission.recordWorkProduct enc workProduct now
  | .reviseWorkProduct workProduct now => Mission.reviseWorkProduct enc workProduct now
  | .beginCheckpoint checkpointId now => Mission.beginCheckpoint checkpointId now
  | .beginCheckpointWithTask checkpointId task now =>
    Mission.beginCheckpointWithTask checkpointId task now
  | .beginCheckpointVerification checkpointId now =>
    Mission.beginCheckpointVerification checkpointId now
  | .completeCheckpoint checkpointId completion =>
    Mission.completeCheckpoint enc checkpointId completion
  | .completeVm04ChannelRebalanceTerminal completion =>
    Mission.completeVm04ChannelRebalanceTerminal enc completion
  | .completeVm07ReplanOrTerminalTerminal completion =>
    Mission.completeVm07ReplanOrTerminalTerminal enc completion
  | .completeVm11CandidateLearningTerminal completion =>
    Mission.completeVm11CandidateLearningTerminal enc completion
  | .completeVm11NextContractResolution resolution completion =>
    Mission.completeVm11NextContractResolution enc resolution completion
  | .blockCheckpoint checkpointId reason waitingStage =>
    Mission.blockCheckpoint checkpointId reason waitingStage
  | .proposeEffect spec now => do
    let _ ← Mission.proposeEffect spec now
  | .approveEffect effectId approval => Mission.approveEffect enc effectId approval
  | .cancelEffect effectId now => Mission.cancelEffect effectId now
  | .beginEffect effectId now => Mission.beginEffect enc effectId now
  | .recordReceipt effectId receipt => Mission.recordReceipt enc effectId receipt
  | .reconcileDurableReceipt effectId receipt executionStartedAt =>
    Mission.reconcileDurableReceipt enc effectId receipt executionStartedAt
  | .reconcileDurableProviderState effectId durableState executionStartedAt recordedAt =>
    Mission.reconcileDurableProviderState enc effectId durableState executionStartedAt
      recordedAt
  | .markEffectUncertain effectId now => Mission.markEffectUncertain effectId now
  | .markEffectFailed effectId now => Mission.markEffectFailed effectId now
  | .recordVerification effectId verification => Mission.recordVerification effectId verification
  | .continueAfterVerifiedEffect effectId now => Mission.continueAfterVerifiedEffect effectId now
  | .recordOutcome outcome => Mission.recordOutcome outcome
  | .block reason waitingStage => Mission.blockMission reason waitingStage
  | .resume now => Mission.resume now
  | .terminate disposition now => Mission.terminate disposition now

def Mission.step (enc : MissionEncoding) (self : Mission) (command : MissionCommand) :
    Except MissionError Unit × Mission :=
  (command.toCommand enc).exec self

/-- The Missions that a run starts from. -/
inductive Mission.IsCompiled (enc : MissionEncoding) : Mission → Prop
  | compile {tenantId : TenantId} {id : MissionId} {projectId : ProjectId} {title : String}
    {contract : OperatingContract} {now : DateTime} {m : Mission}
    (h : Mission.compile tenantId id projectId title contract now = .ok m) :
    Mission.IsCompiled enc m
  | compileCatalog {tenantId : TenantId} {id : MissionId} {projectId : ProjectId} {title : String}
    {contract : OperatingContract} {definition : MissionDefinition} {now : DateTime} {m : Mission}
    (h : Mission.compileCatalog enc tenantId id projectId title contract definition now =
      .ok m) : Mission.IsCompiled enc m

section Compiled

variable {enc : MissionEncoding} {tid : TenantId} {id : MissionId}
  {pid : ProjectId} {title : String} {ct : OperatingContract}
  {d : MissionDefinition} {now : DateTime} {m : Mission}

lemma Mission.compile_ok (h : Mission.compile tid id pid title ct now = .ok m) :
    ct.validate now = .ok () ∧ m = Mission.initial tid id pid (trim title) ct none now := by
  obtain ⟨-, h⟩ := check_ok.mp h
  obtain ⟨hcon, h⟩ := check_ok.mp h
  cases h
  refine ⟨?_, rfl⟩
  unfold Mission.validateContract at hcon
  cases hv : ct.validate now with
  | ok => rfl
  | error => rw [hv] at hcon; cases hcon

lemma Mission.compileCatalog_ok (h : Mission.compileCatalog enc tid id pid title ct d now =
      .ok m) :
    d.validate enc = .ok () ∧ ct.validate now = .ok () ∧
      m = Mission.initial tid id pid (trim title) ct (some d) now := by
  obtain ⟨hv, h⟩ := check_ok.mp h
  obtain ⟨-, h⟩ := check_ok.mp h
  obtain ⟨ms, hm, h⟩ := bind_ok.mp h
  obtain ⟨hcon, rfl⟩ := Mission.compile_ok hm
  cases h
  exact ⟨hv, hcon, rfl⟩

end Compiled

lemma Mission.IsCompiled.eq_initial {enc : MissionEncoding} {m : Mission}
    (h : Mission.IsCompiled enc m) :
    ∃ tid id pid title ct d now, m = Mission.initial tid id pid title ct d now := by
  cases h with
  | compile h => exact ⟨_, _, _, _, _, none, _, (Mission.compile_ok h).2⟩
  | @compileCatalog _ _ _ _ _ d _ _ h =>
    exact ⟨_, _, _, _, _, some d, _, (Mission.compileCatalog_ok h).2.2⟩

lemma Mission.isCompiled_sample (enc : MissionEncoding) : Mission.IsCompiled enc Mission.sample :=
  .compile (show Mission.compile "tenant" "mission" "project" "Sample" .sample 0 = _ by rfl)

/-- A Mission with a Catalog definition that is ready to run. -/
def Mission.catalogSample : Mission :=
  { Mission.sample with definition := some .sample }

lemma Mission.isCompiled_catalogSample : Mission.IsCompiled .sample Mission.catalogSample :=
  .compileCatalog (show Mission.compileCatalog .sample "tenant" "mission" "project" "Sample" .sample
    .sample 0 = _ by rfl)

end Hartevo
