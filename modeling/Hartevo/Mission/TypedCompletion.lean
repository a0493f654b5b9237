import Hartevo.Mission.Checkpoints

/-!
# Typed completions

A Mission of one of the manifests VM-04, VM-07 and VM-11 should be completed only through the typed
resolution of its last checkpoint.  The typed commands check that resolution, and `terminate` checks
it for VM-04 and VM-11.  It does not for VM-07, and an outcome completes a Mission without a look at
the manifest.  `EndsTyped` is what these two leave to their caller, and `typedCompletion_iff` shows
that a run keeps to typed completions exactly when its caller takes care of it.
-/

namespace Hartevo

open Command

namespace Mission

variable {enc : MissionEncoding} {m m' : Mission} {d : MissionDefinition} {cmd : MissionCommand}
  {id id' : String} {cpl : MissionCheckpointCompletion}

/-- The Mission carries the typed resolution of its manifest. -/
def IsTyped (enc : MissionEncoding) (m : Mission) : Prop :=
  (m.isManifest "VM-04" = true → vm04ValidTerminalIsTyped m = true) ∧
    (m.isManifest "VM-07" = true → vm07ReplanOrTerminalValidTerminalIsTyped enc m = true) ∧
    (m.isManifest "VM-11" = true → vm11ValidTerminalIsTyped m = true)

/-- A completed Mission carries the typed resolution of its manifest. -/
def TypedCompletion (enc : MissionEncoding) (m : Mission) : Prop :=
  m.stage = .completed → m.IsTyped enc

/-- The command does not complete the Mission, or checks its resolution, or finds it there. -/
def EndsTyped (enc : MissionEncoding) (m : Mission) : MissionCommand → Prop
  | .terminate .completed _ =>
    m.isManifest "VM-07" = true → vm07ReplanOrTerminalValidTerminalIsTyped enc m = true
  | .recordOutcome outcome =>
    nextStageAfterOutcome m.contract outcome.decision outcome.observedAt = .completed →
      m.IsTyped enc
  | _ => True

/-! ## What the predicates read -/

lemma isTyped_congr (hdef : m'.definition = m.definition) (hid : m'.id = m.id)
    (hp : m'.workProducts = m.workProducts) : m'.IsTyped enc ↔ m.IsTyped enc := by
  simp only [IsTyped, isManifest, vm04ValidTerminalIsTyped,
    vm07ReplanOrTerminalValidTerminalIsTyped, vm07ResolutionMatches, onlyWorkProduct,
    vm11ValidTerminalIsTyped, vm11CandidateLearningValidTerminalIsTyped, hdef, hid,
    hp]

/-- A predicate that asks for a completed manifest holds of that manifest only. -/
lemma isManifest_of_any {q : MissionDefinition → Bool}
    (h : m.definition.any (fun d => d.isCompletedManifest id && q d) = true) :
    m.isManifest id = true := by
  simp only [MissionDefinition.isCompletedManifest, Option.any_eq_true, Bool.and_eq_true,
    and_assoc] at h
  obtain ⟨d, hdef, hman, -⟩ := h
  rw [isManifest, hdef]
  exact hman

lemma isManifest_unique (h : m.isManifest id = true) (h' : m.isManifest id' = true) : id = id' := by
  simp only [isManifest, Option.any_eq_true, beq_iff_eq] at h h'
  obtain ⟨d, hdef, rfl⟩ := h
  obtain ⟨d₂, hd₂, rfl⟩ := h'
  rw [Option.mem_unique hdef hd₂]

/-! ## The end of a Mission -/

/-- The check of a termination leaves only the third manifest open. -/
lemma isTyped_iff_of_checkTerminate (h : m.checkTerminate .completed = .ok ()) : m.IsTyped enc ↔
      (m.isManifest "VM-07" = true → vm07ReplanOrTerminalValidTerminalIsTyped enc m = true) := by
  simp only [checkTerminate, check_ok, rejectIf_ok] at h
  obtain ⟨-, hv, hvm, -⟩ := h
  have hf : m.isManifest "VM-04" = true → vm04ValidTerminalIsTyped m = true := by
    intro hman
    simpa [hman] using hv
  have hl : m.isManifest "VM-11" = true → vm11ValidTerminalIsTyped m = true := by
    intro hman
    simpa [hman] using hvm
  exact ⟨fun ht => ht.2.1, fun ht => ⟨hf, ht, hl⟩⟩

/-- A Mission that was terminated as completed carries its typed resolution, unless its manifest is
the one that the termination does not check. -/
lemma isTyped_iff_of_terminate {now : DateTime}
    (h : (terminate .completed now).exec m = (.ok (), m')) :
    m'.definition = m.definition ∧ (m'.IsTyped enc ↔
        (m.isManifest "VM-07" = true → vm07ReplanOrTerminalValidTerminalIsTyped enc m = true)) := by
  obtain ⟨⟨⟩, hc, h⟩ := exec_check_ok.mp h
  cases h
  exact ⟨rfl, (isTyped_congr (m := m) rfl rfl rfl).trans (isTyped_iff_of_checkTerminate hc)⟩

lemma isTyped_of_completeTerminal {isTyped : Mission → Bool} {required : MissionError}
    (hv : ∀ m : Mission, isTyped m = true → m.isManifest "VM-07" = true →
      vm07ReplanOrTerminalValidTerminalIsTyped enc m = true)
    (h : (completeTerminal enc id isTyped required cpl).exec m = (.ok (), m')) :
    m'.IsTyped enc := by
  obtain ⟨⟨⟩, resolved, -, h⟩ := exec_bind_ok.mp (exec_onCopy_ok.mp h)
  obtain ⟨⟨⟩, ht, h⟩ := exec_check_ok.mp h
  rw [rejectIf_ok, Bool.not_eq_false'] at ht
  exact (isTyped_iff_of_terminate h).2.mpr (hv resolved ht)

lemma isTyped_of_typedTerminal (hcmd : typedTerminal cmd = some (id, cpl))
    (hok : m.step enc cmd = (.ok (), m')) : m'.IsTyped enc := by
  cases cmd with
  | completeVm04ChannelRebalanceTerminal =>
    refine isTyped_of_completeTerminal (fun m ht hman => ?_) hok
    exact absurd (isManifest_unique (isManifest_of_any ht) hman) (by decide)
  | completeVm07ReplanOrTerminalTerminal =>
    exact isTyped_of_completeTerminal (fun m ht _ => ht) hok
  | completeVm11CandidateLearningTerminal =>
    refine isTyped_of_completeTerminal (fun m ht hman => ?_) hok
    exact absurd (isManifest_unique (isManifest_of_any ht) hman) (by decide)
  | _ => cases hcmd

lemma isTyped_of_contractStopped {resolution : OutcomeReviewNextContractResolution}
    (hdef : m.definition = some d) (hi : resolution.nextContractIntent = .validTerminal)
    (hok : m.step enc (.completeVm11NextContractResolution resolution cpl) =
      (.ok (), m')) : m'.IsTyped enc := by
  obtain ⟨p, hstep, hp⟩ := checkpoint_step hdef hok
  have hsa : p.definition.manifestId = d.manifestId :=
    (congrArg MissionDefinition.manifestId (hstep.frame_eq hdef) :)
  obtain ⟨⟨⟩, hs, h⟩ := exec_check_ok.mp hok
  obtain ⟨⟨⟩, resolved, -, h⟩ := exec_bind_ok.mp (exec_onCopy_ok.mp h)
  rw [if_pos (beq_iff_eq.mpr hi)] at h
  obtain ⟨⟨⟩, -, h⟩ := exec_check_ok.mp h
  obtain ⟨⟨⟩, skipped, -, h⟩ := exec_bind_ok.mp h
  obtain ⟨hke, ht⟩ := isTyped_iff_of_terminate h
  refine ht.mpr fun hman => ?_
  -- The sources of the resolution say that the manifest is another one.
  have hv : m.isManifest "VM-11" = true := by
    simp only [validateVm11NextContractCompletionSources, bind_ok, passed, and_assoc] at hs
    obtain ⟨known, hk, -, -, -, -, hid, -⟩ := hs
    rw [isManifest, okOr_ok.mp hk]
    exact beq_iff_eq.mpr hid
  have hres : m'.isManifest "VM-07" = true := by
    rw [isManifest, hke]
    exact hman
  have hb : m.isManifest "VM-07" = true := by
    rw [isManifest, (progress_eq_some.mp hp).1, Option.any_some, hsa] at hres
    rw [isManifest, hdef]
    exact hres
  exact absurd (isManifest_unique hv hb) (by decide)

lemma ne_completed_of_waits {st : MissionCheckpointStatus} {stage : MissionStage}
    (h : checkpointStatusForMissionStage stage = .ok st) : stage ≠ .completed := by
  rintro rfl
  cases h

/-- A replay leaves the Mission as it is. -/
lemma step_of_replay (hok : m.step enc cmd = (.ok (), m'))
    (hr : m.Recovers enc none cmd) : m' = m := by
  cases cmd with
  | reconcileDurableReceipt | reconcileDurableProviderState =>
    obtain ⟨found, hc, h⟩ := exec_check_ok.mp hok
    obtain rfl := Except.ok.inj (hc.symm.trans hr)
    cases h
    rfl
  | _ => exact hr.elim

/-! ## One command -/

/-- A command keeps to typed completions exactly when it ends the Mission typed. -/
lemma typedCompletion_step_iff (hdef : m.definition = some d)
    (ht : m.TypedCompletion enc) (hok : m.step enc cmd = (.ok (), m')) :
    m'.TypedCompletion enc ↔ m.EndsTyped enc cmd := by
  obtain ⟨p, hstep, hp⟩ := progress_step hdef hok
  obtain ⟨-, hs, -, -⟩ := progress_eq_some.mp hp
  have hg : p.stage ≠ .completed → m'.TypedCompletion enc := by
    intro hot hdo
    exact absurd (hs.symm.trans hdo) hot
  cases hstep with
  | recorded hcmd ho =>
    refine iff_of_true (hg fun hdo => ?_) (by cases cmd <;> trivial)
    rw [show m.stage = .completed from hdo] at ho
    cases ho
  | replayed hr =>
    obtain rfl := step_of_replay hok hr
    refine iff_of_true ht ?_
    cases cmd <;> trivial
  | researchStarted | cycleStarted | verificationBegun => exact iff_of_true (hg nofun) trivial
  | checkpointBegun hcmd =>
    refine iff_of_true (hg nofun) ?_
    rcases hcmd with rfl | ⟨task, rfl⟩ <;> trivial
  | checkpointBlocked hc =>
    obtain ⟨-, -, hw⟩ := checkBlockCheckpoint_ok hc
    exact iff_of_true (hg (ne_completed_of_waits hw)) trivial
  | checkpointCompleted hcmd hcpl =>
    obtain ⟨route, c, revision, -, -, ha⟩ := hcpl
    refine iff_of_true (hg (by cases ha <;> nofun)) ?_
    rcases hcmd with rfl | ⟨-, resolution, -, rfl⟩ <;> trivial
  | terminalCompleted hcmd =>
    refine iff_of_true (fun _ => isTyped_of_typedTerminal hcmd hok) ?_
    cases cmd <;> trivial
  | contractStopped hi =>
    exact iff_of_true (fun _ => isTyped_of_contractStopped hdef hi hok) trivial
  | followed hf =>
    refine iff_of_true (hg ?_) (by cases hf <;> first | trivial | cases cmd <;> trivial)
    cases hf with
    | waits hw => exact ne_completed_of_waits hw
    | _ => nofun
  | detached hd =>
    refine iff_of_true (hg ?_) (by cases hd <;> first | trivial | cases cmd <;> trivial)
    cases hd <;> nofun
  | outcomeRecorded =>
    obtain ⟨⟨⟩, -, h⟩ := exec_check_ok.mp hok
    cases h
    exact imp_congr_right fun _ => isTyped_congr (m := m) rfl rfl rfl
  | @terminated disposition now hc =>
    cases disposition with
    | completed =>
      rw [TypedCompletion, hs]
      exact (imp_iff_right rfl).trans (isTyped_iff_of_terminate hok).2
    | _ => exact iff_of_true (hg nofun) trivial

/-! ## Runs -/

/-- In a run of successful commands of a Catalog Mission, every state keeps to typed completions
exactly when every command of the run ends the Mission typed. -/
theorem typedCompletion_iff (enc : MissionEncoding) {tenantId : TenantId} {id : MissionId}
    {projectId : ProjectId} {title : String} {contract : OperatingContract}
    {definition : MissionDefinition} {now : DateTime} {m : Mission}
    (hstart : Mission.compileCatalog enc tenantId id projectId title contract definition now =
      .ok m) {commands : List MissionCommand}
    (hok : ∀ e ∈ trace (Mission.step enc) m commands, e.output = .ok ()) :
    (∀ earlier later, commands = earlier ++ later →
        (run (Mission.step enc) m earlier).TypedCompletion enc) ↔
      ∀ e ∈ trace (Mission.step enc) m commands, e.before.EndsTyped enc e.input := by
  obtain ⟨-, -, hm⟩ := compileCatalog_ok hstart
  have hd : m.definition = some definition := by rw [hm]; rfl
  have hi : m.TypedCompletion enc := by
    intro hc
    rw [hm] at hc
    cases hc
  refine states_iff (Mission.step enc)
    (R := fun m => ∃ definition, m.definition = some definition)
    (I := TypedCompletion enc) (G := fun e => e.output = .ok ()) ?_ ?_
    ⟨definition, hd⟩ hi hok
  · rintro m command ⟨definition, hd⟩ hok
    obtain ⟨p, -, hp⟩ := progress_step hd (Prod.ext hok rfl)
    exact ⟨p.definition, (progress_eq_some.mp hp).1⟩
  · rintro m command ⟨definition, hd⟩ hok ht
    exact typedCompletion_step_iff hd ht (Prod.ext hok rfl)

/-- A Mission of the third version of the manifest VM-07, with the checkpoints of the sample. -/
def vm07Sample : Mission :=
  { catalogSample with
    definition := some
      { MissionDefinition.sample with manifestId := "VM-07", manifestVersion := 3 } }

/-- The third version of the manifest VM-04, with its last checkpoint only. -/
def vm04Definition : MissionDefinition :=
  { MissionDefinition.sample with
    manifestId := "VM-04"
    manifestVersion := 3
    checkpoints := MissionDefinition.linearCheckpoints none [("channel_rebalance", none)] }

def vm04Sample : Mission := { catalogSample with definition := some vm04Definition }

/-- The checkpoint is completed with its typed resolution, and the Mission with it. -/
def rebalancedRun : List MissionCommand :=
  let sources := ["channel_rebalance", "engagement_review", "mission_checkpoint",
    "mission_contract"].map fun kind => MissionCheckpointOracleSource.mk kind "id" 1 (lowerHex 0) ∅
  let evidence := { MissionCheckpointApplicationEvidence.sample with
    handlerId := "vm04.channel-rebalance/v1", checkpointId := "channel_rebalance", sources }
  [.startResearch [] 1, .beginCheckpointVerification "channel_rebalance" 2,
    .completeVm04ChannelRebalanceTerminal
      { MissionCheckpointCompletion.sample with applicationEvidence := some evidence }]

/-- The rebalanced run ends with a typed completion. -/
theorem typedCompletion_iff_rebalancedRun :
    Mission.compileCatalog .sample "tenant" "mission" "project" "Sample" .sample vm04Definition 0 =
        .ok vm04Sample ∧
      (run (Mission.step .sample) vm04Sample rebalancedRun).stage = .completed ∧
      vm04ValidTerminalIsTyped (run (Mission.step .sample) vm04Sample rebalancedRun) = true ∧
      ∀ earlier later, rebalancedRun = earlier ++ later →
        (run (Mission.step .sample) vm04Sample earlier).TypedCompletion .sample := by
  have hstart : Mission.compileCatalog .sample "tenant" "mission" "project" "Sample" .sample
      vm04Definition 0 = .ok vm04Sample := rfl
  have hok : (∀ e ∈ trace (Mission.step .sample) vm04Sample rebalancedRun, e.output = .ok ()) ∧
      (run (Mission.step .sample) vm04Sample rebalancedRun).stage = .completed ∧
      vm04ValidTerminalIsTyped (run (Mission.step .sample) vm04Sample rebalancedRun) = true := by
    decide +kernel
  refine ⟨hstart, hok.2.1, hok.2.2, (typedCompletion_iff .sample hstart hok.1).mpr ?_⟩
  exact List.forall_mem_cons.mpr ⟨trivial, List.forall_mem_cons.mpr ⟨trivial,
    List.forall_mem_singleton.mpr trivial⟩⟩

/-- A Mission of the manifest VM-07 is completed at once, without its typed resolution. -/
theorem untyped_vm07_completed :
    Mission.compileCatalog .sample "tenant" "mission" "project" "Sample" .sample
        { MissionDefinition.sample with manifestId := "VM-07", manifestVersion := 3 } 0 =
        .ok vm07Sample ∧
      (∀ e ∈ trace (Mission.step .sample) vm07Sample [.terminate .completed 1],
        e.output = .ok ()) ∧
      (run (Mission.step .sample) vm07Sample [.terminate .completed 1]).stage = .completed ∧
      vm07ReplanOrTerminalValidTerminalIsTyped .sample
        (run (Mission.step .sample) vm07Sample [.terminate .completed 1]) = false :=
  ⟨rfl, by decide +kernel, by decide +kernel, by decide +kernel⟩

end Mission

end Hartevo
