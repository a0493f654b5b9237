import Hartevo.Mission.Records

/-!
# What a command does to the progress of a Catalog Mission

The progress of a Mission is its definition with the checkpoints, its stage, its block and its
revision.  `ProgressStep` says what one successful command does to it: start or complete a
checkpoint, let the active checkpoint follow the stage, set the stage and leave the checkpoint
alone, begin a cycle, or end the Mission.  `progress_step` proves that there is nothing else; every
statement about the checkpoints in later modules is a case analysis over it.
-/

namespace Hartevo

open Command List

variable {l l' : List MissionCheckpoint} {id : String} {c c' : MissionCheckpoint}
  {reason : MissionBlock} {stage : MissionStage} {status : MissionCheckpointStatus}
  {cpl : MissionCheckpointCompletion} {cmd : MissionCommand} {eid : EffectId} {e' : Effect}
  {enc : MissionEncoding} {d d' : MissionDefinition}

/-! ## The next cycle -/

namespace MissionDefinition

variable {cycle : ℕ} {now : DateTime} {first : Bool}

/-- A checkpoint as the next cycle finds it. -/
def renewCheckpoint (status : MissionCheckpointStatus) (c : MissionCheckpoint) :
    MissionCheckpoint :=
  { c with
    status
    revision := c.revision + 1
    attempt := 0
    startedAt := none
    block := none
    completion := none }

/-- The checkpoints as the next cycle finds them: the first one is ready. -/
def renewCheckpoints : List MissionCheckpoint → List MissionCheckpoint
  | [] => []
  | c :: rest => renewCheckpoint .ready c :: rest.map (renewCheckpoint .pending)

/-- The definition at the beginning of the next cycle. -/
def renew (self : MissionDefinition) (cycle : ℕ) : MissionDefinition :=
  { self with checkpoints := renewCheckpoints self.checkpoints, cycle }

/-- No revision is exhausted, and the definition of the next cycle is valid. -/
def CanRenew (enc : MissionEncoding) (self : MissionDefinition) (cycle : ℕ) : Prop :=
  (∀ c ∈ self.checkpoints, (checkedAdd 64 c.revision 1).isSome = true) ∧
    (self.renew cycle).validate enc = .ok ()

lemma resetCheckpoints_ok (h : ∀ c ∈ l, (checkedAdd 64 c.revision 1).isSome = true) :
    resetCheckpoints first l =
      (.ok (), if first then renewCheckpoints l else l.map (renewCheckpoint .pending)) := by
  induction l generalizing first with
  | nil => cases first <;> rfl
  | cons c rest ih =>
    obtain ⟨rev, hrev⟩ := Option.isSome_iff_exists.mp (h c mem_cons_self)
    obtain ⟨-, rfl⟩ := checkedAdd_eq_some.mp hrev
    rw [resetCheckpoints, hrev, ih fun c hc => h c (mem_cons_of_mem _ hc)]
    cases first <;> rfl

lemma next_of_resetCheckpoints (h : resetCheckpoints first l = (.ok (), l')) :
    ∀ c ∈ l, (checkedAdd 64 c.revision 1).isSome = true := by
  induction l generalizing first l' with
  | nil => exact fun c hc => absurd hc not_mem_nil
  | cons c rest ih =>
    cases hrev : checkedAdd 64 c.revision 1 with
    | none => rw [resetCheckpoints, hrev] at h; cases h
    | some rev =>
      rw [resetCheckpoints, hrev, Prod.mk.injEq] at h
      intro known hk
      rcases mem_cons.mp hk with rfl | hr
      · rw [hrev]
        rfl
      · exact ih (Prod.ext h.1 rfl) known hr

lemma exec_resetForNextCycle {r : Except MissionError Unit} (hn : d.requireNextCycle cycle = .ok ())
    (hl : resetCheckpoints true d.checkpoints = (r, l)) :
    (resetForNextCycle enc cycle).exec d = match r with
      | .error e => (.error e, { d with checkpoints := l })
      | .ok () =>
        (validate enc { d with checkpoints := l, cycle }, { d with checkpoints := l, cycle }) := by
  have hr : (focus (·.checkpoints) (fun checkpoints self => { self with checkpoints })
      (resetCheckpoints true) : Command MissionDefinition MissionError Unit).exec d =
      (r, { d with checkpoints := l }) := by
    change ((resetCheckpoints true d.checkpoints).1,
      { d with checkpoints := (resetCheckpoints true d.checkpoints).2 }) = _
    rw [hl]
  rw [resetForNextCycle, exec_check_bind_of_ok (g := (requireNextCycle · cycle)) hn]
  cases r with
  | error => exact exec_bind_of_error hr
  | ok =>
    rw [exec_bind_of_ok hr, exec_modify_bind]
    rfl

/-- With a next revision for every checkpoint, only the validation can stop the reset. -/
lemma exec_resetForNextCycle_of_next (enc : MissionEncoding)
    (hn : d.requireNextCycle cycle = .ok ())
    (hre : ∀ c ∈ d.checkpoints, (checkedAdd 64 c.revision 1).isSome = true) :
    (resetForNextCycle enc cycle).exec d = ((d.renew cycle).validate enc, d.renew cycle) :=
  exec_resetForNextCycle hn (resetCheckpoints_ok hre)

/-- The reset succeeds exactly when the next cycle is due and the definition can be renewed. -/
lemma resetForNextCycle_ok : (resetForNextCycle enc cycle).exec d = (.ok (), d') ↔
      d.requireNextCycle cycle = .ok () ∧ d.CanRenew enc cycle ∧ d' = d.renew cycle := by
  constructor
  · intro h
    obtain ⟨⟨⟩, hn, -⟩ := exec_check_ok.mp h
    rcases hre : resetCheckpoints true d.checkpoints with ⟨e | ⟨⟩, l⟩
    · rw [exec_resetForNextCycle hn hre] at h
      cases h
    · have hr := next_of_resetCheckpoints hre
      rw [exec_resetForNextCycle_of_next enc hn hr, Prod.mk.injEq] at h
      exact ⟨hn, ⟨hr, h.1⟩, h.2.symm⟩
  · rintro ⟨hn, ⟨hr, hv⟩, rfl⟩
    rw [exec_resetForNextCycle_of_next enc hn hr, hv]

lemma beginNextCycle_ok : (Mission.beginNextCycle enc cycle now).exec d = (.ok (), d') ↔
      d.requireNextCycle cycle = .ok () ∧ d.CanRenew enc cycle ∧
        (d.renew cycle).startFirstCheckpoint now = .ok d' := by
  rw [Mission.beginNextCycle, exec_bind_ok]
  constructor
  · rintro ⟨⟨⟩, renewed, hre, hrest⟩
    obtain ⟨hn, hr, rfl⟩ := resetForNextCycle_ok.mp hre
    obtain ⟨started, hs, hres⟩ := exec_check_ok.mp hrest
    cases hres
    exact ⟨hn, hr, hs⟩
  · rintro ⟨hn, hr, hs⟩
    refine ⟨(), d.renew cycle, resetForNextCycle_ok.mpr ⟨hn, hr, rfl⟩, ?_⟩
    exact exec_check_ok.mpr ⟨d', hs, rfl⟩

/-! ## Writes -/

/-- The definition after a write to a checkpoint that was found by its id. -/
def write (self : MissionDefinition) (c : MissionCheckpoint) : MissionDefinition :=
  { self with checkpoints := replaceFirst (·.id == c.id) c self.checkpoints }

def MovesActive (self : MissionDefinition) (status : MissionCheckpointStatus)
    (block : Option MissionBlock) (definition : MissionDefinition) : Prop :=
  ∃ c revision, self.activeCheckpoint = some c ∧ checkedAdd 64 c.revision 1 = some revision ∧
    definition = self.writeActive { c with status, block, revision }

/-- After a completion the next checkpoint becomes ready, if there is one.  The stage tells which of
the two it is. -/
inductive Advances (self : MissionDefinition) : MissionDefinition → MissionStage → Prop
  | last (hlast : self.checkpoints.find? (Mission.isNext self.completedIds) = none) :
    Advances self self .verifying
  | next {next : MissionCheckpoint} {revision : ℕ}
    (hnext : self.checkpoints.find? (Mission.isNext self.completedIds) = some next)
    (hrevision : checkedAdd 64 next.revision 1 = some revision) :
    Advances self { self with
      checkpoints := replaceFirst (Mission.isNext self.completedIds)
        { next with status := .ready, revision } self.checkpoints } .running

end MissionDefinition

namespace Mission

variable {m m' : Mission}

/-! ## What the checks of the checkpoint commands let through -/

/-- The checkpoint is the first one with the given id. -/
def Finds (m : Mission) (id : String) (c : MissionCheckpoint) : Prop :=
  ∃ definition, m.definition = some definition ∧ definition.findCheckpoint id = some c

lemma Finds.id_eq (h : m.Finds id c) : c.id = id := by
  obtain ⟨d, -, hf⟩ := h
  have hs := find?_some hf
  exact beq_iff_eq.mp hs

lemma Finds.findCheckpoint_eq (h : m.Finds id c) (hdef : m.definition = some d) :
    d.findCheckpoint c.id = some c := by
  rw [h.id_eq]
  obtain ⟨d₂, hd₂, hf⟩ := h
  obtain rfl := Option.mem_unique hdef hd₂
  exact hf

lemma finds_of_requireCheckpoint (hdef : m.requireDefinition = .ok d)
    (hf : requireCheckpoint d id = .ok c) : m.Finds id c :=
  ⟨d, okOr_ok.mp hdef, okOr_ok.mp hf⟩

lemma checkBeginCheckpointTransition_ok (h : m.checkBeginCheckpointTransition id = .ok c) :
    m.stage = .running ∧ m.Finds id c ∧ c.status = .ready := by
  simp only [checkBeginCheckpointTransition, bind_ok, passed, requireStage_ok, mem_singleton]
    at h
  obtain ⟨-, hs, -, -, d, hdef, c, hf, -, hst, -, -, hres⟩ := h
  cases hres
  exact ⟨hs, finds_of_requireCheckpoint hdef hf, hst⟩

lemma checkBeginCheckpointVerification_ok (h : m.checkBeginCheckpointVerification id = .ok c) :
    m.stage = .running ∧ m.Finds id c ∧ c.status = .running := by
  simp only [checkBeginCheckpointVerification, bind_ok, passed, requireStage_ok, mem_singleton] at h
  obtain ⟨-, hs, -, -, -, -, d, hdef, c, hf, -, hst, hres⟩ := h
  cases hres
  exact ⟨hs, finds_of_requireCheckpoint hdef hf, hst⟩

lemma checkBlockCheckpoint_ok (h : m.checkBlockCheckpoint id reason stage = .ok (c, status)) :
    m.Finds id c ∧ (c.status = .running ∨ c.status = .verifying) ∧
      checkpointStatusForMissionStage stage = .ok status := by
  simp only [checkBlockCheckpoint, bind_ok, passed, Bool.or_eq_true, beq_iff_eq] at h
  obtain ⟨-, -, -, -, -, -, d, hdef, c, hf, status, hw, -, hs, hres⟩ := h
  cases hres
  exact ⟨finds_of_requireCheckpoint hdef hf, hs, hw⟩

lemma checkCompleteCheckpointValidated_ok {route : Option MissionCheckpointRoute}
    (h : m.checkCompleteCheckpointValidated enc id cpl = .ok (route, c)) :
    m.Finds id c ∧ c.status = .verifying := by
  simp only [checkCompleteCheckpointValidated, bind_ok, passed] at h
  obtain ⟨-, -, route, -, -, -, d, hdef, c, hf, -, ⟨hs, -⟩, hres⟩ := h
  cases hres
  exact ⟨finds_of_requireCheckpoint hdef hf, hs⟩

lemma checkRecordOutcome_ok {oc : Outcome} (h : m.checkRecordOutcome oc = .ok ()) :
    m.stage.isTerminal = false ∧ m.ensureTouchable = .ok () ∧
      ∀ d, m.definition = some d → ∀ c ∈ d.checkpoints, c.status.isTerminal = true := by
  simp only [checkRecordOutcome, check_ok, passed, requireStage_ok] at h
  obtain ⟨hs, ⟨-, hch⟩, ht⟩ := h
  refine ⟨?_, ht, fun d hdef c hc => ?_⟩
  · simp only [mem_cons, not_mem_nil, or_false] at hs
    rcases hs with h | h | h <;> rw [h] <;> rfl
  · rw [hdef] at hch
    simp only [Option.any_some, Bool.not_eq_false', all_eq_true] at hch
    exact hch c hc

lemma writeCheckpoint_writeCheckpoint (hid : c'.id = c.id) :
    writeCheckpoint c' (writeCheckpoint c m) = writeCheckpoint c' m := by
  cases hdef : m.definition with
  | none => simp [writeCheckpoint, hdef]
  | some d =>
    simp only [writeCheckpoint, hdef, Option.map_some, hid]
    have hl := replaceFirst_replaceFirst (p := fun known : MissionCheckpoint => known.id == c.id)
      (b := c') (l := d.checkpoints) (beq_self_eq_true c.id)
    rw [hl]

lemma nextRevision_ok {revision : ℕ} :
    nextRevision c = .ok revision ↔ checkedAdd 64 c.revision 1 = some revision :=
  okOr_ok

lemma definition_writeCheckpoint (c : MissionCheckpoint)
    (hdef : m.definition = some d) : (writeCheckpoint c m).definition = some (d.write c) := by
  rw [writeCheckpoint, hdef]
  rfl

/-! ## The progress of a Mission -/

/-- The part of a Catalog Mission that says how far it is. -/
structure Progress where
  definition : MissionDefinition
  stage : MissionStage
  block : Option MissionBlock
  revision : ℕ

def progress (self : Mission) : Option Progress :=
  self.definition.map fun definition => ⟨definition, self.stage, self.block, self.revision⟩

lemma progress_of_definition (hdef : m.definition = some d) :
    m.progress = some ⟨d, m.stage, m.block, m.revision⟩ := by
  rw [progress, hdef]
  rfl

/-- The checkpoint is completed, and the next one becomes ready. -/
def Completes (enc : MissionEncoding) (m : Mission) (definition : MissionDefinition)
    (id : String) (completion : MissionCheckpointCompletion) (definition' : MissionDefinition)
    (stage : MissionStage) : Prop :=
  ∃ route c revision, m.checkCompleteCheckpointValidated enc id completion = .ok (route, c) ∧
    checkedAdd 64 c.revision 1 = some revision ∧
    (definition.write { c with
      status := .completed
      completion := some completion
      block := none
      revision }).Advances definition' stage

/-- The commands that record what is not part of the progress. -/
def isRecording : MissionCommand → Bool
  | .recordEvidence .. | .recordWorkProduct .. | .reviseWorkProduct .. => true
  | _ => false

/-- The command takes over what the durable ledger has, and its checks accept it with the given
effect to write, or with none for a replay. -/
def Recovers (enc : MissionEncoding) (m : Mission) (found : Option Effect) :
    MissionCommand → Prop
  | .reconcileDurableReceipt effectId receipt startedAt =>
    m.checkReconcileDurableReceipt enc effectId receipt startedAt = .ok found
  | .reconcileDurableProviderState effectId durableState startedAt recordedAt =>
    m.checkReconcileDurableProviderState enc effectId durableState startedAt recordedAt =
      .ok found
  | _ => False

def decidedEffect : MissionCommand → Option EffectId
  | .approveEffect effectId _ | .cancelEffect effectId _ => some effectId
  | _ => none

/-- Another effect than the one with the given id waits for its approval. -/
def othersProposed (self : Mission) (effectId : EffectId) : Bool :=
  (self.effects.eraseP (·.id == effectId)).any (·.status == .proposed)

def verificationFails (self : Mission) (effectId : EffectId) (verification : Verification) : Bool :=
  (self.effects.eraseP (·.id == effectId)).any (·.status == .failed) ||
    verification.status == .rejected

/-- The commands that complete the last checkpoint of a manifest, with its id. -/
def typedTerminal : MissionCommand → Option (String × MissionCheckpointCompletion)
  | .completeVm04ChannelRebalanceTerminal completion => some ("channel_rebalance", completion)
  | .completeVm07ReplanOrTerminalTerminal completion => some ("replan_or_terminal", completion)
  | .completeVm11CandidateLearningTerminal completion => some ("candidate_learning", completion)
  | _ => none

section

variable (enc : MissionEncoding) (m : Mission) (definition : MissionDefinition)

inductive Follows : MissionCommand → MissionCheckpointStatus → Option MissionBlock →
    MissionStage → Option MissionBlock → Prop
  | proposed {spec : EffectSpec} {now : DateTime} :
    Follows (.proposeEffect spec now) .waitingApproval (some (approvalBlock spec.id now))
      .waitingApproval (some (approvalBlock spec.id now))
  | decided {command : MissionCommand} {effectId : EffectId}
    (hcommand : decidedEffect command = some effectId)
    (hlast : m.othersProposed effectId = false) : Follows command .running none .running none
  | received {effectId : EffectId} {receipt : Receipt} :
    Follows (.recordReceipt effectId receipt) .verifying none .verifying m.block
  | uncertain {effectId : EffectId} {now : DateTime} :
    Follows (.markEffectUncertain effectId now) .verifying none .verifying m.block
  | failed {effectId : EffectId} {now : DateTime} :
    Follows (.markEffectFailed effectId now) .blocked (some (effectFailedBlock effectId now))
      .blocked (some (effectFailedBlock effectId now))
  | verified {effectId : EffectId} {verification : Verification}
    (hfails : m.verificationFails effectId verification = false) :
    Follows (.recordVerification effectId verification) .verifying none .verifying m.block
  | rejected {effectId : EffectId} {verification : Verification}
    (hfails : m.verificationFails effectId verification = true) :
    Follows (.recordVerification effectId verification) .blocked
      (some (verificationRejectedBlock verification.observedAt)) .blocked
      (some (verificationRejectedBlock verification.observedAt))
  | continued {effectId : EffectId} {now : DateTime} (hstage : m.stage = .verifying) :
    Follows (.continueAfterVerifiedEffect effectId now) .running none .running m.block
  | waits {reason : MissionBlock} {waitingStage : MissionStage} {status : MissionCheckpointStatus}
    (hstatus : checkpointStatusForMissionStage waitingStage = .ok status) :
    Follows (.block reason waitingStage) status (some reason) waitingStage (some reason)
  | resumed {now : DateTime} : Follows (.resume now) .running none .running none

/-- A command sets the stage and the block of the Mission and leaves the checkpoints alone. -/
inductive Detaches : MissionCommand → MissionStage → Option MissionBlock → Prop
  | decided {command : MissionCommand} {effectId : EffectId}
    (hcommand : decidedEffect command = some effectId)
    (hothers : m.othersProposed effectId = true) :
    Detaches command .waitingApproval m.block
  | begun {effectId : EffectId} {now : DateTime} :
    Detaches (.beginEffect effectId now) .running m.block
  | received {effectId : EffectId} {receipt : Receipt} {startedAt : DateTime} {e' : Effect}
    (hrecovers : m.Recovers enc (some e')
      (.reconcileDurableReceipt effectId receipt startedAt)) :
    Detaches (.reconcileDurableReceipt effectId receipt startedAt) .verifying m.block
  | uncertain {effectId : EffectId} {durableState : DurableProviderState}
    {startedAt recordedAt : DateTime} {e' : Effect}
    (hblock : durableState.block effectId recordedAt = none) (hrecovers : m.Recovers enc (some e')
      (.reconcileDurableProviderState effectId durableState startedAt recordedAt)) :
    Detaches
      (.reconcileDurableProviderState effectId durableState startedAt recordedAt) .verifying
      m.block
  | settled {effectId : EffectId} {durableState : DurableProviderState}
    {startedAt recordedAt : DateTime} {reason : MissionBlock} {e' : Effect}
    (hblock : durableState.block effectId recordedAt = some reason)
    (hrecovers : m.Recovers enc (some e')
      (.reconcileDurableProviderState effectId durableState startedAt recordedAt)) :
    Detaches
      (.reconcileDurableProviderState effectId durableState startedAt recordedAt) .blocked
      (some reason)

/-- What a successful command does to the progress of a Mission. -/
inductive ProgressStep : MissionCommand → Progress → Prop
  | recorded {command : MissionCommand} (hcommand : isRecording command = true)
    (hopen : m.stage.isTerminal = false) :
    ProgressStep command ⟨definition, m.stage, m.block, m.revision + 1⟩
  | replayed {command : MissionCommand} (hrecovers : m.Recovers enc none command) :
    ProgressStep command ⟨definition, m.stage, m.block, m.revision⟩
  | researchStarted {tasks : List Task} {now : DateTime} {definition' : MissionDefinition}
    (hstage : m.stage = .ready) (htouch : m.ensureTouchable = .ok ())
    (hstart : definition.startFirstCheckpoint now = .ok definition') :
    ProgressStep (.startResearch tasks now)
      ⟨definition', .running, none, m.revision + 1⟩
  | cycleStarted {cycle : ℕ} {tasks : List Task} {now : DateTime} {definition' : MissionDefinition}
    (hstage : m.stage = .scheduled) (htouch : m.ensureTouchable = .ok ())
    (hnext : definition.requireNextCycle cycle = .ok ()) (hrenew : definition.CanRenew enc cycle)
    (hstart : (definition.renew cycle).startFirstCheckpoint now = .ok definition') :
    ProgressStep (.startScheduledCycle cycle tasks now)
      ⟨definition', .running, none, m.revision + 1⟩
  | checkpointBegun {command : MissionCommand} {id : String} {now : DateTime}
    {c : MissionCheckpoint} {attempt revision : ℕ} (hcommand : command = .beginCheckpoint id now ∨
      ∃ task, command = .beginCheckpointWithTask id task now)
    (hcheck : m.checkBeginCheckpointTransition id = .ok c)
    (hattempt : checkedAdd 32 c.attempt 1 = some attempt)
    (hrevision : checkedAdd 64 c.revision 1 = some revision) :
    ProgressStep command
      ⟨definition.write { c with
          status := .running
          attempt
          startedAt := some now
          block := none
          revision }, .running, m.block, m.revision + 1⟩
  | verificationBegun {id : String} {now : DateTime} {c : MissionCheckpoint} {revision : ℕ}
    (hcheck : m.checkBeginCheckpointVerification id = .ok c)
    (hrevision : checkedAdd 64 c.revision 1 = some revision) :
    ProgressStep (.beginCheckpointVerification id now)
      ⟨definition.write { c with status := .verifying, revision }, .verifying, m.block,
        m.revision + 1⟩
  | checkpointBlocked {id : String} {reason : MissionBlock} {waitingStage : MissionStage}
    {c : MissionCheckpoint} {status : MissionCheckpointStatus} {revision : ℕ}
    (hcheck : m.checkBlockCheckpoint id reason waitingStage = .ok (c, status))
    (hrevision : checkedAdd 64 c.revision 1 = some revision) :
    ProgressStep (.blockCheckpoint id reason waitingStage)
      ⟨definition.write { c with status, block := some reason, revision }, waitingStage,
        some reason, m.revision + 1⟩
  | checkpointCompleted {command : MissionCommand} {id : String}
    {completion : MissionCheckpointCompletion} {definition' : MissionDefinition}
    {stage : MissionStage} (hcommand : command = .completeCheckpoint id completion ∨
      id = "next_contract_or_valid_terminal" ∧
        ∃ resolution, resolution.nextContractIntent ≠ .validTerminal ∧
          command = .completeVm11NextContractResolution resolution completion)
    (hcompletes : m.Completes enc definition id completion definition' stage) :
    ProgressStep command ⟨definition', stage, m.block, m.revision + 1⟩
  | terminalCompleted {command : MissionCommand} {id : String}
    {completion : MissionCheckpointCompletion} {definition' : MissionDefinition}
    {stage : MissionStage} (hcommand : typedTerminal command = some (id, completion))
    (hcompletes : m.Completes enc definition id completion definition' stage) :
    ProgressStep command ⟨definition', .completed, none, m.revision + 2⟩
  | contractStopped {resolution : OutcomeReviewNextContractResolution}
    {completion : MissionCheckpointCompletion} {definition' : MissionDefinition}
    {stage : MissionStage} {c : MissionCheckpoint} {revision : ℕ}
    (hintent : resolution.nextContractIntent = .validTerminal)
    (hcompletes : m.Completes enc definition "next_contract_or_valid_terminal" completion
      definition' stage)
    (hfound : definition'.findCheckpoint c.id = some c) (hstatus : c.status = .ready)
    (hempty : c.completion = none ∧ c.block = none)
    (hrevision : checkedAdd 64 c.revision 1 = some revision) :
    ProgressStep (.completeVm11NextContractResolution resolution completion)
      ⟨definition'.write { c with status := .skipped, revision }, .completed, none,
        m.revision + 2⟩
  | followed {command : MissionCommand} {status : MissionCheckpointStatus}
    {checkpointBlock block : Option MissionBlock} {stage : MissionStage}
    {definition' : MissionDefinition}
    (hfollows : m.Follows command status checkpointBlock stage block)
    (hmoves : definition.MovesActive status checkpointBlock definition') :
    ProgressStep command ⟨definition', stage, block, m.revision + 1⟩
  | detached {command : MissionCommand} {stage : MissionStage} {block : Option MissionBlock}
    (hdetaches : m.Detaches enc command stage block) :
    ProgressStep command ⟨definition, stage, block, m.revision + 1⟩
  | outcomeRecorded {outcome : Outcome} (hcheck : m.checkRecordOutcome outcome = .ok ()) :
    ProgressStep (.recordOutcome outcome)
      ⟨definition, nextStageAfterOutcome m.contract outcome.decision outcome.observedAt, none,
        m.revision + 1⟩
  | terminated {disposition : MissionTerminalDisposition} {now : DateTime}
    (hcheck : m.checkTerminate disposition = .ok ()) :
    ProgressStep (.terminate disposition now)
      ⟨definition, disposition.stage, none, m.revision + 1⟩

end

/-! ## Commands that move a checkpoint -/

lemma beginCheckpointTransition_ok {now : DateTime} (hdef : m.definition = some d)
    (h : (beginCheckpointTransition id now).exec m = (.ok (), m')) :
    ∃ c attempt revision, m.checkBeginCheckpointTransition id = .ok c ∧
      checkedAdd 32 c.attempt 1 = some attempt ∧ checkedAdd 64 c.revision 1 = some revision ∧
      m'.progress = some ⟨d.write { c with
        status := .running
        attempt
        startedAt := some now
        block := none
        revision }, m.stage, m.block, m.revision + 1⟩ := by
  obtain ⟨c, hc, h⟩ := exec_check_ok.mp h
  rw [exec_modify_bind] at h
  obtain ⟨attempt, hatt, h⟩ := exec_check_ok.mp h
  rw [exec_modify_bind] at h
  obtain ⟨revision, hrev, h⟩ := exec_check_ok.mp h
  rw [exec_modify] at h
  cases h
  refine ⟨c, attempt, revision, hc, okOr_ok.mp hatt, okOr_ok.mp hrev, ?_⟩
  rw [writeCheckpoint_writeCheckpoint, writeCheckpoint_writeCheckpoint]
  · exact progress_of_definition (m := touch now _) (definition_writeCheckpoint _ hdef)
  · rfl
  · rfl

lemma setCatalogCheckpointStatus_ok {block : Option MissionBlock}
    (h : (setCatalogCheckpointStatus status block).exec m = (.ok (), m'))
    (hdef : m.definition = some d) :
    ∃ d', d.MovesActive status block d' ∧ m' = { m with definition := some d' } := by
  rw [setCatalogCheckpointStatus, onDefinition, exec_focusSome_ok] at h
  rcases h with ⟨hn, -⟩ | ⟨t, d', hs, hm, rfl⟩
  · rw [hdef] at hn
    cases hn
  · obtain rfl := Option.mem_unique hdef hs
    obtain ⟨c, hact, hm⟩ := exec_check_ok.mp hm
    cases hrev : checkedAdd 64 c.revision 1 with
    | none =>
      rw [hrev] at hm
      cases hm
    | some revision =>
      rw [hrev] at hm
      cases hm
      exact ⟨_, ⟨c, revision, okOr_ok.mp hact, hrev, rfl⟩, rfl⟩

lemma advance_ok {va : DateTime}
    (hdef : m.definition = some d) (h : (advance va).exec m = (.ok (), m')) :
    ∃ d' stage, d.Advances d' stage ∧ m'.progress = some ⟨d', stage, m.block, m.revision + 1⟩ := by
  obtain ⟨d₂, hr, h⟩ := exec_check_ok.mp h
  obtain rfl := Option.mem_unique hdef (okOr_ok.mp hr)
  dsimp only at h
  split at h
  · next hl =>
    cases h
    exact ⟨d, .verifying, .last hl, progress_of_definition hdef⟩
  · next next hn =>
    split at h
    · cases h
    · next rev hrev =>
      cases h
      refine ⟨_, .running, .next hn hrev, progress_of_definition ?_⟩
      simp only [touch, writeNext, hdef, Option.map_some]

lemma completeCheckpointValidated_ok (hdef : m.definition = some d)
    (h : (completeCheckpointValidated enc id cpl).exec m = (.ok (), m')) :
    ∃ d' stage, m.Completes enc d id cpl d' stage ∧
      m'.progress = some ⟨d', stage, m.block, m.revision + 1⟩ := by
  obtain ⟨⟨route, c⟩, hc, h⟩ := exec_check_ok.mp h
  rw [exec_modify_bind] at h
  obtain ⟨rev, hrev, h⟩ := exec_check_ok.mp h
  rw [exec_modify_bind, writeCheckpoint_writeCheckpoint] at h
  · have hw : ∀ c', (completeRouteTasks route (writeCheckpoint c' m)).definition =
        some (d.write c') := fun c' => definition_writeCheckpoint c' hdef
    obtain ⟨d', stage, ha, hp⟩ := advance_ok (hw _) h
    exact ⟨d', stage, ⟨route, c, rev, hc, okOr_ok.mp hrev, ha⟩, hp⟩
  · rfl

lemma terminate_ok {now : DateTime} {disposition : MissionTerminalDisposition}
    (hdef : m.definition = some d) (h : (terminate disposition now).exec m = (.ok (), m')) :
    m.checkTerminate disposition = .ok () ∧
      m'.progress = some ⟨d, disposition.stage, none, m.revision + 1⟩ := by
  obtain ⟨⟨⟩, hc, h⟩ := exec_check_ok.mp h
  cases h
  exact ⟨hc, progress_of_definition hdef⟩

lemma progress_eq_some {p : Mission.Progress} : m.progress = some p ↔
      m.definition = some p.definition ∧ m.stage = p.stage ∧ m.block = p.block ∧
        m.revision = p.revision := by
  rw [progress, Option.map_eq_some_iff]
  constructor
  · rintro ⟨d, hdef, rfl⟩
    exact ⟨hdef, rfl, rfl, rfl⟩
  · rintro ⟨hdef, hs, hb, hrev⟩
    exact ⟨p.definition, hdef, by rw [hs, hb, hrev]⟩

lemma completeTerminal_ok {isTyped : Mission → Bool} {required : MissionError}
    (hdef : m.definition = some d)
    (h : (completeTerminal enc id isTyped required cpl).exec m = (.ok (), m')) :
    ∃ d' stage, m.Completes enc d id cpl d' stage ∧
      m'.progress = some ⟨d', .completed, none, m.revision + 2⟩ := by
  obtain ⟨⟨⟩, resolved, hc, h⟩ := exec_bind_ok.mp (exec_onCopy_ok.mp h)
  obtain ⟨-, -, h⟩ := exec_check_ok.mp h
  obtain ⟨d', stage, hcpl, hp⟩ := completeCheckpointValidated_ok hdef hc
  obtain ⟨hr, -, -, hrev⟩ := progress_eq_some.mp hp
  obtain ⟨-, hend⟩ := terminate_ok hr h
  rw [hrev] at hend
  exact ⟨d', stage, hcpl, hend⟩

lemma completeVm11NextContractResolution_ok {resolution : OutcomeReviewNextContractResolution}
    (hdef : m.definition = some d)
    (h : (completeVm11NextContractResolution enc resolution cpl).exec m = (.ok (), m')) :
    ∃ p, ProgressStep enc m d
      (.completeVm11NextContractResolution resolution cpl) p ∧ m'.progress = some p := by
  obtain ⟨-, -, h⟩ := exec_check_ok.mp h
  obtain ⟨⟨⟩, resolved, hco, h⟩ := exec_bind_ok.mp (exec_onCopy_ok.mp h)
  obtain ⟨d', stage, hcpl, hp⟩ := completeCheckpointValidated_ok hdef hco
  obtain ⟨hr, -, -, hrev⟩ := progress_eq_some.mp hp
  split at h
  · next hi =>
    obtain ⟨-, -, h⟩ := exec_check_ok.mp h
    obtain ⟨⟨⟩, skipped, hs, h⟩ := exec_bind_ok.mp h
    obtain ⟨c, hc, hs⟩ := exec_check_ok.mp hs
    rw [exec_modify_bind] at hs
    obtain ⟨revision, hn, hs⟩ := exec_check_ok.mp hs
    rw [exec_modify, writeCheckpoint_writeCheckpoint] at hs
    · cases hs
      obtain ⟨-, hend⟩ := terminate_ok (definition_writeCheckpoint _ hr) h
      simp only [checkSkipVm11CandidateLearning, bind_ok, passed, Option.isSome_eq_false_iff,
        Option.isNone_iff_eq_none] at hc
      obtain ⟨d₂, hre, c, hfo, -, ⟨⟨hst, hcom⟩, hb⟩, hres⟩ := hc
      cases hres
      have hf := finds_of_requireCheckpoint hre hfo
      have hrev' : (writeCheckpoint { c with status := .skipped, revision } resolved).revision =
          m.revision + 1 := hrev
      rw [hrev'] at hend
      exact ⟨_, .contractStopped (beq_iff_eq.mp hi) hcpl (hf.findCheckpoint_eq hr) hst
        ⟨hcom, hb⟩ (okOr_ok.mp hn), hend⟩
    · rfl
  · next hi =>
    rw [exec_check, Prod.mk.injEq] at h
    obtain ⟨-, rfl⟩ := h
    have ho : resolution.nextContractIntent ≠ .validTerminal := by simpa using hi
    exact ⟨_, .checkpointCompleted (Or.inr ⟨rfl, resolution, ho, rfl⟩) hcpl, hp⟩

/-! ## Commands that move the active checkpoint -/

/-- The active checkpoint follows a change of the stage. -/
lemma enter_ok {write : Mission → Mission}
    {block : Option MissionBlock} (hdef : m.definition = some d) (h : (do
        modify fun self => { self with stage }
        setCatalogCheckpointStatus status block
        modify write : Command Mission MissionError Unit).exec m = (.ok (), m')) :
    ∃ d', d.MovesActive status block d' ∧ m' = write { m with stage, definition := some d' } := by
  rw [exec_modify_bind] at h
  obtain ⟨⟨⟩, moved, hmo, h⟩ := exec_bind_ok.mp h
  obtain ⟨d', hm, rfl⟩ := setCatalogCheckpointStatus_ok hmo hdef
  cases h
  exact ⟨d', hm, rfl⟩

lemma any_status_writeEffect (hm : m.Moves enc cmd eid e') (st : EffectStatus) :
    (writeEffect e' m).effects.any (·.status == st) =
      ((m.effects.eraseP (·.id == eid)).any (·.status == st) || e'.status == st) := by
  have hid := hm.id_eq
  obtain ⟨e, hf, -⟩ := hm
  obtain ⟨before, after, hs, hb, hw⟩ := exists_split_of_find? hf
  have hse := find?_some hf
  have he : m.effects.eraseP (·.id == eid) = before ++ after := by
    rw [hs, eraseP_append_right _ fun x hx => by simpa using hb x hx,
      eraseP_cons_of_pos (p := fun x : Effect => x.id == eid) hse]
  have hef : (writeEffect e' m).effects = before ++ e' :: after := by
    rw [writeEffect, hid, hw e']
  rw [hef, he, any_append, any_append, any_cons, Bool.or_assoc]
  exact congrArg _ (Bool.or_comm _ _)

lemma any_proposed_writeEffect (hm : m.Moves enc cmd eid e') (hd : e'.status ≠ .proposed) :
    (writeEffect e' m).effects.any (·.status == .proposed) = m.othersProposed eid := by
  rw [any_status_writeEffect hm, beq_eq_false_iff_ne.mpr hd, Bool.or_false]
  rfl

lemma any_failed_writeEffect {verification : Verification}
    (hc : m.checkRecordVerification eid verification = .ok e') :
    (writeEffect e' m).effects.any (·.status == .failed) =
      m.verificationFails eid verification := by
  have hm := moves_of_checkRecordVerification .sample hc
  have hs : (e'.status == .failed) = (verification.status == .rejected) := by
    obtain ⟨e, -, hmo⟩ := hm
    cases hmo
    cases verification.status <;> rfl
  rw [any_status_writeEffect hm, hs]
  rfl

lemma afterDecision_ok {now : DateTime} (hdef : m.definition = some d)
    (h : (afterDecision now).exec m = (.ok (), m')) :
    if m.effects.any (·.status == .proposed) then
      m'.progress = some ⟨d, .waitingApproval, m.block, m.revision + 1⟩
    else ∃ d', d.MovesActive .running none d' ∧
      m'.progress = some ⟨d', .running, none, m.revision + 1⟩ := by
  rw [afterDecision, exec_modify_bind] at h
  obtain ⟨⟨⟩, moved, hm, h⟩ := exec_bind_ok.mp h
  cases h
  rw [exec_branch] at hm
  by_cases hp : m.effects.any (·.status == .proposed) = true
  · rw [if_pos hp]
    have hs : m.decidedStage = .waitingApproval := by rw [decidedStage, if_pos hp]
    rw [if_neg (by simp [hs])] at hm
    cases hm
    rw [hs]
    exact progress_of_definition hdef
  · rw [if_neg hp]
    have hs : m.decidedStage = .running := by rw [decidedStage, if_neg hp]
    rw [if_pos (by simp [hs, hdef])] at hm
    obtain ⟨⟨⟩, followed, hf, hm⟩ := exec_bind_ok.mp hm
    obtain ⟨d', hmo, rfl⟩ := setCatalogCheckpointStatus_ok hf hdef
    cases hm
    exact ⟨d', hmo, by rw [← hs]; rfl⟩

lemma progressStep_decision {now : DateTime} (hcmd : decidedEffect cmd = some eid)
    (hm : m.Moves enc cmd eid e') (hd : e'.status ≠ .proposed) (hdef : m.definition = some d)
    (h : (afterDecision now).exec (writeEffect e' m) = (.ok (), m')) :
    ∃ p, ProgressStep enc m d cmd p ∧ m'.progress = some p := by
  have ha := afterDecision_ok (m := writeEffect e' m) hdef h
  rw [any_proposed_writeEffect hm hd] at ha
  cases ho : m.othersProposed eid with
  | true =>
    rw [ho, if_pos rfl] at ha
    exact ⟨_, .detached (.decided hcmd ho), ha⟩
  | false =>
    rw [ho, if_neg Bool.false_ne_true] at ha
    obtain ⟨d', hact, ha⟩ := ha
    exact ⟨_, .followed (.decided hcmd ho) hact, ha⟩

/-! ## What a command can do to the progress -/

/-- Each successful run of the command makes one of the steps. -/
def Progresses (enc : MissionEncoding) (m : Mission) (definition : MissionDefinition)
    (command : MissionCommand) : Prop :=
  ∀ m', m.step enc command = (.ok (), m') →
    ∃ p, ProgressStep enc m definition command p ∧ m'.progress = some p

section

variable {now ra sa : DateTime} (hdef : m.definition = some d)

include hdef

lemma progresses_startScheduledCycle {cycle : ℕ} {tasks : List Task} :
    Progresses enc m d (.startScheduledCycle cycle tasks now) := by
  intro m' hok
  obtain ⟨⟨⟩, hc, h⟩ := exec_check_ok.mp hok
  obtain ⟨⟨⟩, begun, hb, h⟩ := exec_bind_ok.mp h
  cases h
  simp only [checkStartScheduledCycle, bind_ok, requireStage_ok, mem_singleton] at hc
  obtain ⟨-, hs, -, -, -, -, -, -, -, -, ht⟩ := hc
  rw [onDefinition, exec_focusSome_ok] at hb
  rcases hb with ⟨hn, -⟩ | ⟨t, d', hso, hb, rfl⟩
  · rw [hdef] at hn
    cases hn
  · obtain rfl := Option.mem_unique hdef hso
    obtain ⟨hne, hr, hst⟩ := MissionDefinition.beginNextCycle_ok.mp hb
    exact ⟨_, .cycleStarted hs ht hne hr hst, rfl⟩

lemma progresses_proposeEffect {spec : EffectSpec} :
    Progresses enc m d (.proposeEffect spec now) := by
  intro m' hok
  obtain ⟨_, proposed, hpr, h⟩ := exec_bind_ok.mp hok
  cases h
  obtain ⟨⟨⟩, -, hpr⟩ := exec_check_ok.mp hpr
  rw [exec_modify_bind] at hpr
  obtain ⟨⟨⟩, followed, hf, hpr⟩ := exec_bind_ok.mp hpr
  cases hpr
  have hca : (pushEffect spec m).definition = some d := hdef
  rw [exec_branch, if_pos (by rw [hca]; rfl)] at hf
  obtain ⟨⟨⟩, moved, hm, hf⟩ := exec_bind_ok.mp hf
  obtain ⟨d', hact, rfl⟩ := setCatalogCheckpointStatus_ok hm hca
  cases hf
  exact ⟨_, .followed .proposed hact, rfl⟩

lemma progresses_beginEffect : Progresses enc m d (.beginEffect eid now) := by
  intro m' hok
  obtain ⟨⟨e, apr⟩, -, h⟩ := exec_check_ok.mp hok
  dsimp only at h
  split at h
  · cases h
  · split at h
    · cases h
    · cases h
      exact ⟨_, .detached .begun, progress_of_definition hdef⟩

lemma progresses_reconcileDurableReceipt {rc : Receipt} :
    Progresses enc m d (.reconcileDurableReceipt eid rc sa) := by
  intro m' hok
  obtain ⟨found, hc, h⟩ := exec_check_ok.mp hok
  cases found with
  | none =>
    cases h
    exact ⟨_, .replayed hc, progress_of_definition hdef⟩
  | some e' =>
    cases h
    exact ⟨_, .detached (.received hc), progress_of_definition hdef⟩

lemma progresses_reconcileDurableProviderState {durableState : DurableProviderState} :
    Progresses enc m d (.reconcileDurableProviderState eid durableState sa ra) := by
  intro m' hok
  obtain ⟨found, hc, h⟩ := exec_check_ok.mp hok
  cases found with
  | none =>
    cases h
    exact ⟨_, .replayed hc, progress_of_definition hdef⟩
  | some e' =>
    cases h
    cases hbl : durableState.block eid ra with
    | none => exact ⟨_, .detached (.uncertain hbl hc), progress_of_definition hdef⟩
    | some reason =>
      exact ⟨_, .detached (.settled hbl hc), progress_of_definition hdef⟩

lemma progresses_recordVerification {verification : Verification} :
    Progresses enc m d (.recordVerification eid verification) := by
  intro m' hok
  obtain ⟨e', hc, h⟩ := exec_check_ok.mp hok
  rw [exec_modify_bind, exec_branch, any_failed_writeEffect hc] at h
  split at h
  · next hfa =>
    obtain ⟨d', hact, rfl⟩ := enter_ok (m := writeEffect e' m) hdef h
    exact ⟨_, .followed (.rejected hfa) hact, rfl⟩
  · next hfa =>
    obtain ⟨d', hact, rfl⟩ := enter_ok (m := writeEffect e' m) hdef h
    exact ⟨_, .followed (.verified (Bool.eq_false_iff.mpr hfa)) hact, rfl⟩

end

/-- What one successful command does to the progress of a Mission. -/
lemma progress_step (hdef : m.definition = some d) (hok : m.step enc cmd = (.ok (), m')) :
    ∃ p, ProgressStep enc m d cmd p ∧ m'.progress = some p := by
  cases cmd with
  | startResearch =>
    obtain ⟨found, hc, h⟩ := exec_check_ok.mp hok
    cases h
    simp only [checkStartResearch, check_ok, requireStage_ok, mem_singleton, hdef, map_ok] at hc
    obtain ⟨hs, -, ht, d', hst, rfl⟩ := hc
    exact ⟨_, .researchStarted hs ht hst, rfl⟩
  | startScheduledCycle => exact progresses_startScheduledCycle hdef _ hok
  | recordEvidence | recordWorkProduct | reviseWorkProduct =>
    obtain ⟨⟨⟩, hc, h⟩ := exec_check_ok.mp hok
    cases h
    obtain ⟨hs, -⟩ := check_ok.mp hc
    have ho := Bool.eq_false_iff.mpr (isTerminal_ne_true_of_requireStage hs rfl)
    exact ⟨_, .recorded rfl ho, progress_of_definition hdef⟩
  | beginCheckpoint =>
    obtain ⟨⟨⟩, -, h⟩ := exec_check_ok.mp hok
    obtain ⟨c, attempt, revision, hc, hatt, hrev, hp⟩ := beginCheckpointTransition_ok hdef h
    rw [(checkBeginCheckpointTransition_ok hc).1] at hp
    exact ⟨_, .checkpointBegun (Or.inl rfl) hc hatt hrev, hp⟩
  | beginCheckpointWithTask id task =>
    obtain ⟨⟨⟩, -, h⟩ := exec_check_ok.mp hok
    obtain ⟨⟨⟩, begun, hb, h⟩ := exec_bind_ok.mp h
    obtain ⟨c, attempt, revision, hc, hatt, hrev, hp⟩ := beginCheckpointTransition_ok hdef hb
    rw [(checkBeginCheckpointTransition_ok hc).1] at hp
    cases h
    exact ⟨_, .checkpointBegun (Or.inr ⟨task, rfl⟩) hc hatt hrev, hp⟩
  | beginCheckpointVerification =>
    obtain ⟨c, hc, h⟩ := exec_check_ok.mp hok
    rw [exec_modify_bind] at h
    obtain ⟨revision, hrev, h⟩ := exec_check_ok.mp h
    rw [exec_modify, writeCheckpoint_writeCheckpoint] at h
    · cases h
      exact ⟨_, .verificationBegun hc (okOr_ok.mp hrev),
        progress_of_definition (definition_writeCheckpoint _ hdef)⟩
    · rfl
  | completeCheckpoint =>
    obtain ⟨⟨⟩, -, h⟩ := exec_check_ok.mp hok
    obtain ⟨d', stage, hcpl, hp⟩ := completeCheckpointValidated_ok hdef h
    exact ⟨_, .checkpointCompleted (Or.inl rfl) hcpl, hp⟩
  | completeVm04ChannelRebalanceTerminal | completeVm07ReplanOrTerminalTerminal
  | completeVm11CandidateLearningTerminal =>
    obtain ⟨d', stage, hcpl, hp⟩ := completeTerminal_ok hdef hok
    exact ⟨_, .terminalCompleted rfl hcpl, hp⟩
  | completeVm11NextContractResolution =>
    exact completeVm11NextContractResolution_ok hdef hok
  | blockCheckpoint =>
    obtain ⟨⟨c, status⟩, hc, h⟩ := exec_check_ok.mp hok
    rw [exec_modify_bind] at h
    obtain ⟨revision, hrev, h⟩ := exec_check_ok.mp h
    rw [exec_modify, writeCheckpoint_writeCheckpoint] at h
    · cases h
      exact ⟨_, .checkpointBlocked hc (okOr_ok.mp hrev),
        progress_of_definition (definition_writeCheckpoint _ hdef)⟩
    · rfl
  | proposeEffect => exact progresses_proposeEffect hdef _ hok
  | approveEffect eid apr =>
    obtain ⟨e', hc, h⟩ := exec_check_ok.mp hok
    have hmo := moves_of_checkApproveEffect hc
    refine progressStep_decision rfl hmo ?_ hdef h
    obtain ⟨e, -, hm⟩ := hmo
    cases hm
    cases apr.decision <;> simp
  | cancelEffect eid now =>
    obtain ⟨e', hc, h⟩ := exec_check_ok.mp hok
    have hmo := moves_of_checkCancelEffect enc now hc
    refine progressStep_decision rfl hmo ?_ hdef h
    obtain ⟨e, -, hm⟩ := hmo
    cases hm
    simp
  | beginEffect => exact progresses_beginEffect hdef _ hok
  | recordReceipt =>
    obtain ⟨e', -, h⟩ := exec_check_ok.mp hok
    obtain ⟨d', hact, rfl⟩ := enter_ok (m := writeEffect e' m) hdef h
    exact ⟨_, .followed .received hact, rfl⟩
  | reconcileDurableReceipt => exact progresses_reconcileDurableReceipt hdef _ hok
  | reconcileDurableProviderState => exact progresses_reconcileDurableProviderState hdef _ hok
  | markEffectUncertain =>
    obtain ⟨e', -, h⟩ := exec_check_ok.mp hok
    obtain ⟨d', hact, rfl⟩ := enter_ok (m := writeEffect e' m) hdef h
    exact ⟨_, .followed .uncertain hact, rfl⟩
  | markEffectFailed =>
    obtain ⟨e', -, h⟩ := exec_check_ok.mp hok
    obtain ⟨d', hact, rfl⟩ := enter_ok (m := writeEffect e' m) hdef h
    exact ⟨_, .followed .failed hact, rfl⟩
  | recordVerification => exact progresses_recordVerification hdef _ hok
  | continueAfterVerifiedEffect =>
    obtain ⟨⟨⟩, hc, h⟩ := exec_check_ok.mp hok
    obtain ⟨hs, -⟩ := check_ok.mp hc
    obtain ⟨d', hact, rfl⟩ := enter_ok hdef h
    have hv := mem_singleton.mp (requireStage_ok.mp hs)
    exact ⟨_, .followed (.continued hv) hact, rfl⟩
  | recordOutcome =>
    obtain ⟨⟨⟩, hc, h⟩ := exec_check_ok.mp hok
    cases h
    exact ⟨_, .outcomeRecorded hc, progress_of_definition hdef⟩
  | block =>
    obtain ⟨status, hc, h⟩ := exec_check_ok.mp hok
    obtain ⟨⟨⟩, moved, hm, h⟩ := exec_bind_ok.mp h
    obtain ⟨d', hact, rfl⟩ := setCatalogCheckpointStatus_ok hm hdef
    cases h
    simp only [checkBlock, check_ok] at hc
    exact ⟨_, .followed (.waits hc.2.2) hact, rfl⟩
  | resume =>
    obtain ⟨⟨⟩, -, h⟩ := exec_check_ok.mp hok
    obtain ⟨⟨⟩, moved, hm, h⟩ := exec_bind_ok.mp h
    obtain ⟨d', hact, rfl⟩ := setCatalogCheckpointStatus_ok hm hdef
    cases h
    exact ⟨_, .followed .resumed hact, rfl⟩
  | terminate =>
    obtain ⟨hc, hp⟩ := terminate_ok hdef hok
    exact ⟨_, .terminated hc, hp⟩

end Mission

end Hartevo
