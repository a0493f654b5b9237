import Hartevo.Mission.LateFailures

/-!
# Commands that fail and leave something behind

A command that returns an error should leave the Mission as it was, apart from a dispatch that comes
too late and lets its effect expire.  `LateFailure` lists when this is not so: the checks of a
command let it through, and what it writes first stays although a later step fails.
`atomicStep_iff` shows that the list is exact.  The run in `propose_leaves_effect` meets it without
any exhausted revision: between two checkpoints none is active, and a proposal then records its
effect and fails.
-/

namespace Hartevo

open Command

namespace Mission

variable {enc : MissionEncoding} {m : Mission} {cmd : MissionCommand}

/-- A command that fails leaves the Mission as it was.  A dispatch that comes too late may let its
effect expire. -/
def AtomicStep (enc : MissionEncoding) (m : Mission) (command : MissionCommand) : Prop :=
  ∀ e, (m.step enc command).1 = .error e →
    (m.step enc command).2 = m ∨
      ∃ effectId now effect, command = .beginEffect effectId now ∧
        (e = .approvalExpired ∨ e = .effectExpired) ∧
        m.effects.find? (·.id == effectId) = some effect ∧
        (m.step enc command).2 = writeEffect { effect with status := .expired } m

/-- The checks of the command let it through, and a step after its first write fails. -/
def LateFailure (enc : MissionEncoding) (m : Mission) : MissionCommand → Prop
  | .startScheduledCycle cycle tasks now =>
    ∃ u, m.checkStartScheduledCycle cycle tasks now = .ok u ∧
      ∃ definition, m.definition = some definition ∧
        definition.requireNextCycle cycle = .ok () ∧ ¬definition.CanRenew enc cycle
  | .beginCheckpoint id _ =>
    ∃ u, m.checkUnrouted id = .ok u ∧ ∃ c, m.checkBeginCheckpointTransition id = .ok c ∧
      (checkedAdd 32 c.attempt 1 = none ∨ checkedAdd 64 c.revision 1 = none)
  | .beginCheckpointWithTask id task _ =>
    ∃ u, m.checkCheckpointTask id task = .ok u ∧ ∃ c, m.checkBeginCheckpointTransition id = .ok c ∧
      (checkedAdd 32 c.attempt 1 = none ∨ checkedAdd 64 c.revision 1 = none)
  | .beginCheckpointVerification id _ =>
    ∃ c, m.checkBeginCheckpointVerification id = .ok c ∧ checkedAdd 64 c.revision 1 = none
  | .blockCheckpoint id reason waitingStage =>
    ∃ found, m.checkBlockCheckpoint id reason waitingStage = .ok found ∧
      checkedAdd 64 found.1.revision 1 = none
  | .completeCheckpoint id completion =>
    ∃ u, m.checkUntyped id = .ok u ∧
      ∃ found, m.checkCompleteCheckpointValidated enc id completion = .ok found ∧
        (checkedAdd 64 found.2.revision 1 = none ∨
          ∃ definition next, m.definition = some definition ∧
            nextAfter definition found.2 = some next ∧ checkedAdd 64 next.revision 1 = none)
  | .proposeEffect spec now => ∃ u, m.checkProposeEffect spec now = .ok u ∧ m.isStuck = true
  | .approveEffect effectId approval =>
    ∃ e', m.checkApproveEffect enc effectId approval = .ok e' ∧
      m.othersProposed effectId = false ∧ m.isStuck = true
  | .cancelEffect effectId _ =>
    ∃ e', m.checkCancelEffect effectId = .ok e' ∧
      m.othersProposed effectId = false ∧ m.isStuck = true
  | .recordReceipt effectId receipt =>
    ∃ e', m.checkRecordReceipt enc effectId receipt = .ok e' ∧ m.isStuck = true
  | .markEffectUncertain effectId _ =>
    ∃ e', m.checkMarkEffectUncertain effectId = .ok e' ∧ m.isStuck = true
  | .markEffectFailed effectId _ =>
    ∃ e', m.checkMarkEffectFailed effectId = .ok e' ∧ m.isStuck = true
  | .recordVerification effectId verification =>
    ∃ e', m.checkRecordVerification effectId verification = .ok e' ∧ m.isStuck = true ∧
      ¬m.VerificationRests effectId verification e'
  | .continueAfterVerifiedEffect effectId _ =>
    ∃ u, m.checkContinueAfterVerifiedEffect effectId = .ok u ∧ m.isStuck = true
  | .block reason waitingStage =>
    ∃ status, m.checkBlock reason waitingStage = .ok status ∧ m.isStuck = true ∧
      ¬m.InPlace status (some reason)
  | .resume _ => ∃ u, m.checkResume = .ok u ∧ m.isStuck = true ∧ ¬m.InPlace .running none
  | _ => False

/-! ## Commands one by one -/

def isDispatch : MissionCommand → Bool
  | .beginEffect .. => true
  | _ => false

lemma atomicStep_iff_atomicAt
    (ho : isDispatch cmd = false) : m.AtomicStep enc cmd ↔ AtomicAt (cmd.toCommand enc) m := by
  constructor
  · intro ha e he
    rcases ha e he with hs | ⟨eid, now, -, rfl, -⟩
    · exact hs
    · cases ho
  · intro ha e he
    exact .inl (ha e he)

/-- A command that starts with its checks leaves something behind when what follows them does. -/
lemma atomicStep_check_iff {α : Type} {g : Mission → Except MissionError α}
    {k : α → Command Mission MissionError Unit} {P : α → Prop} (ho : isDispatch cmd = false)
    (hcmd : cmd.toCommand enc = (check g >>= k))
    (h : ∀ a, g m = .ok a → (AtomicAt (k a) m ↔ ¬P a)) :
    m.AtomicStep enc cmd ↔ ¬∃ a, g m = .ok a ∧ P a := by
  rw [atomicStep_iff_atomicAt ho, hcmd]
  exact atomicAt_check_bind_iff h

/-- A command that only writes after its checks is atomic. -/
lemma atomicStep_of_check_modify {α : Type}
    {g : Mission → Except MissionError α} {f : α → Mission → Mission} (ho : isDispatch cmd = false)
    (hcmd : cmd.toCommand enc = (check g >>= fun a => modify (f a))) : m.AtomicStep enc cmd := by
  rw [atomicStep_iff_atomicAt ho, hcmd]
  exact AtomicAt.check_bind fun a _ => atomicAt_modify (f a) m

lemma atomicStep_beginEffect (eid : EffectId) (now : DateTime) :
    m.AtomicStep enc (.beginEffect eid now) := by
  intro e he
  cases hc : m.checkBeginEffect enc eid with
  | error error =>
    refine .inl ?_
    have hex : m.step enc (.beginEffect eid now) = (.error error, m) :=
      exec_check_bind_of_error (g := (checkBeginEffect enc · eid)) hc
    rw [hex]
  | ok found =>
    obtain ⟨effect, apr⟩ := found
    have hf := (checkBeginEffect_ok hc).1
    have hex : m.step enc (.beginEffect eid now) = _ :=
      exec_check_bind_of_ok (g := (checkBeginEffect enc · eid)) hc
    rw [hex] at he ⊢
    dsimp only at he ⊢
    split at he
    · next hl =>
      cases he
      refine .inr ⟨eid, now, effect, rfl, Or.inl rfl, hf, ?_⟩
      rw [if_pos hl]
      rfl
    · next hv =>
      split at he
      · next hl =>
        cases he
        refine .inr ⟨eid, now, effect, rfl, Or.inr rfl, hf, ?_⟩
        rw [if_neg hv, if_pos hl]
        rfl
      · cases he

/-- A decision on an effect leaves something behind when it was the last one that waited, and the
checkpoint is stuck. -/
lemma atomicAt_decision {eid : EffectId} {e' : Effect} {now : DateTime}
    (hm : m.Moves enc cmd eid e')
    (ho : ∀ id vf, cmd ≠ .recordVerification id vf) (hd : e'.status ≠ .proposed) :
    AtomicAt (modify (writeEffect e') >>= fun _ => afterDecision now) m ↔
      ¬(m.othersProposed eid = false ∧ m.isStuck = true) := by
  rw [atomicAt_of_moves hm ho (keeps_records_afterDecision now), fails_afterDecision]
  have hs : (writeEffect e' m).decidedStage = .running ↔ m.othersProposed eid = false := by
    rw [decidedStage, any_proposed_writeEffect hm hd]
    cases m.othersProposed eid <;> simp
  rw [hs]
  rfl

lemma atomicStep_proposeEffect (spec : EffectSpec) (now : DateTime) :
    m.AtomicStep enc (.proposeEffect spec now) ↔
      ¬∃ u, m.checkProposeEffect spec now = .ok u ∧ m.isStuck = true := by
  have hcmd : (MissionCommand.proposeEffect spec now).toCommand enc =
      (check (·.checkProposeEffect spec now) >>= fun _ =>
        modify (pushEffect spec) >>= fun _ => followProposal spec now >>= fun _ => pure ()) :=
    bind_assoc _ _ _
  rw [atomicStep_iff_atomicAt rfl, hcmd]
  apply atomicAt_check_bind_iff
  intro _ _
  have hk := Keeps.bind (keeps_records_followProposal spec now) (fun _ => keeps_pure ())
    (pushEffect spec m)
  rw [atomicAt_iff_not_fails, fails_modify_bind, fails_bind_iff fun _ => not_fails_pure (),
    fails_followProposal]
  · rfl
  · intro hs
    rw [exec_modify_bind] at hs
    rw [hs] at hk
    have hl := congrArg (fun records => records.effects.length) hk
    simp [records, pushEffect] at hl

/-! ## Every command -/

/-- A command is atomic exactly when none of its steps fails too late. -/
theorem atomicStep_iff (enc : MissionEncoding) (m : Mission) (command : MissionCommand) :
    m.AtomicStep enc command ↔ ¬m.LateFailure enc command := by
  cases command with
  | startResearch | recordEvidence | recordWorkProduct | reviseWorkProduct | recordOutcome
  | terminate =>
    exact iff_of_true (atomicStep_of_check_modify rfl rfl) not_false
  | startScheduledCycle =>
    exact (atomicStep_iff_atomicAt rfl).trans atomicAt_startScheduledCycle
  | beginCheckpoint id =>
    apply atomicStep_check_iff rfl rfl
    exact fun _ _ => atomicAt_beginCheckpointTransition
  | beginCheckpointWithTask id task =>
    apply atomicStep_check_iff rfl rfl
    intro _ _
    exact atomicAt_bind_modify.trans atomicAt_beginCheckpointTransition
  | beginCheckpointVerification id =>
    apply atomicStep_check_iff rfl rfl
    intro c hc
    obtain ⟨-, hf, hs⟩ := checkBeginCheckpointVerification_ok hc
    exact atomicAt_revise (writeCheckpoint_ne hf rfl (by simp [hs]))
  | completeCheckpoint id =>
    apply atomicStep_check_iff rfl rfl
    exact fun _ _ => atomicAt_completeCheckpointValidated
  | completeVm04ChannelRebalanceTerminal | completeVm07ReplanOrTerminalTerminal
  | completeVm11CandidateLearningTerminal =>
    exact iff_of_true ((atomicStep_iff_atomicAt rfl).mpr (atomicAt_onCopy _ m)) not_false
  | completeVm11NextContractResolution =>
    refine iff_of_true ((atomicStep_iff_atomicAt rfl).mpr ?_) not_false
    exact AtomicAt.check_bind fun _ _ => atomicAt_onCopy _ m
  | blockCheckpoint id reason waitingStage =>
    apply atomicStep_check_iff rfl rfl
    intro found hc
    obtain ⟨c, status⟩ := found
    obtain ⟨hf, hs, hw⟩ := checkBlockCheckpoint_ok hc
    refine atomicAt_revise (writeCheckpoint_ne hf rfl ?_)
    rintro hsa
    rcases hs with h | h <;> rw [← hsa] at h <;> dsimp only at h <;> rw [h] at hw <;>
      cases waitingStage <;> cases hw
  | proposeEffect spec now => exact atomicStep_proposeEffect spec now
  | approveEffect effectId approval =>
    apply atomicStep_check_iff rfl rfl
    intro e' hc
    have hm := moves_of_checkApproveEffect hc
    refine atomicAt_decision hm (by simp) ?_
    obtain ⟨e, -, hmo⟩ := hm
    cases hmo
    cases approval.decision <;> simp
  | cancelEffect effectId now =>
    apply atomicStep_check_iff rfl rfl
    intro e' hc
    have hm := moves_of_checkCancelEffect enc now hc
    refine atomicAt_decision hm (by simp) ?_
    obtain ⟨e, -, hmo⟩ := hm
    cases hmo
    simp
  | beginEffect effectId now => exact iff_of_true (atomicStep_beginEffect effectId now) not_false
  | recordReceipt effectId receipt =>
    apply atomicStep_check_iff rfl rfl
    intro e' hc
    exact (atomicAt_of_moves (moves_of_checkRecordReceipt hc) (by simp)
      (keeps_records_enterStage _ _ _)).trans (not_congr fails_enterStage)
  | reconcileDurableReceipt | reconcileDurableProviderState =>
    refine iff_of_true ((atomicStep_iff_atomicAt rfl).mpr ?_) not_false
    refine AtomicAt.check_bind fun found _ => ?_
    cases found with
    | none => exact AtomicAt.of_ok rfl
    | some e' => exact atomicAt_modify _ m
  | markEffectUncertain effectId now =>
    apply atomicStep_check_iff rfl rfl
    intro e' hc
    exact (atomicAt_of_moves (moves_of_checkMarkEffectUncertain enc now hc) (by simp)
      (keeps_records_enterStage _ _ _)).trans (not_congr fails_enterStage)
  | markEffectFailed effectId now =>
    apply atomicStep_check_iff rfl rfl
    intro e' hc
    exact (atomicAt_of_moves (moves_of_checkMarkEffectFailed enc now hc) (by simp)
      (keeps_records_enterBlocked _)).trans (not_congr fails_enterBlocked)
  | recordVerification effectId verification =>
    apply atomicStep_check_iff rfl rfl
    exact fun e' hc => atomicAt_recordVerification hc
  | continueAfterVerifiedEffect effectId =>
    apply atomicStep_check_iff rfl rfl
    intro _ hc
    have hst : m.stage ≠ .running := by
      obtain ⟨hst, -⟩ := check_ok.mp hc
      rw [List.mem_singleton.mp (requireStage_ok.mp hst)]
      decide
    refine atomicAt_enter.trans (not_congr (and_iff_left ?_))
    exact fun hin => hst hin.1
  | block reason waitingStage =>
    apply atomicStep_check_iff rfl rfl
    exact fun _ _ => atomicAt_setCatalogCheckpointStatus_bind
  | resume =>
    apply atomicStep_check_iff rfl rfl
    exact fun _ _ => atomicAt_setCatalogCheckpointStatus_bind

/-- A run that completes the first of two checkpoints, so that none is active. -/
def betweenCheckpoints : List MissionCommand :=
  [.startResearch [] 1, .beginCheckpointVerification "first" 2, .completeCheckpoint "first" .sample]

/-- Between two checkpoints a proposal fails, and its effect stays. -/
theorem propose_leaves_effect :
    IsCompiled .sample catalogSample ∧
      (∀ e ∈ trace (Mission.step .sample) catalogSample betweenCheckpoints, e.output = .ok ()) ∧
      ((run (Mission.step .sample) catalogSample betweenCheckpoints).step .sample
        (.proposeEffect .sample 4)).1 = .error .invalidMissionDefinition ∧
      ¬(run (Mission.step .sample) catalogSample betweenCheckpoints).AtomicStep .sample
        (.proposeEffect .sample 4) := by
  have her : ((run (Mission.step .sample) catalogSample betweenCheckpoints).step .sample
      (.proposeEffect .sample 4)).1 = .error .invalidMissionDefinition := by decide +kernel
  refine ⟨isCompiled_catalogSample, by decide +kernel, her, fun ha => ?_⟩
  have he : ((run (Mission.step .sample) catalogSample betweenCheckpoints).step .sample
      (.proposeEffect .sample 4)).2.effects.length = 1 := by decide +kernel
  have hb : (run (Mission.step .sample) catalogSample betweenCheckpoints).effects.length = 0 := by
    decide +kernel
  rcases ha _ her with hs | ⟨_, _, _, hc, _⟩
  · rw [hs, hb] at he
    cases he
  · cases hc

end Mission

end Hartevo
