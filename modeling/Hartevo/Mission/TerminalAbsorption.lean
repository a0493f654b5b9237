import Hartevo.Mission.Records

/-!
# What a terminal Mission still accepts

A Mission whose stage is terminal is over.  Most commands look at the stage first and refuse it
(`refuses_of_terminal`).  Nine effect commands do not: they check one effect and set the stage from
what they write (`stage_of_revivedBy`), so an effect that was left open when the Mission ended can
take it out of its terminal stage.  `stage_eq_iff_not_revivedBy` is the exact condition, and
`revived_by_cancelEffect` a run that meets it.
-/

namespace Hartevo

open Command

namespace Mission

variable {expected : List MissionStage} {α β : Type} {id : String}
  {cpl : MissionCheckpointCompletion} {cmd : MissionCommand}

variable {enc : MissionEncoding} {m : Mission} {g : Mission → Except MissionError α}

/-! ## Commands that look at the stage -/

lemma requireStage_bind_ne_ok {rest : Unit → Except MissionError α} {a : α}
    (terminal : m.stage.isTerminal = true) (ho : expected.any (·.isTerminal) = false) :
    (m.requireStage expected >>= rest) ≠ .ok a := by
  intro h
  obtain ⟨u, hs, -⟩ := bind_ok.mp h
  exact absurd terminal (isTerminal_ne_true_of_requireStage hs ho)

lemma refuses_of_requireStage {rest : Mission → Unit → Except MissionError α}
    {k : α → Command Mission MissionError β}
    (terminal : m.stage.isTerminal = true) (ho : expected.any (·.isTerminal) = false) :
    Refuses (check (fun self => self.requireStage expected >>= rest self) >>= k) m :=
  Refuses.check_bind fun _ h => absurd h (requireStage_bind_ne_ok terminal ho)

lemma refuses_beginCheckpointTransition {now : DateTime} (terminal : m.stage.isTerminal = true) :
    Refuses (beginCheckpointTransition id now) m :=
  refuses_of_requireStage terminal rfl

lemma refuses_completeCheckpointValidated (terminal : m.stage.isTerminal = true) :
    Refuses (completeCheckpointValidated enc id cpl) m :=
  refuses_of_requireStage terminal rfl

lemma refuses_completeTerminal {isTyped : Mission → Bool} {required : MissionError}
    (terminal : m.stage.isTerminal = true) :
    Refuses (completeTerminal enc id isTyped required cpl) m :=
  Refuses.onCopy (Refuses.bind (refuses_completeCheckpointValidated terminal))

/-- The commands that read an effect and not the stage. -/
def ignoresStage : MissionCommand → Bool
  | .approveEffect .. | .cancelEffect .. | .beginEffect .. | .recordReceipt ..
  | .reconcileDurableReceipt .. | .reconcileDurableProviderState .. | .markEffectUncertain ..
  | .markEffectFailed .. | .recordVerification .. => true
  | _ => false

lemma refuses_of_terminal (enc : MissionEncoding) (terminal : m.stage.isTerminal = true)
    (hs : ignoresStage cmd = false) : Refuses (cmd.toCommand enc) m := by
  cases cmd with
  | startResearch | startScheduledCycle | recordEvidence | recordWorkProduct
  | reviseWorkProduct | beginCheckpointVerification | continueAfterVerifiedEffect
  | recordOutcome | resume => exact refuses_of_requireStage terminal rfl
  | beginCheckpoint =>
    exact Refuses.check_bind fun _ _ => refuses_beginCheckpointTransition terminal
  | beginCheckpointWithTask =>
    exact Refuses.check_bind fun _ _ => Refuses.bind (refuses_beginCheckpointTransition terminal)
  | completeCheckpoint =>
    exact Refuses.check_bind fun _ _ => refuses_completeCheckpointValidated terminal
  | completeVm04ChannelRebalanceTerminal | completeVm07ReplanOrTerminalTerminal
  | completeVm11CandidateLearningTerminal => exact refuses_completeTerminal terminal
  | completeVm11NextContractResolution =>
    exact Refuses.check_bind fun _ _ =>
      Refuses.onCopy (Refuses.bind (refuses_completeCheckpointValidated terminal))
  | blockCheckpoint =>
    refine Refuses.check_bind fun _ h => ?_
    obtain ⟨-, -, h⟩ := bind_ok.mp h
    exact absurd h (requireStage_bind_ne_ok terminal rfl)
  | proposeEffect => exact Refuses.bind (refuses_of_requireStage terminal rfl)
  | block =>
    refine Refuses.check_bind fun _ h => ?_
    obtain ⟨hb, -⟩ := check_ok.mp h
    rw [rejectIf_ok, terminal, Bool.true_or] at hb
    cases hb
  | terminate =>
    refine Refuses.check_bind fun _ h => ?_
    obtain ⟨ho, -⟩ := check_ok.mp h
    rw [rejectIf_ok, terminal] at ho
    cases ho
  | approveEffect | cancelEffect | beginEffect | recordReceipt | reconcileDurableReceipt
  | reconcileDurableProviderState | markEffectUncertain | markEffectFailed
  | recordVerification => cases hs

/-! ## Commands that look at an effect only -/

/-- The command is one of these, and its own checks let it through: the effect has the status that
the command expects and, where that is asked for, the approval, the receipt and the times fit.  A
dispatch is let through while the approval and the effect are in time, and a recovery unless it is a
replay. -/
def revivedBy (enc : MissionEncoding) (self : Mission) : MissionCommand → Bool
  | .approveEffect effectId approval => (self.checkApproveEffect enc effectId approval).isOk
  | .cancelEffect effectId _ => (self.checkCancelEffect effectId).isOk
  | .beginEffect effectId now =>
    (self.checkBeginEffect enc effectId).toOption.any fun (effect, approval) =>
      decide (now < approval.validUntil) && decide (now < effect.expiresAt)
  | .recordReceipt effectId receipt => (self.checkRecordReceipt enc effectId receipt).isOk
  | .reconcileDurableReceipt effectId receipt executionStartedAt =>
    (self.checkReconcileDurableReceipt enc effectId receipt executionStartedAt).toOption.any
      Option.isSome
  | .reconcileDurableProviderState effectId durableState executionStartedAt recordedAt =>
    (self.checkReconcileDurableProviderState enc effectId durableState executionStartedAt
      recordedAt).toOption.any Option.isSome
  | .markEffectUncertain effectId _ => (self.checkMarkEffectUncertain effectId).isOk
  | .markEffectFailed effectId _ => (self.checkMarkEffectFailed effectId).isOk
  | .recordVerification effectId verification =>
    (self.checkRecordVerification effectId verification).isOk
  | _ => false

lemma keeps_stage_setCatalogCheckpointStatus (st : MissionCheckpointStatus)
    (block : Option MissionBlock) : Keeps (·.stage) (setCatalogCheckpointStatus st block) :=
  Keeps.focusSome fun _ _ _ => rfl

/-- The stage that is entered stays, also when the checkpoint does not follow. -/
lemma isTerminal_enter {stage : MissionStage} {st : MissionCheckpointStatus}
    {block : Option MissionBlock} {write : Mission → Mission} (hs : stage.isTerminal = false)
    (hw : ∀ self, (write self).stage = self.stage) (m : Mission) : ((do
      modify fun self => { self with stage }
      setCatalogCheckpointStatus st block
      modify write : Command Mission MissionError Unit).exec m).2.stage.isTerminal = false := by
  have hr := Keeps.bind (keeps_stage_setCatalogCheckpointStatus st block) fun _ => keeps_modify hw
  exact (congrArg MissionStage.isTerminal (hr { m with stage })).trans hs

lemma stage_afterDecision (now : DateTime) (m : Mission) :
    ((afterDecision now).exec m).2.stage = m.decidedStage := by
  have hm : Keeps (·.stage) (do
      setCatalogCheckpointStatus .running none
      modify fun self : Mission => { self with block := none }) :=
    Keeps.bind (keeps_stage_setCatalogCheckpointStatus .running none)
      fun _ => keeps_modify fun _ => rfl
  have hr := Keeps.bind
    (Keeps.branch (p := fun self => self.definition.isSome && self.stage == .running)
      hm (keeps_pure ()))
    fun _ => keeps_modify (g := touch now) fun _ => rfl
  exact hr { m with stage := m.decidedStage }

lemma decidedStage_isTerminal (m : Mission) : m.decidedStage.isTerminal = false := by
  unfold decidedStage
  split <;> rfl

/-- What an effect command does to the stage, by whether it is let through. -/
def Settles (m : Mission) (revived : Bool) (after : Mission) : Prop :=
  (revived = false ∧ after.stage = m.stage) ∨ (revived = true ∧ after.stage.isTerminal = false)

lemma settles_of_check {p : α → Bool} {k : α → Command Mission MissionError β}
    (hk : ∀ a, Settles m (p a) ((k a).exec m).2) :
    Settles m ((g m).toOption.any p) ((check g >>= k).exec m).2 := by
  cases h : g m with
  | error =>
    rw [exec_check_bind_of_error h]
    exact .inl ⟨rfl, rfl⟩
  | ok a =>
    rw [exec_check_bind_of_ok h]
    exact hk a

lemma settles_of_isOk {k : α → Command Mission MissionError β}
    (hk : ∀ a, ((k a).exec m).2.stage.isTerminal = false) :
    Settles m (g m).isOk ((check g >>= k).exec m).2 := by
  have hs := settles_of_check (m := m) (g := g) (p := fun _ => true) (k := k)
    fun a => Or.inr ⟨rfl, hk a⟩
  cases h : g m <;> rw [h] at hs <;> exact hs

/-- A recovery writes the stage unless it is a replay. -/
lemma settles_of_recovery {write : Effect → Mission → Mission}
    (hw : ∀ effect, (write effect m).stage.isTerminal = false) (found : Option Effect) :
    Settles m found.isSome ((match found with
      | none => pure ()
      | some effect => modify (write effect) : Command Mission MissionError Unit).exec m).2 := by
  cases found with
  | none => exact .inl ⟨rfl, rfl⟩
  | some effect => exact .inr ⟨rfl, hw effect⟩

lemma stage_enterRecovered (block : Option MissionBlock) (m : Mission) :
    (enterRecovered block m).stage.isTerminal = false := by
  cases block <;> rfl

/-- A dispatch that is let through enters the running stage; one that is too late leaves the stage
to the effect that expires. -/
lemma settles_beginEffect (eid : EffectId) (now : DateTime) :
    Settles m (m.revivedBy enc (.beginEffect eid now))
      ((beginEffect enc eid now).exec m).2 := by
  apply settles_of_check
  rintro ⟨effect, apr⟩
  by_cases ha : apr.validUntil ≤ now
  · refine .inl ⟨by simp [ha], ?_⟩
    simp only [ha, if_true, exec_modify_bind, exec_throw]
    rfl
  by_cases he : effect.expiresAt ≤ now
  · refine .inl ⟨by simp [he], ?_⟩
    simp only [ha, he, if_false, if_true, exec_modify_bind, exec_throw]
    rfl
  · refine .inr ⟨by simp [not_le.mp ha, not_le.mp he], ?_⟩
    simp only [ha, he, if_false, exec_modify]
    rfl

lemma settles_of_ignoresStage (enc : MissionEncoding) (m : Mission)
    (h : ignoresStage cmd = true) : Settles m (m.revivedBy enc cmd) (m.step enc cmd).2 := by
  cases cmd with
  | approveEffect eid apr =>
    apply settles_of_isOk
    intro effect
    rw [exec_modify_bind, stage_afterDecision]
    exact decidedStage_isTerminal _
  | cancelEffect eid =>
    apply settles_of_isOk
    intro effect
    rw [exec_modify_bind, stage_afterDecision]
    exact decidedStage_isTerminal _
  | beginEffect eid now => exact settles_beginEffect eid now
  | recordReceipt eid rc =>
    apply settles_of_isOk
    intro effect
    rw [exec_modify_bind]
    exact isTerminal_enter rfl (by intro; rfl) _
  | reconcileDurableReceipt eid rc executionStartedAt =>
    apply settles_of_check
    exact settles_of_recovery fun _ => rfl
  | reconcileDurableProviderState eid durableState executionStartedAt ra =>
    apply settles_of_check
    refine settles_of_recovery fun effect => ?_
    exact stage_enterRecovered _ (writeEffect effect m)
  | markEffectUncertain eid =>
    apply settles_of_isOk
    intro effect
    rw [exec_modify_bind]
    exact isTerminal_enter rfl (by intro; rfl) _
  | markEffectFailed eid =>
    apply settles_of_isOk
    intro effect
    rw [exec_modify_bind]
    exact isTerminal_enter rfl (by intro; rfl) _
  | recordVerification eid vf =>
    apply settles_of_isOk
    intro effect
    rw [exec_modify_bind, exec_branch]
    split <;> exact isTerminal_enter rfl (by intro; rfl) _
  | _ => cases h

/-! ## Absorption -/

lemma stage_eq_of_not_revivedBy (terminal : m.stage.isTerminal = true)
    (h : m.revivedBy enc cmd = false) : (m.step enc cmd).2.stage = m.stage := by
  cases hs : ignoresStage cmd with
  | false =>
    obtain ⟨e, he⟩ := refuses_of_terminal enc terminal hs
    rw [step, he]
  | true =>
    rcases settles_of_ignoresStage enc m hs with
      ⟨-, hsa⟩ | ⟨hr, -⟩
    · exact hsa
    · rw [h] at hr
      cases hr

lemma stage_open_of_revivedBy (h : m.revivedBy enc cmd = true) :
    (m.step enc cmd).2.stage.isTerminal = false := by
  have hs : ignoresStage cmd = true := by
    cases cmd <;> first | rfl | cases h
  rcases settles_of_ignoresStage enc m hs with
    ⟨hl, -⟩ | ⟨-, ho⟩
  · rw [h] at hl
    cases hl
  · exact ho

/-- A command leaves the stage of a terminal Mission exactly when it is not an effect command whose
own checks let it through. -/
theorem stage_eq_iff_not_revivedBy (enc : MissionEncoding) (m : Mission)
    (terminal : m.stage.isTerminal = true) (command : MissionCommand) :
    (m.step enc command).2.stage = m.stage ↔ m.revivedBy enc command = false := by
  constructor
  · intro hs
    by_contra hr
    have ho := stage_open_of_revivedBy (Bool.eq_true_of_not_eq_false hr)
    rw [hs, terminal] at ho
    cases ho
  · exact stage_eq_of_not_revivedBy terminal

/-- A run that cancels a Mission while an effect still waits for its approval. -/
def cancelledRun : List MissionCommand :=
  [.startResearch [] 1, .proposeEffect .sample 2, .terminate .cancelled 3]

/-- The cancelled Mission does not take in another effect, and its effect can be cancelled. -/
theorem stage_eq_iff_not_revivedBy_cancelledRun :
    let cancelled := run (step .sample) sample cancelledRun
    (cancelled.step .sample (.proposeEffect .sample 4)).2.stage = cancelled.stage ∧
      (cancelled.step .sample (.cancelEffect "effect" 4)).2.stage ≠ cancelled.stage := by
  intro cancelled
  have ht : cancelled.stage.isTerminal = true := by decide +kernel
  refine ⟨(stage_eq_iff_not_revivedBy .sample cancelled ht _).mpr rfl, fun hs => ?_⟩
  have hr : cancelled.revivedBy .sample (.cancelEffect "effect" 4) = true := by decide +kernel
  rw [(stage_eq_iff_not_revivedBy .sample cancelled ht _).mp hs] at hr
  cases hr

/-- From there, cancelling the effect as well takes the Mission back to the running stage. -/
theorem revived_by_cancelEffect :
    compile "tenant" "mission" "project" "Sample" .sample 0 = .ok sample ∧
      (run (step .sample) sample cancelledRun).stage = .cancelled ∧
      ((run (step .sample) sample cancelledRun).step .sample
        (.cancelEffect "effect" 4)).1 = .ok () ∧
      ((run (step .sample) sample cancelledRun).step .sample
        (.cancelEffect "effect" 4)).2.stage = .running := by
  refine ⟨by rfl, ?_, ?_, ?_⟩ <;> decide +kernel

end Mission

end Hartevo
