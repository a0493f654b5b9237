import Hartevo.Mission.Progress

/-!
# Late failures

After its checks, a command writes.  Three things can still fail between the writes of a command:
the move of the active checkpoint, which the effect commands make after they have written the
effect; the next revision of a checkpoint, which is computed after its status was written; and the
reset of the checkpoints for the next cycle.  For each of them this module says when it fails, and
that something is left behind then.
-/

namespace Hartevo

open Command

namespace Mission

variable {c' : MissionCheckpoint} {g : Mission → Mission} {stage : MissionStage} {now : DateTime}
  {e' : Effect} {tail : Command Mission MissionError Unit} {eid : EffectId} {id : String}
  {cyc : ℕ} {tasks : List Task}

variable {enc : MissionEncoding} {m : Mission} {st : MissionCheckpointStatus}
  {d : MissionDefinition} {c : MissionCheckpoint} {block : Option MissionBlock}

/-! ## The active checkpoint -/

/-- The Catalog definition has no active checkpoint that could follow the stage: there is none, or
its revision is the last one. -/
def isStuck (m : Mission) : Bool :=
  m.definition.any fun definition =>
    definition.activeCheckpoint.all fun checkpoint => (checkedAdd 64 checkpoint.revision 1).isNone

/-- The active checkpoint, if there is one, has the status and the block already. -/
def InPlace (m : Mission) (status : MissionCheckpointStatus) (block : Option MissionBlock) : Prop :=
  ∀ definition checkpoint, m.definition = some definition →
    definition.activeCheckpoint = some checkpoint →
    checkpoint.status = status ∧ checkpoint.block = block

/-- Writing the active checkpoint changes the definition exactly when the checkpoint changes. -/
lemma writeActive_eq_self_iff (hact : d.activeCheckpoint = some c) :
    d.writeActive c' = d ↔ c' = c := by
  constructor
  · intro hs
    by_contra hne
    have hl := congrArg MissionDefinition.checkpoints hs
    exact replaceFirst_ne hact hne hl
  · rintro rfl
    have hl := replaceFirst_self hact
    rw [MissionDefinition.writeActive, hl]

section

variable (status : MissionCheckpointStatus) (block : Option MissionBlock)

lemma exec_setActiveStatus_of_none (hact : d.activeCheckpoint = none) :
    (MissionDefinition.setActiveStatus status block).exec d =
      (.error .invalidMissionDefinition, d) := by
  have hc : d.requireActive = .error .invalidMissionDefinition := by
    rw [MissionDefinition.requireActive, hact]
    rfl
  exact exec_check_bind_of_error hc

lemma requireActive_of_some (hact : d.activeCheckpoint = some c) : d.requireActive = .ok c := by
  rw [MissionDefinition.requireActive, okOr_ok, hact]

lemma exec_setActiveStatus_of_last (hact : d.activeCheckpoint = some c)
    (hl : checkedAdd 64 c.revision 1 = none) :
    (MissionDefinition.setActiveStatus status block).exec d =
      (.error .revisionOverflow, d.writeActive { c with status, block }) := by
  rw [MissionDefinition.setActiveStatus, exec_check_bind_of_ok (requireActive_of_some hact), hl]
  rfl

lemma exec_setActiveStatus_of_next {revision : ℕ} (hact : d.activeCheckpoint = some c)
    (hn : checkedAdd 64 c.revision 1 = some revision) :
    (MissionDefinition.setActiveStatus status block).exec d =
      (.ok (), d.writeActive { c with status, block, revision }) := by
  rw [MissionDefinition.setActiveStatus, exec_check_bind_of_ok (requireActive_of_some hact), hn]
  rfl

end

lemma exec_setCatalogCheckpointStatus_of_not_isStuck (status : MissionCheckpointStatus)
    (block : Option MissionBlock) (h : m.isStuck = false) :
    ∃ d,
      (setCatalogCheckpointStatus status block).exec m = (.ok (), { m with definition := d }) := by
  cases hdef : m.definition with
  | none => exact ⟨none, by rw [setCatalogCheckpointStatus, onDefinition,
      exec_focusSome_of_none hdef, ← hdef]⟩
  | some d =>
    rw [isStuck, hdef, Option.any_some] at h
    cases hact : d.activeCheckpoint with
    | none => rw [hact] at h; cases h
    | some c =>
      rw [hact, Option.all_some] at h
      obtain ⟨revision, hn⟩ := Option.isSome_iff_exists.mp (Option.isNone_eq_false_iff.mp h)
      refine ⟨some (d.writeActive { c with status, block, revision }), ?_⟩
      rw [setCatalogCheckpointStatus, onDefinition, exec_focusSome_of_some hdef,
        exec_setActiveStatus_of_next status block hact hn]

/-- Otherwise the move fails, and leaves something behind unless the checkpoint is in place. -/
lemma exec_setCatalogCheckpointStatus_of_isStuck (status : MissionCheckpointStatus)
    (block : Option MissionBlock) (h : m.isStuck = true) :
    ∃ e d,
      (setCatalogCheckpointStatus status block).exec m = (.error e, { m with definition := d }) ∧
        (d = m.definition ↔ m.InPlace status block) := by
  cases hdef : m.definition with
  | none => rw [isStuck, hdef] at h; cases h
  | some d =>
    rw [isStuck, hdef, Option.any_some] at h
    cases hact : d.activeCheckpoint with
    | none =>
      refine ⟨.invalidMissionDefinition, some d, ?_, ?_⟩
      · rw [setCatalogCheckpointStatus, onDefinition, exec_focusSome_of_some hdef,
          exec_setActiveStatus_of_none status block hact]
      · refine iff_of_true rfl fun d₂ c hd₂ ha₂ => ?_
        obtain rfl := Option.mem_unique hdef hd₂
        rw [hact] at ha₂
        cases ha₂
    | some c =>
      rw [hact, Option.all_some, Option.isNone_iff_eq_none] at h
      refine ⟨.revisionOverflow, some (d.writeActive { c with status, block }), ?_, ?_⟩
      · rw [setCatalogCheckpointStatus, onDefinition, exec_focusSome_of_some hdef,
          exec_setActiveStatus_of_last status block hact h]
      · rw [Option.some.injEq, writeActive_eq_self_iff hact]
        constructor
        · intro hs d₂ c₂ hd₂ ha₂
          obtain rfl := Option.mem_unique hdef hd₂
          obtain rfl := Option.mem_unique hact ha₂
          exact ⟨(congrArg MissionCheckpoint.status hs).symm,
            (congrArg MissionCheckpoint.block hs).symm⟩
        · intro hp
          obtain ⟨hst, hb⟩ := hp d c hdef hact
          rw [← hst, ← hb]

/-- Moving the active checkpoint fails exactly when it is stuck. -/
lemma fails_setCatalogCheckpointStatus :
    Fails (setCatalogCheckpointStatus st block) m ↔ m.isStuck = true := by
  cases hs : m.isStuck with
  | false =>
    obtain ⟨d, h⟩ := exec_setCatalogCheckpointStatus_of_not_isStuck st block hs
    simp [Fails, h]
  | true =>
    obtain ⟨e, d, h, -⟩ := exec_setCatalogCheckpointStatus_of_isStuck st block hs
    simp [Fails, h]

/-! ## Commands that write an effect first -/

lemma fails_enterStage : Fails (enterStage stage st now) m ↔ m.isStuck = true := by
  rw [enterStage, fails_modify_bind, fails_bind_modify, fails_setCatalogCheckpointStatus]
  rfl

lemma fails_enterBlocked {reason : MissionBlock} :
    Fails (enterBlocked reason) m ↔ m.isStuck = true := by
  rw [enterBlocked, fails_modify_bind, fails_bind_modify, fails_setCatalogCheckpointStatus]
  rfl

lemma isSome_definition_of_isStuck (h : m.isStuck = true) : m.definition.isSome = true := by
  cases hdef : m.definition with
  | none => rw [isStuck, hdef] at h; cases h
  | some d => rfl

lemma fails_afterDecision :
    Fails (afterDecision now) m ↔ m.decidedStage = .running ∧ m.isStuck = true := by
  rw [afterDecision, fails_modify_bind, fails_bind_modify]
  have hm : Fails (setCatalogCheckpointStatus .running none >>= fun _ =>
      modify fun self : Mission => { self with block := none }) { m with stage := m.decidedStage } ↔
      m.isStuck = true := by
    rw [fails_bind_modify, fails_setCatalogCheckpointStatus]
    rfl
  rw [Fails, exec_branch]
  by_cases hgo : m.definition.isSome = true ∧ m.decidedStage = .running
  · rw [if_pos (by simpa using hgo)]
    exact hm.trans (and_iff_right hgo.2).symm
  · rw [if_neg (by simpa using hgo)]
    refine iff_of_false (not_fails_pure () _) ?_
    rintro ⟨hr, hs⟩
    exact hgo ⟨isSome_definition_of_isStuck hs, hr⟩

lemma fails_followProposal {spec : EffectSpec} :
    Fails (followProposal spec now) m ↔ m.isStuck = true := by
  have hr : ∀ (u : Unit) (s : Mission), ¬Fails (do
      modify fun self : Mission => touch now { self with stage := .waitingApproval }
      return spec.id : Command Mission MissionError EffectId) s := by
    intro _ s
    rw [fails_modify_bind]
    exact not_fails_pure _ _
  rw [followProposal, fails_bind_iff hr, Fails, exec_branch]
  by_cases hc : m.definition.isSome = true
  · rw [if_pos hc]
    exact fails_bind_modify.trans fails_setCatalogCheckpointStatus
  · rw [if_neg hc]
    exact iff_of_false (not_fails_pure () m) fun hs =>
      hc (isSome_definition_of_isStuck hs)

/-- A command that writes a changed effect, and then leaves the records alone, is atomic exactly
when nothing after the write fails. -/
lemma atomicAt_writeEffect {e : Effect} (hf : m.effects.find? (·.id == e'.id) = some e)
    (hne : e' ≠ e) (hk : Keeps records tail) :
    AtomicAt (modify (writeEffect e') >>= fun _ => tail) m ↔ ¬Fails tail (writeEffect e' m) := by
  rw [atomicAt_iff_not_fails, fails_modify_bind]
  intro hs
  have hr := hk (writeEffect e' m)
  rw [exec_modify_bind] at hs
  rw [hs] at hr
  exact replaceFirst_ne hf hne (congrArg Records.effects hr).symm

lemma atomicAt_of_moves {cmd : MissionCommand} (hm : m.Moves enc cmd eid e')
    (ho : ∀ id vf, cmd ≠ .recordVerification id vf) (hk : Keeps records tail) :
    AtomicAt (modify (writeEffect e') >>= fun _ => tail) m ↔ ¬Fails tail (writeEffect e' m) := by
  obtain ⟨e, hf, hmo⟩ := hm.exists_found
  exact atomicAt_writeEffect hf (fun heq => hmo.status_ne ho (congrArg Effect.status heq)) hk

/-- Entering a stage with the active checkpoint is atomic unless it is stuck and something
changes. -/
lemma atomicAt_enter :
    AtomicAt (modify (fun self => { self with stage }) >>= fun _ =>
        setCatalogCheckpointStatus st block >>= fun _ => modify g) m ↔
      ¬(m.isStuck = true ∧ ¬(m.stage = stage ∧ m.InPlace st block)) := by
  have hstuck_eq : { m with stage }.isStuck = m.isStuck := rfl
  cases hs : m.isStuck with
  | false =>
    obtain ⟨d, h⟩ := exec_setCatalogCheckpointStatus_of_not_isStuck st block (hstuck_eq.trans hs)
    refine iff_of_true (fun e he => ?_) (by simp)
    rw [exec_modify_bind, exec_bind_of_ok h] at he
    cases he
  | true =>
    obtain ⟨e, d, h, hp⟩ := exec_setCatalogCheckpointStatus_of_isStuck st block (hstuck_eq.trans hs)
    have hsa : { m with stage, definition := d } = m ↔ m.stage = stage ∧ m.InPlace st block := by
      constructor
      · intro heq
        exact ⟨(congrArg Mission.stage heq).symm, hp.mp (congrArg Mission.definition heq)⟩
      · rintro ⟨rfl, hin⟩
        have hdef : d = m.definition := hp.mpr hin
        rw [hdef]
    simp only [AtomicAt, exec_modify_bind, exec_bind_of_error h, hsa, true_and, not_not]
    exact ⟨fun ha => ha e rfl, fun hin _ _ => hin⟩

/-- A command that only moves the active checkpoint, and then writes, enters the stage it is in. -/
lemma atomicAt_setCatalogCheckpointStatus_bind :
    AtomicAt (setCatalogCheckpointStatus st block >>= fun _ => modify g) m ↔
      ¬(m.isStuck = true ∧ ¬m.InPlace st block) := by
  have he : AtomicAt (do
      modify fun self => { self with stage := m.stage }
      setCatalogCheckpointStatus st block
      modify g) m ↔ _ := atomicAt_enter
  rw [AtomicAt, exec_modify_bind, and_iff_right rfl] at he
  exact he

/-- A verification that is recorded already, in a Mission whose stage and checkpoint are those it
leads to. -/
def VerificationRests (m : Mission) (effectId : EffectId) (verification : Verification)
    (e' : Effect) : Prop :=
  m.effects.find? (·.id == effectId) = some e' ∧
    if m.effects.any (·.status == .failed) then
      m.stage = .blocked ∧
        m.InPlace .blocked (some (verificationRejectedBlock verification.observedAt))
    else m.stage = .verifying ∧ m.InPlace .verifying none

/-- Recording a verification is atomic unless the checkpoint is stuck and something changes. -/
lemma atomicAt_recordVerification {vf : Verification}
    (hch : m.checkRecordVerification eid vf = .ok e') :
    AtomicAt (modify (writeEffect e') >>= fun _ =>
        branch (·.effects.any (·.status == .failed))
          (enterBlocked (verificationRejectedBlock vf.observedAt))
          (enterStage .verifying .verifying vf.observedAt)) m ↔
      ¬(m.isStuck = true ∧ ¬m.VerificationRests eid vf e') := by
  have hm := moves_of_checkRecordVerification .sample hch
  have hid := hm.id_eq
  obtain ⟨e, hf, -⟩ := hm
  by_cases hc : e' = e
  · -- The effect has the verification already: what is left is the branch, on the same Mission.
    subst hc
    have hse : writeEffect e' m = m := by
      rw [writeEffect, hid, replaceFirst_self hf]
    have hb : ∀ c d : Command Mission MissionError Unit,
        AtomicAt (modify (writeEffect e') >>= fun _ =>
          branch (·.effects.any (·.status == .failed)) c d) m ↔
        AtomicAt (if m.effects.any (·.status == .failed) then c else d) m := by
      intro c d
      rw [AtomicAt, exec_modify_bind, hse, exec_branch, AtomicAt]
      split <;> rfl
    rw [hb]
    by_cases hfa : m.effects.any (·.status == .failed) = true
    · rw [if_pos hfa, VerificationRests, if_pos hfa, and_iff_right hf]
      exact atomicAt_enter
    · rw [if_neg hfa, VerificationRests, if_neg hfa, and_iff_right hf]
      exact atomicAt_enter
  · have hr : ¬m.VerificationRests eid vf e' := by
      rintro ⟨hs, -⟩
      exact hc (Option.mem_unique hs hf)
    have hfai : Fails (branch (·.effects.any (·.status == .failed))
        (enterBlocked (verificationRejectedBlock vf.observedAt))
        (enterStage .verifying .verifying vf.observedAt)) (writeEffect e' m) ↔
        m.isStuck = true := by
      rw [Fails, exec_branch]
      split
      · exact fails_enterBlocked
      · exact fails_enterStage
    rw [atomicAt_writeEffect (by rw [hid]; exact hf) hc
      (Keeps.branch (keeps_records_enterBlocked _) (keeps_records_enterStage _ _ _)), hfai,
      and_iff_left hr]

/-! ## Commands that write a checkpoint first -/

/-- An attribute of the checkpoints, in their order. -/
def checkpointMap {τ : Type} (f : MissionCheckpoint → τ) (m : Mission) : Option (List τ) :=
  m.definition.map fun definition => definition.checkpoints.map f

lemma checkpointMap_writeCheckpoint_ne {τ : Type} {f : MissionCheckpoint → τ}
    (hfo : m.Finds id c) (hid : c'.id = c.id) (hf : f c' ≠ f c) :
    checkpointMap f (writeCheckpoint c' m) ≠ checkpointMap f m := by
  have hn := hid.trans hfo.id_eq
  obtain ⟨d, hdef, hfi⟩ := hfo
  simp only [checkpointMap, writeCheckpoint, hdef, Option.map_some, hn]
  intro hs
  exact map_replaceFirst_ne hfi hf (Option.some.inj hs)

lemma writeCheckpoint_ne (hf : m.Finds id c) (hid : c'.id = c.id)
    (hst : c'.status ≠ c.status) : writeCheckpoint c' m ≠ m := by
  intro hs
  exact checkpointMap_writeCheckpoint_ne hf hid hst
    (congrArg (checkpointMap MissionCheckpoint.status) hs)

lemma nextRevision_eq_error (h : checkedAdd 64 c.revision 1 = none) :
    nextRevision c = .error .revisionOverflow := by
  rw [nextRevision, h]
  rfl

lemma atomicAt_revise {g : ℕ → Mission → Mission} (hne : writeCheckpoint c m ≠ m) :
    AtomicAt (modify (writeCheckpoint c) >>= fun _ =>
        check (fun _ => nextRevision c) >>= fun rev => modify (g rev)) m ↔
      ¬checkedAdd 64 c.revision 1 = none := by
  cases hn : checkedAdd 64 c.revision 1 with
  | none =>
    refine iff_of_false (not_atomicAt (e := .revisionOverflow) ?_ hne) (by simp)
    rw [exec_modify_bind, exec_check_bind_of_error (g := fun _ => nextRevision c)
      (nextRevision_eq_error hn)]
  | some rev =>
    refine iff_of_true (AtomicAt.of_ok (a := ()) ?_) (by simp)
    rw [exec_modify_bind, exec_check_bind_of_ok (g := fun _ => nextRevision c)
      (nextRevision_ok.mpr hn), exec_modify]

lemma atomicAt_beginCheckpointTransition : AtomicAt (beginCheckpointTransition id now) m ↔
      ¬∃ c, m.checkBeginCheckpointTransition id = .ok c ∧
        (checkedAdd 32 c.attempt 1 = none ∨ checkedAdd 64 c.revision 1 = none) := by
  apply atomicAt_check_bind_iff
  intro c hc
  obtain ⟨-, hf, hst⟩ := checkBeginCheckpointTransition_ok hc
  have hne : ∀ started : MissionCheckpoint, started.id = c.id → started.status = .running →
      writeCheckpoint started m ≠ m := by
    intro started hid hr
    refine writeCheckpoint_ne hf hid ?_
    rw [hr, hst]
    decide
  cases hatt : checkedAdd 32 c.attempt 1 with
  | none =>
    refine iff_of_false (not_atomicAt (e := .invalidMissionDefinition) ?_
      (hne { c with status := .running } rfl rfl)) (by simp)
    rw [exec_modify_bind, exec_check_bind_of_error]
    rw [hatt]
    rfl
  | some attempt =>
    have hs : okOr (checkedAdd 32 c.attempt 1) MissionError.invalidMissionDefinition =
        .ok attempt := by rw [hatt]; rfl
    let started := { c with status := .running, attempt, startedAt := some now, block := none }
    cases hrev : checkedAdd 64 c.revision 1 with
    | none =>
      have hl : nextRevision started = .error .revisionOverflow := nextRevision_eq_error hrev
      refine iff_of_false (not_atomicAt (e := .revisionOverflow) ?_ (hne started rfl rfl)) (by simp)
      rw [exec_modify_bind, exec_check_bind_of_ok (g := fun _ => okOr (checkedAdd 32 c.attempt 1) _)
        hs, exec_modify_bind, exec_check_bind_of_error (g := fun _ => nextRevision started) hl]
      exact congrArg (Prod.mk _) (writeCheckpoint_writeCheckpoint rfl)
    | some revision =>
      have hn : nextRevision started = .ok revision := nextRevision_ok.mpr hrev
      refine iff_of_true (AtomicAt.of_ok (a := ()) ?_) (by simp)
      rw [exec_modify_bind, exec_check_bind_of_ok (g := fun _ => okOr (checkedAdd 32 c.attempt 1) _)
        hs, exec_modify_bind, exec_check_bind_of_ok (g := fun _ => nextRevision started) hn,
        exec_modify]

def nextAfter (definition : MissionDefinition) (c : MissionCheckpoint) : Option MissionCheckpoint :=
  definition.checkpoints.find? fun candidate =>
    candidate.status == .pending &&
      candidate.dependsOn.toList.all fun id => id == c.id || definition.completedIds.contains id

lemma find?_isNext_of_completed (c' : MissionCheckpoint) (hf : d.findCheckpoint c.id = some c)
    (hs : c.status = .verifying) (hid : c'.id = c.id) (hd : c'.status = .completed) :
    let written := { d with checkpoints := replaceFirst (·.id == c.id) c' d.checkpoints }
    written.checkpoints.find? (isNext written.completedIds) = nextAfter d c := by
  intro written
  have hids : ∀ id, written.completedIds.contains id = true ↔
      id = c.id ∨ d.completedIds.contains id = true := by
    intro id
    rw [MissionDefinition.completedIds, contains_setOf, MissionDefinition.completedIds,
      contains_setOf, mem_map_filter_replaceFirst hf (by simp [hd]) (by simp [hs]),
      hid]
  have hsa : isNext written.completedIds = fun candidate : MissionCheckpoint =>
      candidate.status == .pending && candidate.dependsOn.toList.all fun id =>
          id == c.id || d.completedIds.contains id := by
    funext candidate
    have hall : written.completedIds.contains =
        fun id => id == c.id || d.completedIds.contains id := by
      funext id
      rw [Bool.eq_iff_iff, hids, Bool.or_eq_true, beq_iff_eq]
    rw [isNext, hall]
  rw [hsa, nextAfter]
  exact find?_replaceFirst_of_not hf (by simp [hd]) (by simp [hs])

lemma fails_advance (va : DateTime) (hdef : m.definition = some d) :
    Fails (advance va) m ↔ ∃ next, d.checkpoints.find? (isNext d.completedIds) = some next ∧
        checkedAdd 64 next.revision 1 = none := by
  have hr : m.requireDefinition = .ok d := okOr_ok.mpr hdef
  rw [advance, Fails, exec_check_bind_of_ok hr]
  dsimp only
  cases hn : d.checkpoints.find? (isNext d.completedIds) with
  | none => simp
  | some next =>
    cases hrev : checkedAdd 64 next.revision 1 with
    | none | some => simp [hrev]

lemma keeps_completed_advance (va : DateTime) :
    Keeps (checkpointMap (·.status == .completed)) (advance va) := by
  refine Keeps.check_bind fun s d hre => ?_
  have hdef : s.definition = some d := okOr_ok.mp hre
  dsimp only
  split
  · rfl
  · next next hn =>
    have hr : ∀ ready : MissionCheckpoint, ready.status = .ready →
        checkpointMap (·.status == .completed) (writeNext d.completedIds ready s) =
          checkpointMap (·.status == .completed) s := by
      intro ready hs
      have hp := List.find?_some hn
      rw [isNext, Bool.and_eq_true, beq_iff_eq] at hp
      simp only [checkpointMap, writeNext, hdef, Option.map_some]
      rw [map_replaceFirst hn (by rw [hs, hp.1]; rfl)]
    split
    · exact hr _ rfl
    · exact hr _ rfl

lemma atomicAt_completeCheckpointValidated {cpl : MissionCheckpointCompletion} :
    AtomicAt (completeCheckpointValidated enc id cpl) m ↔
      ¬∃ found, m.checkCompleteCheckpointValidated enc id cpl = .ok found ∧
        (checkedAdd 64 found.2.revision 1 = none ∨ ∃ d next, m.definition = some d ∧
            nextAfter d found.2 = some next ∧ checkedAdd 64 next.revision 1 = none) := by
  apply atomicAt_check_bind_iff
  intro found hch
  obtain ⟨route, c⟩ := found
  obtain ⟨hfo, hst⟩ := checkCompleteCheckpointValidated_ok hch
  let completed := { c with status := .completed, completion := some cpl, block := none }
  -- The completion itself is seen in the state that is left, whatever happens after it.
  have hc : ∀ c' : MissionCheckpoint, c'.id = c.id → c'.status = .completed →
      checkpointMap (·.status == .completed) (writeCheckpoint c' m) ≠
        checkpointMap (·.status == .completed) m := by
    intro c' hid hd
    refine checkpointMap_writeCheckpoint_ne hfo hid ?_
    rw [hd, hst]
    decide
  cases hrev : checkedAdd 64 c.revision 1 with
  | none =>
    have hla : nextRevision completed = .error .revisionOverflow := nextRevision_eq_error hrev
    refine iff_of_false (not_atomicAt (e := .revisionOverflow) (t := writeCheckpoint completed m) ?_
      fun hs => hc completed rfl rfl (congrArg _ hs)) (by simp)
    rw [exec_modify_bind, exec_check_bind_of_error (g := fun _ => nextRevision completed) hla]
  | some revision =>
    have hne : nextRevision completed = .ok revision := nextRevision_ok.mpr hrev
    let written := completeRouteTasks route (writeCheckpoint { completed with revision }
      (writeCheckpoint completed m))
    have he : ∀ k : Unit → Command Mission MissionError Unit,
        (modify (writeCheckpoint completed) >>= fun _ =>
          check (fun _ => nextRevision completed) >>= fun revision =>
            modify (fun self => completeRouteTasks route
              (writeCheckpoint { completed with revision } self)) >>= k).exec m =
        (k ()).exec written := by
      intro k
      rw [exec_modify_bind, exec_check_bind_of_ok (g := fun _ => nextRevision completed) hne,
        exec_modify_bind]
    have ht : writeCheckpoint { completed with revision } (writeCheckpoint completed m) =
        writeCheckpoint { completed with revision } m := writeCheckpoint_writeCheckpoint rfl
    obtain ⟨d, hdef, hfi⟩ := hfo
    have hn : c.id = id := Finds.id_eq ⟨d, hdef, hfi⟩
    rw [← hn] at hfi
    have hw : written.definition = some { d with
        checkpoints := replaceFirst (·.id == c.id) { completed with revision } d.checkpoints } := by
      change (writeCheckpoint { completed with revision }
        (writeCheckpoint completed m)).definition = _
      rw [ht, writeCheckpoint, hdef, Option.map_some]
    have hwr : ((advance cpl.verifiedAt).exec written).2 ≠ m := by
      intro hs
      have hk := keeps_completed_advance cpl.verifiedAt written
      rw [hs] at hk
      refine hc { completed with revision } rfl rfl ?_
      rw [← ht]
      exact hk.symm
    rw [atomicAt_iff_not_fails (by rw [he]; exact hwr), Fails, he]
    have hf := fails_advance cpl.verifiedAt hw
    have hl := find?_isNext_of_completed { completed with revision } hfi hst rfl rfl
    dsimp only at hl hf
    rw [hl] at hf
    rw [Fails] at hf
    rw [hf]
    simp [hdef]

/-! ## The next cycle -/

/-- The reset makes the first checkpoint ready, also when it does not get through. -/
lemma status_of_resetCheckpoints (c : MissionCheckpoint) (rest : List MissionCheckpoint) :
    ((MissionDefinition.resetCheckpoints true (c :: rest)).2.map (·.status)).head? =
      some .ready := by
  rw [MissionDefinition.resetCheckpoints]
  split <;> rfl

lemma exec_beginNextCycle_of_not_canRenew (now : DateTime)
    (hne : d.requireNextCycle cyc = .ok ()) (hn : d.checkpoints ≠ []) (hren : ¬d.CanRenew enc cyc) :
    ∃ e d', (beginNextCycle enc cyc now).exec d = (.error e, d') ∧
      (d'.checkpoints.map (·.status)).head? = some .ready := by
  obtain ⟨c, rest, hl⟩ := List.exists_cons_of_ne_nil hn
  have hre := status_of_resetCheckpoints c rest
  rw [← hl] at hre
  rcases hres : MissionDefinition.resetCheckpoints true d.checkpoints with ⟨e | ⟨⟩, l⟩
  · refine ⟨e, { d with checkpoints := l }, ?_, ?_⟩
    · exact exec_bind_of_error (MissionDefinition.exec_resetForNextCycle hne hres)
    · rw [hres] at hre
      exact hre
  · have hr := MissionDefinition.next_of_resetCheckpoints hres
    have he := MissionDefinition.exec_resetForNextCycle_of_next enc hne hr
    rw [MissionDefinition.resetCheckpoints_ok hr] at hre
    cases hv : (d.renew cyc).validate enc with
    | ok => exact absurd ⟨hr, hv⟩ hren
    | error e =>
      rw [hv] at he
      exact ⟨e, d.renew cyc, exec_bind_of_error he, hre⟩

lemma startFirstCheckpoint_renew (cyc : ℕ) (now : DateTime) (hn : d.checkpoints ≠ []) :
    ∃ started, (d.renew cyc).startFirstCheckpoint now = .ok started := by
  obtain ⟨c, rest, hl⟩ := List.exists_cons_of_ne_nil hn
  rw [MissionDefinition.renew, hl]
  exact ⟨_, rfl⟩

lemma checkpoints_ne_nil_of_checkFirstTasks
    (hdef : m.definition = some d) (h : m.checkFirstTasks tasks = .ok ()) : d.checkpoints ≠ [] := by
  intro he
  rw [checkFirstTasks, hdef, Option.elim_some,
    MissionDefinition.validateFirstCheckpointTasks, he] at h
  cases h

lemma atomicAt_startScheduledCycle : AtomicAt (startScheduledCycle enc cyc tasks now) m ↔
      ¬∃ u, m.checkStartScheduledCycle cyc tasks now = .ok u ∧
        ∃ d, m.definition = some d ∧ d.requireNextCycle cyc = .ok () ∧ ¬d.CanRenew enc cyc := by
  apply atomicAt_check_bind_iff
  intro _ hc
  have ht : m.checkFirstTasks tasks = .ok () := by
    simp only [checkStartScheduledCycle, bind_ok] at hc
    obtain ⟨-, -, -, -, -, -, -, -, ⟨⟩, ht, -⟩ := hc
    exact ht
  cases hdef : m.definition with
  | none =>
    refine iff_of_true (AtomicAt.of_ok (a := ()) ?_) (by simp)
    rw [exec_bind_of_ok (t := m) (a := ()), exec_modify]
    exact exec_focusSome_of_none hdef
  | some d =>
    have hno := checkpoints_ne_nil_of_checkFirstTasks hdef ht
    have hf : (onDefinition (beginNextCycle enc cyc now)).exec m =
        (((beginNextCycle enc cyc now).exec d).1,
          { m with definition := some ((beginNextCycle enc cyc now).exec d).2 }) :=
      exec_focusSome_of_some hdef
    cases hn : d.requireNextCycle cyc with
    | error e =>
      -- The cycle is refused before anything is written.
      have href : (beginNextCycle enc cyc now).exec d = (.error e, d) :=
        exec_bind_of_error (exec_check_bind_of_error
          (g := (MissionDefinition.requireNextCycle · cyc)) hn)
      refine iff_of_true (fun _ _ => ?_) (by simp [hn])
      rw [href, ← hdef] at hf
      rw [exec_bind_of_error hf]
    | ok =>
      by_cases hr : d.CanRenew enc cyc
      · obtain ⟨started, hs⟩ := startFirstCheckpoint_renew cyc now hno
        have hbe := MissionDefinition.beginNextCycle_ok.mpr ⟨hn, hr, hs⟩
        rw [hbe] at hf
        refine iff_of_true (AtomicAt.of_ok (a := ()) ?_) (by simp [hr])
        rw [exec_bind_of_ok hf, exec_modify]
      · obtain ⟨e, left, he, hre⟩ := exec_beginNextCycle_of_not_canRenew now hn hno hr
        rw [he] at hf
        refine iff_of_false (not_atomicAt (exec_bind_of_error hf) fun hsa => ?_) ?_
        · -- The first checkpoint was over, and is ready now.
          have hle : left = d := by
            have hb := congrArg definition hsa
            rw [hdef] at hb
            exact Option.some.inj hb
          rw [hle] at hre
          obtain ⟨c, rest, hl⟩ := List.exists_cons_of_ne_nil hno
          rw [MissionDefinition.requireNextCycle, rejectIf_ok, Bool.or_eq_false_iff, hl] at hn
          rw [hl] at hre
          have hst : c.status = .ready := Option.some.inj hre
          simp [hst, MissionCheckpointStatus.isTerminal] at hn
        · simp [hn, hr]

end Mission

end Hartevo
