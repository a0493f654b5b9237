import Hartevo.Mission.Validity

/-!
# Stage and active checkpoint

The stage of a Catalog Mission and the status of its active checkpoint tell the same story: both are
running, verifying, blocked, or waiting for the user or an approval, and either both have a block or
none has.  Most commands write the two together.

Some do not.  A dispatch, a recovery from the durable ledger, and a decision that leaves another
effect to be decided set the stage and leave the checkpoint alone; a receipt, an uncertain effect, a
verification and a continuation clear the block of the checkpoint and leave the one of the Mission;
and a checkpoint begins without a look at the block of the Mission.  `KeepsPace` says for each of
them when the two agree afterwards, and `coherent_iff` that it is exactly then.
-/

namespace Hartevo

open Command List

variable {status : MissionCheckpointStatus} {stage : MissionStage}
  {block checkpointBlock : Option MissionBlock} {now : DateTime}

/-! ## The only open checkpoint -/

/-- No two checkpoints are open. -/
def AtMostOneOpen (checkpoints : List MissionCheckpoint) : Prop :=
  checkpoints.Pairwise fun c later => c.status.isOpen = false ∨ later.status.isOpen = false

/-- The checkpoint has a block exactly when it waits for something. -/
def MissionCheckpoint.BlockFits (c : MissionCheckpoint) : Prop :=
  c.status.isWaiting = c.block.isSome

variable {c c' : MissionCheckpoint} {before after : List MissionCheckpoint}

lemma AtMostOneOpen.around (h : AtMostOneOpen (before ++ c :: after))
    (ho : c.status.isOpen = true) :
    (∀ known ∈ before, known.status.isOpen = false) ∧
      ∀ known ∈ after, known.status.isOpen = false :=
  pairwise_or_around h (by simp [ho]) (by simp [ho])

/-- Without an active checkpoint, at most one is open if at most one is ready. -/
lemma atMostOneOpen_of_countP {l : List MissionCheckpoint}
    (hr : l.countP (·.status == .ready) ≤ 1) (ha : ∀ c ∈ l, c.status.isActive = false) :
    AtMostOneOpen l := by
  induction l with
  | nil => exact List.Pairwise.nil
  | cons c rest ih =>
    obtain ⟨hc, ha⟩ := forall_mem_cons.mp ha
    rw [countP_cons] at hr
    refine pairwise_cons.mpr ⟨fun known hk => ?_, ih (by omega) ha⟩
    by_cases hs : c.status = .ready
    · have hz : rest.countP (·.status == .ready) = 0 := by simpa [hs] using hr
      right
      simpa [MissionCheckpointStatus.isOpen, ha known hk] using countP_eq_zero.mp hz known hk
    · left
      simp [MissionCheckpointStatus.isOpen, hs, hc]

lemma MissionCheckpoint.BlockFits.move (h : c.BlockFits) (hm : c.Move c') : c'.BlockFits := by
  unfold MissionCheckpoint.BlockFits at h ⊢
  cases hm with
  | first hs | verifying hs => rw [hs] at h; exact h
  | begun => rfl
  | entered _ _ hb => exact hb

lemma isActive_of_not_isOpen (h : status.isOpen = false) : status.isActive = false := by
  rw [MissionCheckpointStatus.isOpen, Bool.or_eq_false_iff] at h
  exact h.2

namespace MissionDefinition

variable {d d' d₁ : MissionDefinition}

/-- At most one checkpoint is open, and blocks fit. -/
structure Settled (definition : MissionDefinition) : Prop where
  single : AtMostOneOpen definition.checkpoints
  blocks : ∀ c ∈ definition.checkpoints, c.BlockFits

lemma Rewrites.activeCheckpoint_eq (h : d.Rewrites c c' d')
    (hs : AtMostOneOpen d.checkpoints) (ho : c.status.isOpen = true) :
    d'.activeCheckpoint = if c'.status.isActive then some c' else none := by
  obtain ⟨before, after, hsp, rfl⟩ := h
  rw [hsp] at hs
  obtain ⟨hb, ha⟩ := hs.around ho
  have hf : before.find? (·.status.isActive) = none := find?_eq_none.mpr fun known hk => by
      simp [isActive_of_not_isOpen (hb known hk)]
  have hr : after.find? (·.status.isActive) = none := find?_eq_none.mpr fun known hk => by
      simp [isActive_of_not_isOpen (ha known hk)]
  rw [activeCheckpoint, find?_append, hf, Option.none_or, find?_cons, hr]
  cases c'.status.isActive <;> rfl

lemma Settled.rewrites (h : d.Settled) (hrw : d.Rewrites c c' d')
    (ho : c.status.isOpen = true) (hf : c'.BlockFits) : d'.Settled := by
  refine ⟨?_, hrw.forall h.blocks hf⟩
  have hs := h.single
  obtain ⟨before, after, hsp, rfl⟩ := hrw
  rw [hsp] at hs
  obtain ⟨hb, ha⟩ := hs.around ho
  exact pairwise_or_of_around hb ha

lemma settled_renew (d : MissionDefinition) (cyc : ℕ) : (d.renew cyc).Settled := by
  refine ⟨?_, fun c hc => ?_⟩
  · unfold renew
    cases hl : d.checkpoints with
    | nil => exact List.Pairwise.nil
    | cons first rest =>
      refine pairwise_or_of_around (forall_mem_nil _) fun known hk => ?_
      obtain ⟨old, -, rfl⟩ := mem_map.mp hk
      rfl
  · obtain ⟨old, -, status, hs, rfl⟩ := mem_renew hc
    rcases hs with rfl | rfl <;> rfl

lemma Settled.completed {cpl : MissionCheckpointCompletion}
    (h : d.Settled) (hrw : d.Rewrites c (c.complete cpl) d₁)
    (ho : c.status.isOpen = true) (ha : d₁.Advances d' stage) :
    d'.Settled ∧ ∀ known ∈ d'.checkpoints, known.status.isActive = false := by
  have hf := h.rewrites hrw ho rfl
  have hc : ∀ known ∈ d₁.checkpoints, known.status.isOpen = false := by
    have hsi := h.single
    obtain ⟨before, after, hs, rfl⟩ := hrw
    rw [hs] at hsi
    obtain ⟨hb, haf⟩ := hsi.around ho
    rw [forall_mem_append, forall_mem_cons]
    exact ⟨hb, rfl, haf⟩
  have hi : ∀ known ∈ d₁.checkpoints, known.status.isActive = false :=
    fun known hk => isActive_of_not_isOpen (hc known hk)
  obtain ⟨-, rfl | ⟨next, -, hp, -, hn⟩⟩ := ha.cases
  · exact ⟨hf, hi⟩
  · have hfi : next.makeReady.BlockFits := by
      have hold := hf.blocks next hn.mem
      rw [MissionCheckpoint.BlockFits, hp] at hold
      exact hold
    refine ⟨⟨?_, hn.forall hf.blocks hfi⟩, hn.forall hi rfl⟩
    obtain ⟨before, after, hs, rfl⟩ := hn
    rw [hs, forall_mem_append, forall_mem_cons] at hc
    exact pairwise_or_of_around hc.1 hc.2.2

end MissionDefinition

/-! ## Stages and blocks that go with a checkpoint -/

def MissionStage.checkpointStatus : MissionStage → Option MissionCheckpointStatus
  | .running => some .running
  | .verifying => some .verifying
  | .blocked => some .blocked
  | .waitingUser => some .waitingUser
  | .waitingApproval => some .waitingApproval
  | _ => none

lemma checkpointStatus_of_checkpointStatusForMissionStage
    (h : checkpointStatusForMissionStage stage = .ok status) :
    stage.checkpointStatus = some status := by
  cases stage <;> cases h <;> rfl

lemma isTerminal_of_checkpointStatus (h : stage.checkpointStatus = some status) :
    stage.isTerminal = false := by
  cases stage <;> first | rfl | cases h

namespace Mission

variable {enc : MissionEncoding} {m : Mission} {d d' : MissionDefinition} {cmd : MissionCommand}
  {p : Progress}

/-- The stage and the block of the Mission go with the active checkpoint. -/
def Coherent (m : Mission) : Prop :=
  ∀ definition c, m.definition = some definition → definition.activeCheckpoint = some c →
    m.stage.isTerminal = false →
      m.stage.checkpointStatus = some c.status ∧ m.block.isSome = c.block.isSome

def Progress.Coherent (p : Progress) : Prop :=
  ∀ c, p.definition.activeCheckpoint = some c → p.stage.isTerminal = false →
    p.stage.checkpointStatus = some c.status ∧ p.block.isSome = c.block.isSome

lemma coherent_iff_of_progress (h : m.progress = some p) : m.Coherent ↔ p.Coherent := by
  obtain ⟨hdef, hs, hb, -⟩ := progress_eq_some.mp h
  rw [Coherent, Progress.Coherent, hs, hb]
  constructor
  · exact fun hall c hact => hall p.definition c hdef hact
  · rintro hall d c hso hact
    obtain rfl := Option.mem_unique hdef hso
    exact hall c hact

lemma Progress.coherent_of_none (h : p.definition.activeCheckpoint = none) : p.Coherent := by
  intro c hact
  rw [h] at hact
  cases hact

lemma Progress.coherent_iff_of_some (h : p.definition.activeCheckpoint = some c)
    (ho : p.stage.isTerminal = false) :
    p.Coherent ↔ p.stage.checkpointStatus = some c.status ∧ p.block.isSome = c.block.isSome := by
  constructor
  · exact fun hall => hall c h ho
  · rintro hf known hk -
    obtain rfl := Option.mem_unique h hk
    exact hf

/-! ## When a command keeps them together -/

def HasStatus (m : Mission) (effectId : EffectId) (status : EffectStatus) : Prop :=
  ∃ e, m.effects.find? (·.id == effectId) = some e ∧ e.status = status

/-- The active checkpoint, if there is one, has the given status, and a block or none. -/
def ActiveIs (m : Mission) (status : MissionCheckpointStatus) (blocked : Bool) : Prop :=
  ∀ definition c, m.definition = some definition → definition.activeCheckpoint = some c →
    c.status = status ∧ c.block.isSome = blocked

/-- The command finds the Mission in a state from which it moves the stage and the active checkpoint
together. -/
def KeepsPace (m : Mission) : MissionCommand → Prop
  | .beginCheckpoint .. | .beginCheckpointWithTask .. | .recordReceipt .. | .markEffectUncertain ..
  | .continueAfterVerifiedEffect .. => m.block = none
  | .recordVerification effectId verification =>
    m.verificationFails effectId verification = true ∨ m.block = none
  | .approveEffect effectId _ | .cancelEffect effectId _ =>
    m.othersProposed effectId = true → m.ActiveIs .waitingApproval m.block.isSome
  | .beginEffect .. => m.ActiveIs .running m.block.isSome
  | .reconcileDurableReceipt effectId .. =>
    m.HasStatus effectId .receiptRecorded ∨ m.ActiveIs .verifying m.block.isSome
  | .reconcileDurableProviderState effectId durableState _ _ =>
    m.HasStatus effectId durableState.target ∨
      if durableState = .uncertain then m.ActiveIs .verifying m.block.isSome
      else m.ActiveIs .blocked true
  | _ => True

/-- The status that a recovery gives to its effect. -/
def recoveredStatus : MissionCommand → Option (EffectId × EffectStatus)
  | .reconcileDurableReceipt effectId .. => some (effectId, .receiptRecorded)
  | .reconcileDurableProviderState effectId durableState .. => some (effectId, durableState.target)
  | _ => none

/-- A recovery writes no effect exactly when the effect has the status already. -/
lemma Recovers.hasStatus_iff {found : Option Effect} {eid : EffectId} {st : EffectStatus}
    (h : m.Recovers enc found cmd)
    (hs : recoveredStatus cmd = some (eid, st)) : m.HasStatus eid st ↔ found = none := by
  have hf : ∀ {e : Effect} {written : Effect}, m.effect eid = .ok e →
      (if e.status == st then none else some written) = found →
      (m.HasStatus eid st ↔ found = none) := by
    rintro e written he rfl
    have hfi : m.effects.find? (·.id == eid) = some e := okOr_ok.mp he
    simp [HasStatus, hfi]
  cases cmd with
  | reconcileDurableReceipt =>
    cases hs
    simp only [Recovers, checkReconcileDurableReceipt, bind_ok] at h
    obtain ⟨-, -, e, he, -, -, -, -, -, -, -, -, -, -, hres⟩ := h
    exact hf he (Except.ok.inj hres)
  | reconcileDurableProviderState =>
    cases hs
    simp only [Recovers, checkReconcileDurableProviderState, bind_ok] at h
    obtain ⟨-, -, e, he, -, -, -, -, -, -, hres⟩ := h
    exact hf he (Except.ok.inj hres)
  | _ => cases hs

/-- A command after which the active checkpoint follows. -/
lemma Follows.keepsPace_iff (h : m.Follows cmd status checkpointBlock stage block) :
    stage.checkpointStatus = some status ∧
      (block.isSome = checkpointBlock.isSome ↔ m.KeepsPace cmd) := by
  cases h with
  | @decided cmd eid hcmd hl =>
    refine ⟨rfl, iff_of_true rfl ?_⟩
    cases cmd with
    | approveEffect | cancelEffect =>
      cases hcmd
      intro ho
      rw [hl] at ho
      cases ho
    | _ => cases hcmd
  | waits hs =>
    exact ⟨checkpointStatus_of_checkpointStatusForMissionStage hs, iff_of_true rfl trivial⟩
  | verified hf | rejected hf => simp [KeepsPace, MissionStage.checkpointStatus, hf]
  | proposed | failed | resumed => exact ⟨rfl, iff_of_true rfl trivial⟩
  | received | uncertain | continued => simp [KeepsPace, MissionStage.checkpointStatus]

/-- A command that leaves the checkpoints alone. -/
lemma Detaches.keepsPace_iff (h : m.Detaches enc cmd stage block) :
    ∃ status, stage.checkpointStatus = some status ∧
      (m.ActiveIs status block.isSome ↔ m.KeepsPace cmd) := by
  cases h with
  | @decided cmd eid hcmd ho =>
    refine ⟨.waitingApproval, rfl, ?_⟩
    cases cmd with
    | approveEffect | cancelEffect =>
      cases hcmd
      exact (imp_iff_right ho).symm
    | _ => cases hcmd
  | begun => exact ⟨.running, rfl, Iff.rfl⟩
  | received hr =>
    have hnew := (hr.hasStatus_iff rfl).not.mpr nofun
    exact ⟨.verifying, rfl, (or_iff_right hnew).symm⟩
  | @uncertain eid durableState startedAt recordedAt e' hb hr =>
    have hnew := (hr.hasStatus_iff rfl).not.mpr nofun
    have hs : durableState = .uncertain := by
      cases durableState <;> first | rfl | cases hb
    refine ⟨.verifying, rfl, ?_⟩
    rw [KeepsPace, or_iff_right hnew, if_pos hs]
  | @settled eid durableState startedAt recordedAt reason e' hb hr =>
    have hnew := (hr.hasStatus_iff rfl).not.mpr nofun
    have hs : durableState ≠ .uncertain := by
      rintro rfl
      cases hb
    refine ⟨.blocked, rfl, ?_⟩
    rw [KeepsPace, or_iff_right hnew, if_neg hs]
    rfl

/-! ## One command -/

lemma activeCheckpoint_eq_none (h : ∀ c ∈ d.checkpoints, c.status.isActive = false) :
    d.activeCheckpoint = none :=
  find?_eq_none.mpr fun c hc => by simp [h c hc]

/-- A successful command leaves at most one open checkpoint. -/
lemma settled_step (hs : d.Settled) (hdef : m.definition = some d)
    (h : CheckpointStep enc m d cmd p) : p.definition.Settled := by
  cases h with
  | kept _ hsa => rwa [hsa]
  | moved _ hm hrw =>
    exact hs.rewrites hrw hm.isOpen ((hs.blocks _ hrw.mem).move hm)
  | renewed _ _ _ _ hm hrw =>
    have hr := d.settled_renew
    exact (hr _).rewrites hrw hm.isOpen (((hr _).blocks _ hrw.mem).move hm)
  | completed _ hcpl =>
    obtain ⟨route, c, definition₁, -, -, hst, -, hrw, ha⟩ := hcpl.rewrites hdef
    exact (hs.completed hrw (by rw [hst]; rfl) ha).1
  | stopped _ hcpl hst he _ hsk =>
    obtain ⟨route, c, definition₁, -, -, hv, -, hrw, ha⟩ := hcpl.rewrites hdef
    have hf := (hs.completed hrw (by rw [hv]; rfl) ha).1
    refine hf.rewrites hsk (by rw [hst]; rfl) ?_
    rw [MissionCheckpoint.BlockFits, MissionCheckpoint.skip, he.2]
    rfl

lemma coherent_of_startFirstCheckpoint (hs : d.Settled)
    (hst : d.startFirstCheckpoint now = .ok d') (rev : ℕ) :
    Progress.Coherent ⟨d', .running, none, rev⟩ := by
  obtain ⟨c, c', hm, hre, hr, hb, hrw⟩ := MissionDefinition.rewrites_of_startFirstCheckpoint hst
  have ha := hrw.activeCheckpoint_eq hs.single hm.isOpen
  rw [if_pos hm.isActive] at ha
  have hf := hs.blocks c hrw.mem
  rw [MissionCheckpoint.BlockFits, hre] at hf
  refine (Progress.coherent_iff_of_some ha rfl).mpr ⟨?_, ?_⟩
  · rw [hr]
    rfl
  · rw [hb, ← hf]
    rfl

/-- The open checkpoint is rewritten, and active afterwards. -/
lemma coherent_rewrites_iff (hs : d.Settled)
    (hrw : d.Rewrites c c' p.definition) (ho : c.status.isOpen = true)
    (hact : c'.status.isActive = true) (hst : p.stage.isTerminal = false) :
    p.Coherent ↔ p.stage.checkpointStatus = some c'.status ∧ p.block.isSome = c'.block.isSome := by
  have hnew := hrw.activeCheckpoint_eq hs.single ho
  rw [if_pos hact] at hnew
  exact Progress.coherent_iff_of_some hnew hst

/-- A command keeps the stage and the active checkpoint together exactly when it keeps pace. -/
lemma coherent_step_iff (hse : d.Settled) (hdef : m.definition = some d) (hco : m.Coherent)
    (h : ProgressStep enc m d cmd p) : p.Coherent ↔ m.KeepsPace cmd := by
  have hsa : ∀ revision, Progress.Coherent ⟨d, m.stage, m.block, revision⟩ :=
    fun _ c ha => hco d c hdef ha
  have he : ∀ {p : Progress}, p.stage.isTerminal = true → p.Coherent := by
    intro p ht c _ ho
    rw [ht] at ho
    cases ho
  cases h with
  | recorded =>
    refine iff_of_true (hsa _) ?_
    cases cmd <;> trivial
  | replayed hre =>
    refine iff_of_true (hsa _) ?_
    cases cmd with
    | reconcileDurableReceipt | reconcileDurableProviderState =>
      exact .inl ((hre.hasStatus_iff rfl).mpr rfl)
    | _ => exact hre.elim
  | researchStarted _ _ hsta =>
    exact iff_of_true (coherent_of_startFirstCheckpoint hse hsta _) trivial
  | cycleStarted _ _ _ _ hsta =>
    have hren := d.settled_renew
    exact iff_of_true (coherent_of_startFirstCheckpoint (hren _) hsta _) trivial
  | checkpointBegun hcmd hch =>
    obtain ⟨-, hf, hrea⟩ := checkBeginCheckpointTransition_ok hch
    have hp : m.KeepsPace cmd ↔ m.block = none := by
      rcases hcmd with rfl | ⟨task, rfl⟩ <;> rfl
    rw [hp]
    refine Iff.trans (coherent_rewrites_iff hse (MissionDefinition.rewrites_write
      (hf.findCheckpoint_eq hdef) rfl) (by rw [hrea]; rfl) rfl rfl) ?_
    simp [MissionStage.checkpointStatus]
  | @verificationBegun id now c revision hch =>
    obtain ⟨hs, hf, hr⟩ := checkBeginCheckpointVerification_ok hch
    have hfo := hf.findCheckpoint_eq hdef
    have ho : c.status.isOpen = true := by rw [hr]; rfl
    refine iff_of_true (Iff.mpr (coherent_rewrites_iff hse
      (MissionDefinition.rewrites_write hfo rfl) ho rfl rfl) ⟨rfl, ?_⟩) trivial
    -- The checkpoint is the active one already, and it keeps its block.
    obtain ⟨before, after, hsp, -⟩ := exists_split_of_find? hfo
    have hsel : d.Rewrites c c d := ⟨before, after, hsp, by rw [← hsp]⟩
    have ha := hsel.activeCheckpoint_eq hse.single ho
    rw [if_pos (by rw [hr]; rfl)] at ha
    exact (hco d c hdef ha (by rw [hs]; rfl)).2
  | checkpointBlocked hch =>
    obtain ⟨hf, hst, hw⟩ := checkBlockCheckpoint_ok hch
    obtain ⟨ha, -, -⟩ := isActive_of_checkpointStatusForMissionStage hw
    have hs := checkpointStatus_of_checkpointStatusForMissionStage hw
    refine iff_of_true (Iff.mpr (coherent_rewrites_iff hse (MissionDefinition.rewrites_write
      (hf.findCheckpoint_eq hdef) rfl) ?_ ha
      (isTerminal_of_checkpointStatus hs)) ⟨hs, rfl⟩) trivial
    rcases hst with h | h <;> rw [h] <;> rfl
  | checkpointCompleted hcmd hcpl =>
    obtain ⟨route, c, definition₁, -, -, hv, -, hrw, had⟩ := hcpl.rewrites hdef
    have hi := (hse.completed hrw (by rw [hv]; rfl) had).2
    refine iff_of_true (Progress.coherent_of_none (activeCheckpoint_eq_none hi)) ?_
    rcases hcmd with rfl | ⟨-, resolution, -, rfl⟩ <;> trivial
  | terminalCompleted =>
    refine iff_of_true (he rfl) ?_
    cases cmd <;> trivial
  | contractStopped => exact iff_of_true (he rfl) trivial
  | followed hfol hm =>
    obtain ⟨hs, hp⟩ := hfol.keepsPace_iff
    obtain ⟨-, ha, -, -⟩ := hfol.shape
    obtain ⟨c, revision, hfo, -, rfl⟩ := hm
    have ho : c.status.isOpen = true := by
      rw [MissionCheckpointStatus.isOpen, find?_some hfo, Bool.or_true]
    refine Iff.trans (coherent_rewrites_iff hse (MissionDefinition.rewrites_of_find? hfo _)
      ho ha (isTerminal_of_checkpointStatus hs)) ?_
    exact (and_iff_right hs).trans hp
  | detached hd =>
    obtain ⟨status, hs, hp⟩ := hd.keepsPace_iff
    rw [← hp]
    constructor
    · rintro hfi known c hk ha
      obtain rfl := Option.mem_unique hdef hk
      obtain ⟨hso, hb⟩ := hfi c ha (isTerminal_of_checkpointStatus hs)
      exact ⟨Option.mem_unique hso hs, hb.symm⟩
    · intro hfi c ha _
      obtain ⟨hst, hb⟩ := hfi d c hdef ha
      exact ⟨hs.trans (congrArg some hst.symm), hb.symm⟩
  | outcomeRecorded hch =>
    refine iff_of_true (Progress.coherent_of_none (activeCheckpoint_eq_none fun c hc => ?_)) trivial
    have ht := (checkRecordOutcome_ok hch).2.2 d hdef c hc
    cases hst : c.status <;> first | rfl | (rw [hst] at ht; cases ht)
  | terminated => exact iff_of_true (he (by cases ‹MissionTerminalDisposition› <;> rfl)) trivial

/-! ## Runs -/

/-- A new Catalog Mission has no stage for an active checkpoint, so that it starts without one if it
is coherent. -/
lemma settled_of_compileCatalog {tid : TenantId} {pid : ProjectId} {ct : OperatingContract}
    {id : MissionId} {title : String}
    (hs : compileCatalog enc tid id pid title ct d now = .ok m) (hco : m.Coherent) :
    m.definition = some d ∧ d.Settled := by
  obtain ⟨hv, -, rfl⟩ := compileCatalog_ok hs
  obtain ⟨-, -, hh, hr, -⟩ := MissionDefinition.validate_iff.mp hv
  have hn : d.activeCheckpoint = none := by
    cases ha : d.activeCheckpoint with
    | none => rfl
    | some c => cases (hco d c rfl ha rfl).1
  refine ⟨rfl, atMostOneOpen_of_countP hr fun c hc => ?_, fun c hc => (hh c hc).block⟩
  simpa using find?_eq_none.mp hn c hc

/-- In a run of successful commands of a Catalog Mission, the stage and the active checkpoint go
together in every state exactly when they do at first and every command keeps pace. -/
theorem coherent_iff (enc : MissionEncoding) {tenantId : TenantId} {id : MissionId}
    {projectId : ProjectId} {title : String} {contract : OperatingContract}
    {definition : MissionDefinition} {now : DateTime} {m : Mission}
    (hstart : Mission.compileCatalog enc tenantId id projectId title contract definition now =
      .ok m) {commands : List MissionCommand}
    (hok : ∀ e ∈ trace (Mission.step enc) m commands, e.output = .ok ()) :
    (∀ earlier later, commands = earlier ++ later →
        (run (Mission.step enc) m earlier).Coherent) ↔
      m.Coherent ∧ ∀ e ∈ trace (Mission.step enc) m commands, e.before.KeepsPace e.input := by
  have hiff := fun hi => states_iff (Mission.step enc)
    (R := fun m => ∃ definition, m.definition = some definition ∧ definition.Settled)
    (I := Coherent) (G := fun e => e.output = .ok ()) (C := KeepsPace) ?_ ?_
    ⟨definition, settled_of_compileCatalog hstart hi⟩ hi hok
  · constructor
    · intro hall
      have hi : m.Coherent := hall [] commands rfl
      exact ⟨hi, (hiff hi).mp hall⟩
    · rintro ⟨hi, hpa⟩
      exact (hiff hi).mpr hpa
  · rintro m command ⟨definition, hd, hs⟩ hok
    obtain ⟨p, hstep, hp⟩ := checkpoint_step hd (Prod.ext hok rfl)
    exact ⟨p.definition, (progress_eq_some.mp hp).1, settled_step hs hd hstep⟩
  · rintro m command ⟨definition, hd, hs⟩ hok hc
    obtain ⟨p, hstep, hp⟩ := progress_step hd (Prod.ext hok rfl)
    rw [coherent_iff_of_progress hp]
    exact coherent_step_iff hs hd hc hstep

/-- The completed run, all of whose commands succeed. -/
theorem coherent_iff_completedRun :
    Mission.compileCatalog .sample "tenant" "mission" "project" "Sample" .sample .sample 0 =
        .ok catalogSample ∧
      (∀ e ∈ trace (Mission.step .sample) catalogSample completedRun, e.output = .ok ()) ∧
      ((∀ earlier later, completedRun = earlier ++ later →
          (run (Mission.step .sample) catalogSample earlier).Coherent) ↔
        catalogSample.Coherent ∧
          ∀ e ∈ trace (Mission.step .sample) catalogSample completedRun,
            e.before.KeepsPace e.input) := by
  have hs : Mission.compileCatalog .sample "tenant" "mission" "project" "Sample" .sample
      .sample 0 = .ok catalogSample := rfl
  have hok : ∀ e ∈ trace (Mission.step .sample) catalogSample completedRun, e.output = .ok () := by
    decide +kernel
  exact ⟨hs, hok, coherent_iff .sample hs hok⟩

/-- A run that dispatches an approved effect while another one waits for its approval. -/
def dispatchedRun : List MissionCommand :=
  [.startResearch [] 1, .proposeEffect .sample 2, .approveEffect "effect" .sample,
    .proposeEffect { EffectSpec.sample with id := "second", idempotencyKey := "second" } 3,
    .beginEffect "effect" 4]

/-- The Mission is running, and its active checkpoint waits for an approval. -/
theorem running_with_waitingApproval :
    Mission.compileCatalog .sample "tenant" "mission" "project" "Sample" .sample .sample 0 =
        .ok catalogSample ∧
      (∀ e ∈ trace (Mission.step .sample) catalogSample dispatchedRun, e.output = .ok ()) ∧
      (run (Mission.step .sample) catalogSample dispatchedRun).stage = .running ∧
      ((run (Mission.step .sample) catalogSample dispatchedRun).definition.bind
        (·.activeCheckpoint)).map (·.status) = some .waitingApproval :=
  ⟨rfl, by decide +kernel, by decide +kernel, by decide +kernel⟩

end Mission

end Hartevo
