import Hartevo.Mission.Progress

/-!
# What a command does to the checkpoints

A command writes the checkpoints of a Catalog Mission one at a time and in their place.  An open
checkpoint moves: it starts, goes to its verification, or enters one of the active statuses.  A
completion writes two checkpoints, the completed one and the one that becomes ready, and a stopped
review skips the latter.  A new cycle renews all of them.  `CheckpointStep` lists these cases, and
`checkpointStep_of_progressStep` shows that every successful command is one of them.

What no command writes is the `frame` of a checkpoint and of a definition: ids, dependencies, routes
and the fields of the manifest.
-/

namespace Hartevo

open Command List

variable {stage : MissionStage} {status : MissionCheckpointStatus}
  {block checkpointBlock : Option MissionBlock} {id : String} {cpl : MissionCheckpointCompletion}
  {c c' : MissionCheckpoint} {d d' : MissionDefinition}

def MissionCheckpointStatus.isOpen (status : MissionCheckpointStatus) : Bool :=
  status == .ready || status.isActive

namespace MissionCheckpoint

/-- What no command writes in a checkpoint. -/
def frame (c : MissionCheckpoint) : MissionCheckpoint :=
  { c with
    status := .pending
    revision := 0
    attempt := 0
    startedAt := none
    block := none
    completion := none }

def complete (c : MissionCheckpoint) (completion : MissionCheckpointCompletion) :
    MissionCheckpoint :=
  { c with
    status := .completed
    completion := some completion
    block := none
    revision := c.revision + 1 }

/-- The checkpoint when its turn has come. -/
def makeReady (c : MissionCheckpoint) : MissionCheckpoint :=
  { c with status := .ready, revision := c.revision + 1 }

/-- The checkpoint when it is not needed. -/
def skip (c : MissionCheckpoint) : MissionCheckpoint :=
  { c with status := .skipped, revision := c.revision + 1 }

inductive Move (c : MissionCheckpoint) : MissionCheckpoint → Prop
  | first {now : DateTime} (hstatus : c.status = .ready) :
    Move c { c with
      status := .running
      attempt := 1
      startedAt := some now
      revision := (c.revision + 1) % 2 ^ 64 }
  | begun {now : DateTime} {attempt : ℕ} (hstatus : c.status = .ready) (hattempt : attempt ≠ 0)
    (hrevision : c.revision + 1 < 2 ^ 64) :
    Move c { c with
      status := .running
      attempt
      startedAt := some now
      block := none
      revision := c.revision + 1 }
  | verifying (hstatus : c.status = .running) (hrevision : c.revision + 1 < 2 ^ 64) :
    Move c { c with status := .verifying, revision := c.revision + 1 }
  | entered {status : MissionCheckpointStatus} {block : Option MissionBlock}
    (hactive : c.status.isActive = true) (hstatus : status.isActive = true)
    (hblock : status.isWaiting = block.isSome) (hrevision : c.revision + 1 < 2 ^ 64) :
    Move c { c with status, block, revision := c.revision + 1 }

lemma Move.frame_eq (h : c.Move c') : c'.frame = c.frame := by
  cases h <;> rfl

lemma Move.isOpen (h : c.Move c') : c.status.isOpen = true := by
  cases h with
  | first hs | begun hs | verifying hs => rw [hs]; rfl
  | entered hact => rw [MissionCheckpointStatus.isOpen, hact, Bool.or_true]

lemma Move.isActive (h : c.Move c') : c'.status.isActive = true := by
  cases h with
  | entered _ hs => exact hs
  | _ => rfl

lemma Move.revision_le (h : c.Move c') : c'.revision ≤ c.revision + 1 := by
  cases h with
  | first => exact Nat.mod_le _ _
  | _ => exact le_rfl

end MissionCheckpoint

namespace MissionDefinition

variable {known : MissionCheckpoint}

/-- What no command writes in a definition. -/
def frame (self : MissionDefinition) : MissionDefinition :=
  { self with checkpoints := self.checkpoints.map (·.frame), cycle := 0 }

def Rewrites (self : MissionDefinition) (c c' : MissionCheckpoint)
    (definition : MissionDefinition) : Prop :=
  ∃ before after, self.checkpoints = before ++ c :: after ∧
    definition = { self with checkpoints := before ++ c' :: after }

lemma rewrites_of_find? {p : MissionCheckpoint → Bool}
    (h : d.checkpoints.find? p = some c) (c' : MissionCheckpoint) :
    d.Rewrites c c'
      { d with checkpoints := replaceFirst p c' d.checkpoints } := by
  obtain ⟨before, after, hs, -, hw⟩ := exists_split_of_find? h
  exact ⟨before, after, hs, by rw [hw c']⟩

lemma rewrites_write (h : d.findCheckpoint c.id = some c) (hid : c'.id = c.id) :
    d.Rewrites c c' (d.write c') := by
  rw [write, hid]
  exact rewrites_of_find? h c'

section

variable (h : d.Rewrites c c' d')

include h

lemma Rewrites.frame_eq (hf : c'.frame = c.frame) : d'.frame = d.frame := by
  obtain ⟨before, after, hs, rfl⟩ := h
  simp only [frame, hs, map_append, map_cons, hf]

lemma Rewrites.cycle_eq : d'.cycle = d.cycle := by
  obtain ⟨before, after, -, rfl⟩ := h
  rfl

lemma Rewrites.mem : c ∈ d.checkpoints := by
  obtain ⟨before, after, hs, -⟩ := h
  rw [hs]
  exact mem_append_right before mem_cons_self

lemma Rewrites.new_mem : c' ∈ d'.checkpoints := by
  obtain ⟨before, after, -, rfl⟩ := h
  exact mem_append_right before mem_cons_self

lemma Rewrites.mem_of_ne (hk : known ∈ d.checkpoints) (hne : known ≠ c) :
    known ∈ d'.checkpoints := by
  obtain ⟨before, after, hs, rfl⟩ := h
  rw [hs, mem_append, mem_cons] at hk
  rw [mem_append, mem_cons]
  exact hk.imp_right fun h => Or.inr (h.resolve_left hne)

lemma Rewrites.forall {P : MissionCheckpoint → Prop}
    (hall : ∀ known ∈ d.checkpoints, P known) (hnew : P c') :
    ∀ known ∈ d'.checkpoints, P known := by
  obtain ⟨before, after, hs, rfl⟩ := h
  rw [hs, forall_mem_append, forall_mem_cons] at hall
  rw [forall_mem_append, forall_mem_cons]
  exact ⟨hall.1, hnew, hall.2.2⟩

end

lemma frame_renew (d : MissionDefinition) (cyc : ℕ) : (d.renew cyc).frame = d.frame := by
  have hc : (renewCheckpoints d.checkpoints).map (·.frame) = d.checkpoints.map (·.frame) := by
    cases hl : d.checkpoints with
    | nil => rfl
    | cons c rest =>
      rw [renewCheckpoints, map_cons, map_cons, map_map]
      rfl
  simp only [frame, renew, hc]

lemma mem_renew {cyc : ℕ} (hc : c ∈ (d.renew cyc).checkpoints) :
    ∃ old ∈ d.checkpoints, ∃ status, (status = .ready ∨ status = .pending) ∧
      c = renewCheckpoint status old := by
  rw [renew] at hc
  cases hl : d.checkpoints with
  | nil =>
    rw [hl] at hc
    exact absurd hc not_mem_nil
  | cons first rest =>
    rw [hl] at hc
    rcases mem_cons.mp hc with rfl | hc
    · exact ⟨first, mem_cons_self, .ready, Or.inl rfl, rfl⟩
    · obtain ⟨old, hold, rfl⟩ := mem_map.mp hc
      exact ⟨old, mem_cons_of_mem first hold, .pending, Or.inr rfl, rfl⟩

lemma rewrites_of_startFirstCheckpoint {now : DateTime} (h : d.startFirstCheckpoint now = .ok d') :
    ∃ c c', c.Move c' ∧ c.status = .ready ∧ c'.status = .running ∧ c'.block = c.block ∧
      d.Rewrites c c' d' := by
  unfold startFirstCheckpoint at h
  split at h
  · cases h
  · next c rest hc =>
    simp only [check_ok, passed] at h
    obtain ⟨⟨⟨hs, -⟩, -⟩, hres⟩ := h
    cases hres
    exact ⟨c, _, .first hs, hs, rfl, rfl, [], rest, hc, rfl⟩

/-- After a completion nothing more is written, or the next checkpoint becomes ready. -/
lemma Advances.cases (h : d.Advances d' stage) : stage ≠ .scheduled ∧ (d' = d ∨
      ∃ next, d.checkpoints.find? (Mission.isNext d.completedIds) = some next ∧
        next.status = .pending ∧ next.revision + 1 < 2 ^ 64 ∧
        d.Rewrites next next.makeReady d') := by
  cases h with
  | last => exact ⟨by decide, Or.inl rfl⟩
  | @next next rev hn hrev =>
    refine ⟨by decide, Or.inr ⟨next, hn, ?_⟩⟩
    obtain ⟨hb, rfl⟩ := checkedAdd_eq_some.mp hrev
    have hi := find?_some hn
    rw [Mission.isNext, Bool.and_eq_true, beq_iff_eq] at hi
    exact ⟨hi.1, hb, rewrites_of_find? hn next.makeReady⟩

end MissionDefinition

namespace Mission

variable {enc : MissionEncoding} {m m' : Mission} {cmd : MissionCommand} {p : Progress}

/-! ## The cases -/

def completionOf : MissionCommand → Option (String × MissionCheckpointCompletion)
  | .completeCheckpoint id completion => some (id, completion)
  | .completeVm11NextContractResolution _ completion =>
    some ("next_contract_or_valid_terminal", completion)
  | command => typedTerminal command

/-- The revisions that a completion adds to the Mission: one, and one more for its end. -/
def completionRevisions : MissionCommand → ℕ
  | .completeCheckpoint .. => 1
  | .completeVm11NextContractResolution resolution _ =>
    if resolution.nextContractIntent == .validTerminal then 2 else 1
  | _ => 2

def Checked (m : Mission) (c : MissionCheckpoint) : Prop :=
  m.revision + 1 < 2 ^ 64 ∨ c.revision + 1 < 2 ^ 64

/-- What a successful command does to the checkpoints of a Mission. -/
inductive CheckpointStep (enc : MissionEncoding) (m : Mission)
    (definition : MissionDefinition) : MissionCommand → Progress → Prop
  | kept {command : MissionCommand} {p : Progress} (hcommand : completionOf command = none)
    (hdefinition : p.definition = definition) (hrevision : m.revision ≤ p.revision)
    (hscheduled : p.stage = .scheduled → m.stage = .scheduled ∨ m.revision < p.revision) :
    CheckpointStep enc m definition command p
  | moved {command : MissionCommand} {p : Progress} {c c' : MissionCheckpoint}
    (hcommand : completionOf command = none) (hmove : c.Move c')
    (hrewrites : definition.Rewrites c c' p.definition) (hchecked : m.Checked c)
    (hrevision : p.revision = m.revision + 1) (hstage : p.stage ≠ .scheduled) :
    CheckpointStep enc m definition command p
  | renewed {command : MissionCommand} {p : Progress} {cycle : ℕ} {c c' : MissionCheckpoint}
    (hcommand : completionOf command = none) (hscheduled : m.stage = .scheduled)
    (hnext : definition.requireNextCycle cycle = .ok ())
    (hrenew : definition.CanRenew enc cycle) (hmove : c.Move c')
    (hrewrites : (definition.renew cycle).Rewrites c c' p.definition) (hchecked : m.Checked c)
    (hrevision : p.revision = m.revision + 1) (hstage : p.stage ≠ .scheduled) :
    CheckpointStep enc m definition command p
  | completed {command : MissionCommand} {p : Progress} {id : String}
    {completion : MissionCheckpointCompletion} {stage : MissionStage}
    (hcommand : completionOf command = some (id, completion))
    (hcompletes : m.Completes enc definition id completion p.definition stage)
    (hrevision : p.revision = m.revision + completionRevisions command)
    (hstage : p.stage ≠ .scheduled) : CheckpointStep enc m definition command p
  | stopped {command : MissionCommand} {p : Progress} {id : String}
    {completion : MissionCheckpointCompletion} {definition' : MissionDefinition}
    {stage : MissionStage} {c : MissionCheckpoint}
    (hcommand : completionOf command = some (id, completion))
    (hcompletes : m.Completes enc definition id completion definition' stage)
    (hstatus : c.status = .ready) (hempty : c.completion = none ∧ c.block = none)
    (hbound : c.revision + 1 < 2 ^ 64) (hrewrites : definition'.Rewrites c c.skip p.definition)
    (hrevisions : completionRevisions command = 2) (hrevision : p.revision = m.revision + 2)
    (hstage : p.stage ≠ .scheduled) : CheckpointStep enc m definition command p

/-! ## Commands that move one checkpoint -/

lemma isActive_of_checkpointStatusForMissionStage
    (h : checkpointStatusForMissionStage stage = .ok status) :
    status.isActive = true ∧ status.isWaiting = true ∧ stage ≠ .scheduled := by
  cases stage <;> cases h <;> decide

lemma Follows.shape (h : m.Follows cmd status checkpointBlock stage block) :
    completionOf cmd = none ∧ status.isActive = true ∧
      status.isWaiting = checkpointBlock.isSome ∧ stage ≠ .scheduled := by
  cases h with
  | @decided cmd _ hcmd =>
    refine ⟨?_, rfl, rfl, by decide⟩
    cases cmd <;> first | rfl | cases hcmd
  | @waits reason stage status hst =>
    obtain ⟨hact, hw, hs⟩ := isActive_of_checkpointStatusForMissionStage hst
    exact ⟨rfl, hact, hw, hs⟩
  | _ => exact ⟨rfl, rfl, rfl, by decide⟩

lemma Detaches.shape (h : m.Detaches enc cmd stage block) :
    completionOf cmd = none ∧ stage ≠ .scheduled := by
  cases h with
  | @decided cmd _ hcmd =>
    refine ⟨?_, by decide⟩
    cases cmd <;> first | rfl | cases hcmd
  | _ => exact ⟨rfl, by decide⟩

lemma move_of_movesActive (h : d.MovesActive status block d') (hact : status.isActive = true)
    (hbl : status.isWaiting = block.isSome) :
    ∃ c c', c.Move c' ∧ c.revision + 1 < 2 ^ 64 ∧ d.Rewrites c c' d' := by
  obtain ⟨c, rev, hf, hrev, rfl⟩ := h
  obtain ⟨hb, rfl⟩ := checkedAdd_eq_some.mp hrev
  have hold := find?_some hf
  exact ⟨c, _, .entered hold hact hbl hb, hb, MissionDefinition.rewrites_of_find? hf _⟩

lemma revision_of_ensureTouchable (h : m.ensureTouchable = .ok ()) : m.revision + 1 < 2 ^ 64 := by
  rw [ensureTouchable, rejectIf_ok, Option.isNone_eq_false_iff, Option.isSome_iff_exists] at h
  obtain ⟨rev, hrev⟩ := h
  exact (checkedAdd_eq_some.mp hrev).1

/-! ## Every successful command is one of the cases -/

lemma checkpointStep_of_progressStep (hdef : m.definition = some d)
    (h : ProgressStep enc m d cmd p) : CheckpointStep enc m d cmd p := by
  cases h with
  | recorded hcmd =>
    refine .kept ?_ rfl (Nat.le_succ _) fun hsc => Or.inl hsc
    cases cmd <;> first | rfl | cases hcmd
  | replayed hr =>
    refine .kept ?_ rfl le_rfl fun hsc => Or.inl hsc
    cases cmd <;> first | rfl | exact hr.elim
  | researchStarted hs ht hsta =>
    obtain ⟨c, c', hm, -, -, -, hrw⟩ := MissionDefinition.rewrites_of_startFirstCheckpoint hsta
    exact .moved rfl hm hrw (Or.inl (revision_of_ensureTouchable ht)) rfl nofun
  | cycleStarted hs ht hne hre hsta =>
    obtain ⟨c, c', hm, -, -, -, hrw⟩ := MissionDefinition.rewrites_of_startFirstCheckpoint hsta
    exact .renewed rfl hs hne hre hm hrw (Or.inl (revision_of_ensureTouchable ht)) rfl nofun
  | @checkpointBegun _ id now c attempt revision hcmd hc hatt hrev =>
    obtain ⟨-, hf, hst⟩ := checkBeginCheckpointTransition_ok hc
    obtain ⟨-, rfl⟩ := checkedAdd_eq_some.mp hatt
    obtain ⟨hb, rfl⟩ := checkedAdd_eq_some.mp hrev
    have hn : completionOf cmd = none := by
      rcases hcmd with rfl | ⟨task, rfl⟩ <;> rfl
    refine .moved hn ?_
      (MissionDefinition.rewrites_write (hf.findCheckpoint_eq hdef) rfl) (Or.inr hb) rfl
      nofun
    exact .begun hst (Nat.succ_ne_zero _) hb
  | verificationBegun hc hrev =>
    obtain ⟨-, hf, hst⟩ := checkBeginCheckpointVerification_ok hc
    obtain ⟨hb, rfl⟩ := checkedAdd_eq_some.mp hrev
    exact .moved rfl (.verifying hst hb)
      (MissionDefinition.rewrites_write (hf.findCheckpoint_eq hdef) rfl) (Or.inr hb) rfl
      nofun
  | @checkpointBlocked id reason waitingStage c status revision hc hrev =>
    obtain ⟨hf, hst, hwa⟩ := checkBlockCheckpoint_ok hc
    obtain ⟨hb, rfl⟩ := checkedAdd_eq_some.mp hrev
    obtain ⟨hact, hw, hs⟩ := isActive_of_checkpointStatusForMissionStage hwa
    have hold : c.status.isActive = true := by
      rcases hst with h | h <;> rw [h] <;> rfl
    refine .moved rfl ?_
      (MissionDefinition.rewrites_write (hf.findCheckpoint_eq hdef) rfl) (Or.inr hb) rfl
      hs
    exact .entered hold hact hw hb
  | @checkpointCompleted _ id cpl d' stage hcmd hcpl =>
    have hs : stage ≠ .scheduled := by
      obtain ⟨route, c, revision, -, -, ha⟩ := hcpl
      exact ha.cases.1
    rcases hcmd with rfl | ⟨rfl, resolution, hi, rfl⟩
    · exact .completed rfl hcpl rfl hs
    · refine .completed rfl hcpl ?_ hs
      rw [completionRevisions, if_neg (by simpa using hi)]
  | @terminalCompleted _ id cpl d' stage hcmd hcpl =>
    refine .completed ?_ hcpl ?_ nofun
    · cases cmd <;> first | exact hcmd | cases hcmd
    · cases cmd <;> first | rfl | cases hcmd
  | contractStopped hi hcpl hfou hst he hrev =>
    obtain ⟨hb, rfl⟩ := checkedAdd_eq_some.mp hrev
    exact .stopped rfl hcpl hst he hb
      (MissionDefinition.rewrites_write hfou rfl) (by rw [completionRevisions, hi]; rfl) rfl
      nofun
  | followed hfo hmo =>
    obtain ⟨hn, hact, hbl, hs⟩ := hfo.shape
    obtain ⟨c, c', hm, hb, hrw⟩ := move_of_movesActive hmo hact hbl
    exact .moved hn hm hrw (Or.inr hb) rfl hs
  | detached hd =>
    obtain ⟨hn, hs⟩ := hd.shape
    exact .kept hn rfl (Nat.le_succ _) fun hsc => absurd hsc hs
  | outcomeRecorded | terminated =>
    exact .kept rfl rfl (Nat.le_succ _) fun _ => Or.inr (Nat.lt_succ_self _)

lemma Completes.rewrites (hdef : m.definition = some d) (h : m.Completes enc d id cpl d' stage) :
    ∃ route c d₁, m.checkCompleteCheckpointValidated enc id cpl = .ok (route, c) ∧ c.id = id ∧
      c.status = .verifying ∧ c.revision + 1 < 2 ^ 64 ∧
      d.Rewrites c (c.complete cpl) d₁ ∧ d₁.Advances d' stage := by
  obtain ⟨route, c, rev, hc, hrev, ha⟩ := h
  obtain ⟨hb, rfl⟩ := checkedAdd_eq_some.mp hrev
  obtain ⟨hf, hs⟩ := checkCompleteCheckpointValidated_ok hc
  have hrw : d.Rewrites c (c.complete cpl)
      (d.write (c.complete cpl)) :=
    MissionDefinition.rewrites_write (hf.findCheckpoint_eq hdef) rfl
  exact ⟨route, c, _, hc, hf.id_eq, hs, hb, hrw, ha⟩

/-! ## The frame -/

lemma frame_of_completes (hdef : m.definition = some d)
    (h : m.Completes enc d id cpl d' stage) : d'.frame = d.frame ∧ d'.cycle = d.cycle := by
  obtain ⟨route, c, d₁, -, -, -, -, hrw, ha⟩ := h.rewrites hdef
  have hf : d₁.frame = d.frame := hrw.frame_eq rfl
  obtain ⟨-, rfl | ⟨next, -, -, -, hn⟩⟩ := ha.cases
  · exact ⟨hf, hrw.cycle_eq⟩
  · exact ⟨(hn.frame_eq rfl).trans hf, hn.cycle_eq.trans hrw.cycle_eq⟩

lemma CheckpointStep.frame_eq (hdef : m.definition = some d)
    (h : CheckpointStep enc m d cmd p) : p.definition.frame = d.frame := by
  cases h with
  | kept _ hs => rw [hs]
  | moved _ hm hrw => exact hrw.frame_eq hm.frame_eq
  | renewed _ _ _ _ hm hrw =>
    exact (hrw.frame_eq hm.frame_eq).trans (MissionDefinition.frame_renew d _)
  | completed _ hcpl => exact (frame_of_completes hdef hcpl).1
  | stopped _ hcpl _ _ _ hrw =>
    exact (hrw.frame_eq rfl).trans (frame_of_completes hdef hcpl).1

/-- What one successful command does to the checkpoints of a Mission. -/
lemma checkpoint_step (hdef : m.definition = some d) (hok : m.step enc cmd = (.ok (), m')) :
    ∃ p, CheckpointStep enc m d cmd p ∧ m'.progress = some p := by
  obtain ⟨p, hstep, hp⟩ := progress_step hdef hok
  exact ⟨p, checkpointStep_of_progressStep hdef hstep, hp⟩

/-- A successful command keeps the frame of the definition, if there is one. -/
lemma frame_step (hok : m.step enc cmd = (.ok (), m')) :
    m'.definition.map (·.frame) = m.definition.map (·.frame) := by
  have hc := isCatalog_step enc m cmd
  rw [hok] at hc
  cases hdef : m.definition with
  | none =>
    rw [hdef] at hc
    rw [Option.isSome_eq_false_iff.mp hc |> Option.isNone_iff_eq_none.mp]
  | some d =>
    obtain ⟨p, hstep, hp⟩ := checkpoint_step hdef hok
    rw [(progress_eq_some.mp hp).1, Option.map_some, Option.map_some, hstep.frame_eq hdef]

end Mission

end Hartevo
