import Hartevo.Mission.Persistence
import Hartevo.MissionSchedule.Model

/-!
# From an outcome to the next cycle

An outcome moves a Mission to `Scheduled` when its cadence has authority for a future cycle.  The
schedule of that cycle is prepared, and its start checked, from the same contract, history and
definition, but each by its own conditions.  `Schedulable` says when they agree with the choice of
the stage; `schedule_iff` shows that it is exactly then.
-/

namespace Hartevo

open Command List

variable {contract : OperatingContract} {now t vu : DateTime} {cadence : Cadence}
  {mission : Mission} {dueAt : Option DateTime} {oc : Outcome} {tasks : List Task} {cyc : ℕ}

/-! ## Contracts -/

/-- A contract that was valid once is valid at every time of its window. -/
lemma OperatingContract.validate_iff (h : contract.validate now = .ok ()) :
    contract.validate t = .ok () ↔ contract.validFrom ≤ t ∧ t < contract.validUntil := by
  simp only [OperatingContract.validate, check_ok, passed, not_le] at h ⊢
  obtain ⟨hc, ⟨-, hw⟩, hr⟩ := h
  constructor
  · rintro ⟨-, ⟨ht, -⟩, -⟩
    exact ht
  · exact fun ht => ⟨hc, ⟨ht, hw⟩, hr⟩

lemma OperatingContract.version_of_validate (h : contract.validate now = .ok ()) :
    contract.version ≠ 0 := by
  simp only [OperatingContract.validate, check_ok, passed, and_assoc] at h
  simpa using h.1

lemma OperatingContract.cadence_of_validate (h : contract.validate now = .ok ())
    (hc : contract.cadence = some cadence) : cadence.isInvalid = false := by
  simp only [OperatingContract.validate, check_ok, rejectIf_ok] at h
  obtain ⟨-, -, -, -, -, hv, -⟩ := h
  rw [hc] at hv
  exact hv

lemma authority_of_scheduled {decision : OutcomeDecision}
    (h : nextStageAfterOutcome contract decision t = .scheduled) :
    cadenceHasFutureAuthority contract t = true := by
  unfold nextStageAfterOutcome at h
  split at h
  · cases h
  · cases hm : contract.mode with
    | buildOnce | oneOffDecision =>
      rw [hm] at h
      cases h
    | continuousOperator | continuousRelationship =>
      rw [hm] at h
      by_contra hn
      rw [if_neg hn] at h
      cases h
    | campaign =>
      rw [hm] at h
      by_contra hn
      dsimp only at h
      rw [if_neg hn] at h
      split at h <;> cases h

lemma exists_cadence_of_authority (h : cadenceHasFutureAuthority contract t = true) :
    t < contract.validUntil ∧ ∃ cadence, contract.cadence = some cadence ∧
      (cadence.trigger = .interval →
        ∃ dueAt, nextIntervalDueAt cadence t = some dueAt ∧ dueAt < contract.validUntil) := by
  unfold cadenceHasFutureAuthority at h
  split at h
  · cases h
  · next hw =>
    obtain ⟨cadence, hc, ht⟩ := (Option.any_eq_true _ _).mp h
    refine ⟨not_le.mp hw, cadence, hc, fun hi => ?_⟩
    rw [hi] at ht
    obtain ⟨dueAt, hdue, hlt⟩ := (Option.any_eq_true _ _).mp ht
    exact ⟨dueAt, hdue, of_decide_eq_true hlt⟩

/-! ## The record of a schedule -/

namespace MissionSchedule

/-- The id of a schedule is never blank. -/
lemma isBlank_id (ms : Mission) (cad : Cadence) (cyc : ℕ) (due : Option DateTime)
    (now : DateTime) : isBlank (prepared ms cad cyc due now).id = false := by
  have hl : 'm' ∈ ("mission-schedule:" ++ ms.id ++ ":cycle:" ++ toString cyc).toList := by
    rw [String.toList_append, String.toList_append, String.toList_append]
    refine mem_append_left _ (mem_append_left _ (mem_append_left _ ?_))
    decide
  rw [Bool.eq_false_iff]
  intro hb
  exact absurd (isBlank_iff.mp hb 'm' hl) (by decide)

lemma triggerShapeIsValid_prepared (hc : cadence.isInvalid = false)
    (hdue : dueAt.isSome = (cadence.trigger != .eventDriven)) :
    (prepared mission cadence cyc dueAt t).triggerShapeIsValid = true := by
  simp only [Cadence.isInvalid, Bool.or_eq_false_iff] at hc
  obtain ⟨-, hs⟩ := hc
  unfold triggerShapeIsValid
  dsimp only [prepared]
  cases ht : cadence.trigger with
  | interval | intervalOrEvent => simp_all [Nat.pos_iff_ne_zero]
  | eventDriven => simp_all

/-- The record that is prepared for a valid cadence passes the check of a schedule exactly when its
Mission has a name. -/
lemma validate_prepared_iff (hcon : mission.contract.validate t = .ok ())
    (hc : mission.contract.cadence = some cadence)
    (hdue : dueAt.isSome = (cadence.trigger != .eventDriven)) (hcyc : 2 ≤ cyc)
    (hrev : mission.revision ≠ 0)
    (hdef : ∀ d, mission.definition = some d → checkedAdd 64 d.cycle 1 = some cyc) :
    (prepared mission cadence cyc dueAt t).validate = .ok () ↔ mission.scope.IsNamed := by
  have hve := OperatingContract.version_of_validate hcon
  have hw := (OperatingContract.validUntil_of_validate hcon).2
  have hv := OperatingContract.cadence_of_validate hcon hc
  have hid := isBlank_id mission cadence cyc dueAt t
  have hs : (prepared mission cadence cyc dueAt t).triggerShapeIsValid = true :=
    triggerShapeIsValid_prepared hv hdue
  have hcy : ((mission.definition.map (·.cycle)).any fun known =>
      checkedAdd 64 known 1 != some cyc) = false := by
    cases hk : mission.definition with
    | none => rfl
    | some d => simp [hdef d hk]
  have ht : cadence.eventTopics.toList.any isBlank = false := by
    rw [Cadence.isInvalid, Bool.or_eq_false_iff] at hv
    exact hv.1
  have hl : ¬cyc < 2 := not_lt.mpr hcyc
  have ho : ¬mission.contract.validUntil ≤ t := not_le.mpr hw
  unfold validate
  rw [check_ok, rejectIf_ok]
  simp only [Bool.or_eq_false_iff, hid, hs]
  dsimp only [prepared]
  simp [hl, hrev, hve, ho, hcy, ht, Mission.scope, Mission.Scope.IsNamed, and_assoc]

/-! ## The instant of the next cycle -/

/-- An instant is found exactly when the cadence waits for none, or has a next one. -/
lemma dueAtOf_ok : dueAtOf cadence now = .ok dueAt ↔
      if cadence.trigger = .eventDriven then dueAt = none
      else dueAt.isSome = true ∧ nextIntervalDueAt cadence now = dueAt := by
  unfold dueAtOf
  by_cases ht : cadence.trigger = .eventDriven
  · rw [if_pos ht, if_pos (beq_iff_eq.mpr ht)]
    exact ⟨fun h => (Except.ok.inj h).symm, fun h => congrArg _ h.symm⟩
  · rw [if_neg ht, if_neg (by simpa using ht)]
    cases hdue : nextIntervalDueAt cadence now with
    | none =>
      refine iff_of_false nofun ?_
      rintro ⟨hs, rfl⟩
      cases hs
    | some due =>
      constructor
      · intro h
        obtain rfl := Except.ok.inj h
        exact ⟨rfl, rfl⟩
      · rintro ⟨-, rfl⟩
        rfl

lemma isSome_of_dueAtOf (h : dueAtOf cadence now = .ok dueAt) :
    dueAt.isSome = (cadence.trigger != .eventDriven) := by
  rw [dueAtOf_ok] at h
  split at h
  · next ht => rw [h, ht]; rfl
  · next ht => rw [h.1, bne_iff_ne.mpr ht]

lemma inWindow_of_dueAtOf (hi : cadence.trigger = .interval →
      ∃ dueAt, nextIntervalDueAt cadence now = some dueAt ∧ dueAt < vu)
    (h : dueAtOf cadence now = .ok dueAt) :
    (cadence.trigger == .interval && dueAt.any fun due => decide (vu ≤ due)) = false := by
  by_cases ht : cadence.trigger = .interval
  · obtain ⟨due, hdue, hlt⟩ := hi ht
    rw [dueAtOf_ok, ht, if_neg (by decide), hdue] at h
    rw [← h.2, Option.any_some, decide_eq_false (not_le.mpr hlt), Bool.and_false]
  · rw [beq_eq_false_iff_ne.mpr ht, Bool.false_and]

/-- Under a cadence with authority, an instant can be missing only where events are waited for as
well. -/
lemma exists_dueAtOf_iff
    (hi : cadence.trigger = .interval → (nextIntervalDueAt cadence now).isSome = true) :
    (∃ dueAt, dueAtOf cadence now = .ok dueAt) ↔
      (cadence.trigger = .intervalOrEvent → (nextIntervalDueAt cadence now).isSome = true) := by
  simp only [dueAtOf_ok]
  constructor
  · rintro ⟨dueAt, hdue⟩ ht
    rw [ht, if_neg (by decide)] at hdue
    rw [hdue.2, hdue.1]
  · intro he
    cases ht : cadence.trigger with
    | interval => exact ⟨_, (if_neg (by decide)).mpr ⟨hi ht, rfl⟩⟩
    | eventDriven => exact ⟨none, rfl⟩
    | intervalOrEvent => exact ⟨_, (if_neg (by decide)).mpr ⟨he ht, rfl⟩⟩

lemma prepare_ok {sch : MissionSchedule} (hs : mission.stage = .scheduled)
    (hcon : mission.contract.validate oc.observedAt = .ok ())
    (hc : mission.contract.cadence = some cadence) (hi : cadence.trigger = .interval → ∃ dueAt,
      nextIntervalDueAt cadence oc.observedAt = some dueAt ∧ dueAt < mission.contract.validUntil)
    (hl : mission.outcomeHistory.getLast? = some oc) (hrev : mission.revision ≠ 0) :
    prepare mission oc.observedAt = .ok sch ↔ mission.outcomeHistory.length + 1 < 2 ^ 64 ∧
      (∀ d, mission.definition = some d → d.cycle = mission.outcomeHistory.length) ∧
      mission.scope.IsNamed ∧
      ∃ dueAt, dueAtOf cadence oc.observedAt = .ok dueAt ∧
        sch = prepared mission cadence (mission.outcomeHistory.length + 1) dueAt
          oc.observedAt := by
  have hw := (OperatingContract.validUntil_of_validate hcon).2
  have hno : 0 < mission.outcomeHistory.length :=
    length_pos_iff.mpr fun hnil => by rw [hnil] at hl; cases hl
  have hcy : ∀ {cyc}, (tryFromCount 64 mission.outcomeHistory.length).bind
      (checkedAdd 64 · 1) = some cyc ↔
        mission.outcomeHistory.length + 1 < 2 ^ 64 ∧ mission.outcomeHistory.length + 1 = cyc := by
    intro cyc
    simp only [Option.bind_eq_some_iff, tryFromCount_eq_some, checkedAdd_eq_some]
    constructor
    · rintro ⟨_, ⟨-, rfl⟩, hn⟩
      exact hn
    · exact fun hn => ⟨_, ⟨by omega, rfl⟩, hn⟩
  have hma : ∀ {cyc}, (mission.definition.any fun d =>
      checkedAdd 64 d.cycle 1 != some cyc) = false ↔
        ∀ d, mission.definition = some d → checkedAdd 64 d.cycle 1 = some cyc := by
    intro cyc
    rw [Option.any_eq_false]
    simp only [bne_eq_false_iff_eq]
  constructor
  · intro h
    obtain ⟨-, h⟩ := check_ok.mp h
    obtain ⟨-, h⟩ := check_ok.mp h
    obtain ⟨known, hk, h⟩ := bind_ok.mp h
    obtain rfl := Option.mem_unique hc (okOr_ok.mp hk)
    obtain ⟨last, -, h⟩ := bind_ok.mp h
    obtain ⟨-, h⟩ := check_ok.mp h
    obtain ⟨cyc, hn, h⟩ := bind_ok.mp h
    obtain ⟨hb, rfl⟩ := hcy.mp (okOr_ok.mp hn)
    obtain ⟨hm, h⟩ := check_ok.mp h
    rw [rejectIf_ok, Bool.or_eq_false_iff, hma] at hm
    obtain ⟨dueAt, hdue, h⟩ := bind_ok.mp h
    obtain ⟨-, h⟩ := check_ok.mp h
    obtain ⟨hv, h⟩ := check_ok.mp h
    cases h
    refine ⟨hb, fun d hdef => ?_, ?_, dueAt, hdue, rfl⟩
    · have hn := (checkedAdd_eq_some.mp (hm.2 d hdef)).2
      omega
    · exact (validate_prepared_iff hcon hc (isSome_of_dueAtOf hdue) (by omega) hrev
        hm.2).mp hv
  · rintro ⟨hb, hdef, hna, dueAt, hdue, rfl⟩
    have hn : ∀ d, mission.definition = some d →
        checkedAdd 64 d.cycle 1 = some (mission.outcomeHistory.length + 1) := by
      intro d hk
      rw [hdef d hk]
      exact checkedAdd_eq_some.mpr ⟨hb, rfl⟩
    have hla : ¬mission.outcomeHistory.length + 1 < 2 := by omega
    have ho : ¬mission.contract.validUntil ≤ oc.observedAt := not_le.mpr hw
    refine check_ok.mpr ⟨by rw [hs]; rfl, ?_⟩
    refine check_ok.mpr ⟨by rw [hcon]; rfl, ?_⟩
    refine bind_ok.mpr ⟨cadence, okOr_ok.mpr hc, ?_⟩
    refine bind_ok.mpr ⟨oc, okOr_ok.mpr hl, ?_⟩
    refine check_ok.mpr ⟨rejectIf_ok.mpr (by simp [ho]), ?_⟩
    refine bind_ok.mpr ⟨_, okOr_ok.mpr (hcy.mpr ⟨hb, rfl⟩), ?_⟩
    refine check_ok.mpr ⟨rejectIf_ok.mpr ?_, ?_⟩
    · rw [hma.mpr hn, decide_eq_false hla]
      rfl
    refine bind_ok.mpr ⟨dueAt, hdue, ?_⟩
    refine check_ok.mpr ⟨rejectIf_ok.mpr (inWindow_of_dueAtOf hi hdue), ?_⟩
    refine check_ok.mpr ⟨?_, rfl⟩
    exact (validate_prepared_iff hcon hc (isSome_of_dueAtOf hdue) (by omega) hrev
      hn).mpr hna

end MissionSchedule

/-! ## The start of the next cycle -/

namespace MissionDefinition

variable {enc : MissionEncoding} {d : MissionDefinition} {cyc : ℕ}

lemma validate_renew (enc : MissionEncoding) (hman : d.manifestIsValid = true)
    (hc : cyc ≠ 0) : (d.renew cyc).validate enc = .ok () := by
  have ho := d.pairwiseOrdered_renew cyc
  have hr := countP_le_one_of_pairwiseOrdered ho (p := (· == .ready)) rfl rfl
  have ha := countP_le_one_of_pairwiseOrdered ho (p := (·.isActive)) rfl rfl
  have hf : (d.renew cyc).manifestIsValid = true := by
    rw [← manifestIsValid_frame, frame_renew, manifestIsValid_frame, hman]
  exact validate_iff.mpr ⟨hf, hc, checkpointHolds_renew enc d cyc, hr, ha⟩

lemma startFirstCheckpoint_renew (hman : d.manifestIsValid = true) (cyc : ℕ)
    (now : DateTime) : ∃ d', (d.renew cyc).startFirstCheckpoint now = .ok d' := by
  cases hl : d.checkpoints with
  | nil => simp [manifestIsValid, hl] at hman
  | cons c rest =>
    have hr : (d.renew cyc).checkpoints =
        renewCheckpoint .ready c :: rest.map (renewCheckpoint .pending) := by
      rw [renew, hl]
      rfl
    unfold startFirstCheckpoint
    rw [hr]
    exact ⟨_, rfl⟩

/-- The next cycle of a finished definition begins exactly when no revision is exhausted. -/
lemma beginNextCycle_isOk_iff (hman : d.manifestIsValid = true)
    (hn : d.requireNextCycle cyc = .ok ()) (hcy : cyc ≠ 0) (now : DateTime) :
    (∃ d', (Mission.beginNextCycle enc cyc now).exec d =
        (.ok (), d')) ↔ ∀ c ∈ d.checkpoints, c.revision + 1 < 2 ^ 64 := by
  have hb : ∀ c : MissionCheckpoint,
      (checkedAdd 64 c.revision 1).isSome = true ↔ c.revision + 1 < 2 ^ 64 := by
    intro c
    simp [Option.isSome_iff_exists]
  simp only [beginNextCycle_ok]
  constructor
  · rintro ⟨-, -, ⟨hr, -⟩, -⟩ c hc
    exact (hb c).mp (hr c hc)
  · intro hr
    obtain ⟨d', hs⟩ := startFirstCheckpoint_renew hman cyc now
    exact ⟨d', hn, ⟨fun c hc => (hb c).mpr (hr c hc), validate_renew enc hman hcy⟩, hs⟩

end MissionDefinition

namespace Mission

variable {enc : MissionEncoding} {m m' m₀ : Mission}

/-- What is left of a Mission to be found when it is scheduled. -/
structure AwaitsCycle (m : Mission) : Prop where
  stage : m.stage = .scheduled
  history : 0 < m.outcomeHistory.length ∧ m.outcomeHistory.length + 1 < 2 ^ 64
  definition : ∀ definition, m.definition = some definition →
    definition.manifestIsValid = true ∧ definition.cycle = m.outcomeHistory.length ∧
      ∀ c ∈ definition.checkpoints, c.status.isTerminal = true

/-- In the window of the contract and with tasks that match, only the revision of the Mission is
left to check. -/
lemma checkStartScheduledCycle_iff (h : m.AwaitsCycle)
    (hcon : m.contract.validate now = .ok ()) (ht : m.checkFirstTasks tasks = .ok ()) :
    m.checkStartScheduledCycle (m.outcomeHistory.length + 1) tasks now = .ok () ↔
      m.revision + 1 < 2 ^ 64 := by
  obtain ⟨hp, hb⟩ := h.history
  have he : okOr ((tryFromCount 64 m.outcomeHistory.length).bind (checkedAdd 64 · 1))
      MissionError.revisionOverflow = .ok (m.outcomeHistory.length + 1) := by
    rw [okOr_ok, Option.bind_eq_some_iff]
    exact ⟨_, tryFromCount_eq_some.mpr ⟨by omega, rfl⟩, checkedAdd_eq_some.mpr ⟨hb, rfl⟩⟩
  have hl : ¬m.outcomeHistory.length + 1 < 2 := by omega
  constructor
  · intro hc
    simp only [checkStartScheduledCycle, bind_ok] at hc
    obtain ⟨-, -, -, -, -, -, -, -, -, -, hto⟩ := hc
    exact revision_of_ensureTouchable hto
  · intro hrev
    refine check_ok.mpr ⟨requireStage_ok.mpr (by rw [h.stage]; decide), ?_⟩
    refine check_ok.mpr ⟨by rw [validateContract, hcon]; rfl, ?_⟩
    refine bind_ok.mpr ⟨_, he, ?_⟩
    refine check_ok.mpr ⟨rejectIf_ok.mpr (by simp [hl]), ?_⟩
    refine check_ok.mpr ⟨ht, ?_⟩
    rw [ensureTouchable, rejectIf_ok, checkedAdd, if_pos hrev]
    rfl

/-- The next cycle of a scheduled Mission is accepted in the window of its contract exactly when no
revision is exhausted. -/
lemma startScheduledCycle_isOk_iff (h : m.AwaitsCycle)
    (hcon : m.contract.validate now = .ok ()) (ht : m.checkFirstTasks tasks = .ok ()) :
    (m.step enc (.startScheduledCycle (m.outcomeHistory.length + 1) tasks now)).1 = .ok () ↔
      m.revision + 1 < 2 ^ 64 ∧
        ∀ d, m.definition = some d → ∀ c ∈ d.checkpoints, c.revision + 1 < 2 ^ 64 := by
  have hc := checkStartScheduledCycle_iff h hcon ht
  have hbe : ∀ {d}, m.definition = some d →
      ((∃ d', (beginNextCycle enc (m.outcomeHistory.length + 1) now).exec d =
          (.ok (), d')) ↔ ∀ c ∈ d.checkpoints, c.revision + 1 < 2 ^ 64) := by
    intro d hdef
    obtain ⟨hman, hcy, hte⟩ := h.definition d hdef
    refine MissionDefinition.beginNextCycle_isOk_iff hman ?_ (Nat.succ_ne_zero _) now
    have hne : checkedAdd 64 d.cycle 1 = some (m.outcomeHistory.length + 1) := by
      rw [hcy]
      exact checkedAdd_eq_some.mpr ⟨h.history.2, rfl⟩
    rw [MissionDefinition.requireNextCycle, hne, all_eq_true.mpr hte]
    exact rejectIf_ok.mpr (by simp)
  have hres : (m.step enc (.startScheduledCycle (m.outcomeHistory.length + 1) tasks
      now)).1 = .ok () ↔
        ∃ m', m.step enc (.startScheduledCycle (m.outcomeHistory.length + 1) tasks now) =
          (.ok (), m') :=
    ⟨fun hok => ⟨_, Prod.ext hok rfl⟩, fun hok => congrArg Prod.fst hok.choose_spec⟩
  rw [hres, ← hc]
  constructor
  · rintro ⟨m', hok⟩
    obtain ⟨⟨⟩, hp, hok⟩ := exec_check_ok.mp hok
    obtain ⟨⟨⟩, begun, hb, -⟩ := exec_bind_ok.mp hok
    refine ⟨hp, fun d hdef => (hbe hdef).mp ?_⟩
    rcases exec_focusSome_ok.mp hb with ⟨hn, -⟩ | ⟨known, d', hk, hrun, -⟩
    · rw [hdef] at hn
      cases hn
    · obtain rfl := Option.mem_unique hdef hk
      exact ⟨d', hrun⟩
  · rintro ⟨hp, hr⟩
    have hb : ∃ begun, (onDefinition (beginNextCycle enc (m.outcomeHistory.length + 1)
        now)).exec m = (.ok (), begun) := by
      cases hdef : m.definition with
      | none => exact ⟨m, exec_focusSome_ok.mpr (Or.inl ⟨hdef, rfl⟩)⟩
      | some d =>
        obtain ⟨d', hrun⟩ := (hbe hdef).mpr (hr d hdef)
        exact ⟨_, exec_focusSome_ok.mpr (Or.inr ⟨d, d', hdef, hrun, rfl⟩)⟩
    obtain ⟨begun, hb⟩ := hb
    refine ⟨startCycle tasks now begun, exec_check_ok.mpr ⟨(), hp, ?_⟩⟩
    exact exec_bind_ok.mpr ⟨(), begun, hb, rfl⟩

lemma exists_firstTasks (hman : ∀ d, m.definition = some d →
      d.manifestIsValid = true) : ∃ tasks, m.checkFirstTasks tasks = .ok () := by
  cases hdef : m.definition with
  | none => exact ⟨[], by rw [checkFirstTasks, hdef]; rfl⟩
  | some d =>
    have hv := hman d hdef
    have hr : ∀ tasks, m.checkFirstTasks tasks = d.validateFirstCheckpointTasks tasks :=
      fun tasks => by rw [checkFirstTasks, hdef]; rfl
    simp only [hr, MissionDefinition.validateFirstCheckpointTasks]
    cases hl : d.checkpoints with
    | nil => simp [MissionDefinition.manifestIsValid, hl] at hv
    | cons c rest =>
      dsimp only
      cases hro : c.route with
      | none => exact ⟨[], rfl⟩
      | some route =>
        have ht : isBlank "task" = false := by decide
        have hs : (setOf ["task"]).size = 1 := by decide
        refine ⟨[⟨"task", "task", .running, route.capabilityId⟩], rejectIf_ok.mpr ?_⟩
        simp [ht, hs]

/-! ## Runs -/

/-- The schedule of the next cycle can be prepared at the given time, and that cycle is accepted at
every time in the window of the contract. -/
def RunsNextCycle (enc : MissionEncoding) (m : Mission) (t : DateTime) : Prop :=
  ∃ schedule, MissionSchedule.prepare m t = .ok schedule ∧
    schedule.cycle = m.outcomeHistory.length + 1 ∧
    ∀ tasks now, m.checkFirstTasks tasks = .ok () → m.contract.validFrom ≤ now →
      now < m.contract.validUntil →
        (m.step enc (.startScheduledCycle schedule.cycle tasks now)).1 = .ok ()

/-- What an outcome that schedules the next cycle has to find: ids that are not blank, a next
instant for a cadence that also waits for events, a definition in the cycle that the history counts,
and revisions to spare. -/
structure Schedulable (m : Mission) (t : DateTime) : Prop where
  named : m.scope.IsNamed
  due : ∀ cadence, m.contract.cadence = some cadence → cadence.trigger = .intervalOrEvent →
    (nextIntervalDueAt cadence t).isSome = true
  cycle : ∀ definition, m.definition = some definition →
    definition.cycle = m.outcomeHistory.length + 1
  history : m.outcomeHistory.length + 2 < 2 ^ 64
  revision : m.revision + 2 < 2 ^ 64
  checkpoints : ∀ definition, m.definition = some definition →
    ∀ c ∈ definition.checkpoints, c.revision + 1 < 2 ^ 64

lemma IsCompiled.valid (h : m.IsCompiled enc) : (∃ now, m.contract.validate now = .ok ()) ∧
      ∀ d, m.definition = some d → d.manifestIsValid = true := by
  cases h with
  | compile h =>
    obtain ⟨hcon, rfl⟩ := compile_ok h
    exact ⟨⟨_, hcon⟩, nofun⟩
  | compileCatalog h =>
    obtain ⟨hv, hcon, rfl⟩ := compileCatalog_ok h
    refine ⟨⟨_, hcon⟩, fun d hdef => ?_⟩
    obtain rfl := Option.some.inj hdef
    exact (MissionDefinition.validate_iff.mp hv).1

/-- A run of successful commands keeps both. -/
lemma valid_run {cmds : List MissionCommand} (hst : m₀.IsCompiled enc)
    (hok : ∀ e ∈ trace (step enc) m₀ cmds, e.output = .ok ()) :
    (∃ now, (run (step enc) m₀ cmds).contract.validate now = .ok ()) ∧
      ∀ d, (run (step enc) m₀ cmds).definition = some d → d.manifestIsValid = true := by
  refine (run_rely (step enc) (C := fun e => e.output = .ok ()) (P := fun _ => True)
    (I := fun m => (∃ now, m.contract.validate now = .ok ()) ∧
      ∀ d, m.definition = some d → d.manifestIsValid = true) ?_
    hst.valid hok).1
  rintro m cmd ⟨⟨now, hcon⟩, hman⟩ hok
  have hs := congrArg Scope.contract (scope_step enc m cmd)
  have hf := frame_step (m := m) (Prod.ext hok rfl)
  refine ⟨⟨⟨now, ?_⟩, fun d hdef => ?_⟩, trivial⟩
  · exact (congrArg (OperatingContract.validate · now) hs).trans hcon
  · rw [hdef, Option.map_some] at hf
    obtain ⟨known, hk, hsa⟩ := Option.map_eq_some_iff.mp hf.symm
    rw [← MissionDefinition.manifestIsValid_frame, ← hsa, MissionDefinition.manifestIsValid_frame]
    exact hman known hk

lemma recordOutcome_ok (h : m.step enc (.recordOutcome oc) = (.ok (), m')) :
    m.checkRecordOutcome oc = .ok () ∧ m'.scope = m.scope ∧ m'.definition = m.definition ∧
      m'.outcomeHistory = m.outcomeHistory ++ [oc] ∧ m'.revision = m.revision + 1 ∧
      m'.stage = nextStageAfterOutcome m.contract oc.decision oc.observedAt := by
  obtain ⟨⟨⟩, hc, h⟩ := exec_check_ok.mp h
  cases h
  exact ⟨hc, rfl, rfl, rfl, rfl, rfl⟩

/-- The next cycle of a Mission that an outcome has just scheduled. -/
lemma runsNextCycle_iff (hs : m.stage = .scheduled) (hv : ∀ {t}, m.contract.validate t = .ok () ↔
      m.contract.validFrom ≤ t ∧ t < m.contract.validUntil)
    (hf : m.contract.validFrom ≤ oc.observedAt) (hu : oc.observedAt < m.contract.validUntil)
    (hca : m.contract.cadence = some cadence) (hi : cadence.trigger = .interval → ∃ dueAt,
      nextIntervalDueAt cadence oc.observedAt = some dueAt ∧ dueAt < m.contract.validUntil)
    (hl : m.outcomeHistory.getLast? = some oc) (hrev : m.revision ≠ 0)
    (hdef : ∀ d, m.definition = some d → d.manifestIsValid = true ∧
      ∀ c ∈ d.checkpoints, c.status.isTerminal = true) :
    m.RunsNextCycle enc oc.observedAt ↔ (m.outcomeHistory.length + 1 < 2 ^ 64 ∧
        (∀ d, m.definition = some d → d.cycle = m.outcomeHistory.length) ∧
        m.scope.IsNamed ∧
        (cadence.trigger = .intervalOrEvent →
          (nextIntervalDueAt cadence oc.observedAt).isSome = true)) ∧
      m.revision + 1 < 2 ^ 64 ∧
        ∀ d, m.definition = some d → ∀ c ∈ d.checkpoints, c.revision + 1 < 2 ^ 64 := by
  have hcon : m.contract.validate oc.observedAt = .ok () := hv.mpr ⟨hf, hu⟩
  have hno : 0 < m.outcomeHistory.length :=
    length_pos_iff.mpr fun hnil => by rw [hnil] at hl; cases hl
  have hso : cadence.trigger = .interval →
      (nextIntervalDueAt cadence oc.observedAt).isSome = true := by
    intro htr
    obtain ⟨dueAt, hdue, -⟩ := hi htr
    rw [hdue]
    rfl
  have hdue := MissionSchedule.exists_dueAtOf_iff hso
  have ha : m.outcomeHistory.length + 1 < 2 ^ 64 →
      (∀ d, m.definition = some d → d.cycle = m.outcomeHistory.length) → m.AwaitsCycle := by
    intro hb hcy
    refine ⟨hs, ⟨hno, hb⟩, fun d hk => ?_⟩
    obtain ⟨hman, hte⟩ := hdef d hk
    exact ⟨hman, hcy d hk, hte⟩
  constructor
  · rintro ⟨sch, hok, hcy, hsta⟩
    obtain ⟨hb, hc, hn, dueAt, hd, rfl⟩ :=
      (MissionSchedule.prepare_ok hs hcon hca hi hl hrev).mp hok
    obtain ⟨tasks, ht⟩ := exists_firstTasks fun d hk =>
      (hdef d hk).1
    have hst := hsta tasks oc.observedAt ht hf hu
    exact ⟨⟨hb, hc, hn, hdue.mp ⟨dueAt, hd⟩⟩,
      (startScheduledCycle_isOk_iff (ha hb hc) hcon ht).mp hst⟩
  · rintro ⟨⟨hb, hc, hn, he⟩, hr⟩
    obtain ⟨dueAt, hd⟩ := hdue.mpr he
    refine ⟨_, (MissionSchedule.prepare_ok hs hcon hca hi hl
      hrev).mpr ⟨hb, hc, hn, dueAt, hd, rfl⟩, rfl, ?_⟩
    intro tasks now ht haf hbe
    exact (startScheduledCycle_isOk_iff (ha hb hc) (hv.mpr ⟨haf, hbe⟩) ht).mpr hr

/-- When an outcome has moved a Mission to the next cycle, that cycle runs exactly when the outcome
found the Mission schedulable. -/
theorem schedule_iff (enc : MissionEncoding) {m₀ m m' : Mission}
    (hstart : m₀.IsCompiled enc) {commands : List MissionCommand}
    (hok : ∀ e ∈ trace (Mission.step enc) m₀ commands, e.output = .ok ())
    (hm : run (Mission.step enc) m₀ commands = m) {outcome : Outcome}
    (hrecord : m.step enc (.recordOutcome outcome) = (.ok (), m'))
    (hscheduled : m'.stage = .scheduled) (hfrom : m'.contract.validFrom ≤ outcome.observedAt) :
    m'.RunsNextCycle enc outcome.observedAt ↔ m.Schedulable outcome.observedAt := by
  obtain ⟨⟨now, hv⟩, hma⟩ := valid_run hstart hok
  rw [hm] at hv hma
  obtain ⟨hch, hsc, hd, hh, hr, hst⟩ := recordOutcome_ok hrecord
  obtain ⟨-, -, ht⟩ := checkRecordOutcome_ok hch
  have hs : m'.contract = m.contract := congrArg Scope.contract hsc
  obtain ⟨hw, cadence, hc, hi⟩ :=
    exists_cadence_of_authority (authority_of_scheduled (hst.symm.trans hscheduled))
  have hl : m'.outcomeHistory.length = m.outcomeHistory.length + 1 := by
    rw [hh, length_append, length_singleton]
  have hla : m'.outcomeHistory.getLast? = some outcome := by
    rw [hh, getLast?_append]
    rfl
  rw [runsNextCycle_iff hscheduled (by rw [hs]; exact OperatingContract.validate_iff hv) hfrom
    (by rw [hs]; exact hw) (by rw [hs]; exact hc) (by rw [hs]; exact hi)
    hla (by rw [hr]; exact Nat.succ_ne_zero _)
    (by
      rw [hd]
      exact fun definition hk => ⟨hma definition hk, ht definition hk⟩),
    hl, hd, hsc, hr]
  constructor
  · rintro ⟨⟨hb, hcy, hn, he⟩, hr, hre⟩
    refine ⟨hn, fun known hk => ?_, hcy, by omega, by omega, hre⟩
    obtain rfl := Option.mem_unique hc hk
    exact he
  · intro h
    exact ⟨⟨by have := h.history; omega, h.cycle, h.named, h.due cadence hc⟩,
      by have := h.revision; omega, h.checkpoints⟩

/-- A Mission with a cadence. -/
def cadenceSample (cadence : Cadence) : Mission :=
  { Mission.sample with
    contract := { OperatingContract.sample with
      mode := .continuousOperator
      cadence := some cadence } }

/-- An outcome of the first cycle. -/
def outcomeSample : Outcome := ⟨"reviewed", .continue_, ∅, 2⟩

/-- A Mission that waits for events only. -/
def eventSample : Mission := cadenceSample ⟨0, 0, .eventDriven, setOf ["topic"]⟩

/-- The event sample is scheduled. -/
theorem schedule_iff_eventSample :
    eventSample.IsCompiled .sample ∧
      (∀ e ∈ trace (Mission.step .sample) eventSample [.startResearch [] 1], e.output = .ok ()) ∧
      ∃ m', (run (Mission.step .sample) eventSample [.startResearch [] 1]).step .sample
          (.recordOutcome outcomeSample) = (.ok (), m') ∧
        m'.stage = .scheduled ∧ m'.contract.validFrom ≤ outcomeSample.observedAt ∧
        (m'.RunsNextCycle .sample outcomeSample.observedAt ↔
          (run (Mission.step .sample) eventSample [.startResearch [] 1]).Schedulable
            outcomeSample.observedAt) := by
  have hst : eventSample.IsCompiled .sample :=
    .compile (show Mission.compile "tenant" "mission" "project" "Sample" eventSample.contract 0 = _
      by rfl)
  have hok : ∀ e ∈ trace (Mission.step .sample) eventSample [.startResearch [] 1],
      e.output = .ok () := by decide +kernel
  have hr : ((run (Mission.step .sample) eventSample [.startResearch [] 1]).step .sample
      (.recordOutcome outcomeSample)).1 = .ok () := by decide +kernel
  have hs : ((run (Mission.step .sample) eventSample [.startResearch [] 1]).step .sample
      (.recordOutcome outcomeSample)).2.stage = .scheduled := by decide +kernel
  have hf : ((run (Mission.step .sample) eventSample [.startResearch [] 1]).step .sample
      (.recordOutcome outcomeSample)).2.contract.validFrom ≤ outcomeSample.observedAt := by
    decide +kernel
  exact ⟨hst, hok, _, Prod.ext hr rfl, hs, hf,
    schedule_iff .sample hst hok rfl (Prod.ext hr rfl) hs hf⟩

/-- A Mission that waits for events, and for an interval of `2 ^ 63` seconds. -/
def longSample : Mission := cadenceSample ⟨2 ^ 63, 0, .intervalOrEvent, setOf ["topic"]⟩

/-- The Mission is scheduled, and no schedule can be prepared for it. -/
theorem longSample_not_prepared :
    longSample.IsCompiled .sample ∧
      (∀ e ∈ trace (Mission.step .sample) longSample
        [.startResearch [] 1, .recordOutcome outcomeSample], e.output = .ok ()) ∧
      (run (Mission.step .sample) longSample
        [.startResearch [] 1, .recordOutcome outcomeSample]).stage = .scheduled ∧
      MissionSchedule.prepare (run (Mission.step .sample) longSample
        [.startResearch [] 1, .recordOutcome outcomeSample]) outcomeSample.observedAt =
          .error .cycleOverflow := by
  refine ⟨.compile (show Mission.compile "tenant" "mission" "project" "Sample" longSample.contract
    0 = _ by rfl), by decide +kernel, by decide +kernel, ?_⟩
  rfl

end Mission

end Hartevo
