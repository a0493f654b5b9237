import Hartevo.RuntimeTurn.Validity

/-!
# When a command leaves a valid attempt

The commands write before they validate, so a command that fails at its end leaves what it wrote.
For a valid attempt the end fails exactly when there is no room, the clock goes back, or the fields
do not fit the status that the command goes to (`RuntimeTurnCommand.fits`): a live turn with a
pending approval cannot be frozen, and an attempt that was read from a store may have a runtime
identity too early or miss the digests of its dispatch.
-/

namespace Hartevo

open Command

lemma isSha256_textDigest (enc : MissionEncoding) (text : String) :
    isSha256 (enc.textDigest text) = true :=
  isSha256_of_digest (digest_lowerHex _)

/-- The fields of the attempt allow the status that the command goes to. -/
def RuntimeTurnCommand.fits (attempt : RuntimeTurnAttempt) : RuntimeTurnCommand → Bool
  | .beginDispatch _ => attempt.runtimeTurnId.isNone
  | .observe .completed _ _ | .observe .interrupted _ _ => attempt.dispatchEvidencePresent
  | .freezeUncertain _ _ _ | .fenceAfterCoordinatorRestart _ => !attempt.status.awaitsApproval
  | _ => true

namespace RuntimeTurnAttempt

variable {enc : RuntimeTurnEncoding} {self att : RuntimeTurnAttempt} {cmd : RuntimeTurnCommand}
  {draft : Draft} {st : RuntimeTurnStatus} {kind : RuntimeTurnEvidenceKind}
  {next : RuntimeTurnAttempt} {id : RuntimeTurnAttemptId} {scope : RuntimeTurnScope}
  {now : DateTime}

/-! ## What a plan keeps -/

lemma Planned.sameRecord (h : Planned enc self cmd draft) : self.SameRecord draft.attempt := by
  cases h <;> exact ⟨rfl, rfl, rfl, rfl, rfl, rfl⟩

lemma failureRefused_eq_false {digest : String} (h : self.failureRefused digest = false) :
    isSha256 digest = true ∧ self.failures.length < maxTurnFailures := by
  simpa [failureRefused] using h

lemma Planned.digest (h : Planned enc self cmd draft) : isSha256 draft.digest = true := by
  cases h with
  | dispatch | interrupt => exact isSha256_textDigest _ _
  | accept _ _ _ hr => exact hr
  | confirm _ _ hr => exact hr
  | notSent _ hf | dispatchFailed _ hf | reportedFailure _ hf
  | freeze _ hf | fenceUnsent _ hf | fenceLive _ hf =>
    exact (failureRefused_eq_false hf).1
  | progress _ hd | completed _ hd | interrupted _ hd | request _ hd
  | respond _ _ hd | sent _ hd => exact hd

lemma activeWithIdentity_eq_true : self.activeWithIdentity = true ↔
      self.runtimeTurnId.isSome = true ∧ self.status.isObservable = true := by
  simp [activeWithIdentity]

lemma validStatusTransition_progress (hs : st.isObservable = true)
    (hk : kind.isProgress = true) : validStatusTransition st st kind = true := by
  cases st <;> cases hs <;> cases kind <;> cases hk <;> rfl

lemma validStatusTransition_terminal {next : RuntimeTurnStatus} (hs : st.isObservable = true)
    (hr : isTerminalReport next kind = true) : validStatusTransition st next kind = true := by
  cases st <;> cases hs <;> cases next <;> cases kind <;> cases hr <;> rfl

lemma validStatusTransition_uncertain
    (hl : st.isLive = true) : validStatusTransition st .uncertain .uncertain = true := by
  cases st <;> cases hl <;> rfl

lemma Planned.transition (h : Planned enc self cmd draft) :
    validStatusTransition self.status draft.attempt.status draft.kind = true := by
  cases h with
  | progress hact _ hk =>
    exact validStatusTransition_progress (activeWithIdentity_eq_true.mp hact).2 hk
  | completed hact | interrupted hact | reportedFailure hact =>
    exact validStatusTransition_terminal (activeWithIdentity_eq_true.mp hact).2 rfl
  | freeze hl | fenceLive hl => exact validStatusTransition_uncertain hl
  | interrupt hs =>
    rcases hs with hs | hs
    · rw [hs]
      rfl
    · rw [hs]
      rfl
  | dispatchFailed hs =>
    rename_i definitive _ _
    rw [hs]
    cases definitive <;> rfl
  | confirm hs =>
    change validStatusTransition self.status self.status _ = true
    rw [hs]
    rfl
  | dispatch hs | notSent hs | accept hs | request hs | respond hs
  | sent hs | fenceUnsent hs =>
    rw [hs]
    rfl

/-- A plan records at most one failure more. -/
lemma Planned.failures (h : Planned enc self cmd draft) : draft.attempt.failures = self.failures ∨
      ∃ fl, draft.attempt.failures = self.failures ++ [fl] ∧
        isSha256 fl.evidenceDigest = true ∧ self.failures.length < maxTurnFailures := by
  cases h with
  | notSent _ hf | dispatchFailed _ hf | reportedFailure _ hf
  | freeze _ hf | fenceUnsent _ hf | fenceLive _ hf =>
    obtain ⟨hd, hr⟩ := failureRefused_eq_false hf
    exact .inr ⟨_, rfl, hd, hr⟩
  | _ => exact .inl rfl

lemma Planned.identity (h : Planned enc self cmd draft)
    (hs : self.identityValid enc = true) : draft.attempt.identityValid enc = true := by
  cases h with
  | accept _ hi => simp [identityValid, hi]
  | _ => exact hs

lemma Sides.pending_eq_none (h : self.Sides) (hs : self.status.awaitsApproval = false) :
    self.pendingApprovalRequestDigest = none := by
  have ha := h.awaiting
  rw [hs] at ha
  simpa using ha

lemma Sides.unsettled (h : self.Sides) (hs : next.status = .failed ∨ next.status = .uncertain)
    (hp : next.pendingApprovalRequestDigest = none)
    (hr : next.dispatchRequestDigest = self.dispatchRequestDigest)
    (hre : next.dispatchResponseDigest = self.dispatchResponseDigest)
    (hdec : next.approvalDecisionDigest = self.approvalDecisionDigest)
    (hi : next.interruptRequestDigest = self.interruptRequestDigest) : next.Sides := by
  have hn : notDigest next.pendingApprovalRequestDigest = false := by
    rw [hp]
    rfl
  refine ⟨hr ▸ h.request, hre ▸ h.response, hn, hdec ▸ h.decision,
    hi ▸ h.interrupt, ?_, ?_, ?_, ?_, ?_⟩ <;>
    rcases hs with hs | hs <;>
    simp [hs, hp, RuntimeTurnStatus.needsDispatch, RuntimeTurnStatus.awaitsApproval]

lemma Sides.underway (h : self.Sides)
    (hs : next.status.needsDispatch = true) (hpr : next.dispatchEvidencePresent = true)
    (ha : next.pendingApprovalRequestDigest.isSome = next.status.awaitsApproval)
    (hpe : notDigest next.pendingApprovalRequestDigest = false)
    (hdec : notDigest next.approvalDecisionDigest = false)
    (hr : next.status = .approvalResponding → next.approvalDecisionDigest.isSome = true)
    (hre : next.dispatchRequestDigest = self.dispatchRequestDigest)
    (hres : next.dispatchResponseDigest = self.dispatchResponseDigest)
    (hi : notDigest next.interruptRequestDigest = false) : next.Sides := by
  refine ⟨hre ▸ h.request, hres ▸ h.response, hpe, hdec, hi, fun _ => hpr, ?_, ?_, ha, hr⟩
  · intro hp
    rw [hp] at hs
    cases hs
  · intro hd
    rw [hd] at hs
    cases hs

lemma notDigest_some {digest : String} (h : isSha256 digest = true) :
    notDigest (some digest) = false := by
  simp [notDigest, h]

lemma Planned.sides (h : Planned enc self cmd draft) (hs : self.Sides)
    (hf : cmd.fits self = true) (now : DateTime) (sequence : ℕ) :
    (draft.attempt.withEvidence draft.kind draft.digest now sequence).Sides := by
  cases h with
  | dispatch hst =>
    have hp := hs.pending_eq_none (by rw [hst]; rfl)
    have hi : self.runtimeTurnId = none := Option.isNone_iff_eq_none.mp hf
    exact ⟨hs.request, hs.response, hs.pending, hs.decision, hs.interrupt, nofun,
      nofun, fun _ => hi, congrArg Option.isSome hp, nofun⟩
  | notSent hst | fenceUnsent hst =>
    exact hs.unsettled (Or.inl rfl) (hs.pending_eq_none (by rw [hst]; rfl)) rfl rfl rfl rfl
  | accept hst hi hr hre =>
    have hp := hs.pending_eq_none (by rw [hst]; rfl)
    exact ⟨notDigest_some hr, notDigest_some hre, hs.pending, hs.decision,
      hs.interrupt, fun _ => rfl, nofun, nofun, congrArg Option.isSome hp, nofun⟩
  | dispatchFailed hst =>
    rename_i definitive _ _
    have hp := hs.pending_eq_none (by rw [hst]; rfl)
    refine hs.unsettled ?_ hp rfl rfl rfl rfl
    cases definitive
    · exact .inr rfl
    · exact .inl rfl
  | progress hact =>
    have hnot : self.status ≠ .prepared := by
      intro hpr
      have ho := (activeWithIdentity_eq_true.mp hact).2
      rw [hpr] at ho
      cases ho
    exact { hs with prepared := fun hpr => absurd hpr hnot }
  | completed | interrupted =>
    exact hs.underway rfl hf rfl rfl hs.decision nofun rfl rfl hs.interrupt
  | reportedFailure => exact hs.unsettled (Or.inl rfl) rfl rfl rfl rfl rfl
  | request hst hd =>
    exact hs.underway rfl (hs.dispatched (by rw [hst]; rfl)) rfl
      (notDigest_some hd) hs.decision nofun rfl rfl hs.interrupt
  | respond hst hp hd =>
    exact hs.underway rfl (hs.dispatched (by rw [hst]; rfl))
      (congrArg Option.isSome hp) hs.pending (notDigest_some hd) (fun _ => rfl) rfl
      rfl hs.interrupt
  | sent hst =>
    exact hs.underway rfl (hs.dispatched (by rw [hst]; rfl)) rfl rfl hs.decision nofun
      rfl rfl hs.interrupt
  | interrupt hst =>
    have hdi : self.dispatchEvidencePresent = true := by
      apply hs.dispatched
      rcases hst with hst | hst
      · rw [hst]
        rfl
      · rw [hst]
        rfl
    exact hs.underway rfl hdi rfl rfl hs.decision nofun rfl rfl hs.interrupt
  | confirm hst hr =>
    have hn : self.status.needsDispatch = true := by
      rw [hst]
      rfl
    exact hs.underway hn (hs.dispatched hn) hs.awaiting hs.pending
      hs.decision hs.responding rfl rfl (notDigest_some hr)
  | freeze | fenceLive =>
    have ha : self.status.awaitsApproval = false := by
      simpa [RuntimeTurnCommand.fits] using hf
    exact hs.unsettled (Or.inr rfl) (hs.pending_eq_none ha) rfl rfl rfl rfl

/-! ## Commands that reach their end -/

def Draft.recorded (draft : Draft) (now : DateTime) : RuntimeTurnAttempt :=
  draft.attempt.withEvidence draft.kind draft.digest now (draft.attempt.revision + 1)

lemma Planned.valid (h : Planned enc self cmd draft) (hs : self.Valid enc)
    (ht : self.Timely cmd.now) (hf : cmd.fits self = true) :
    (draft.recorded cmd.now).Valid enc := by
  have hb : draft.attempt.failures.length ≤ maxTurnFailures ∧
      ∀ fl ∈ draft.attempt.failures, isSha256 fl.evidenceDigest = true := by
    rcases h.failures with hsa | ⟨fl, hm, hd, hr⟩
    · rw [hsa]
      exact ⟨hs.header.failures, hs.failures⟩
    · rw [hm]
      refine ⟨by simpa using hr, ?_⟩
      intro entry he
      rcases List.mem_append.mp he with hold | hnew
      · exact hs.failures entry hold
      · rw [List.mem_singleton.mp hnew]
        exact hd
  have hrev : draft.attempt.revision = self.revision := h.sameRecord.revision
  rw [Draft.recorded, hrev]
  exact valid_withEvidence hs h.sameRecord ht h.digest h.transition hb.1 hb.2
    (h.identity hs.identity) (h.sides hs.sides hf _ _)

/-- The fields of an attempt that was recorded fit the status that the command went to. -/
lemma Planned.fits (h : Planned enc self cmd draft) (hs : self.Sides)
    (hr : (draft.recorded cmd.now).Sides) : cmd.fits self = true := by
  cases h with
  | dispatch => exact Option.isNone_iff_eq_none.mpr (hr.dispatching rfl)
  | completed | interrupted => exact hr.dispatched rfl
  | freeze | fenceLive =>
    have ha : self.status.awaitsApproval = false := hs.awaiting.symm.trans hr.awaiting
    simp [RuntimeTurnCommand.fits, ha]
  | fenceUnsent hst =>
    rw [RuntimeTurnCommand.fits, hst]
    rfl
  | @progress kind _ _ _ _ hk => cases kind <;> first | rfl | cases hk
  | _ => rfl

/-- A planned command is refused with what it wrote, or records its entry and validates. -/
lemma step_eq_of_plan (h : self.plan enc cmd = .ok (some draft)) (hse : self.Valid enc) :
    self.step enc cmd =
      if self.updatedAt ≤ cmd.now ∧ self.evidence.length < maxTurnEvidence then
        ((fun _ => draft.reply) <$> (draft.recorded cmd.now).validate enc, draft.recorded cmd.now)
      else (.error .invalidEvidence, draft.attempt) := by
  have hp := planned_of_plan h
  have hs := hp.sameRecord
  have hb : draft.attempt.revision + 1 < 2 ^ 64 := by
    have hle := hse.header.evidence
    rw [hs.revision, hse.header.revision]
    simp only [maxTurnEvidence] at hle
    omega
  have hre : draft.attempt.evidenceRefused draft.digest cmd.now = false ↔
      self.updatedAt ≤ cmd.now ∧ self.evidence.length < maxTurnEvidence := by
    simp only [evidenceRefused, hp.digest, Bool.not_true, Bool.false_or, passed, not_le,
      hs.updatedAt, hs.evidence]
  rw [step_eq, h, carryOut]
  split
  · next hok =>
    rw [exec_appendEvidence (hre.mpr hok) hb]
    rfl
  · next hno =>
    rw [exec_appendEvidence_of_refused (Bool.eq_true_of_not_eq_false (mt hre.mp hno))]
    rfl

lemma step_of_plan (cmd : RuntimeTurnCommand) (h : self.plan enc cmd = .ok (some draft))
    (hse : self.Valid enc) (ht : self.Timely cmd.now) (hf : cmd.fits self = true) :
    self.step enc cmd = (.ok draft.reply, draft.recorded cmd.now) := by
  have hv := (planned_of_plan h).valid hse ht hf
  rw [step_eq_of_plan h hse, if_pos ⟨ht.updated, ht.room⟩, validate_ok.mpr hv]
  rfl

/-! ## The first entry -/

def prepared (enc : RuntimeTurnEncoding) (id : RuntimeTurnAttemptId)
    (scope : RuntimeTurnScope) (now : DateTime) : RuntimeTurnAttempt :=
  (blank id scope now).withEvidence .prepared (enc.digest (enc.scopeJson scope)) now 1

lemma valid_prepared
    (hs : scope.validate enc = .ok ()) : (prepared enc id scope now).Valid enc := by
  have hd : isSha256 (enc.digest (enc.scopeJson scope)) = true :=
    isSha256_of_digest (digest_lowerHex _)
  refine ⟨hs, ?_, ?_, nofun, rfl, ?_⟩
  · exact ⟨rfl, (by decide : 1 ≤ 4096), (by decide : 0 ≤ 32), le_refl now,
      ⟨_, _, rfl, rfl, rfl, rfl⟩, rfl⟩
  · exact validateEvidence_cons.mpr ⟨⟨rfl, hd, le_refl now, nofun⟩, rfl⟩
  · exact ⟨rfl, rfl, rfl, rfl, rfl, nofun, fun _ => rfl, nofun, rfl, nofun⟩

lemma prepare_of_scope (hs : scope.validate enc = .ok ()) :
    prepare enc id scope now = .ok (prepared enc id scope now) := by
  have hd : scope.digest enc = .ok (enc.digest (enc.scopeJson scope)) := by
    rw [RuntimeTurnScope.digest, hs]
    rfl
  have hsha : isSha256 (enc.digest (enc.scopeJson scope)) = true :=
    isSha256_of_digest (digest_lowerHex _)
  have hr : (blank id scope now).evidenceRefused
      (enc.digest (enc.scopeJson scope)) now = false := by
    simp [evidenceRefused, hsha, blank, maxTurnEvidence]
  have he : (appendEvidence enc .prepared (enc.digest (enc.scopeJson scope))
      now).exec (blank id scope now) = (.ok (), prepared enc id scope now) :=
    exec_appendEvidence_ok.mpr ⟨hr, (by decide : 0 + 1 < 2 ^ 64), rfl, valid_prepared hs⟩
  have hv : (prepared enc id scope now).validate enc = .ok () :=
    validate_ok.mpr (valid_prepared hs)
  refine check_ok.mpr ⟨hs, bind_ok.mpr ⟨_, hd, ?_⟩⟩
  rw [he]
  exact check_ok.mpr ⟨hv, rfl⟩

lemma prepare_ok : prepare enc id scope now = .ok att ↔
      scope.validate enc = .ok () ∧ att = prepared enc id scope now := by
  constructor
  · intro h
    have hs := (check_ok.mp h).1
    rw [prepare_of_scope hs] at h
    cases h
    exact ⟨hs, rfl⟩
  · rintro ⟨hs, rfl⟩
    exact prepare_of_scope hs

/-! ## Failed commands -/

end RuntimeTurnAttempt

/-! ## A sample -/

def RuntimeTurnEncoding.sample : RuntimeTurnEncoding :=
  { MissionEncoding.sample with scopeJson := fun _ => [] }

/-- The one digest of the sample. -/
def turnDigest : String :=
  RuntimeTurnEncoding.sample.textDigest "thread"

lemma isSha256_turnDigest : isSha256 turnDigest = true := isSha256_textDigest _ _

def RuntimeTurnScope.sample : RuntimeTurnScope where
  purpose := .agent
  tenantId := "tenant"
  projectId := "project"
  missionId := "mission"
  workspaceId := "workspace"
  capsuleId := "capsule"
  capsuleRevision := 1
  capsuleAuthorityDigest := turnDigest
  branchId := "branch"
  branchRevision := 1
  workerId := "worker"
  workerGeneration := 1
  workerLeaseId := "lease"
  workerLeaseRevision := 1
  attachmentEpoch := 1
  assemblyId := "assembly"
  assemblyRevision := 1
  assemblyManifestDigest := turnDigest
  assemblyInputDigest := turnDigest
  promptDigest := turnDigest
  checkpointId := "checkpoint"
  checkpointDigest := turnDigest
  recoveryId := "recovery"
  recoveryRevision := 1
  runtimeInstanceDigest := turnDigest
  runtimeMappingDigest := turnDigest
  runtimeThreadId := "thread"
  runtimeThreadIdDigest := turnDigest

lemma RuntimeTurnScope.validate_sample : RuntimeTurnScope.sample.validate .sample = .ok () := by
  have hi : isIdentifier "thread" = true := by decide +kernel
  simp [RuntimeTurnScope.validate, RuntimeTurnScope.sample, isSha256_textDigest, hi, turnDigest]

namespace RuntimeTurnAttempt

/-- A prepared attempt. -/
def preparedSample : RuntimeTurnAttempt :=
  prepared .sample "turn" .sample 10

lemma valid_preparedSample : preparedSample.Valid .sample :=
  valid_prepared RuntimeTurnScope.validate_sample

end RuntimeTurnAttempt

end Hartevo
