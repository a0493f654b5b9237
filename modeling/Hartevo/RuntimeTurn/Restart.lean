import Hartevo.RuntimeTurn.Recording

/-!
# Reachable attempts and restarts

An attempt is reachable when successful commands lead to it from `prepare`.  `Sound` is what holds
of every reachable attempt.

After a restart of the coordinator a reachable attempt is fenced, unless a local approval is
pending: then the frozen attempt keeps the request, and validation refuses it.
-/

namespace Hartevo

open Command

namespace RuntimeTurnAttempt

variable {enc : RuntimeTurnEncoding} {self next : RuntimeTurnAttempt}
  {cmd : RuntimeTurnCommand} {draft : Draft} {reply : RuntimeTurnReply} {now : DateTime}

/-! ## Successful commands -/

/-- A command that succeeds had nothing to do, or recorded its plan and left a valid attempt. -/
lemma step_ok (h : self.step enc cmd = (.ok reply, next)) :
    (self.plan enc cmd = .ok none ∧ next = self) ∨
      ∃ draft, Planned enc self cmd draft ∧ reply = draft.reply ∧
        next = draft.recorded cmd.now ∧ next.Valid enc := by
  rw [step_eq] at h
  rcases hp : self.plan enc cmd with refusal | - | draft
  · rw [hp] at h
    cases h
  · rw [hp] at h
    cases h
    exact .inl ⟨rfl, rfl⟩
  · rw [hp, carryOut] at h
    rcases he : (appendEvidence enc draft.kind draft.digest cmd.now).exec draft.attempt
      with ⟨refusal | u, att⟩
    · rw [he] at h
      cases h
    · rw [he] at h
      cases h
      obtain ⟨-, -, hn, hv⟩ := exec_appendEvidence_ok.mp he
      exact .inr ⟨draft, planned_of_plan hp, rfl, hn, hv⟩

lemma Draft.evidence_recorded (hs : self.SameRecord draft.attempt) :
    (draft.recorded now).evidence = self.evidence ++
      [⟨self.revision + 1, draft.kind, draft.digest, draft.attempt.status, now⟩] := by
  simp [Draft.recorded, withEvidence, hs.evidence, hs.revision]

/-! ## Reachable attempts -/

inductive Reachable (enc : RuntimeTurnEncoding) : RuntimeTurnAttempt → Prop
  | prepare {id : RuntimeTurnAttemptId} {scope : RuntimeTurnScope} {now : DateTime}
    {attempt : RuntimeTurnAttempt}
    (h : RuntimeTurnAttempt.prepare enc id scope now = .ok attempt) :
    Reachable enc attempt
  | step {attempt next : RuntimeTurnAttempt} {command : RuntimeTurnCommand}
    {reply : RuntimeTurnReply} (hreach : Reachable enc attempt)
    (h : attempt.step enc command = (.ok reply, next)) : Reachable enc next

/-- The turn was not accepted by the runtime yet. -/
def isUnsent (self : RuntimeTurnAttempt) : Prop :=
  self.status = .prepared ∨ self.status = .dispatching

/-- Nothing is known of the turn at the runtime. -/
structure NoIdentity (attempt : RuntimeTurnAttempt) : Prop where
  identity : attempt.runtimeTurnId = none
  identityDigest : attempt.runtimeTurnIdDigest = none
  request : attempt.dispatchRequestDigest = none
  response : attempt.dispatchResponseDigest = none

/-- What holds of every reachable attempt. -/
structure Sound (enc : RuntimeTurnEncoding) (attempt : RuntimeTurnAttempt) : Prop where
  valid : attempt.Valid enc
  observed : ∀ last ∈ attempt.evidence.getLast?, last.observedAt = attempt.updatedAt
  unsent : attempt.isUnsent → attempt.NoIdentity

/-- A turn is unsent after a command only if it was before, and its identity is not touched. -/
lemma Planned.unsent (h : Planned enc self cmd draft)
    (hs : self.isUnsent → self.NoIdentity) (hu : draft.attempt.isUnsent) :
    draft.attempt.NoIdentity := by
  cases h with
  | dispatch hst =>
    have hn := hs (Or.inl hst)
    exact { hn with }
  | dispatchFailed hst =>
    have hn := hs (Or.inr hst)
    exact { hn with }
  | progress => exact hs hu
  | confirm =>
    have hn := hs hu
    exact { hn with }
  | _ => rcases hu with hu | hu <;> cases hu

/-- One successful command keeps what holds of reachable attempts. -/
lemma Sound.step (hs : self.Sound enc)
    (h : self.step enc cmd = (.ok reply, next)) : next.Sound enc := by
  rcases step_ok h with ⟨-, rfl⟩ | ⟨draft, hp, -, rfl, hv⟩
  · exact hs
  · refine ⟨hv, ?_, ?_⟩
    · intro last hl
      rw [Draft.evidence_recorded hp.sameRecord, List.getLast?_concat] at hl
      cases hl
      rfl
    · intro hu
      have hn := hp.unsent hs.unsent hu
      exact { hn with }

lemma Reachable.sound (h : Reachable enc self) : self.Sound enc := by
  induction h with
  | prepare h =>
    obtain ⟨hs, rfl⟩ := prepare_ok.mp h
    refine ⟨valid_prepared hs, ?_, fun _ => ⟨rfl, rfl, rfl, rfl⟩⟩
    intro last hl
    cases hl
    rfl
  | step _ h ih => exact ih.step h

lemma Sound.timely (hs : self.Sound enc) (hnow : self.updatedAt ≤ now)
    (hr : self.evidence.length < maxTurnEvidence) : self.Timely now := by
  refine ⟨hnow, ?_, hr⟩
  intro last hl
  rw [hs.observed last hl]
  exact hnow

lemma Reachable.of_plan (cmd : RuntimeTurnCommand) (hr : Reachable enc self)
    (hp : self.plan enc cmd = .ok (some draft)) (hnow : self.updatedAt ≤ cmd.now)
    (hro : self.evidence.length < maxTurnEvidence) (hf : cmd.fits self = true) :
    Reachable enc (draft.recorded cmd.now) :=
  .step hr (step_of_plan _ hp hr.sound.valid (hr.sound.timely hnow hro) hf)

/-! ## Restarts -/

lemma fence_of_awaiting (hse : self.Sides) (ha : self.status.awaitsApproval = true) :
    ∃ error, ((fenceAfterCoordinatorRestart enc now).exec self).1 = .error error := by
  rcases he : (fenceAfterCoordinatorRestart enc now).exec self with
    ⟨error | disposition, next⟩
  · exact ⟨error, rfl⟩
  exfalso
  have hstep : self.step enc (.fenceAfterCoordinatorRestart now) =
      (.ok (.restarted disposition), next) := by
    rw [step, RuntimeTurnCommand.body, exec_map, he]
    rfl
  rcases step_ok hstep with ⟨hn, -⟩ | ⟨draft, hpl, -, rfl, hv⟩
  · rcases (fence_of_plan_none hn).2 with hs | hs
    · rw [hs] at ha
      cases ha
    · cases hc : self.status <;> rw [hc] at ha hs <;> cases ha <;> cases hs
  · have hp := hse.awaiting
    rw [ha] at hp
    have haf := hv.sides.awaiting
    cases hpl with
    | fenceUnsent hs =>
      rw [hs] at ha
      cases ha
    | fenceLive =>
      change self.pendingApprovalRequestDigest.isSome = false at haf
      rw [hp] at haf
      cases haf

/-- What the fence makes of an attempt. -/
structure Fenced (attempt next : RuntimeTurnAttempt) : Prop where
  prepared : attempt.status = .prepared → next.status = .failed
  live : attempt.status.isLive = true → next.status = .uncertain
  safe : attempt.status = .uncertain ∨ attempt.status.isTerminal = true → next = attempt

lemma plan_fence_ne_error {error : RuntimeTurnError} (hf : self.failures.length < maxTurnFailures) :
    self.plan enc (.fenceAfterCoordinatorRestart now) ≠ .error error := by
  have hr : ∀ text, self.failureRefused (enc.textDigest text) = false := by
    intro text
    simp only [failureRefused, isSha256_textDigest, Bool.not_true, Bool.false_or,
      decide_eq_false_iff_not, not_le]
    exact hf
  intro hp
  simp only [plan, planFailure, restartedBeforeDispatch, restartedWhileLive,
    rejectIf_bind (hr _)] at hp
  split at hp
  · cases hp
  split at hp
  · cases hp
  · cases hp

lemma Planned.fenced (h : Planned enc self (.fenceAfterCoordinatorRestart now) draft) :
    self.Fenced (draft.recorded now) := by
  cases h with
  | fenceUnsent hst =>
    refine ⟨fun _ => rfl, ?_, ?_⟩ <;> rw [hst]
    · intro hl
      cases hl
    · rintro (hs | hs) <;> cases hs
  | fenceLive hl =>
    refine ⟨?_, fun _ => rfl, ?_⟩
    · intro hp
      rw [hp] at hl
      cases hl
    · intro hs
      cases hst : self.status <;> rw [hst] at hl hs <;> cases hl <;>
        rcases hs with hs | hs <;> cases hs

/-- After a restart, every reachable attempt without a pending approval is fenced. -/
theorem fence_of_reachable (hreach : Reachable enc self) (hnow : self.updatedAt ≤ now)
    (hevidence : self.evidence.length < maxTurnEvidence)
    (hfailures : self.failures.length < maxTurnFailures)
    (hawaits : self.status.awaitsApproval = false) :
    ∃ disposition next,
      (fenceAfterCoordinatorRestart enc now).exec self = (.ok disposition, next) ∧
      next.validate enc = .ok () ∧ self.Fenced next := by
  have hso := hreach.sound
  have ht := hso.timely hnow hevidence
  have hstep : ∃ reply next, self.step enc (.fenceAfterCoordinatorRestart now) =
      (.ok reply, next) ∧ next.Valid enc ∧ self.Fenced next := by
    rcases hp : self.plan enc (.fenceAfterCoordinatorRestart now) with refusal | - | draft
    · exact absurd hp (plan_fence_ne_error hfailures)
    · have hs := (fence_of_plan_none hp).2
      refine ⟨_, self, by rw [step_eq, hp]; rfl, hso.valid, ?_, ?_, fun _ => rfl⟩
      · intro hpr
        rw [hpr] at hs
        rcases hs with hs | hs <;> cases hs
      · intro hl
        cases hst : self.status <;> rw [hst] at hl hs <;> cases hl <;>
          rcases hs with hs | hs <;> cases hs
    · have hfi : (RuntimeTurnCommand.fenceAfterCoordinatorRestart now).fits self = true := by
        simp [RuntimeTurnCommand.fits, hawaits]
      have hpl := planned_of_plan hp
      exact ⟨_, _, step_of_plan _ hp hso.valid ht hfi, hpl.valid hso.valid ht hfi, hpl.fenced⟩
  obtain ⟨reply, next, he, hv, hfe⟩ := hstep
  have hsu : (self.step enc (.fenceAfterCoordinatorRestart now)).1 = .ok reply := by
    rw [he]
  obtain ⟨disposition, next', hf, -, hn⟩ := exec_map_ok hsu
  have hsa : next' = next := hn.symm.trans (congrArg Prod.snd he)
  rw [hsa] at hf
  exact ⟨disposition, next, hf, validate_ok.mpr hv, hfe⟩

lemma reachable_preparedSample : Reachable .sample preparedSample :=
  .prepare (prepare_of_scope RuntimeTurnScope.validate_sample)

/-- The sample while it is dispatched. -/
def dispatchingSample : RuntimeTurnAttempt :=
  Draft.recorded ⟨{ preparedSample with status := .dispatching }, .dispatchStarted,
    preparedSample.dispatchEvidence .sample, .done⟩ 11

/-- The sample when the runtime has accepted it. -/
def runningSample : RuntimeTurnAttempt :=
  Draft.recorded ⟨{ dispatchingSample with
    runtimeTurnIdDigest := some (RuntimeTurnEncoding.sample.textDigest "runtime")
    runtimeTurnId := some "runtime"
    dispatchRequestDigest := some turnDigest
    dispatchResponseDigest := some turnDigest
    status := .running }, .dispatchAccepted, turnDigest, .done⟩ 12

/-- The sample when it asks for an approval. -/
def waitingSample : RuntimeTurnAttempt :=
  Draft.recorded ⟨{ runningSample with
    pendingApprovalRequestDigest := some turnDigest
    status := .waitingLocalApproval }, .localApprovalRequested, turnDigest, .done⟩ 13

lemma reachable_runningSample : Reachable .sample runningSample := by
  have hi : isIdentifier "runtime" = true := by decide +kernel
  have hd : Reachable .sample dispatchingSample :=
    reachable_preparedSample.of_plan (.beginDispatch 11) rfl (by decide) (by decide) rfl
  refine hd.of_plan (.acceptDispatch "runtime" turnDigest turnDigest 12) ?_
    (by decide) (by decide) rfl
  simp only [plan, hi, isSha256_turnDigest]
  rfl

/-- A live turn is frozen. -/
theorem fence_of_reachable_runningSample :
    runningSample.status.isLive = true ∧ ∃ disposition next,
      (fenceAfterCoordinatorRestart .sample 13).exec runningSample = (.ok disposition, next) ∧
      next.validate .sample = .ok () ∧ runningSample.Fenced next :=
  ⟨rfl, fence_of_reachable reachable_runningSample (by decide) (by decide) (by decide) rfl⟩

lemma reachable_waitingSample : Reachable .sample waitingSample := by
  refine reachable_runningSample.of_plan (.requestLocalApproval turnDigest 13) ?_
    (by decide) (by decide) rfl
  simp only [plan, isSha256_turnDigest]
  rfl

/-- The fence fails on a reachable attempt that waits for an approval. -/
theorem fence_refuses_waitingSample :
    Reachable .sample waitingSample ∧ waitingSample.updatedAt ≤ 14 ∧
      waitingSample.evidence.length < maxTurnEvidence ∧
      waitingSample.failures.length < maxTurnFailures ∧
      ∃ error,
        ((fenceAfterCoordinatorRestart .sample 14).exec waitingSample).1 = .error error :=
  ⟨reachable_waitingSample, by decide, by decide, by decide,
    fence_of_awaiting reachable_waitingSample.sound.valid.sides rfl⟩

end RuntimeTurnAttempt

end Hartevo
