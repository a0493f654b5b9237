import Hartevo.RuntimeTurn.Commands

/-!
# What a runtime turn command writes

All commands of a runtime turn have one form: they check, they write, and they record an entry.
`RuntimeTurnAttempt.plan` is what a command writes before it records the entry, if it comes so far,
and `RuntimeTurnAttempt.step_eq` says that a command is its plan and then the entry.

`RuntimeTurnAttempt.Planned` lists the plans with what was checked before.  It is the one case
analysis of the commands; later proofs go through it.
-/

namespace Hartevo

open Command

namespace RuntimeTurnAttempt

variable {rest : Unit → Command RuntimeTurnAttempt RuntimeTurnError RuntimeTurnReply}
  {next : RuntimeTurnAttempt → RuntimeTurnAttempt} {now : DateTime} {kind : RuntimeTurnEvidenceKind}
  {rp : RuntimeTurnReply} {class_ : RuntimeTurnFailureClass} {ev : String}

/-! ## Plans -/

/-- What a command wrote when it comes to record its entry, the entry, and what it returns if the
entry is recorded. -/
structure Draft where
  attempt : RuntimeTurnAttempt
  kind : RuntimeTurnEvidenceKind
  digest : String
  reply : RuntimeTurnReply

/-- A failure and the status after it. -/
def planFailure (class_ : RuntimeTurnFailureClass) (evidenceDigest : String) (now : DateTime)
    (next : RuntimeTurnAttempt → RuntimeTurnAttempt) (kind : RuntimeTurnEvidenceKind)
    (reply : RuntimeTurnReply) (self : RuntimeTurnAttempt) :
    Except RuntimeTurnError (Option Draft) := do
  rejectIf (self.failureRefused evidenceDigest) .invalidEvidence
  return some ⟨next (self.withFailure class_ evidenceDigest now), kind, evidenceDigest, reply⟩

/-- What a command does before it records its entry: it refuses, it has nothing to do, or it comes
to record. -/
def plan (enc : RuntimeTurnEncoding) (self : RuntimeTurnAttempt) :
    RuntimeTurnCommand → Except RuntimeTurnError (Option Draft)
  | .beginDispatch _ => do
    self.requireStatus .prepared
    return some ⟨{ self with status := .dispatching }, .dispatchStarted,
      self.dispatchEvidence enc, .done⟩
  | .failWithoutDispatch evidenceDigest now => do
    self.requireStatus .prepared
    self.planFailure .dispatchNotSent evidenceDigest now ({ · with status := .failed }) .failed
      .done
  | .acceptDispatch runtimeTurnId requestDigest responseDigest _ => do
    self.requireStatus .dispatching
    rejectIf (!isIdentifier runtimeTurnId || !isSha256 requestDigest || !isSha256 responseDigest)
      .invalidEvidence
    return some ⟨{ self with
      runtimeTurnIdDigest := some (enc.textDigest runtimeTurnId)
      runtimeTurnId := some runtimeTurnId
      dispatchRequestDigest := some requestDigest
      dispatchResponseDigest := some responseDigest
      status := .running }, .dispatchAccepted, responseDigest, .done⟩
  | .failDispatch class_ evidenceDigest definitive now => do
    self.requireStatus .dispatching
    self.planFailure class_ evidenceDigest now
      ({ · with status := if definitive then .failed else .uncertain })
      (if definitive then .failed else .uncertain) .done
  | .observe kind evidenceDigest now => do
    rejectIf (!isSha256 evidenceDigest) .invalidEvidence
    rejectIf (!self.activeWithIdentity) .invalidTransition
    match kind with
    | .failed =>
      self.planFailure .runtimeReportedFailure evidenceDigest now (finished .failed) .failed .done
    | .completed => return some ⟨self.finished .completed, .completed, evidenceDigest, .done⟩
    | .interrupted => return some ⟨self.finished .interrupted, .interrupted, evidenceDigest, .done⟩
    | kind => return some ⟨self, kind.evidenceKind, evidenceDigest, .done⟩
  | .requestLocalApproval requestDigest _ => do
    self.requireStatus .running
    rejectIf (!isSha256 requestDigest || self.pendingApprovalRequestDigest.isSome) .invalidEvidence
    return some ⟨{ self with
      pendingApprovalRequestDigest := some requestDigest
      status := .waitingLocalApproval }, .localApprovalRequested, requestDigest, .done⟩
  | .beginLocalApprovalResponse requestDigest decisionDigest _ => do
    self.requireStatus .waitingLocalApproval
    rejectIf (self.pendingApprovalRequestDigest != some requestDigest || !isSha256 decisionDigest)
      .invalidEvidence
    return some ⟨{ self with
      approvalDecisionDigest := some decisionDigest
      status := .approvalResponding }, .localApprovalResponseStarted, decisionDigest, .done⟩
  | .finishLocalApprovalResponse responseDigest _ => do
    self.requireStatus .approvalResponding
    rejectIf (!isSha256 responseDigest) .invalidEvidence
    return some ⟨{ self with pendingApprovalRequestDigest := none, status := .running },
      .localApprovalResponseSent, responseDigest, .done⟩
  | .beginInterrupt _ => do
    rejectIf (!(self.status == .running || self.status == .waitingLocalApproval))
      .invalidTransition
    return some ⟨{ self with
      pendingApprovalRequestDigest := none
      status := .interruptRequested }, .interruptRequested, self.interruptEvidence enc, .done⟩
  | .confirmInterrupt requestDigest responseDigest _ => do
    self.requireStatus .interruptRequested
    rejectIf (!isSha256 requestDigest || !isSha256 responseDigest) .invalidEvidence
    return some ⟨{ self with interruptRequestDigest := some requestDigest }, .interruptAccepted,
      responseDigest, .done⟩
  | .freezeUncertain class_ evidenceDigest now => do
    rejectIf (!self.status.isLive) .invalidTransition
    self.planFailure class_ evidenceDigest now ({ · with status := .uncertain }) .uncertain .done
  | .fenceAfterCoordinatorRestart now =>
    if self.status == .prepared then
      self.planFailure .dispatchNotSent (restartedBeforeDispatch enc) now
        ({ · with status := .failed }) .failed (.restarted .failedBeforeDispatch)
    else if self.status.isLive then
      self.planFailure .coordinatorRestart (restartedWhileLive enc) now
        ({ · with status := .uncertain }) .uncertain (.restarted .frozenUncertain)
    else return none

/-- Carry out a plan: refuse and change nothing, do nothing, or record the entry. -/
def carryOut (enc : RuntimeTurnEncoding) (now : DateTime) (self : RuntimeTurnAttempt) :
    Except RuntimeTurnError (Option Draft) →
      Except RuntimeTurnError RuntimeTurnReply × RuntimeTurnAttempt
  | .error error => (.error error, self)
  | .ok none => (.ok (.restarted .alreadySafe), self)
  | .ok (some draft) =>
    ((fun _ => draft.reply) <$>
        ((appendEvidence enc draft.kind draft.digest now).exec draft.attempt).1,
      ((appendEvidence enc draft.kind draft.digest now).exec draft.attempt).2)

section Plan

variable {enc : RuntimeTurnEncoding} {self att : RuntimeTurnAttempt}

lemma exec_check_bind_carryOut {g : RuntimeTurnAttempt → Except RuntimeTurnError Unit}
    {next : Unit → Except RuntimeTurnError (Option Draft)}
    (h : g self = .ok () → (rest ()).exec self = carryOut enc now self (next ())) :
    (check g >>= rest).exec self = carryOut enc now self (g self >>= next) := by
  cases hg : g self with
  | error => exact exec_check_bind_of_error hg
  | ok =>
    rw [exec_check_bind_of_ok hg]
    exact h hg

lemma exec_appendEvidence_carryOut {digest : String} :
    ((fun _ => rp) <$> appendEvidence enc kind digest now).exec att =
      carryOut enc now self (pure (some ⟨att, kind, digest, rp⟩)) :=
  exec_map _ _ _

lemma exec_recordFailure_carryOut
    (h : ∀ s, (rest ()).exec s = carryOut enc now self (pure (some ⟨next s, kind, ev, rp⟩))) :
    (recordFailure class_ ev now >>= rest).exec self = carryOut enc now self
      (self.planFailure class_ ev now next kind rp) := by
  rw [recordFailure, bind_assoc]
  refine exec_check_bind_carryOut fun _ => ?_
  exact h _

lemma exec_failWithoutDispatch_carryOut :
    ((fun _ => rp) <$> failWithoutDispatch enc ev now).exec self =
      carryOut enc now self (self.requireStatus .prepared >>= fun _ =>
        self.planFailure .dispatchNotSent ev now ({ · with status := .failed }) .failed
          rp) := by
  simp only [failWithoutDispatch, map_bind]
  refine exec_check_bind_carryOut fun _ => exec_recordFailure_carryOut fun _ => ?_
  rw [exec_modify_bind]
  exact exec_appendEvidence_carryOut

lemma exec_freezeUncertain_carryOut :
    ((fun _ => rp) <$> freezeUncertain enc class_ ev now).exec self =
      carryOut enc now self (rejectIf (!self.status.isLive) .invalidTransition >>= fun _ =>
        self.planFailure class_ ev now ({ · with status := .uncertain }) .uncertain
          rp) := by
  simp only [freezeUncertain, map_bind]
  refine exec_check_bind_carryOut (g := fun s => rejectIf (!s.status.isLive) .invalidTransition)
    fun _ => exec_recordFailure_carryOut fun _ => ?_
  rw [exec_modify_bind]
  exact exec_appendEvidence_carryOut

lemma exec_fence_carryOut : (.restarted <$> fenceAfterCoordinatorRestart enc now :
        Command RuntimeTurnAttempt RuntimeTurnError RuntimeTurnReply).exec self =
      carryOut enc now self (self.plan enc (.fenceAfterCoordinatorRestart now)) := by
  simp only [fenceAfterCoordinatorRestart, plan, map_bind]
  rw [exec_read_bind]
  by_cases hp : self.status = .prepared
  · rw [hp]
    simp only [bind_pure_comp, Functor.map_map, beq_self_eq_true, if_true]
    rw [exec_failWithoutDispatch_carryOut, requireStatus, rejectIf_bind (by rw [hp]; rfl)]
  by_cases hl : self.status.isLive = true
  · have hf : ((fun _ => .restarted .frozenUncertain) <$>
        freezeUncertain enc .coordinatorRestart (restartedWhileLive enc) now).exec self =
        carryOut enc now self (self.planFailure .coordinatorRestart
          (restartedWhileLive enc) now ({ · with status := .uncertain }) .uncertain
          (.restarted .frozenUncertain)) := by
      rw [exec_freezeUncertain_carryOut, rejectIf_bind (by rw [hl]; rfl)]
    simp only [beq_iff_eq, hp, hl, if_true, if_false]
    refine Eq.trans ?_ hf
    cases hs : self.status <;>
      simp_all [RuntimeTurnStatus.isLive, bind_pure_comp, Functor.map_map]
  · simp only [beq_iff_eq, hp, hl, if_false]
    cases hs : self.status <;> simp_all [RuntimeTurnStatus.isLive] <;> rfl

lemma step_eq (cmd : RuntimeTurnCommand) :
    self.step enc cmd = carryOut enc cmd.now self (self.plan enc cmd) := by
  cases cmd with
  | beginDispatch =>
    simp only [step, RuntimeTurnCommand.body, beginDispatch, plan, map_bind]
    refine exec_check_bind_carryOut fun _ => ?_
    rw [exec_modify_bind, exec_read_bind]
    exact exec_appendEvidence_carryOut
  | failWithoutDispatch => exact exec_failWithoutDispatch_carryOut
  | failDispatch =>
    simp only [step, RuntimeTurnCommand.body, failDispatch, plan, map_bind]
    refine exec_check_bind_carryOut fun _ => exec_recordFailure_carryOut fun _ => ?_
    rw [exec_modify_bind]
    exact exec_appendEvidence_carryOut
  | observe kind =>
    simp only [step, RuntimeTurnCommand.body, observe, plan, map_bind]
    refine exec_check_bind_carryOut fun _ => exec_check_bind_carryOut fun _ => ?_
    cases kind with
    | failed =>
      simp only [applyObservation, bind_assoc, pure_bind]
      refine exec_recordFailure_carryOut fun _ => ?_
      rw [exec_modify_bind]
      exact exec_appendEvidence_carryOut
    | completed | interrupted =>
      simp only [applyObservation, bind_assoc, pure_bind]
      rw [exec_modify_bind]
      exact exec_appendEvidence_carryOut
    | _ =>
      simp only [applyObservation, pure_bind]
      exact exec_appendEvidence_carryOut
  | beginInterrupt =>
    simp only [step, RuntimeTurnCommand.body, beginInterrupt, plan, map_bind]
    refine exec_check_bind_carryOut fun _ => ?_
    rw [exec_modify_bind, exec_read_bind]
    exact exec_appendEvidence_carryOut
  | freezeUncertain => exact exec_freezeUncertain_carryOut
  | fenceAfterCoordinatorRestart => exact exec_fence_carryOut
  -- The others make two checks and write once.
  | _ =>
    simp only [step, RuntimeTurnCommand.body, acceptDispatch, requestLocalApproval,
      beginLocalApprovalResponse, finishLocalApprovalResponse, confirmInterrupt, plan, map_bind]
    apply exec_check_bind_carryOut
    intro _
    apply exec_check_bind_carryOut
    intro _
    rw [exec_modify_bind]
    exact exec_appendEvidence_carryOut

end Plan

/-! ## The list of the plans -/

section

variable (enc : RuntimeTurnEncoding) (self : RuntimeTurnAttempt)

/-- What a command comes to record, with what it checked. -/
inductive Planned : RuntimeTurnCommand → Draft → Prop
  | dispatch {now : DateTime} (hstatus : self.status = .prepared) :
    Planned (.beginDispatch now)
      ⟨{ self with status := .dispatching }, .dispatchStarted, self.dispatchEvidence enc,
        .done⟩
  | notSent {evidenceDigest : String} {now : DateTime} (hstatus : self.status = .prepared)
    (hfailure : self.failureRefused evidenceDigest = false) :
    Planned (.failWithoutDispatch evidenceDigest now)
      ⟨{ self.withFailure .dispatchNotSent evidenceDigest now with status := .failed }, .failed,
        evidenceDigest, .done⟩
  | accept {runtimeTurnId requestDigest responseDigest : String} {now : DateTime}
    (hstatus : self.status = .dispatching) (hidentity : isIdentifier runtimeTurnId = true)
    (hrequest : isSha256 requestDigest = true) (hresponse : isSha256 responseDigest = true) :
    Planned (.acceptDispatch runtimeTurnId requestDigest responseDigest now)
      ⟨{ self with
          runtimeTurnIdDigest := some (enc.textDigest runtimeTurnId)
          runtimeTurnId := some runtimeTurnId
          dispatchRequestDigest := some requestDigest
          dispatchResponseDigest := some responseDigest
          status := .running }, .dispatchAccepted, responseDigest, .done⟩
  | dispatchFailed {class_ : RuntimeTurnFailureClass} {evidenceDigest : String} {definitive : Bool}
    {now : DateTime} (hstatus : self.status = .dispatching)
    (hfailure : self.failureRefused evidenceDigest = false) :
    Planned (.failDispatch class_ evidenceDigest definitive now)
      ⟨{ self.withFailure class_ evidenceDigest now with
          status := if definitive then .failed else .uncertain },
        if definitive then .failed else .uncertain, evidenceDigest, .done⟩
  | progress {kind : RuntimeTurnObservedKind} {evidenceDigest : String} {now : DateTime}
    (hactive : self.activeWithIdentity = true) (hdigest : isSha256 evidenceDigest = true)
    (hkind : kind.evidenceKind.isProgress = true) :
    Planned (.observe kind evidenceDigest now)
      ⟨self, kind.evidenceKind, evidenceDigest, .done⟩
  | completed {evidenceDigest : String} {now : DateTime}
    (hactive : self.activeWithIdentity = true) (hdigest : isSha256 evidenceDigest = true) :
    Planned (.observe .completed evidenceDigest now)
      ⟨self.finished .completed, .completed, evidenceDigest, .done⟩
  | interrupted {evidenceDigest : String} {now : DateTime}
    (hactive : self.activeWithIdentity = true) (hdigest : isSha256 evidenceDigest = true) :
    Planned (.observe .interrupted evidenceDigest now)
      ⟨self.finished .interrupted, .interrupted, evidenceDigest, .done⟩
  | reportedFailure {evidenceDigest : String} {now : DateTime}
    (hactive : self.activeWithIdentity = true)
    (hfailure : self.failureRefused evidenceDigest = false) :
    Planned (.observe .failed evidenceDigest now)
      ⟨(self.withFailure .runtimeReportedFailure evidenceDigest now).finished .failed, .failed,
        evidenceDigest, .done⟩
  | request {requestDigest : String} {now : DateTime} (hstatus : self.status = .running)
    (hdigest : isSha256 requestDigest = true)
    (hpending : self.pendingApprovalRequestDigest = none) :
    Planned (.requestLocalApproval requestDigest now)
      ⟨{ self with
          pendingApprovalRequestDigest := some requestDigest
          status := .waitingLocalApproval }, .localApprovalRequested, requestDigest, .done⟩
  | respond {requestDigest decisionDigest : String} {now : DateTime}
    (hstatus : self.status = .waitingLocalApproval)
    (hpending : self.pendingApprovalRequestDigest = some requestDigest)
    (hdigest : isSha256 decisionDigest = true) :
    Planned (.beginLocalApprovalResponse requestDigest decisionDigest now)
      ⟨{ self with
          approvalDecisionDigest := some decisionDigest
          status := .approvalResponding }, .localApprovalResponseStarted, decisionDigest, .done⟩
  | sent {responseDigest : String} {now : DateTime} (hstatus : self.status = .approvalResponding)
    (hdigest : isSha256 responseDigest = true) :
    Planned (.finishLocalApprovalResponse responseDigest now)
      ⟨{ self with pendingApprovalRequestDigest := none, status := .running },
        .localApprovalResponseSent, responseDigest, .done⟩
  | interrupt {now : DateTime}
    (hstatus : self.status = .running ∨ self.status = .waitingLocalApproval) :
    Planned (.beginInterrupt now)
      ⟨{ self with
          pendingApprovalRequestDigest := none
          status := .interruptRequested }, .interruptRequested, self.interruptEvidence enc,
        .done⟩
  | confirm {requestDigest responseDigest : String} {now : DateTime}
    (hstatus : self.status = .interruptRequested) (hrequest : isSha256 requestDigest = true)
    (hresponse : isSha256 responseDigest = true) :
    Planned (.confirmInterrupt requestDigest responseDigest now)
      ⟨{ self with interruptRequestDigest := some requestDigest }, .interruptAccepted,
        responseDigest, .done⟩
  | freeze {class_ : RuntimeTurnFailureClass} {evidenceDigest : String} {now : DateTime}
    (hlive : self.status.isLive = true) (hfailure : self.failureRefused evidenceDigest = false) :
    Planned (.freezeUncertain class_ evidenceDigest now)
      ⟨{ self.withFailure class_ evidenceDigest now with status := .uncertain }, .uncertain,
        evidenceDigest, .done⟩
  | fenceUnsent {now : DateTime} (hstatus : self.status = .prepared)
    (hfailure : self.failureRefused (restartedBeforeDispatch enc) = false) :
    Planned (.fenceAfterCoordinatorRestart now)
      ⟨{ self.withFailure .dispatchNotSent (restartedBeforeDispatch enc) now with
          status := .failed }, .failed, restartedBeforeDispatch enc,
        .restarted .failedBeforeDispatch⟩
  | fenceLive {now : DateTime} (hlive : self.status.isLive = true)
    (hfailure : self.failureRefused (restartedWhileLive enc) = false) :
    Planned (.fenceAfterCoordinatorRestart now)
      ⟨{ self.withFailure .coordinatorRestart (restartedWhileLive enc) now with
          status := .uncertain }, .uncertain, restartedWhileLive enc,
        .restarted .frozenUncertain⟩

end

section Inversion

variable {enc : RuntimeTurnEncoding} {self : RuntimeTurnAttempt}
  {cmd : RuntimeTurnCommand} {draft : Draft}

lemma requireStatus_ok {expected : RuntimeTurnStatus}
    : self.requireStatus expected = .ok () ↔ self.status = expected := by
  simp [requireStatus]

lemma planFailure_ok (h : self.planFailure class_ ev now next kind rp = .ok (some draft)) :
    self.failureRefused ev = false ∧
      draft = ⟨next (self.withFailure class_ ev now), kind, ev, rp⟩ := by
  obtain ⟨hr, hd⟩ := check_ok.mp h
  cases hd
  exact ⟨rejectIf_ok.mp hr, rfl⟩

lemma planned_of_plan (h : self.plan enc cmd = .ok (some draft)) : Planned enc self cmd draft := by
  cases cmd with
  | beginDispatch =>
    obtain ⟨hs, hd⟩ := check_ok.mp h
    cases hd
    exact .dispatch (requireStatus_ok.mp hs)
  | failWithoutDispatch =>
    obtain ⟨hs, h⟩ := check_ok.mp h
    obtain ⟨hf, rfl⟩ := planFailure_ok h
    exact .notSent (requireStatus_ok.mp hs) hf
  | acceptDispatch =>
    obtain ⟨hs, h⟩ := check_ok.mp h
    obtain ⟨hv, hd⟩ := check_ok.mp h
    simp only [passed] at hv
    obtain ⟨⟨hi, hr⟩, hre⟩ := hv
    cases hd
    exact .accept (requireStatus_ok.mp hs) hi hr hre
  | failDispatch =>
    obtain ⟨hs, h⟩ := check_ok.mp h
    obtain ⟨hf, rfl⟩ := planFailure_ok h
    exact .dispatchFailed (requireStatus_ok.mp hs) hf
  | observe kind =>
    obtain ⟨hdi, h⟩ := check_ok.mp h
    obtain ⟨hact, h⟩ := check_ok.mp h
    simp only [passed] at hdi hact
    cases kind with
    | failed =>
      obtain ⟨hf, rfl⟩ := planFailure_ok h
      exact .reportedFailure hact hf
    | completed =>
      cases h
      exact .completed hact hdi
    | interrupted =>
      cases h
      exact .interrupted hact hdi
    | _ =>
      cases h
      exact .progress hact hdi rfl
  | requestLocalApproval =>
    obtain ⟨hs, h⟩ := check_ok.mp h
    obtain ⟨hv, hd⟩ := check_ok.mp h
    simp only [passed, Option.isSome_eq_false_iff, Option.isNone_iff_eq_none] at hv
    cases hd
    exact .request (requireStatus_ok.mp hs) hv.1 hv.2
  | beginLocalApprovalResponse =>
    obtain ⟨hs, h⟩ := check_ok.mp h
    obtain ⟨hv, hd⟩ := check_ok.mp h
    simp only [passed] at hv
    cases hd
    exact .respond (requireStatus_ok.mp hs) hv.1 hv.2
  | finishLocalApprovalResponse =>
    obtain ⟨hs, h⟩ := check_ok.mp h
    obtain ⟨hdi, hd⟩ := check_ok.mp h
    simp only [passed] at hdi
    cases hd
    exact .sent (requireStatus_ok.mp hs) hdi
  | beginInterrupt =>
    obtain ⟨hs, hd⟩ := check_ok.mp h
    simp only [passed, Bool.or_eq_true, beq_iff_eq] at hs
    cases hd
    exact .interrupt hs
  | confirmInterrupt =>
    obtain ⟨hs, h⟩ := check_ok.mp h
    obtain ⟨hv, hd⟩ := check_ok.mp h
    simp only [passed] at hv
    cases hd
    exact .confirm (requireStatus_ok.mp hs) hv.1 hv.2
  | freezeUncertain =>
    obtain ⟨hl, h⟩ := check_ok.mp h
    obtain ⟨hf, rfl⟩ := planFailure_ok h
    simp only [passed] at hl
    exact .freeze hl hf
  | fenceAfterCoordinatorRestart =>
    simp only [plan, beq_iff_eq] at h
    by_cases hp : self.status = .prepared
    · rw [if_pos hp] at h
      obtain ⟨hf, rfl⟩ := planFailure_ok h
      exact .fenceUnsent hp hf
    rw [if_neg hp] at h
    by_cases hl : self.status.isLive = true
    · rw [if_pos hl] at h
      obtain ⟨hf, rfl⟩ := planFailure_ok h
      exact .fenceLive hl hf
    · rw [if_neg hl] at h
      cases h

/-- Only the fence may have nothing to do, and only when the turn has ended or is frozen. -/
lemma fence_of_plan_none (h : self.plan enc cmd = .ok none) :
    (∃ now, cmd = .fenceAfterCoordinatorRestart now) ∧
      (self.status = .uncertain ∨ self.status.isTerminal = true) := by
  have hf : ∀ {class_ ev now next kind rp},
      self.planFailure class_ ev now next kind rp ≠ .ok none := by
    intro class_ ev now next kind rp hn
    obtain ⟨-, hd⟩ := check_ok.mp hn
    cases hd
  cases cmd with
  | fenceAfterCoordinatorRestart now =>
    refine ⟨⟨now, rfl⟩, ?_⟩
    simp only [plan, beq_iff_eq] at h
    split at h
    · exact absurd h hf
    split at h
    · exact absurd h hf
    · cases hs : self.status <;> simp_all [RuntimeTurnStatus.isLive, RuntimeTurnStatus.isTerminal]
  | observe kind =>
    obtain ⟨-, h⟩ := check_ok.mp h
    obtain ⟨-, h⟩ := check_ok.mp h
    cases kind with
    | failed => exact absurd h hf
    | _ => cases h
  | failWithoutDispatch ev now | failDispatch class_ ev definitive now
  | freezeUncertain class_ ev now =>
    obtain ⟨-, h⟩ := check_ok.mp h
    exact absurd h hf
  | beginDispatch now | beginInterrupt now =>
    obtain ⟨-, h⟩ := check_ok.mp h
    cases h
  | _ =>
    obtain ⟨-, h⟩ := check_ok.mp h
    obtain ⟨-, h⟩ := check_ok.mp h
    cases h

end Inversion

end RuntimeTurnAttempt

end Hartevo
