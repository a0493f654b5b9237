import Hartevo.RuntimeTurn.Restart

/-!
# The storage fence

A store replaces an attempt only if `validateTransitionFrom` accepts the new one over the old one.
The relation is written apart from the commands.  It accepts what a successful command made of a
reachable attempt, with two exceptions: a second confirmation of an interrupt overwrites the digest
of the request, which the relation asks to be written once, and a fence that had nothing to do
leaves the revision where it was.
-/

namespace Hartevo

/-- The command does not confirm an interrupt under another request than before, and is no fence of
an attempt that is safe already. -/
def RuntimeTurnCommand.advances (attempt : RuntimeTurnAttempt) : RuntimeTurnCommand → Bool
  | .confirmInterrupt requestDigest _ _ => attempt.interruptRequestDigest.all (· == requestDigest)
  | .fenceAfterCoordinatorRestart _ =>
    attempt.status != .uncertain && !attempt.status.isTerminal
  | _ => true

namespace RuntimeTurnAttempt

variable {enc : RuntimeTurnEncoding} {self next : RuntimeTurnAttempt}
  {cmd command : RuntimeTurnCommand} {draft : Draft} {reply : RuntimeTurnReply}

/-! ## Write-once fields -/

lemma changed_self (value : Option String) : changed value value = false := by
  cases value <;> simp [changed]

/-- The fields that are written once. -/
structure WriteOnce (attempt next : RuntimeTurnAttempt) : Prop where
  identity : changed attempt.runtimeTurnId next.runtimeTurnId = false
  identityDigest : changed attempt.runtimeTurnIdDigest next.runtimeTurnIdDigest = false
  request : changed attempt.dispatchRequestDigest next.dispatchRequestDigest = false
  response : changed attempt.dispatchResponseDigest next.dispatchResponseDigest = false

lemma Planned.writeOnce (h : Planned enc self cmd draft)
    (hs : self.isUnsent → self.NoIdentity) : self.WriteOnce draft.attempt := by
  cases h with
  | accept hst =>
    have hn := hs (Or.inr hst)
    refine ⟨?_, ?_, ?_, ?_⟩
    · rw [hn.identity]
      rfl
    · rw [hn.identityDigest]
      rfl
    · rw [hn.request]
      rfl
    · rw [hn.response]
      rfl
  | _ => exact ⟨changed_self _, changed_self _, changed_self _, changed_self _⟩

/-- The digest of the request to interrupt changes only by another confirmation. -/
lemma Planned.interrupt_unchanged (h : Planned enc self cmd draft) (ha : cmd.advances self = true) :
    changed self.interruptRequestDigest draft.attempt.interruptRequestDigest = false := by
  cases h with
  | confirm =>
    simp only [RuntimeTurnCommand.advances] at ha
    cases hd : self.interruptRequestDigest with
    | none => rfl
    | some digest =>
      rw [hd, Option.all_some, beq_iff_eq] at ha
      rw [ha]
      exact changed_self _
  | _ => exact changed_self _

/-! ## Accepted transitions -/

/-- A plan only adds to the failures. -/
lemma Planned.failures_grow (h : Planned enc self cmd draft) :
    self.failures.length ≤ draft.attempt.failures.length ∧
      draft.attempt.failures.length ≤ self.failures.length + 1 ∧
      self.failures.isPrefixOf draft.attempt.failures = true := by
  rcases h.failures with hn | ⟨fl, hm, -, -⟩
  · rw [hn]
    simp
  · rw [hm]
    simp

lemma Planned.validateTransitionFrom (h : Planned enc self cmd draft)
    (hse : self.Sound enc) (had : cmd.advances self = true)
    (hv : (draft.recorded cmd.now).Valid enc) :
    (draft.recorded cmd.now).validateTransitionFrom enc self = .ok () := by
  have hs := h.sameRecord
  have ho := h.writeOnce hse.unsent
  have hev : (draft.recorded cmd.now).evidence = self.evidence ++
      [⟨self.revision + 1, draft.kind, draft.digest, draft.attempt.status, cmd.now⟩] :=
    Draft.evidence_recorded hs
  have hla : (draft.recorded cmd.now).evidence.getLast? =
      some ⟨self.revision + 1, draft.kind, draft.digest, draft.attempt.status, cmd.now⟩ := by
    rw [hev, List.getLast?_concat]
  have hrev : (draft.recorded cmd.now).revision = self.revision + 1 := congrArg (· + 1) hs.revision
  have hl : (draft.recorded cmd.now).evidence.length = self.evidence.length + 1 := by
    rw [hev, List.length_append, List.length_singleton]
  have he : self.evidence.isPrefixOf (draft.recorded cmd.now).evidence = true := by
    rw [hev]
    simp
  obtain ⟨hm, ha, hf⟩ := h.failures_grow
  refine check_ok.mpr ⟨validate_ok.mpr hv, check_ok.mpr
    ⟨validate_ok.mpr hse.valid, bind_ok.mpr ⟨_, okOr_ok.mpr hla, ?_⟩⟩⟩
  simp only [passed, and_assoc]
  exact ⟨hs.id, hs.scope, hs.createdAt, hrev, hl, he, hm, ha, hf, ho.identity,
    ho.identityDigest, ho.request, ho.response, h.interrupt_unchanged had, h.transition⟩

/-- What a successful command makes of a reachable attempt is accepted over it. -/
theorem command_accepted (hreach : Reachable enc self)
    (h : self.step enc command = (.ok reply, next)) (hadvances : command.advances self = true) :
    next.validate enc = .ok () ∧ next.validateTransitionFrom enc self = .ok () := by
  rcases step_ok h with ⟨hn, -⟩ | ⟨draft, hp, -, rfl, hv⟩
  · obtain ⟨⟨now, rfl⟩, hs⟩ := fence_of_plan_none hn
    simp only [RuntimeTurnCommand.advances, Bool.and_eq_true, bne_iff_ne, ne_eq,
      Bool.not_eq_true'] at hadvances
    rcases hs with hu | ht
    · exact absurd hu hadvances.1
    · rw [ht] at hadvances
      cases hadvances.2
  · exact ⟨validate_ok.mpr hv, hp.validateTransitionFrom hreach.sound hadvances hv⟩

/-- The dispatch of the sample is accepted. -/
theorem command_accepted_beginDispatch :
    dispatchingSample.validate .sample = .ok () ∧
      dispatchingSample.validateTransitionFrom .sample preparedSample = .ok () := by
  have ht : preparedSample.Timely 11 :=
    reachable_preparedSample.sound.timely (by decide) (by decide)
  have hstep : preparedSample.step .sample (.beginDispatch 11) = (.ok .done, dispatchingSample) :=
    step_of_plan (.beginDispatch 11) rfl valid_preparedSample ht rfl
  exact command_accepted reachable_preparedSample hstep rfl

/-! ## A second confirmation -/

/-- A digest that is not the one of the sample. -/
def otherDigest : String :=
  "1111111111111111111111111111111111111111111111111111111111111111"

/-- The sample when its interrupt is asked for. -/
def interruptingSample : RuntimeTurnAttempt :=
  Draft.recorded ⟨{ runningSample with
    pendingApprovalRequestDigest := none
    status := .interruptRequested }, .interruptRequested, runningSample.interruptEvidence .sample,
    .done⟩ 13

/-- The sample when its interrupt is confirmed under a request. -/
def confirmedSample : RuntimeTurnAttempt :=
  Draft.recorded ⟨{ interruptingSample with interruptRequestDigest := some turnDigest },
    .interruptAccepted, turnDigest, .done⟩ 14

/-- The sample when its interrupt is confirmed again, under another request. -/
def reconfirmedSample : RuntimeTurnAttempt :=
  Draft.recorded ⟨{ confirmedSample with interruptRequestDigest := some otherDigest },
    .interruptAccepted, turnDigest, .done⟩ 15

lemma reachable_confirmedSample : Reachable .sample confirmedSample := by
  have hi : Reachable .sample interruptingSample :=
    reachable_runningSample.of_plan (.beginInterrupt 13) rfl (by decide) (by decide) rfl
  refine hi.of_plan (.confirmInterrupt turnDigest turnDigest 14) ?_ (by decide) (by decide) rfl
  simp only [plan, isSha256_turnDigest]
  rfl

/-- The second confirmation succeeds, and its result is not accepted over the first. -/
theorem confirmInterrupt_twice_not_accepted :
    Reachable .sample confirmedSample ∧
      confirmedSample.step .sample (.confirmInterrupt otherDigest turnDigest 15) =
        (.ok .done, reconfirmedSample) ∧
      reconfirmedSample.validateTransitionFrom .sample confirmedSample ≠ .ok () := by
  have ho : isSha256 otherDigest = true := by decide +kernel
  have hp : confirmedSample.plan .sample (.confirmInterrupt otherDigest turnDigest 15) =
      .ok (some ⟨{ confirmedSample with interruptRequestDigest := some otherDigest },
        .interruptAccepted, turnDigest, .done⟩) := by
    simp only [plan, isSha256_turnDigest, ho]
    rfl
  have ht : confirmedSample.Timely 15 :=
    reachable_confirmedSample.sound.timely (by decide) (by decide)
  refine ⟨reachable_confirmedSample, ?_, ?_⟩
  · exact step_of_plan _ hp reachable_confirmedSample.sound.valid ht rfl
  · intro ha
    obtain ⟨-, h⟩ := check_ok.mp ha
    obtain ⟨-, h⟩ := check_ok.mp h
    obtain ⟨last, -, h⟩ := bind_ok.mp h
    simp only [passed] at h
    have hc : changed (some turnDigest) (some otherDigest) = false := h.1.2
    revert hc
    decide +kernel

end RuntimeTurnAttempt

end Hartevo
