import Hartevo.Mission.Receipts
import Hartevo.Outcome.Model

/-!
# The review of verified effects

The review of an outcome counts the effects that the Mission calls verified, and checks each of
them again: approval, receipt and verification have to fit together.  The Mission has established
these conditions at different times, from the approval to the verification.  `Effect.Sound` collects
what holds of every effect along the way.

One condition of the review the Mission never asks for: that the receipt was accepted before the
approval ended.  `review_iff` shows that it is the only one, and `review_rejects_verified` is a run
to a verified effect that the review rejects.
-/

namespace Hartevo

open Command

def validateReviewVerifiedEffect (enc : MissionEncoding) (effect : Effect)
    (observedAt : DateTime) : Except OutcomeLedgerError Unit := do
  let approval ← okOr effect.approval .outcomeReviewEffectStateMismatch
  let receipt ← okOr effect.receipt .outcomeReviewEffectStateMismatch
  let verification ← okOr effect.verification .outcomeReviewEffectStateMismatch
  rejectIf (effect.status != .verified || approval.decision != .approved ||
    approval.scopeDigest != effect.approvalDigest enc ||
    !isSha256 approval.permissionDigest || receipt.provider != effect.provider ||
    receipt.requestDigest != effect.approvalDigest enc || isBlank receipt.externalId ||
    !isSha256 receipt.responseDigest || decide (receipt.acceptedAt < approval.decidedAt) ||
    decide (approval.validUntil ≤ receipt.acceptedAt) ||
    decide (effect.expiresAt ≤ receipt.acceptedAt) || verification.status != .confirmed ||
    !verification.independent || isBlank verification.verifier ||
    verification.receiptId != receipt.id ||
    decide (verification.observedAt < receipt.acceptedAt) ||
    decide (observedAt < verification.observedAt) || !isSha256 verification.evidenceDigest)
    .outcomeReviewEffectStateMismatch

/-! ## What holds of every effect -/

structure Verification.Confirms (verification : Verification) (receipt : Receipt) : Prop where
  status : verification.status = .confirmed
  independent : verification.independent = true
  verifier : isBlank verification.verifier = false
  receiptId : verification.receiptId = receipt.id
  observedAt : receipt.acceptedAt ≤ verification.observedAt
  evidenceDigest : isSha256 verification.evidenceDigest = true

/-- The approval is one for the effect as it is, the receipt one for what was approved, and a
verified effect has all three. -/
structure Effect.Sound (enc : MissionEncoding) (e : Effect) : Prop where
  order : e.ResultsInOrder
  approval : ∀ approval, e.approval = some approval →
    approval.scopeDigest = e.approvalDigest enc ∧ isSha256 approval.permissionDigest = true ∧
      (approval.decision = .approved ∨ e.status = .rejected)
  receipt : ∀ receipt, e.receipt = some receipt → validateReceiptScope enc e receipt = .ok ()
  verified : e.status = .verified → ∃ receipt verification, e.receipt = some receipt ∧
    e.verification = some verification ∧ verification.Confirms receipt

namespace Effect.Sound

variable {enc : MissionEncoding} {cmd : MissionCommand} {e e' : Effect}

/-- An effect that can still move was not rejected. -/
lemma decision_eq {apr : Approval} (h : e.Sound enc) (hp : e.status.isPending = true)
    (ha : e.approval = some apr) : apr.decision = .approved := by
  rcases (h.approval apr ha).2.2 with hdec | hr
  · exact hdec
  · rw [hr] at hp
    cases hp

lemma withStatus (h : e.Sound enc) (hp : e.status.isPending = true)
    {status : EffectStatus} (ho : { e with status }.ResultsInOrder)
    (hot : status ≠ .verified) : { e with status }.Sound enc where
  order := ho
  approval approval ha := by
    obtain ⟨hs, hpe, -⟩ := h.approval approval ha
    exact ⟨hs, hpe, Or.inl (h.decision_eq hp ha)⟩
  receipt := h.receipt
  verified hv := absurd hv hot

lemma withReceipt (h : e.Sound enc) (hp : e.status.isPending = true)
    {receipt : Receipt} (hsc : validateReceiptScope enc e receipt = .ok ()) :
    { e with receipt := some receipt, status := .receiptRecorded }.Sound enc where
  order := ⟨nofun, nofun⟩
  approval approval ha := by
    obtain ⟨hd, hpe, -⟩ := h.approval approval ha
    exact ⟨hd, hpe, Or.inl (h.decision_eq hp ha)⟩
  receipt stored hs := by
    cases hs
    exact hsc
  verified hv := by cases hv

lemma move (h : e.Sound enc) (hm : EffectMove enc cmd e e') : e'.Sound enc := by
  have hp := hm.isPending
  have ho := hm.resultsInOrder h.order
  cases hm with
  | @decided _ apr _ hst hs hn hpe =>
    refine ⟨ho, ?_, ?_, ?_⟩
    · rintro known ⟨⟩
      refine ⟨hs, hpe, ?_⟩
      cases hdec : apr.decision with
      | approved => exact .inl rfl
      | rejected => exact .inr (by simp)
    · intro receipt hr
      rw [h.order.receipt (by rw [hst]; rfl)] at hr
      cases hr
    · intro hver
      cases hdec : apr.decision <;> simp [hdec] at hver
  | cancelled | expired | begun | uncertain | failed =>
    exact h.withStatus hp ho (by decide)
  | received _ hs => exact h.withReceipt hp hs
  | recovered _ _ _ _ hs => exact h.withReceipt hp hs
  | @reconciled _ durableState =>
    exact h.withStatus hp ho (by cases durableState <;> decide)
  | @verified _ verification _ receipt hst hr hid hv hi hd
      hob =>
    refine ⟨ho, ?_, h.receipt, ?_⟩
    · intro apr ha
      obtain ⟨hs, hpe, -⟩ := h.approval apr ha
      exact ⟨hs, hpe, Or.inl (h.decision_eq hp ha)⟩
    · intro hver
      have hc : verification.status = .confirmed := by
        cases hres : verification.status <;>
          simp [hres, VerificationStatus.effectStatus] at hver
        rfl
      exact ⟨receipt, verification, hr, rfl, ⟨hc, hi, hv, hid.symm, hob, hd⟩⟩

end Effect.Sound

lemma Mission.sound_proposedEffect (enc : MissionEncoding) (m : Mission)
    (spec : EffectSpec) : (m.proposedEffect spec).Sound enc where
  order := ⟨fun _ => rfl, fun _ => rfl⟩
  approval := nofun
  receipt := nofun
  verified := nofun

/-! ## The review -/

lemma validateReceiptScope_ok {enc : MissionEncoding} {e : Effect} {rc : Receipt}
    (h : validateReceiptScope enc e rc = .ok ()) :
    rc.provider = e.provider ∧ isBlank rc.externalId = false ∧
      rc.requestDigest = e.approvalDigest enc ∧
      isSha256 rc.responseDigest = true ∧ rc.acceptedAt < e.expiresAt ∧
      ∃ apr, e.approval = some apr ∧ apr.decidedAt ≤ rc.acceptedAt := by
  simp only [validateReceiptScope, passed, not_le, and_assoc] at h
  obtain ⟨hp, he, hr, hre, ht, hd⟩ := h
  refine ⟨hp, he, hr, hre, ht, ?_⟩
  cases ha : e.approval with
  | none => rw [ha] at hd; cases hd
  | some apr =>
    rw [ha, Option.all_some, decide_eq_false_iff_not, not_lt] at hd
    exact ⟨apr, rfl, hd⟩

/-- In a run from a compiled Mission, the review accepts a verified effect, at any time from its
verification on, exactly when its receipt was accepted before its approval ended. -/
theorem review_iff (enc : MissionEncoding) {m : Mission} (hstart : m.IsCompiled enc)
    (commands : List MissionCommand) {e : Effect}
    (he : e ∈ (run (Mission.step enc) m commands).effects) (hstatus : e.status = .verified) :
    ∃ approval receipt verification, e.approval = some approval ∧ e.receipt = some receipt ∧
      e.verification = some verification ∧
      ∀ t, verification.observedAt ≤ t →
        (validateReviewVerifiedEffect enc e t = .ok () ↔
          receipt.acceptedAt < approval.validUntil) := by
  have hs : e.Sound enc := Mission.forall_effects_run (P := Effect.Sound enc)
    (Mission.sound_proposedEffect enc) (fun _ _ _ hm h => h.move hm) hstart commands e he
  obtain ⟨receipt, verification, hr, hv, hc⟩ := hs.verified hstatus
  obtain ⟨hpr, hex, hreq, hre, hti, approval, ha, hde⟩ :=
    validateReceiptScope_ok (hs.receipt receipt hr)
  obtain ⟨hsc, hp, hd⟩ := hs.approval approval ha
  have hap : approval.decision = .approved :=
    hd.resolve_right (by rw [hstatus]; decide)
  refine ⟨approval, receipt, verification, ha, hr, hv, fun t ht => ?_⟩
  unfold validateReviewVerifiedEffect
  rw [ha, hr, hv]
  change rejectIf _ _ = _ ↔ _
  rw [rejectIf_ok]
  simp [hstatus, hap, hsc, hp, hpr, hreq, hex, hre,
    hde, hti, hc.status, hc.independent, hc.verifier,
    hc.receiptId, hc.observedAt, ht, hc.evidenceDigest]

/-- A run to a verified effect, which was approved at 3 for one minute. -/
def verifiedRun (acceptedAt : DateTime) : List MissionCommand :=
  let validUntil := 3 + 60 * nanosPerSecond
  [.startResearch [] 1,
    .proposeEffect { EffectSpec.sample with expiresAt := 500 * nanosPerSecond } 2,
    .approveEffect "effect" { Approval.sample with validUntil }, .beginEffect "effect" 4,
    .recordReceipt "effect" { Receipt.sample with acceptedAt },
    .recordVerification "effect" { Verification.sample with observedAt := acceptedAt }]

/-- The review of the run with its receipt at 5. -/
theorem review_iff_verifiedRun :
    Mission.IsCompiled .sample Mission.sample ∧
      ∃ e ∈ (run (Mission.step .sample) .sample (verifiedRun 5)).effects, e.status = .verified ∧
        ∃ approval receipt verification, e.approval = some approval ∧ e.receipt = some receipt ∧
          e.verification = some verification ∧
          ∀ t, verification.observedAt ≤ t →
            (validateReviewVerifiedEffect .sample e t = .ok () ↔
              receipt.acceptedAt < approval.validUntil) := by
  have hst : Mission.IsCompiled .sample Mission.sample := Mission.isCompiled_sample .sample
  have hv : ∃ e ∈ (run (Mission.step .sample) .sample (verifiedRun 5)).effects,
      e.status = .verified := by decide +kernel
  obtain ⟨e, he, hs⟩ := hv
  exact ⟨hst, e, he, hs, review_iff .sample hst (verifiedRun 5) he hs⟩

/-- A receipt of the 61st second is recorded and verified, and the review then rejects the
effect. -/
theorem review_rejects_verified :
    Mission.IsCompiled .sample Mission.sample ∧
      (∀ e ∈ trace (Mission.step .sample) .sample (verifiedRun (61 * nanosPerSecond)),
        e.output = .ok ()) ∧
      (run (Mission.step .sample) .sample (verifiedRun (61 * nanosPerSecond))).effects.map
          (fun e => (e.status, validateReviewVerifiedEffect .sample e (61 * nanosPerSecond))) =
        [(.verified, .error .outcomeReviewEffectStateMismatch)] :=
  ⟨Mission.isCompiled_sample .sample, by decide +kernel, by decide +kernel⟩

end Hartevo
