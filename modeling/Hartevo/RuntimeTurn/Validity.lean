import Hartevo.RuntimeTurn.Plans

/-!
# Valid attempts

`RuntimeTurnAttempt.validate` in the words of the proofs: `Valid` has a field for each thing that it
checks, and `validate_ok` says that it checks no more and no less.  The evidence of a valid
attempt is a chain of the status graph.

`valid_withEvidence` says when an entry can be recorded: what validation asks of the attempt with
the entry, given that the attempt before was valid.
-/

namespace Hartevo

open Command List

namespace RuntimeTurnAttempt

variable {createdAt : DateTime} {index : ℕ} {prev : Option RuntimeTurnEvidence}
  {evd : RuntimeTurnEvidence} {entries : List RuntimeTurnEvidence}
  {att : RuntimeTurnAttempt}

variable {enc : RuntimeTurnEncoding} {self : RuntimeTurnAttempt}

/-! ## The evidence -/

def Follows (previous current : RuntimeTurnEvidence) : Prop :=
  previous.observedAt ≤ current.observedAt ∧
    validStatusTransition previous.resultingStatus current.resultingStatus current.kind = true

/-- An entry is well formed in its place. -/
structure EvidenceAt (createdAt : DateTime) (index : ℕ) (previous : Option RuntimeTurnEvidence)
    (evidence : RuntimeTurnEvidence) : Prop where
  sequence : evidence.sequence = index + 1
  digest : isSha256 evidence.evidenceDigest = true
  created : createdAt ≤ evidence.observedAt
  follows : ∀ entry ∈ previous, Follows entry evidence

lemma evidenceInvalid_eq_false : evidenceInvalid createdAt index prev evd = false ↔
      EvidenceAt createdAt index prev evd := by
  have hfo : (prev.any fun entry => decide (evd.observedAt < entry.observedAt) ||
      !validStatusTransition entry.resultingStatus evd.resultingStatus evd.kind) = false ↔
      ∀ entry ∈ prev, Follows entry evd := by
    cases prev <;> simp [Follows]
  simp only [evidenceInvalid, passed, hfo]
  constructor
  · rintro ⟨⟨⟨hseq, hd⟩, hc⟩, hf⟩
    exact ⟨hseq, hd, hc, hf⟩
  · rintro ⟨hseq, hd, hc, hf⟩
    exact ⟨⟨⟨hseq, hd⟩, hc⟩, hf⟩

lemma validateEvidence_cons {rest : List RuntimeTurnEvidence} :
    validateEvidence createdAt index prev (evd :: rest) = .ok () ↔
      EvidenceAt createdAt index prev evd ∧
        validateEvidence createdAt (index + 1) (some evd) rest = .ok () := by
  rw [validateEvidence, check_ok, rejectIf_ok, evidenceInvalid_eq_false]

lemma validateEvidence_concat : validateEvidence createdAt index prev (entries ++ [evd]) = .ok () ↔
      validateEvidence createdAt index prev entries = .ok () ∧
        EvidenceAt createdAt (index + entries.length) (entries.getLast?.or prev) evd := by
  induction entries generalizing index prev with
  | nil =>
    rw [nil_append, validateEvidence_cons]
    simp [validateEvidence]
  | cons entry entries ih =>
    have hla : (entry :: entries).getLast?.or prev = entries.getLast?.or (some entry) := by
      rw [getLast?_cons]
      cases entries.getLast? <;> rfl
    have hl : index + (entry :: entries).length = index + 1 + entries.length := by
      simp only [length_cons]
      omega
    rw [cons_append, validateEvidence_cons, validateEvidence_cons, ih, hla, hl, and_assoc]

lemma isChain_of_validateEvidence (h : validateEvidence createdAt index prev entries = .ok ()) :
    (prev.toList ++ entries).IsChain Follows := by
  induction entries generalizing index prev with
  | nil => cases prev <;> simp
  | cons entry entries ih =>
    obtain ⟨he, hr⟩ := validateEvidence_cons.mp h
    have ht : (entry :: entries).IsChain Follows := ih hr
    cases prev with
    | none => exact ht
    | some prev => exact isChain_cons_cons.mpr ⟨he.follows prev rfl, ht⟩

/-! ## The other checks -/

structure Header (attempt : RuntimeTurnAttempt) : Prop where
  revision : attempt.revision = attempt.evidence.length
  evidence : attempt.evidence.length ≤ maxTurnEvidence
  failures : attempt.failures.length ≤ maxTurnFailures
  updated : attempt.createdAt ≤ attempt.updatedAt
  first : ∃ first rest, attempt.evidence = first :: rest ∧ first.sequence = 1 ∧
    first.kind = .prepared ∧ first.resultingStatus = .prepared
  last : attempt.evidence.getLast?.map (·.resultingStatus) = some attempt.status

lemma headerInvalid_eq_false : self.headerInvalid = false ↔ self.Header := by
  rcases hev : self.evidence with - | ⟨first, rest⟩
  · simp only [headerInvalid, hev, isEmpty_nil, Bool.or_true, Bool.true_or,
      Bool.true_eq_false, false_iff]
    intro h
    obtain ⟨first, rest, hfi, -⟩ := h.first
    rw [hev] at hfi
    cases hfi
  · simp only [headerInvalid, hev, passed, beq_eq_false_iff_ne, ne_eq, isEmpty_cons,
      head?_cons, Option.any_some, and_true, and_assoc]
    constructor
    · rintro ⟨-, hrev, he, hf, hu, hseq, hk, hs, hl⟩
      exact ⟨by rw [hrev, hev], by rwa [hev], hf, hu,
        ⟨first, rest, hev, hseq, hk, hs⟩, by rwa [hev]⟩
    · rintro ⟨hrev, he, hf, hu, ⟨first', rest', hfi, hseq, hk, hs⟩, hl⟩
      rw [hev] at hrev he hfi hl
      cases hfi
      have hp : ¬self.revision = 0 := by
        rw [hrev]
        simp
      exact ⟨hp, hrev, he, hf, hu, hseq, hk, hs, hl⟩

/-- The optional fields are digests and fit the status. -/
structure Sides (attempt : RuntimeTurnAttempt) : Prop where
  request : notDigest attempt.dispatchRequestDigest = false
  response : notDigest attempt.dispatchResponseDigest = false
  pending : notDigest attempt.pendingApprovalRequestDigest = false
  decision : notDigest attempt.approvalDecisionDigest = false
  interrupt : notDigest attempt.interruptRequestDigest = false
  dispatched : attempt.status.needsDispatch = true → attempt.dispatchEvidencePresent = true
  prepared : attempt.status = .prepared → attempt.revision = 1
  dispatching : attempt.status = .dispatching → attempt.runtimeTurnId = none
  awaiting : attempt.pendingApprovalRequestDigest.isSome = attempt.status.awaitsApproval
  responding : attempt.status = .approvalResponding → attempt.approvalDecisionDigest.isSome = true

lemma sidesInvalid_eq_false : self.sidesInvalid = false ↔ self.Sides := by
  have hiff : self.sidesInvalid = false ↔
      notDigest self.dispatchRequestDigest = false ∧ notDigest self.dispatchResponseDigest = false ∧
      notDigest self.pendingApprovalRequestDigest = false ∧
      notDigest self.approvalDecisionDigest = false ∧
      notDigest self.interruptRequestDigest = false ∧
      (self.status.needsDispatch = true → self.dispatchEvidencePresent = true) ∧
      (self.status = .prepared → self.revision = 1) ∧
      (self.status = .dispatching → self.runtimeTurnId = none) ∧
      self.pendingApprovalRequestDigest.isSome = self.status.awaitsApproval ∧
      (self.status = .approvalResponding → self.approvalDecisionDigest.isSome = true) := by
    simp only [sidesInvalid, Bool.or_eq_false_iff, and_assoc]
    cases self.status <;> cases self.pendingApprovalRequestDigest <;>
      cases self.approvalDecisionDigest <;>
      simp [RuntimeTurnStatus.needsDispatch, RuntimeTurnStatus.awaitsApproval]
  rw [hiff]
  constructor
  · rintro ⟨h₁, h₂, h₃, h₄, h₅, h₆, h₇, h₈, h₉, h₁₀⟩
    exact ⟨h₁, h₂, h₃, h₄, h₅, h₆, h₇, h₈, h₉, h₁₀⟩
  · rintro ⟨h₁, h₂, h₃, h₄, h₅, h₆, h₇, h₈, h₉, h₁₀⟩
    exact ⟨h₁, h₂, h₃, h₄, h₅, h₆, h₇, h₈, h₉, h₁₀⟩

structure Valid (enc : RuntimeTurnEncoding) (attempt : RuntimeTurnAttempt) : Prop where
  scope : attempt.scope.validate enc = .ok ()
  header : attempt.Header
  evidence : validateEvidence attempt.createdAt 0 none attempt.evidence = .ok ()
  failures : ∀ failure ∈ attempt.failures, isSha256 failure.evidenceDigest = true
  identity : attempt.identityValid enc = true
  sides : attempt.Sides

lemma validate_ok : self.validate enc = .ok () ↔ self.Valid enc := by
  have hf : (self.failures.any fun fl => !isSha256 fl.evidenceDigest) = false ↔
      ∀ fl ∈ self.failures, isSha256 fl.evidenceDigest = true := by
    simp
  simp only [validate, check_ok, passed, headerInvalid_eq_false, sidesInvalid_eq_false, hf]
  constructor
  · rintro ⟨h₁, h₂, h₃, h₄, h₅, h₆⟩
    exact ⟨h₁, h₂, h₃, h₄, h₅, h₆⟩
  · rintro ⟨h₁, h₂, h₃, h₄, h₅, h₆⟩
    exact ⟨h₁, h₂, h₃, h₄, h₅, h₆⟩

lemma Valid.exists_last (h : self.Valid enc) :
    ∃ last, self.evidence.getLast? = some last ∧ last.resultingStatus = self.status := by
  obtain ⟨last, hl, hs⟩ := Option.map_eq_some_iff.mp h.header.last
  exact ⟨last, hl, hs⟩

/-! ## One more entry -/

section Append

variable {kind : RuntimeTurnEvidenceKind} {digest : String} {now : DateTime}

lemma exec_appendEvidence_of_refused (hr : self.evidenceRefused digest now = true) :
    (appendEvidence enc kind digest now).exec self = (.error .invalidEvidence, self) := by
  rw [appendEvidence, exec_check_bind_of_error (e := .invalidEvidence)]
  simp [rejectIf, hr]

/-- An entry that is not refused is written, and the attempt with it validated. -/
lemma exec_appendEvidence (hr : self.evidenceRefused digest now = false)
    (hb : self.revision + 1 < 2 ^ 64) : (appendEvidence enc kind digest now).exec self =
      ((self.withEvidence kind digest now (self.revision + 1)).validate enc,
        self.withEvidence kind digest now (self.revision + 1)) := by
  rw [appendEvidence, exec_check_bind_of_ok (a := ()),
    exec_check_bind_of_ok (a := self.revision + 1), exec_modify_bind, exec_check]
  · rw [checkedAdd_one hb]
    rfl
  · exact rejectIf_ok.mpr hr

/-- An entry is recorded exactly when it is not refused, the revision can be counted, and the
attempt with the entry is valid. -/
lemma exec_appendEvidence_ok : (appendEvidence enc kind digest now).exec self = (.ok (), att) ↔
      self.evidenceRefused digest now = false ∧ self.revision + 1 < 2 ^ 64 ∧
        att = self.withEvidence kind digest now (self.revision + 1) ∧ att.Valid enc := by
  rw [appendEvidence, exec_check_ok]
  constructor
  · rintro ⟨⟨⟩, hr, h⟩
    obtain ⟨sequence, hseq, h⟩ := exec_check_ok.mp h
    rw [okOr_ok, checkedAdd_eq_some] at hseq
    obtain ⟨hb, rfl⟩ := hseq
    rw [exec_modify_bind, exec_check] at h
    obtain ⟨hv, rfl⟩ := Prod.mk.inj h
    exact ⟨rejectIf_ok.mp hr, hb, rfl, validate_ok.mp hv⟩
  · rintro ⟨hr, hb, rfl, hv⟩
    refine ⟨(), rejectIf_ok.mpr hr, ?_⟩
    rw [exec_check_ok]
    refine ⟨self.revision + 1, ?_, ?_⟩
    · rw [okOr_ok, checkedAdd_eq_some]
      exact ⟨hb, rfl⟩
    · rw [exec_modify_bind, exec_check, validate_ok.mpr hv]

/-- The attempt without what an entry changes. -/
def withoutRecord (self : RuntimeTurnAttempt) : RuntimeTurnAttempt :=
  { self with evidence := [], revision := 0, updatedAt := 0 }

/-- Whether or not it succeeds, recording an entry touches the evidence, the revision and the
instant of the last change only. -/
lemma keeps_withoutRecord_appendEvidence :
    Keeps withoutRecord (appendEvidence enc kind digest now) := by
  apply (keeps_check _).bind
  intro _
  apply (keeps_check _).bind
  intro sequence
  refine Keeps.bind (keeps_modify ?_) fun _ => keeps_check _
  intro self
  rfl

/-- A command came to record an entry without touching the entries. -/
structure SameRecord (attempt next : RuntimeTurnAttempt) : Prop where
  id : next.id = attempt.id
  scope : next.scope = attempt.scope
  evidence : next.evidence = attempt.evidence
  revision : next.revision = attempt.revision
  createdAt : next.createdAt = attempt.createdAt
  updatedAt : next.updatedAt = attempt.updatedAt

/-- There is room for an entry at an instant that is not before the last ones. -/
structure Timely (attempt : RuntimeTurnAttempt) (now : DateTime) : Prop where
  updated : attempt.updatedAt ≤ now
  observed : ∀ last ∈ attempt.evidence.getLast?, last.observedAt ≤ now
  room : attempt.evidence.length < maxTurnEvidence

lemma valid_withEvidence (hse : self.Valid enc) (hs : self.SameRecord att)
    (ht : self.Timely now) (hd : isSha256 digest = true)
    (hst : validStatusTransition self.status att.status kind = true)
    (hf : att.failures.length ≤ maxTurnFailures)
    (hfa : ∀ fl ∈ att.failures, isSha256 fl.evidenceDigest = true)
    (hi : att.identityValid enc = true)
    (hsi : (att.withEvidence kind digest now (self.revision + 1)).Sides) :
    (att.withEvidence kind digest now (self.revision + 1)).Valid enc := by
  obtain ⟨last, hla, hl⟩ := hse.exists_last
  have ho : last.observedAt ≤ now := ht.observed last hla
  have hc : self.createdAt ≤ now := le_trans hse.header.updated ht.updated
  have he : EvidenceAt self.createdAt (0 + self.evidence.length)
      (self.evidence.getLast?.or none) ⟨self.revision + 1, kind, digest, att.status, now⟩ := by
    refine ⟨?_, hd, hc, ?_⟩
    · simp [hse.header.revision]
    · intro entry he
      rw [hla] at he
      cases he
      refine ⟨ho, ?_⟩
      rw [hl]
      exact hst
  obtain ⟨first, rest, hfi, hseq, hk, hp⟩ := hse.header.first
  refine ⟨?_, ?_, ?_, hfa, hi, hsi⟩
  · change att.scope.validate enc = .ok ()
    rw [hs.scope]
    exact hse.scope
  · refine ⟨?_, ?_, hf, ?_, ?_, ?_⟩
    · simp [withEvidence, hs.evidence, hse.header.revision]
    · have hr := ht.room
      simp only [withEvidence, hs.evidence, length_append, length_singleton]
      omega
    · change att.createdAt ≤ now
      rw [hs.createdAt]
      exact hc
    · refine ⟨first, rest ++ [⟨self.revision + 1, kind, digest, att.status, now⟩], ?_, hseq, hk, hp⟩
      simp [withEvidence, hs.evidence, hfi]
    · simp [withEvidence]
  · change validateEvidence att.createdAt 0 none (att.evidence ++ [_]) = .ok ()
    rw [hs.createdAt, hs.evidence, validateEvidence_concat]
    exact ⟨hse.evidence, he⟩

end Append

end RuntimeTurnAttempt

end Hartevo
