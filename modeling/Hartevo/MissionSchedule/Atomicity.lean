import Hartevo.MissionSchedule.Fencing
import Hartevo.MissionSchedule.Preparation

/-!
# Failed commands on a schedule

A command on a schedule that returns an error should leave the record as it was; only a claim that
finds the last lease expired may move it to `DeadLetter`.  Two things break this.  A claim notes
that the previous lease has expired before it knows whether it can hand out a new one.  And the
record that a command leaves is validated after it was written, so that a clock behind the times of
the record is found too late.

`Timely` is the condition that excludes both, and `atomicStep_iff_timely` shows that it is exact.
In a run that meets it every generation of the lease accounts for at most one failure.
-/

namespace Hartevo

open Command List

variable {expiresAt : DateTime} {lease : MissionScheduleLease} {generation : ℕ}
  {retryAt : Option DateTime} {cmd : MissionScheduleCommand} {mission : Mission}
  {ev own tok : String} {e : MissionScheduleError} {t : MissionSchedule}

def MissionScheduleCommand.isClaim : MissionScheduleCommand → Bool
  | .claim .. => true
  | _ => false

namespace MissionSchedule

variable {enc : MissionEncoding} {s s' : MissionSchedule} {now : DateTime}
  {fl : MissionScheduleFailure} {dur : ℤ}

/-! ## Valid records -/

/-- The conditions on the fields that no command changes. -/
def FrameIsValid (s : MissionSchedule) : Prop :=
  isBlank s.id = false ∧ isBlank s.tenantId = false ∧ isBlank s.projectId = false ∧
    isBlank s.missionId = false ∧ 2 ≤ s.cycle ∧ s.scheduledFromMissionRevision ≠ 0 ∧
    s.contractVersion ≠ 0 ∧
    (∀ cycle ∈ s.definitionCycle, checkedAdd 64 cycle 1 = some s.cycle) ∧
    s.createdAt < s.contractValidUntil ∧ ∀ topic ∈ s.eventTopics.toList, isBlank topic = false

/-- The lease is there exactly when the status says so, and then it is valid. -/
def LeaseIsValid (s : MissionSchedule) : Prop :=
  match s.status with
  | .pending | .cancelled | .expired | .deadLetter => s.lease = none
  | .leased | .triggered => ∃ lease, s.lease = some lease ∧ s.leaseIsInvalid lease = false

structure Valid (s : MissionSchedule) : Prop where
  frame : s.FrameIsValid
  updated : s.createdAt ≤ s.updatedAt
  revision : s.revision ≠ 0
  shape : s.triggerShapeIsValid = true
  retry : ∀ value ∈ s.retryNotBefore, value < s.contractValidUntil
  signal : ∀ signal ∈ s.signal, s.signalIsInvalid signal = false
  count : s.failures.length ≤ maxFailures
  failures : ∀ entry ∈ s.failures.zipIdx, s.failureIsInvalid entry.2 entry.1 = false
  lease : s.LeaseIsValid

lemma leaseIsValid_iff : s.LeaseIsValid ↔ (match s.status with
      | .pending | .cancelled | .expired | .deadLetter => rejectIf s.lease.isSome .invalidRecord
      | .leased | .triggered => do
        let lease ← okOr s.lease .invalidRecord
        rejectIf (s.leaseIsInvalid lease) .invalidRecord :
        Except MissionScheduleError Unit) = .ok () := by
  unfold LeaseIsValid
  cases s.status <;> simp [bind_ok]

lemma validate_eq_ok_iff : s.validate = .ok () ↔ s.Valid := by
  have hfi : s.validate = .ok () ↔ rejectIf _ MissionScheduleError.invalidRecord = .ok () ∧
      s.LeaseIsValid :=
    check_ok.trans (and_congr_right fun _ => leaseIsValid_iff.symm)
  rw [hfi]
  simp only [passed, not_le, beq_eq_false_iff_ne, Option.any_eq_false, any_eq_false,
    Bool.not_eq_true, and_assoc]
  constructor
  · rintro ⟨hid, ht, hp, hm, hcy, hfr, hv, hdef, hw, hu, hrev, hto, hsh, hr, hs, hc, hf, hl⟩
    exact ⟨⟨hid, ht, hp, hm, hcy, hfr, hv, hdef, hw, hto⟩, hu, hrev, hsh, hr, hs, hc, hf, hl⟩
  · rintro ⟨⟨hid, ht, hp, hm, hcy, hfr, hv, hdef, hw, hto⟩, hu, hrev, hsh, hr, hs, hc, hf, hl⟩
    exact ⟨hid, ht, hp, hm, hcy, hfr, hv, hdef, hw, hu, hrev, hto, hsh, hr, hs, hc, hf, hl⟩

/-! ## What the checks of the commands say -/

lemma ensureTouchable_ok : s.ensureTouchable = .ok () ↔ s.revision + 1 < 2 ^ 64 := by
  simp [ensureTouchable, checkedAdd]

lemma pos_of_isLeaseDuration (h : isLeaseDuration dur = true) : 0 < dur := by
  simp only [isLeaseDuration, Bool.and_eq_true, decide_eq_true_eq] at h
  by_contra hneg
  have hn : 0 ≤ (-dur).tdiv nanosPerSecond := Int.tdiv_nonneg (by omega) (by decide)
  rw [Int.neg_tdiv] at hn
  have hs := h.1
  unfold numSeconds at hs
  omega

/-- The end of a lease that can be handed out: in the calendar, and in the window of the contract.
-/
def leaseEnd (s : MissionSchedule) (leaseDuration : ℤ) (now : DateTime) : Option DateTime :=
  (DateTime.checkedAddSigned now leaseDuration).filter fun expiresAt =>
    decide (expiresAt < s.contractValidUntil)

lemma lt_of_leaseEnd (hd : isLeaseDuration dur = true)
    (h : s.leaseEnd dur now = some expiresAt) : now < expiresAt := by
  rw [DateTime.eq_of_checkedAddSigned (Option.filter_eq_some_iff.mp h).1]
  exact lt_add_of_pos_right now (pos_of_isLeaseDuration hd)

lemma nextLease_ok : s.nextLease own tok dur now = .ok lease ↔
      s.leaseGeneration + 1 < 2 ^ 64 ∧ s.revision + 1 < 2 ^ 64 ∧
        ∃ expiresAt, s.leaseEnd dur now = some expiresAt ∧
          lease = ⟨own, tok, s.leaseGeneration + 1, now, now, expiresAt⟩ := by
  unfold nextLease leaseEnd
  simp only [bind_ok, okOr_ok, checkedAdd_eq_some, passed, not_le, Option.filter_eq_some_iff,
    decide_eq_true_eq]
  constructor
  · rintro ⟨_, ⟨hgen, rfl⟩, expiresAt, hend, ⟨⟩, hw, ⟨⟩, ht, hl⟩
    cases hl
    exact ⟨hgen, ensureTouchable_ok.mp ht, expiresAt, ⟨hend, hw⟩, rfl⟩
  · rintro ⟨hgen, ht, expiresAt, ⟨hend, hw⟩, rfl⟩
    exact ⟨_, ⟨hgen, rfl⟩, expiresAt, hend, (), hw, (), ensureTouchable_ok.mpr ht, rfl⟩

/-! ## What the commands write -/

lemma Valid.touch (h : s.Valid) (hnow : s.createdAt ≤ now) : (touch now s).Valid :=
  { h with updated := hnow, revision := Nat.succ_ne_zero _ }

lemma createdAt_le_of_valid_touch (h : (touch now s).Valid) : s.createdAt ≤ now := h.updated

lemma Valid.pushFailure (h : s.Valid)
    (hc : s.failures.length < maxFailures) (hseq : fl.sequence = s.failures.length + 1)
    (hev : isSha256 fl.evidenceDigest = true) (hnow : s.createdAt ≤ fl.observedAt) :
    (pushFailure fl s).Valid := by
  refine { h with count := ?_, failures := ?_ }
  · show (s.failures ++ [fl]).length ≤ maxFailures
    rw [length_append]
    exact hc
  · intro entry he
    have hmem : entry ∈ (s.failures ++ [fl]).zipIdx := he
    rw [zipIdx_append, mem_append] at hmem
    rcases hmem with hold | hnew
    · exact h.failures entry hold
    · obtain rfl : entry = (fl, s.failures.length) := by simpa using hnew
      simp only [failureIsInvalid, hseq, hev, passed, bne_self_eq_false, Bool.not_true, true_and]
      exact hnow

lemma valid_bindSignal {candidate : MissionScheduleSignal}
    (h : s.Valid) (hs : s.signalIsInvalid candidate = false) :
    (touch candidate.observedAt { s with signal := some candidate }).Valid := by
  have hp := hs
  simp only [signalIsInvalid, passed, not_le] at hp
  obtain ⟨⟨⟨⟨hto, -⟩, -⟩, ho⟩, -⟩ := hp
  -- A record that waits for an interval only has no topics, and so no valid signal.
  have hsh : triggerShapeIsValid { s with signal := some candidate } = true := by
    have hold := h.shape
    unfold triggerShapeIsValid at hold ⊢
    cases ht : s.trigger with
    | interval =>
      rw [ht] at hold
      simp only [Bool.and_eq_true] at hold
      have he := Std.ExtTreeSet.isEmpty_iff.mp hold.1.1.2
      rw [he] at hto
      simp at hto
    | eventDriven | intervalOrEvent => rwa [ht] at hold
  refine Valid.touch { h with shape := hsh, signal := ?_ } ho
  intro signal hmem
  obtain rfl := Option.some.inj hmem
  exact hs

lemma valid_takeLease (h : s.Valid)
    (ho : isSha256 own = true) (ht : isSha256 tok = true) (hd : isLeaseDuration dur = true)
    (hl : s.nextLease own tok dur now = .ok lease)
    (hnow : s.createdAt ≤ now) : (takeLease now lease s).Valid := by
  obtain ⟨-, -, expiresAt, hend, rfl⟩ := nextLease_ok.mp hl
  have he : now < expiresAt := lt_of_leaseEnd hd hend
  refine Valid.touch { h with retry := ?_, lease := ⟨_, rfl, ?_⟩ } hnow
  · exact fun value hmem => by cases hmem
  · simp only [leaseIsInvalid, ho, ht, passed, bne_self_eq_false, Bool.not_true, not_le,
      beq_eq_false_iff_ne, true_and, and_true, ne_eq, le_refl]
    exact ⟨⟨Nat.succ_ne_zero _, hnow⟩, he⟩

lemma verifyLease_ok (h : s.verifyLease own tok generation now = .ok ()) :
    s.status = .leased ∧ ∃ lease, s.lease = some lease ∧ now < lease.expiresAt := by
  obtain ⟨lease, hl, h⟩ := bind_ok.mp h
  simp only [passed, not_le] at h
  exact ⟨h.1.1.1.1, lease, okOr_ok.mp hl, h.2⟩

lemma Valid.leaseIsInvalid_eq_false (h : s.Valid) (hl : s.lease = some lease) :
    s.leaseIsInvalid lease = false := by
  have hv := h.lease
  unfold LeaseIsValid at hv
  cases hs : s.status with
  | pending | cancelled | expired | deadLetter =>
    rw [hs] at hv
    cases hl.symm.trans hv
  | leased | triggered =>
    rw [hs] at hv
    obtain ⟨ls', hl', hv⟩ := hv
    obtain rfl := Option.mem_unique hl hl'
    exact hv

lemma Valid.createdAt_le_claimedAt (h : s.Valid) (hl : s.lease = some lease) :
    s.createdAt ≤ lease.claimedAt := by
  have hv := h.leaseIsInvalid_eq_false hl
  simp only [leaseIsInvalid, passed] at hv
  exact hv.1.1.2

lemma Valid.createdAt_le_expiresAt (h : s.Valid) (hl : s.lease = some lease) :
    s.createdAt ≤ lease.expiresAt := by
  have hv := h.leaseIsInvalid_eq_false hl
  simp only [leaseIsInvalid, passed, not_le] at hv
  obtain ⟨⟨⟨-, hc⟩, hh⟩, he⟩ := hv
  exact le_trans hc (le_trans hh he.le)

lemma valid_renewLease_iff (h : s.Valid) (hs : s.status = .leased)
    (hl : s.lease = some lease) (hd : isLeaseDuration dur = true)
    (hend : s.leaseEnd dur now = some expiresAt) :
    (renewLease now expiresAt s).Valid ↔ lease.claimedAt ≤ now := by
  have hmap : (renewLease now expiresAt s).lease =
      some { lease with heartbeatAt := now, expiresAt := expiresAt } := by
    show s.lease.map _ = _
    rw [hl]
    rfl
  constructor
  · intro hv
    have hnew := hv.leaseIsInvalid_eq_false hmap
    simp only [leaseIsInvalid, passed] at hnew
    exact hnew.1.2
  · intro hnow
    have hold := h.leaseIsInvalid_eq_false hl
    simp only [leaseIsInvalid, passed] at hold
    refine Valid.touch { h with lease := ?_ } (le_trans (h.createdAt_le_claimedAt hl) hnow)
    unfold LeaseIsValid
    rw [hs]
    refine ⟨_, hmap, ?_⟩
    simp only [leaseIsInvalid, passed, not_le]
    exact ⟨⟨hold.1.1, hnow⟩, lt_of_leaseEnd hd hend⟩

lemma valid_markTriggered_iff (h : s.Valid) (hs : s.status = .leased) :
    (touch now { s with status := .triggered }).Valid ↔ s.createdAt ≤ now := by
  refine ⟨createdAt_le_of_valid_touch, fun hnow => Valid.touch { h with lease := ?_ } hnow⟩
  have hl := h.lease
  unfold LeaseIsValid at hl
  rw [hs] at hl
  exact hl

lemma valid_giveUpLease_iff (h : s.Valid)
    (hc : s.failures.length < maxFailures) (hseq : fl.sequence = s.failures.length + 1)
    (hev : isSha256 fl.evidenceDigest = true) (ho : fl.observedAt = now)
    (hre : fl.retryable = true → ∀ value ∈ retryAt, value < s.contractValidUntil) :
    (giveUpLease retryAt now fl s).Valid ↔ s.createdAt ≤ now := by
  refine ⟨createdAt_le_of_valid_touch, fun hnow => ?_⟩
  have hp := h.pushFailure hc hseq hev (ho ▸ hnow)
  refine Valid.touch { hp with retry := ?_, lease := ?_ } hnow
  · intro value hv
    split at hv
    · next hr => exact hre (Bool.and_eq_true_iff.mp hr).1 value hv
    · cases hv
  · unfold LeaseIsValid
    generalize (fl.retryable && _) = retries
    cases retries <;> rfl

lemma valid_close_iff {st : MissionScheduleStatus}
    (hs : st = .cancelled ∨ st = .expired) (h : s.Valid) :
    (close st now s).Valid ↔ s.createdAt ≤ now := by
  refine ⟨createdAt_le_of_valid_touch, fun hnow =>
    Valid.touch { h with retry := fun value hv => ?_, lease := ?_ } hnow⟩
  · cases hv
  · rcases hs with rfl | rfl <;> rfl

/-! ## Atomic commands -/

/-- A write that changes the record is atomic when what it leaves is valid. -/
lemma atomicAt_store_iff {T : Prop}
    {α : Type} {read : MissionSchedule → Except MissionScheduleError α}
    {write : α → MissionSchedule → MissionSchedule}
    (hw : ∀ a, (write a s).revision = s.revision + 1)
    (h : ∀ a, read s = .ok a → ((write a s).Valid ↔ T)) :
    AtomicAt (store read write) s ↔ ((∃ a, read s = .ok a) → T) := by
  cases hr : read s with
  | error =>
    refine iff_of_true (fun _ _ => by rw [exec_store_of_error hr]) ?_
    rintro ⟨a, ha⟩
    cases ha
  | ok a =>
    have hc : ((store read write).exec s).2 ≠ s := by
      rw [exec_store_of_ok hr]
      intro hs
      have hrev : (write a s).revision = s.revision := congrArg revision hs
      have hn := hw a
      omega
    have hf : Fails (store read write) s ↔ ¬(write a s).Valid := by
      rw [Fails, exec_store_of_ok hr, ← validate_eq_ok_iff]
      cases (write a s).validate <;> simp [Functor.map, Except.map]
    rw [atomicAt_iff_not_fails hc, hf, not_not, h a hr]
    exact ⟨fun hT _ => hT, fun hT => hT ⟨a, rfl⟩⟩

/-- The one error that may change the record: the claim that finds the last lease allowed
expired. -/
def DeadLettered (enc : MissionEncoding) (s : MissionSchedule)
    (command : MissionScheduleCommand) (error : MissionScheduleError) (after : MissionSchedule) :
    Prop :=
  ∃ ownerDigest tokenDigest leaseDuration now failure,
    command = .claim ownerDigest tokenDigest leaseDuration now ∧ error = .failureLimitReached ∧
      s.expiredLeaseFailure enc now = .ok failure ∧
      after = touch now { pushFailure failure s with status := .deadLetter, lease := none }

/-- A command that returns an error leaves the record as it was, or moves it to `DeadLetter`. -/
def AtomicStep (enc : MissionEncoding) (s : MissionSchedule)
    (command : MissionScheduleCommand) : Prop :=
  ∀ e, (s.step enc command).1 = .error e →
    (s.step enc command).2 = s ∨
      DeadLettered enc s command e (s.step enc command).2

/-- What a command that passes its checks must find.  A claim of an expired lease must be able to
hand out the next one, or to close the record; every other command may not come before the record,
or the lease that it renews, was made. -/
def Timely (s : MissionSchedule) : MissionScheduleCommand → Prop
  | .signalEvent .. => True
  | .claim ownerDigest tokenDigest leaseDuration now =>
    s.checkClaim ownerDigest tokenDigest leaseDuration now = .ok () →
      if s.status = .leased then
        ∀ lease ∈ s.lease, lease.expiresAt ≤ now →
          s.revision + 1 < 2 ^ 64 ∧ (s.failures.length + 1 < maxFailures →
            s.leaseGeneration + 1 < 2 ^ 64 ∧ (s.leaseEnd leaseDuration now).isSome = true)
      else
        s.isDue now = true →
          (∃ lease, s.nextLease ownerDigest tokenDigest leaseDuration now = .ok lease) →
            s.createdAt ≤ now
  | .heartbeat ownerDigest tokenDigest generation leaseDuration now =>
    (∃ expiresAt,
      s.checkHeartbeat ownerDigest tokenDigest generation leaseDuration now = .ok expiresAt) →
      ∀ lease ∈ s.lease, lease.claimedAt ≤ now
  | .markTriggered ownerDigest tokenDigest generation mission now =>
    (∃ u, s.checkMarkTriggered ownerDigest tokenDigest generation mission now = .ok u) →
      s.createdAt ≤ now
  | .recordFailure ownerDigest tokenDigest generation class_ evidenceDigest retryable retryAt now =>
    (∃ failure, s.checkRecordFailure ownerDigest tokenDigest generation class_ evidenceDigest
      retryable retryAt now = .ok failure) → s.createdAt ≤ now
  | .cancel evidenceDigest now =>
    (∃ u, s.checkCancel evidenceDigest = .ok u) → s.createdAt ≤ now
  | .expire _ => True

lemma atomicStep_iff_atomicAt (h : cmd.isClaim = false) :
    AtomicStep enc s cmd ↔ AtomicAt (cmd.toCommand enc) s := by
  refine forall_congr' fun e => imp_congr_right fun _ => or_iff_left ?_
  rintro ⟨_, _, _, _, _, rfl, -⟩
  cases h

lemma atomicAt_signalEvent (candidate : MissionScheduleSignal) (s : MissionSchedule) :
    AtomicAt (signalEvent candidate) s := by
  refine AtomicAt.check_bind fun _ hc => ?_
  obtain ⟨hv, hc⟩ := check_ok.mp hc
  obtain ⟨-, hs⟩ := check_ok.mp hc
  rw [rejectIf_ok] at hs
  have hw : AtomicAt (store
      (fun self => do
        rejectIf self.signal.isSome .signalAlreadyBound
        self.ensureTouchable)
      (fun _ self => touch candidate.observedAt
        { self with signal := some candidate })) s := by
    refine (atomicAt_store_iff (T := True) (fun _ => rfl) fun _ _ => ?_).mpr fun _ => trivial
    exact iff_of_true (valid_bindSignal (validate_eq_ok_iff.mp hv) hs) trivial
  unfold AtomicAt
  rw [exec_branch]
  split
  · exact fun e he => by cases he
  · exact (atomicAt_map (fun _ => true)).mpr hw

lemma atomicAt_heartbeat_iff {own tok : String} {dur : ℤ} :
    AtomicAt (heartbeat own tok generation dur now) s ↔
      s.Timely (.heartbeat own tok generation dur now) := by
  refine (atomicAt_map (fun _ => ())).trans (atomicAt_store_iff (fun _ => rfl) ?_)
  intro expiresAt hr
  obtain ⟨hv, hr⟩ := check_ok.mp hr
  obtain ⟨hver, hr⟩ := check_ok.mp hr
  obtain ⟨hd, hr⟩ := check_ok.mp hr
  obtain ⟨ex', hend, hr⟩ := bind_ok.mp hr
  obtain ⟨hw, hr⟩ := check_ok.mp hr
  obtain ⟨-, hr⟩ := check_ok.mp hr
  cases hr
  obtain ⟨hs, lease, hl, -⟩ := verifyLease_ok hver
  have hle : s.leaseEnd dur now = some expiresAt := by
    simp only [passed, not_le] at hw
    exact Option.filter_eq_some_iff.mpr ⟨okOr_ok.mp hend, decide_eq_true hw⟩
  rw [valid_renewLease_iff (validate_eq_ok_iff.mp hv) hs hl (by simpa using hd)
    hle]
  simp [hl]

lemma atomicAt_markTriggered_iff {own tok : String} :
    AtomicAt (markTriggered own tok generation mission now) s ↔
      s.Timely (.markTriggered own tok generation mission now) := by
  refine atomicAt_store_iff (fun _ => rfl) fun _ hr => ?_
  obtain ⟨hv, hr⟩ := check_ok.mp hr
  obtain ⟨hver, -⟩ := check_ok.mp hr
  exact valid_markTriggered_iff (validate_eq_ok_iff.mp hv) (verifyLease_ok hver).1

lemma atomicAt_recordFailure_iff {retryable : Bool}
    {own tok : String} {class_ : MissionScheduleFailureClass} :
    AtomicAt (recordFailure own tok generation class_ ev retryable
        retryAt now) s ↔
      s.Timely (.recordFailure own tok generation class_ ev retryable
        retryAt now) := by
  refine (atomicAt_map (fun _ => ())).trans (atomicAt_store_iff (fun _ => rfl) ?_)
  intro failure hr
  obtain ⟨hv, hr⟩ := check_ok.mp hr
  obtain ⟨-, hr⟩ := check_ok.mp hr
  obtain ⟨hf, hr⟩ := check_ok.mp hr
  obtain ⟨hc, hr⟩ := check_ok.mp hr
  obtain ⟨-, hr⟩ := check_ok.mp hr
  obtain ⟨sequence, hseq, hr⟩ := bind_ok.mp hr
  cases hr
  simp only [passed, not_le] at hf hc
  rw [okOr_ok, tryFromCount_eq_some] at hseq
  refine valid_giveUpLease_iff (validate_eq_ok_iff.mp hv) hc hseq.2.symm hf.1 rfl
    fun hre value hva => ?_
  have hany := hf.2.symm.trans hre
  rw [Option.mem_def.mp hva, Option.any_some, Bool.and_eq_true] at hany
  exact of_decide_eq_true hany.2

lemma atomicAt_cancel_iff : AtomicAt (cancel ev now) s ↔ s.Timely (.cancel ev now) := by
  refine atomicAt_store_iff (fun _ => rfl) fun _ hr => ?_
  obtain ⟨hv, -⟩ := check_ok.mp hr
  exact valid_close_iff (Or.inl rfl) (validate_eq_ok_iff.mp hv)

lemma atomicAt_expire (now : DateTime) (s : MissionSchedule) : AtomicAt (expire now) s := by
  refine (atomicAt_store_iff (fun _ => rfl) fun _ hr => ?_).mpr fun _ => trivial
  obtain ⟨hv, hr⟩ := check_ok.mp hr
  obtain ⟨he, -⟩ := check_ok.mp hr
  simp only [passed] at he
  have hv := validate_eq_ok_iff.mp hv
  refine iff_of_true ((valid_close_iff (Or.inr rfl) hv).mpr ?_) trivial
  obtain ⟨-, -, -, -, -, -, -, -, hw, -⟩ := hv.frame
  exact le_trans hw.le he.2

/-! ## Claims -/

section Claim

variable {own tok : String} {dur : ℤ} {failure : MissionScheduleFailure}

lemma expiredLeaseFailure_ok (h : s.expiredLeaseFailure enc now = .ok failure) :
    (∃ lease, s.lease = some lease ∧ lease.expiresAt ≤ now) ∧
      failure.sequence = s.failures.length + 1 ∧ isSha256 failure.evidenceDigest = true ∧
      failure.observedAt = now := by
  obtain ⟨prev, hl, h⟩ := bind_ok.mp h
  obtain ⟨he, h⟩ := check_ok.mp h
  obtain ⟨sequence, hseq, h⟩ := bind_ok.mp h
  cases h
  rw [okOr_ok, tryFromCount_eq_some] at hseq
  rw [rejectIf_ok, decide_eq_false_iff_not, not_lt] at he
  exact ⟨⟨prev, okOr_ok.mp hl, he⟩, hseq.2.symm, isSha256_of_digest (digest_lowerHex _), rfl⟩

/-- The failure of an expired lease is noted, and the record closed if it was the last one. -/
lemma exec_recordExpiredLease (h : s.expiredLeaseFailure enc now = .ok failure) :
    (recordExpiredLease enc now).exec s =
      if s.failures.length + 1 < maxFailures then (.ok (), pushFailure failure s)
      else match s.ensureTouchable with
        | .error e => (.error e, pushFailure failure s)
        | .ok () => (.error .failureLimitReached, touch now
            { pushFailure failure s with status := .deadLetter, lease := none }) := by
  have hl : (pushFailure failure s).failures.length = s.failures.length + 1 := length_append
  have hp : (pushFailure failure s).ensureTouchable = s.ensureTouchable := rfl
  rw [recordExpiredLease, exec_check_bind_of_ok h, exec_modify_bind, exec_branch, hl]
  by_cases hc : s.failures.length + 1 < maxFailures
  · rw [if_pos hc, decide_eq_false (not_le.mpr hc)]
    rfl
  · rw [if_neg hc, decide_eq_true (not_lt.mp hc), if_pos rfl]
    cases ht : s.ensureTouchable with
    | error => exact exec_check_bind_of_error (hp.trans ht)
    | ok => rw [exec_check_bind_of_ok (hp.trans ht), exec_modify_bind]; rfl

lemma pushFailure_ne (fl : MissionScheduleFailure) (s : MissionSchedule) :
    pushFailure fl s ≠ s := by
  intro hs
  have hl := congrArg (fun t => t.failures.length) hs
  simp [pushFailure] at hl

lemma exists_expiredLeaseFailure (enc : MissionEncoding) (h : s.Valid)
    (hl : s.lease = some lease) (he : lease.expiresAt ≤ now) :
    ∃ failure, s.expiredLeaseFailure enc now = .ok failure := by
  have hc : s.failures.length + 1 < 2 ^ 32 :=
    lt_of_le_of_lt (Nat.add_le_add_right h.count 1) (by decide)
  refine ⟨_, bind_ok.mpr ⟨lease, okOr_ok.mpr hl, check_ok.mpr
    ⟨?_, bind_ok.mpr ⟨_, okOr_ok.mpr (tryFromCount_eq_some.mpr ⟨hc, rfl⟩), rfl⟩⟩⟩⟩
  rw [rejectIf_ok, decide_eq_false_iff_not, not_lt]
  exact he

lemma valid_of_checkClaim (h : s.checkClaim own tok dur now = .ok ()) :
    s.Valid ∧ isSha256 own = true ∧ isSha256 tok = true ∧ isLeaseDuration dur = true := by
  obtain ⟨hv, h⟩ := check_ok.mp h
  simp only [passed] at h
  exact ⟨validate_eq_ok_iff.mp hv, h.1.1.1, h.1.1.2, h.1.2⟩

/-- A command that writes and then fails keeps what it wrote, unless the record is closed. -/
lemma not_atomicStep (h : s.step enc cmd = (.error e, t)) (hw : t ≠ s)
    (ho : t.status ≠ .deadLetter) : ¬AtomicStep enc s cmd := by
  intro hat
  rcases hat e (by rw [h]) with hs | ⟨_, _, _, _, _, -, -, -, ha⟩
  · rw [h] at hs
    exact hw hs
  · rw [h] at ha
    exact ho (congrArg status ha)

lemma step_claim {r : Except MissionScheduleError MissionScheduleLease}
    (h : (claim enc own tok dur now).exec s = (r, t)) :
    s.step enc (.claim own tok dur now) = (.leased <$> r, t) := by
  show (MissionScheduleReply.leased <$> claim enc own tok dur now).exec s = _
  rw [exec_map, h]

lemma atomicStep_of_ok {rp : MissionScheduleReply}
    (h : s.step enc cmd = (.ok rp, t)) : AtomicStep enc s cmd := by
  intro e he
  rw [h] at he
  cases he

/-- After its checks a claim notes that a lease has expired, or asks whether the record is due. -/
lemma exec_claim (enc : MissionEncoding) (hc : s.checkClaim own tok dur now = .ok ()) :
    (claim enc own tok dur now).exec s = ((if s.status = .leased then recordExpiredLease enc now
        else check fun self => rejectIf (!self.isDue now) .notDue) >>= fun _ =>
        store (nextLease own tok dur now) (takeLease now)).exec s := by
  rw [claim, exec_check_bind_of_ok hc]
  refine exec_bind_congr ?_
  rw [exec_branch]
  simp only [beq_iff_eq]
  split <;> rfl

lemma atomicStep_claim_of_lt (hc : s.checkClaim own tok dur now = .ok ())
    (hst : s.status = .leased) (hf : s.expiredLeaseFailure enc now = .ok failure)
    (hco : s.failures.length + 1 < maxFailures) :
    AtomicStep enc s (.claim own tok dur now) ↔
      s.revision + 1 < 2 ^ 64 ∧ s.leaseGeneration + 1 < 2 ^ 64 ∧
        (s.leaseEnd dur now).isSome = true := by
  obtain ⟨hv, how, hto, hd⟩ := valid_of_checkClaim hc
  obtain ⟨⟨lease, hl, he⟩, hseq, hev, ho⟩ := expiredLeaseFailure_ok hf
  have hnow : s.createdAt ≤ now := le_trans (hv.createdAt_le_expiresAt hl) he
  have hex := exec_claim enc hc
  rw [if_pos hst, exec_bind_of_ok ((exec_recordExpiredLease hf).trans (if_pos hco))] at hex
  have hiff : (∃ next, (pushFailure failure s).nextLease own tok dur now =
      .ok next) ↔ s.revision + 1 < 2 ^ 64 ∧ s.leaseGeneration + 1 < 2 ^ 64 ∧
        (s.leaseEnd dur now).isSome = true := by
    simp only [nextLease_ok, Option.isSome_iff_exists]
    constructor
    · rintro ⟨next, hgen, hrev, expiresAt, hend, -⟩
      exact ⟨hrev, hgen, expiresAt, hend⟩
    · rintro ⟨hrev, hgen, expiresAt, hend⟩
      exact ⟨_, hgen, hrev, expiresAt, hend, rfl⟩
  rw [← hiff]
  cases hn : (pushFailure failure s).nextLease own tok dur now with
  | error =>
    refine iff_of_false (not_atomicStep (step_claim (hex.trans (exec_store_of_error hn)))
      (pushFailure_ne failure s) ?_) (fun ⟨_, h⟩ => by cases h)
    show s.status ≠ _
    rw [hst]
    decide
  | ok next =>
    have hp := hv.pushFailure (Nat.lt_of_succ_lt hco) hseq hev (ho ▸ hnow)
    have ht := validate_eq_ok_iff.mpr (valid_takeLease hp how hto hd hn hnow)
    have hs : (store (nextLease own tok dur now)
        (takeLease now)).exec (pushFailure failure s) = _ := exec_store_of_ok hn
    rw [ht] at hs
    exact iff_of_true (atomicStep_of_ok (step_claim (hex.trans hs))) ⟨next, rfl⟩

lemma atomicStep_claim_of_le (hch : s.checkClaim own tok dur now = .ok ())
    (hs : s.status = .leased) (hf : s.expiredLeaseFailure enc now = .ok failure)
    (hc : maxFailures ≤ s.failures.length + 1) :
    AtomicStep enc s (.claim own tok dur now) ↔ s.revision + 1 < 2 ^ 64 := by
  rw [← ensureTouchable_ok]
  have hex := exec_claim enc hch
  rw [if_pos hs] at hex
  have hrec := (exec_recordExpiredLease hf).trans (if_neg (not_lt.mpr hc))
  cases ht : s.ensureTouchable with
  | error =>
    rw [ht] at hrec
    have hstep := step_claim (hex.trans (exec_bind_of_error hrec))
    refine iff_of_false (not_atomicStep hstep (pushFailure_ne failure s) ?_) nofun
    show s.status ≠ _
    rw [hs]
    decide
  | ok =>
    rw [ht] at hrec
    have hstep := step_claim (hex.trans (exec_bind_of_error hrec))
    refine iff_of_true (fun e he => Or.inr ?_) rfl
    rw [hstep] at he ⊢
    cases he
    exact ⟨_, _, _, _, failure, rfl, rfl, hf, rfl⟩

lemma atomicStep_claim_of_leased (hc : s.checkClaim own tok dur now = .ok ())
    (hs : s.status = .leased) :
    AtomicStep enc s (.claim own tok dur now) ↔ ∀ lease ∈ s.lease, lease.expiresAt ≤ now →
        s.revision + 1 < 2 ^ 64 ∧ (s.failures.length + 1 < maxFailures →
          s.leaseGeneration + 1 < 2 ^ 64 ∧ (s.leaseEnd dur now).isSome = true) := by
  cases hf : s.expiredLeaseFailure enc now with
  | error =>
    have hex := exec_claim enc hc
    rw [if_pos hs, recordExpiredLease, exec_bind_of_error (exec_check_bind_of_error hf)] at hex
    refine iff_of_true (fun _ _ => Or.inl ?_) fun lease hl he => ?_
    · rw [step_claim hex]
    · obtain ⟨failure, hok⟩ := exists_expiredLeaseFailure enc (valid_of_checkClaim hc).1 hl he
      cases hf.symm.trans hok
  | ok =>
    obtain ⟨⟨lease, hl, he⟩, -⟩ := expiredLeaseFailure_ok hf
    have hmem : ∀ P : Prop, (∀ lease ∈ s.lease, lease.expiresAt ≤ now → P) ↔ P :=
      fun P => ⟨fun h => h lease hl he, fun h _ _ _ => h⟩
    rw [hmem]
    by_cases hco : s.failures.length + 1 < maxFailures
    · rw [atomicStep_claim_of_lt hc hs hf hco, forall_prop_of_true hco]
    · rw [atomicStep_claim_of_le hc hs hf (not_lt.mp hco), forall_prop_of_false hco, and_true]

lemma atomicStep_claim_of_not_leased (hc : s.checkClaim own tok dur now = .ok ())
    (hst : s.status ≠ .leased) :
    AtomicStep enc s (.claim own tok dur now) ↔ (s.isDue now = true →
        (∃ lease, s.nextLease own tok dur now = .ok lease) → s.createdAt ≤ now) := by
  obtain ⟨hv, ho, ht, hd⟩ := valid_of_checkClaim hc
  have he := exec_claim enc hc
  rw [if_neg hst] at he
  by_cases hdue : s.isDue now = true
  · have hp : rejectIf (!s.isDue now) MissionScheduleError.notDue = .ok () := by
      rw [rejectIf_ok, hdue]
      rfl
    have hs := he.trans (exec_check_bind_of_ok (s := s) hp)
    rw [forall_prop_of_true hdue]
    cases hn : s.nextLease own tok dur now with
    | error =>
      refine iff_of_true (fun _ _ => Or.inl ?_) (fun ⟨_, h⟩ => by cases h)
      rw [step_claim (hs.trans (exec_store_of_error hn))]
    | ok next =>
      have hstep := step_claim (hs.trans (exec_store_of_ok hn))
      have htr : (∃ lease, Except.ok (ε := MissionScheduleError) next = .ok lease) := ⟨next, rfl⟩
      rw [forall_prop_of_true htr]
      by_cases hnow : s.createdAt ≤ now
      · refine iff_of_true ?_ hnow
        rw [validate_eq_ok_iff.mpr (valid_takeLease hv ho ht hd hn hnow)]
          at hstep
        exact atomicStep_of_ok hstep
      · refine iff_of_false ?_ hnow
        cases hi : (takeLease now next s).validate with
        | ok => exact absurd (createdAt_le_of_valid_touch (validate_eq_ok_iff.mp hi)) hnow
        | error =>
          rw [hi] at hstep
          refine not_atomicStep hstep (fun hsa => ?_) nofun
          have hrev : s.revision + 1 = s.revision := congrArg revision hsa
          omega
  · rw [forall_prop_of_false hdue, iff_true]
    refine fun _ _ => Or.inl ?_
    have hr : rejectIf (!s.isDue now) MissionScheduleError.notDue = .error .notDue := by
      rw [eq_false_of_ne_true hdue]
      rfl
    rw [step_claim (he.trans (exec_check_bind_of_error (s := s) hr))]

end Claim

lemma atomicStep_claim_iff :
    AtomicStep enc s (.claim own tok dur now) ↔ s.Timely (.claim own tok dur now) := by
  dsimp only [Timely]
  cases hc : s.checkClaim own tok dur now with
  | error =>
    refine iff_of_true (fun _ _ => Or.inl ?_) nofun
    rw [step_claim (exec_check_bind_of_error hc)]
  | ok =>
    rw [forall_prop_of_true rfl]
    split
    · next hs => exact atomicStep_claim_of_leased hc hs
    · next hs => exact atomicStep_claim_of_not_leased hc hs

/-- A command is atomic exactly when it is timely. -/
lemma atomicStep_iff_timely (enc : MissionEncoding) (s : MissionSchedule)
    (cmd : MissionScheduleCommand) : AtomicStep enc s cmd ↔ s.Timely cmd := by
  cases cmd with
  | claim => exact atomicStep_claim_iff
  | signalEvent =>
    rw [atomicStep_iff_atomicAt rfl]
    exact iff_of_true ((atomicAt_map _).mpr (atomicAt_signalEvent _ s)) trivial
  | heartbeat =>
    exact (atomicStep_iff_atomicAt rfl).trans ((atomicAt_map _).trans atomicAt_heartbeat_iff)
  | markTriggered =>
    exact (atomicStep_iff_atomicAt rfl).trans ((atomicAt_map _).trans atomicAt_markTriggered_iff)
  | recordFailure =>
    exact (atomicStep_iff_atomicAt rfl).trans ((atomicAt_map _).trans atomicAt_recordFailure_iff)
  | cancel =>
    exact (atomicStep_iff_atomicAt rfl).trans ((atomicAt_map _).trans atomicAt_cancel_iff)
  | expire now =>
    rw [atomicStep_iff_atomicAt rfl]
    exact iff_of_true ((atomicAt_map _).mpr (atomicAt_expire now s)) trivial

lemma timely_of_isOk (h : (s.step enc cmd).1.isOk = true) : s.Timely cmd := by
  refine (atomicStep_iff_timely enc s cmd).mp fun e he => ?_
  rw [he] at h
  cases h

/-! ## Failures and generations -/

/-- The generation covers the failures, and the lease if there is one. -/
def Accounted (s : MissionSchedule) : Prop :=
  s.failures.length + (if s.lease.isSome then 1 else 0) ≤ s.leaseGeneration

lemma accounted_prepare (h : prepare mission now = .ok s) : s.Accounted := by
  simp only [prepare, bind_ok] at h
  obtain ⟨-, -, -, -, cadence, -, outcome, -, -, -, cycle, -, -, -, dueAt, -, -, -, -, -, h⟩ := h
  cases h
  exact Nat.le_refl 0

lemma Accounted.pushFailure (h : s.Accounted) (hl : s.lease.isSome = true)
    (fl : MissionScheduleFailure) : (pushFailure fl s).failures.length ≤ s.leaseGeneration := by
  unfold Accounted at h
  rw [if_pos hl] at h
  rw [MissionSchedule.pushFailure, length_append]
  exact h

/-- What a claim leaves: the new lease on the record, after the failure of the old one if there was
one. -/
lemma claim_eq_takeLease (h : (claim enc own tok dur now).exec s = (.ok lease, s')) :
    s' = takeLease now lease s ∨
      ∃ failure, s.lease.isSome = true ∧ s' = takeLease now lease (pushFailure failure s) := by
  obtain ⟨⟨⟩, hch, -⟩ := exec_check_ok.mp h
  rw [exec_claim enc hch] at h
  split at h
  · obtain ⟨⟨⟩, t, hrec, hs⟩ := exec_bind_ok.mp h
    obtain ⟨failure, hf, -⟩ := exec_check_ok.mp hrec
    obtain ⟨⟨prev, hl, -⟩, -⟩ := expiredLeaseFailure_ok hf
    refine .inr ⟨failure, by rw [hl]; rfl, ?_⟩
    have hp : t = pushFailure failure s := by
      rw [exec_recordExpiredLease hf] at hrec
      split at hrec
      · exact (congrArg Prod.snd hrec).symm
      · split at hrec <;> cases hrec
    rw [(exec_store_ok hs).2, hp]
  · obtain ⟨_, -, hs⟩ := exec_check_ok.mp h
    exact .inl (exec_store_ok hs).2

lemma Accounted.claim (h : s.Accounted)
    (hc : (claim enc own tok dur now).exec s = (.ok lease, s')) : s'.Accounted := by
  have hg := (claim_ok hc).1
  rcases claim_eq_takeLease hc with rfl | ⟨failure, hl, rfl⟩
  · show s.failures.length + 1 ≤ lease.generation
    unfold Accounted at h
    omega
  · have hco := h.pushFailure hl failure
    show (MissionSchedule.pushFailure failure s).failures.length + 1 ≤ lease.generation
    omega

/-- Without a lease the generation only has to cover the failures. -/
lemma Accounted.of_le (h : s.failures.length ≤ s.leaseGeneration) (hl : s.lease = none) :
    s.Accounted := by
  unfold Accounted
  rw [hl]
  exact h

lemma Accounted.failures_le (h : s.Accounted) : s.failures.length ≤ s.leaseGeneration :=
  le_trans (Nat.le_add_right _ _) h

/-- A command that stores leaves what it wrote. -/
lemma Accounted.stored {α β : Type} {f : α → β}
    {read : MissionSchedule → Except MissionScheduleError α}
    {write : α → MissionSchedule → MissionSchedule} {b : β}
    (hok : ((f <$> store read write).exec s).1 = .ok b) (h : ∀ a, (write a s).Accounted) :
    ((f <$> store read write).exec s).2.Accounted := by
  obtain ⟨a, t, hs, -, ht⟩ := exec_map_ok hok
  rw [ht, (exec_store_ok hs).2]
  exact h a

lemma Accounted.step (h : s.Accounted) (hat : AtomicStep enc s cmd) :
    (s.step enc cmd).2.Accounted := by
  cases hout : (s.step enc cmd).1 with
  | error e =>
    rcases hat e hout with hsa | ⟨_, _, _, now, failure, -, -, hf, ha⟩
    · rwa [hsa]
    · obtain ⟨⟨lease, hl, -⟩, -⟩ := expiredLeaseFailure_ok hf
      rw [ha]
      exact Accounted.of_le (h.pushFailure (by rw [hl]; rfl) failure) rfl
  | ok =>
    cases cmd with
    | signalEvent =>
      obtain ⟨bound, t, hsi, -, ha⟩ := exec_map_ok hout
      refine (congrArg Accounted ha).mpr ?_
      obtain ⟨_, -, hsi⟩ := exec_check_ok.mp hsi
      rw [exec_branch] at hsi
      split at hsi
      · cases hsi
        exact h
      · obtain ⟨_, u, hs, hp⟩ := exec_bind_ok.mp hsi
        cases hp
        rw [(exec_store_ok hs).2]
        exact h
    | claim =>
      obtain ⟨lease, t, hc, -, ha⟩ := exec_map_ok hout
      exact (congrArg Accounted ha).mpr (h.claim hc)
    | heartbeat =>
      obtain ⟨_, t, hh, -, ha⟩ := exec_map_ok hout
      refine (congrArg Accounted ha).mpr ?_
      obtain ⟨expiresAt, u, hs, hp⟩ := exec_bind_ok.mp hh
      cases hp
      rw [(exec_store_ok hs).2]
      show s.failures.length + (if (s.lease.map _).isSome then 1 else 0) ≤ s.leaseGeneration
      rw [Option.isSome_map]
      exact h
    | markTriggered => exact Accounted.stored hout fun _ => h
    | recordFailure =>
      obtain ⟨_, t, hrec, -, ha⟩ := exec_map_ok hout
      refine (congrArg Accounted ha).mpr ?_
      obtain ⟨-, lease, hl, -⟩ := verifyLease_ok (recordFailure_ok hrec).2
      obtain ⟨failure, u, hs, hp⟩ := exec_bind_ok.mp hrec
      cases hp
      rw [(exec_store_ok hs).2]
      exact Accounted.of_le (h.pushFailure (by rw [hl]; rfl) failure) rfl
    | cancel | expire => exact Accounted.stored hout fun _ => Accounted.of_le h.failures_le rfl

/-- A command that fails leaves the record as it was, up to the claim that closes it, exactly when
it is timely.  In a run of timely commands from a prepared record every generation of the lease
accounts for at most one failure. -/
theorem failures_atomic (enc : MissionEncoding) :
    (∀ s command, AtomicStep enc s command ↔ s.Timely command) ∧
      ∀ mission now s, prepare mission now = .ok s →
        ∀ commands, (∀ e ∈ trace (step enc) s commands, e.before.Timely e.input) →
          (run (step enc) s commands).failures.length ≤
            (run (step enc) s commands).leaseGeneration := by
  refine ⟨atomicStep_iff_timely enc, fun mission now s hp commands ht => ?_⟩
  have hrun := run_rely (step enc) (I := Accounted) (P := fun _ => True)
    (fun t command ha hc =>
      ⟨ha.step ((atomicStep_iff_timely enc t command).mpr hc), trivial⟩)
    (accounted_prepare hp) ht
  exact hrun.1.failures_le

/-! ## Samples -/

/-- The schedule of a Mission that waits for events, with a window of a thousand seconds. -/
def eventSample : MissionSchedule where
  id := "mission-schedule:mission:cycle:2"
  tenantId := "tenant"
  projectId := "project"
  missionId := "mission"
  cycle := 2
  scheduledFromMissionRevision := 3
  contractVersion := 1
  definitionCycle := none
  trigger := .eventDriven
  intervalSeconds := 0
  anchorAt := 0
  eventTopics := setOf ["topic"]
  dueAt := none
  retryNotBefore := none
  contractValidUntil := 1000 * nanosPerSecond
  signal := none
  status := .pending
  leaseGeneration := 0
  lease := none
  failures := []
  revision := 1
  createdAt := 2
  updatedAt := 2

lemma prepare_eventSample : prepare (run (Mission.step .sample) Mission.eventSample
      [.startResearch [] 1, .recordOutcome Mission.outcomeSample]) 2 = .ok eventSample := by
  rfl

/-- An event arrives, and a worker takes a lease of one second. -/
def leasedRun : List MissionScheduleCommand :=
  [.signalEvent "topic" (lowerHex 0) (lowerHex 0) 3,
    .claim (lowerHex 0) (lowerHex 0) nanosPerSecond 4]

/-- A claim near the end of the window, for a lease that would end after it. -/
def lateClaim : MissionScheduleCommand :=
  .claim (lowerHex 0) (lowerHex 0) (900 * nanosPerSecond) (500 * nanosPerSecond)

/-- Every late claim is refused, and every one notes the failure of the same lease again. -/
theorem lateClaim_counts_twice :
    prepare (run (Mission.step .sample) Mission.eventSample
        [.startResearch [] 1, .recordOutcome Mission.outcomeSample]) 2 = .ok eventSample ∧
      (run (step .sample) eventSample leasedRun).validate = .ok () ∧
      ((run (step .sample) eventSample leasedRun).step .sample lateClaim).1 =
        .error .invalidLease ∧
      ((run (step .sample) eventSample leasedRun).step .sample lateClaim).2 ≠
        run (step .sample) eventSample leasedRun ∧
      (run (step .sample) eventSample (leasedRun ++ [lateClaim, lateClaim])).failures.length = 2 ∧
      (run (step .sample) eventSample
        (leasedRun ++ [lateClaim, lateClaim])).leaseGeneration = 1 := by
  have hrun : (run (step .sample) eventSample leasedRun).validate = .ok () ∧
      ((run (step .sample) eventSample leasedRun).step .sample lateClaim).1 = .error .invalidLease ∧
      ((run (step .sample) eventSample leasedRun).step .sample lateClaim).2.failures.length ≠
        (run (step .sample) eventSample leasedRun).failures.length ∧
      (run (step .sample) eventSample (leasedRun ++ [lateClaim, lateClaim])).failures.length = 2 ∧
      (run (step .sample) eventSample
        (leasedRun ++ [lateClaim, lateClaim])).leaseGeneration = 1 := by
    decide +kernel
  obtain ⟨hv, he, hw, hf, hg⟩ := hrun
  exact ⟨prepare_eventSample, hv, he,
    fun hs => hw (congrArg (fun t => t.failures.length) hs), hf, hg⟩

/-- The lease has expired, and another worker takes the next one. -/
def takeoverRun : List MissionScheduleCommand :=
  leasedRun ++ [.claim (lowerHex 1) (lowerHex 1) nanosPerSecond (500 * nanosPerSecond)]

/-- The takeover run records one failure. -/
theorem failures_atomic_takeoverRun :
    prepare (run (Mission.step .sample) Mission.eventSample
        [.startResearch [] 1, .recordOutcome Mission.outcomeSample]) 2 = .ok eventSample ∧
      (∀ e ∈ trace (step .sample) eventSample takeoverRun, e.before.Timely e.input) ∧
      (run (step .sample) eventSample takeoverRun).failures.length = 1 ∧
      (run (step .sample) eventSample takeoverRun).failures.length ≤
        (run (step .sample) eventSample takeoverRun).leaseGeneration := by
  have hrun : (∀ e ∈ trace (step .sample) eventSample takeoverRun, e.output.isOk = true) ∧
      (run (step .sample) eventSample takeoverRun).failures.length = 1 := by
    decide +kernel
  have ht : ∀ e ∈ trace (step .sample) eventSample takeoverRun, e.before.Timely e.input := by
    intro e he
    have ho := hrun.1 e he
    obtain ⟨earlier, command, later, -, rfl⟩ := (mem_trace_iff _).mp he
    exact timely_of_isOk ho
  exact ⟨prepare_eventSample, ht, hrun.2,
    (failures_atomic .sample).2 _ _ _ prepare_eventSample _ ht⟩

end MissionSchedule

end Hartevo
