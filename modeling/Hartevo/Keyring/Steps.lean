import Hartevo.Keyring.Model

/-!
# What a keyring command does

A successful command revokes the envelopes of some recipients, adds some envelopes, and sets the
version and the flags.  `KeyringCommand.effect` is the keyring that it leaves, and
`ProjectKeyring.accepted_of_apply` says what it has checked before; later proofs use nothing else.
-/

namespace Hartevo

open List

namespace KeyEnvelope

/-- Two envelopes that may stand in one keyring. -/
def Apart (a b : KeyEnvelope) : Prop :=
  a.id ≠ b.id ∧ ¬(a.keyVersion = b.keyVersion ∧ a.recipient = b.recipient)

/-- The envelope expires within the time that a worker may have a key. -/
def IsShortLived (self : KeyEnvelope) : Prop :=
  ∃ expires, self.expiresAt = some expires ∧
    expires ≤ self.createdAt + maxWorkerKeyTtlSeconds * nanosPerSecond

end KeyEnvelope

namespace KeyringCommand

def now : KeyringCommand → DateTime
  | .addEnvelope _ now | .setRemoteExecutionOptIn _ now | .revokeRecipient _ now | .rotate _ now
  | .revokeAndRotate _ _ now => now

def supplies : KeyringCommand → List KeyEnvelope
  | .addEnvelope envelope _ => [envelope]
  | .rotate newEnvelopes _ | .revokeAndRotate _ newEnvelopes _ => newEnvelopes
  | _ => []

/-- The command is made to revoke the recipient. -/
def withdraws (recipient : KeyRecipient) : KeyringCommand → Bool
  | .revokeRecipient revoked _ | .revokeAndRotate revoked _ _ => recipient == revoked
  | _ => false

def isRotation : KeyringCommand → Bool
  | .rotate .. | .revokeAndRotate .. => true
  | _ => false

/-- The command asks for the opt-in that is there. -/
def isIdle (k : ProjectKeyring) : KeyringCommand → Bool
  | .setRemoteExecutionOptIn enabled _ => k.remoteExecutionOptIn == enabled
  | _ => false

def revokes (k : ProjectKeyring) (command : KeyringCommand) (recipient : KeyRecipient) : Bool :=
  command.withdraws recipient || recipient.isWorker && (command.isRotation ||
    match command with
    | .setRemoteExecutionOptIn enabled _ => !enabled && k.remoteExecutionOptIn
    | _ => false)

def effect (k : ProjectKeyring) (command : KeyringCommand) : ProjectKeyring :=
  if command.isIdle k then k
  else { k with
    envelopes := revokeAll (command.revokes k) command.now k.envelopes ++ command.supplies
    activeKeyVersion := k.activeKeyVersion + command.isRotation.toNat
    remoteExecutionOptIn := match command with
      | .setRemoteExecutionOptIn enabled _ => enabled
      | _ => k.remoteExecutionOptIn
    rotationRequired := !command.isRotation && (k.rotationRequired || match command with
      | .revokeRecipient recipient _ => recipient.isLongLived
      | _ => false)
    revision := k.revision + 1
    updatedAt := command.now }

structure Accepted (k : ProjectKeyring) (command : KeyringCommand) : Prop where
  room : command.isIdle k = false → k.revision + 1 < 2 ^ 64
  versions : k.activeKeyVersion + command.isRotation.toNat < 2 ^ 64 ∨ command.isRotation = false
  supplied : ∀ e ∈ command.supplies, e.validate = .ok () ∧ e.tenantId = k.tenantId ∧
    e.projectId = k.projectId ∧ e.keyVersion = k.activeKeyVersion + command.isRotation.toNat ∧
    k.allows e.recipient = true
  distinct : command.supplies.Pairwise fun a b => a.recipient ≠ b.recipient
  worker : ∀ e ∈ command.supplies, e.recipient.isWorker = true →
    k.remoteExecutionOptIn = true ∧ e.IsShortLived
  withdrawn : ∀ e ∈ command.supplies, command.withdraws e.recipient = false
  fresh : command.isRotation = false → ∀ e ∈ command.supplies, ∀ stored ∈ k.envelopes,
    stored.Apart e
  closed : k.rotationRequired = true → command.isRotation = true ∨ command.supplies = []
  covered : command.isRotation = true → requiredRecipientSetIsAvailable k.mode command.supplies
    (k.activeKeyVersion + 1) command.now = true
  team : (∃ enabled now, command = .setRemoteExecutionOptIn enabled now) → k.mode = .teamEnvelope

end KeyringCommand

lemma revokeAll_revokeAll (p q : KeyRecipient → Bool) (now : DateTime)
    (envelopes : List KeyEnvelope) :
    revokeAll q now (revokeAll p now envelopes) =
    revokeAll (fun r => p r || q r) now envelopes := by
  rw [revokeAll, revokeAll, revokeAll, map_map]
  refine map_congr_left fun e _ => ?_
  by_cases hp : p e.recipient = true <;> by_cases hq : q e.recipient = true <;>
    cases hr : e.revokedAt <;> simp [hp, hq, hr]

namespace ProjectKeyring

open KeyringCommand

variable {k k' : ProjectKeyring} {cmd : KeyringCommand} {rev version : ℕ} {now : DateTime}

lemma nextRevision_ok :
    k.nextRevision = .ok rev ↔ k.revision + 1 < 2 ^ 64 ∧ rev = k.revision + 1 := by
  rw [nextRevision, okOr_ok, checkedAdd_eq_some]
  exact and_congr_right fun _ => eq_comm

lemma nextVersion_ok : k.nextVersion = .ok version ↔
    k.activeKeyVersion + 1 < 2 ^ 64 ∧ version = k.activeKeyVersion + 1 := by
  rw [nextVersion, okOr_ok, checkedAdd_eq_some]
  exact and_congr_right fun _ => eq_comm

lemma validateWorkerEnvelope_ok {e : KeyEnvelope} (h : k.validateWorkerEnvelope e now = .ok ())
    (hw : e.recipient.isWorker = true) : k.remoteExecutionOptIn = true ∧ e.IsShortLived := by
  rw [validateWorkerEnvelope, if_pos hw] at h
  obtain ⟨maxExpiry, hmax, h⟩ := bind_ok.mp h
  simp only [passed] at h
  refine ⟨h.1.1.2, ?_⟩
  cases he : e.expiresAt with
  | none =>
    rw [he] at h
    cases h.2
  | some expires =>
    rw [he, Option.all_some, Bool.or_eq_false_iff] at h
    refine ⟨expires, he, ?_⟩
    rw [← DateTime.eq_of_checkedAddSeconds (okOr_ok.mp hmax)]
    exact not_lt.mp (of_decide_eq_false h.2.2)

/-- What the checks on the envelopes of a rotation let through. -/
lemma checkRotation_ok {revoked : Option KeyRecipient} {newEnvelopes : List KeyEnvelope}
    (h : k.checkRotation revoked version newEnvelopes now = .ok rev) :
    (∀ e ∈ newEnvelopes, (e.validate = .ok () ∧ e.tenantId = k.tenantId ∧
        e.projectId = k.projectId ∧ e.keyVersion = version ∧ k.allows e.recipient = true) ∧
        e.recipient.isWorker = false ∧ ∀ r ∈ revoked, e.recipient ≠ r) ∧
      newEnvelopes.Pairwise (fun a b => a.recipient ≠ b.recipient) ∧
      requiredRecipientSetIsAvailable k.mode newEnvelopes version now = true ∧
      k.revision + 1 < 2 ^ 64 ∧ rev = k.revision + 1 := by
  obtain ⟨hl, h⟩ := check_ok.mp h
  obtain ⟨hc, hrev⟩ := check_ok.mp h
  have hch : ∀ (seen : List KeyEnvelope) (e : KeyEnvelope),
      k.validateRotated revoked version seen e = .ok () ↔
        ((e.validate = .ok () ∧ e.tenantId = k.tenantId ∧ e.projectId = k.projectId ∧
          e.keyVersion = version ∧ k.allows e.recipient = true) ∧
          e.recipient.isWorker = false ∧ ∀ r ∈ revoked, e.recipient ≠ r) ∧
          ∀ b ∈ seen, b.recipient ≠ e.recipient := by
    intro seen e
    simp only [validateRotated, validateRecipientForMode, check_ok, passed, Option.any_eq_false,
      any_eq_false, beq_iff_eq, beq_eq_false_iff_ne, and_assoc]
    constructor
    · rintro ⟨hv, ht, hp, hve, hr, hw, hs, ha⟩
      exact ⟨hv, ht, hp, hve, ha, hw, hr, hs⟩
    · rintro ⟨hv, ht, hp, hve, ha, hw, hr, hs⟩
      exact ⟨hv, ht, hp, hve, hr, hw, hs, ha⟩
  rw [forSeen_ok hch] at hl
  rw [rejectIf_ok, Bool.not_eq_false'] at hc
  exact ⟨fun e he => (hl.1 e he).1, hl.2, hc, nextRevision_ok.mp hrev⟩

/-- A command that brings no envelopes needs room for its revision, and the opt-in a team. -/
lemma accepted_of_supplies_nil (hs : cmd.supplies = []) (hrot : cmd.isRotation = false)
    (hr : cmd.isIdle k = false → k.revision + 1 < 2 ^ 64)
    (ht : (∃ enabled now, cmd = .setRemoteExecutionOptIn enabled now) → k.mode = .teamEnvelope) :
    cmd.Accepted k := by
  refine ⟨hr, .inr hrot, ?_, ?_, ?_, ?_, ?_, fun _ => .inr hs, ?_, ht⟩ <;> simp [hs, hrot]

/-- A successful command has made its checks, and its effect is the keyring that it leaves. -/
lemma accepted_of_apply (h : k.apply cmd = .ok k') : cmd.Accepted k ∧ k' = cmd.effect k := by
  cases cmd with
  | addEnvelope =>
    obtain ⟨hva, h⟩ := check_ok.mp h
    obtain ⟨hsc, h⟩ := check_ok.mp h
    obtain ⟨hf, h⟩ := check_ok.mp h
    obtain ⟨ha, h⟩ := check_ok.mp h
    obtain ⟨hw, h⟩ := check_ok.mp h
    obtain ⟨rev, hrev, hres⟩ := bind_ok.mp h
    simp only [requireScopeAndActiveVersion, validateRecipientForMode, passed, any_eq_false,
      Bool.not_eq_true, beq_eq_false_iff_ne, Bool.and_eq_false_iff] at hsc hf ha
    obtain ⟨⟨ht, hp⟩, hve⟩ := hsc
    obtain ⟨ho, hf⟩ := hf
    obtain ⟨hr, rfl⟩ := nextRevision_ok.mp hrev
    cases hres
    refine ⟨⟨fun _ => hr, .inr rfl, ?_, pairwise_singleton _ _, ?_, fun _ _ => rfl, ?_, ?_,
      by simp [isRotation], by simp⟩, ?_⟩
    · exact forall_mem_singleton.mpr ⟨hva, ht, hp, hve, ha⟩
    · exact forall_mem_singleton.mpr fun h => validateWorkerEnvelope_ok hw h
    · refine fun _ => forall_mem_singleton.mpr fun stored hst => ?_
      refine ⟨(hf stored hst).1, fun happ => ?_⟩
      exact (hf stored hst).2.elim (· happ.1) (· happ.2)
    · intro hreq
      rw [ho] at hreq
      cases hreq
    · simp [effect, isIdle, supplies, isRotation, KeyringCommand.now, revokes, withdraws,
        revokeAll, Bool.toNat]
  | setRemoteExecutionOptIn enabled now =>
    obtain ⟨hte, h⟩ := check_ok.mp h
    have hm : k.mode = .teamEnvelope := by simpa using hte
    have hacc : ∀ hr, Accepted k (.setRemoteExecutionOptIn enabled now) := fun hr =>
      accepted_of_supplies_nil rfl rfl hr fun _ => hm
    by_cases hi : (k.remoteExecutionOptIn == enabled) = true
    · rw [if_pos hi] at h
      cases h
      refine ⟨hacc fun hb => ?_, (if_pos hi).symm⟩
      cases hi.symm.trans hb
    · rw [if_neg hi] at h
      obtain ⟨rev, hrev, hres⟩ := bind_ok.mp h
      obtain ⟨hr, rfl⟩ := nextRevision_ok.mp hrev
      cases hres
      refine ⟨hacc fun _ => hr, Eq.trans ?_ (if_neg hi).symm⟩
      cases enabled with
      | true => simp [supplies, isRotation, KeyringCommand.now, revokes, withdraws, revokeAll]
      | false =>
        have hon : k.remoteExecutionOptIn = true := by simpa using hi
        have hre : revokes k (.setRemoteExecutionOptIn false now) = (·.isWorker) := by
          funext r
          simp [revokes, withdraws, isRotation, hon]
        simp [supplies, isRotation, KeyringCommand.now, hre]
  | revokeRecipient rcp now =>
    obtain ⟨-, h⟩ := check_ok.mp h
    obtain ⟨rev, hrev, hres⟩ := bind_ok.mp h
    obtain ⟨hr, rfl⟩ := nextRevision_ok.mp hrev
    cases hres
    refine ⟨accepted_of_supplies_nil rfl rfl (fun _ => hr) (by simp), ?_⟩
    have hre : revokes k (.revokeRecipient rcp now) = (· == rcp) := by
      funext r
      simp [revokes, withdraws, isRotation]
    simp [effect, isIdle, supplies, isRotation, KeyringCommand.now, hre, Bool.or_comm]
  | rotate newEnvelopes now =>
    obtain ⟨result, hro, rfl⟩ := map_ok.mp h
    obtain ⟨version, hve, h⟩ := bind_ok.mp hro
    obtain ⟨hv, rfl⟩ := nextVersion_ok.mp hve
    obtain ⟨-, h⟩ := check_ok.mp h
    obtain ⟨rev, hrot, hres⟩ := bind_ok.mp h
    cases hres
    obtain ⟨hs, hd, hc, hr, rfl⟩ := checkRotation_ok hrot
    refine ⟨⟨fun _ => hr, .inl hv, fun e he => (hs e he).1, hd, ?_,
      fun _ _ => rfl, by simp [isRotation], fun _ => .inl rfl, fun _ => hc, by simp⟩, ?_⟩
    · intro e he hw
      cases hw.symm.trans (hs e he).2.1
    · have hre : revokes k (.rotate newEnvelopes now) = (·.isWorker) := by
        funext r
        simp [revokes, withdraws, isRotation]
      simp [effect, isIdle, supplies, isRotation, KeyringCommand.now, hre]
  | revokeAndRotate rcp newEnvelopes now =>
    obtain ⟨result, hro, rfl⟩ := map_ok.mp h
    obtain ⟨-, h⟩ := check_ok.mp hro
    obtain ⟨-, h⟩ := check_ok.mp h
    obtain ⟨version, hve, h⟩ := bind_ok.mp h
    obtain ⟨hv, rfl⟩ := nextVersion_ok.mp hve
    obtain ⟨rev, hrot, hres⟩ := bind_ok.mp h
    cases hres
    obtain ⟨hs, hd, hc, hr, rfl⟩ := checkRotation_ok hrot
    refine ⟨⟨fun _ => hr, .inl hv, fun e he => (hs e he).1, hd, ?_, ?_,
      by simp [isRotation], fun _ => .inl rfl, fun _ => hc, by simp⟩, ?_⟩
    · intro e he hw
      cases hw.symm.trans (hs e he).2.1
    · intro e he
      exact beq_eq_false_iff_ne.mpr ((hs e he).2.2 _ rfl)
    · have hre : revokes k (.revokeAndRotate rcp newEnvelopes now) =
          fun r => r == rcp || r.isWorker := by
        funext r
        simp [revokes, withdraws, isRotation]
      rw [revokeAll_revokeAll]
      simp [effect, isIdle, supplies, isRotation, KeyringCommand.now, hre]

/-- A step leaves the keyring alone, or it is the effect of an accepted command. -/
lemma step_cases (k : ProjectKeyring) (cmd : KeyringCommand) :
    (k.step cmd).2 = k ∧ (k.step cmd).1 ≠ .ok () ∨
      cmd.Accepted k ∧ k.step cmd = (.ok (), cmd.effect k) := by
  unfold step
  cases h : k.apply cmd with
  | error => exact .inl ⟨rfl, nofun⟩
  | ok =>
    obtain ⟨hacc, rfl⟩ := accepted_of_apply h
    exact .inr ⟨hacc, rfl⟩

/-- The envelopes after a command: those from before, some of them revoked, and those supplied. -/
lemma envelopes_effect (k : ProjectKeyring) (cmd : KeyringCommand) :
    (cmd.effect k).envelopes = revokeAll (cmd.revokes k) cmd.now k.envelopes ++ cmd.supplies := by
  unfold effect
  split
  · next hi =>
    cases cmd with
    | setRemoteExecutionOptIn enabled =>
      have hs : k.remoteExecutionOptIn = enabled := beq_iff_eq.mp hi
      cases enabled <;> simp [supplies, revokes, withdraws, isRotation, revokeAll, hs]
    | _ => cases hi
  · rfl

end ProjectKeyring

end Hartevo
