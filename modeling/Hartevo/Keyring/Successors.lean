import Hartevo.Foundation.Keyed
import Hartevo.Keyring.Revocation

/-!
# Valid keyrings and their successors

`follows` is what the storage asks of a new version of a keyring.  `Admissible` lists what the
commands do not check themselves but `validate` and `follows` do: the clock must not go back, a
revoked envelope must not be younger than its revocation, the envelopes of a rotation must be new,
and the required recipients must still have an available envelope.

In the other direction `follows` accepts successors that no command makes.  It compares the
envelopes of the old keyring with those of the new one, and never looks at `rotation_required`.
-/

namespace Hartevo

open List

namespace ProjectKeyring

open KeyringCommand

variable {k : ProjectKeyring} {cmd : KeyringCommand} {e old new : KeyEnvelope}

/-! ## Valid keyrings -/

/-- The envelope may stand in the keyring. -/
def Fits (k : ProjectKeyring) (e : KeyEnvelope) : Prop :=
  e.validate = .ok () ∧ e.tenantId = k.tenantId ∧ e.projectId = k.projectId ∧
    k.allows e.recipient = true

structure Valid (k : ProjectKeyring) : Prop where
  scope : isBlank k.tenantId = false ∧ isBlank k.projectId = false
  version : k.activeKeyVersion ≠ 0
  revision : k.revision ≠ 0
  updated : k.createdAt ≤ k.updatedAt
  optIn : k.mode = .personalE2ee → k.remoteExecutionOptIn = false
  fits : ∀ e ∈ k.envelopes, k.Fits e
  apart : k.envelopes.Pairwise KeyEnvelope.Apart
  covered : k.rotationRequired = true ∨
    requiredRecipientSetIsAvailable k.mode k.envelopes k.activeKeyVersion k.updatedAt = true

lemma validateEnvelope_ok (k : ProjectKeyring) (seen : List KeyEnvelope) (e : KeyEnvelope) :
    k.validateEnvelope seen e = .ok () ↔ k.Fits e ∧ ∀ b ∈ seen, b.Apart e := by
  simp only [validateEnvelope, check_ok, passed, any_eq_false, beq_iff_eq, Bool.and_eq_true]
  constructor
  · rintro ⟨hv, ⟨⟨⟨ht, hp⟩, hids⟩, hr⟩, ha⟩
    exact ⟨⟨hv, ht, hp, ha⟩, fun b hb => ⟨hids b hb, hr b hb⟩⟩
  · rintro ⟨⟨hv, ht, hp, ha⟩, hap⟩
    exact ⟨hv, ⟨⟨⟨ht, hp⟩, fun b hb => (hap b hb).1⟩, fun b hb => (hap b hb).2⟩, ha⟩

lemma validate_eq_ok_iff : k.validate = .ok () ↔ k.Valid := by
  rw [validate, check_ok, check_ok, forSeen_ok k.validateEnvelope_ok]
  simp only [passed, beq_eq_false_iff_ne, Bool.and_eq_false_iff, not_mem_nil, false_implies,
    implies_true, and_true, and_assoc]
  constructor
  · rintro ⟨ht, hp, hv, hrev, hu, ho, hf, ha, hc⟩
    exact ⟨⟨ht, hp⟩, hv, hrev, hu, ho.resolve_left ∘ not_not.mpr, hf, ha, hc⟩
  · rintro ⟨⟨ht, hp⟩, hv, hrev, hu, ho, hf, ha, hc⟩
    exact ⟨ht, hp, hv, hrev, hu, or_iff_not_imp_left.mpr (ho ∘ not_not.mp), hf, ha, hc⟩

lemma Valid.find?_id (h : k.Valid) (he : e ∈ k.envelopes) :
    k.envelopes.find? (·.id == e.id) = some e := by
  have hd : (k.envelopes.map KeyEnvelope.id).Nodup := pairwise_map.mpr (h.apart.imp fun ha => ha.1)
  exact find?_key_of_mem hd he

/-! ## What the commands make -/

/-- What a command leaves to its caller. -/
structure Admissible (k : ProjectKeyring) (command : KeyringCommand) : Prop where
  clock : k.updatedAt ≤ command.now
  revoked : ∀ e ∈ k.envelopes, command.revokes k e.recipient = true → e.createdAt ≤ command.now
  ids : command.supplies.Pairwise fun a b => a.id ≠ b.id
  fresh : ∀ e ∈ command.supplies, ∀ stored ∈ k.envelopes, stored.Apart e
  covered : command.isRotation = true ∨ k.rotationRequired = true ∨
    (∃ r now, command = .revokeRecipient r now ∧ r.isLongLived = true) ∨
    requiredRecipientSetIsAvailable k.mode (k.envelopes ++ command.supplies) k.activeKeyVersion
      command.now = true

variable {mode : ProjectEncryptionMode} {l l' : List KeyEnvelope} {v : ℕ} {t now : DateTime}
  {kind revoked : KeyRecipient → Bool}

lemma isHeld_append : isHeld (l ++ l') v t kind = (isHeld l v t kind || isHeld l' v t kind) :=
  any_append

/-- A revocation of other recipients does not matter. -/
lemma isHeld_revokeAll (h : ∀ r, kind r = true → revoked r = false) :
    isHeld (revokeAll revoked now l) v t kind = isHeld l v t kind := by
  simp only [isHeld, revokeAll, any_map]
  congr 1
  funext e
  dsimp only [Function.comp]
  cases hk : kind e.recipient with
  | true => simp [h _ hk, hk]
  | false => split <;> simp [hk]

/-- Whether the required recipients have envelopes does not depend on the workers. -/
lemma required_revokeAll (h : ∀ r : KeyRecipient, r.isWorker = false → revoked r = false) :
    requiredRecipientSetIsAvailable mode (revokeAll revoked now l ++ l') v t =
      requiredRecipientSetIsAvailable mode (l ++ l') v t := by
  have hk : ∀ kind : KeyRecipient → Bool, (∀ id, kind (.worker id) = false) →
      isHeld (revokeAll revoked now l ++ l') v t kind = isHeld (l ++ l') v t kind := by
    intro kind hl
    rw [isHeld_append, isHeld_append, isHeld_revokeAll fun r hr => h r ?_]
    cases r with
    | worker id => cases (hl id).symm.trans hr
    | _ => rfl
  cases mode with
  | personalE2ee => exact congrArg₂ and (hk _ fun _ => rfl) (hk _ fun _ => rfl)
  | teamEnvelope =>
    simp only [requiredRecipientSetIsAvailable]
    exact hk _ fun _ => rfl

lemma required_append (h : requiredRecipientSetIsAvailable mode l' v t = true) :
    requiredRecipientSetIsAvailable mode (l ++ l') v t = true := by
  cases mode with
  | personalE2ee =>
    obtain ⟨hd, hr⟩ := Bool.and_eq_true_iff.mp h
    simp only [requiredRecipientSetIsAvailable, isHeld_append, hd, hr, Bool.or_true, Bool.and_self]
  | teamEnvelope =>
    simp only [requiredRecipientSetIsAvailable] at h
    simp only [requiredRecipientSetIsAvailable, isHeld_append, h, Bool.or_true]

lemma validate_revoked (h : e.validate = .ok ()) (hnow : e.createdAt ≤ now) :
    { e with revokedAt := some now }.validate = .ok () := by
  simp only [KeyEnvelope.validate, passed] at h ⊢
  refine ⟨⟨h.1.1, ?_⟩, h.2⟩
  rw [Option.any_some]
  exact decide_eq_false (not_lt.mpr hnow)

lemma Valid.effect (h : k.Valid) (hacc : cmd.Accepted k)
    (hbu : cmd.isIdle k = false) (hadm : k.Admissible cmd) : (cmd.effect k).Valid := by
  unfold KeyringCommand.effect
  rw [if_neg (Bool.eq_false_iff.mp hbu)]
  refine ⟨h.scope, fun hz => h.version (Nat.eq_zero_of_add_eq_zero hz).1, Nat.succ_ne_zero _,
    h.updated.trans hadm.clock, ?_, ?_, ?_, ?_⟩
  · intro hm
    cases cmd with
    | setRemoteExecutionOptIn =>
      cases hm.symm.trans (hacc.team ⟨_, _, rfl⟩)
    | _ => exact h.optIn hm
  · intro e he
    rcases mem_append.mp he with he | he
    · obtain ⟨old, hold, ⟨rfl, -⟩ | ⟨rfl, hrev⟩⟩ := exists_of_mem_revokeAll he
      · exact h.fits e hold
      · obtain ⟨hv, hsc⟩ := h.fits old hold
        exact ⟨validate_revoked hv (hadm.revoked old hold hrev), hsc⟩
    · obtain ⟨hv, ht, hp, -, hal⟩ := hacc.supplied e he
      exact ⟨hv, ht, hp, hal⟩
  · refine pairwise_append.mpr ⟨pairwise_map.mpr (h.apart.imp fun hap => ?_), ?_, ?_⟩
    · split <;> split <;> exact hap
    · exact (hadm.ids.and hacc.distinct).imp fun hnew => ⟨hnew.1, fun hs =>
        hnew.2 hs.2⟩
    · intro a ha b hb
      obtain ⟨old, hold, ⟨rfl, -⟩ | ⟨rfl, -⟩⟩ := exists_of_mem_revokeAll ha
      · exact hadm.fresh b hb a hold
      · exact hadm.fresh b hb old hold
  · cases hrot : cmd.isRotation with
    | true => exact .inr (required_append (hacc.covered hrot))
    | false =>
      rcases hadm.covered with hro | hre | ⟨r, now, rfl, hl⟩ | hc
      · cases hrot.symm.trans hro
      · exact .inl (by rw [hre]; rfl)
      · exact .inl (Bool.or_eq_true_iff.mpr (.inr hl))
      · by_cases hw : ∃ r now, cmd = .revokeRecipient r now ∧ r.isLongLived = true
        · obtain ⟨r, now, rfl, hl⟩ := hw
          exact .inl (Bool.or_eq_true_iff.mpr (.inr hl))
        · refine .inr ((required_revokeAll fun r hr => ?_).trans hc)
          cases cmd with
          | revokeRecipient recipient now =>
            have hwo : recipient.isWorker = true := by
              by_contra hl
              exact hw ⟨recipient, now, rfl, by simpa [KeyRecipient.isLongLived] using hl⟩
            have hne : r ≠ recipient := fun hs => by
              rw [hs, hwo] at hr
              cases hr
            simp [revokes, withdraws, hr, hne]
          | rotate | revokeAndRotate => cases hrot
          | _ => simp [revokes, withdraws, hr]

/-- What a command makes of an envelope. -/
lemma exists_mem_effect (he : e ∈ k.envelopes) (cmd : KeyringCommand) :
    ∃ e' ∈ (cmd.effect k).envelopes, e'.id = e.id ∧
      (e' = e ∨ cmd.revokes k e.recipient = true ∧ e.revokedAt = none ∧
        e' = { e with revokedAt := some cmd.now }) := by
  rw [envelopes_effect]
  refine ⟨_, mem_append_left _ (mem_map.mpr ⟨e, he, rfl⟩), ?_⟩
  split
  · next hr =>
    obtain ⟨hre, hl⟩ := Bool.and_eq_true_iff.mp hr
    exact ⟨rfl, .inr ⟨hre, Option.isNone_iff_eq_none.mp hl, rfl⟩⟩
  · exact ⟨rfl, .inl rfl⟩

lemma range_effect (hacc : cmd.Accepted k) (h : k.activeKeyVersion < 2 ^ 64) :
    k.activeKeyVersion + cmd.isRotation.toNat < 2 ^ 64 := by
  rcases hacc.versions with hv | hrot
  · exact hv
  · rw [hrot]
    exact h

lemma keepsEnvelope_of_find? (h : k.envelopes.find? (·.id == old.id) = some new)
    (hnew : new = old ∨ old.revokedAt = none ∧ new = { old with revokedAt := some k.updatedAt }) :
    k.keepsEnvelope old = true := by
  rw [keepsEnvelope, h, Option.any_some]
  rcases hnew with rfl | ⟨hl, rfl⟩
  · have hs : ({ new with revokedAt := new.revokedAt } != new) = false := bne_self_eq_false new
    rw [hs]
    cases new.revokedAt <;> simp
  · simp [hl]

lemma follows_effect (h : k.Valid) (hn : (cmd.effect k).Valid)
    (hacc : cmd.Accepted k) (hb : cmd.isIdle k = false)
    (hc : k.updatedAt ≤ cmd.now) (hra : k.activeKeyVersion < 2 ^ 64) :
    (cmd.effect k).follows k = .ok true := by
  have hu : (cmd.effect k).updatedAt = cmd.now := by
    unfold KeyringCommand.effect
    rw [if_neg (Bool.eq_false_iff.mp hb)]
  have hk : ∀ old ∈ k.envelopes, (cmd.effect k).keepsEnvelope old = true := by
    intro old hold
    obtain ⟨new, hmem, hid, hnew⟩ := exists_mem_effect hold cmd
    refine keepsEnvelope_of_find? (hid ▸ hn.find?_id hmem) (hnew.imp_right fun hr => ?_)
    rw [hu]
    exact hr.2
  have hro := hacc.room hb
  have hv : k.activeKeyVersion + cmd.isRotation.toNat ≤ saturatingAdd 64 k.activeKeyVersion 1 := by
    have hnew := range_effect hacc hra
    have hone := Bool.toNat_le cmd.isRotation
    unfold saturatingAdd
    omega
  rw [follows, validate_eq_ok_iff.mpr hn, validate_eq_ok_iff.mpr h]
  change Except.ok (_ && _) = _
  rw [all_eq_true.mpr hk, Bool.and_true]
  unfold KeyringCommand.effect
  rw [if_neg (Bool.eq_false_iff.mp hb)]
  have hrev : saturatingAdd 64 k.revision 1 = k.revision + 1 := by
    unfold saturatingAdd
    omega
  simp only [hrev, bne_self_eq_false, Bool.false_or, decide_eq_false (not_lt.mpr hc),
    decide_eq_false (not_lt.mpr hv), decide_eq_false (not_lt.mpr (Nat.le_add_right _ _))]
  rfl

/-- In a run from a new keyring, every command that changes the keyring leaves a valid one that
follows the one before, provided that its caller sees to what the commands do not check. -/
theorem commands_recognised {tenantId : TenantId} {projectId : ProjectId}
    {mode : ProjectEncryptionMode} {envelopes : List KeyEnvelope} {start : DateTime}
    {k₀ : ProjectKeyring}
    (hnew : initializeKeyring tenantId projectId mode envelopes start = .ok k₀)
    (commands : List KeyringCommand)
    (hadmissible : ∀ event ∈ trace step k₀ commands, event.output = .ok () →
      event.input.isIdle event.before = false → event.before.Admissible event.input) :
    ∀ event ∈ trace step k₀ commands, event.output = .ok () →
      event.input.isIdle event.before = false →
      event.after.validate = .ok () ∧ event.after.follows event.before = .ok true := by
  obtain ⟨hv, hre⟩ := check_ok.mp hnew
  cases hre
  refine (run_rely step (I := fun k => k.Valid ∧ k.activeKeyVersion < 2 ^ 64) ?_
    ⟨validate_eq_ok_iff.mp hv, Nat.one_lt_two_pow (by decide)⟩ hadmissible).2
  rintro k command ⟨hk, hr⟩ hc
  rcases k.step_cases command with ⟨hs, hf⟩ | ⟨ha, he⟩
  · refine ⟨?_, fun hok => absurd hok hf⟩
    rw [hs]
    exact ⟨hk, hr⟩
  · simp only [eventOf, he, true_implies] at hc ⊢
    cases hb : command.isIdle k with
    | true =>
      have hs : command.effect k = k := if_pos hb
      rw [hs]
      exact ⟨⟨hk, hr⟩, fun hidle => Bool.noConfusion hidle⟩
    | false =>
      have hn := hk.effect ha hb (hc hb)
      refine ⟨⟨hn, ?_⟩, fun _ => ⟨validate_eq_ok_iff.mpr hn,
        follows_effect hk hn ha hb (hc hb).clock hr⟩⟩
      unfold KeyringCommand.effect
      rw [if_neg (Bool.eq_false_iff.mp hb)]
      exact range_effect ha hr

/-- The opt-in of the sample is recognised. -/
theorem commands_recognised_sample :
    (sample.step (.setRemoteExecutionOptIn true 1)).2.validate = .ok () ∧
      (sample.step (.setRemoteExecutionOptIn true 1)).2.follows sample = .ok true :=
  commands_recognised initializeKeyring_sample [.setRemoteExecutionOptIn true 1]
    (forall_mem_singleton.mpr fun _ _ => ⟨by decide, by decide, .nil, nofun,
      .inr (.inr (.inr rfl))⟩)
    (eventOf step sample (.setRemoteExecutionOptIn true 1)) mem_cons_self rfl rfl

/-- With a clock that goes back, a command succeeds and leaves a keyring that is not valid. -/
theorem optIn_before_creation :
    (sample.step (.setRemoteExecutionOptIn true (-1))).1 = .ok () ∧
      (sample.step (.setRemoteExecutionOptIn true (-1))).2.validate = .error .invalidKeyring :=
  ⟨rfl, rfl⟩

/-! ## What `follows` accepts -/

end ProjectKeyring

end Hartevo
