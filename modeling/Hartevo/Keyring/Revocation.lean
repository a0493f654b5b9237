import Hartevo.Keyring.Steps

/-!
# What is revoked stays revoked

An envelope keeps its place in the keyring, and once it is revoked it is never changed again.  A
recipient whose envelopes are all revoked is therefore found by no lookup until a command supplies
an envelope for it.

For workers the same holds of the opt-in: whenever it is off, every worker envelope is revoked.  The
envelopes that a keyring starts with are the exception, since nothing checks them against the opt-in
or the life of a worker key.
-/

namespace Hartevo

open List

variable {k : ProjectKeyring} {cmd : KeyringCommand} {r : KeyRecipient} {e : KeyEnvelope} {v i : ℕ}
  {t now : DateTime}

/-- An envelope after a revocation was there before, and it is the same or is revoked now. -/
lemma exists_of_mem_revokeAll {revoked : KeyRecipient → Bool} {l : List KeyEnvelope}
    (h : e ∈ revokeAll revoked now l) :
    ∃ old ∈ l, (e = old ∧ (revoked old.recipient = true → old.revokedAt.isSome = true)) ∨
      (e = { old with revokedAt := some now } ∧ revoked old.recipient = true) := by
  obtain ⟨old, hold, rfl⟩ := mem_map.mp h
  refine ⟨old, hold, ?_⟩
  split
  · next hr => exact .inr ⟨rfl, (Bool.and_eq_true_iff.mp hr).1⟩
  · next hk =>
    refine .inl ⟨rfl, fun hr => ?_⟩
    rw [hr, Bool.true_and, Bool.not_eq_true, ← Option.not_isSome, Bool.not_eq_false'] at hk
    exact hk

namespace ProjectKeyring

open KeyringCommand

/-! ## Recipients -/

/-- Every envelope of the recipient is revoked. -/
def Withdrawn (r : KeyRecipient) (k : ProjectKeyring) : Prop :=
  ∀ e ∈ k.envelopes, e.recipient = r → e.revokedAt.isSome = true

lemma mem_of_lookup (h : (okOr (k.envelopes.find? fun env =>
      env.keyVersion == v && env.recipient == r && env.isAvailable t)
      .recipientNotFound : Except KeyManagementError KeyEnvelope) = .ok e) :
    e ∈ k.envelopes ∧ e.recipient = r ∧ e.revokedAt = none := by
  have hf := okOr_ok.mp h
  have hm := find?_some hf
  simp only [KeyEnvelope.isAvailable, Bool.and_eq_true, beq_iff_eq, Option.isNone_iff_eq_none]
    at hm
  exact ⟨mem_of_find?_eq_some hf, hm.1.2, hm.2.1.1⟩

lemma mem_of_activeEnvelopeFor (h : k.activeEnvelopeFor r t = .ok e) :
    e ∈ k.envelopes ∧ e.recipient = r ∧ e.revokedAt = none := by
  obtain ⟨-, h⟩ := check_ok.mp h
  obtain ⟨-, h⟩ := check_ok.mp h
  exact mem_of_lookup h

lemma mem_of_availableEnvelopeForVersion (h : k.availableEnvelopeForVersion r v t = .ok e) :
    e ∈ k.envelopes ∧ e.recipient = r ∧ e.revokedAt = none := by
  obtain ⟨-, h⟩ := check_ok.mp h
  obtain ⟨-, h⟩ := check_ok.mp h
  exact mem_of_lookup h

lemma Withdrawn.not_found (h : k.Withdrawn r)
    (hf : e ∈ k.envelopes ∧ e.recipient = r ∧ e.revokedAt = none) : False := by
  have hr := h e hf.1 hf.2.1
  rw [hf.2.2] at hr
  cases hr

lemma Withdrawn.effect (h : k.Withdrawn r) (hs : ∀ e ∈ cmd.supplies, e.recipient ≠ r) :
    (cmd.effect k).Withdrawn r := by
  intro e he hr
  rw [envelopes_effect, mem_append] at he
  rcases he with he | he
  · obtain ⟨old, hold, ⟨rfl, -⟩ | ⟨rfl, -⟩⟩ := exists_of_mem_revokeAll he
    · exact h e hold hr
    · rfl
  · exact absurd hr (hs e he)

lemma withdrawn_effect (hacc : cmd.Accepted k) (h : cmd.withdraws r = true) :
    (cmd.effect k).Withdrawn r := by
  intro e he hr
  rw [envelopes_effect, mem_append] at he
  rcases he with he | he
  · obtain ⟨old, hold, ⟨rfl, hre⟩ | ⟨rfl, -⟩⟩ := exists_of_mem_revokeAll he
    · exact hre (Bool.or_eq_true_iff.mpr (.inl (hr ▸ h)))
    · rfl
  · have ho := hacc.withdrawn e he
    rw [hr, h] at ho
    cases ho

lemma rotationRequired_effect (h : k.rotationRequired = true)
    (hrot : cmd.isRotation = false) : (cmd.effect k).rotationRequired = true := by
  unfold KeyringCommand.effect
  split
  · exact h
  · simp [h, hrot]

/-- A revoked envelope stays at its place as it is. -/
lemma getElem?_step (h : k.envelopes[i]? = some e) (hr : e.revokedAt.isSome = true)
    (cmd : KeyringCommand) : (k.step cmd).2.envelopes[i]? = some e := by
  rcases k.step_cases cmd with ⟨hs, -⟩ | ⟨-, he⟩
  · rw [hs]
    exact h
  · rw [he, envelopes_effect]
    have hk : (revokeAll (cmd.revokes k) cmd.now k.envelopes)[i]? = some e := by
      rw [revokeAll, getElem?_map, h, Option.map_some]
      obtain ⟨t, ht⟩ := Option.isSome_iff_exists.mp hr
      rw [ht, Option.isNone_some, Bool.and_false, if_neg Bool.false_ne_true]
    rw [List.getElem?_append_left (List.getElem?_eq_some_iff.mp hk).1, hk]

lemma getElem?_run (h : k.envelopes[i]? = some e) (hr : e.revokedAt.isSome = true)
    (later : List KeyringCommand) : (run step k later).envelopes[i]? = some e :=
  run_invariant step (I := fun s => s.envelopes[i]? = some e)
    (fun _ cmd hs => getElem?_step hs hr cmd) h later

/-- After a recipient was revoked, no lookup finds an envelope for it until a command supplies one.
A revoked envelope is never changed.  While a rotation is required, there is no active envelope for
anybody until one succeeds. -/
theorem revocation_final (k : ProjectKeyring) :
    (∀ (r : KeyRecipient) (command : KeyringCommand), command.withdraws r = true →
      (k.step command).1 = .ok () → ∀ later : List KeyringCommand,
      (∀ event ∈ trace step (k.step command).2 later, event.output = .ok () →
        ∀ e ∈ event.input.supplies, e.recipient ≠ r) →
      let after := run step (k.step command).2 later
      (∀ t e, after.activeEnvelopeFor r t ≠ .ok e) ∧
        ∀ v t e, after.availableEnvelopeForVersion r v t ≠ .ok e) ∧
    (∀ (later : List KeyringCommand) (i : ℕ) (e : KeyEnvelope), k.envelopes[i]? = some e →
      e.revokedAt.isSome = true → (run step k later).envelopes[i]? = some e) ∧
    (k.rotationRequired = true → ∀ later : List KeyringCommand,
      (∀ event ∈ trace step k later, event.output = .ok () → event.input.isRotation = false) →
      ∀ r t, (run step k later).activeEnvelopeFor r t = .error .rotationRequired) := by
  refine ⟨?_, fun later i e he hre => getElem?_run he hre later, ?_⟩
  · intro r command hw hok later hl after
    have hfi : (k.step command).2.Withdrawn r := by
      rcases k.step_cases command with ⟨-, hf⟩ | ⟨hac, hef⟩
      · exact absurd hok hf
      · rw [hef]
        exact withdrawn_effect hac hw
    have ha : after.Withdrawn r := by
      refine (run_rely step (I := Withdrawn r) (P := fun _ => True) ?_ hfi hl).1
      intro s command hs hsu
      refine ⟨?_, trivial⟩
      rcases s.step_cases command with ⟨hsa, -⟩ | ⟨-, hef⟩
      · rw [hsa]
        exact hs
      · rw [hef]
        exact hs.effect (hsu (by rw [eventOf, hef]))
    exact ⟨fun t e h => ha.not_found (mem_of_activeEnvelopeFor h),
      fun v t e h => ha.not_found (mem_of_availableEnvelopeForVersion h)⟩
  · intro hr later hl r t
    have ha : (run step k later).rotationRequired = true := by
      refine (run_rely step (I := fun s => s.rotationRequired = true) (P := fun _ => True) ?_
        hr hl).1
      intro s command hs hro
      refine ⟨?_, trivial⟩
      rcases s.step_cases command with ⟨hsa, -⟩ | ⟨-, hef⟩
      · rw [hsa]
        exact hs
      · rw [hef]
        exact rotationRequired_effect hs (hro (by rw [eventOf, hef]))
    rw [activeEnvelopeFor, ha]
    rfl

/-! ## Workers -/

/-- A worker envelope that is in force was supplied with the opt-in on, lives shortly, and the
opt-in is still on. -/
def WorkersOptedIn
    (events : List (Event ProjectKeyring KeyringCommand (Except KeyManagementError Unit)))
    (k : ProjectKeyring) : Prop :=
  ∀ e ∈ k.envelopes, e.recipient.isWorker = true → e.revokedAt = none →
    k.remoteExecutionOptIn = true ∧ e.IsShortLived ∧ ∃ event ∈ events, event.output = .ok () ∧
      event.before.remoteExecutionOptIn = true ∧ e ∈ event.input.supplies

lemma optIn_effect (h : k.remoteExecutionOptIn = true) (cmd : KeyringCommand) :
    (cmd.effect k).remoteExecutionOptIn = true ∨
      ∀ r : KeyRecipient, r.isWorker = true → cmd.revokes k r = true := by
  unfold KeyringCommand.effect
  split
  · exact .inl h
  · cases cmd with
    | setRemoteExecutionOptIn enabled =>
      cases enabled with
      | true => exact .inl rfl
      | false => exact .inr fun r hr => by simp [revokes, hr, h]
    | _ => exact .inl h

lemma WorkersOptedIn.step
    {evs : List (Event ProjectKeyring KeyringCommand (Except KeyManagementError Unit))}
    (h : WorkersOptedIn evs k) (cmd : KeyringCommand) :
    WorkersOptedIn (evs ++ [eventOf step k cmd]) (k.step cmd).2 := by
  intro e he hw hl
  rcases k.step_cases cmd with ⟨hsa, -⟩ | ⟨hacc, hef⟩
  · rw [hsa] at he ⊢
    obtain ⟨hon, hs, event, hev, hsu⟩ := h e he hw hl
    exact ⟨hon, hs, event, mem_append_left _ hev, hsu⟩
  rw [hef, envelopes_effect, mem_append] at he
  rw [hef]
  rcases he with he | he
  · obtain ⟨old, hold, ⟨rfl, hk⟩ | ⟨rfl, -⟩⟩ := exists_of_mem_revokeAll he
    · obtain ⟨hon, hs, event, hev, hsu⟩ := h e hold hw hl
      rcases optIn_effect hon cmd with hst | hr
      · exact ⟨hst, hs, event, mem_append_left _ hev, hsu⟩
      · have hg := hk (hr _ hw)
        rw [hl] at hg
        cases hg
    · cases hl
  · obtain ⟨hon, hs⟩ := hacc.worker e he hw
    refine ⟨?_, hs, eventOf ProjectKeyring.step k cmd, mem_append_right _ mem_cons_self,
      by rw [eventOf, hef], hon, he⟩
    cases cmd with
    | setRemoteExecutionOptIn | revokeRecipient => cases he
    | _ => exact hon

/-- If every worker envelope that a keyring starts with is revoked, an active worker envelope has a
short life and was supplied with the opt-in on.  Setting the opt-in to false disables the worker
envelopes of the keyring for good. -/
theorem worker_keys_short_lived {tenantId : TenantId} {projectId : ProjectId}
    {mode : ProjectEncryptionMode} {envelopes : List KeyEnvelope} {start : DateTime}
    {k₀ : ProjectKeyring}
    (hnew : initializeKeyring tenantId projectId mode envelopes start = .ok k₀)
    (hworkers : ∀ e ∈ envelopes, e.recipient.isWorker = true → e.revokedAt.isSome = true)
    (commands : List KeyringCommand) :
    let k := run step k₀ commands
    (∀ r t e, r.isWorker = true → k.activeEnvelopeFor r t = .ok e →
      e.IsShortLived ∧ ∃ event ∈ trace step k₀ commands, event.output = .ok () ∧
        event.before.remoteExecutionOptIn = true ∧ e ∈ event.input.supplies) ∧
    ∀ now, (k.step (.setRemoteExecutionOptIn false now)).1 = .ok () →
      ∀ (later : List KeyringCommand) (i : ℕ) (e : KeyEnvelope), k.envelopes[i]? = some e →
      e.recipient.isWorker = true →
      ∃ e', (run step (k.step (.setRemoteExecutionOptIn false now)).2 later).envelopes[i]? =
        some e' ∧ ∀ t, e'.isAvailable t = false := by
  intro k
  have hen : k₀.envelopes = envelopes := by
    obtain ⟨-, hre⟩ := check_ok.mp hnew
    cases hre
    rfl
  have ho : WorkersOptedIn (trace step k₀ commands) k := by
    refine trace_invariant step (J := WorkersOptedIn) ?_ (fun _ _ command h => h.step command)
      commands
    intro e he hw hl
    have hr := hworkers e (hen ▸ he) hw
    rw [hl] at hr
    cases hr
  constructor
  · intro r t e hw ha
    obtain ⟨he, rfl, hl⟩ := mem_of_activeEnvelopeFor ha
    exact (ho e he hw hl).2
  · intro now hok later i e he hw
    -- The opt-out revokes the envelope, or the opt-in was off and the envelope was revoked before.
    have hr : ∃ e', (k.step (.setRemoteExecutionOptIn false now)).2.envelopes[i]? = some e' ∧
        e'.revokedAt.isSome = true := by
      cases hl : e.revokedAt with
      | some t =>
        have hs : e.revokedAt.isSome = true := by rw [hl]; rfl
        exact ⟨e, getElem?_step he hs _, hs⟩
      | none =>
        have hon := (ho e (mem_of_getElem? he) hw hl).1
        rcases k.step_cases (.setRemoteExecutionOptIn false now) with ⟨-, hf⟩ | ⟨-, hef⟩
        · exact absurd hok hf
        refine ⟨{ e with revokedAt := some now }, ?_, rfl⟩
        rw [hef, envelopes_effect]
        change (revokeAll _ _ _ ++ [])[i]? = _
        rw [append_nil, revokeAll, getElem?_map, he]
        simp [revokes, hw, hon, hl, KeyringCommand.now]
    obtain ⟨e', he', hs⟩ := hr
    refine ⟨e', getElem?_run he' hs later, fun t => ?_⟩
    rw [KeyEnvelope.isAvailable, ← Option.not_isSome, hs]
    rfl

end ProjectKeyring

def KeyEnvelope.sample (id : KeyEnvelopeId) (recipient : KeyRecipient) (keyVersion : ℕ)
    (expiresAt : Option DateTime) : KeyEnvelope :=
  let digest := "0000000000000000000000000000000000000000000000000000000000000000"
  ⟨id, "tenant", "project", keyVersion, recipient, digest,
    ⟨.aes256GcmV1, List.replicate 12 0, List.replicate 16 0, digest⟩, 0, expiresAt, none⟩

namespace ProjectKeyring

/-- A team keyring with an envelope for one device. -/
def sample : ProjectKeyring :=
  ⟨"tenant", "project", .teamEnvelope, 1, false, false,
    [.sample "device" (.device "device") 1 none], 1, 0, 0⟩

lemma initializeKeyring_sample : initializeKeyring "tenant" "project" .teamEnvelope
    [.sample "device" (.device "device") 1 none] 0 = .ok sample := rfl

/-- A device is revoked, and the rotation that follows leaves it out. -/
theorem revocation_final_sample :
    let shared := (sample.step (.addEnvelope (.sample "second" (.device "second") 1 none) 1)).2
    let revoked := (shared.step (.revokeRecipient (.device "device") 2)).2
    let after := run step revoked [.rotate [.sample "third" (.device "second") 2 none] 3]
    (shared.activeEnvelopeFor (.device "device") 2).isOk = true ∧
      (after.activeEnvelopeFor (.device "second") 4).isOk = true ∧
      (∀ t e, after.activeEnvelopeFor (.device "device") t ≠ .ok e) ∧
      ∀ r t, revoked.activeEnvelopeFor r t = .error .rotationRequired := by
  intro shared revoked after
  have hdevice := (revocation_final shared).1 (.device "device")
    (.revokeRecipient (.device "device") 2) rfl rfl
    [.rotate [.sample "third" (.device "second") 2 none] 3] (by decide)
  exact ⟨rfl, rfl, hdevice.1, (revocation_final revoked).2.2 rfl [] (by simp [trace])⟩

/-- A worker gets a key for a minute. -/
theorem worker_keys_short_lived_sample :
    let commands := [.setRemoteExecutionOptIn true 1,
      .addEnvelope (.sample "worker" (.worker "worker") 1 (some (60 * nanosPerSecond))) 2]
    ((run step sample commands).activeEnvelopeFor (.worker "worker") 3).isOk = true ∧
      ∀ t e, (run step sample commands).activeEnvelopeFor (.worker "worker") t = .ok e →
        e.IsShortLived :=
  ⟨rfl, fun t e h => ((worker_keys_short_lived initializeKeyring_sample
    (by simp [KeyEnvelope.sample, KeyRecipient.isWorker]) _).1 _ t e rfl h).1⟩

/-- A keyring can start with a worker envelope that lives for years, while there is no opt-in.  Once
the opt-in is set, the envelope is active. -/
theorem initial_worker_key_active :
    ∃ k₀ k e, initializeKeyring "tenant" "project" .teamEnvelope
        [.sample "device" (.device "device") 1 none,
          .sample "worker" (.worker "worker") 1 (some (100000000 * nanosPerSecond))] 0 = .ok k₀ ∧
      k₀.remoteExecutionOptIn = false ∧ k₀.step (.setRemoteExecutionOptIn true 1) = (.ok (), k) ∧
      k.activeEnvelopeFor (.worker "worker") 2 = .ok e ∧ e ∈ k₀.envelopes ∧ ¬e.IsShortLived := by
  refine ⟨_, _, _, rfl, rfl, rfl, rfl, mem_cons_of_mem _ mem_cons_self, ?_⟩
  rintro ⟨expires, he, hs⟩
  cases he
  exact absurd hs (by decide)

end ProjectKeyring

end Hartevo
