import Hartevo.Identity.Support

/-!
# Connections to providers

A connection is registered for one account at a provider and is then probed, again and again, until
it is revoked.  A probe is applied with its text trimmed and its scopes normalised, so that applying
the recorded probe once more changes nothing; this is how the storage recognises a step.

The snapshot of a connection is checked when it is restored.  The check asks that the two expiry
times of the last probe are not before the probe, for every outcome, while a probe is only held to
them when it is successful.
-/

namespace Hartevo

/-! ## The commands -/

/-- The text of a probe is trimmed before it is read. -/
def ConnectionProbe.normalize (probe : ConnectionProbe) : ConnectionProbe :=
  { probe with
    observedExternalAccountId := trim probe.observedExternalAccountId
    grantedScopes := normalizeScopes probe.grantedScopes }

/-- A connection has the fields of its snapshot. -/
structure Connection extends snapshot : ConnectionSnapshot

namespace Connection

def register (id : ConnectionId) (tenantId : TenantId) (projectId : ProjectId) (provider : String)
    (accountId : AccountId) (expectedExternalAccountId : String) (requiredScopes : BTreeSet String)
    (now : DateTime) : Except ConnectionError Connection := do
  rejectIf (isBlank id || isBlank tenantId || isBlank projectId || (trim provider).isEmpty ||
    isBlank accountId || (trim expectedExternalAccountId).isEmpty ||
    (normalizeScopes requiredScopes).isEmpty) .incompleteRegistration
  pure
    { id, tenantId, projectId, accountId
      provider := trim provider
      expectedExternalAccountId := trim expectedExternalAccountId
      requiredScopes := normalizeScopes requiredScopes
      grantedScopes := ∅
      status := .pendingAuth
      lastProbe := none
      revokedAt := none
      revision := 1
      createdAt := now
      updatedAt := now }

def prepareTouch (self : Connection) (now : DateTime) : Except ConnectionError ℕ := do
  rejectIf (decide (now < self.updatedAt)) .timestampRegression
  okOr (checkedAdd 64 self.revision 1) .revisionOverflow

def commitTouch (self : Connection) (nextRevision : ℕ) (now : DateTime) : Connection :=
  { self with revision := nextRevision, updatedAt := now }

def beginProbe (self : Connection) (now : DateTime) : Except ConnectionError Connection := do
  rejectIf (self.status == .revoked) .revoked
  rejectIf (self.status == .probing) .probeAlreadyInProgress
  let nextRevision ← self.prepareTouch now
  pure (commitTouch { self with status := .probing } nextRevision now)

def effectiveStatus (self : Connection) (now : DateTime) : ConnectionStatus :=
  if self.status == .connected && self.lastProbe.all fun probe =>
    decide (probe.validUntil ≤ now) || decide (probe.credentialExpiresAt ≤ now)
  then .expired else self.status

/-- The status that a probe leads to. -/
def probedStatus (self : Connection) (probe : ConnectionProbe) : ConnectionStatus :=
  if probe.outcome == .authorizationRevoked then .revoked
  else if probe.observedExternalAccountId != self.expectedExternalAccountId then .wrongAccount
  else if !scopesGranted self.requiredScopes probe.grantedScopes then .missingScopes
  else match probe.outcome with
    | .successful => .connected
    | .providerUnavailable => .degraded
    | .authorizationRevoked => .revoked
    | .rejected => .pendingAuth

/-- The connection with the result of a probe that was trimmed. -/
def recordProbe (self : Connection) (probe : ConnectionProbe) (now : DateTime) : Connection :=
  let status := self.probedStatus probe
  { self with
    status
    revokedAt := if status == .revoked then some now else self.revokedAt
    grantedScopes := if status == .revoked then ∅ else probe.grantedScopes
    lastProbe := some probe }

def applyProbe (self : Connection) (probe : ConnectionProbe) (now : DateTime) :
    Except ConnectionError (Connection × ConnectionStatus) := do
  rejectIf (self.status == .revoked) .revoked
  rejectIf (self.status != .probing) .probeNotInProgress
  let probe := probe.normalize
  rejectIf (probe.observedExternalAccountId.isEmpty || !isSha256 probe.evidenceDigest ||
    decide (now < probe.probedAt) || (probe.outcome == .successful &&
      (decide (probe.validUntil ≤ now) || decide (probe.credentialExpiresAt ≤ now)))) .invalidProbe
  let nextRevision ← self.prepareTouch now
  let next := commitTouch (self.recordProbe probe now) nextRevision now
  pure (next, next.effectiveStatus now)

def revoke (self : Connection) (now : DateTime) : Except ConnectionError Connection :=
  if self.status == .revoked then pure self
  else do
    let nextRevision ← self.prepareTouch now
    pure (commitTouch { self with status := .revoked, revokedAt := some now, grantedScopes := ∅ }
      nextRevision now)

/-- The checks are those of `ConnectionSnapshot.validate`. -/
def restore (snapshot : ConnectionSnapshot) : Except ConnectionError Connection := do
  snapshot.validate
  pure
    { snapshot with
      requiredScopes := normalizeScopes snapshot.requiredScopes
      grantedScopes := normalizeScopes snapshot.grantedScopes }

end Connection

inductive ConnectionCommand
  | beginProbe
  | applyProbe (probe : ConnectionProbe)
  | revoke

def Connection.execute (self : Connection) (now : DateTime) :
    ConnectionCommand → Except ConnectionError Connection
  | .beginProbe => self.beginProbe now
  | .applyProbe probe => Prod.fst <$> self.applyProbe probe now
  | .revoke => self.revoke now

/-- The connections that the commands lead to when only allowed probes are applied. -/
inductive Connection.Reachable (Allowed : ConnectionProbe → Prop) : Connection → Prop
  | register {id tenantId projectId provider accountId expectedExternalAccountId requiredScopes now
    c} (h : Connection.register id tenantId projectId provider accountId expectedExternalAccountId
      requiredScopes now = .ok c) : Reachable Allowed c
  | execute {c c' now cmd} (h : Reachable Allowed c)
    (hp : ∀ probe, cmd = .applyProbe probe → Allowed probe)
    (he : c.execute now cmd = .ok c') : Reachable Allowed c'

namespace ConnectionSnapshot

/-- A command succeeds on the candidate and leads to the snapshot. -/
def isReached (self : ConnectionSnapshot) : Except ConnectionError Connection → Bool
  | .ok candidate => candidate.snapshot == self
  | .error _ => false

def immutableScopeMatches (self previous : ConnectionSnapshot) : Bool :=
  self.id == previous.id && self.tenantId == previous.tenantId &&
    self.projectId == previous.projectId && self.provider == previous.provider &&
    self.accountId == previous.accountId &&
    self.expectedExternalAccountId == previous.expectedExternalAccountId &&
    self.requiredScopes == previous.requiredScopes && self.createdAt == previous.createdAt &&
    checkedAdd 64 previous.revision 1 == some self.revision &&
    decide (previous.updatedAt ≤ self.updatedAt)

def follows (self previous : ConnectionSnapshot) : Except ConnectionError Bool := do
  self.validate
  previous.validate
  if !self.immutableScopeMatches previous then
    pure false
  else
    let previousConnection ← Connection.restore previous
    let reached := fun command =>
      self.isReached (previousConnection.execute self.updatedAt command)
    pure (reached .beginProbe || self.lastProbe.any (fun probe => reached (.applyProbe probe)) ||
      reached .revoke)

/-! ## Valid snapshots -/

/-- What `validate` checks. -/
structure Valid (s : ConnectionSnapshot) : Prop where
  named : (isBlank s.id || isBlank s.tenantId || isBlank s.projectId || isBlank s.provider ||
    isBlank s.accountId || isBlank s.expectedExternalAccountId || s.requiredScopes.isEmpty) = false
  revised : s.revision ≠ 0
  created : s.createdAt ≤ s.updatedAt
  required : normalizeScopes s.requiredScopes = s.requiredScopes
  granted : normalizeScopes s.grantedScopes = s.grantedScopes
  probed : ∀ probe ∈ s.lastProbe, validProbeSnapshot probe s.updatedAt = true
  consistent : s.stateIsConsistent = true

lemma validate_ok {s : ConnectionSnapshot} : s.validate = .ok () ↔ s.Valid := by
  simp only [validate, check_ok, passed, beq_eq_false_iff_ne, Option.any_eq_false]
  constructor
  · rintro ⟨⟨⟨⟨⟨⟨hn, hr⟩, hc⟩, hq⟩, hg⟩, hp⟩, hs⟩
    exact ⟨by simpa only [Bool.or_eq_false_iff] using hn, hr, hc, hq, hg, hp, hs⟩
  · intro h
    have hn := h.named
    simp only [Bool.or_eq_false_iff] at hn
    exact ⟨⟨⟨⟨⟨⟨hn, h.revised⟩, h.created⟩, h.required⟩, h.granted⟩, h.probed⟩, h.consistent⟩

end ConnectionSnapshot

lemma mem_normalizeScopes {values : BTreeSet String} {scope : String} :
    scope ∈ normalizeScopes values ↔ (∃ value ∈ values, trim value = scope) ∧ scope ≠ "" := by
  simp [normalizeScopes]

lemma normalizeScopes_normalizeScopes (values : BTreeSet String) :
    normalizeScopes (normalizeScopes values) = normalizeScopes values := by
  refine Std.ExtTreeSet.ext_mem fun scope => ?_
  simp only [mem_normalizeScopes]
  refine and_congr_left fun hne => ⟨?_, ?_⟩
  · rintro ⟨_, ⟨⟨value, hv, rfl⟩, -⟩, rfl⟩
    exact ⟨value, hv, (trim_trim value).symm⟩
  · rintro ⟨value, hv, rfl⟩
    exact ⟨trim value, ⟨⟨value, hv, rfl⟩, hne⟩, trim_trim value⟩

lemma ConnectionProbe.normalize_normalize (probe : ConnectionProbe) :
    probe.normalize.normalize = probe.normalize := by
  simp only [normalize, trim_trim, normalizeScopes_normalizeScopes]

lemma Connection.restore_ok {c : Connection} (h : c.snapshot.Valid) :
    restore c.snapshot = .ok c := by
  rw [restore, ConnectionSnapshot.validate_ok.mpr h, h.required, h.granted]
  rfl

/-! ## What the commands keep -/

/-- The expiry times of a probe are not before the probe.  A successful probe is only applied while
they are still to come. -/
def ConnectionProbe.Dated (probe : ConnectionProbe) : Prop :=
  probe.outcome = .successful ∨
    (probe.probedAt ≤ probe.validUntil ∧ probe.probedAt ≤ probe.credentialExpiresAt)

namespace Connection

variable {c c' : Connection} {now before vu : DateTime} {probe : ConnectionProbe} {n : ℕ}
  {cmd : ConnectionCommand} {status : ConnectionStatus} {revokedAt : Option DateTime}
  {grantedScopes requiredScopes : BTreeSet String} {lastProbe : Option ConnectionProbe}

/-- The touch of a changing command. -/
structure Touched (c : Connection) (now : DateTime) (n : ℕ) : Prop where
  later : c.updatedAt ≤ now
  next : checkedAdd 64 c.revision 1 = some n

lemma prepareTouch_ok : c.prepareTouch now = .ok n ↔ c.Touched now n := by
  simp only [prepareTouch, check_ok, passed, okOr_ok]
  exact ⟨fun h => ⟨h.1, h.2⟩, fun h => ⟨h.1, h.2⟩⟩

lemma beginProbe_ok (h : c.beginProbe now = .ok c') : c.status ≠ .revoked ∧
    ∃ n, c.Touched now n ∧ c' = commitTouch { c with status := .probing } n now := by
  obtain ⟨hr, h⟩ := check_ok.mp h
  obtain ⟨-, h⟩ := check_ok.mp h
  obtain ⟨n, hn, h⟩ := bind_ok.mp h
  cases h
  exact ⟨beq_eq_false_iff_ne.mp (rejectIf_ok.mp hr), n, prepareTouch_ok.mp hn, rfl⟩

/-- The conditions under which a trimmed probe is applied. -/
structure Applicable (probe : ConnectionProbe) (now : DateTime) : Prop where
  observed : probe.observedExternalAccountId.isEmpty = false
  digest : isSha256 probe.evidenceDigest = true
  past : probe.probedAt ≤ now
  live : probe.outcome = .successful → now < probe.validUntil ∧ now < probe.credentialExpiresAt

lemma applyProbe_ok (h : Prod.fst <$> c.applyProbe probe now = .ok c') :
    c.status = .probing ∧ Applicable probe.normalize now ∧
      ∃ n, c.Touched now n ∧ c' = commitTouch (c.recordProbe probe.normalize now) n now := by
  obtain ⟨out, ho, rfl⟩ := map_ok.mp h
  obtain ⟨-, ho⟩ := check_ok.mp ho
  obtain ⟨hs, ho⟩ := check_ok.mp ho
  obtain ⟨ha, ho⟩ := check_ok.mp ho
  obtain ⟨n, hn, ho⟩ := bind_ok.mp ho
  cases ho
  simp only [passed, Bool.and_eq_false_iff, beq_eq_false_iff_ne, not_le] at hs ha
  obtain ⟨⟨⟨ho, hd⟩, hp⟩, hl⟩ := ha
  exact ⟨hs, ⟨ho, hd, hp, fun hok => hl.resolve_left (not_not_intro hok)⟩, n,
    prepareTouch_ok.mp hn, rfl⟩

lemma revoke_ok (h : c.revoke now = .ok c') : c' = c ∨ ∃ n, c.Touched now n ∧
    c' = commitTouch { c with status := .revoked, revokedAt := some now, grantedScopes := ∅ }
      n now := by
  simp only [revoke] at h
  split at h
  · cases h
    exact .inl rfl
  · obtain ⟨n, hn, h⟩ := bind_ok.mp h
    cases h
    exact .inr ⟨n, prepareTouch_ok.mp hn, rfl⟩

/-- A command that changes the connection writes its status, its probe and what they grant. -/
lemma touched_of_execute (h : c.execute now cmd = .ok c') (hne : c' ≠ c) :
    ∃ n status revokedAt grantedScopes lastProbe, c.Touched now n ∧
      c' = commitTouch { c with status, revokedAt, grantedScopes, lastProbe } n now := by
  cases cmd with
  | beginProbe =>
    obtain ⟨-, n, hn, rfl⟩ := beginProbe_ok h
    exact ⟨n, _, _, _, _, hn, rfl⟩
  | applyProbe probe =>
    obtain ⟨-, -, n, hn, rfl⟩ := applyProbe_ok h
    exact ⟨n, _, _, _, _, hn, rfl⟩
  | revoke =>
    obtain ⟨n, hn, rfl⟩ := (revoke_ok h).resolve_left hne
    exact ⟨n, _, _, _, _, hn, rfl⟩

lemma revokedAt_eq_none (h : c.snapshot.Valid) (hs : c.status ≠ .revoked) : c.revokedAt = none := by
  cases hr : c.revokedAt with
  | none => rfl
  | some revoked =>
    have hc := h.consistent
    cases hst : c.status <;> simp [ConnectionSnapshot.stateIsConsistent, hst, hr] at hc
    exact absurd hst hs

lemma validProbeSnapshot_mono (hle : before ≤ now)
    (h : validProbeSnapshot probe before = true) : validProbeSnapshot probe now = true := by
  simp only [validProbeSnapshot, Bool.and_eq_true, decide_eq_true_eq] at h ⊢
  obtain ⟨⟨⟨h, hp⟩, hv⟩, hx⟩ := h
  exact ⟨⟨⟨h, hp.trans hle⟩, hv⟩, hx⟩

lemma valid_commitTouch (h : c.snapshot.Valid) (hn : c.Touched now n)
    (hg : normalizeScopes grantedScopes = grantedScopes)
    (hp : ∀ probe ∈ lastProbe, validProbeSnapshot probe now = true)
    (hs : ConnectionSnapshot.stateIsConsistent { c with
      status, revokedAt, grantedScopes, lastProbe, updatedAt := now } = true) :
    (commitTouch { c with status, revokedAt, grantedScopes, lastProbe } n now).snapshot.Valid where
  named := h.named
  revised := by
    have hn := (checkedAdd_eq_some.mp hn.next).2
    change n ≠ 0
    omega
  created := h.created.trans hn.later
  required := h.required
  granted := hg
  probed := hp
  consistent := hs

lemma validProbeSnapshot_normalize (ha : Applicable probe.normalize now) (hd : probe.Dated) :
    validProbeSnapshot probe.normalize now = true := by
  have hb : isBlank probe.normalize.observedExternalAccountId = false := by
    have ho := ha.observed
    rwa [← probe.normalize_normalize] at ho
  have hs : ∀ scope ∈ probe.normalize.grantedScopes, isBlank scope = false := by
    intro scope hm
    obtain ⟨⟨value, -, rfl⟩, hne⟩ := mem_normalizeScopes.mp hm
    simpa [isBlank, trim_trim] using hne
  have ht : probe.probedAt ≤ probe.validUntil ∧ probe.probedAt ≤ probe.credentialExpiresAt := by
    rcases hd with hok | ht
    · obtain ⟨hv, hx⟩ := ha.live hok
      exact ⟨ha.past.trans hv.le, ha.past.trans hx.le⟩
    · exact ht
  simp only [validProbeSnapshot, Bool.and_eq_true, decide_eq_true_eq, beq_iff_eq, and_assoc]
  exact ⟨by rw [hb]; rfl, by rw [Std.ExtTreeSet.toList_any_eq_false_iff.mpr hs]; rfl,
    (normalizeScopes_normalizeScopes _).symm, ha.digest, ha.past, ht⟩

/-- The status of a probe is consistent with the probe. -/
lemma stateIsConsistent_recordProbe (hr : c.revokedAt = none) (ha : Applicable probe now) :
    ConnectionSnapshot.stateIsConsistent { c.recordProbe probe now with updatedAt := now } =
      true := by
  have hl := ha.live
  rcases ho : probe.outcome <;> simp only [recordProbe, probedStatus, ho] <;> split_ifs <;>
    simp_all [ConnectionSnapshot.stateIsConsistent]

lemma valid_execute (h : c.snapshot.Valid) (hd : ∀ probe, cmd = .applyProbe probe → probe.Dated)
    (he : c.execute now cmd = .ok c') : c'.snapshot.Valid := by
  have hkept : ∀ n, c.Touched now n → ∀ probe ∈ c.lastProbe, validProbeSnapshot probe now = true :=
    fun n hn probe hp => validProbeSnapshot_mono hn.later (h.probed probe hp)
  cases cmd with
  | beginProbe =>
    obtain ⟨hs, n, hn, rfl⟩ := beginProbe_ok he
    refine valid_commitTouch h hn h.granted (hkept n hn) ?_
    simp [ConnectionSnapshot.stateIsConsistent, revokedAt_eq_none h hs]
  | applyProbe probe =>
    obtain ⟨hs, ha, n, hn, rfl⟩ := applyProbe_ok he
    have hr := revokedAt_eq_none h (by rw [hs]; decide)
    refine valid_commitTouch h hn ?_ ?_ (stateIsConsistent_recordProbe hr ha)
    · split
      · rfl
      · exact normalizeScopes_normalizeScopes _
    · rintro _ ⟨⟩
      exact validProbeSnapshot_normalize ha (hd probe rfl)
  | revoke =>
    obtain rfl | ⟨n, hn, rfl⟩ := revoke_ok he
    · exact h
    · exact valid_commitTouch h hn rfl (hkept n hn) rfl

lemma valid_register {tid : TenantId} {pid : ProjectId}
    {provider expectedExternalAccountId : String} {accountId : AccountId} {id : ConnectionId}
    (h : register id tid pid provider accountId
      expectedExternalAccountId requiredScopes now = .ok c) : c.snapshot.Valid := by
  obtain ⟨hn, h⟩ := check_ok.mp h
  cases h
  refine ⟨?_, one_ne_zero, le_rfl, normalizeScopes_normalizeScopes _, rfl, nofun, rfl⟩
  simpa only [isBlank, trim_trim] using rejectIf_ok.mp hn

/-- Applying the recorded probe once more changes nothing. -/
lemma follows_of_execute (h : c.snapshot.Valid) (h' : c'.snapshot.Valid)
    (he : c.execute now cmd = .ok c') (hne : c' ≠ c) :
    c'.snapshot.follows c.snapshot = .ok true := by
  obtain ⟨n, status, revokedAt, grantedScopes, lastProbe, hn, heq⟩ := touched_of_execute he hne
  have hm : c'.snapshot.immutableScopeMatches c.snapshot = true := by
    rw [heq]
    simp [ConnectionSnapshot.immutableScopeMatches, commitTouch, hn.next, hn.later]
  have hu : c'.updatedAt = now := by
    rw [heq]
    rfl
  have hself : c'.snapshot.isReached (.ok c') = true := beq_self_eq_true _
  simp only [ConnectionSnapshot.follows, ConnectionSnapshot.validate_ok.mpr h,
    ConnectionSnapshot.validate_ok.mpr h', restore_ok h, hm, hu]
  refine congrArg Except.ok ?_
  cases cmd with
  | beginProbe => rw [he, hself]; rfl
  | applyProbe probe =>
    obtain ⟨-, -, n, -, hc⟩ := applyProbe_ok he
    have hl : c'.lastProbe = some probe.normalize := by rw [hc]; rfl
    have ha : c.execute now (.applyProbe probe.normalize) = .ok c' := by
      rw [← he]
      simp only [execute, applyProbe, ConnectionProbe.normalize_normalize]
    rw [hl, Option.any_some, ha, hself]
    simp
  | revoke => rw [he, hself]; simp

lemma Reachable.valid (h : c.Reachable ConnectionProbe.Dated) : c.snapshot.Valid := by
  induction h with
  | register h => exact valid_register h
  | execute _ hp he ih => exact valid_execute ih hp he

/-- A connection reached with dated probes restores from its snapshot, and every command that
changes it is recognised as one step from that snapshot. -/
theorem restore_snapshot (h : c.Reachable ConnectionProbe.Dated) :
    restore c.snapshot = .ok c ∧ ∀ cmd now c', (∀ probe, cmd = .applyProbe probe → probe.Dated) →
      c.execute now cmd = .ok c' → c' ≠ c → c'.snapshot.follows c.snapshot = .ok true :=
  ⟨restore_ok h.valid, fun _ _ _ hp he hne =>
    follows_of_execute h.valid (h.execute hp he).valid he hne⟩

/-- A connection that is registered and probed at the instant 5, with a probe whose validity ends
at a given instant. -/
def probed (outcome : ProbeOutcome) (validUntil : DateTime) :
    Except ConnectionError Connection := do
  let c ← register "c" "t" "p" "mail" "a" "owner" (.ofList ["read"]) 5
  let c ← c.execute 5 .beginProbe
  c.execute 5 (.applyProbe
    { outcome, validUntil
      observedExternalAccountId := "owner"
      grantedScopes := .ofList ["read"]
      probedAt := 5
      credentialExpiresAt := 9
      evidenceDigest := String.ofList (List.replicate 64 'a') })

lemma reachable_probed {oc : ProbeOutcome} {Allowed : ConnectionProbe → Prop}
    (ha : ∀ probe, probe.outcome = oc →
      probe.validUntil = vu → probe.probedAt = 5 → probe.credentialExpiresAt = 9 →
        Allowed probe) (h : probed oc vu = .ok c) : c.Reachable Allowed := by
  obtain ⟨c₁, h₁, h⟩ := bind_ok.mp h
  obtain ⟨c₂, h₂, h⟩ := bind_ok.mp h
  refine ((Reachable.register h₁).execute (nofun) h₂).execute ?_ h
  rintro _ ⟨⟩
  exact ha _ rfl rfl rfl rfl

/-- The probed connection restores, and its revocation follows. -/
theorem restore_snapshot_probed : ∃ c c', probed .providerUnavailable 7 = .ok c ∧
    restore c.snapshot = .ok c ∧ c.execute 6 .revoke = .ok c' ∧
      c'.snapshot.follows c.snapshot = .ok true := by
  obtain ⟨c, hc⟩ : ∃ c, probed .providerUnavailable 7 = .ok c := ⟨_, rfl⟩
  obtain ⟨c', he, hne⟩ : ∃ c', c.execute 6 .revoke = .ok c' ∧ c'.revision ≠ c.revision := by
    cases hc
    exact ⟨_, rfl, by decide⟩
  have hr : c.Reachable ConnectionProbe.Dated := by
    refine reachable_probed (fun probe _ hv hp hx => ?_) hc
    exact .inr (by rw [hv, hp, hx]; decide)
  obtain ⟨hs, hf⟩ := restore_snapshot hr
  exact ⟨c, c', hc, hs, he, hf .revoke 6 c' nofun he fun h => hne (by rw [h])⟩

/-- A probe of an unavailable provider is recorded although its validity ended before it. -/
theorem lapsed_probe_not_restored : ∃ c, c.Reachable (fun _ => True) ∧
    probed .providerUnavailable 3 = .ok c ∧ restore c.snapshot = .error .invalidSnapshot := by
  obtain ⟨c, hc⟩ : ∃ c, probed .providerUnavailable 3 = .ok c := ⟨_, rfl⟩
  refine ⟨c, reachable_probed (fun _ _ _ _ _ => trivial) hc, hc, ?_⟩
  cases hc
  rfl

end Connection

end Hartevo
