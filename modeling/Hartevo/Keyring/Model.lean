import Hartevo.Collaboration.Model
import Hartevo.Foundation.Loops

/-!
# The keyring of a project

A project keyring holds the envelopes in which the project key is wrapped for devices, members,
workers and recovery holders.  Envelopes are added for the active key version, revoked, and replaced
by those of the next version; they are never removed.

Every command makes all its checks before its first write.  It is therefore a function to the next
keyring or an error, and `ProjectKeyring.step` keeps the keyring when it fails.
-/

namespace Hartevo

abbrev DeviceId := String
abbrev KeyEnvelopeId := String
abbrev MemberId := String

def maxWorkerKeyTtlSeconds : ℤ := 15 * 60

inductive KeyManagementError
  | invalidKeyring | invalidEnvelope | envelopeScopeMismatch | noActiveRecoveryPath
  | recipientNotAllowed | remoteExecutionNotAllowed | invalidWorkerEnvelope
  | duplicateOrRotationRequired | recipientNotFound | rotationRequired | revisionOverflow
deriving DecidableEq

inductive ProjectEncryptionMode
  | personalE2ee | teamEnvelope
deriving DecidableEq

inductive KeyRecipient
  | device (id : DeviceId)
  | member (id : MemberId)
  | worker (id : WorkerId)
  | recovery (id : String)
deriving DecidableEq

def KeyRecipient.isWorker : KeyRecipient → Bool
  | .worker _ => true
  | _ => false

def KeyRecipient.isLongLived (self : KeyRecipient) : Bool :=
  !self.isWorker

inductive KeyWrapAlgorithm
  | aes256GcmV1
deriving DecidableEq

structure WrappedKeyCiphertext where
  algorithm : KeyWrapAlgorithm
  nonce : List UInt8
  ciphertext : List UInt8
  aadDigest : String
deriving DecidableEq

def WrappedKeyCiphertext.validate (self : WrappedKeyCiphertext) : Bool :=
  self.nonce.length == 12 && decide (16 ≤ self.ciphertext.length) && isSha256 self.aadDigest

structure KeyEnvelope where
  id : KeyEnvelopeId
  tenantId : TenantId
  projectId : ProjectId
  keyVersion : ℕ
  recipient : KeyRecipient
  wrappingKeyReferenceDigest : String
  sealedKey : WrappedKeyCiphertext
  createdAt : DateTime
  expiresAt : Option DateTime
  revokedAt : Option DateTime
deriving DecidableEq

namespace KeyEnvelope

def validate (self : KeyEnvelope) : Except KeyManagementError Unit :=
  rejectIf (isBlank self.id || isBlank self.tenantId || isBlank self.projectId ||
    self.keyVersion == 0 || !isSha256 self.wrappingKeyReferenceDigest ||
    !self.sealedKey.validate ||
    self.expiresAt.any (fun expires => decide (expires ≤ self.createdAt)) ||
    self.revokedAt.any (fun revoked => decide (revoked < self.createdAt)) ||
    (self.recipient.isWorker && self.expiresAt.isNone)) .invalidEnvelope

def isAvailable (self : KeyEnvelope) (now : DateTime) : Bool :=
  self.revokedAt.isNone && decide (self.createdAt ≤ now) &&
    self.expiresAt.all fun expires => decide (now < expires)

end KeyEnvelope

/-- An available envelope of the key version goes to a recipient of the given kind. -/
def isHeld (envelopes : List KeyEnvelope) (keyVersion : ℕ) (now : DateTime)
    (kind : KeyRecipient → Bool) : Bool :=
  envelopes.any fun envelope =>
    envelope.keyVersion == keyVersion && envelope.isAvailable now && kind envelope.recipient

def requiredRecipientSetIsAvailable (mode : ProjectEncryptionMode) (envelopes : List KeyEnvelope)
    (keyVersion : ℕ) (now : DateTime) : Bool :=
  match mode with
  | .personalE2ee =>
    isHeld envelopes keyVersion now (fun | .device _ => true | _ => false) &&
      isHeld envelopes keyVersion now (fun | .recovery _ => true | _ => false)
  | .teamEnvelope =>
    isHeld envelopes keyVersion now (fun | .device _ | .member _ => true | _ => false)

def revokeAll (revoked : KeyRecipient → Bool) (now : DateTime) (envelopes : List KeyEnvelope) :
    List KeyEnvelope :=
  envelopes.map fun envelope =>
    if revoked envelope.recipient && envelope.revokedAt.isNone then
      { envelope with revokedAt := some now }
    else envelope

structure ProjectKeyring where
  tenantId : TenantId
  projectId : ProjectId
  mode : ProjectEncryptionMode
  activeKeyVersion : ℕ
  remoteExecutionOptIn : Bool
  rotationRequired : Bool
  envelopes : List KeyEnvelope
  revision : ℕ
  createdAt : DateTime
  updatedAt : DateTime

namespace ProjectKeyring

/-- A personal keyring has envelopes for devices and recovery holders only. -/
def allows (self : ProjectKeyring) : KeyRecipient → Bool
  | .member _ | .worker _ => self.mode != .personalE2ee
  | _ => true

/-- The check of one envelope.  The sets of identifiers and of versions with recipients that the
loop fills are those of the envelopes that it has seen. -/
def validateEnvelope (self : ProjectKeyring) (seen : List KeyEnvelope) (envelope : KeyEnvelope) :
    Except KeyManagementError Unit := do
  envelope.validate
  rejectIf (envelope.tenantId != self.tenantId || envelope.projectId != self.projectId ||
    seen.any (·.id == envelope.id) || seen.any (fun known =>
      known.keyVersion == envelope.keyVersion && known.recipient == envelope.recipient) ||
    !self.allows envelope.recipient) .envelopeScopeMismatch

def validate (self : ProjectKeyring) : Except KeyManagementError Unit := do
  rejectIf (isBlank self.tenantId || isBlank self.projectId || self.activeKeyVersion == 0 ||
    self.revision == 0 || decide (self.updatedAt < self.createdAt) ||
    (self.mode == .personalE2ee && self.remoteExecutionOptIn)) .invalidKeyring
  forSeen self.validateEnvelope [] self.envelopes
  rejectIf (!self.rotationRequired && !requiredRecipientSetIsAvailable self.mode self.envelopes
    self.activeKeyVersion self.updatedAt) .noActiveRecoveryPath

def initializeKeyring (tenantId : TenantId) (projectId : ProjectId) (mode : ProjectEncryptionMode)
    (envelopes : List KeyEnvelope) (now : DateTime) : Except KeyManagementError ProjectKeyring := do
  let keyring : ProjectKeyring :=
    ⟨tenantId, projectId, mode, 1, false, false, envelopes, 1, now, now⟩
  keyring.validate
  return keyring

/-- The envelope is still there, and at most it was revoked by the last update. -/
def keepsEnvelope (self : ProjectKeyring) (old : KeyEnvelope) : Bool :=
  (self.envelopes.find? (·.id == old.id)).any fun new =>
    !({ old with revokedAt := new.revokedAt } != new ||
      (old.revokedAt.isSome && new.revokedAt != old.revokedAt) ||
      (old.revokedAt.isNone && new.revokedAt.any (· != self.updatedAt)))

def follows (self previous : ProjectKeyring) : Except KeyManagementError Bool := do
  self.validate
  previous.validate
  return !(self.tenantId != previous.tenantId || self.projectId != previous.projectId ||
      self.mode != previous.mode || self.createdAt != previous.createdAt ||
      self.revision != saturatingAdd 64 previous.revision 1 ||
      decide (self.updatedAt < previous.updatedAt) ||
      decide (self.activeKeyVersion < previous.activeKeyVersion) ||
      decide (saturatingAdd 64 previous.activeKeyVersion 1 < self.activeKeyVersion)) &&
    previous.envelopes.all self.keepsEnvelope

def requireScopeAndActiveVersion (self : ProjectKeyring) (envelope : KeyEnvelope) :
    Except KeyManagementError Unit :=
  rejectIf (envelope.tenantId != self.tenantId || envelope.projectId != self.projectId ||
    envelope.keyVersion != self.activeKeyVersion) .envelopeScopeMismatch

def validateRecipientForMode (self : ProjectKeyring) (recipient : KeyRecipient) :
    Except KeyManagementError Unit :=
  rejectIf (!self.allows recipient) .recipientNotAllowed

def validateWorkerEnvelope (self : ProjectKeyring) (envelope : KeyEnvelope) (now : DateTime) :
    Except KeyManagementError Unit :=
  if envelope.recipient.isWorker then do
    let maxExpiry ← okOr (envelope.createdAt.checkedAddSeconds maxWorkerKeyTtlSeconds)
      .revisionOverflow
    rejectIf (self.mode != .teamEnvelope || !self.remoteExecutionOptIn ||
      decide (now < envelope.createdAt) || envelope.expiresAt.all (fun expires =>
        decide (expires ≤ now) || decide (maxExpiry < expires))) .invalidWorkerEnvelope
  else .ok ()

def nextRevision (self : ProjectKeyring) : Except KeyManagementError ℕ :=
  okOr (checkedAdd 64 self.revision 1) .revisionOverflow

def addEnvelope (self : ProjectKeyring) (envelope : KeyEnvelope) (now : DateTime) :
    Except KeyManagementError ProjectKeyring := do
  envelope.validate
  self.requireScopeAndActiveVersion envelope
  rejectIf (self.rotationRequired || self.envelopes.any fun stored => stored.id == envelope.id ||
    (stored.keyVersion == envelope.keyVersion && stored.recipient == envelope.recipient))
    .duplicateOrRotationRequired
  self.validateRecipientForMode envelope.recipient
  self.validateWorkerEnvelope envelope now
  let revision ← self.nextRevision
  return { self with envelopes := self.envelopes ++ [envelope], revision, updatedAt := now }

def setRemoteExecutionOptIn (self : ProjectKeyring) (enabled : Bool) (now : DateTime) :
    Except KeyManagementError ProjectKeyring := do
  rejectIf (self.mode != .teamEnvelope) .remoteExecutionNotAllowed
  if self.remoteExecutionOptIn == enabled then return self
  else do
    let revision ← self.nextRevision
    return { self with
      remoteExecutionOptIn := enabled
      envelopes := if enabled then self.envelopes else revokeAll (·.isWorker) now self.envelopes
      revision
      updatedAt := now }

/-- An envelope of the recipient is not revoked. -/
def requireRecipient (self : ProjectKeyring) (recipient : KeyRecipient) :
    Except KeyManagementError Unit :=
  rejectIf (!self.envelopes.any fun envelope =>
    envelope.recipient == recipient && envelope.revokedAt.isNone) .recipientNotFound

def revokeRecipient (self : ProjectKeyring) (recipient : KeyRecipient) (now : DateTime) :
    Except KeyManagementError ProjectKeyring := do
  self.requireRecipient recipient
  let revision ← self.nextRevision
  return { self with
    envelopes := revokeAll (· == recipient) now self.envelopes
    rotationRequired := recipient.isLongLived || self.rotationRequired
    revision
    updatedAt := now }

/-- The check of one envelope of a rotation, which may not go to the recipient that is revoked. -/
def validateRotated (self : ProjectKeyring) (revoked : Option KeyRecipient) (newVersion : ℕ)
    (seen : List KeyEnvelope) (envelope : KeyEnvelope) : Except KeyManagementError Unit := do
  envelope.validate
  rejectIf (envelope.tenantId != self.tenantId || envelope.projectId != self.projectId ||
    envelope.keyVersion != newVersion || revoked.any (envelope.recipient == ·) ||
    envelope.recipient.isWorker || seen.any (·.recipient == envelope.recipient))
    .envelopeScopeMismatch
  self.validateRecipientForMode envelope.recipient

/-- The checks on the envelopes of a rotation and on the revision. -/
def checkRotation (self : ProjectKeyring) (revoked : Option KeyRecipient) (newVersion : ℕ)
    (newEnvelopes : List KeyEnvelope) (now : DateTime) : Except KeyManagementError ℕ := do
  forSeen (self.validateRotated revoked newVersion) [] newEnvelopes
  rejectIf (!requiredRecipientSetIsAvailable self.mode newEnvelopes newVersion now)
    .noActiveRecoveryPath
  self.nextRevision

def nextVersion (self : ProjectKeyring) : Except KeyManagementError ℕ :=
  okOr (checkedAdd 64 self.activeKeyVersion 1) .revisionOverflow

def rotate (self : ProjectKeyring) (newEnvelopes : List KeyEnvelope) (now : DateTime) :
    Except KeyManagementError (ProjectKeyring × ℕ) := do
  let newVersion ← self.nextVersion
  rejectIf newEnvelopes.isEmpty .noActiveRecoveryPath
  let revision ← self.checkRotation none newVersion newEnvelopes now
  return ({ self with
    envelopes := revokeAll (·.isWorker) now self.envelopes ++ newEnvelopes
    activeKeyVersion := newVersion
    rotationRequired := false
    revision
    updatedAt := now }, newVersion)

def revokeAndRotate (self : ProjectKeyring) (revokedRecipient : KeyRecipient)
    (newEnvelopes : List KeyEnvelope) (now : DateTime) :
    Except KeyManagementError (ProjectKeyring × ℕ) := do
  rejectIf (!revokedRecipient.isLongLived) .recipientNotAllowed
  self.requireRecipient revokedRecipient
  let newVersion ← self.nextVersion
  let revision ← self.checkRotation (some revokedRecipient) newVersion newEnvelopes now
  return ({ self with
    envelopes := revokeAll (·.isWorker) now
      (revokeAll (· == revokedRecipient) now self.envelopes) ++ newEnvelopes
    activeKeyVersion := newVersion
    rotationRequired := false
    revision
    updatedAt := now }, newVersion)

def activeEnvelopeFor (self : ProjectKeyring) (recipient : KeyRecipient) (now : DateTime) :
    Except KeyManagementError KeyEnvelope := do
  rejectIf self.rotationRequired .rotationRequired
  rejectIf (recipient.isWorker && !self.remoteExecutionOptIn) .remoteExecutionNotAllowed
  okOr (self.envelopes.find? fun envelope => envelope.keyVersion == self.activeKeyVersion &&
    envelope.recipient == recipient && envelope.isAvailable now) .recipientNotFound

def availableEnvelopeForVersion (self : ProjectKeyring) (recipient : KeyRecipient)
    (keyVersion : ℕ) (now : DateTime) : Except KeyManagementError KeyEnvelope := do
  rejectIf (keyVersion == 0) .envelopeScopeMismatch
  rejectIf (recipient.isWorker &&
    (keyVersion != self.activeKeyVersion || !self.remoteExecutionOptIn)) .remoteExecutionNotAllowed
  okOr (self.envelopes.find? fun envelope => envelope.keyVersion == keyVersion &&
    envelope.recipient == recipient && envelope.isAvailable now) .recipientNotFound

end ProjectKeyring

inductive KeyringCommand
  | addEnvelope (envelope : KeyEnvelope) (now : DateTime)
  | setRemoteExecutionOptIn (enabled : Bool) (now : DateTime)
  | revokeRecipient (recipient : KeyRecipient) (now : DateTime)
  | rotate (newEnvelopes : List KeyEnvelope) (now : DateTime)
  | revokeAndRotate (recipient : KeyRecipient) (newEnvelopes : List KeyEnvelope) (now : DateTime)

namespace ProjectKeyring

def apply (self : ProjectKeyring) : KeyringCommand → Except KeyManagementError ProjectKeyring
  | .addEnvelope envelope now => self.addEnvelope envelope now
  | .setRemoteExecutionOptIn enabled now => self.setRemoteExecutionOptIn enabled now
  | .revokeRecipient recipient now => self.revokeRecipient recipient now
  | .rotate newEnvelopes now => Prod.fst <$> self.rotate newEnvelopes now
  | .revokeAndRotate recipient newEnvelopes now =>
    Prod.fst <$> self.revokeAndRotate recipient newEnvelopes now

def step (self : ProjectKeyring) (command : KeyringCommand) :
    Except KeyManagementError Unit × ProjectKeyring :=
  match self.apply command with
  | .error e => (.error e, self)
  | .ok next => (.ok (), next)

end ProjectKeyring

end Hartevo
