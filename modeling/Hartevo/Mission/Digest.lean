import Hartevo.Mission.Model

/-!
# Digests of effects, work products and application evidence

An approval names the digest of the effect it was given for, and an application proof the digest of
its own fields.  Both are hashes of a sequence of fields, each preceded by its length.

SHA-256 and the printed form of an instant are code of other packages and enter as
`MissionEncoding`.  The bytes that are hashed are modelled (`Effect.approvalPreimage`,
`MissionCheckpointApplicationEvidence.preimage`), not only the hash.
-/

namespace Hartevo

/-- SHA-256, and the printed form of an instant. -/
structure MissionEncoding where
  sha256 : List UInt8 → BitVec 256
  toRfc3339 : DateTime → String

def MissionEncoding.sample : MissionEncoding where
  sha256 _ := 0
  toRfc3339 _ := ""

/-! ## Hashed fields -/

def utf8 (s : String) : List UInt8 :=
  s.toList.flatMap String.utf8EncodeChar

/-- The eight bytes of a length, most significant first. -/
def lengthBytes (n : ℕ) : List UInt8 :=
  (List.range 8).map fun i => UInt8.ofNat (n / 256 ^ (7 - i))

def hashField (value : String) : List UInt8 :=
  lengthBytes (strLen value) ++ utf8 value

def hashOptional (value : Option String) : List UInt8 :=
  match value with
  | some value => hashField "some" ++ hashField value
  | none => hashField "none"

def MissionEncoding.digest (enc : MissionEncoding) (bytes : List UInt8) : String :=
  lowerHex (enc.sha256 bytes)

/-! ## Names -/

def effectClassName : EffectClass → String
  | .read => "read"
  | .localWrite => "local_write"
  | .externalWrite => "external_write"
  | .outreach => "outreach"
  | .spend => "spend"
  | .payment => "payment"

def consentName : ConsentState → String
  | .notRequired => "not_required"
  | .confirmed => "confirmed"
  | .missing => "missing"
  | .withdrawn => "withdrawn"

def riskName : EffectRisk → String
  | .low => "low"
  | .medium => "medium"
  | .high => "high"
  | .critical => "critical"

def ConsentPurpose.json : ConsentPurpose → String
  | .emailMarketing => "\"email_marketing\""
  | .directOutreach => "\"direct_outreach\""
  | .automatedReply => "\"automated_reply\""
  | .partnerContact => "\"partner_contact\""
  | .dataSync => "\"data_sync\""
  | .attribution => "\"attribution\""

def ContactChannel.json : ContactChannel → String
  | .email => "\"email\""
  | .phone => "\"phone\""
  | .socialDirectMessage => "\"social_direct_message\""
  | .chat => "\"chat\""

def checkpointExecutorName : MissionCheckpointExecutor → String
  | .application => "application"
  | .runtime => "runtime"
  | .effectBroker => "effect_broker"
  | .human => "human"

def checkpointCompletionPolicyName : MissionCheckpointCompletionPolicy → String
  | .deterministicEvidence => "deterministic_evidence"
  | .workProduct => "work_product"
  | .verifiedEffect => "verified_effect"
  | .effectReadbackV2 => "effect_readback_v2"
  | .humanConfirmation => "human_confirmation"

/-! ## Digests -/

def ConsentRequirement.preimage : Option ConsentRequirement → List UInt8
  | some requirement =>
    hashField "consent_requirement" ++ hashField requirement.personId ++
      hashField requirement.purpose.json ++ hashField requirement.channel.json ++
      hashField requirement.market
  | none => hashField "no_consent_requirement"

def ConversationEffectGuard.preimage : Option ConversationEffectGuard → List UInt8
  | some guard =>
    hashField "conversation_guard" ++ hashField guard.conversationId ++
      hashField (toString guard.controlGeneration) ++ hashField guard.scopeDigest
  | none => hashField "no_conversation_guard"

def CreatorContactEffectGuard.preimage : Option CreatorContactEffectGuard → List UInt8
  | some guard =>
    hashField "creator_contact_guard" ++ hashField guard.hiringId ++ hashField guard.creatorId ++
      hashField guard.partnerId ++ hashField guard.scopeDigest ++
      hashField guard.permissionEvidenceDigest
  | none => hashField "no_creator_contact_guard"

/-- The bytes that `approval_digest` hashes. -/
def Effect.approvalPreimage (enc : MissionEncoding) (self : Effect) : List UInt8 :=
  hashField self.tenantId ++ hashField self.projectId ++ hashField self.missionId ++
    hashField self.id ++ hashField self.actorId ++ hashField self.capability ++
    hashField self.provider ++ hashOptional self.connectionId ++ hashOptional self.accountId ++
    self.requiredScopes.toList.flatMap hashField ++
    hashField (effectClassName self.effectClass) ++ hashField self.description ++
    hashField self.targetResource ++ hashOptional self.audienceDigest ++
    hashField self.payloadDigest ++ self.assetDigests.toList.flatMap hashField ++
    hashOptional (self.scheduledFor.map enc.toRfc3339) ++ hashField self.timezone ++
    hashField (consentName self.consent) ++ hashOptional self.consentRecordId ++
    ConsentRequirement.preimage self.consentRequirement ++
    ConversationEffectGuard.preimage self.conversationGuard ++
    CreatorContactEffectGuard.preimage self.creatorContactGuard ++
    hashField self.policyVersion ++ hashField (riskName self.risk) ++
    hashField self.idempotencyKey ++ hashField (toString self.amount.amountMinor) ++
    hashField self.amount.currency.code ++ hashField (enc.toRfc3339 self.expiresAt)

def Effect.approvalDigest (enc : MissionEncoding) (self : Effect) : String :=
  enc.digest (self.approvalPreimage enc)

def MissionCheckpointOracleSource.preimage (source : MissionCheckpointOracleSource) : List UInt8 :=
  hashField source.sourceKind ++ hashField source.sourceId ++
    hashField (toString source.sourceRevision) ++ hashField source.projectionDigest ++
    hashField (toString source.oracleIds.size) ++ source.oracleIds.toList.flatMap hashField

/-- The bytes that the digest of an application proof hashes. -/
def MissionCheckpointApplicationEvidence.preimage (enc : MissionEncoding)
    (self : MissionCheckpointApplicationEvidence) : List UInt8 :=
  hashField "hartevo-application-checkpoint-evidence/v1" ++
    hashField (toString self.schemaVersion) ++ hashField self.handlerId ++
    hashField self.tenantId ++ hashField self.projectId ++ hashField self.missionId ++
    hashField self.manifestId ++ hashField (toString self.manifestVersion) ++
    hashField self.catalogDigest ++ hashField (toString self.cycle) ++
    hashField self.checkpointId ++ hashField (toString self.dispatchMissionRevision) ++
    hashField (toString self.dispatchCheckpointRevision) ++
    hashField (toString self.verificationMissionRevision) ++
    hashField (toString self.verificationCheckpointRevision) ++ hashField self.capabilityId ++
    hashField (checkpointExecutorName self.executor) ++
    hashField (checkpointCompletionPolicyName self.completionPolicy) ++
    hashField (toString self.sources.length) ++
    self.sources.flatMap MissionCheckpointOracleSource.preimage ++
    hashField (enc.toRfc3339 self.observedAt)

def MissionCheckpointApplicationEvidence.digest (enc : MissionEncoding)
    (self : MissionCheckpointApplicationEvidence) : String :=
  enc.digest (self.preimage enc)

def WorkProduct.computedDigest (enc : MissionEncoding) (self : WorkProduct) : String :=
  enc.digest (utf8 (self.title ++ "\n" ++ self.body))

end Hartevo
