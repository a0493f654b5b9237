import Hartevo.Outcome.Model
import Hartevo.Foundation.FirstMatch
import Hartevo.Foundation.Machine

/-!
# Campaigns

A campaign sends messages to its recipients on one channel.  A send is first authorized, against the
consent of the recipient and the number of messages it got in the frequency window, and later
recorded under that authorization.  Recipients are suppressed one by one, and the status of the
campaign decides whether it sends at all.

Every command makes all its checks before its first write, so it is a function to the next campaign
or an error.  `Campaign.authorizeSend` changes nothing; as a command it returns the authorization.
-/

namespace Hartevo

def sendAuthorizationTtlMinutes : ℤ := 10

/-- The variants of `RelationshipError` that the commands of a campaign return. -/
inductive CampaignError
  | invalidCampaign | campaignNotActive | campaignRecipientNotFound
  | campaignRecipientSuppressedOrUnconsented | campaignFrequencyCapReached
  | campaignAuthorizationStale | revisionOverflow | timestampRegression
deriving DecidableEq

inductive ConsentStatus
  | granted | denied | withdrawn | expired
deriving DecidableEq

structure ConsentRecord where
  id : ConsentRecordId
  tenantId : TenantId
  projectId : ProjectId
  personId : PersonId
  purpose : ConsentPurpose
  channel : ContactChannel
  market : String
  status : ConsentStatus
  grantedAt : Option DateTime
  validUntil : Option DateTime
  withdrawnAt : Option DateTime
  revision : ℕ

def eqIgnoreAsciiCase (a b : String) : Bool :=
  a.toList.map Char.toLower == b.toList.map Char.toLower

def ConsentRecord.permits (self : ConsentRecord) (personId : PersonId) (purpose : ConsentPurpose)
    (channel : ContactChannel) (market : String) (now : DateTime) : Bool :=
  self.personId == personId && self.purpose == purpose && self.channel == channel &&
    eqIgnoreAsciiCase self.market market && self.status == .granted &&
    self.grantedAt.any (fun granted => decide (granted ≤ now)) &&
    self.validUntil.all (fun until_ => decide (now < until_)) && self.withdrawnAt.isNone

inductive CampaignStatus
  | draft | active | paused | completed | cancelled
deriving DecidableEq

inductive SuppressionReason
  | unsubscribe | complaint | hardBounce | consentWithdrawn | userPaused
deriving DecidableEq

inductive CampaignRecipientState
  | active
  | suppressed (reason : SuppressionReason) (evidenceDigest : String) (suppressedAt : DateTime)
deriving DecidableEq

structure CampaignRecipient where
  personId : PersonId
  consentRecordId : ConsentRecordId
  state : CampaignRecipientState
  sentAt : List DateTime
  receiptIds : List ReceiptId
  revision : ℕ
deriving DecidableEq

structure CampaignSendAuthorization where
  campaignId : CampaignId
  personId : PersonId
  consentRecordId : ConsentRecordId
  consentRevision : ℕ
  policyVersion : ℕ
  recipientRevision : ℕ
  scopeDigest : String
  preparedAt : DateTime
  validUntil : DateTime
deriving DecidableEq

structure Campaign where
  id : CampaignId
  tenantId : TenantId
  projectId : ProjectId
  missionId : MissionId
  channel : ContactChannel
  purpose : ConsentPurpose
  market : String
  frequencyWindowSeconds : ℤ
  maxMessagesPerWindow : ℕ
  status : CampaignStatus
  policyVersion : ℕ
  recipients : List CampaignRecipient
  revision : ℕ
  createdAt : DateTime
  updatedAt : DateTime
deriving DecidableEq

/-- The messages sent after the start of a window, up to its end. -/
def recentMessages (windowStart now : DateTime) (sentAt : List DateTime) : ℕ :=
  sentAt.countP fun sent => decide (windowStart < sent) && decide (sent ≤ now)

def invalidCampaignRecipient (recipient : CampaignRecipient) : Bool :=
  isBlank recipient.personId || isBlank recipient.consentRecordId || recipient.revision == 0 ||
    recipient.sentAt.length != recipient.receiptIds.length || recipient.receiptIds.any isBlank ||
    match recipient.state with
    | .suppressed _ evidenceDigest _ => !isSha256 evidenceDigest
    | .active => false

/-- What the digest of an authorization is taken of: the campaign, the recipient, the consent, the
times of the authorization and the number of recent messages.  The text is the JSON object that the
source writes, and `sha256` its digest. -/
structure CampaignEncoding where
  sendJson : Campaign → CampaignRecipient → ConsentRecord → DateTime → DateTime → ℕ → String
  sha256 : String → BitVec 256

def nextRevision (current : ℕ) : Except CampaignError ℕ :=
  okOr (checkedAdd 64 current 1) .revisionOverflow

namespace Campaign

def validate (self : Campaign) : Except CampaignError Unit :=
  let people : BTreeSet PersonId := .ofList (self.recipients.map (·.personId))
  let receipts : BTreeSet ReceiptId := .ofList (self.recipients.flatMap (·.receiptIds))
  rejectIf (isBlank self.id || isBlank self.tenantId || isBlank self.projectId ||
    isBlank self.missionId || self.market.isEmpty || decide (self.frequencyWindowSeconds ≤ 0) ||
    self.maxMessagesPerWindow == 0 || self.policyVersion == 0 || self.revision == 0 ||
    decide (self.updatedAt < self.createdAt) || self.recipients.isEmpty ||
    people.size != self.recipients.length ||
    receipts.size != (self.recipients.map (·.receiptIds.length)).sum ||
    self.recipients.any invalidCampaignRecipient ||
    self.recipients.any fun recipient =>
      recipient.sentAt.any (fun sent => decide (sent < self.createdAt) ||
        decide (self.updatedAt < sent)) ||
      (recipient.sentAt.zip recipient.sentAt.tail).any
        (fun window => decide (window.2 < window.1)) ||
      match recipient.state with
      | .suppressed _ _ suppressedAt =>
        decide (suppressedAt < self.createdAt) || decide (self.updatedAt < suppressedAt)
      | .active => false) .invalidCampaign

def create (id : CampaignId) (tenantId : TenantId) (projectId : ProjectId) (missionId : MissionId)
    (channel : ContactChannel) (purpose : ConsentPurpose) (market : String) (frequencyWindow : ℤ)
    (maxMessagesPerWindow : ℕ) (recipients : List (PersonId × ConsentRecordId)) (now : DateTime) :
    Except CampaignError Campaign := do
  let recipients := recipients.map fun (personId, consentRecordId) =>
    { personId, consentRecordId, state := .active, sentAt := [], receiptIds := [], revision := 1 }
  let campaign : Campaign :=
    { id, tenantId, projectId, missionId, channel, purpose, market := trim market,
      frequencyWindowSeconds := numSeconds frequencyWindow, maxMessagesPerWindow, status := .draft,
      policyVersion := 1, recipients, revision := 1, createdAt := now, updatedAt := now }
  campaign.validate
  .ok campaign

def prepareBump (self : Campaign) (now : DateTime) : Except CampaignError ℕ := do
  rejectIf (decide (now < self.updatedAt)) .timestampRegression
  nextRevision self.revision

def transitionControl (self : Campaign) (status : CampaignStatus) (now : DateTime) :
    Except CampaignError Campaign := do
  let nextPolicyVersion ← nextRevision self.policyVersion
  let revision ← self.prepareBump now
  .ok { self with status, policyVersion := nextPolicyVersion, revision, updatedAt := now }

def activate (self : Campaign) (now : DateTime) : Except CampaignError Campaign := do
  rejectIf (!(self.status == .draft || self.status == .paused)) .campaignNotActive
  self.transitionControl .active now

def pause (self : Campaign) (now : DateTime) : Except CampaignError Campaign := do
  rejectIf (self.status != .active) .campaignNotActive
  self.transitionControl .paused now

def complete (self : Campaign) (now : DateTime) : Except CampaignError Campaign := do
  rejectIf (!(self.status == .active || self.status == .paused)) .campaignNotActive
  self.transitionControl .completed now

def cancel (self : Campaign) (now : DateTime) : Except CampaignError Campaign := do
  rejectIf (!(self.status == .draft || self.status == .active || self.status == .paused))
    .campaignNotActive
  self.transitionControl .cancelled now

def recipient? (self : Campaign) (personId : PersonId) : Option CampaignRecipient :=
  self.recipients.find? (·.personId == personId)

def campaignSendDigest (enc : CampaignEncoding) (campaign : Campaign)
    (recipient : CampaignRecipient) (consent : ConsentRecord) (preparedAt validUntil : DateTime)
    (recentMessages : ℕ) : String :=
  lowerHex (enc.sha256
    (enc.sendJson campaign recipient consent preparedAt validUntil recentMessages))

def authorizeSend (enc : CampaignEncoding) (self : Campaign) (personId : PersonId)
    (consent : ConsentRecord) (now : DateTime) :
    Except CampaignError CampaignSendAuthorization := do
  rejectIf (self.status != .active) .campaignNotActive
  rejectIf (decide (now < self.updatedAt)) .timestampRegression
  let recipient ← okOr (self.recipient? personId) .campaignRecipientNotFound
  rejectIf (recipient.state != .active || recipient.consentRecordId != consent.id ||
    consent.tenantId != self.tenantId || consent.projectId != self.projectId ||
    !consent.permits personId self.purpose self.channel self.market now)
    .campaignRecipientSuppressedOrUnconsented
  let windowStart ←
    okOr (DateTime.checkedAddSeconds now (-self.frequencyWindowSeconds)) .revisionOverflow
  let recent := recentMessages windowStart now recipient.sentAt
  rejectIf (decide (self.maxMessagesPerWindow ≤ recent)) .campaignFrequencyCapReached
  let validUntil ←
    okOr (DateTime.checkedAddSeconds now (60 * sendAuthorizationTtlMinutes)) .revisionOverflow
  .ok
    { campaignId := self.id, personId, consentRecordId := consent.id,
      consentRevision := consent.revision, policyVersion := self.policyVersion,
      recipientRevision := recipient.revision,
      scopeDigest := campaignSendDigest enc self recipient consent now validUntil recent,
      preparedAt := now, validUntil }

/-- The campaign after a write to the recipient with the given identity. -/
def writeRecipient (self : Campaign) (personId : PersonId) (recipient : CampaignRecipient)
    (revision : ℕ) (now : DateTime) : Campaign :=
  { self with
    recipients := replaceFirst (·.personId == personId) recipient self.recipients
    revision
    updatedAt := now }

def recordSend (enc : CampaignEncoding) (self : Campaign)
    (authorization : CampaignSendAuthorization) (consent : ConsentRecord) (receiptId : ReceiptId)
    (now : DateTime) : Except CampaignError Campaign := do
  rejectIf (self.status != .active || authorization.campaignId != self.id ||
    authorization.policyVersion != self.policyVersion ||
    authorization.consentRecordId != consent.id ||
    authorization.consentRevision != consent.revision ||
    decide (now < authorization.preparedAt) || decide (authorization.validUntil ≤ now) ||
    isBlank receiptId || self.recipients.any (·.receiptIds.contains receiptId))
    .campaignAuthorizationStale
  let recipient ← okOr (self.recipient? authorization.personId) .campaignRecipientNotFound
  rejectIf (recipient.revision != authorization.recipientRevision ||
    recipient.state != .active ||
    !consent.permits recipient.personId self.purpose self.channel self.market now)
    .campaignAuthorizationStale
  let windowStart ← okOr (DateTime.checkedAddSeconds authorization.preparedAt
    (-self.frequencyWindowSeconds)) .revisionOverflow
  let recent := recentMessages windowStart authorization.preparedAt recipient.sentAt
  rejectIf (campaignSendDigest enc self recipient consent authorization.preparedAt
    authorization.validUntil recent != authorization.scopeDigest) .campaignAuthorizationStale
  let recipientRevision ← nextRevision recipient.revision
  let revision ← self.prepareBump now
  .ok (self.writeRecipient authorization.personId
    { recipient with
      sentAt := recipient.sentAt ++ [now]
      receiptIds := recipient.receiptIds ++ [receiptId]
      revision := recipientRevision } revision now)

def suppressRecipient (self : Campaign) (personId : PersonId) (reason : SuppressionReason)
    (evidenceDigest : String) (now : DateTime) : Except CampaignError Campaign := do
  rejectIf (!isSha256 evidenceDigest) .invalidCampaign
  let recipient ← okOr (self.recipient? personId) .campaignRecipientNotFound
  rejectIf (recipient.state != .active) .campaignRecipientSuppressedOrUnconsented
  let recipientRevision ← nextRevision recipient.revision
  let revision ← self.prepareBump now
  .ok (self.writeRecipient personId
    { recipient with
      state := .suppressed reason evidenceDigest now
      revision := recipientRevision } revision now)

/-! ## Successors -/

def immutableScopeMatches (self previous : Campaign) : Bool :=
  self.id == previous.id && self.tenantId == previous.tenantId &&
    self.projectId == previous.projectId && self.missionId == previous.missionId &&
    self.channel == previous.channel && self.purpose == previous.purpose &&
    self.market == previous.market &&
    self.frequencyWindowSeconds == previous.frequencyWindowSeconds &&
    self.maxMessagesPerWindow == previous.maxMessagesPerWindow &&
    self.createdAt == previous.createdAt

end Campaign

/-! ## Runs -/

inductive CampaignCommand
  | activate (now : DateTime)
  | pause (now : DateTime)
  | complete (now : DateTime)
  | cancel (now : DateTime)
  | authorizeSend (personId : PersonId) (consent : ConsentRecord) (now : DateTime)
  | recordSend (authorization : CampaignSendAuthorization) (consent : ConsentRecord)
    (receiptId : ReceiptId) (now : DateTime)
  | suppressRecipient (personId : PersonId) (reason : SuppressionReason) (evidenceDigest : String)
    (now : DateTime)

namespace Campaign

def apply (enc : CampaignEncoding) (self : Campaign) :
    CampaignCommand → Except CampaignError (Option CampaignSendAuthorization × Campaign)
  | .activate now => (none, ·) <$> self.activate now
  | .pause now => (none, ·) <$> self.pause now
  | .complete now => (none, ·) <$> self.complete now
  | .cancel now => (none, ·) <$> self.cancel now
  | .authorizeSend personId consent now =>
    (some ·, self) <$> self.authorizeSend enc personId consent now
  | .recordSend authorization consent receiptId now =>
    (none, ·) <$> self.recordSend enc authorization consent receiptId now
  | .suppressRecipient personId reason evidenceDigest now =>
    (none, ·) <$> self.suppressRecipient personId reason evidenceDigest now

/-- A command returns the authorization that it issues, if any; a refused one changes nothing. -/
def step (enc : CampaignEncoding) (self : Campaign) (command : CampaignCommand) :
    Except CampaignError (Option CampaignSendAuthorization) × Campaign :=
  match self.apply enc command with
  | .ok (issued, next) => (.ok issued, next)
  | .error e => (.error e, self)

end Campaign

end Hartevo
