import Hartevo.Outcome.Model

/-!
# The records behind an identity

An outcome event names a connection, an identity link, a partner or an opportunity.  The records
with these names are kept elsewhere: connections to providers, links from the identities at a
provider to a person, a company or a partner, and opportunities with their buying committees.  Each
of them can be validated on its own.

A set of records is a list here, in the order in which the set is iterated.
-/

namespace Hartevo

/-! ## Decimals -/

def Decimal.lt (a b : Decimal) : Bool :=
  decide (a.mantissa * 10 ^ b.scale < b.mantissa * 10 ^ a.scale)

/-! ## People, companies and partners -/

inductive IdentityError
  | invalidPerson
  | invalidCompany
  | invalidPartner
  | invalidIdentityLink
  | revisionOverflow

structure ContactPoint where
  channel : ContactChannel
  encryptedValueRef : String
  valueDigest : String
  verifiedAt : Option DateTime

def ContactPoint.isInvalid (self : ContactPoint) : Bool :=
  (!startsWith self.encryptedValueRef "ciphertext://" &&
    !startsWith self.encryptedValueRef "secret://") || !isSha256 self.valueDigest

structure Person where
  id : PersonId
  tenantId : TenantId
  projectId : ProjectId
  displayName : String
  companyId : Option CompanyId
  contacts : List ContactPoint
  revision : ℕ

def Person.validate (self : Person) : Except IdentityError Unit :=
  let contactDigests : BTreeSet String := .ofList (self.contacts.map (·.valueDigest))
  rejectIf (isBlank self.id || isBlank self.tenantId || isBlank self.projectId ||
    isBlank self.displayName || self.revision == 0 || self.contacts.any ContactPoint.isInvalid ||
    contactDigests.size != self.contacts.length) .invalidPerson

structure Company where
  id : CompanyId
  tenantId : TenantId
  projectId : ProjectId
  legalName : String
  market : String
  revision : ℕ

def Company.validate (self : Company) : Except IdentityError Unit :=
  rejectIf (isBlank self.id || isBlank self.tenantId || isBlank self.projectId ||
    isBlank self.legalName || isBlank self.market || self.revision == 0) .invalidCompany

inductive PartnerSupplyClass
  | officialAuthorizedNetwork | hartevoOptIn | tenantPrivate | publicCandidate
deriving DecidableEq

inductive ContactPermission
  | researchOnly | networkAuthorized | explicitOptIn | tenantOwnedRelationship | withdrawn
deriving DecidableEq

structure Partner where
  id : PartnerId
  tenantId : TenantId
  projectId : ProjectId
  personId : Option PersonId
  companyId : Option CompanyId
  displayName : String
  supplyClass : PartnerSupplyClass
  contactPermission : ContactPermission
  permissionEvidenceDigest : Option String
  revision : ℕ

namespace Partner

/-- The permission to contact the partner is one of its supply class, with its evidence. -/
def permissionShapeValid (self : Partner) : Bool :=
  let evidenceIsValid := self.permissionEvidenceDigest.any isSha256
  if self.contactPermission == .withdrawn then
    self.supplyClass != .publicCandidate && evidenceIsValid
  else
    match self.supplyClass with
    | .publicCandidate => self.contactPermission == .researchOnly &&
        self.permissionEvidenceDigest.isNone
    | .officialAuthorizedNetwork => self.contactPermission == .networkAuthorized && evidenceIsValid
    | .hartevoOptIn => self.contactPermission == .explicitOptIn && evidenceIsValid
    | .tenantPrivate => self.contactPermission == .tenantOwnedRelationship && evidenceIsValid

def validate (self : Partner) : Except IdentityError Unit := do
  rejectIf (isBlank self.id || isBlank self.tenantId || isBlank self.projectId ||
    isBlank self.displayName || self.revision == 0) .invalidPartner
  rejectIf (!self.permissionShapeValid) .invalidPartner

end Partner

/-! ## Identity links -/

inductive IdentitySubject
  | person (id : PersonId)
  | company (id : CompanyId)
  | partner (id : PartnerId)
deriving DecidableEq

structure ExternalIdentity where
  provider : String
  accountId : AccountId
  externalSubjectDigest : String
  encryptedSubjectRef : String
  evidenceDigest : String

def invalidExternalIdentity (identity : ExternalIdentity) : Bool :=
  isBlank identity.provider || isBlank identity.accountId ||
    !isSha256 identity.externalSubjectDigest || isBlank identity.encryptedSubjectRef ||
    !isSha256 identity.evidenceDigest

inductive IdentityLinkStatus
  | proposed | confirmed | conflicted | rejected
deriving DecidableEq

def identityLinkTransitionAllowed : IdentityLinkStatus → IdentityLinkStatus → Bool
  | .proposed, .confirmed | .proposed, .conflicted | .proposed, .rejected => true
  | .confirmed, .conflicted => true
  | .conflicted, .confirmed | .conflicted, .rejected => true
  | _, _ => false

structure IdentityLinkDecision where
  source : IdentityLinkStatus
  target : IdentityLinkStatus
  decidedBy : ActorId
  evidenceDigest : String
  decidedAt : DateTime

structure IdentityLink where
  id : IdentityLinkId
  tenantId : TenantId
  projectId : ProjectId
  subject : IdentitySubject
  identities : List ExternalIdentity
  confidence : Decimal
  status : IdentityLinkStatus
  decisions : List IdentityLinkDecision
  revision : ℕ

namespace IdentityLink

def subjectIsValid (self : IdentityLink) : Bool :=
  match self.subject with
  | .person id => !isBlank id
  | .company id => !isBlank id
  | .partner id => !isBlank id

/-- The decisions follow each other from a status and an instant on, and end in a status. -/
def validateDecisions (self : IdentityLink) :
    IdentityLinkStatus → Option DateTime → List IdentityLinkDecision →
      Except IdentityError IdentityLinkStatus
  | expectedStatus, _, [] => .ok expectedStatus
  | expectedStatus, previousDecidedAt, decision :: rest => do
    rejectIf (decision.source != expectedStatus ||
      !identityLinkTransitionAllowed decision.source decision.target ||
      isBlank decision.decidedBy || !isSha256 decision.evidenceDigest ||
      (previousDecidedAt.any fun previous => decide (decision.decidedAt < previous)) ||
      (decision.target == .confirmed && self.confidence.lt ⟨9, 1⟩)) .invalidIdentityLink
    self.validateDecisions decision.target (some decision.decidedAt) rest

def validate (self : IdentityLink) : Except IdentityError Unit := do
  rejectIf (isBlank self.id || isBlank self.tenantId || isBlank self.projectId ||
    !self.subjectIsValid || self.identities.isEmpty || self.confidence.isNegative ||
    self.confidence.exceedsOne || self.identities.any invalidExternalIdentity ||
    self.revision == 0) .invalidIdentityLink
  let expectedRevision ← okOr (checkedAdd 64 self.decisions.length 1) .revisionOverflow
  rejectIf (self.revision != expectedRevision) .invalidIdentityLink
  let expectedStatus ← self.validateDecisions .proposed none self.decisions
  rejectIf (expectedStatus != self.status) .invalidIdentityLink

def confirmsExternalIdentity (self : IdentityLink) (provider : String) (accountId : AccountId) :
    Bool :=
  self.status == .confirmed && self.identities.any fun identity =>
    identity.provider == provider && identity.accountId == accountId

end IdentityLink

/-! ## Connections -/

inductive ConnectionStatus
  | pendingAuth | probing | connected | degraded | expired | revoked | wrongAccount | missingScopes
deriving DecidableEq

inductive ProbeOutcome
  | successful | authorizationRevoked | providerUnavailable | rejected
deriving DecidableEq

inductive ConnectionError
  | incompleteRegistration | invalidProbe | revoked | probeAlreadyInProgress | probeNotInProgress
  | timestampRegression | invalidSnapshot | revisionOverflow

structure ConnectionProbe where
  outcome : ProbeOutcome
  observedExternalAccountId : String
  grantedScopes : BTreeSet String
  probedAt : DateTime
  validUntil : DateTime
  credentialExpiresAt : DateTime
  evidenceDigest : String
deriving DecidableEq

structure ConnectionSnapshot where
  id : ConnectionId
  tenantId : TenantId
  projectId : ProjectId
  provider : String
  accountId : AccountId
  expectedExternalAccountId : String
  requiredScopes : BTreeSet String
  grantedScopes : BTreeSet String
  status : ConnectionStatus
  lastProbe : Option ConnectionProbe
  revokedAt : Option DateTime
  revision : ℕ
  createdAt : DateTime
  updatedAt : DateTime
deriving DecidableEq

def normalizeScopes (values : BTreeSet String) : BTreeSet String :=
  .ofList ((values.toList.map trim).filter fun value => !value.isEmpty)

/-- Every scope is among the granted ones. -/
def scopesGranted (required granted : BTreeSet String) : Bool :=
  required.toList.all granted.contains

def validProbeSnapshot (probe : ConnectionProbe) (updatedAt : DateTime) : Bool :=
  !isBlank probe.observedExternalAccountId && !probe.grantedScopes.toList.any isBlank &&
    probe.grantedScopes == normalizeScopes probe.grantedScopes && isSha256 probe.evidenceDigest &&
    decide (probe.probedAt ≤ updatedAt) && decide (probe.probedAt ≤ probe.validUntil) &&
    decide (probe.probedAt ≤ probe.credentialExpiresAt)

namespace ConnectionSnapshot

/-- The status is one that the last probe can have left. -/
def stateIsConsistent (snapshot : ConnectionSnapshot) : Bool :=
  match snapshot.status with
  | .pendingAuth | .probing => snapshot.revokedAt.isNone
  | .connected => snapshot.lastProbe.any fun probe => probe.outcome == .successful &&
      probe.observedExternalAccountId == snapshot.expectedExternalAccountId &&
      snapshot.grantedScopes == probe.grantedScopes &&
      scopesGranted snapshot.requiredScopes probe.grantedScopes &&
      decide (snapshot.updatedAt < probe.validUntil) &&
      decide (snapshot.updatedAt < probe.credentialExpiresAt) && snapshot.revokedAt.isNone
  | .degraded => snapshot.lastProbe.any fun probe => probe.outcome == .providerUnavailable &&
      probe.observedExternalAccountId == snapshot.expectedExternalAccountId &&
      snapshot.grantedScopes == probe.grantedScopes &&
      scopesGranted snapshot.requiredScopes probe.grantedScopes && snapshot.revokedAt.isNone
  | .wrongAccount => snapshot.lastProbe.any fun probe =>
      probe.observedExternalAccountId != snapshot.expectedExternalAccountId &&
      snapshot.grantedScopes == probe.grantedScopes && snapshot.revokedAt.isNone
  | .missingScopes => snapshot.lastProbe.any fun probe =>
      probe.observedExternalAccountId == snapshot.expectedExternalAccountId &&
      !scopesGranted snapshot.requiredScopes probe.grantedScopes &&
      snapshot.grantedScopes == probe.grantedScopes && snapshot.revokedAt.isNone
  | .revoked => snapshot.revokedAt.isSome && snapshot.grantedScopes.isEmpty
  | .expired => false

def validate (snapshot : ConnectionSnapshot) : Except ConnectionError Unit := do
  rejectIf (isBlank snapshot.id || isBlank snapshot.tenantId || isBlank snapshot.projectId ||
    isBlank snapshot.provider || isBlank snapshot.accountId ||
    isBlank snapshot.expectedExternalAccountId || snapshot.requiredScopes.isEmpty ||
    snapshot.revision == 0 || decide (snapshot.updatedAt < snapshot.createdAt) ||
    normalizeScopes snapshot.requiredScopes != snapshot.requiredScopes ||
    normalizeScopes snapshot.grantedScopes != snapshot.grantedScopes ||
    snapshot.lastProbe.any fun probe => !validProbeSnapshot probe snapshot.updatedAt)
    .invalidSnapshot
  rejectIf (!snapshot.stateIsConsistent) .invalidSnapshot

end ConnectionSnapshot

/-! ## Opportunities -/

inductive BuyingCommitteeRole
  | champion | economicBuyer | technicalBuyer | securityReviewer | procurement | endUser

structure BuyingCommitteeMember where
  personId : PersonId
  role : BuyingCommitteeRole
  evidenceDigest : String

inductive OpportunityStage
  | qualified | discovery | evaluation | securityReview | procurement | closedWon | closedLost
deriving DecidableEq

structure StageTransition where
  source : OpportunityStage
  target : OpportunityStage
  evidenceDigest : String
  transitionedAt : DateTime

inductive RelationshipError
  | invalidOpportunity

structure Opportunity where
  id : OpportunityId
  tenantId : TenantId
  projectId : ProjectId
  companyId : CompanyId
  buyingCommittee : List BuyingCommitteeMember
  stage : OpportunityStage
  forecastAmount : Option Money
  forecastEvidenceDigest : Option String
  evidenceGapDigests : BTreeSet String
  objectionDigests : BTreeSet String
  deadline : Option DateTime
  stageHistory : List StageTransition
  revision : ℕ
  createdAt : DateTime
  updatedAt : DateTime

def transitionNotAllowed : OpportunityStage → OpportunityStage → Bool
  | .qualified, .discovery | .qualified, .evaluation => false
  | .discovery, .evaluation | .discovery, .securityReview => false
  | .evaluation, .securityReview | .evaluation, .procurement => false
  | .securityReview, .procurement => false
  | .qualified, .closedWon | .discovery, .closedWon | .evaluation, .closedWon => false
  | .securityReview, .closedWon | .procurement, .closedWon => false
  | .qualified, .closedLost | .discovery, .closedLost | .evaluation, .closedLost => false
  | .securityReview, .closedLost | .procurement, .closedLost => false
  | _, _ => true

namespace Opportunity

/-- The transitions lead from a stage and an instant to the current stage. -/
def stageHistoryIsConsistent (self : Opportunity) :
    OpportunityStage → DateTime → List StageTransition → Bool
  | stage, _, [] => stage == self.stage
  | stage, observedAt, transition :: rest =>
    !(transition.source != stage || decide (transition.transitionedAt < observedAt) ||
      decide (self.updatedAt < transition.transitionedAt)) &&
      self.stageHistoryIsConsistent transition.target transition.transitionedAt rest

def validate (self : Opportunity) : Except RelationshipError Unit :=
  rejectIf (isBlank self.id || isBlank self.tenantId || isBlank self.projectId ||
    isBlank self.companyId || self.buyingCommittee.isEmpty ||
    (self.buyingCommittee.any fun member =>
      isBlank member.personId || !isSha256 member.evidenceDigest) ||
    (self.forecastEvidenceDigest.any fun digest => !isSha256 digest) ||
    (self.forecastAmount.any fun amount => decide (amount.amountMinor < 0)) ||
    self.forecastAmount.isSome != self.forecastEvidenceDigest.isSome ||
    ((self.evidenceGapDigests.toList ++ self.objectionDigests.toList).any fun digest =>
      !isSha256 digest) ||
    (self.stageHistory.any fun transition => !isSha256 transition.evidenceDigest ||
      transition.source == transition.target ||
      transitionNotAllowed transition.source transition.target) ||
    !self.stageHistoryIsConsistent .qualified self.createdAt self.stageHistory ||
    self.revision == 0 || decide (self.updatedAt < self.createdAt)) .invalidOpportunity

end Opportunity

end Hartevo
