import Hartevo.Foundation.Index
import Hartevo.Foundation.Loops
import Hartevo.Outcome.Projections

/-!
# The identity chain of a ledger

Every event has to be covered by an identity: a lead, a meeting or an order by its own identity
link, a refund or a commission by the link of its order, a change of an opportunity by the
opportunity and a payout by its partner.  The support records have to be exactly those that are
referenced, directly or through another support record.

Of the partners that is: those of the events, of the commissions, and the partners that an identity
link has as its subject (`OutcomeLedger.Chained`).
-/

namespace Hartevo

/-! ## Support records -/

/-- The support records by their identifiers. -/
structure SupportIndex where
  connections : BTreeMap ConnectionId ConnectionSnapshot
  identityLinks : BTreeMap IdentityLinkId IdentityLink
  people : BTreeMap PersonId Person
  companies : BTreeMap CompanyId Company
  partners : BTreeMap PartnerId Partner
  opportunities : BTreeMap OpportunityId Opportunity

namespace IdentitySupport

def index (self : IdentitySupport) : SupportIndex where
  connections := indexBy (·.id) self.connections
  identityLinks := indexBy (·.id) self.identityLinks
  people := indexBy (·.id) self.people
  companies := indexBy (·.id) self.companies
  partners := indexBy (·.id) self.partners
  opportunities := indexBy (·.id) self.opportunities

def hasDuplicates (self : IdentitySupport) : Bool :=
  self.index.connections.size != self.connections.length ||
    self.index.identityLinks.size != self.identityLinks.length ||
    self.index.people.size != self.people.length ||
    self.index.companies.size != self.companies.length ||
    self.index.partners.size != self.partners.length ||
    self.index.opportunities.size != self.opportunities.length

end IdentitySupport

def IdentitySubject.person? : IdentitySubject → Option PersonId
  | .person id => some id
  | _ => none

def IdentitySubject.company? : IdentitySubject → Option CompanyId
  | .company id => some id
  | _ => none

def IdentitySubject.partner? : IdentitySubject → Option PartnerId
  | .partner id => some id
  | _ => none

namespace SupportIndex

/-- The record of the subject is there. -/
def subjectExists (self : SupportIndex) : IdentitySubject → Bool
  | .person id => self.people.contains id
  | .company id => self.companies.contains id
  | .partner id => self.partners.contains id

/-- The records in the order of their identifiers. -/
def support (self : SupportIndex) : IdentitySupport where
  connections := self.connections.vals
  identityLinks := self.identityLinks.vals
  people := self.people.vals
  companies := self.companies.vals
  partners := self.partners.vals
  opportunities := self.opportunities.vals

/-- The person of a partner, if it names one. -/
def partnerPerson (self : SupportIndex) (partner : Partner) :
    Except OutcomeLedgerError (Option Person) :=
  match partner.personId with
  | none => .ok none
  | some id => (okOr self.people[id]? .identityRelationshipMismatch).map some

def companiesDiffer (partner : Partner) (person : Option Person) : Bool :=
  match partner.companyId, person.bind (·.companyId) with
  | some partnerCompany, some personCompany => partnerCompany != personCompany
  | _, _ => false

/-- Every record that a support record names is there. -/
def checkRelationships (self : SupportIndex) (records : IdentitySupport) :
    Except OutcomeLedgerError Unit := do
  records.identityLinks.forM fun link =>
    rejectIf (!self.subjectExists link.subject) .identityRelationshipMismatch
  records.people.forM fun person =>
    rejectIf (person.companyId.any fun id => !self.companies.contains id)
      .identityRelationshipMismatch
  records.partners.forM fun partner => do
    let person ← self.partnerPerson partner
    rejectIf ((partner.companyId.any fun id => !self.companies.contains id) ||
      companiesDiffer partner person) .identityRelationshipMismatch
  records.opportunities.forM fun opportunity =>
    rejectIf (!self.companies.contains opportunity.companyId ||
      opportunity.buyingCommittee.any fun member => !self.people.contains member.personId)
      .identityRelationshipMismatch

end SupportIndex

/-! ## Coverage of the events -/

/-- What the events reference, and how many of them are covered in which way. -/
structure IdentityCoverage where
  expectedConnections : BTreeSet ConnectionId
  expectedIdentities : BTreeSet IdentityLinkId
  expectedOpportunities : BTreeSet OpportunityId
  expectedPartners : BTreeSet PartnerId
  directIdentityEventCount : ℕ
  inheritedOrderIdentityEventCount : ℕ
  externalAccountMatchCount : ℕ
  identityCoveredEventCount : ℕ

namespace IdentityCoverage

/-- The connection of an event is one of its provider and account. -/
def coverConnection (index : SupportIndex) (self : IdentityCoverage) (event : OutcomeEvent) :
    Except OutcomeLedgerError IdentityCoverage :=
  match event.connectionId with
  | none => .ok self
  | some connectionId => do
    let connection ← okOr index.connections[connectionId]? .identityChainSupportClosureMismatch
    rejectIf (connection.provider != event.provider || some connection.accountId != event.accountId)
      .identityProviderAccountMismatch
    return { self with expectedConnections := self.expectedConnections.insert connectionId }

def coverAccount (self : IdentityCoverage) (link : IdentityLink) (event : OutcomeEvent) :
    Except OutcomeLedgerError IdentityCoverage :=
  match event.accountId with
  | none => .ok self
  | some accountId => do
    rejectIf (!link.confirmsExternalIdentity event.provider accountId)
      .identityProviderAccountMismatch
    let count ← countOne self.externalAccountMatchCount
    return { self with externalAccountMatchCount := count }

def coverIdentity (index : SupportIndex) (self : IdentityCoverage) (event : OutcomeEvent) :
    Except OutcomeLedgerError IdentityCoverage :=
  match event.identityLinkId with
  | none => .ok self
  | some linkId => do
    let link ← okOr index.identityLinks[linkId]? .identityChainSupportClosureMismatch
    let next ← self.coverAccount link event
    let count ← countOne next.directIdentityEventCount
    return { next with
      expectedIdentities := next.expectedIdentities.insert linkId
      directIdentityEventCount := count }

def reference (self : IdentityCoverage) (event : OutcomeEvent) : IdentityCoverage :=
  { self with
    expectedOpportunities := match event.opportunityId with
      | some opportunityId => self.expectedOpportunities.insert opportunityId
      | none => self.expectedOpportunities
    expectedPartners := match event.partnerId with
      | some partnerId => self.expectedPartners.insert partnerId
      | none => self.expectedPartners }

def coverInherited (linkedOrders : BTreeSet OrderId) (self : IdentityCoverage)
    (event : OutcomeEvent) : Except OutcomeLedgerError (Bool × IdentityCoverage) :=
  if event.orderId.any linkedOrders.contains then do
    let count ← countOne self.inheritedOrderIdentityEventCount
    return (true, { self with inheritedOrderIdentityEventCount := count })
  else .ok (false, self)

def coverKind (linkedOrders : BTreeSet OrderId) (self : IdentityCoverage) (event : OutcomeEvent) :
    Except OutcomeLedgerError (Bool × IdentityCoverage) :=
  match event.kind with
  | .leadQualified | .meetingBooked | .orderPlaced => .ok (event.identityLinkId.isSome, self)
  | .refundIssued => self.coverInherited linkedOrders event
  | .commissionAccrued | .commissionReversed => do
    let (inherited, next) ← self.coverInherited linkedOrders event
    return (inherited && event.partnerId.isSome, next)
  | .opportunityStageChanged => .ok (event.opportunityId.isSome, self)
  | .payoutCompleted => .ok (event.partnerId.isSome, self)

def coverEvent (index : SupportIndex) (linkedOrders : BTreeSet OrderId) (self : IdentityCoverage)
    (event : OutcomeEvent) : Except OutcomeLedgerError IdentityCoverage := do
  let connected ← self.coverConnection index event
  let identified ← connected.coverIdentity index event
  let (covered, next) ← (identified.reference event).coverKind linkedOrders event
  rejectIf (!covered) .identityChainCoverageMismatch
  let count ← countOne next.identityCoveredEventCount
  return { next with identityCoveredEventCount := count }

def partnersWithSubjects (self : IdentityCoverage) (links : List IdentityLink) :
    BTreeSet PartnerId :=
  self.expectedPartners.insertMany (links.filterMap fun link => link.subject.partner?)

/-- The support records are exactly those that are referenced. -/
def checkClosure (self : IdentityCoverage) (records : IdentitySupport) :
    Except OutcomeLedgerError Unit := do
  rejectIf (self.expectedConnections != keySet records.index.connections ||
    self.expectedIdentities != keySet records.index.identityLinks ||
    self.expectedOpportunities != keySet records.index.opportunities)
    .identityChainSupportClosureMismatch
  rejectIf (self.partnersWithSubjects records.identityLinks != keySet records.index.partners)
    .identityChainSupportClosureMismatch
  let expectedPeople : BTreeSet PersonId := .ofList
    ((records.identityLinks.filterMap fun link => link.subject.person?) ++
      (records.opportunities.flatMap fun opportunity =>
        opportunity.buyingCommittee.map (·.personId)) ++
      records.partners.filterMap (·.personId))
  rejectIf (expectedPeople != keySet records.index.people) .identityChainSupportClosureMismatch
  let expectedCompanies : BTreeSet CompanyId := .ofList
    ((records.identityLinks.filterMap fun link => link.subject.company?) ++
      records.opportunities.map (·.companyId) ++ records.partners.filterMap (·.companyId) ++
      records.people.filterMap (·.companyId))
  rejectIf (expectedCompanies != keySet records.index.companies)
    .identityChainSupportClosureMismatch

end IdentityCoverage

/-! ## The projection -/

namespace OutcomeLedger

def validateRecord {ε : Type} (self : OutcomeLedger) (check : Except ε Unit) (tenantId : TenantId)
    (projectId : ProjectId) : Except OutcomeLedgerError Unit := do
  check.mapError fun _ => .identityRelationshipMismatch
  rejectIf (!(tenantId == self.tenantId && projectId == self.projectId))
    .identityRelationshipMismatch

def validateSupport (self : OutcomeLedger) (support : IdentitySupport) :
    Except OutcomeLedgerError Unit := do
  support.connections.forM fun record =>
    self.validateRecord record.validate record.tenantId record.projectId
  support.identityLinks.forM fun record => do
    self.validateRecord record.validate record.tenantId record.projectId
    rejectIf (record.status != .confirmed) .identityLinkUnconfirmed
  support.people.forM fun record =>
    self.validateRecord record.validate record.tenantId record.projectId
  support.companies.forM fun record =>
    self.validateRecord record.validate record.tenantId record.projectId
  support.partners.forM fun record =>
    self.validateRecord record.validate record.tenantId record.projectId
  support.opportunities.forM fun record =>
    self.validateRecord record.validate record.tenantId record.projectId

/-- The orders, which all have an identity link. -/
def directlyLinkedOrders (self : OutcomeLedger) :
    Except OutcomeLedgerError (BTreeSet OrderId) := do
  let orders ← (self.events.filter fun event => event.kind == .orderPlaced).mapM fun event => do
    rejectIf event.identityLinkId.isNone .identityChainCoverageMismatch
    okOr event.orderId .identityChainCoverageMismatch
  return .ofList orders

/-- Nothing is covered yet; the partners of the commissions are referenced. -/
def initialCoverage (self : OutcomeLedger) : IdentityCoverage where
  expectedConnections := ∅
  expectedIdentities := ∅
  expectedOpportunities := ∅
  expectedPartners := .ofList (self.commissions.map (·.partnerId))
  directIdentityEventCount := 0
  inheritedOrderIdentityEventCount := 0
  externalAccountMatchCount := 0
  identityCoveredEventCount := 0

def verifiedIdentityChainProjection (enc : ProjectionEncoding) (self : OutcomeLedger)
    (support : IdentitySupport) : Except OutcomeLedgerError OutcomeIdentityChainProjection := do
  let normalization ← self.verifiedNormalizationProjection enc.toOutcomeEncoding
  rejectIf support.hasDuplicates .identityChainSupportClosureMismatch
  self.validateSupport support
  let directlyLinkedOrders ← self.directlyLinkedOrders
  let coverage ← self.events.foldlM
    (IdentityCoverage.coverEvent support.index directlyLinkedOrders) self.initialCoverage
  coverage.checkClosure support
  support.index.checkRelationships support
  let eventCount ← projectionCount self.events.length
  rejectIf (coverage.identityCoveredEventCount != eventCount) .identityChainCoverageMismatch
  let connectionCount ← projectionCount support.connections.length
  let identityLinkCount ← projectionCount support.identityLinks.length
  let personCount ← projectionCount support.people.length
  let companyCount ← projectionCount support.companies.length
  let partnerCount ← projectionCount support.partners.length
  let opportunityCount ← projectionCount support.opportunities.length
  return {
    schemaVersion := 1
    tenantId := self.tenantId
    projectId := self.projectId
    sourceLedgerRevision := self.revision
    eventCount := eventCount
    identityCoveredEventCount := coverage.identityCoveredEventCount
    directIdentityEventCount := coverage.directIdentityEventCount
    inheritedOrderIdentityEventCount := coverage.inheritedOrderIdentityEventCount
    externalAccountMatchCount := coverage.externalAccountMatchCount
    connectionCount := connectionCount
    identityLinkCount := identityLinkCount
    personCount := personCount
    companyCount := companyCount
    partnerCount := partnerCount
    opportunityCount := opportunityCount
    partnerPolicyDigest := enc.digest (enc.partnersJson support.index.partners.vals)
    sourceSupportDigest := enc.digest (enc.supportJson
      (normalization.digest enc.toOutcomeEncoding) support.index.support) }

end OutcomeLedger

/-! ## The partners of a chain -/

namespace IdentityCoverage

variable {index : SupportIndex} {linkedOrders : BTreeSet OrderId} {c c' : IdentityCoverage}
  {e : OutcomeEvent} {covered : Bool}

lemma coverConnection_partners (h : c.coverConnection index e = .ok c') :
    c'.expectedPartners = c.expectedPartners := by
  unfold coverConnection at h
  split at h
  · cases h
    rfl
  · simp only [bind_ok] at h
    obtain ⟨_, _, _, _, hm⟩ := h
    cases hm
    rfl

lemma coverAccount_partners {link : IdentityLink} (h : c.coverAccount link e = .ok c') :
    c'.expectedPartners = c.expectedPartners := by
  unfold coverAccount at h
  split at h
  · cases h
    rfl
  · simp only [bind_ok] at h
    obtain ⟨_, _, _, _, hm⟩ := h
    cases hm
    rfl

lemma coverIdentity_partners (h : c.coverIdentity index e = .ok c') :
    c'.expectedPartners = c.expectedPartners := by
  unfold coverIdentity at h
  split at h
  · cases h
    rfl
  · simp only [bind_ok] at h
    obtain ⟨link, _, next, ha, _, _, hm⟩ := h
    cases hm
    have hn : next.expectedPartners = c.expectedPartners := coverAccount_partners ha
    exact hn

lemma coverInherited_partners (h : c.coverInherited linkedOrders e = .ok (covered, c')) :
    c'.expectedPartners = c.expectedPartners := by
  unfold coverInherited at h
  split at h
  · obtain ⟨_, _, hm⟩ := bind_ok.mp h
    cases hm
    rfl
  · cases h
    rfl

lemma coverKind_partners (h : c.coverKind linkedOrders e = .ok (covered, c')) :
    c'.expectedPartners = c.expectedPartners := by
  unfold coverKind at h
  split at h
  all_goals first
    | exact coverInherited_partners h
    | (obtain ⟨⟨inherited, next⟩, hi, hm⟩ := bind_ok.mp h
       cases hm
       exact coverInherited_partners hi)
    | (cases h
       rfl)

/-- An event adds its partner to the referenced ones, and nothing else. -/
lemma coverEvent_partners (h : c.coverEvent index linkedOrders e = .ok c') :
    c'.expectedPartners = (c.reference e).expectedPartners := by
  simp only [coverEvent, bind_ok] at h
  obtain ⟨connected, hc, identified, hi, ⟨covered, next⟩, hk, _, _, _, _, hm⟩ := h
  cases hm
  have hn : next.expectedPartners = (identified.reference e).expectedPartners :=
    coverKind_partners hk
  have hb : identified.expectedPartners = c.expectedPartners :=
    (coverIdentity_partners hi).trans (coverConnection_partners hc)
  refine hn.trans ?_
  unfold reference
  rw [hb]

lemma mem_partners_of_foldlM {evs : List OutcomeEvent} {id : PartnerId}
    (h : evs.foldlM (coverEvent index linkedOrders) c = .ok c') :
    id ∈ c'.expectedPartners ↔ id ∈ c.expectedPartners ∨ ∃ e ∈ evs, e.partnerId = some id := by
  induction evs generalizing c with
  | nil =>
    cases h
    simp
  | cons e evs ih =>
    rw [List.foldlM_cons, bind_ok] at h
    obtain ⟨next, hf, hre⟩ := h
    have hr : id ∈ (c.reference e).expectedPartners ↔
        id ∈ c.expectedPartners ∨ e.partnerId = some id := by
      unfold reference
      rcases e.partnerId with _ | partnerId
      · simp
      · simp only [Option.some.injEq]
        rw [Std.ExtTreeSet.mem_insert_iff, or_comm, eq_comm]
    rw [ih hre, coverEvent_partners hf, hr, List.exists_mem_cons_iff, or_assoc]

end IdentityCoverage

namespace OutcomeLedger

variable {enc : ProjectionEncoding} {l : OutcomeLedger} {support : IdentitySupport}
  {chain : OutcomeIdentityChainProjection} {id : PartnerId}

/-- The partner is the partner of an event or of a commission. -/
def References (l : OutcomeLedger) (id : PartnerId) : Prop :=
  (∃ e ∈ l.events, e.partnerId = some id) ∨ ∃ record ∈ l.commissions, record.partnerId = id

lemma partner?_eq_some {subject : IdentitySubject} :
    subject.partner? = some id ↔ subject = .partner id := by
  rcases subject with _ | _ | _ <;> simp [IdentitySubject.partner?]

/-- What an identity chain says of its ledger and of the partners. -/
structure Chained (enc : ProjectionEncoding) (l : OutcomeLedger) (support : IdentitySupport)
    (chain : OutcomeIdentityChainProjection) : Prop where
  normalized : l.verifiedNormalizationProjection enc.toOutcomeEncoding =
    .ok (l.normalization enc.toOutcomeEncoding)
  current : chain.mismatches l (l.normalization enc.toOutcomeEncoding) = false
  valid : ∀ partner ∈ support.partners, partner.validate = .ok () ∧
    partner.tenantId = l.tenantId ∧ partner.projectId = l.projectId
  size : support.index.partners.size = support.partners.length
  count : chain.partnerCount = support.partners.length ∧ support.partners.length < 2 ^ 64
  policy : chain.partnerPolicyDigest =
    enc.digest (enc.partnersJson support.index.partners.vals)
  closure : ∀ id, id ∈ support.index.partners ↔
    l.References id ∨ ∃ link ∈ support.identityLinks, link.subject = .partner id

lemma partner_of_validateSupport {pt : Partner} (h : l.validateSupport support = .ok ())
    (hmem : pt ∈ support.partners) : pt.validate = .ok () ∧
      pt.tenantId = l.tenantId ∧ pt.projectId = l.projectId := by
  simp only [validateSupport, check_ok, forM_eq_ok_iff] at h
  obtain ⟨-, -, -, -, hpa, -⟩ := h
  have hp := hpa pt hmem
  rw [validateRecord, check_ok, Except.mapError_ok, rejectIf_ok] at hp
  simpa using hp

/-- The partners of the support records are those that the ledger references, and the subjects of
identity links. -/
lemma mem_partners_of_checkClosure {coverage : IdentityCoverage}
    (h : coverage.checkClosure support = .ok ()) :
    id ∈ support.index.partners ↔ id ∈ coverage.expectedPartners ∨
      ∃ link ∈ support.identityLinks, link.subject = .partner id := by
  simp only [IdentityCoverage.checkClosure, check_ok, passed] at h
  obtain ⟨-, hp, -⟩ := h
  have hmem := treeSet_eq_iff.mp hp id
  rw [mem_keySet, IdentityCoverage.partnersWithSubjects, Std.ExtTreeSet.mem_insertMany_list] at hmem
  rw [← hmem]
  simp [partner?_eq_some]

lemma chained_of_projection (h : l.verifiedIdentityChainProjection enc support = .ok chain) :
    l.Chained enc support chain := by
  simp only [verifiedIdentityChainProjection, bind_ok, exists_const, passed,
    projectionCount_ok] at h
  obtain ⟨normalized, hn, hd, ⟨⟩, hs, orders, -, coverage, hc,
    ⟨⟩, hcl, ⟨⟩, -, eventCount, ⟨-, he⟩, hco, _, ⟨-, -⟩, _, ⟨-, -⟩, _, ⟨-, -⟩, _,
    ⟨-, -⟩, partnerCount, ⟨hb, hpa⟩, _, ⟨-, -⟩, hm⟩ := h
  have hp := (verifiedNormalizationProjection_ok.mp hn).2.2
  cases hm
  refine ⟨hp ▸ hn, ?_, fun _ => partner_of_validateSupport hs, ?_,
    ⟨hpa.symm, hb⟩, rfl, fun id => ?_⟩
  · have hcou : (l.normalization enc.toOutcomeEncoding).eventCount = eventCount := he
    simp [OutcomeIdentityChainProjection.mismatches, hco, hcou]
  · unfold IdentitySupport.hasDuplicates at hd
    simp only [passed] at hd
    exact hd.1.2
  · rw [mem_partners_of_checkClosure hcl, IdentityCoverage.mem_partners_of_foldlM hc]
    unfold References initialCoverage
    rw [mem_ofList, List.mem_map, or_comm (a := ∃ record ∈ l.commissions, _)]

end OutcomeLedger

end Hartevo
