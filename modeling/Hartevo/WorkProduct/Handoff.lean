import Hartevo.Foundation.FirstMatch
import Hartevo.Foundation.Loops
import Hartevo.Mission.Contract

/-!
# The handoff of a work product

A handoff starts from a result packet.  It records the revisions of the work product, the decisions
that adopt or reject them, and the outcomes that were verified for adopted revisions.  Every record
carries a digest of itself, and the snapshot a digest of all of them.

An append looks at a few fields of the new record, adds it, and only then validates the snapshot.
`Accepts` lists what the validation asks of the record beyond that first look.
-/

namespace Hartevo

open Command List

inductive ResultClassification
  | candidate | partialResult | readyForReview | conflicted
deriving DecidableEq

structure ResultCounterevidence where
  evidenceRef : String
  contentDigest : String
  observedAt : DateTime
deriving DecidableEq

structure ResultPacket where
  packetId : String
  tenantId : TenantId
  projectId : ProjectId
  missionId : MissionId
  missionRevision : ℕ
  sourceRef : String
  runtimeRef : String
  providerRef : Option String
  title : String
  content : String
  contentDigest : String
  classification : ResultClassification
  counterevidence : List ResultCounterevidence
  createdAt : DateTime
  observedAt : DateTime
  packetDigest : String
deriving DecidableEq

structure WorkProductRevision where
  tenantId : TenantId
  projectId : ProjectId
  missionId : MissionId
  workProductId : WorkProductId
  revision : ℕ
  missionRevision : ℕ
  packetId : String
  packetDigest : String
  title : String
  content : String
  packetContentDigest : String
  workProductContentDigest : String
  createdAt : DateTime
  revisionDigest : String
deriving DecidableEq

inductive AdoptionDecisionKind
  | adopt | reject
deriving DecidableEq

structure AdoptionDecision where
  decisionId : String
  tenantId : TenantId
  projectId : ProjectId
  missionId : MissionId
  missionRevision : ℕ
  workProductId : WorkProductId
  workProductRevision : ℕ
  packetDigest : String
  decision : AdoptionDecisionKind
  rationale : String
  decidedAt : DateTime
  decisionDigest : String
deriving DecidableEq

inductive OutcomeVerificationKind
  | independentProvider | reconciliation
deriving DecidableEq

def OutcomeVerificationKind.isIndependent : OutcomeVerificationKind → Bool
  | .independentProvider | .reconciliation => true

inductive OutcomeClassification
  | positive | negative | neutral | mixed
deriving DecidableEq

structure OutcomeLink where
  linkId : String
  tenantId : TenantId
  projectId : ProjectId
  missionId : MissionId
  missionRevision : ℕ
  workProductId : WorkProductId
  workProductRevision : ℕ
  packetDigest : String
  verificationKind : OutcomeVerificationKind
  providerRef : String
  externalRef : String
  outcomeClassification : OutcomeClassification
  outcomeDigest : String
  verificationDigest : String
  verifiedAt : DateTime
  linkDigest : String
deriving DecidableEq

structure WorkProductHandoffSnapshot where
  schemaVersion : ℕ
  packet : ResultPacket
  revisions : List WorkProductRevision
  adoptionDecisions : List AdoptionDecision
  outcomeLinks : List OutcomeLink
  currentRevision : ℕ
  snapshotDigest : String
deriving DecidableEq

inductive WorkProductOutcomeError
  | invalidResultPacket | invalidCounterevidence | invalidWorkProductRevision
  | invalidAdoptionDecision | invalidOutcomeLink | invalidHandoffSnapshot
  | adoptionDecisionConflict | duplicateOutcomeLink | lineageMismatch | outcomeRequiresAdoption
  | unknownWorkProductRevision
deriving DecidableEq

/-- The JSON texts of the records, and the hash of a text. -/
structure HandoffEncoding where
  packetJson : ResultPacket → String
  revisionJson : WorkProductRevision → String
  decisionJson : AdoptionDecision → String
  linkJson : OutcomeLink → String
  snapshotJson : WorkProductHandoffSnapshot → String
  hash : String → BitVec 256

def HandoffEncoding.sha256 (enc : HandoffEncoding) (text : String) : String :=
  lowerHex (enc.hash text)

def workProductHandoffSchemaVersion : ℕ := 1

def validText (limit : ℕ) (value : String) : Bool :=
  !isBlank value && decide (strLen value ≤ limit) && !value.toList.any isControl

def validReference : String → Bool := validText 512

def validId : String → Bool := validText 256

def ResultCounterevidence.validate (self : ResultCounterevidence) :
    Except WorkProductOutcomeError Unit :=
  rejectIf (!validReference self.evidenceRef || !isSha256 self.contentDigest)
    .invalidCounterevidence

def ResultPacket.calculateDigest (self : ResultPacket) (enc : HandoffEncoding) : String :=
  enc.sha256 (enc.packetJson { self with packetDigest := "" })

def ResultPacket.validate (self : ResultPacket) (enc : HandoffEncoding) :
    Except WorkProductOutcomeError Unit :=
  rejectIf (!validId self.tenantId || !validId self.projectId || !validId self.missionId ||
    !validReference self.packetId || self.missionRevision == 0 ||
    !validReference self.sourceRef || !validReference self.runtimeRef ||
    self.providerRef.any (!validReference ·) || isBlank self.title || isBlank self.content ||
    self.contentDigest != enc.sha256 self.content || !isSha256 self.packetDigest ||
    decide (32 < self.counterevidence.length) ||
    self.counterevidence.any (fun item => !item.validate.isOk) ||
    decide (self.observedAt < self.createdAt) || self.packetDigest != self.calculateDigest enc)
    .invalidResultPacket

def WorkProductRevision.calculateDigest (self : WorkProductRevision) (enc : HandoffEncoding) :
    String :=
  enc.sha256 (enc.revisionJson { self with revisionDigest := "" })

def workProductDigest (enc : HandoffEncoding) (title content : String) : String :=
  enc.sha256 (title ++ "\n" ++ content)

def WorkProductRevision.validate (self : WorkProductRevision) (enc : HandoffEncoding) :
    Except WorkProductOutcomeError Unit :=
  rejectIf (!validId self.tenantId || !validId self.projectId || !validId self.missionId ||
    !validId self.workProductId || self.revision == 0 || self.missionRevision == 0 ||
    !validReference self.packetId || !isSha256 self.packetDigest || isBlank self.title ||
    isBlank self.content || self.packetContentDigest != enc.sha256 self.content ||
    self.workProductContentDigest != workProductDigest enc self.title self.content ||
    !isSha256 self.revisionDigest || self.revisionDigest != self.calculateDigest enc)
    .invalidWorkProductRevision

def AdoptionDecision.calculateDigest (self : AdoptionDecision) (enc : HandoffEncoding) : String :=
  enc.sha256 (enc.decisionJson { self with decisionDigest := "" })

def AdoptionDecision.validate (self : AdoptionDecision) (enc : HandoffEncoding) :
    Except WorkProductOutcomeError Unit :=
  rejectIf (!validId self.tenantId || !validId self.projectId || !validId self.missionId ||
    !validId self.workProductId || !validReference self.decisionId ||
    self.missionRevision == 0 || self.workProductRevision == 0 || !isSha256 self.packetDigest ||
    isBlank self.rationale || !isSha256 self.decisionDigest ||
    self.decisionDigest != self.calculateDigest enc) .invalidAdoptionDecision

def OutcomeLink.calculateDigest (self : OutcomeLink) (enc : HandoffEncoding) : String :=
  enc.sha256 (enc.linkJson { self with linkDigest := "" })

def OutcomeLink.validate (self : OutcomeLink) (enc : HandoffEncoding) :
    Except WorkProductOutcomeError Unit :=
  rejectIf (!validId self.tenantId || !validId self.projectId || !validId self.missionId ||
    !validId self.workProductId || !validReference self.linkId || self.missionRevision == 0 ||
    self.workProductRevision == 0 || !isSha256 self.packetDigest ||
    !self.verificationKind.isIndependent || !validReference self.providerRef ||
    !validReference self.externalRef || startsWith self.providerRef "runtime://" ||
    startsWith self.externalRef "runtime://" || !isSha256 self.outcomeDigest ||
    !isSha256 self.verificationDigest || !isSha256 self.linkDigest ||
    self.linkDigest != self.calculateDigest enc) .invalidOutcomeLink

variable {enc : HandoffEncoding} {s : WorkProductHandoffSnapshot}

namespace WorkProductHandoffSnapshot

def calculateDigest (self : WorkProductHandoffSnapshot) (enc : HandoffEncoding) : String :=
  enc.sha256 (enc.snapshotJson { self with snapshotDigest := "" })

/-- The scope of a record is that of the packet. -/
def sameScope (self : WorkProductHandoffSnapshot) (tenantId : TenantId) (projectId : ProjectId)
    (missionId : MissionId) : Bool :=
  tenantId == self.packet.tenantId && projectId == self.packet.projectId &&
    missionId == self.packet.missionId

def revision (self : WorkProductHandoffSnapshot) (number : ℕ) :
    Except WorkProductOutcomeError WorkProductRevision :=
  okOr (self.revisions.find? (·.revision == number)) .unknownWorkProductRevision

def hasAdoptedRevision (self : WorkProductHandoffSnapshot) (number : ℕ) (packetDigest : String) :
    Bool :=
  self.adoptionDecisions.any fun decision => decision.workProductRevision == number &&
    decision.packetDigest == packetDigest && decision.decision == .adopt

/-- The check of one revision at its index.  The set of packet identifiers that the loop fills is
read from the revisions that it has seen; the sets of the later loops are read in the same way. -/
def validateRevision (self : WorkProductHandoffSnapshot) (enc : HandoffEncoding)
    (seen : List (WorkProductRevision × ℕ)) (entry : WorkProductRevision × ℕ) :
    Except WorkProductOutcomeError Unit := do
  entry.1.validate enc
  let expectedRevision ← okOr ((tryFromCount 64 entry.2).bind (checkedAdd 64 · 1))
    .invalidHandoffSnapshot
  rejectIf (entry.1.revision != expectedRevision ||
    !self.sameScope entry.1.tenantId entry.1.projectId entry.1.missionId ||
    seen.any (·.1.packetId == entry.1.packetId)) .invalidHandoffSnapshot

def validateDecision (self : WorkProductHandoffSnapshot) (enc : HandoffEncoding)
    (seen : List AdoptionDecision) (decision : AdoptionDecision) :
    Except WorkProductOutcomeError Unit := do
  decision.validate enc
  rejectIf (seen.any (·.decisionId == decision.decisionId) ||
    !self.sameScope decision.tenantId decision.projectId decision.missionId) .invalidHandoffSnapshot
  let revision ← self.revision decision.workProductRevision
  rejectIf (revision.packetDigest != decision.packetDigest) .invalidHandoffSnapshot

def validateLink (self : WorkProductHandoffSnapshot) (enc : HandoffEncoding)
    (seen : List OutcomeLink) (link : OutcomeLink) : Except WorkProductOutcomeError Unit := do
  link.validate enc
  rejectIf (seen.any (·.linkId == link.linkId) ||
    !self.sameScope link.tenantId link.projectId link.missionId) .invalidHandoffSnapshot
  let revision ← self.revision link.workProductRevision
  rejectIf (revision.packetDigest != link.packetDigest ||
    revision.missionRevision != link.missionRevision ||
    !self.hasAdoptedRevision link.workProductRevision link.packetDigest) .invalidHandoffSnapshot

def validate (self : WorkProductHandoffSnapshot) (enc : HandoffEncoding) :
    Except WorkProductOutcomeError Unit := do
  rejectIf (self.schemaVersion != workProductHandoffSchemaVersion || self.revisions.isEmpty ||
    self.currentRevision == 0 || !isSha256 self.snapshotDigest) .invalidHandoffSnapshot
  self.packet.validate enc
  forSeen (self.validateRevision enc) [] self.revisions.zipIdx
  let first ← okOr self.revisions.head? .invalidHandoffSnapshot
  let count ← okOr (tryFromCount 64 self.revisions.length) .invalidHandoffSnapshot
  rejectIf (first.packetId != self.packet.packetId ||
    first.packetDigest != self.packet.packetDigest ||
    self.revisions.any (·.workProductId != first.workProductId) ||
    self.currentRevision != count) .invalidHandoffSnapshot
  forSeen (self.validateDecision enc) [] self.adoptionDecisions
  forSeen (self.validateLink enc) [] self.outcomeLinks
  rejectIf (self.snapshotDigest != self.calculateDigest enc) .invalidHandoffSnapshot

def withDigest (self : WorkProductHandoffSnapshot) (enc : HandoffEncoding) :
    WorkProductHandoffSnapshot :=
  { self with snapshotDigest := self.calculateDigest enc }

def refreshDigest (enc : HandoffEncoding) :
    Command WorkProductHandoffSnapshot WorkProductOutcomeError Unit := do
  modify (withDigest · enc)
  check (·.validate enc)

/-- The shape of the three appends: the snapshot is validated, the new record is looked at and
added, and the digest is computed again. -/
def append (enc : HandoffEncoding)
    (precheck : WorkProductHandoffSnapshot → Except WorkProductOutcomeError Unit)
    (push : WorkProductHandoffSnapshot → WorkProductHandoffSnapshot) :
    Command WorkProductHandoffSnapshot WorkProductOutcomeError Unit := do
  check (·.validate enc)
  check precheck
  modify push
  refreshDigest enc

def precheckRevision (revision : WorkProductRevision) (self : WorkProductHandoffSnapshot) :
    Except WorkProductOutcomeError Unit := do
  let expectedRevision ← okOr (checkedAdd 64 self.currentRevision 1) .invalidWorkProductRevision
  let first ← okOr self.revisions.head? .invalidHandoffSnapshot
  rejectIf (revision.revision != expectedRevision ||
    !self.sameScope revision.tenantId revision.projectId revision.missionId ||
    revision.workProductId != first.workProductId ||
    self.revisions.any (·.revision == revision.revision)) .invalidWorkProductRevision

def pushRevision (self : WorkProductHandoffSnapshot) (revision : WorkProductRevision) :
    WorkProductHandoffSnapshot :=
  { self with
    revisions := self.revisions ++ [revision]
    currentRevision := revision.revision }

def appendRevision (enc : HandoffEncoding) (revision : WorkProductRevision) :
    Command WorkProductHandoffSnapshot WorkProductOutcomeError Unit :=
  append enc (precheckRevision revision) (·.pushRevision revision)

def precheckDecision (decision : AdoptionDecision) (self : WorkProductHandoffSnapshot) :
    Except WorkProductOutcomeError Unit := do
  rejectIf (self.adoptionDecisions.any fun item => item.decisionId == decision.decisionId ||
    (item.workProductRevision == decision.workProductRevision &&
      item.packetDigest == decision.packetDigest)) .adoptionDecisionConflict
  let revision ← self.revision decision.workProductRevision
  rejectIf (revision.packetDigest != decision.packetDigest) .lineageMismatch

def pushDecision (self : WorkProductHandoffSnapshot) (decision : AdoptionDecision) :
    WorkProductHandoffSnapshot :=
  { self with adoptionDecisions := self.adoptionDecisions ++ [decision] }

def appendAdoptionDecision (enc : HandoffEncoding) (decision : AdoptionDecision) :
    Command WorkProductHandoffSnapshot WorkProductOutcomeError Unit :=
  append enc (precheckDecision decision) (·.pushDecision decision)

def precheckLink (link : OutcomeLink) (self : WorkProductHandoffSnapshot) :
    Except WorkProductOutcomeError Unit := do
  rejectIf (self.outcomeLinks.any (·.linkId == link.linkId)) .duplicateOutcomeLink
  let revision ← self.revision link.workProductRevision
  rejectIf (revision.packetDigest != link.packetDigest ||
    revision.missionRevision != link.missionRevision || !link.verificationKind.isIndependent)
    .lineageMismatch
  rejectIf (!self.hasAdoptedRevision link.workProductRevision link.packetDigest)
    .outcomeRequiresAdoption

def pushLink (self : WorkProductHandoffSnapshot) (link : OutcomeLink) :
    WorkProductHandoffSnapshot :=
  { self with outcomeLinks := self.outcomeLinks ++ [link] }

def appendOutcomeLink (enc : HandoffEncoding) (link : OutcomeLink) :
    Command WorkProductHandoffSnapshot WorkProductOutcomeError Unit :=
  append enc (precheckLink link) (·.pushLink link)

/-! ## What the validation asks -/

variable {d : AdoptionDecision} {l : OutcomeLink} {r x : WorkProductRevision} {n : ℕ}

/-- The revision of a number is recorded, for a packet digest. -/
def Records (s : WorkProductHandoffSnapshot) (n : ℕ) (packetDigest : String)
    (r : WorkProductRevision) : Prop :=
  s.revisions.find? (·.revision == n) = some r ∧ r.packetDigest = packetDigest

/-- What is asked of a revision on its own. -/
def OwnRevision (enc : HandoffEncoding) (s : WorkProductHandoffSnapshot) (r : WorkProductRevision) :
    Prop :=
  r.validate enc = .ok () ∧ s.sameScope r.tenantId r.projectId r.missionId = true

def OwnDecision (enc : HandoffEncoding) (s : WorkProductHandoffSnapshot) (d : AdoptionDecision) :
    Prop :=
  (d.validate enc = .ok () ∧ s.sameScope d.tenantId d.projectId d.missionId = true) ∧
    ∃ r, s.Records d.workProductRevision d.packetDigest r

def OwnLink (enc : HandoffEncoding) (s : WorkProductHandoffSnapshot) (l : OutcomeLink) : Prop :=
  (l.validate enc = .ok () ∧ s.sameScope l.tenantId l.projectId l.missionId = true) ∧
    (∃ r, s.Records l.workProductRevision l.packetDigest r ∧
      r.missionRevision = l.missionRevision) ∧
    s.hasAdoptedRevision l.workProductRevision l.packetDigest = true

structure Valid (enc : HandoffEncoding) (s : WorkProductHandoffSnapshot) : Prop where
  version : s.schemaVersion = workProductHandoffSchemaVersion
  current : s.currentRevision = s.revisions.length
  bounded : s.revisions.length < 2 ^ 64
  packet : s.packet.validate enc = .ok ()
  revisions : ∀ i r, s.revisions[i]? = some r → OwnRevision enc s r ∧ r.revision = i + 1
  packets : s.revisions.Pairwise (·.packetId ≠ ·.packetId)
  first : ∃ first ∈ s.revisions.head?, first.packetId = s.packet.packetId ∧
    first.packetDigest = s.packet.packetDigest ∧
    ∀ r ∈ s.revisions, r.workProductId = first.workProductId
  decisions : ∀ d ∈ s.adoptionDecisions, OwnDecision enc s d
  decisionIds : s.adoptionDecisions.Pairwise (·.decisionId ≠ ·.decisionId)
  links : ∀ l ∈ s.outcomeLinks, OwnLink enc s l
  linkIds : s.outcomeLinks.Pairwise (·.linkId ≠ ·.linkId)
  digest : s.snapshotDigest = s.calculateDigest enc

lemma revision_ok : s.revision n = .ok r ↔ s.revisions.find? (·.revision == n) = some r :=
  okOr_ok

lemma validateRevision_ok (seen : List (WorkProductRevision × ℕ))
    (entry : WorkProductRevision × ℕ) : s.validateRevision enc seen entry = .ok () ↔
      (OwnRevision enc s entry.1 ∧ entry.2 + 1 < 2 ^ 64 ∧ entry.1.revision = entry.2 + 1) ∧
        ∀ known ∈ seen, known.1.packetId ≠ entry.1.packetId := by
  have hn : ∀ m, (tryFromCount 64 entry.2).bind (checkedAdd 64 · 1) = some m ↔
      entry.2 + 1 < 2 ^ 64 ∧ entry.2 + 1 = m := by
    intro m
    simp only [tryFromCount, Option.bind_eq_some_iff, checkedAdd_eq_some]
    grind
  simp only [validateRevision, bind_ok, okOr_ok, hn, passed, any_eq_false, beq_iff_eq, OwnRevision]
  grind

lemma validateDecision_ok (seen : List AdoptionDecision) (d : AdoptionDecision) :
    s.validateDecision enc seen d = .ok () ↔
      OwnDecision enc s d ∧ ∀ known ∈ seen, known.decisionId ≠ d.decisionId := by
  simp only [validateDecision, bind_ok, revision_ok, passed, any_eq_false, beq_iff_eq,
    OwnDecision, Records]
  grind

lemma validateLink_ok (seen : List OutcomeLink) (l : OutcomeLink) :
    s.validateLink enc seen l = .ok () ↔
      OwnLink enc s l ∧ ∀ known ∈ seen, known.linkId ≠ l.linkId := by
  simp only [validateLink, bind_ok, revision_ok, passed, any_eq_false, beq_iff_eq, OwnLink, Records]
  grind

lemma forSeen_revisions : forSeen (s.validateRevision enc) [] s.revisions.zipIdx = .ok () ↔
    (∀ i r, s.revisions[i]? = some r → OwnRevision enc s r ∧ i + 1 < 2 ^ 64 ∧
      r.revision = i + 1) ∧ s.revisions.Pairwise (·.packetId ≠ ·.packetId) := by
  rw [forSeen_ok validateRevision_ok]
  refine and_congr ?_ ?_
  · simp [mem_zipIdx_iff_getElem?]
    grind
  · rw [← pairwise_map (f := Prod.fst) (R := fun a b : WorkProductRevision =>
      a.packetId ≠ b.packetId), zipIdx_map_fst]

lemma validate_ok : s.validate enc = .ok () ↔ Valid enc s := by
  rw [validate]
  simp only [↓check_ok, bind_ok, passed, forSeen_revisions, forSeen_ok validateDecision_ok,
    forSeen_ok validateLink_ok, okOr_ok, tryFromCount_eq_some, any_eq_false,
    beq_eq_false_iff_ne, bne_iff_ne, not_not, not_mem_nil, false_imp_iff, implies_true, and_true]
  constructor
  · rintro ⟨⟨⟨⟨hv, -⟩, -⟩, -⟩, hp, ⟨hr, hu⟩, first, hf, _, ⟨hb, rfl⟩, ⟨⟨⟨hi, hd⟩, hw⟩, hc⟩,
      ⟨hds, hdi⟩, ⟨hls, hli⟩, hg⟩
    exact ⟨hv, hc, hb, hp, fun i r h => ⟨(hr i r h).1, (hr i r h).2.2⟩, hu,
      ⟨first, hf, hi, hd, hw⟩, hds, hdi, hls, hli, hg⟩
  · intro h
    obtain ⟨first, hf, hi, hd, hw⟩ := h.first
    have hlt : ∀ i r, s.revisions[i]? = some r → i + 1 < 2 ^ 64 := by
      intro i r hr
      exact lt_of_le_of_lt (List.getElem?_eq_some_iff.mp hr).1 h.bounded
    refine ⟨⟨⟨⟨h.version, ?_⟩, ?_⟩, ?_⟩, h.packet, ⟨fun i r hr => ?_, h.packets⟩, first, hf, _,
      ⟨h.bounded, rfl⟩, ⟨⟨⟨hi, hd⟩, hw⟩, h.current⟩, ⟨h.decisions, h.decisionIds⟩,
      ⟨h.links, h.linkIds⟩, h.digest⟩
    · cases hs : s.revisions <;> simp_all
    · rw [h.current]
      cases hs : s.revisions <;> simp_all
    · rw [h.digest]
      exact isSha256_of_digest (digest_lowerHex _)
    · exact ⟨(h.revisions i r hr).1, hlt i r hr, (h.revisions i r hr).2⟩

/-! ## Atomic appends -/

/-- Given what an append checks first, it is atomic exactly when the longer snapshot is valid. -/
lemma atomicAt_append {push : WorkProductHandoffSnapshot → WorkProductHandoffSnapshot}
    {precheck : WorkProductHandoffSnapshot → Except WorkProductOutcomeError Unit} (h : Valid enc s)
    (hw : (push s).withDigest enc ≠ s) :
    AtomicAt (append enc precheck push) s ↔
      (precheck s = .ok () → Valid enc ((push s).withDigest enc)) := by
  rw [append, atomicAt_check_bind_iff (L := fun _ =>
    ∃ a, precheck s = .ok a ∧ ¬Valid enc ((push s).withDigest enc))]
  · cases precheck s <;> simp [validate_ok.mpr h]
  · refine fun _ _ => atomicAt_check_bind_iff fun _ _ => ?_
    have hf : Fails (modify push >>= fun _ => refreshDigest enc) s ↔
        ¬Valid enc ((push s).withDigest enc) := by
      rw [← validate_ok]
      change (∃ e, ((push s).withDigest enc).validate enc = .error e) ↔ _
      cases ((push s).withDigest enc).validate enc <;> simp
    rw [← hf]
    exact atomicAt_iff_not_fails hw

lemma find?_concat {p : WorkProductRevision → Bool}
    (h : s.revisions.find? p = some r) : (s.revisions ++ [x]).find? p = some r := by
  rw [find?_append, h, Option.some_or]

/-- The closing validation asks of a new revision what the append leaves out: that it is valid, and
that its packet is new. -/
lemma valid_pushRevision (h : Valid enc s) (ha : precheckRevision r s = .ok ()) :
    Valid enc ((s.pushRevision r).withDigest enc) ↔
      r.validate enc = .ok () ∧ ∀ known ∈ s.revisions, known.packetId ≠ r.packetId := by
  constructor
  · intro h'
    have hr := (h'.revisions s.revisions.length r (by simp [pushRevision, withDigest])).1.1
    have hp : (s.revisions ++ [r]).Pairwise (·.packetId ≠ ·.packetId) := h'.packets
    exact ⟨hr, fun known hk => (pairwise_append.mp hp).2.2 known hk r mem_cons_self⟩
  rintro ⟨hr, hp⟩
  obtain ⟨n, hn, ha⟩ := bind_ok.mp ha
  obtain ⟨first, hf, ha⟩ := bind_ok.mp ha
  simp only [passed] at ha
  obtain ⟨⟨⟨hrev, hs⟩, hw⟩, -⟩ := ha
  rw [okOr_ok, checkedAdd_eq_some, h.current] at hn
  rw [okOr_ok] at hf
  have hlen : r.revision = s.revisions.length + 1 := hrev.trans hn.2.symm
  obtain ⟨first', hf', hi, hd, hall⟩ := h.first
  obtain rfl := Option.mem_unique hf hf'
  refine { h with
    current := by simpa [pushRevision, withDigest] using hlen
    bounded := by simpa [pushRevision, withDigest] using hn.1
    revisions := fun i x hx => ?_
    packets := pairwise_append.mpr ⟨h.packets, pairwise_singleton _ _, by simpa using hp⟩
    first := ⟨first, by simp [pushRevision, withDigest, hf], hi, hd,
      forall_mem_append.mpr ⟨hall, forall_mem_singleton.mpr hw⟩⟩
    decisions := fun d hd => ?_
    links := fun l hl => ?_
    digest := rfl }
  · rcases getElem?_concat_cases hx with hx | ⟨rfl, rfl⟩
    · exact h.revisions i x hx
    · exact ⟨⟨hr, hs⟩, hlen⟩
  · obtain ⟨ho, x, hx, hpd⟩ := h.decisions d hd
    exact ⟨ho, x, find?_concat hx, hpd⟩
  · obtain ⟨ho, ⟨x, ⟨hx, hpd⟩, hm⟩, had⟩ := h.links l hl
    exact ⟨ho, ⟨x, ⟨find?_concat hx, hpd⟩, hm⟩, had⟩

lemma valid_pushDecision (h : Valid enc s) (ha : precheckDecision d s = .ok ()) :
    Valid enc ((s.pushDecision d).withDigest enc) ↔
      d.validate enc = .ok () ∧ s.sameScope d.tenantId d.projectId d.missionId = true := by
  constructor
  · exact fun h' => (h'.decisions d (mem_append_right _ mem_cons_self)).1
  intro hd
  obtain ⟨hc, ha⟩ := check_ok.mp ha
  obtain ⟨r, hr, ha⟩ := bind_ok.mp ha
  simp only [passed, any_eq_false, Bool.or_eq_true, not_or, beq_iff_eq] at ha hc
  refine { h with
    decisions := forall_mem_append.mpr ⟨h.decisions, ?_⟩
    decisionIds := pairwise_append.mpr
      ⟨h.decisionIds, pairwise_singleton _ _, by simpa using fun x hx => (hc x hx).1⟩
    links := fun l hl => ?_
    digest := rfl }
  · rw [forall_mem_singleton]
    exact ⟨hd, r, okOr_ok.mp hr, ha⟩
  · obtain ⟨ho, hx, had⟩ := h.links l hl
    refine ⟨ho, hx, ?_⟩
    change (s.adoptionDecisions ++ [d]).any _ = true
    rw [any_append, Bool.or_eq_true]
    exact .inl had

lemma valid_pushLink (h : Valid enc s) (ha : precheckLink l s = .ok ()) :
    Valid enc ((s.pushLink l).withDigest enc) ↔
      l.validate enc = .ok () ∧ s.sameScope l.tenantId l.projectId l.missionId = true := by
  constructor
  · exact fun h' => (h'.links l (mem_append_right _ mem_cons_self)).1
  intro hl
  obtain ⟨hc, ha⟩ := check_ok.mp ha
  obtain ⟨r, hr, ha⟩ := bind_ok.mp ha
  obtain ⟨hm, had⟩ := check_ok.mp ha
  simp only [passed, any_eq_false, beq_iff_eq] at hm had hc
  refine { h with
    links := forall_mem_append.mpr ⟨h.links, ?_⟩
    linkIds := pairwise_append.mpr
      ⟨h.linkIds, pairwise_singleton _ _, by simpa using hc⟩
    digest := rfl }
  rw [forall_mem_singleton]
  exact ⟨hl, ⟨r, ⟨okOr_ok.mp hr, hm.1.1⟩, hm.1.2⟩, had⟩

end WorkProductHandoffSnapshot

/-- The records that are appended to a handoff. -/
inductive HandoffRecord
  | revision (r : WorkProductRevision)
  | decision (d : AdoptionDecision)
  | link (l : OutcomeLink)

namespace WorkProductHandoffSnapshot

/-- What the append of a record checks before it writes. -/
def precheckRecord :
    HandoffRecord → WorkProductHandoffSnapshot → Except WorkProductOutcomeError Unit
  | .revision r => precheckRevision r
  | .decision d => precheckDecision d
  | .link l => precheckLink l

/-- The append of a record. -/
def appendRecord (enc : HandoffEncoding) :
    HandoffRecord → Command WorkProductHandoffSnapshot WorkProductOutcomeError Unit
  | .revision r => appendRevision enc r
  | .decision d => appendAdoptionDecision enc d
  | .link l => appendOutcomeLink enc l

/-- The record is valid, and the snapshot has room for it where the append does not look. -/
def Accepts (enc : HandoffEncoding) (s : WorkProductHandoffSnapshot) : HandoffRecord → Prop
  | .revision r =>
    r.validate enc = .ok () ∧ ∀ known ∈ s.revisions, known.packetId ≠ r.packetId
  | .decision d =>
    d.validate enc = .ok () ∧ s.sameScope d.tenantId d.projectId d.missionId = true
  | .link l => l.validate enc = .ok () ∧ s.sameScope l.tenantId l.projectId l.missionId = true

lemma atomicAt_appendRecord (h : Valid enc s) (record : HandoffRecord) :
    AtomicAt (appendRecord enc record) s ↔
      (precheckRecord record s = .ok () → s.Accepts enc record) := by
  have longer {α : Type} (items : WorkProductHandoffSnapshot → List α) {a : α}
      {s' : WorkProductHandoffSnapshot} (hi : items s' = items s ++ [a]) : s' ≠ s := by
    rintro rfl
    simp at hi
  cases record with
  | revision r =>
    exact (atomicAt_append h (longer (·.revisions) rfl)).trans
      (imp_congr_right (valid_pushRevision h))
  | decision d =>
    exact (atomicAt_append h (longer (·.adoptionDecisions) rfl)).trans
      (imp_congr_right (valid_pushDecision h))
  | link l =>
    exact (atomicAt_append h (longer (·.outcomeLinks) rfl)).trans
      (imp_congr_right (valid_pushLink h))

/-- A failed append leaves a valid snapshot as it was exactly when one of the checks before the
write refuses the record, or the closing validation accepts it. -/
theorem append_atomic_iff (h : s.validate enc = .ok ()) (record : HandoffRecord) :
    (∀ e s', (appendRecord enc record).exec s = (.error e, s') →
      s' = s ∧ s'.validate enc = .ok ()) ↔
    (∃ e, precheckRecord record s = .error e) ∨ s.Accepts enc record := by
  have hat : (∀ e s', (appendRecord enc record).exec s = (.error e, s') →
      s' = s ∧ s'.validate enc = .ok ()) ↔ AtomicAt (appendRecord enc record) s := by
    constructor
    · exact fun ha e he => (ha e _ (Prod.ext he rfl)).1
    · intro ha e s' he
      have hs := ha e (by rw [he])
      rw [he] at hs
      subst hs
      exact ⟨rfl, h⟩
  rw [hat, atomicAt_appendRecord (validate_ok.mp h)]
  cases precheckRecord record s <;> simp

/-! ## Lineage -/

/-- The decisions on the revision and the packet of an outcome link. -/
def decisionsOf (s : WorkProductHandoffSnapshot) (l : OutcomeLink) : List AdoptionDecision :=
  s.adoptionDecisions.filter fun d =>
    d.workProductRevision == l.workProductRevision && d.packetDigest == l.packetDigest

/-- The revision and the decision that an outcome link goes back to. -/
structure Lineage (s : WorkProductHandoffSnapshot) (l : OutcomeLink) (r : WorkProductRevision)
    (d : AdoptionDecision) : Prop where
  revision : s.revisions.filter (·.revision == l.workProductRevision) = [r]
  decision : s.decisionsOf l = [d]
  adopted : d.decision = .adopt
  tenants : l.tenantId = r.tenantId ∧ d.tenantId = r.tenantId
  projects : l.projectId = r.projectId ∧ d.projectId = r.projectId
  missions : l.missionId = r.missionId ∧ d.missionId = r.missionId
  products : l.workProductId = r.workProductId ∧ d.workProductId = r.workProductId
  missionRevisions : l.missionRevision = r.missionRevision ∧ d.missionRevision = r.missionRevision
  packets : l.packetDigest = r.packetDigest ∧ d.packetDigest = r.packetDigest

def sampleEncoding : HandoffEncoding where
  packetJson _ := ""
  revisionJson _ := ""
  decisionJson _ := ""
  linkJson _ := ""
  snapshotJson _ := ""
  hash _ := 0

def sampleRevision (number : ℕ) : WorkProductRevision :=
  ⟨"t", "p", "m", "w", number, 1, "packet", lowerHex 0, "title", "text", lowerHex 0, lowerHex 0, 1,
    lowerHex 0⟩

def sampleLink (product : WorkProductId) : OutcomeLink :=
  ⟨"l", "t", "p", "m", 1, product, 1, lowerHex 0, .reconciliation, "provider", "external",
    .positive, lowerHex 0, lowerHex 0, 3, lowerHex 0⟩

/-- A handoff of one revision, whose decision and outcome name a work product. -/
def adoptedAs (product : WorkProductId) : WorkProductHandoffSnapshot where
  schemaVersion := 1
  packet := ⟨"packet", "t", "p", "m", 1, "source", "runtime", none, "title", "text", lowerHex 0,
    .candidate, [], 1, 1, lowerHex 0⟩
  revisions := [sampleRevision 1]
  adoptionDecisions := [⟨"d", "t", "p", "m", 1, product, 1, lowerHex 0, .adopt, "good", 2,
    lowerHex 0⟩]
  outcomeLinks := [sampleLink product]
  currentRevision := 1
  snapshotDigest := lowerHex 0

lemma validate_adoptedAs : (adoptedAs "w").validate sampleEncoding = .ok () := by
  decide +kernel

/-- A second link of the same id is refused before the write, a second revision of the same packet
after it. -/
theorem append_atomic_iff_adoptedAs :
    let s := adoptedAs "w"
    let atomic (record : HandoffRecord) : Prop :=
      ∀ e s', (appendRecord sampleEncoding record).exec s = (.error e, s') →
        s' = s ∧ s'.validate sampleEncoding = .ok ()
    atomic (.link (sampleLink "w")) ∧ ¬atomic (.revision (sampleRevision 2)) := by
  intro s atomic
  refine ⟨(append_atomic_iff validate_adoptedAs _).mpr
    (.inl ⟨.duplicateOutcomeLink, by decide +kernel⟩), fun ha => ?_⟩
  rcases (append_atomic_iff validate_adoptedAs _).mp ha with ⟨e, he⟩ | hok
  · have hp : precheckRecord (.revision (sampleRevision 2)) s = .ok () := by decide +kernel
    rw [hp] at he
    cases he
  · exact hok.2 _ mem_cons_self rfl

/-- A revision of a packet that has one already is refused, and stays. -/
theorem refused_revision_stays :
    let s := adoptedAs "w"
    let run := (appendRevision sampleEncoding (sampleRevision 2)).exec s
    s.validate sampleEncoding = .ok () ∧ run.1 = .error .invalidHandoffSnapshot ∧ run.2 ≠ s ∧
      run.2.validate sampleEncoding = .error .invalidHandoffSnapshot :=
  ⟨validate_adoptedAs, by decide +kernel⟩

end WorkProductHandoffSnapshot

end Hartevo
