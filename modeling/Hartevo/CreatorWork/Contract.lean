import Hartevo.Mission.DigestBinding
import Hartevo.Outcome.Model

/-!
# What the digest of a creator contract binds

A creator task is funded, published and accepted under the digest of its contract.
`CreatorTask.contractFields` lists the hashed fields in their order.  In the bytes every field is
preceded by its length, so that they determine the sequence, but the lists among the terms are
written without their numbers of elements: the last acceptance criterion of one contract can be the
first deliverable requirement of another (`criterion_read_as_requirement`).  Contracts with the same
bytes have the same terms exactly when their lists have the same numbers of elements
(`terms_eq_iff_of_contractPreimage_eq`).
-/

namespace Hartevo

open List

abbrev CreatorApplicationId := String
abbrev CreatorMilestoneId := String
abbrev CreatorTaskId := String

@[ext] structure CreatorHiringAward where
  hiringId : CreatorHiringId
  tenantId : TenantId
  projectId : ProjectId
  missionId : MissionId
  creatorId : CreatorId
  partnerId : PartnerId
  applicationId : CreatorApplicationId
  offerDigest : String
  bounty : Money
  selectedBy : ActorId
  selectionEvidenceDigest : String
  selectedAt : DateTime

def CreatorHiringAward.validatesTaskScope (self : CreatorHiringAward) (tenantId : TenantId)
    (projectId : ProjectId) (missionId : MissionId) (creatorId : CreatorId) (bounty : Money)
    (now : DateTime) : Bool :=
  !isBlank self.hiringId && self.tenantId == tenantId && self.projectId == projectId &&
    self.missionId == missionId && self.creatorId == creatorId && self.bounty == bounty &&
    !isBlank self.selectedBy && isSha256 self.offerDigest &&
    isSha256 self.selectionEvidenceDigest && self.selectedAt ≤ now

@[ext] structure CreatorMilestoneSpec where
  id : CreatorMilestoneId
  title : String
  amount : Money
  dueAt : DateTime

inductive CreatorMilestoneStatus
  | draft | opened | acceptedByCreator | inProgress | submitted | revisionRequested
  | settlementPending | paid | rejected | disputed | cancelled

@[ext] structure CreatorMilestone extends CreatorMilestoneSpec where
  status : CreatorMilestoneStatus
  revisionsUsed : ℕ

@[ext] structure UsageRights where
  license : String
  (territories channels : List String)
  exclusivity : String
  (disclosureRequired sourceManifestRequired : Bool)

/-- A specification, or the part of a task that comes from it; they differ in the milestones. -/
@[ext] structure CreatorTaskSpec (Milestone : Type) where
  id : CreatorTaskId
  tenantId : TenantId
  projectId : ProjectId
  missionId : MissionId
  creatorId : CreatorId
  hiringAward : CreatorHiringAward
  (title brief : String)
  (acceptanceCriteria deliverableRequirements : List String)
  bounty : Money
  milestones : List Milestone
  revisionLimit : ℕ
  usageRights : UsageRights
  dueAt : DateTime

inductive CreatorTaskStatus
  | draft | published | accepted | inProgress | submitted | revisionRequested | settlementPending
  | partiallyPaid | paid | rejected | disputed | cancelled

structure CreatorTask extends CreatorTaskSpec CreatorMilestone where
  (contractRevision stateRevision : ℕ)
  acceptedRevision : Option ℕ
  status : CreatorTaskStatus
  (createdAt updatedAt : DateTime)

inductive CreatorWorkError
  | incompleteTaskContract | nonPositiveBounty | duplicateMilestone | milestoneAmountMismatch
  | invalidDueDate | invalidRevisionLimit | incompleteUsageRights | invalidHiringAward

def normalizedNonempty (values : List String) : List String :=
  (values.map trim).filter (· != "")

/-- Sorted and without repetitions. -/
def normalizedSet (values : List String) : List String :=
  (.ofList (normalizedNonempty values) : BTreeSet String).toList

def hasNonempty (values : List String) : Bool :=
  values.any (!isBlank ·)

/-- The loop over the milestones, with the ids seen and the total of the amounts so far. -/
def validateMilestones (dueAt now : DateTime) :
    List CreatorMilestoneId → Money → List CreatorMilestoneSpec → Except CreatorWorkError Money
  | _, total, [] => .ok total
  | seen, total, milestone :: rest => do
    rejectIf (seen.contains milestone.id) .duplicateMilestone
    let total ← (total.checkedAdd milestone.amount).mapError fun _ => .milestoneAmountMismatch
    rejectIf (isBlank milestone.title || milestone.dueAt ≤ now || dueAt < milestone.dueAt)
      .invalidDueDate
    validateMilestones dueAt now (milestone.id :: seen) total rest

def validateSpec (spec : CreatorTaskSpec CreatorMilestoneSpec) (now : DateTime) :
    Except CreatorWorkError Unit := do
  rejectIf (!spec.hiringAward.validatesTaskScope spec.tenantId spec.projectId spec.missionId
    spec.creatorId spec.bounty now) .invalidHiringAward
  rejectIf (isBlank spec.title || isBlank spec.brief || !hasNonempty spec.acceptanceCriteria ||
    !hasNonempty spec.deliverableRequirements || spec.milestones.isEmpty) .incompleteTaskContract
  rejectIf (!spec.bounty.isPositive || spec.milestones.any (!·.amount.isPositive))
    .nonPositiveBounty
  let total ← validateMilestones spec.dueAt now [] (.zero spec.bounty.currency) spec.milestones
  rejectIf (total != spec.bounty) .milestoneAmountMismatch
  rejectIf (spec.dueAt ≤ now) .invalidDueDate
  rejectIf (spec.revisionLimit == 0) .invalidRevisionLimit
  rejectIf (isBlank spec.usageRights.license || !hasNonempty spec.usageRights.territories ||
    !hasNonempty spec.usageRights.channels || isBlank spec.usageRights.exclusivity)
    .incompleteUsageRights

def CreatorMilestone.contractFields (enc : MissionEncoding) (self : CreatorMilestone) :
    List String :=
  [self.id, self.title, toString self.amount.amountMinor, self.amount.currency.code,
    enc.toRfc3339 self.dueAt]

/-- The milestones of a new task. -/
def CreatorMilestone.drafts : Set CreatorMilestone :=
  {m | 0 < m.amount.amountMinor ∧ m.status = .draft ∧ m.revisionsUsed = 0}

namespace CreatorTask

def create (spec : CreatorTaskSpec CreatorMilestoneSpec) (now : DateTime) :
    Except CreatorWorkError CreatorTask := do
  validateSpec spec now
  return { spec with
    title := trim spec.title
    brief := trim spec.brief
    acceptanceCriteria := normalizedNonempty spec.acceptanceCriteria
    deliverableRequirements := normalizedNonempty spec.deliverableRequirements
    milestones := spec.milestones.map fun milestone =>
      { milestone with title := trim milestone.title, status := .draft, revisionsUsed := 0 }
    usageRights :=
      { spec.usageRights with
        license := trim spec.usageRights.license
        territories := normalizedSet spec.usageRights.territories
        channels := normalizedSet spec.usageRights.channels
        exclusivity := trim spec.usageRights.exclusivity }
    contractRevision := 1
    stateRevision := 1
    acceptedRevision := none
    status := .draft
    createdAt := now
    updatedAt := now }

/-- The fields that `contract_digest` hashes, in their order. -/
def contractFields (enc : MissionEncoding) (self : CreatorTask) : List String :=
  let award := self.hiringAward
  let rights := self.usageRights
  [self.id, self.tenantId, self.projectId, self.missionId, self.creatorId, award.hiringId,
    award.partnerId, award.applicationId, award.offerDigest, award.selectionEvidenceDigest,
    enc.toRfc3339 award.selectedAt, self.title, self.brief, toString self.contractRevision,
    toString self.revisionLimit, toString self.bounty.amountMinor, self.bounty.currency.code,
    enc.toRfc3339 self.dueAt] ++
  (self.acceptanceCriteria ++ (self.deliverableRequirements ++
  (self.milestones.flatMap (·.contractFields enc) ++
  (rights.license :: (rights.territories ++ (rights.channels ++
    [rights.exclusivity, toString rights.disclosureRequired,
      toString rights.sourceManifestRequired]))))))

def contractPreimage (enc : MissionEncoding) (self : CreatorTask) : List UInt8 :=
  (self.contractFields enc).flatMap hashField

/-- What the contract says.  Who selected the creator is not part of it. -/
def terms (self : CreatorTask) : CreatorTaskSpec CreatorMilestone :=
  { self.toCreatorTaskSpec with hiringAward := { self.hiringAward with selectedBy := "" } }

/-! ## The binding -/

variable {enc : MissionEncoding} {task task' : CreatorTask} {now now' : DateTime}
  {spec spec' : CreatorTaskSpec CreatorMilestoneSpec}

/-- What `create` makes sure of, as far as the digest needs it. -/
structure Created (task : CreatorTask) : Prop where
  award : ∃ now, task.hiringAward.validatesTaskScope task.tenantId task.projectId task.missionId
    task.creatorId task.bounty now = true
  bounty : 0 < task.bounty.amountMinor
  milestones : ∀ m ∈ task.milestones, m ∈ CreatorMilestone.drafts

lemma created (h : create spec now = .ok task) : task.Created := by
  obtain ⟨hv, hres⟩ := check_ok.mp h
  cases hres
  rw [validateSpec] at hv
  obtain ⟨haward, hv⟩ := check_ok.mp hv
  obtain ⟨-, hv⟩ := check_ok.mp hv
  obtain ⟨hpos, -⟩ := check_ok.mp hv
  simp only [rejectIf_ok, Bool.not_eq_false', Bool.or_eq_false_iff, any_eq_false,
    Money.isPositive, decide_eq_true_eq, Bool.not_eq_true', Bool.not_eq_false] at haward hpos
  refine ⟨⟨now, haward⟩, hpos.1, fun m hm => ?_⟩
  obtain ⟨milestone, hmem, rfl⟩ := mem_map.mp hm
  exact ⟨hpos.2 milestone hmem, rfl, rfl⟩

lemma prefixCode_contractFields (hrfc : Function.Injective enc.toRfc3339) :
    PrefixCode CreatorMilestone.drafts (·.contractFields enc) := by
  refine prefixCode_of_length (n := 5) ?_ fun _ _ => rfl
  rintro m ⟨hp, hs, hu⟩ m' ⟨hp', hs', hu'⟩ heq
  simp only [CreatorMilestone.contractFields, cons.injEq, and_true] at heq
  obtain ⟨hid, ht, ha, hc, hd⟩ := heq
  exact CreatorMilestone.ext hid ht (Money.eq_of_toString hp.le hp'.le ha hc) (hrfc hd)
    (hs.trans hs'.symm) (hu.trans hu'.symm)

/-- Contracts with the same bytes and the same numbers of elements have the same terms. -/
lemma terms_eq_of_counts_eq (hrfc : Function.Injective enc.toRfc3339) (hc : task.Created)
    (hc' : task'.Created) (hf : task.contractFields enc = task'.contractFields enc)
    (hcriteria : task.acceptanceCriteria.length = task'.acceptanceCriteria.length)
    (hrequirements : task.deliverableRequirements.length = task'.deliverableRequirements.length)
    (hmilestones : task.milestones.length = task'.milestones.length)
    (hterritories : task.usageRights.territories.length = task'.usageRights.territories.length) :
    task.terms = task'.terms ∧ task.contractRevision = task'.contractRevision := by
  have hlen : (task.milestones.flatMap (·.contractFields enc)).length =
      (task'.milestones.flatMap (·.contractFields enc)).length := by
    simp [CreatorMilestone.contractFields, length_flatMap, hmilestones]
  obtain ⟨hhead, hf⟩ := append_inj hf rfl
  obtain ⟨hcrit, hf⟩ := append_inj hf hcriteria
  obtain ⟨hreq, hf⟩ := append_inj hf hrequirements
  obtain ⟨hmil, hf⟩ := append_inj hf hlen
  obtain ⟨hlic, hf⟩ := cons.inj hf
  obtain ⟨hter, hf⟩ := append_inj hf hterritories
  obtain ⟨hcha, htail⟩ := append_inj' hf rfl
  simp only [cons.injEq, and_true] at hhead htail
  obtain ⟨hid, hten, hpro, hmis, hcre, hhir, hpar, happ, hoff, hev, hsel, hti, hbr, hrev, hlim,
    hmin, hcur, hdue⟩ := hhead
  have hb := Money.eq_of_toString hc.bounty.le hc'.bounty.le hmin hcur
  have haward : task.terms.hiringAward = task'.terms.hiringAward := by
    obtain ⟨_, ha⟩ := hc.award
    obtain ⟨_, ha'⟩ := hc'.award
    simp only [CreatorHiringAward.validatesTaskScope, Bool.and_eq_true, beq_iff_eq, hten, hpro,
      hmis, hcre, hb, and_assoc] at ha ha'
    obtain ⟨-, h₁, h₂, h₃, h₄, h₅, -⟩ := ha
    obtain ⟨-, h₁', h₂', h₃', h₄', h₅', -⟩ := ha'
    exact CreatorHiringAward.ext hhir (h₁.trans h₁'.symm) (h₂.trans h₂'.symm) (h₃.trans h₃'.symm)
      (h₄.trans h₄'.symm) hpar happ hoff (h₅.trans h₅'.symm) rfl hev (hrfc hsel)
  have hmil := (prefixCode_contractFields hrfc).flatMap_inj (fun _ _ => cons_ne_nil _ _)
    hc.milestones hc'.milestones hmil
  have hrights : task.usageRights = task'.usageRights := by
    have hbool : Function.Injective (toString : Bool → String) := by decide
    exact UsageRights.ext hlic hter hcha htail.1 (hbool htail.2.1) (hbool htail.2.2)
  exact ⟨CreatorTaskSpec.ext hid hten hpro hmis hcre haward hti hbr hcrit hreq hb hmil
    (toString_nat_injective hlim) hrights (hrfc hdue), toString_nat_injective hrev⟩

/-- Two contracts that are hashed alike have the same terms exactly when they have the same numbers
of criteria, requirements, milestones and territories. -/
theorem terms_eq_iff_of_contractPreimage_eq (hrfc : Function.Injective enc.toRfc3339)
    (hcreate : create spec now = .ok task) (hcreate' : create spec' now' = .ok task')
    (hfits : ∀ field ∈ task.contractFields enc, strLen field < 2 ^ 64)
    (hfits' : ∀ field ∈ task'.contractFields enc, strLen field < 2 ^ 64)
    (h : task.contractPreimage enc = task'.contractPreimage enc) :
    (task.terms = task'.terms ∧ task.contractRevision = task'.contractRevision) ↔
      task.acceptanceCriteria.length = task'.acceptanceCriteria.length ∧
      task.deliverableRequirements.length = task'.deliverableRequirements.length ∧
      task.milestones.length = task'.milestones.length ∧
      task.usageRights.territories.length = task'.usageRights.territories.length := by
  constructor
  · rintro ⟨hterms, -⟩
    have hlen := fun f : CreatorTaskSpec CreatorMilestone → ℕ => congrArg f hterms
    exact ⟨hlen (·.acceptanceCriteria.length), hlen (·.deliverableRequirements.length),
      hlen (·.milestones.length), hlen (·.usageRights.territories.length)⟩
  · rintro ⟨hcriteria, hrequirements, hmilestones, hterritories⟩
    exact terms_eq_of_counts_eq hrfc (created hcreate) (created hcreate')
      (prefixCode_hashField.flatMap_inj (fun value _ => hashField_ne_nil value) hfits hfits' h)
      hcriteria hrequirements hmilestones hterritories

/-- A task of one milestone. -/
def sampleSpec (criteria requirements : List String) : CreatorTaskSpec CreatorMilestoneSpec :=
  let bounty : Money := ⟨5, EffectSpec.sample.amount.currency⟩
  let digest := lowerHex 0
  { id := "task"
    tenantId := "t"
    projectId := "p"
    missionId := "m"
    creatorId := "c"
    hiringAward := ⟨"hiring", "t", "p", "m", "c", "partner", "application", digest, bounty, "owner",
      digest, 100⟩
    title := "title"
    brief := "brief"
    acceptanceCriteria := criteria
    deliverableRequirements := requirements
    bounty := bounty
    milestones := [⟨"first", "all", bounty, 105⟩]
    revisionLimit := 1
    usageRights := ⟨"license", ["here"], ["mail"], "none", true, true⟩
    dueAt := 109 }

/-- Blanks around a criterion are not part of the terms. -/
theorem terms_eq_sample : ∃ task task',
    create (sampleSpec ["a"] ["b"]) 101 = .ok task ∧
      create (sampleSpec [" a"] ["b"]) 102 = .ok task' ∧
      task.terms = task'.terms := by
  obtain ⟨task, hc⟩ : ∃ task, create (sampleSpec ["a"] ["b"]) 101 = .ok task := ⟨_, rfl⟩
  obtain ⟨task', hc'⟩ : ∃ task, create (sampleSpec [" a"] ["b"]) 102 = .ok task := ⟨_, rfl⟩
  refine ⟨task, task', hc, hc', ((terms_eq_iff_of_contractPreimage_eq
    MissionEncoding.toRfc3339_nanoseconds_injective hc hc' ?_ ?_ ?_).mpr ?_).1⟩ <;>
    cases hc <;> cases hc'
  · decide +kernel
  · decide +kernel
  · rfl
  · exact ⟨rfl, rfl, rfl, rfl⟩

/-- The last criterion of one contract is the first requirement of another. -/
theorem criterion_read_as_requirement : ∃ task task',
    create (sampleSpec ["a", "b"] ["c"]) 101 = .ok task ∧
      create (sampleSpec ["a"] ["b", "c"]) 101 = .ok task' ∧
      task.contractPreimage .nanoseconds = task'.contractPreimage .nanoseconds ∧
      task.acceptanceCriteria ≠ task'.acceptanceCriteria :=
  ⟨_, _, rfl, rfl, rfl, by decide⟩

end CreatorTask

end Hartevo
