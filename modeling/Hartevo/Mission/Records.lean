import Hartevo.Mission.Step

/-!
# What a command does to the records of a Mission

The records of a Mission are its effects, tasks, evidence and work products.  `RecordsStep` says
what one command can do to them: append to one of the lists, revise a work product, move one effect
along, or leave them alone.  `EffectMove` lists the moves of an effect, each with the command that
makes it and what the command checked.  `records_step` proves that there is nothing else, whether
the command succeeds or fails; every statement about the records in later modules is a case
analysis over it.
-/

namespace Hartevo

open Command List

/-! ## Moves of an effect -/

inductive EffectMove (enc : MissionEncoding) : MissionCommand → Effect → Effect → Prop
  | decided {effectId : EffectId} {approval : Approval} {e : Effect}
    (hstatus : e.status = .proposed) (hscope : approval.scopeDigest = e.approvalDigest enc)
    (hnamed : isBlank approval.id = false) (hpermission : isSha256 approval.permissionDigest = true)
    (hwindow : approval.decidedAt < approval.validUntil)
    (huntil : approval.validUntil ≤ e.expiresAt) :
    EffectMove enc (.approveEffect effectId approval) e
      { e with
        status := if approval.decision == .rejected then .rejected else .approved
        approval := some approval }
  | cancelled {effectId : EffectId} {now : DateTime} {e : Effect}
    (hstatus : e.status = .proposed ∨ e.status = .approved) :
    EffectMove enc (.cancelEffect effectId now) e { e with status := .cancelled }
  | expired {effectId : EffectId} {now : DateTime} {e : Effect} {approval : Approval}
    (hstatus : e.status = .approved) (happroval : e.approval = some approval)
    (hlate : approval.validUntil ≤ now ∨ e.expiresAt ≤ now) :
    EffectMove enc (.beginEffect effectId now) e { e with status := .expired }
  | begun {effectId : EffectId} {now : DateTime} {e : Effect} {approval : Approval}
    (hstatus : e.status = .approved) (happroval : e.approval = some approval)
    (hscope : approval.scopeDigest = e.approvalDigest enc)
    (hvalid : now < approval.validUntil) (htime : now < e.expiresAt) :
    EffectMove enc (.beginEffect effectId now) e { e with status := .executing }
  | received {effectId : EffectId} {receipt : Receipt} {e : Effect}
    (hstatus : e.status = .executing) (hscope : validateReceiptScope enc e receipt = .ok ()) :
    EffectMove enc (.recordReceipt effectId receipt) e
      { e with receipt := some receipt, status := .receiptRecorded }
  | recovered {effectId : EffectId} {receipt : Receipt} {startedAt : DateTime} {e : Effect}
    {approval : Approval}
    (hstatus : e.status = .approved ∨ e.status = .executing ∨ e.status = .verificationRequired)
    (happroval : e.approval = some approval)
    (hstart : durableExecutionStartIsValid enc e approval startedAt = true)
    (haccepted : startedAt ≤ receipt.acceptedAt)
    (hscope : validateReceiptScope enc e receipt = .ok ()) :
    EffectMove enc (.reconcileDurableReceipt effectId receipt startedAt) e
      { e with receipt := some receipt, status := .receiptRecorded }
  | reconciled {effectId : EffectId} {durableState : DurableProviderState}
    {startedAt recordedAt : DateTime} {e : Effect} {approval : Approval}
    (hallowed : durableState.transitionAllowed e.status = true)
    (hmoved : e.status ≠ durableState.target) (happroval : e.approval = some approval)
    (hstart : durableExecutionStartIsValid enc e approval startedAt = true)
    (hrecorded : startedAt ≤ recordedAt) :
    EffectMove enc
      (.reconcileDurableProviderState effectId durableState startedAt recordedAt) e
      { e with status := durableState.target }
  | uncertain {effectId : EffectId} {now : DateTime} {e : Effect}
    (hstatus : e.status = .executing ∨ e.status = .receiptRecorded) :
    EffectMove enc (.markEffectUncertain effectId now) e
      { e with status := .verificationRequired }
  | failed {effectId : EffectId} {now : DateTime} {e : Effect} (hstatus : e.status = .executing) :
    EffectMove enc (.markEffectFailed effectId now) e { e with status := .failed }
  | verified {effectId : EffectId} {verification : Verification} {e : Effect} {receipt : Receipt}
    (hstatus : e.status = .receiptRecorded ∨ e.status = .verificationRequired)
    (hreceipt : e.receipt = some receipt) (hid : receipt.id = verification.receiptId)
    (hverifier : isBlank verification.verifier = false)
    (hindependent : verification.independent = true)
    (hdigest : isSha256 verification.evidenceDigest = true)
    (hobserved : receipt.acceptedAt ≤ verification.observedAt) :
    EffectMove enc (.recordVerification effectId verification) e
      { e with
        status := verification.status.effectStatus
        verification := some verification }

namespace EffectMove

variable {enc : MissionEncoding} {cmd : MissionCommand} {e e' : Effect}

lemma id_eq (h : EffectMove enc cmd e e') : e'.id = e.id := by
  cases h <;> rfl

lemma idempotencyKey_eq (h : EffectMove enc cmd e e') : e'.idempotencyKey = e.idempotencyKey := by
  cases h <;> rfl

lemma isPending (h : EffectMove enc cmd e e') : e.status.isPending = true := by
  cases h with
  | decided hs | expired hs | begun hs | received hs | failed hs => rw [hs]; rfl
  | cancelled hs | uncertain hs | verified hs => rcases hs with h | h <;> rw [h] <;> rfl
  | recovered hs => rcases hs with h | h | h <;> rw [h] <;> rfl
  | @reconciled _ durableState _ _ _ _ ha hm =>
    revert ha hm
    cases durableState <;> cases e.status <;> decide

lemma status_ne (h : EffectMove enc cmd e e') (ho : ∀ eid vf, cmd ≠ .recordVerification eid vf) :
    e'.status ≠ e.status := by
  cases h with
  | @decided _ approval _ hs =>
    cases approval.decision <;> simp [hs]
  | cancelled hs | uncertain hs => rcases hs with h | h <;> simp [h]
  | expired hs | begun hs | received hs | failed hs => simp [hs]
  | recovered hs => rcases hs with h | h | h <;> simp [h]
  | reconciled _ hm => exact hm.symm
  | verified => exact absurd rfl (ho _ _)

end EffectMove

namespace Mission

variable {enc : MissionEncoding} {m : Mission} {eid : EffectId} {e' : Effect} {apr : Approval}
  {rc : Receipt} {sa decidedAt vu ra : DateTime} {r : Except MissionError Unit}
  {cmd : MissionCommand}

/-! ## What the checks of the effect commands let through -/

/-- The command moves the first effect with the given id, and `e'` is what it writes. -/
def Moves (enc : MissionEncoding) (m : Mission) (command : MissionCommand)
    (effectId : EffectId) (e' : Effect) : Prop :=
  ∃ e, m.effects.find? (·.id == effectId) = some e ∧ EffectMove enc command e e'

lemma Moves.id_eq (h : m.Moves enc cmd eid e') : e'.id = eid := by
  obtain ⟨e, hf, hm⟩ := h
  have hs := find?_some hf
  rw [hm.id_eq]
  exact beq_iff_eq.mp hs

lemma Moves.exists_found (h : m.Moves enc cmd eid e') :
    ∃ e, m.effects.find? (·.id == e'.id) = some e ∧ EffectMove enc cmd e e' := by
  rw [h.id_eq]
  exact h

lemma requireStage_ok {expected : List MissionStage} {u : Unit} :
    m.requireStage expected = .ok u ↔ m.stage ∈ expected := by
  simp [requireStage]

lemma isTerminal_ne_true_of_requireStage {expected : List MissionStage} {u : Unit}
    (h : m.requireStage expected = .ok u) (ho : expected.any (·.isTerminal) = false) :
    m.stage.isTerminal ≠ true :=
  any_eq_false.mp ho _ (requireStage_ok.mp h)

lemma effect_ok {e : Effect} : m.effect eid = .ok e ↔ m.effects.find? (·.id == eid) = some e := by
  rw [effect, okOr_ok]

lemma approvalValidUntil_bounds {e : Effect} (h : m.approvalValidUntil eid decidedAt = .ok vu)
    (hf : m.effects.find? (·.id == eid) = some e) : decidedAt < vu ∧ vu ≤ e.expiresAt := by
  simp only [approvalValidUntil, bind_ok, passed, effect_ok] at h
  obtain ⟨e₂, hf₂, -, -, deadline, -, -, ⟨-, hl⟩, hres⟩ := h
  obtain rfl := Option.mem_unique hf hf₂
  cases hres
  refine ⟨not_le.mp hl, ?_⟩
  exact (min_le_left _ _).trans (min_le_right _ _)

lemma moves_of_checkApproveEffect (h : m.checkApproveEffect enc eid apr = .ok e') :
    m.Moves enc (.approveEffect eid apr) eid e' := by
  simp only [checkApproveEffect, bind_ok, passed, effect_ok] at h
  obtain ⟨-, -, until_, hu, e, hf, -, hst, -, hs, -, ⟨⟨⟨hn, hp⟩, -⟩, rfl⟩, hres⟩ := h
  cases hres
  obtain ⟨hw, he⟩ := approvalValidUntil_bounds hu hf
  exact ⟨e, hf, .decided hst hs hn hp hw he⟩

lemma moves_of_checkCancelEffect (enc : MissionEncoding) (now : DateTime)
    (h : m.checkCancelEffect eid = .ok e') : m.Moves enc (.cancelEffect eid now) eid e' := by
  simp only [checkCancelEffect, bind_ok, passed, effect_ok, Bool.or_eq_true, beq_iff_eq] at h
  obtain ⟨-, -, e, hf, -, hs, hres⟩ := h
  cases hres
  exact ⟨e, hf, .cancelled hs⟩

lemma checkBeginEffect_ok {e : Effect} (h : m.checkBeginEffect enc eid = .ok (e, apr)) :
    m.effects.find? (·.id == eid) = some e ∧ e.status = .approved ∧
      e.approval = some apr ∧ apr.scopeDigest = e.approvalDigest enc := by
  simp only [checkBeginEffect, bind_ok, passed, effect_ok, okOr_ok] at h
  obtain ⟨-, -, e, hf, -, hst, apr, ha, -, hs, hres⟩ := h
  cases hres
  exact ⟨hf, hst, ha, hs⟩

lemma moves_of_checkRecordReceipt (h : m.checkRecordReceipt enc eid rc = .ok e') :
    m.Moves enc (.recordReceipt eid rc) eid e' := by
  simp only [checkRecordReceipt, bind_ok, passed, effect_ok] at h
  obtain ⟨-, -, e, hf, -, hst, ⟨⟩, hs, hres⟩ := h
  cases hres
  exact ⟨e, hf, .received hst hs⟩

lemma moves_of_checkReconcileDurableReceipt
    (h : m.checkReconcileDurableReceipt enc eid rc sa = .ok (some e')) :
    m.Moves enc (.reconcileDurableReceipt eid rc sa) eid e' := by
  simp only [checkReconcileDurableReceipt, bind_ok, passed, effect_ok, okOr_ok] at h
  obtain ⟨-, -, e, hf, -, hsta, apr, ha, -, ⟨hst, hacc⟩, ⟨⟩, hs, -, -, hres⟩ := h
  by_cases hr : (e.status == .receiptRecorded) = true
  · rw [if_pos hr] at hres
    cases hres
  · rw [if_neg hr] at hres
    cases hres
    have hsrc : e.status = .approved ∨ e.status = .executing ∨
        e.status = .verificationRequired := by
      revert hsta hr
      cases e.status <;> decide
    exact ⟨e, hf, .recovered hsrc ha hst hacc hs⟩

lemma moves_of_checkReconcileDurableProviderState {durableState : DurableProviderState}
    (h : m.checkReconcileDurableProviderState enc eid durableState sa ra =
      .ok (some e')) :
    m.Moves enc (.reconcileDurableProviderState eid durableState sa ra)
      eid e' := by
  simp only [checkReconcileDurableProviderState, bind_ok, passed, effect_ok, okOr_ok] at h
  obtain ⟨-, -, e, hf, -, ha, apr, hap, -, ⟨hs, hre⟩, hres⟩ := h
  by_cases hr : e.status = durableState.target
  · rw [if_pos (by rw [hr, beq_self_eq_true])] at hres
    cases hres
  · rw [if_neg (by simpa using hr)] at hres
    cases hres
    exact ⟨e, hf, .reconciled ha hr hap hs hre⟩

lemma moves_of_checkMarkEffectUncertain (enc : MissionEncoding) (now : DateTime)
    (h : m.checkMarkEffectUncertain eid = .ok e') :
    m.Moves enc (.markEffectUncertain eid now) eid e' := by
  simp only [checkMarkEffectUncertain, bind_ok, passed, effect_ok, Bool.or_eq_true, beq_iff_eq] at h
  obtain ⟨-, -, e, hf, -, hs, hres⟩ := h
  cases hres
  exact ⟨e, hf, .uncertain hs⟩

lemma moves_of_checkMarkEffectFailed (enc : MissionEncoding) (now : DateTime)
    (h : m.checkMarkEffectFailed eid = .ok e') :
    m.Moves enc (.markEffectFailed eid now) eid e' := by
  simp only [checkMarkEffectFailed, bind_ok, passed, effect_ok] at h
  obtain ⟨-, -, e, hf, -, hs, hres⟩ := h
  cases hres
  exact ⟨e, hf, .failed hs⟩

lemma moves_of_checkRecordVerification {vf : Verification} (enc : MissionEncoding)
    (h : m.checkRecordVerification eid vf = .ok e') :
    m.Moves enc (.recordVerification eid vf) eid e' := by
  simp only [checkRecordVerification, bind_ok, passed, effect_ok, okOr_ok, Bool.or_eq_true,
    beq_iff_eq] at h
  obtain ⟨-, -, e, hf, -, hs, rc, hr, -, ⟨⟨⟨⟨hid, hv⟩, hi⟩, hd⟩, ho⟩, hres⟩ := h
  cases hres
  exact ⟨e, hf, .verified hs hr hid hv hi hd ho⟩

/-! ## Commands that leave the records alone -/

structure Scope where
  tenantId : TenantId
  projectId : ProjectId
  missionId : MissionId
  contract : OperatingContract

/-- The records of a Mission, in its scope, and whether it is a Catalog one.  Of a task only the id
is one: its status follows the Mission. -/
structure Records where
  scope : Scope
  isCatalog : Bool
  effects : List Effect
  taskIds : List TaskId
  evidence : List Evidence
  workProducts : List WorkProduct

def scope (self : Mission) : Scope where
  tenantId := self.tenantId
  projectId := self.projectId
  missionId := self.id
  contract := self.contract

def records (self : Mission) : Records where
  scope := self.scope
  isCatalog := self.definition.isSome
  effects := self.effects
  taskIds := self.tasks.map (·.id)
  evidence := self.evidence
  workProducts := self.workProducts

lemma map_id_of_status (tasks : List Task) (f : Task → Task) (hf : ∀ task, (f task).id = task.id) :
    (tasks.map f).map (·.id) = tasks.map (·.id) := by
  rw [map_map]
  exact map_congr_left fun task _ => hf task

lemma keeps_records_onDefinition (cmd : Command MissionDefinition MissionError Unit) :
    Keeps records (onDefinition cmd) := by
  refine Keeps.focusSome fun d self hc => ?_
  simp only [records, scope, hc, Option.isSome_some]

lemma records_writeCheckpoint (c : MissionCheckpoint) (self : Mission) :
    (writeCheckpoint c self).records = self.records := by
  simp only [records, scope, writeCheckpoint, Option.isSome_map]

lemma keeps_records_setCatalogCheckpointStatus (st : MissionCheckpointStatus)
    (block : Option MissionBlock) : Keeps records (setCatalogCheckpointStatus st block) :=
  keeps_records_onDefinition _

/-- The active checkpoint follows what happens to the Mission. -/
lemma keeps_records_follow {write : Mission → Mission} {st : MissionCheckpointStatus}
    {block : Option MissionBlock} (hw : ∀ self, (write self).records = self.records) :
    Keeps records (do setCatalogCheckpointStatus st block; modify write) :=
  Keeps.bind (keeps_records_setCatalogCheckpointStatus _ _) fun _ => keeps_modify hw

lemma keeps_records_blockMission (reason : MissionBlock) (waitingStage : MissionStage) :
    Keeps records (blockMission reason waitingStage) :=
  Keeps.bind (keeps_check _) fun _ => keeps_records_follow fun _ => rfl

lemma keeps_records_resume (now : DateTime) : Keeps records (resume now) :=
  Keeps.bind (keeps_check _) fun _ => keeps_records_follow fun _ => rfl

lemma keeps_records_recordOutcome (oc : Outcome) : Keeps records (recordOutcome oc) := by
  refine Keeps.bind (keeps_check _) fun _ => keeps_modify fun self => ?_
  simp only [records, scope, touch]
  rw [map_id_of_status]
  intro task
  split <;> rfl

lemma keeps_records_terminate (disposition : MissionTerminalDisposition) (now : DateTime) :
    Keeps records (terminate disposition now) := by
  refine Keeps.bind (keeps_check _) fun _ => keeps_modify fun self => ?_
  simp only [records, scope, touch]
  rw [map_id_of_status]
  intro task
  rfl

/-- A checkpoint is written, and written again with its next revision. -/
lemma keeps_records_rewrite {c : MissionCheckpoint} {α : Type} {g : Mission → Except MissionError α}
    {write : α → Mission → Mission} (hw : ∀ a self, (write a self).records = self.records) :
    Keeps records (do
      modify (writeCheckpoint c)
      let a ← check g
      modify (write a)) :=
  Keeps.bind (keeps_modify (records_writeCheckpoint _)) fun _ =>
    Keeps.bind (keeps_check _) fun a => keeps_modify (hw a)

lemma keeps_records_beginCheckpointTransition (id : String) (now : DateTime) :
    Keeps records (beginCheckpointTransition id now) := by
  refine Keeps.bind (keeps_check _) fun cp => ?_
  refine Keeps.bind (keeps_modify (records_writeCheckpoint _)) fun _ => ?_
  refine Keeps.bind (keeps_check _) fun att => keeps_records_rewrite fun _ self => ?_
  exact records_writeCheckpoint _ self

lemma keeps_records_beginCheckpointVerification (id : String) (now : DateTime) :
    Keeps records (beginCheckpointVerification id now) :=
  Keeps.bind (keeps_check _) fun _ => keeps_records_rewrite fun _ => records_writeCheckpoint _

lemma keeps_records_blockCheckpoint (id : String) (reason : MissionBlock)
    (waitingStage : MissionStage) : Keeps records (blockCheckpoint id reason waitingStage) :=
  Keeps.bind (keeps_check _) fun _ => keeps_records_rewrite fun _ => records_writeCheckpoint _

lemma records_writeNext (completed : BTreeSet String) (next : MissionCheckpoint)
    (self : Mission) : (writeNext completed next self).records = self.records := by
  simp only [records, scope, writeNext, Option.isSome_map]

lemma keeps_records_advance (va : DateTime) : Keeps records (advance va) := by
  refine Keeps.bind (keeps_check _) fun d => ?_
  dsimp only
  split
  · exact keeps_modify fun _ => rfl
  · split
    · exact Keeps.bind (keeps_modify (records_writeNext _ _)) fun _ => keeps_throw _
    · exact keeps_modify fun self => records_writeNext _ _ self

lemma records_completeRouteTasks (route : Option MissionCheckpointRoute) (self : Mission) :
    (completeRouteTasks route self).records = self.records := by
  simp only [records, scope, completeRouteTasks]
  rw [map_id_of_status]
  intro task
  split <;> rfl

lemma keeps_records_completeCheckpointValidated (enc : MissionEncoding) (id : String)
    (cpl : MissionCheckpointCompletion) :
    Keeps records (completeCheckpointValidated enc id cpl) := by
  refine Keeps.bind (keeps_check _) fun found => ?_
  refine Keeps.bind (keeps_modify (records_writeCheckpoint _)) fun _ => ?_
  refine Keeps.bind (keeps_check _) fun rev => ?_
  refine Keeps.bind (keeps_modify fun self => ?_) fun _ => keeps_records_advance _
  exact (records_completeRouteTasks _ _).trans (records_writeCheckpoint _ self)

lemma keeps_records_completeTerminal (enc : MissionEncoding) (id : String)
    (isTyped : Mission → Bool) (required : MissionError) (cpl : MissionCheckpointCompletion) :
    Keeps records (completeTerminal enc id isTyped required cpl) := by
  refine Keeps.onCopy (Keeps.bind (keeps_records_completeCheckpointValidated _ _ _) fun _ => ?_)
  exact Keeps.bind (keeps_check _) fun _ => keeps_records_terminate _ _

lemma keeps_records_skipVm11CandidateLearning : Keeps records skipVm11CandidateLearning :=
  Keeps.bind (keeps_check _) fun _ => keeps_records_rewrite fun _ => records_writeCheckpoint _

lemma keeps_records_completeVm11NextContractResolution (enc : MissionEncoding)
    (resolution : OutcomeReviewNextContractResolution) (cpl : MissionCheckpointCompletion) :
    Keeps records (completeVm11NextContractResolution enc resolution cpl) := by
  refine Keeps.bind (keeps_check _) fun _ => Keeps.onCopy ?_
  refine Keeps.bind (keeps_records_completeCheckpointValidated _ _ _) fun _ => ?_
  split
  · refine Keeps.bind (keeps_check _) fun _ => ?_
    exact Keeps.bind keeps_records_skipVm11CandidateLearning fun _ => keeps_records_terminate _ _
  · exact keeps_check _

lemma keeps_records_enterStage (stage : MissionStage) (st : MissionCheckpointStatus)
    (now : DateTime) : Keeps records (enterStage stage st now) :=
  Keeps.bind (keeps_modify fun _ => rfl) fun _ => keeps_records_follow fun _ => rfl

lemma keeps_records_enterBlocked (reason : MissionBlock) : Keeps records (enterBlocked reason) :=
  Keeps.bind (keeps_modify fun _ => rfl) fun _ => keeps_records_follow fun _ => rfl

lemma keeps_records_afterDecision (now : DateTime) : Keeps records (afterDecision now) := by
  refine Keeps.bind (keeps_modify fun _ => rfl) fun _ => ?_
  refine Keeps.bind (Keeps.branch ?_ (keeps_pure ())) fun _ => keeps_modify fun _ => rfl
  exact keeps_records_follow fun _ => rfl

lemma keeps_records_followProposal (spec : EffectSpec) (now : DateTime) :
    Keeps records (followProposal spec now) := by
  refine Keeps.bind (Keeps.branch ?_ (keeps_pure ())) fun _ => ?_
  · exact keeps_records_follow fun _ => rfl
  · exact Keeps.bind (keeps_modify fun _ => rfl) fun _ => keeps_pure _

lemma keeps_records_continueAfterVerifiedEffect (eid : EffectId) (now : DateTime) :
    Keeps records (continueAfterVerifiedEffect eid now) :=
  Keeps.bind (keeps_check _) fun _ => keeps_records_enterStage _ _ _

/-! ## What a command can do to the records -/

/-- The commands that append to the records when they succeed. -/
def appends : MissionCommand → Bool
  | .startResearch .. | .startScheduledCycle .. | .beginCheckpointWithTask .. | .recordEvidence ..
  | .recordWorkProduct .. | .proposeEffect .. => true
  | _ => false

section

variable (enc : MissionEncoding) (m : Mission) (r : Except MissionError Unit)

/-- What a command with the given outcome does to the records of a Mission. -/
inductive RecordsStep : MissionCommand → Records → Prop
  | kept {command : MissionCommand}
    (hkept : r = .ok () → appends command = false) : RecordsStep command m.records
  | researchStarted {tasks : List Task} {now : DateTime} :
    RecordsStep (.startResearch tasks now)
      { m.records with taskIds := m.records.taskIds ++ tasks.map (·.id) }
  | cycleStarted {cycle : ℕ} {tasks : List Task} {now : DateTime} :
    RecordsStep (.startScheduledCycle cycle tasks now)
      { m.records with taskIds := m.records.taskIds ++ tasks.map (·.id) }
  | taskBegun {checkpointId : String} {task : Task} {now : DateTime}
    (hfresh : task.id ∉ m.records.taskIds) :
    RecordsStep (.beginCheckpointWithTask checkpointId task now)
      { m.records with taskIds := m.records.taskIds ++ [task.id] }
  | evidenceRecorded {evidence : Evidence} {now : DateTime}
    (hfresh : ∀ known ∈ m.evidence, known.id ≠ evidence.id) :
    RecordsStep (.recordEvidence evidence now)
      { m.records with evidence := m.evidence ++ [evidence] }
  | workProductRecorded {workProduct : WorkProduct} {now : DateTime}
    (hfresh : ∀ known ∈ m.workProducts, known.id ≠ workProduct.id) :
    RecordsStep (.recordWorkProduct workProduct now)
      { m.records with
        workProducts := m.workProducts ++ [{ workProduct with status := .readyForReview }] }
  | workProductRevised {workProduct previous : WorkProduct} {now : DateTime}
    (hfound : m.workProducts.find? (·.id == workProduct.id) = some previous) :
    RecordsStep (.reviseWorkProduct workProduct now)
      { m.records with
        workProducts := replaceFirst (·.id == workProduct.id) workProduct m.workProducts }
  | effectProposed {spec : EffectSpec} {now : DateTime}
    (hcheck : m.checkProposeEffect spec now = .ok ()) :
    RecordsStep (.proposeEffect spec now)
      { m.records with effects := m.effects ++ [m.proposedEffect spec] }
  | effectMoved {command : MissionCommand} {e e' : Effect}
    (hfound : m.effects.find? (·.id == e'.id) = some e) (hmove : EffectMove enc command e e') :
    RecordsStep command
      { m.records with effects := replaceFirst (·.id == e'.id) e' m.effects }

end

/-- What the command does to the records of the Mission is one of these steps. -/
def Records.StepsBy (enc : MissionEncoding) (m : Mission) (command : MissionCommand) : Prop :=
  RecordsStep enc m (m.step enc command).1 command (m.step enc command).2.records

lemma recordsStep_of_keeps (hk : Keeps records (cmd.toCommand enc)) (hke : appends cmd = false) :
    Records.StepsBy enc m cmd := by
  have hs : (m.step enc cmd).2.records = m.records := hk m
  rw [Records.StepsBy, hs]
  exact .kept fun _ => hke

/-- A command that starts with its checks does nothing when they fail. -/
lemma recordsStep_of_check {α : Type}
    {g : Mission → Except MissionError α} {k : α → Command Mission MissionError Unit}
    (hcmd : cmd.toCommand enc = (check g >>= k)) (hok : ∀ a, g m = .ok a →
      RecordsStep enc m ((k a).exec m).1 cmd ((k a).exec m).2.records) :
    Records.StepsBy enc m cmd := by
  have hstep : m.step enc cmd = (check g >>= k).exec m := by rw [step, hcmd]
  cases hg : g m with
  | error =>
    rw [Records.StepsBy, hstep, exec_check_bind_of_error hg]
    exact .kept fun hs => by cases hs
  | ok a =>
    rw [Records.StepsBy, hstep, exec_check_bind_of_ok hg]
    exact hok a hg

lemma RecordsStep.of_moves {after : Mission} (hm : m.Moves enc cmd eid e')
    (hw : after.records = (writeEffect e' m).records) : RecordsStep enc m r cmd after.records := by
  obtain ⟨e, hf, hmo⟩ := hm.exists_found
  rw [hw]
  exact .effectMoved hf hmo

lemma RecordsStep.of_bind {α : Type} {x : Command Mission MissionError α} {g : Mission → Mission}
    (hx : Keeps records x) (hw : ∀ before, before.records = m.records →
      RecordsStep enc m (.ok ()) cmd (g before).records) :
    RecordsStep enc m ((x >>= fun _ => modify g).exec m).1 cmd
      ((x >>= fun _ => modify g).exec m).2.records := by
  have hs := hx m
  rcases hf : x.exec m with ⟨_ | _, before⟩
  · rw [hf] at hs
    rw [exec_bind_of_error hf, hs]
    exact .kept fun hsu => by cases hsu
  · rw [hf] at hs
    rw [exec_bind_of_ok hf, exec_modify]
    exact hw before hs

/-- A dispatch moves the effect, also when it is too late. -/
lemma recordsStep_beginEffect (eid : EffectId) (now : DateTime) :
    Records.StepsBy enc m (.beginEffect eid now) := by
  refine recordsStep_of_check rfl fun found hc => ?_
  obtain ⟨e, apr⟩ := found
  obtain ⟨hf, hs, ha, hsc⟩ := checkBeginEffect_ok hc
  by_cases hv : apr.validUntil ≤ now
  · have hm : m.Moves enc (.beginEffect eid now) eid { e with status := .expired } :=
      ⟨e, hf, .expired hs ha (Or.inl hv)⟩
    simp only [hv, if_true, exec_modify_bind, exec_throw]
    exact RecordsStep.of_moves hm rfl
  by_cases ht : e.expiresAt ≤ now
  · have hm : m.Moves enc (.beginEffect eid now) eid { e with status := .expired } :=
      ⟨e, hf, .expired hs ha (Or.inr ht)⟩
    simp only [hv, ht, if_false, if_true, exec_modify_bind, exec_throw]
    exact RecordsStep.of_moves hm rfl
  · have hm : m.Moves enc (.beginEffect eid now) eid
        { e with status := .executing } :=
      ⟨e, hf, .begun hs ha hsc (not_le.mp hv) (not_le.mp ht)⟩
    simp only [hv, ht, if_false, exec_modify]
    exact RecordsStep.of_moves hm rfl

/-- A proposal is recorded, also when the active checkpoint does not follow. -/
lemma recordsStep_proposeEffect (spec : EffectSpec) (now : DateTime) :
    Records.StepsBy enc m (.proposeEffect spec now) := by
  have hcmd : (MissionCommand.proposeEffect spec now).toCommand enc =
      (check (·.checkProposeEffect spec now) >>= fun _ =>
        (modify (pushEffect spec) >>= fun _ => followProposal spec now) >>= fun _ => pure ()) :=
    bind_assoc _ _ _
  refine recordsStep_of_check hcmd fun _ hc => ?_
  have hp := Keeps.bind (keeps_records_followProposal spec now) (fun _ => keeps_pure ())
    (pushEffect spec m)
  rw [bind_assoc, exec_modify_bind, hp]
  exact .effectProposed hc

lemma recordsStep_recordEvidence (evidence : Evidence) (now : DateTime) :
    Records.StepsBy enc m (.recordEvidence evidence now) := by
  refine recordsStep_of_check rfl fun _ hc => ?_
  obtain ⟨-, hc⟩ := check_ok.mp hc
  obtain ⟨hf, -⟩ := check_ok.mp hc
  refine .evidenceRecorded fun known hk => ?_
  rw [rejectIf_ok, any_eq_false] at hf
  simpa using hf known hk

lemma recordsStep_recordWorkProduct (workProduct : WorkProduct) (now : DateTime) :
    Records.StepsBy enc m (.recordWorkProduct workProduct now) := by
  refine recordsStep_of_check rfl fun _ hc => ?_
  simp only [checkRecordWorkProduct, check_ok, rejectIf_ok] at hc
  obtain ⟨-, -, -, hf, -⟩ := hc
  refine .workProductRecorded fun known hk => ?_
  rw [any_eq_false] at hf
  simpa using hf known hk

/-- The task of a checkpoint is recorded once the checkpoint has begun. -/
lemma recordsStep_beginCheckpointWithTask (id : String) (task : Task) (now : DateTime) :
    Records.StepsBy enc m (.beginCheckpointWithTask id task now) := by
  refine recordsStep_of_check rfl fun _ hc => ?_
  simp only [checkCheckpointTask, bind_ok, passed, any_eq_false] at hc
  obtain ⟨route, -, -, hf⟩ := hc
  refine RecordsStep.of_bind (keeps_records_beginCheckpointTransition _ _) fun before hb => ?_
  have ha : { before with tasks := before.tasks ++ [task] }.records =
      { m.records with taskIds := m.records.taskIds ++ [task.id] } := by
    rw [← hb]
    simp [records, scope]
  rw [ha]
  refine .taskBegun fun hmem => ?_
  obtain ⟨known, hk, hid⟩ := mem_map.mp hmem
  exact hf known hk (beq_iff_eq.mpr hid)

lemma isSome_of_checkStartResearch {now : DateTime} {found : Option MissionDefinition}
    {tasks : List Task}
    (h : m.checkStartResearch tasks now = .ok found) : found.isSome = m.definition.isSome := by
  simp only [checkStartResearch, check_ok] at h
  obtain ⟨-, -, -, h⟩ := h
  cases hdef : m.definition with
  | none =>
    rw [hdef] at h
    cases h
    rfl
  | some d =>
    rw [hdef] at h
    dsimp only at h
    cases hs : d.startFirstCheckpoint now with
    | error => rw [hs] at h; cases h
    | ok => rw [hs] at h; cases h; rfl

lemma recordsStep_startResearch (tasks : List Task) (now : DateTime) :
    Records.StepsBy enc m (.startResearch tasks now) := by
  refine recordsStep_of_check rfl fun d hc => ?_
  rw [exec_modify]
  have hca := isSome_of_checkStartResearch hc
  have ha : (startCycle tasks now { m with definition := d }).records =
      { m.records with taskIds := m.records.taskIds ++ tasks.map (·.id) } := by
    simp [records, scope, startCycle, touch, hca]
  rw [ha]
  exact .researchStarted

lemma recordsStep_startScheduledCycle (cycle : ℕ) (tasks : List Task) (now : DateTime) :
    Records.StepsBy enc m (.startScheduledCycle cycle tasks now) := by
  refine recordsStep_of_check rfl fun _ _ => ?_
  refine RecordsStep.of_bind (keeps_records_onDefinition _) fun before hb => ?_
  have ha : (startCycle tasks now before).records =
      { m.records with taskIds := m.records.taskIds ++ tasks.map (·.id) } := by
    rw [← hb]
    simp [records, scope, startCycle, touch]
  rw [ha]
  exact .cycleStarted

/-- What one command does to the records of a Mission. -/
lemma records_step (enc : MissionEncoding) (m : Mission) (cmd : MissionCommand) :
    RecordsStep enc m (m.step enc cmd).1 cmd (m.step enc cmd).2.records := by
  change Records.StepsBy enc m cmd
  cases cmd with
  | startResearch tasks now => exact recordsStep_startResearch tasks now
  | startScheduledCycle cycle tasks now => exact recordsStep_startScheduledCycle cycle tasks now
  | recordEvidence evidence now => exact recordsStep_recordEvidence evidence now
  | recordWorkProduct workProduct now => exact recordsStep_recordWorkProduct workProduct now
  | reviseWorkProduct =>
    refine recordsStep_of_check rfl fun _ hc => ?_
    simp only [checkReviseWorkProduct, bind_ok, okOr_ok] at hc
    obtain ⟨-, -, previous, hfo, -⟩ := hc
    exact .workProductRevised hfo
  | beginCheckpoint =>
    refine recordsStep_of_keeps ?_ rfl
    exact Keeps.bind (keeps_check _) fun _ => keeps_records_beginCheckpointTransition _ _
  | beginCheckpointWithTask id task now => exact recordsStep_beginCheckpointWithTask id task now
  | beginCheckpointVerification =>
    exact recordsStep_of_keeps (keeps_records_beginCheckpointVerification _ _) rfl
  | completeCheckpoint =>
    refine recordsStep_of_keeps ?_ rfl
    exact Keeps.bind (keeps_check _) fun _ => keeps_records_completeCheckpointValidated _ _ _
  | completeVm04ChannelRebalanceTerminal | completeVm07ReplanOrTerminalTerminal
  | completeVm11CandidateLearningTerminal =>
    exact recordsStep_of_keeps (keeps_records_completeTerminal _ _ _ _ _) rfl
  | completeVm11NextContractResolution =>
    exact recordsStep_of_keeps (keeps_records_completeVm11NextContractResolution _ _ _) rfl
  | blockCheckpoint =>
    exact recordsStep_of_keeps (keeps_records_blockCheckpoint _ _ _) rfl
  | proposeEffect spec now => exact recordsStep_proposeEffect spec now
  | approveEffect =>
    refine recordsStep_of_check rfl fun e' hc => ?_
    exact RecordsStep.of_moves (moves_of_checkApproveEffect hc) (keeps_records_afterDecision _ _)
  | cancelEffect eid now =>
    refine recordsStep_of_check rfl fun e' hc => ?_
    exact RecordsStep.of_moves (moves_of_checkCancelEffect enc now hc)
      (keeps_records_afterDecision _ _)
  | beginEffect eid now => exact recordsStep_beginEffect eid now
  | recordReceipt =>
    refine recordsStep_of_check rfl fun e' hc => ?_
    exact RecordsStep.of_moves (moves_of_checkRecordReceipt hc) (keeps_records_enterStage _ _ _ _)
  | reconcileDurableReceipt =>
    refine recordsStep_of_check rfl fun found hc => ?_
    cases found with
    | none => exact .kept fun _ => rfl
    | some e' => exact RecordsStep.of_moves (moves_of_checkReconcileDurableReceipt hc) rfl
  | reconcileDurableProviderState eid durableState =>
    refine recordsStep_of_check rfl fun found hc => ?_
    cases found with
    | none => exact .kept fun _ => rfl
    | some e' =>
      refine RecordsStep.of_moves (moves_of_checkReconcileDurableProviderState hc) ?_
      cases durableState <;> rfl
  | markEffectUncertain eid now =>
    refine recordsStep_of_check rfl fun e' hc => ?_
    exact RecordsStep.of_moves (moves_of_checkMarkEffectUncertain enc now hc)
      (keeps_records_enterStage _ _ _ _)
  | markEffectFailed eid now =>
    refine recordsStep_of_check rfl fun e' hc => ?_
    exact RecordsStep.of_moves (moves_of_checkMarkEffectFailed enc now hc)
      (keeps_records_enterBlocked _ _)
  | recordVerification =>
    refine recordsStep_of_check rfl fun e' hc => ?_
    refine RecordsStep.of_moves (moves_of_checkRecordVerification enc hc) ?_
    rw [exec_modify_bind]
    exact Keeps.branch (keeps_records_enterBlocked _) (keeps_records_enterStage _ _ _)
      (writeEffect e' m)
  | continueAfterVerifiedEffect =>
    exact recordsStep_of_keeps (keeps_records_continueAfterVerifiedEffect _ _) rfl
  | recordOutcome => exact recordsStep_of_keeps (keeps_records_recordOutcome _) rfl
  | block => exact recordsStep_of_keeps (keeps_records_blockMission _ _) rfl
  | resume => exact recordsStep_of_keeps (keeps_records_resume _) rfl
  | terminate => exact recordsStep_of_keeps (keeps_records_terminate _ _) rfl

lemma RecordsStep.scope_eq {records : Records} (h : RecordsStep enc m r cmd records) :
    records.scope = m.scope ∧ records.isCatalog = m.definition.isSome := by
  cases h <;> exact ⟨rfl, rfl⟩

/-- No command writes the scope of a Mission. -/
lemma scope_step (enc : MissionEncoding) (m : Mission) (cmd : MissionCommand) :
    (m.step enc cmd).2.scope = m.scope :=
  (records_step enc m cmd).scope_eq.1

/-- No command makes a Catalog Mission, or an end to it. -/
lemma isCatalog_step (enc : MissionEncoding) (m : Mission) (cmd : MissionCommand) :
    (m.step enc cmd).2.definition.isSome = m.definition.isSome :=
  (records_step enc m cmd).scope_eq.2

end Mission

end Hartevo
