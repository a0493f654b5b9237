import Hartevo.MissionLoop.Model

/-!
# Validation of a Mission loop

`MissionLoop.validateFor` re-checks the whole aggregate against the Mission it belongs to.  It runs
before and after every command, and before every read-only decision.  `MissionLoop.validateFor_iff`
says what a loop that passes it looks like, entry by entry: the structures `PeerValid`,
`ClaimValid`, `TodoValid` and `LoopValid` name the conditions, so that a later proof picks the one
it needs.
-/

namespace Hartevo

def loopSchemaVersion : ℕ := 1
def loopHistoryLimit : ℕ := 32
def loopFrontierLimit : ℕ := 512
def loopPeerLimit : ℕ := 64

def LoopPolicy.validate (policy : LoopPolicy) : Except LoopError Unit :=
  rejectIf (isBlank policy.operatorId ||
    !(decide (1 ≤ policy.maxParallel) && decide (policy.maxParallel ≤ 64)) ||
    !(decide (1 ≤ policy.leaseSeconds) && decide (policy.leaseSeconds ≤ 900)) ||
    !(decide (1 ≤ policy.stallLimit) && decide (policy.stallLimit ≤ 100))) .invalidPolicy

namespace MissionLoop

def initial (mission : Mission) (policy : LoopPolicy) (now : DateTime) : MissionLoop where
  schemaVersion := loopSchemaVersion
  tenantId := mission.tenantId
  projectId := mission.projectId
  missionId := mission.id
  policy := policy
  revision := 1
  steeringGeneration := 1
  claimGeneration := 0
  paused := false
  spentSlots := 0
  noProgressStreak := 0
  peers := ∅
  todos := ∅
  gates := ∅
  acceptedEvidence := ∅
  recentRuns := []
  runSequence := 0
  acknowledgedNotices := ∅
  createdAt := now
  updatedAt := now

/-- A loop for a Mission that can still run. -/
def new (mission : Mission) (policy : LoopPolicy) (now : DateTime) :
    Except LoopError MissionLoop := do
  policy.validate
  rejectIf (mission.stage.isTerminal || !(mission.contract.validate now).isOk) .missionUnavailable
  return initial mission policy now

lemma new_ok {l : MissionLoop} {ms : Mission} {start : DateTime}
    {policy : LoopPolicy} (h : new ms policy start = .ok l) :
    policy.validate = .ok () ∧ l = initial ms policy start := by
  obtain ⟨hp, h⟩ := check_ok.mp h
  obtain ⟨-, h⟩ := check_ok.mp h
  cases h
  exact ⟨hp, rfl⟩

/-- The kinds of work that exist only within a Task of the Mission. -/
def needsTask : LoopWorkKind → Bool
  | .advancement | .monitor => true
  | .repair | .replan => false

def validateTodoSpec (self : MissionLoop) (todo : LoopTodoSpec) : Except LoopError Unit := do
  rejectIf (!token todo.id ||
    isBlank todo.title ||
    decide (strLen todo.title > 4096) ||
    !digest todo.workspaceDigest ||
    todo.capability.any (!token ·) ||
    todo.writeScopes.toList.any (!relativeScope ·) ||
    todo.requiredDecisions.toList.any (!token ·) ||
    todo.dependsOn.contains todo.id ||
    todo.dependsOn.toList.any (!self.todos.contains ·) ||
    todo.eligibleAgents.toList.any (!self.peers.contains ·) ||
    (todo.kind == .monitor) != todo.monitor.isSome ||
    (needsTask todo.kind && (todo.taskId.isNone || todo.capability.isNone)) ||
    todo.taskId.isSome != todo.capability.isSome) .invalidTodo
  rejectIf (todo.monitor.any fun monitor =>
    !digest monitor.targetDigest ||
    !(decide (1 ≤ monitor.intervalSeconds) && decide (monitor.intervalSeconds ≤ 2592000)) ||
    decide (monitor.expiresAt ≤ self.createdAt) ||
    !todo.writeScopes.isEmpty) .invalidTodo

def validateGate (self : MissionLoop) (gate : LoopUserGate) : Except LoopError Unit := do
  rejectIf (!token gate.id || isBlank gate.question || decide (strLen gate.question > 4096))
    .invalidGate
  match gate.scope with
  | .mission => .ok ()
  | .agent id => rejectIf (!self.peers.contains id) .invalidGate
  | .todo id => rejectIf (!self.todos.contains id) .invalidGate
  | .decision id => rejectIf (!token id) .invalidGate

/-- The conditions on the entry of a registered peer. -/
def validatePeer (id : String) (peer : LoopPeer) : Except LoopError Unit :=
  rejectIf (id != peer.id || !token id || !digest peer.workspaceDigest ||
    peer.capabilities.toList.any (!token ·)) .invalidState

/-- The conditions on the claim stored with the todo `id`. -/
def claimIsInvalid (self : MissionLoop) (id : String) (claim : LoopClaim) : Bool :=
  claim.todoId != id || !self.peers.contains claim.agentId || !digest claim.tokenDigest ||
    !digest claim.authorityDigest || claim.generation == 0 ||
    decide (claim.generation > self.claimGeneration) ||
    decide (claim.steeringGeneration > self.steeringGeneration) ||
    decide (claim.expiresAt ≤ claim.claimedAt)

/-- The conditions on the entry of a todo. -/
def validateTodo (self : MissionLoop) (id : String) (todo : LoopTodo) : Except LoopError Unit := do
  rejectIf (id != todo.spec.id) .invalidState
  self.validateTodoSpec todo.spec
  rejectIf ((todo.status == .claimed || todo.status == .uncertain) != todo.claim.isSome)
    .invalidState
  rejectIf (todo.executionStarted && todo.claim.isNone) .invalidState
  rejectIf (todo.claim.any (self.claimIsInvalid id)) .invalidState

def validateFor (self : MissionLoop) (mission : Mission) : Except LoopError Unit := do
  self.policy.validate
  rejectIf (self.schemaVersion != loopSchemaVersion ||
    self.revision == 0 ||
    self.steeringGeneration == 0 ||
    decide (self.updatedAt < self.createdAt) ||
    decide (self.todos.size > loopFrontierLimit) ||
    decide (self.gates.size > loopFrontierLimit) ||
    decide (self.peers.size > loopPeerLimit) ||
    decide (self.recentRuns.length > loopHistoryLimit) ||
    decide (self.acknowledgedNotices.size > self.peers.size) ||
    self.acknowledgedNotices.toList.any (!digest ·)) .invalidState
  rejectIf (self.tenantId != mission.tenantId || self.projectId != mission.projectId ||
    self.missionId != mission.id) .scopeMismatch
  self.peers.toList.forM fun entry => validatePeer entry.1 entry.2
  self.todos.toList.forM fun entry => self.validateTodo entry.1 entry.2
  self.gates.toList.forM fun entry => do
    rejectIf (entry.1 != entry.2.id) .invalidState
    self.validateGate entry.2

end MissionLoop

/-! ## What validation establishes -/

/-- A valid specification of a work item. -/
structure SpecValid (l : MissionLoop) (spec : LoopTodoSpec) : Prop where
  id_token : token spec.id = true
  title : isBlank spec.title = false ∧ strLen spec.title ≤ 4096
  workspace_digest : digest spec.workspaceDigest = true
  capability_token : spec.capability.any (!token ·) = false
  scopes_relative : ∀ scope ∈ spec.writeScopes, relativeScope scope = true
  decisions_token : ∀ decision ∈ spec.requiredDecisions, token decision = true
  self_notMem : spec.id ∉ spec.dependsOn
  dependsOn_mem : ∀ id ∈ spec.dependsOn, id ∈ l.todos
  eligible_mem : ∀ id ∈ spec.eligibleAgents, id ∈ l.peers
  monitor_iff : spec.kind = .monitor ↔ spec.monitor.isSome = true
  bound : MissionLoop.needsTask spec.kind = true →
    spec.taskId.isSome = true ∧ spec.capability.isSome = true
  task_iff : spec.taskId.isSome = spec.capability.isSome
  monitor : ∀ monitor, spec.monitor = some monitor →
    digest monitor.targetDigest = true ∧ 1 ≤ monitor.intervalSeconds ∧
      monitor.intervalSeconds ≤ 2592000 ∧ l.createdAt < monitor.expiresAt ∧
      spec.writeScopes.isEmpty = true

structure ClaimValid (l : MissionLoop) (id : String) (claim : LoopClaim) : Prop where
  todoId_eq : claim.todoId = id
  agent_mem : claim.agentId ∈ l.peers
  token_digest : digest claim.tokenDigest = true
  authority_digest : digest claim.authorityDigest = true
  generation_pos : claim.generation ≠ 0
  generation_le : claim.generation ≤ l.claimGeneration
  steering_le : claim.steeringGeneration ≤ l.steeringGeneration
  claimedAt_lt : claim.claimedAt < claim.expiresAt

/-- A valid work item. -/
structure TodoValid (l : MissionLoop) (id : String) (todo : LoopTodo) : Prop where
  id_eq : id = todo.spec.id
  spec : SpecValid l todo.spec
  status_iff : (todo.status = .claimed ∨ todo.status = .uncertain) ↔ todo.claim.isSome = true
  started : todo.executionStarted = true → todo.claim.isSome = true
  claim : ∀ c, todo.claim = some c → ClaimValid l id c

/-- The conditions on the header of a loop and on its peers, todos and gates. -/
structure LoopValid (l : MissionLoop) (mission : Mission) : Prop where
  policy : l.policy.validate = .ok ()
  schema : l.schemaVersion = loopSchemaVersion
  revision_pos : l.revision ≠ 0
  steering_pos : l.steeringGeneration ≠ 0
  created_le : l.createdAt ≤ l.updatedAt
  todos_size : l.todos.size ≤ loopFrontierLimit
  gates_size : l.gates.size ≤ loopFrontierLimit
  peers_size : l.peers.size ≤ loopPeerLimit
  runs_length : l.recentRuns.length ≤ loopHistoryLimit
  notices_size : l.acknowledgedNotices.size ≤ l.peers.size
  notices_digest : ∀ notice ∈ l.acknowledgedNotices, digest notice = true
  tenant_eq : l.tenantId = mission.tenantId
  project_eq : l.projectId = mission.projectId
  mission_eq : l.missionId = mission.id
  peers : ∀ (id : String) (peer : LoopPeer), l.peers[id]? = some peer →
    MissionLoop.validatePeer id peer = .ok ()
  todos : ∀ (id : String) (todo : LoopTodo), l.todos[id]? = some todo → TodoValid l id todo
  gates : ∀ (id : String) (gate : LoopUserGate), l.gates[id]? = some gate →
    id = gate.id ∧ l.validateGate gate = .ok ()

section TodoValid

variable {l : MissionLoop} {id : String} {td : LoopTodo}

lemma TodoValid.not_completed {c : LoopClaim} (hv : TodoValid l id td) (hc : td.claim = some c) :
    td.status ≠ .completed := by
  intro hd
  have := hv.status_iff.mpr (by simp [hc])
  simp [hd] at this

lemma TodoValid.unclaimed (hv : TodoValid l id td) (ho : td.status = .opened) :
    td.claim = none := by
  by_contra hc
  have := hv.status_iff.mpr (Option.isSome_iff_ne_none.mpr hc)
  simp [ho] at this

lemma TodoValid.isWork_of_monitor {monitor : LoopMonitor}
    (hv : TodoValid l id td) (hm : td.spec.monitor = some monitor) : td.isWork = false := by
  have hk := hv.spec.monitor_iff.mpr (by simp [hm])
  simp [LoopTodo.isWork, hk]

end TodoValid

namespace MissionLoop

lemma claimIsInvalid_eq_false_iff {l : MissionLoop} {claim : LoopClaim} {id : String} :
    l.claimIsInvalid id claim = false ↔ ClaimValid l id claim := by
  simp only [claimIsInvalid, passed, beq_eq_false_iff_ne, not_le, Std.ExtTreeMap.contains_iff_mem,
    and_assoc]
  constructor
  · rintro ⟨h1, h2, h3, h4, h5, h6, h7, h8⟩
    exact ⟨h1, h2, h3, h4, h5, h6, h7, h8⟩
  · rintro ⟨h1, h2, h3, h4, h5, h6, h7, h8⟩
    exact ⟨h1, h2, h3, h4, h5, h6, h7, h8⟩

lemma validateTodoSpec_iff {l : MissionLoop} {spec : LoopTodoSpec}
    : l.validateTodoSpec spec = .ok () ↔ SpecValid l spec := by
  have hm : (spec.monitor.any fun monitor =>
      !digest monitor.targetDigest ||
      !(decide (1 ≤ monitor.intervalSeconds) && decide (monitor.intervalSeconds ≤ 2592000)) ||
      decide (monitor.expiresAt ≤ l.createdAt) || !spec.writeScopes.isEmpty) = false ↔
      ∀ monitor, spec.monitor = some monitor →
        digest monitor.targetDigest = true ∧ 1 ≤ monitor.intervalSeconds ∧
          monitor.intervalSeconds ≤ 2592000 ∧ l.createdAt < monitor.expiresAt ∧
          spec.writeScopes.isEmpty = true := by
    cases spec.monitor <;> simp [and_assoc]
  have hk : (spec.kind == .monitor) = spec.monitor.isSome ↔
      (spec.kind = .monitor ↔ spec.monitor.isSome = true) := by
    rw [Bool.eq_iff_iff, beq_iff_eq]
  have hb : (needsTask spec.kind && (spec.taskId.isNone || spec.capability.isNone)) = false ↔
      (needsTask spec.kind = true → spec.taskId.isSome = true ∧ spec.capability.isSome = true) := by
    cases needsTask spec.kind <;> simp [Option.isSome_iff_ne_none]
  have hs : spec.dependsOn.contains spec.id = false ↔ spec.id ∉ spec.dependsOn := by
    rw [← Std.ExtTreeSet.contains_iff_mem, Bool.not_eq_true]
  simp only [validateTodoSpec, check_ok, passed, Std.ExtTreeSet.toList_any_eq_false_iff,
    Std.ExtTreeMap.contains_iff_mem, hm, hk, hb, hs, and_assoc]
  constructor
  · rintro ⟨h1, h2, h3, h4, h5, h6, h7, h8, h9, h10, h11, h12, h13, h14⟩
    exact ⟨h1, ⟨h2, h3⟩, h4, h5, h6, h7, h8, h9, h10, h11, h12, h13, h14⟩
  · rintro ⟨h1, ⟨h2, h3⟩, h4, h5, h6, h7, h8, h9, h10, h11, h12, h13, h14⟩
    exact ⟨h1, h2, h3, h4, h5, h6, h7, h8, h9, h10, h11, h12, h13, h14⟩

lemma validateTodo_iff {l : MissionLoop} {td : LoopTodo}
    {id : String} : l.validateTodo id td = .ok () ↔ TodoValid l id td := by
  simp only [validateTodo, check_ok, passed, validateTodoSpec_iff]
  constructor
  · rintro ⟨hid, hsp, hsta, hst, hcl⟩
    refine ⟨hid, hsp, ?_, ?_, ?_⟩
    · rw [← hsta]
      simp
    · intro h
      simpa [h] using hst
    · intro c hc
      rw [hc, Option.any_some] at hcl
      exact claimIsInvalid_eq_false_iff.mp hcl
  · rintro ⟨hid, hsp, hsta, hst, hcl⟩
    refine ⟨hid, hsp, ?_, ?_, ?_⟩
    · rw [Bool.eq_iff_iff, ← hsta]
      simp
    · cases hs : td.executionStarted with
      | false => rfl
      | true => simpa using hst hs
    · cases hc : td.claim with
      | none => rfl
      | some c => exact claimIsInvalid_eq_false_iff.mpr (hcl c hc)

/-- Validation succeeds exactly on the loops that satisfy `LoopValid`. -/
lemma validateFor_iff {l : MissionLoop} {mission : Mission} :
    l.validateFor mission = .ok () ↔ LoopValid l mission := by
  simp only [validateFor, check_ok, passed, forM_eq_ok_iff, beq_eq_false_iff_ne, Prod.forall,
    Std.ExtTreeMap.mem_toList_iff_getElem?_eq_some, validateTodo_iff, List.any_eq_false,
    Std.ExtTreeSet.mem_toList, Bool.not_eq_true', Bool.not_eq_false, and_assoc]
  constructor
  · rintro ⟨hp, h1, h2, h3, h4, h5, h6, h7, h8, h9, h10, h11, h12, h13, h14, h15, h16⟩
    exact ⟨hp, h1, h2, h3, h4, h5, h6, h7, h8, h9, h10, h11, h12, h13, h14, h15, h16⟩
  · rintro ⟨hp, h1, h2, h3, h4, h5, h6, h7, h8, h9, h10, h11, h12, h13, h14, h15, h16⟩
    exact ⟨hp, h1, h2, h3, h4, h5, h6, h7, h8, h9, h10, h11, h12, h13, h14, h15, h16⟩

end MissionLoop

end Hartevo
