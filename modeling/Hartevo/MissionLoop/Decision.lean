import Hartevo.MissionLoop.Validation

/-!
# Decisions and the checks of a claim

`MissionLoop.decision` is the read-only scheduler: it says which work item a peer may run now, or
why there is none and when to ask again.  Its precedence is fixed: a hard stop of the Mission, a
host in another workspace, a claim that the peer holds already, the limit on parallel claims, and
only then the open work items, in the order of their priority.

`MissionLoop.requireClaim` and `MissionLoop.requireExecution` are the checks that are repeated
before every use of a claim.

The results of this module say what the answers mean.  `Selectable` collects everything that holds
of a work item the scheduler selects (`MissionLoop.decision_selects`), and `ClaimHeld` everything
that holds of a claim that passes its check (`MissionLoop.requireClaim_iff`).
-/

namespace Hartevo

def gateBlocks (gate : LoopUserGate) (agent : String) (todo : LoopTodoSpec) : Bool :=
  match gate.scope with
  | .mission => true
  | .agent id => id == agent
  | .todo id => id == todo.id
  | .decision scope =>
    todo.requiredDecisions.toList.any fun required =>
      required == scope || startsWith required (scope ++ ":")

/-- The Task a work item is bound to, if any, still accepts work. -/
def taskAcceptsWork (mission : Mission) (todo : LoopTodoSpec) : Bool :=
  todo.taskId.all fun id => mission.tasks.any fun task =>
    task.id == id && (task.status == .ready || task.status == .running) &&
      todo.capability == some task.capability

/-- Work on the loop itself, which a stall does not stop. -/
def LoopWorkKind.isRecovery : LoopWorkKind → Bool
  | .repair | .replan => true
  | .advancement | .monitor => false

def LoopWorkKind.mode : LoopWorkKind → LoopMode
  | .advancement => .boundedDelivery
  | .repair => .repair
  | .replan => .replan
  | .monitor => .monitorPoll

/-- What the scan of the work items makes of one of them. -/
inductive CandidateVerdict
  | skip
  | notDue (due : DateTime)
  | refused (reason : LoopMode)
  | runnable

namespace MissionLoop

/-! ## Reasons not to run -/

def hardStop (self : MissionLoop) (mission : Mission) (now : DateTime) : Option LoopMode :=
  if mission.stage.isTerminal then some .terminal
  else if mission.contract.validUntil ≤ now then some .contractExpired
  else if self.paused || self.policy.maxSlots == 0 then some .paused
  else if mission.stage == .waitingUser || mission.stage == .waitingApproval then
    some .userActionRequired
  else if !(mission.stage == .ready || mission.stage == .running || mission.stage == .verifying) ||
      !(mission.contract.validate now).isOk then some .wait
  else none

/-- Another claimed item of the same workspace has a write scope that overlaps one of this one. -/
def scopeConflict (self : MissionLoop) (todo : LoopTodo) : Bool :=
  self.todos.vals.any fun other =>
    other.spec.id != todo.spec.id && other.claim.isSome &&
      other.spec.workspaceDigest == todo.spec.workspaceDigest &&
      other.spec.writeScopes.toList.any fun a =>
        todo.spec.writeScopes.toList.any fun b => scopesOverlap a b

def ineligibleReason (self : MissionLoop) (mission : Mission) (peer : LoopPeer) (host : LoopHost)
    (todo : LoopTodo) : Option LoopMode :=
  if !todo.spec.eligibleAgents.isEmpty && !todo.spec.eligibleAgents.contains peer.id then
    some .wait
  else if todo.spec.dependsOn.toList.any fun id =>
      self.todos[id]?.all (·.status != .completed) then some .wait
  else if self.gates.vals.any (gateBlocks · peer.id todo.spec) then some .userActionRequired
  else if todo.spec.workspaceDigest != host.workspaceDigest then some .workspaceMismatch
  else if todo.spec.capability.any fun capability =>
      !peer.capabilities.contains capability || !host.availableCapabilities.contains capability ||
        !mission.contract.enabledCapabilities.contains capability ||
        mission.contract.forbiddenCapabilities.contains capability then
    some .capabilityUnavailable
  else if !taskAcceptsWork mission todo.spec then some .replan
  else if self.scopeConflict todo then some .wait
  else none

/-! ## The user channel -/

def gateVisible (self : MissionLoop) (agent : String) (gate : LoopUserGate) : Bool :=
  match gate.scope with
  | .agent id => id == agent
  | .todo id => self.todos[id]?.any fun todo =>
      todo.spec.eligibleAgents.isEmpty || todo.spec.eligibleAgents.contains agent
  | .mission | .decision _ => true

def userChannel (enc : LoopEncoding) (self : MissionLoop) (agent : String) :
    Except LoopError LoopUserChannel := do
  let gates := self.gates.vals.filter (self.gateVisible agent)
  let notificationDigest ←
    (if gates.isEmpty then .ok none else some <$> loopDigest enc (enc.gates gates))
  return {
    gateIds := gates.map (·.id)
    notificationDigest
    notify := notificationDigest.any (!self.acknowledgedNotices.contains ·) }

/-! ## The scheduler -/

/-- The work items that hold a claim. -/
def claims (self : MissionLoop) : List LoopTodo :=
  self.todos.vals.filter (·.claim.isSome)

/-- The claims that reserve a slot of the quota. -/
def reservedSlots (self : MissionLoop) : ℕ :=
  (self.claims.filter (·.isWork)).length

/-- The claim of the item is not usable any more, but not released either. -/
def needsReconciliation (authority : String) (now : DateTime) (todo : LoopTodo) : Bool :=
  todo.status == .uncertain || todo.claim.any fun claim =>
    decide (claim.expiresAt ≤ now) || claim.authorityDigest != authority

def candidateVerdict (self : MissionLoop) (mission : Mission) (peer : LoopPeer) (host : LoopHost)
    (remainingSlots : ℕ) (now : DateTime) (todo : LoopTodo) : CandidateVerdict :=
  if todo.status != .opened then .skip
  else if todo.spec.monitor.any fun monitor => decide (monitor.expiresAt ≤ now) then .skip
  else match todo.spec.monitor.filter fun monitor => decide (now < monitor.nextDueAt) with
  | some monitor => .notDue monitor.nextDueAt
  | none =>
    match self.ineligibleReason mission peer host todo with
    | some reason => .refused reason
    | none =>
      if todo.spec.kind.isRecovery && decide (self.policy.stallLimit ≤ todo.noProgressAttempts) then
        .refused .replan
      else if decide (self.policy.stallLimit ≤ self.noProgressStreak) && !todo.spec.kind.isRecovery
        then .refused .repair
      else if remainingSlots == 0 && todo.isWork then .refused .quotaExhausted
      else .runnable

/-- Scan the candidates up to the first one that can run, collecting the reasons of the others and
the first instant at which a monitor is due. -/
def scanCandidates (verdict : LoopTodo → CandidateVerdict) :
    List LoopTodo → List LoopMode → Option DateTime →
      Option LoopTodo × List LoopMode × Option DateTime
  | [], reasons, nextDue => (none, reasons, nextDue)
  | todo :: rest, reasons, nextDue =>
    match verdict todo with
    | .skip => scanCandidates verdict rest reasons nextDue
    | .notDue due => scanCandidates verdict rest reasons (some (nextDue.elim due (min · due)))
    | .refused reason => scanCandidates verdict rest (reasons ++ [reason]) nextDue
    | .runnable => (some todo, reasons, nextDue)

/-- Work items in the order of their priority, then of their id. -/
def runsBefore (a b : LoopTodo) : Prop :=
  a.spec.priority < b.spec.priority ∨ (a.spec.priority = b.spec.priority ∧ a.spec.id ≤ b.spec.id)

instance : DecidableRel runsBefore :=
  fun _ _ => inferInstanceAs (Decidable (_ ∨ _))

def candidates (self : MissionLoop) (selected : Option String) : List LoopTodo :=
  (self.todos.vals.filter fun todo => selected.all (todo.spec.id == ·)).insertionSort runsBefore

/-- The wake-up of a peer that waits for another claim to run out. -/
def nextExpiry (self : MissionLoop) (now : DateTime) : LoopWake :=
  ((self.claims.filterMap (·.claim)).map (·.expiresAt)).filter (now < ·) |>.min?.elim
    .onStateChange .at

/-- The part of a decision that does not depend on what can run, with the peer and the authority
digest it was made under. -/
def decisionFrame (enc : LoopEncoding) (self : MissionLoop) (facts : LoopMissionFacts)
    (host : LoopHost) (now : DateTime) : Except LoopError (LoopPeer × String × LoopDecision) := do
  self.validateFor facts.mission
  rejectIf (decide (now < self.updatedAt)) .clockRegression
  let peer ← okOr self.peers[host.agentId]? .unknownAgent
  let authority ← authorityDigest enc facts
  let reservedSlots ← okOr (tryFromCount 32 self.reservedSlots) .overflow
  let user ← self.userChannel enc host.agentId
  return (peer, authority, {
    loopRevision := self.revision
    missionRevision := facts.mission.revision
    mode := .wait
    selectedTodo := none
    user
    wake := .onStateChange
    remainingSlots := self.policy.maxSlots - self.spentSlots - reservedSlots
    reservedSlots
    reconciliationRequired := self.claims.any (needsReconciliation authority now) })

/-- The decision among the open work items. -/
def frontierDecision (self : MissionLoop) (mission : Mission) (peer : LoopPeer) (host : LoopHost)
    (selected : Option String) (now : DateTime) (base : LoopDecision) : LoopDecision :=
  match scanCandidates (self.candidateVerdict mission peer host base.remainingSlots now)
      (self.candidates selected) [] none with
  | (some todo, _, _) =>
    { base with mode := todo.spec.kind.mode, selectedTodo := some todo.spec.id, wake := .now }
  | (none, reasons, nextDue) =>
    { base with
      mode :=
        if reasons.contains .userActionRequired then .userActionRequired
        else match reasons.head? with
        | some reason => reason
        | none =>
          if nextDue.isSome || !self.claims.isEmpty then .wait
          else if !base.user.gateIds.isEmpty then .userActionRequired
          else .replan
      wake := nextDue.elim .onStateChange .at }

/-- The decision of a peer whose frame is `base`. -/
def decisionFrom (self : MissionLoop) (mission : Mission) (peer : LoopPeer) (authority : String)
    (host : LoopHost) (selected : Option String) (now : DateTime) (base : LoopDecision) :
    Except LoopError LoopDecision :=
  match self.hardStop mission now with
  | some mode => .ok
    { base with
      mode
      user := if mode != .userActionRequired then { base.user with notify := false } else base.user
      wake := if mode == .terminal || mode == .contractExpired then .stop else base.wake }
  | none =>
    if host.workspaceDigest != peer.workspaceDigest then
      .ok { base with mode := .workspaceMismatch }
    else match self.claims.find? fun todo => todo.claim.any (·.agentId == host.agentId) with
    | some todo => do
      let claim ← okOr todo.claim .invalidState
      if needsReconciliation authority now todo then return { base with mode := .reconcileRequired }
      else return { base with mode := .wait, wake := .at claim.expiresAt }
    | none =>
      if decide (self.policy.maxParallel ≤ self.claims.length) then
        .ok { base with wake := self.nextExpiry now }
      else .ok (self.frontierDecision mission peer host selected now base)

def decision (enc : LoopEncoding) (self : MissionLoop) (facts : LoopMissionFacts)
    (host : LoopHost) (selected : Option String) (now : DateTime) :
    Except LoopError LoopDecision := do
  let (peer, authority, base) ← self.decisionFrame enc facts host now
  self.decisionFrom facts.mission peer authority host selected now base

def decisionForTodo (enc : LoopEncoding) (self : MissionLoop) (facts : LoopMissionFacts)
    (host : LoopHost) (todoId : String) (now : DateTime) : Except LoopError LoopDecision := do
  rejectIf (!self.todos.contains todoId) .invalidTodo
  self.decision enc facts host (some todoId) now

/-! ## The checks of a claim -/

/-- Rechecked before every use of a claim: new gates, a pause, a changed contract and new steering
all revoke it.  The authority digest is computed only after the other comparisons. -/
def requireClaim (enc : LoopEncoding) (self : MissionLoop) (facts : LoopMissionFacts)
    (claim : LoopClaim) (now : DateTime) : Except LoopError Unit := do
  self.validateFor facts.mission
  let todo ← okOr self.todos[claim.todoId]? .claimLost
  rejectIf (todo.status != .claimed || todo.claim != some claim ||
    decide (claim.expiresAt ≤ now) || decide (now < self.updatedAt) ||
    decide (now < claim.claimedAt) || claim.steeringGeneration != self.steeringGeneration)
    .claimLost
  let authority ← authorityDigest enc facts
  rejectIf (claim.authorityDigest != authority ||
    (self.hardStop facts.mission now).isSome ||
    self.gates.vals.any (gateBlocks · claim.agentId todo.spec)) .claimLost

/-- The check before a model step: the bound Task must still accept work too. -/
def requireExecution (enc : LoopEncoding) (self : MissionLoop) (facts : LoopMissionFacts)
    (claim : LoopClaim) (now : DateTime) : Except LoopError Unit := do
  self.requireClaim enc facts claim now
  let todo ← okOr self.todos[claim.todoId]? .claimLost
  rejectIf (!todo.executionStarted || !taskAcceptsWork facts.mission todo.spec) .claimLost

end MissionLoop

/-! ## What eligibility means -/

/-- The conditions under which the peer on the host may work on the item. -/
structure Eligible (l : MissionLoop) (mission : Mission) (peer : LoopPeer) (host : LoopHost)
    (todo : LoopTodo) : Prop where
  agents : todo.spec.eligibleAgents.isEmpty = true ∨ peer.id ∈ todo.spec.eligibleAgents
  dependencies : ∀ id ∈ todo.spec.dependsOn,
    ∃ item, l.todos[id]? = some item ∧ item.status = .completed
  ungated : ∀ (id : String) (gate : LoopUserGate), l.gates[id]? = some gate →
    gateBlocks gate peer.id todo.spec = false
  workspace : todo.spec.workspaceDigest = host.workspaceDigest
  capability : ∀ c, todo.spec.capability = some c →
    c ∈ peer.capabilities ∧ c ∈ host.availableCapabilities ∧
      c ∈ mission.contract.enabledCapabilities ∧ c ∉ mission.contract.forbiddenCapabilities
  task : taskAcceptsWork mission todo.spec = true
  isolated : l.scopeConflict todo = false

/-- Everything that holds of a work item when the scheduler selects it for the host. -/
structure Selectable (l : MissionLoop) (mission : Mission) (peer : LoopPeer) (host : LoopHost)
    (now : DateTime) (todo : LoopTodo) : Prop where
  running : l.hardStop mission now = none
  workspace : host.workspaceDigest = peer.workspaceDigest
  unclaimed : ∀ other ∈ l.claims, other.claim.any (·.agentId == host.agentId) = false
  parallel : l.claims.length < l.policy.maxParallel
  opened : todo.status = .opened
  due : ∀ monitor, todo.spec.monitor = some monitor →
    monitor.nextDueAt ≤ now ∧ now < monitor.expiresAt
  eligible : Eligible l mission peer host todo
  quota : todo.isWork = true → l.spentSlots + l.reservedSlots < l.policy.maxSlots

variable {l : MissionLoop} {ms : Mission} {peer : LoopPeer} {host : LoopHost} {todo td : LoopTodo}
  {now : DateTime} {enc : LoopEncoding} {fs : LoopMissionFacts}

namespace MissionLoop

/-- There is no reason to refuse an item exactly when it is eligible. -/
lemma ineligibleReason_eq_none_iff :
    l.ineligibleReason ms peer host todo = none ↔ Eligible l ms peer host todo := by
  simp only [ineligibleReason, refusal_eq_none_iff, Bool.not_eq_true, Bool.and_eq_false_iff, passed,
    Std.ExtTreeMap.vals_any_eq_false_iff, Std.ExtTreeSet.contains_iff_mem,
    Std.ExtTreeSet.toList_any_eq_false_iff, and_true]
  have hd : ∀ id : String, l.todos[id]?.all (fun item => item.status != .completed) = false ↔
        ∃ item, l.todos[id]? = some item ∧ item.status = .completed := by
    intro id
    cases l.todos[id]? <;> simp
  have hc : (todo.spec.capability.any fun capability =>
      !peer.capabilities.contains capability || !host.availableCapabilities.contains capability ||
        !ms.contract.enabledCapabilities.contains capability ||
        ms.contract.forbiddenCapabilities.contains capability) = false ↔
      ∀ c, todo.spec.capability = some c → c ∈ peer.capabilities ∧ c ∈ host.availableCapabilities ∧
          c ∈ ms.contract.enabledCapabilities ∧
          c ∉ ms.contract.forbiddenCapabilities := by
    cases todo.spec.capability <;>
      simp [and_assoc, ← Std.ExtTreeSet.contains_iff_mem]
  simp only [hd, hc]
  constructor
  · rintro ⟨h1, h2, h3, h4, h5, h6, h7⟩
    exact ⟨h1, h2, h3, h4, h5, h6, h7⟩
  · rintro ⟨h1, h2, h3, h4, h5, h6, h7⟩
    exact ⟨h1, h2, h3, h4, h5, h6, h7⟩

/-! ## What a selection means -/

/-- The scan stops at one of the candidates, and only at one that can run. -/
lemma scanCandidates_selects {verdict : LoopTodo → CandidateVerdict} {reasons : List LoopMode}
    {nextDue : Option DateTime} {todos : List LoopTodo}
    (h : (scanCandidates verdict todos reasons nextDue).1 = some td) :
    td ∈ todos ∧ verdict td = .runnable := by
  induction todos generalizing reasons nextDue with
  | nil => cases h
  | cons head rest ih =>
    unfold scanCandidates at h
    split at h
    · exact (ih h).imp_left (List.mem_cons_of_mem head)
    · exact (ih h).imp_left (List.mem_cons_of_mem head)
    · exact (ih h).imp_left (List.mem_cons_of_mem head)
    · next hr =>
      cases h
      exact ⟨List.mem_cons_self, hr⟩

lemma candidateVerdict_runnable {remainingSlots : ℕ}
    (h : l.candidateVerdict ms peer host remainingSlots now td = .runnable) :
    td.status = .opened ∧ (∀ monitor, td.spec.monitor = some monitor →
        monitor.nextDueAt ≤ now ∧ now < monitor.expiresAt) ∧
      Eligible l ms peer host td ∧ (td.isWork = true → remainingSlots ≠ 0) := by
  unfold candidateVerdict at h
  split at h
  · cases h
  next ho =>
  split at h
  · cases h
  next he =>
  split at h
  · cases h
  next hdue =>
  split at h
  · cases h
  next hel =>
  split_ifs at h with ha hs hq
  refine ⟨by simpa using ho, ?_, ineligibleReason_eq_none_iff.mp hel, ?_⟩
  · intro monitor hm
    rw [hm] at he hdue
    simp only [Option.any_some, decide_eq_true_eq, not_le] at he
    simp only [Option.filter_eq_none_iff, Option.some.injEq, decide_eq_true_eq, not_lt,
      forall_eq'] at hdue
    exact ⟨hdue, he⟩
  · intro hw hz
    simp [hw, hz] at hq

variable {authority : String} {base : LoopDecision}

lemma decisionFrame_ok (h : l.decisionFrame enc fs host now = .ok (peer, authority, base)) :
    LoopValid l fs.mission ∧ l.updatedAt ≤ now ∧ l.peers[host.agentId]? = some peer ∧
      authorityDigest enc fs = .ok authority ∧ base.selectedTodo = none ∧
      base.remainingSlots = l.policy.maxSlots - l.spentSlots - l.reservedSlots := by
  unfold decisionFrame at h
  obtain ⟨hv, h⟩ := check_ok.mp h
  obtain ⟨hc, h⟩ := check_ok.mp h
  obtain ⟨peer', hp, h⟩ := bind_ok.mp h
  obtain ⟨authority', ha, h⟩ := bind_ok.mp h
  obtain ⟨reserved, hr, h⟩ := bind_ok.mp h
  obtain ⟨user, -, h⟩ := bind_ok.mp h
  cases h
  rw [okOr_ok, tryFromCount_eq_some] at hr
  refine ⟨validateFor_iff.mp hv, by simpa using hc, okOr_ok.mp hp, ha, rfl, ?_⟩
  rw [hr.2]

variable {selected : Option String} {result : LoopDecision} {id : String}

lemma decisionFrom_selects (hb : base.selectedTodo = none)
    (hre : base.remainingSlots = l.policy.maxSlots - l.spentSlots - l.reservedSlots)
    (h : l.decisionFrom ms peer authority host selected now base = .ok result)
    (hid : result.selectedTodo = some id) :
    ∃ todo ∈ l.todos.vals, todo.spec.id = id ∧ Selectable l ms peer host now todo := by
  unfold decisionFrom at h
  split at h
  · cases h
    simp [hb] at hid
  next hru =>
  split at h
  · cases h
    simp [hb] at hid
  next hw =>
  split at h
  · obtain ⟨claim, -, h⟩ := bind_ok.mp h
    split_ifs at h <;> cases h <;> simp [hb] at hid
  next hown =>
  split at h
  · cases h
    simp [hb] at hid
  next hp =>
  cases h
  unfold frontierDecision at hid
  split at hid
  · next todo _ _ hs =>
    obtain ⟨hmem, hr⟩ := scanCandidates_selects (congrArg Prod.fst hs)
    obtain ⟨ho, hdue, he, hq⟩ := candidateVerdict_runnable hr
    rw [candidates, List.mem_insertionSort, List.mem_filter] at hmem
    refine ⟨todo, hmem.1, by simpa using hid, hru, by simpa using hw, ?_,
      by simpa using hp, ho, hdue, he, ?_⟩
    · intro other hot
      simpa using List.find?_eq_none.mp hown other hot
    · intro hwo
      have := hq hwo
      omega
  · simp [hb] at hid

lemma decision_selects (h : l.decision enc fs host selected now = .ok result)
    (hid : result.selectedTodo = some id) :
    LoopValid l fs.mission ∧ ∃ peer todo, l.peers[host.agentId]? = some peer ∧
      l.todos[id]? = some todo ∧ Selectable l fs.mission peer host now todo := by
  obtain ⟨⟨peer, authority, base⟩, hf, hfr⟩ := bind_ok.mp h
  obtain ⟨hv, -, hp, -, hb, hr⟩ := decisionFrame_ok hf
  obtain ⟨todo, hmem, hn, hs⟩ := decisionFrom_selects hb hr hfr hid
  obtain ⟨key, hkey⟩ := Std.ExtTreeMap.mem_vals.mp hmem
  have hk : key = id := (hv.todos key todo hkey).id_eq.trans hn
  exact ⟨hv, peer, todo, hp, hk ▸ hkey, hs⟩

end MissionLoop

/-! ## What a checked claim means -/

/-- The claim is the one stored with the item, and it is in force. -/
structure ClaimHeld (enc : LoopEncoding) (l : MissionLoop) (facts : LoopMissionFacts)
    (claim : LoopClaim) (now : DateTime) (todo : LoopTodo) : Prop where
  valid : LoopValid l facts.mission
  todo_eq : l.todos[claim.todoId]? = some todo
  status : todo.status = .claimed
  stored : todo.claim = some claim
  unexpired : now < claim.expiresAt
  clock : l.updatedAt ≤ now
  issued : claim.claimedAt ≤ now
  steering : claim.steeringGeneration = l.steeringGeneration
  authority : authorityDigest enc facts = .ok claim.authorityDigest
  running : l.hardStop facts.mission now = none
  ungated : ∀ (id : String) (gate : LoopUserGate), l.gates[id]? = some gate →
    gateBlocks gate claim.agentId todo.spec = false

namespace MissionLoop

variable {claim : LoopClaim}

/-- A claim passes its check exactly when some item holds it and it is in force. -/
lemma requireClaim_iff :
    l.requireClaim enc fs claim now = .ok () ↔ ∃ todo, ClaimHeld enc l fs claim now todo := by
  constructor
  · intro h
    obtain ⟨hv, h⟩ := check_ok.mp h
    obtain ⟨todo, ht, h⟩ := bind_ok.mp h
    obtain ⟨hs, h⟩ := check_ok.mp h
    obtain ⟨authority, ha, ho⟩ := bind_ok.mp h
    simp only [passed, not_le, and_assoc] at hs
    simp only [passed, Std.ExtTreeMap.vals_any_eq_false_iff, Option.isSome_eq_false_iff,
      Option.isNone_iff_eq_none] at ho
    obtain ⟨hsta, hc, hl, hcl, hi, hst⟩ := hs
    obtain ⟨⟨rfl, hr⟩, hg⟩ := ho
    exact ⟨todo, validateFor_iff.mp hv, okOr_ok.mp ht, hsta, hc, hl, hcl, hi, hst, ha, hr, hg⟩
  · rintro ⟨todo, held⟩
    refine check_ok.mpr ⟨validateFor_iff.mpr held.valid, ?_⟩
    refine bind_ok.mpr ⟨todo, okOr_ok.mpr held.todo_eq, ?_⟩
    refine check_ok.mpr ⟨?_, bind_ok.mpr ⟨_, held.authority, ?_⟩⟩
    · simp [held.status, held.stored, held.unexpired, held.clock, held.issued, held.steering]
    · simp only [passed, Std.ExtTreeMap.vals_any_eq_false_iff]
      exact ⟨⟨by simp, by simp [held.running]⟩, held.ungated⟩

lemma requireClaim_of_requireExecution (h : l.requireExecution enc fs claim now = .ok ()) :
    l.requireClaim enc fs claim now = .ok () :=
  (check_ok.mp h).1

end MissionLoop

end Hartevo
