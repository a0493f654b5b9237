import Hartevo.MissionLoop.Transition

/-!
# What one command can do

The inversion of `MissionLoop.apply`.  A successful command is one of four kinds of step, and each
kind names its guards and the next aggregate explicitly:

* a `ControlStep` changes peers, gates, notices, or relaxes the policy; no work item changes;
* an `addTodo` step adds one open work item;
* an `InvalidatingStep` (a pause, a lower quota, new steering) starts a new steering generation and
  makes every stored claim uncertain;
* a `WorkStep` replaces exactly one work item.

`MissionLoop.transition_sound` proves this once.  Every invariant of the loop is then proved by
cases on `LoopStep`, through `loopRun_invariant`, and no later proof unfolds a transition.
-/

namespace Hartevo

open MissionLoop

variable {id rationaleDigest notice tok ev : String} {todo todo' outcome : LoopTodo}
  {c c' : LoopClaim} {result : LoopTurnResult} {spentSlots streak : ℕ}
  {accepted : BTreeSet EvidenceId} {spec : LoopTodoSpec} {host : LoopHost}

/-! ## The kinds of steps -/

section Relations

variable (enc : LoopEncoding) (l : MissionLoop) (facts : LoopMissionFacts)
  (actor : LoopActor) (now : DateTime)

/-- The notification digest is the current one of a registered peer. -/
def CurrentNotice (notice : String) : Prop :=
  ∃ agent ∈ l.peers, ∃ channel, l.userChannel enc agent = .ok channel ∧
    channel.notificationDigest = some notice

/-- A step that leaves the work items and the accounting alone. -/
inductive ControlStep : LoopAction → MissionLoop → Prop
  | registerPeer {peer : LoopPeer} (room : l.peers.size < loopPeerLimit)
    (wellFormed : validatePeer peer.id peer = .ok ()) (fresh : peer.id ∉ l.peers) :
    ControlStep (.registerPeer peer) { l with peers := l.peers.insert peer.id peer }
  | openGate {gate : LoopUserGate} {current : List String} (room : l.gates.size < loopFrontierLimit)
    (wellFormed : l.validateGate gate = .ok ()) (fresh : gate.id ∉ l.gates)
    (notices : currentNotices enc { l with gates := l.gates.insert gate.id gate } =
      .ok current) :
    ControlStep (.openGate gate) { l with
      gates := l.gates.insert gate.id gate
      acknowledgedNotices := l.acknowledgedNotices.filter fun notice => current.contains notice }
  | resolveGate {gateId decisionDigest : String} {current : List String}
    (notices : currentNotices enc { l with gates := l.gates.erase gateId } = .ok current) :
    ControlStep (.resolveGate gateId decisionDigest) { l with
      gates := l.gates.erase gateId
      acknowledgedNotices := l.acknowledgedNotices.filter fun notice => current.contains notice }
  | resume : ControlStep (.pause false) { l with paused := false }
  | raiseQuota {maxSlots : ℕ} (raised : l.policy.maxSlots ≤ maxSlots) :
    ControlStep (.setQuota maxSlots) { l with policy := { l.policy with maxSlots } }
  | acknowledge {notice : String} (wellFormed : digest notice = true)
    (known : CurrentNotice enc l notice) :
    ControlStep (.acknowledgeNotice notice)
      { l with acknowledgedNotices := l.acknowledgedNotices.insert notice }

/-- A step that revokes every stored claim. -/
inductive InvalidatingStep : LoopAction → MissionLoop → Prop
  | pause : InvalidatingStep (.pause true) { l with
    paused := true
    steeringGeneration := l.steeringGeneration + 1
    todos := l.invalidatedTodos }
  | lowerQuota {maxSlots : ℕ} (lowered : maxSlots < l.policy.maxSlots) :
    InvalidatingStep (.setQuota maxSlots) { l with
      policy := { l.policy with maxSlots }
      steeringGeneration := l.steeringGeneration + 1
      todos := l.invalidatedTodos }
  | steer {rationaleDigest : String} : InvalidatingStep (.steer rationaleDigest) { l with
    steeringGeneration := l.steeringGeneration + 1
    todos := l.invalidatedTodos }

/-- The evidence item can be used for progress under the claim. -/
def EvidenceAcceptable (claim : LoopClaim) (id : EvidenceId) : Prop :=
  ∃ item, facts.mission.evidence.find? (·.id == id) = some item ∧ item.status = .confirmed ∧
    id ∉ l.acceptedEvidence ∧ claim.claimedAt ≤ item.observedAt ∧ item.observedAt ≤ now ∧
    digest item.contentDigest = true

/-- The outcome of a settlement: the item before its claim is released, the slots spent, the
evidence used, and the streak of turns without progress. -/
inductive Settlement (claim : LoopClaim) (todo : LoopTodo) :
    LoopTurnResult → LoopTodo → ℕ → BTreeSet EvidenceId → ℕ → Prop
  | progress {evidenceIds : BTreeSet EvidenceId} {continuation : LoopContinuation}
    (work : todo.isWork = true) (nonempty : evidenceIds.isEmpty = false)
    (acceptable : ∀ id ∈ evidenceIds, EvidenceAcceptable l facts now claim id) :
    Settlement claim todo (.progress evidenceIds continuation) { todo with status := .completed }
      (l.spentSlots + 1) (l.acceptedEvidence.insertMany evidenceIds.toList) 0
  | observation {observationDigest : String} {monitor advanced : LoopMonitor}
    (monitored : todo.spec.monitor = some monitor)
    (advance : monitor.advance now = .ok advanced) :
    Settlement claim todo (.monitorObservation observationDigest)
      { todo with
        spec := { todo.spec with monitor := some advanced }
        lastObservationDigest := some observationDigest
        status := if advanced.expiresAt ≤ advanced.nextDueAt then .completed else .opened }
      l.spentSlots l.acceptedEvidence l.noProgressStreak
  | noProgress {reasonDigest : String} (work : todo.isWork = true) :
    Settlement claim todo (.noProgress reasonDigest)
      { todo with
        noProgressAttempts := saturatingAdd 16 todo.noProgressAttempts 1
        status := .opened }
      l.spentSlots l.acceptedEvidence (saturatingAdd 16 l.noProgressStreak 1)
  | failed {evidenceDigest : String} {uncertain : Bool} :
    Settlement claim todo (.failed evidenceDigest uncertain)
      { todo with
        noProgressAttempts := saturatingAdd 16 todo.noProgressAttempts 1
        status := if uncertain then .uncertain else .opened }
      l.spentSlots l.acceptedEvidence (saturatingAdd 16 l.noProgressStreak 1)

/-- The aggregate after the settlement of the item `id`. -/
def settledLoop (id : String) (todo : LoopTodo) (spentSlots : ℕ) (accepted : BTreeSet EvidenceId)
    (streak : ℕ) (run : LoopRunSummary) : MissionLoop :=
  { l with
    spentSlots
    noProgressStreak := streak
    todos := l.todos.insert id todo.release
    acceptedEvidence := accepted
    recentRuns := truncateHistory (l.recentRuns ++ [run])
    runSequence := l.runSequence + 1 }

/-- The claim that the next claim command on the item `id` issues. -/
def issuedClaim (host : LoopHost) (id tokenDigest authority : String) (expiresAt : DateTime) :
    LoopClaim where
  todoId := id
  agentId := host.agentId
  tokenDigest := tokenDigest
  generation := l.claimGeneration + 1
  steeringGeneration := l.steeringGeneration
  authorityDigest := authority
  claimedAt := now
  expiresAt := expiresAt

/-- A step that replaces the work item `todo` with the id `id` by another one.  The last two
indices are the claim and the run of the receipt. -/
inductive WorkStep (id : String) (todo : LoopTodo) :
    LoopAction → LoopTodo → MissionLoop → Option LoopClaim → Option LoopRunSummary → Prop
  | claim {host : LoopHost} {tokenDigest authority : String} {peer : LoopPeer}
    {expiresAt : DateTime} {claim : LoopClaim} (agent : actor = .agent host.agentId)
    (tokenDigest_ok : digest tokenDigest = true) (registered : l.peers[host.agentId]? = some peer)
    (selectable : Selectable l facts.mission peer host now todo)
    (expiry : l.leaseExpiry facts.mission todo now = .ok expiresAt)
    (authorized : authorityDigest enc facts = .ok authority)
    (issued : claim = issuedClaim l now host id tokenDigest authority expiresAt) :
    WorkStep id todo (.claim host id tokenDigest)
      { todo with status := .claimed, claim := some claim, executionStarted := false }
      { l with
        claimGeneration := l.claimGeneration + 1
        todos := l.todos.insert id
          { todo with status := .claimed, claim := some claim, executionStarted := false } }
      (some claim) none
  | begin {claim : LoopClaim} {host : LoopHost} (id_eq : claim.todoId = id)
    (agent : actor = .agent claim.agentId) (held : ClaimHeld enc l facts claim now todo)
    (unstarted : todo.executionStarted = false) :
    WorkStep id todo (.beginExecution claim host) { todo with executionStarted := true }
      { l with todos := l.todos.insert id { todo with executionStarted := true } }
      (some claim) none
  | heartbeat {claim : LoopClaim} {expiresAt : DateTime} (id_eq : claim.todoId = id)
    (agent : actor = .agent claim.agentId) (held : ClaimHeld enc l facts claim now todo)
    (expiry : l.leaseExpiry facts.mission todo now = .ok expiresAt) :
    WorkStep id todo (.heartbeat claim)
      { todo with claim := some { claim with expiresAt } }
      { l with todos := l.todos.insert id { todo with claim := some { claim with expiresAt } } }
      (some { claim with expiresAt }) none
  | settle {claim : LoopClaim} {result : LoopTurnResult} {outcome : LoopTodo} {spentSlots : ℕ}
    {accepted : BTreeSet EvidenceId} {streak : ℕ} {run : LoopRunSummary}
    (id_eq : claim.todoId = id) (agent : actor = .agent claim.agentId)
    (stored : todo.claim = some claim)
    (held : result.isUncertain = false → ClaimHeld enc l facts claim now todo)
    (started : result.isFailed = false → todo.executionStarted = true)
    (settlement : Settlement l facts now claim todo result outcome spentSlots accepted streak) :
    WorkStep id todo (.settle claim result) outcome.release
      (settledLoop l id outcome spentSlots accepted streak run) none (some run)
  | reconcile {claim : LoopClaim} {result : LoopTurnResult} {readbackDigest : String}
    {outcome : LoopTodo} {spentSlots : ℕ} {accepted : BTreeSet EvidenceId} {streak : ℕ}
    {run : LoopRunSummary} (id_eq : claim.todoId = id) (stored : todo.claim = some claim)
    (steering : claim.steeringGeneration = l.steeringGeneration)
    (authority : authorityDigest enc facts = .ok claim.authorityDigest)
    (started : result.isFailed = false → todo.executionStarted = true)
    (settlement : Settlement l facts now claim todo result outcome spentSlots accepted streak) :
    WorkStep id todo (.reconcileSettlement claim result readbackDigest) outcome.release
      (settledLoop l id outcome spentSlots accepted streak run) none (some run)
  | retry {evidenceDigest : String} {claim : LoopClaim}
    (operator : actor = .operator l.policy.operatorId) (stored : todo.claim = some claim) :
    WorkStep id todo (.reconcileRetry id evidenceDigest)
      { todo with claim := none, executionStarted := false, status := .opened }
      { l with
        todos := l.todos.insert id
          { todo with claim := none, executionStarted := false, status := .opened } }
      none none
  | cancel {rationaleDigest : String} (opened : todo.status = .opened)
    (unclaimed : todo.claim = none) :
    WorkStep id todo (.cancelTodo id rationaleDigest) { todo with status := .cancelled }
      { l with todos := l.todos.insert id { todo with status := .cancelled } }
      none none

/-- A successful transition. -/
inductive LoopStep :
    LoopAction → MissionLoop → Option LoopClaim → Option LoopRunSummary → Prop
  | control {action : LoopAction} {next : MissionLoop}
    (step : ControlStep enc l action next) : LoopStep action next none none
  | add {spec : LoopTodoSpec} (room : l.todos.size < loopFrontierLimit)
    (fresh : l.todos[spec.id]? = none) (wellFormed : SpecValid l spec) :
    LoopStep (.addTodo spec)
      { l with todos := l.todos.insert spec.id (LoopTodo.new spec) } none none
  | invalidate {action : LoopAction} {next : MissionLoop}
    (step : InvalidatingStep l action next) : LoopStep action next none none
  | work {action : LoopAction} {id : String} {todo todo' : LoopTodo} {next : MissionLoop}
    {claim : Option LoopClaim} {run : Option LoopRunSummary} (found : l.todos[id]? = some todo)
    (step : WorkStep enc l facts actor now id todo action todo' next claim run) :
    LoopStep action next claim run

end Relations

variable {enc : LoopEncoding} {l next : MissionLoop} {facts : LoopMissionFacts} {actor : LoopActor}
  {now : DateTime}

/-! ## Reading off a step -/

section Frames

variable {action : LoopAction} {claim : Option LoopClaim} {run : Option LoopRunSummary}

lemma ControlStep.frame (h : ControlStep enc l action next) :
    next.todos = l.todos ∧ next.spentSlots = l.spentSlots ∧
      next.claimGeneration = l.claimGeneration ∧
      next.steeringGeneration = l.steeringGeneration ∧
      next.acceptedEvidence = l.acceptedEvidence := by
  cases h <;> exact ⟨rfl, rfl, rfl, rfl, rfl⟩

lemma InvalidatingStep.frame (h : InvalidatingStep l action next) :
    next.todos = l.invalidatedTodos ∧ next.spentSlots = l.spentSlots ∧
      next.claimGeneration = l.claimGeneration ∧
      next.steeringGeneration = l.steeringGeneration + 1 ∧
      next.acceptedEvidence = l.acceptedEvidence := by
  cases h <;> exact ⟨rfl, rfl, rfl, rfl, rfl⟩

lemma WorkStep.frame (h : WorkStep enc l facts actor now id todo action todo' next claim run) :
    next.todos = l.todos.insert id todo' ∧ next.steeringGeneration = l.steeringGeneration ∧
      next.policy = l.policy := by
  cases h <;> exact ⟨rfl, rfl, rfl⟩

/-- A settlement keeps a claim only when its outcome is uncertain. -/
lemma release_claim (todo : LoopTodo) :
    todo.release.claim = if todo.status = .uncertain then todo.claim else none := by
  unfold LoopTodo.release
  split_ifs <;> simp_all

@[simp] lemma release_status (todo : LoopTodo) : todo.release.status = todo.status := by
  unfold LoopTodo.release
  split_ifs <;> rfl

@[simp] lemma release_spec (todo : LoopTodo) : todo.release.spec = todo.spec := by
  unfold LoopTodo.release
  split_ifs <;> rfl

lemma getElem?_invalidatedTodos (l : MissionLoop) (id : String) :
    l.invalidatedTodos[id]? = l.todos[id]?.map LoopTodo.invalidate := by
  simp [invalidatedTodos]

/-- Where a work item of the next aggregate comes from: it was there before, it is new, it was
invalidated, or the step replaced it. -/
lemma LoopStep.todo_cases (h : LoopStep enc l facts actor now action next claim run)
    (hid : next.todos[id]? = some todo') :
    l.todos[id]? = some todo' ∨
      (∃ spec, action = .addTodo spec ∧ id = spec.id ∧ l.todos[id]? = none ∧
        todo' = LoopTodo.new spec) ∨
      (∃ todo, l.todos[id]? = some todo ∧ todo' = todo.invalidate ∧
        InvalidatingStep l action next) ∨
      (∃ todo, l.todos[id]? = some todo ∧
        WorkStep enc l facts actor now id todo action todo' next claim run) := by
  cases h with
  | control step =>
    rw [step.frame.1] at hid
    exact .inl hid
  | @add spec _ fresh _ =>
    rw [Std.ExtTreeMap.getElem?_insert_iff] at hid
    split_ifs at hid with hs
    · exact .inr (Or.inl ⟨spec, rfl, hs.symm, hs ▸ fresh, (Option.some.inj hid).symm⟩)
    · exact .inl hid
  | invalidate step =>
    rw [step.frame.1, getElem?_invalidatedTodos, Option.map_eq_some_iff] at hid
    obtain ⟨todo, ht, hi⟩ := hid
    exact .inr (Or.inr (Or.inl ⟨todo, ht, hi.symm, step⟩))
  | @work _ key todo _ _ _ _ found step =>
    have hl := hid
    rw [step.frame.1, Std.ExtTreeMap.getElem?_insert_iff] at hl
    split_ifs at hl with hs
    · obtain rfl := hs
      obtain rfl := Option.some.inj hl
      exact .inr (Or.inr (Or.inr ⟨todo, found, step⟩))
    · exact .inl hl

section

variable (h : Settlement l facts now c todo result outcome spentSlots accepted streak)

include h

lemma Settlement.kept (hk : outcome.release.claim = some c') :
    outcome.release.spec = todo.spec ∧ todo.claim = some c' ∧
      outcome.release.executionStarted = todo.executionStarted ∧ outcome.status = .uncertain ∧
      result.isUncertain = true := by
  rw [release_claim] at hk
  split_ifs at hk with hunc
  have hr : outcome.release = outcome := by simp [LoopTodo.release, hunc]
  rw [hr]
  cases h with
  | progress | noProgress => cases hunc
  | observation =>
    dsimp only at hunc
    split_ifs at hunc
  | failed =>
    refine ⟨rfl, hk, rfl, hunc, ?_⟩
    dsimp only at hunc
    split_ifs at hunc with hres
    exact hres

lemma Settlement.uncertain (hunc : result.isUncertain = true) :
    outcome.release.claim = todo.claim ∧ outcome.status = .uncertain := by
  cases h with
  | progress | observation | noProgress => cases hunc
  | failed =>
    obtain rfl : _ = true := hunc
    exact ⟨by simp [release_claim], rfl⟩

/-- A settlement changes at most the monitor in the specification. -/
lemma Settlement.spec_eq :
    outcome.release.spec = { todo.spec with monitor := outcome.release.spec.monitor } := by
  rw [release_spec]
  cases h <;> rfl

end

/-- A work step changes at most the monitor in the specification. -/
lemma WorkStep.spec_eq (h : WorkStep enc l facts actor now id todo action todo' next claim run) :
    todo'.spec = { todo.spec with monitor := todo'.spec.monitor } := by
  cases h with
  | claim | begin | heartbeat | retry | cancel => rfl
  | settle _ _ _ _ _ settlement | reconcile _ _ _ _ _ settlement => exact settlement.spec_eq

@[simp] lemma invalidate_spec (todo : LoopTodo) : todo.invalidate.spec = todo.spec := by
  unfold LoopTodo.invalidate
  split_ifs <;> rfl

lemma LoopStep.spec_cases (h : LoopStep enc l facts actor now action next claim run)
    (hid : next.todos[id]? = some todo') :
    (∃ todo, l.todos[id]? = some todo ∧
      todo'.spec = { todo.spec with monitor := todo'.spec.monitor }) ∨
    ∃ spec, action = .addTodo spec ∧ id = spec.id ∧ l.todos[id]? = none ∧
      todo' = LoopTodo.new spec := by
  rcases h.todo_cases hid with hs | ha | ⟨todo, ht, rfl, -⟩ | ⟨todo, ht, step⟩
  · exact .inl ⟨todo', hs, rfl⟩
  · exact .inr ha
  · exact .inl ⟨todo, ht, by rw [invalidate_spec]⟩
  · exact .inl ⟨todo, ht, step.spec_eq⟩

/-- The claim stored with an item is the one that was stored with it before, up to a renewal of its
expiry, or it was issued by this step.  In the first case only the begin of its execution starts
it. -/
lemma LoopStep.claim_cases (h : LoopStep enc l facts actor now action next claim run)
    (hid : next.todos[id]? = some todo') (hc : todo'.claim = some c') :
    (∃ todo c, l.todos[id]? = some todo ∧ todo.claim = some c ∧ todo'.spec = todo.spec ∧
      c' = { c with expiresAt := c'.expiresAt } ∧
      (todo'.executionStarted = todo.executionStarted ∨
        (todo'.executionStarted = true ∧ ∃ host, action = .beginExecution c host))) ∨
    (∃ todo, l.todos[id]? = some todo ∧ todo'.spec = todo.spec ∧ todo'.executionStarted = false ∧
      ∃ host tok peer authority, action = .claim host id tok ∧
        Selectable l facts.mission peer host now todo ∧
        c' = issuedClaim l now host id tok authority c'.expiresAt) := by
  rcases h.todo_cases hid with hsa | ⟨spec, -, -, -, rfl⟩ | ⟨todo, ht, rfl, -⟩ | ⟨todo, ht, step⟩
  · exact .inl ⟨todo', c', hsa, hc, rfl, rfl, Or.inl rfl⟩
  · cases hc
  · refine .inl ⟨todo, c', ht, ?_, ?_, rfl, Or.inl ?_⟩
    · unfold LoopTodo.invalidate at hc
      split_ifs at hc <;> exact hc
    · exact invalidate_spec todo
    · unfold LoopTodo.invalidate
      split_ifs <;> rfl
  · cases step with
    | @claim host tok authority peer _ _ _ _ _ selectable _ _ issued =>
      obtain rfl := Option.some.inj hc
      refine .inr ⟨todo, ht, rfl, rfl, host, tok, peer, authority, rfl, selectable, ?_⟩
      rw [issued]
      rfl
    | @begin claim host _ _ held =>
      obtain rfl := Option.mem_unique held.stored hc
      exact .inl ⟨todo, claim, ht, hc, rfl, rfl, Or.inr ⟨rfl, host, rfl⟩⟩
    | heartbeat _ _ held =>
      obtain rfl := Option.some.inj hc
      exact .inl ⟨todo, _, ht, held.stored, rfl, rfl, Or.inl rfl⟩
    | settle _ _ _ _ _ settlement | reconcile _ _ _ _ _ settlement =>
      obtain ⟨hsp, hk, hs, -⟩ := settlement.kept hc
      exact .inl ⟨todo, c', ht, hk, hsp, rfl, Or.inl hs⟩
    | retry => cases hc
    | cancel => exact .inl ⟨todo, c', ht, hc, rfl, rfl, Or.inl rfl⟩

lemma LoopStep.of_addTodo (h : LoopStep enc l facts actor now (.addTodo spec) next claim run) :
    l.todos[spec.id]? = none ∧ SpecValid l spec := by
  cases h with
  | control step | invalidate step => cases step
  | add _ fresh wellFormed => exact ⟨fresh, wellFormed⟩
  | work _ step => cases step

variable (h : LoopStep enc l facts actor now action next claim run)

include h

lemma LoopStep.claimGeneration_cases :
    (next.claimGeneration = l.claimGeneration ∧ ∀ host id tok, action ≠ .claim host id tok) ∨
    (next.claimGeneration = l.claimGeneration + 1 ∧
      ∃ host id tok todo c, action = .claim host id tok ∧ claim = some c ∧
        next.todos[id]? = some todo ∧ todo.claim = some c ∧ c.todoId = id ∧
        c.generation = l.claimGeneration + 1) := by
  cases h with
  | control step | invalidate step =>
    refine .inl ⟨step.frame.2.2.1, ?_⟩
    rintro host id tok rfl
    cases step
  | add => exact .inl ⟨rfl, fun _ _ _ => nofun⟩
  | work found step =>
    cases step with
    | @claim host tok _ _ _ c _ _ _ _ _ _ issued =>
      refine .inr ⟨rfl, host, _, tok, _, c, rfl, rfl,
        Std.ExtTreeMap.getElem?_insert_same _ _ _, rfl, ?_, ?_⟩ <;> rw [issued] <;> rfl
    | begin | heartbeat | settle | reconcile | retry | cancel =>
      exact .inl ⟨rfl, fun _ _ _ => nofun⟩

lemma LoopStep.policy_eq : next.policy = { l.policy with maxSlots := next.policy.maxSlots } := by
  cases h with
  | control step | invalidate step => cases step <;> rfl
  | add => rfl
  | work found step => rw [step.frame.2.2]

/-- A work item is never removed. -/
lemma LoopStep.todos_mono (hid : id ∈ l.todos) : id ∈ next.todos := by
  cases h with
  | control step => rwa [step.frame.1]
  | add => exact Std.ExtTreeMap.mem_insert.mpr (Or.inr hid)
  | invalidate step =>
    rw [step.frame.1]
    exact Std.ExtTreeMap.mem_map.mpr hid
  | work found step =>
    rw [step.frame.1]
    exact Std.ExtTreeMap.mem_insert.mpr (Or.inr hid)

end Frames

/-! ## Soundness -/

namespace MissionLoop

variable {claim renewed : LoopClaim}

lemma registerPeer_sound {peer : LoopPeer} (h : l.registerPeer actor peer = .ok next) :
    ControlStep enc l (.registerPeer peer) next := by
  obtain ⟨-, h⟩ := check_ok.mp h
  obtain ⟨hr, h⟩ := check_ok.mp h
  obtain ⟨hp, h⟩ := check_ok.mp h
  cases h
  simp only [passed] at hp
  obtain ⟨⟨⟨ht, hd⟩, hc⟩, hf⟩ := hp
  refine .registerPeer (by simpa using hr) ?_ ?_
  · simp [validatePeer, ht, hd, hc]
  · rw [← Std.ExtTreeMap.contains_iff_mem, hf]
    exact Bool.false_ne_true

lemma addTodo_sound (h : l.addTodo facts.mission spec = .ok next) :
    LoopStep enc l facts actor now (.addTodo spec) next none none := by
  obtain ⟨hr, h⟩ := check_ok.mp h
  obtain ⟨hf, h⟩ := check_ok.mp h
  obtain ⟨hs, h⟩ := check_ok.mp h
  obtain ⟨-, h⟩ := check_ok.mp h
  cases h
  rw [rejectIf_ok, Std.ExtTreeMap.contains_eq_isSome_getElem?, Option.isSome_eq_false_iff,
    Option.isNone_iff_eq_none] at hf
  exact .add (by simpa using hr) hf (validateTodoSpec_iff.mp hs)

lemma pruneNoticeAcknowledgements_ok (h : l.pruneNoticeAcknowledgements enc = .ok next) :
    ∃ current, l.currentNotices enc = .ok current ∧ next = { l with
      acknowledgedNotices :=
        l.acknowledgedNotices.filter fun notice => current.contains notice } := by
  obtain ⟨current, hcur, h⟩ := bind_ok.mp h
  cases h
  exact ⟨current, hcur, rfl⟩

lemma openGate_sound {gate : LoopUserGate} (h : l.openGate enc actor gate = .ok next) :
    ControlStep enc l (.openGate gate) next := by
  obtain ⟨hr, h⟩ := check_ok.mp h
  obtain ⟨hg, h⟩ := check_ok.mp h
  obtain ⟨hf, h⟩ := check_ok.mp h
  obtain ⟨-, h⟩ := check_ok.mp h
  obtain ⟨current, hcur, rfl⟩ := pruneNoticeAcknowledgements_ok h
  refine .openGate (by simpa using hr) hg ?_ hcur
  rw [← Std.ExtTreeMap.contains_iff_mem, rejectIf_ok.mp hf]
  exact Bool.false_ne_true

lemma resolveGate_sound {gateId decisionDigest : String}
    (h : l.resolveGate enc actor gateId decisionDigest = .ok next) :
    ControlStep enc l (.resolveGate gateId decisionDigest) next := by
  obtain ⟨-, h⟩ := check_ok.mp h
  obtain ⟨-, h⟩ := check_ok.mp h
  obtain ⟨current, hcur, rfl⟩ := pruneNoticeAcknowledgements_ok h
  exact .resolveGate hcur

lemma invalidateClaims_ok (h : l.invalidateClaims = .ok next) : next = { l with
      steeringGeneration := l.steeringGeneration + 1
      todos := l.invalidatedTodos } := by
  obtain ⟨generation, hgen, h⟩ := bind_ok.mp h
  rw [okOr_ok, checkedAdd_eq_some] at hgen
  cases h
  rw [← hgen.2]

lemma pause_sound {paused : Bool} (h : l.pause actor paused = .ok next) :
    LoopStep enc l facts actor now (.pause paused) next none none := by
  obtain ⟨-, h⟩ := check_ok.mp h
  cases paused with
  | false =>
    cases h
    exact .control .resume
  | true =>
    rw [invalidateClaims_ok h]
    exact .invalidate .pause

lemma setQuota_sound {maxSlots : ℕ} (h : l.setQuota actor maxSlots = .ok next) :
    LoopStep enc l facts actor now (.setQuota maxSlots) next none none := by
  obtain ⟨-, h⟩ := check_ok.mp h
  obtain ⟨base, hb, h⟩ := bind_ok.mp h
  cases h
  split_ifs at hb with hl
  · rw [invalidateClaims_ok hb]
    exact .invalidate (.lowerQuota hl)
  · cases hb
    exact .control (.raiseQuota (not_lt.mp hl))

lemma steer_sound (h : l.steer actor rationaleDigest = .ok next) :
    InvalidatingStep l (.steer rationaleDigest) next := by
  obtain ⟨-, h⟩ := check_ok.mp h
  obtain ⟨-, h⟩ := check_ok.mp h
  rw [invalidateClaims_ok h]
  exact .steer

lemma currentNotice_of_noticeIsKnown (ha : l.validateActor actor = .ok ())
    (h : l.noticeIsKnown enc actor notice = .ok true) : CurrentNotice enc l notice := by
  cases actor with
  | agent agent =>
    obtain ⟨channel, hc, h⟩ := bind_ok.mp h
    refine ⟨agent, ?_, channel, hc, by simpa [pure, Except.pure] using h⟩
    simpa [validateActor, ← Std.ExtTreeMap.contains_iff_mem] using ha
  | operator =>
    simp only [noticeIsKnown, Except.ok.injEq, List.any_eq_true, Std.ExtTreeMap.mem_keys] at h
    obtain ⟨agent, hag, h⟩ := h
    split at h
    · next channel hc => exact ⟨agent, hag, channel, hc, by simpa using h⟩
    · cases h

lemma acknowledgeNotice_sound (ha : l.validateActor actor = .ok ())
    (h : l.acknowledgeNotice enc actor notice = .ok next) :
    ControlStep enc l (.acknowledgeNotice notice) next := by
  obtain ⟨hd, h⟩ := check_ok.mp h
  obtain ⟨known, hk, h⟩ := bind_ok.mp h
  obtain ⟨ht, h⟩ := check_ok.mp h
  cases h
  have hk' : known = true := by simpa using ht
  exact .acknowledge (by simpa using hd)
    (currentNotice_of_noticeIsKnown ha (hk' ▸ hk))

lemma claimTodo_sound (h : l.claimTodo enc facts actor host id tok now = .ok (next, claim)) :
    LoopStep enc l facts actor now (.claim host id tok) next (some claim) none := by
  obtain ⟨ha, h⟩ := check_ok.mp h
  obtain ⟨hto, h⟩ := check_ok.mp h
  obtain ⟨decision, hdec, h⟩ := bind_ok.mp h
  obtain ⟨hse, h⟩ := check_ok.mp h
  obtain ⟨generation, hgen, h⟩ := bind_ok.mp h
  obtain ⟨todo, ht, h⟩ := bind_ok.mp h
  obtain ⟨expiresAt, he, h⟩ := bind_ok.mp h
  obtain ⟨authority, hau, h⟩ := bind_ok.mp h
  cases h
  obtain ⟨-, hdec⟩ := check_ok.mp hdec
  obtain ⟨-, peer, todo', hp, ht', hs⟩ := decision_selects hdec (by simpa using hse)
  rw [okOr_ok] at ht
  obtain rfl : todo' = todo := Option.mem_unique ht' ht
  obtain ⟨-, rfl⟩ := checkedAdd_eq_some.mp (okOr_ok.mp hgen)
  exact .work ht (.claim (by simpa [requireAgent] using ha) (by simpa using hto) hp
    hs he hau rfl)

lemma beginExecution_sound (h : l.beginExecution enc facts actor claim host now = .ok next) :
    LoopStep enc l facts actor now (.beginExecution claim host) next (some claim) none := by
  obtain ⟨ha, h⟩ := check_ok.mp h
  obtain ⟨-, h⟩ := check_ok.mp h
  obtain ⟨hc, h⟩ := check_ok.mp h
  obtain ⟨peer, hp, h⟩ := bind_ok.mp h
  obtain ⟨-, h⟩ := check_ok.mp h
  obtain ⟨todo, ht, h⟩ := bind_ok.mp h
  obtain ⟨hu, h⟩ := check_ok.mp h
  rw [okOr_ok] at ht
  obtain ⟨todo', held⟩ := requireClaim_iff.mp hc
  obtain rfl : todo' = todo := Option.mem_unique held.todo_eq ht
  split at h
  · cases h
  · cases h
    exact .work ht (.begin rfl (by simpa [requireAgent] using ha) held
      (rejectIf_ok.mp hu))

lemma heartbeat_sound (h : l.heartbeat enc facts actor claim now = .ok (next, renewed)) :
    LoopStep enc l facts actor now (.heartbeat claim) next (some renewed) none := by
  obtain ⟨ha, h⟩ := check_ok.mp h
  obtain ⟨hc, h⟩ := check_ok.mp h
  obtain ⟨todo, ht, h⟩ := bind_ok.mp h
  obtain ⟨expiresAt, he, h⟩ := bind_ok.mp h
  rw [okOr_ok] at ht
  obtain ⟨todo', held⟩ := requireClaim_iff.mp hc
  obtain rfl : todo' = todo := Option.mem_unique held.todo_eq ht
  cases h
  exact .work ht (.heartbeat rfl (by simpa [requireAgent] using ha) held he)

lemma reconcileRetry_sound (h : l.reconcileRetry enc facts actor id ev now = .ok next) :
    LoopStep enc l facts actor now (.reconcileRetry id ev) next none none := by
  obtain ⟨ho, h⟩ := check_ok.mp h
  obtain ⟨-, h⟩ := check_ok.mp h
  obtain ⟨todo, ht, h⟩ := bind_ok.mp h
  obtain ⟨claim, hc, h⟩ := bind_ok.mp h
  obtain ⟨-, h⟩ := check_ok.mp h
  cases h
  exact .work (okOr_ok.mp ht) (.retry (by simpa [requireOperator] using ho) (okOr_ok.mp hc))

lemma cancelTodo_sound (h : l.cancelTodo actor id rationaleDigest = .ok next) :
    LoopStep enc l facts actor now (.cancelTodo id rationaleDigest) next none none := by
  obtain ⟨-, h⟩ := check_ok.mp h
  obtain ⟨-, h⟩ := check_ok.mp h
  obtain ⟨todo, ht, h⟩ := bind_ok.mp h
  obtain ⟨ho, h⟩ := check_ok.mp h
  cases h
  simp only [passed, Option.isSome_eq_false_iff, Option.isNone_iff_eq_none] at ho
  exact .work (okOr_ok.mp ht) (.cancel ho.1 ho.2)

/-! ### Settlements -/

lemma acceptEvidence_ok {item : EvidenceId × String × DateTime}
    (h : l.acceptEvidence facts.mission claim now id = .ok item) :
    EvidenceAcceptable l facts now claim id := by
  obtain ⟨evidence, hf, h⟩ := bind_ok.mp h
  obtain ⟨hg, -⟩ := check_ok.mp h
  simp only [passed] at hg
  obtain ⟨⟨⟨⟨hs, hu⟩, hc⟩, ho⟩, hd⟩ := hg
  refine ⟨evidence, okOr_ok.mp hf, hs, ?_, hc, ho, hd⟩
  rw [← Std.ExtTreeSet.contains_iff_mem, hu]
  exact Bool.false_ne_true

lemma settleResult_ok {run run' : LoopRunSummary}
    (h : l.settleResult enc facts.mission claim result todo run now =
      .ok (next, outcome, run')) :
    ∃ spentSlots accepted streak,
      Settlement l facts now claim todo result outcome spentSlots accepted streak ∧
      next = { l with spentSlots, acceptedEvidence := accepted, noProgressStreak := streak } := by
  cases result with
  | progress =>
    obtain ⟨hw, h⟩ := check_ok.mp h
    obtain ⟨-, h⟩ := check_ok.mp h
    obtain ⟨hno, h⟩ := check_ok.mp h
    obtain ⟨evidence, hev, h⟩ := bind_ok.mp h
    obtain ⟨ev, -, h⟩ := bind_ok.mp h
    obtain ⟨spent, hs, h⟩ := bind_ok.mp h
    obtain ⟨-, rfl⟩ := checkedAdd_eq_some.mp (okOr_ok.mp hs)
    cases h
    refine ⟨_, _, _, .progress ?_ (rejectIf_ok.mp hno) ?_, rfl⟩
    · simpa [LoopTodo.isWork, bne] using hw
    · intro id hid
      -- Every id of the set was checked in the order of the set.
      obtain ⟨n, hn, rfl⟩ := List.getElem_of_mem (Std.ExtTreeSet.mem_toList.mpr hid)
      have hc := (List.forall₂_iff_get.mp (mapM_eq_ok_iff.mp hev))
      exact acceptEvidence_ok (hc.2 n hn (hc.1 ▸ hn))
  | monitorObservation =>
    obtain ⟨-, h⟩ := check_ok.mp h
    obtain ⟨monitor, hm, h⟩ := bind_ok.mp h
    obtain ⟨advanced, ha, h⟩ := bind_ok.mp h
    cases h
    exact ⟨_, _, _, .observation (okOr_ok.mp hm) ha, rfl⟩
  | noProgress =>
    obtain ⟨hg, h⟩ := check_ok.mp h
    cases h
    rw [rejectIf_ok, Bool.or_eq_false_iff] at hg
    refine ⟨_, _, _, .noProgress ?_, rfl⟩
    simpa [LoopTodo.isWork, bne] using hg.2
  | failed =>
    obtain ⟨-, h⟩ := check_ok.mp h
    cases h
    exact ⟨_, _, _, .failed, rfl⟩

lemma settle_ok {reconciled : Bool} {run : LoopRunSummary} (hv : LoopValid l facts.mission)
    (h : l.settle enc facts claim result reconciled now = .ok (next, run)) :
    ∃ todo outcome spentSlots accepted streak,
      l.todos[claim.todoId]? = some todo ∧ todo.claim = some claim ∧
      (reconciled = false → result.isUncertain = false →
        ClaimHeld enc l facts claim now todo) ∧
      (result.isFailed = false → todo.executionStarted = true) ∧
      Settlement l facts now claim todo result outcome spentSlots accepted streak ∧
      next = settledLoop l claim.todoId outcome spentSlots accepted streak run := by
  obtain ⟨ha, h⟩ := check_ok.mp h
  obtain ⟨todo, ht, h⟩ := bind_ok.mp h
  obtain ⟨hst, h⟩ := check_ok.mp h
  obtain ⟨sequence, hseq, h⟩ := bind_ok.mp h
  obtain ⟨⟨base, outcome, run'⟩, hres, h⟩ := bind_ok.mp h
  obtain ⟨spentSlots, accepted, streak, hs, rfl⟩ := settleResult_ok hres
  obtain ⟨-, rfl⟩ := checkedAdd_eq_some.mp (okOr_ok.mp hseq)
  rw [okOr_ok] at ht
  have hid : outcome.release.spec.id = claim.todoId :=
    (congrArg LoopTodoSpec.id hs.spec_eq).trans (hv.todos _ _ ht).id_eq.symm
  refine ⟨todo, outcome, spentSlots, accepted, streak, ht, ?_, ?_, ?_, hs, ?_⟩
  · unfold settleAuthority at ha
    split_ifs at ha
    · simpa [ht] using ha
    · obtain ⟨todo', held⟩ := requireClaim_iff.mp ha
      obtain rfl : todo' = todo := Option.mem_unique held.todo_eq ht
      exact held.stored
  · rintro rfl hc
    simp only [settleAuthority, hc, Bool.or_self, Bool.false_eq_true, if_false] at ha
    obtain ⟨todo', held⟩ := requireClaim_iff.mp ha
    obtain rfl : todo' = todo := Option.mem_unique held.todo_eq ht
    exact held
  · intro hsu
    simpa [hsu] using hst
  · cases h
    simp only [settledLoop, hid]

lemma settleAction_sound {run : LoopRunSummary}
    (hv : LoopValid l facts.mission) (ha : requireAgent actor claim.agentId = .ok ())
    (h : l.settle enc facts claim result false now = .ok (next, run)) :
    LoopStep enc l facts actor now (.settle claim result) next none (some run) := by
  obtain ⟨todo, outcome, spentSlots, accepted, streak, ht, hsto, hh, hst,
    hs, rfl⟩ := settle_ok hv h
  exact .work ht (.settle rfl (by simpa [requireAgent] using ha) hsto (hh rfl) hst
    hs)

lemma reconcileSettlement_sound {readbackDigest : String}
    {run : LoopRunSummary} (hv : LoopValid l facts.mission)
    (h : l.reconcileSettlement enc facts actor claim result readbackDigest now =
      .ok (next, run)) :
    LoopStep enc l facts actor now (.reconcileSettlement claim result readbackDigest) next
      none (some run) := by
  obtain ⟨-, h⟩ := check_ok.mp h
  obtain ⟨-, h⟩ := check_ok.mp h
  obtain ⟨hst, h⟩ := check_ok.mp h
  obtain ⟨authority, ha, h⟩ := bind_ok.mp h
  obtain ⟨hsa, h⟩ := check_ok.mp h
  obtain ⟨todo, outcome, spentSlots, accepted, streak, ht, hsto, -, hsta,
    hs, rfl⟩ := settle_ok hv h
  rw [rejectIf_ok, bne_eq_false_iff_eq] at hst hsa
  exact .work ht (.reconcile rfl hsto hst (hsa ▸ ha) hsta hs)

/-! ### The command table -/

lemma transition_sound {action : LoopAction} {receipt receipt' : LoopReceipt}
    (hv : LoopValid l facts.mission) (ha : l.validateActor actor = .ok ())
    (hc : receipt.claim = none) (hrun : receipt.run = none)
    (h : l.transition enc facts actor action receipt now = .ok (next, receipt')) :
    LoopStep enc l facts actor now action next receipt'.claim receipt'.run ∧
      receipt'.revision = receipt.revision := by
  obtain ⟨revision, _, _, replayed⟩ := receipt
  subst hc hrun
  cases action with
  | registerPeer =>
    obtain ⟨_, hx, hp⟩ := map_ok.mp h
    cases hp
    exact ⟨.control (registerPeer_sound hx), rfl⟩
  | addTodo =>
    obtain ⟨_, hx, hp⟩ := map_ok.mp h
    cases hp
    exact ⟨addTodo_sound hx, rfl⟩
  | openGate =>
    obtain ⟨_, hx, hp⟩ := map_ok.mp h
    cases hp
    exact ⟨.control (openGate_sound hx), rfl⟩
  | resolveGate =>
    obtain ⟨_, hx, hp⟩ := map_ok.mp h
    cases hp
    exact ⟨.control (resolveGate_sound hx), rfl⟩
  | pause =>
    obtain ⟨_, hx, hp⟩ := map_ok.mp h
    cases hp
    exact ⟨pause_sound hx, rfl⟩
  | setQuota =>
    obtain ⟨_, hx, hp⟩ := map_ok.mp h
    cases hp
    exact ⟨setQuota_sound hx, rfl⟩
  | steer =>
    obtain ⟨_, hx, hp⟩ := map_ok.mp h
    cases hp
    exact ⟨.invalidate (steer_sound hx), rfl⟩
  | claim =>
    obtain ⟨⟨_, claim⟩, hx, hp⟩ := bind_ok.mp h
    cases hp
    exact ⟨claimTodo_sound hx, rfl⟩
  | beginExecution =>
    obtain ⟨_, hx, hp⟩ := bind_ok.mp h
    cases hp
    exact ⟨beginExecution_sound hx, rfl⟩
  | heartbeat =>
    obtain ⟨⟨_, renewed⟩, hx, hp⟩ := bind_ok.mp h
    cases hp
    exact ⟨heartbeat_sound hx, rfl⟩
  | settle =>
    obtain ⟨hag, h⟩ := check_ok.mp h
    obtain ⟨⟨_, run⟩, hx, hp⟩ := bind_ok.mp h
    cases hp
    exact ⟨settleAction_sound hv hag hx, rfl⟩
  | reconcileSettlement =>
    obtain ⟨⟨_, run⟩, hx, hp⟩ := bind_ok.mp h
    cases hp
    exact ⟨reconcileSettlement_sound hv hx, rfl⟩
  | reconcileRetry =>
    obtain ⟨_, hx, hp⟩ := map_ok.mp h
    cases hp
    exact ⟨reconcileRetry_sound hx, rfl⟩
  | cancelTodo =>
    obtain ⟨_, hx, hp⟩ := map_ok.mp h
    cases hp
    exact ⟨cancelTodo_sound hx, rfl⟩
  | acknowledgeNotice =>
    obtain ⟨_, hx, hp⟩ := map_ok.mp h
    cases hp
    exact ⟨.control (acknowledgeNotice_sound ha hx), rfl⟩

end MissionLoop

/-! ## Successful commands -/

structure Proposed (enc : LoopEncoding) (l : MissionLoop) (input : LoopInput)
    (next : MissionLoop) (receipt : LoopReceipt) : Prop where
  valid : LoopValid l input.facts.mission
  clock : l.updatedAt ≤ input.now
  revision : receipt.revision = l.revision + 1
  step : ∃ moved, LoopStep enc l input.facts input.command.actor input.now
      input.command.action moved receipt.claim receipt.run ∧
    next = { moved with revision := l.revision + 1, updatedAt := input.now }

namespace MissionLoop

variable {input : LoopInput} {receipt : LoopReceipt}

lemma proposed_sound
    (h : l.proposed enc input.facts input.command input.now = .ok (next, receipt)) :
    Proposed enc l input next receipt := by
  obtain ⟨receipt₀, ha, h⟩ := bind_ok.mp h
  obtain ⟨⟨moved, receipt'⟩, ht, h⟩ := bind_ok.mp h
  cases h
  obtain ⟨hv, ha⟩ := check_ok.mp ha
  obtain ⟨-, ha⟩ := check_ok.mp ha
  obtain ⟨-, ha⟩ := check_ok.mp ha
  obtain ⟨hc, ha⟩ := check_ok.mp ha
  obtain ⟨hac, ha⟩ := check_ok.mp ha
  obtain ⟨revision, hrev, ha⟩ := bind_ok.mp ha
  obtain ⟨-, rfl⟩ := checkedAdd_eq_some.mp (okOr_ok.mp hrev)
  cases ha
  have hv := validateFor_iff.mp hv
  obtain ⟨hstep, hs⟩ := transition_sound hv hac rfl rfl ht
  refine ⟨hv, by simpa using hc, hs, moved, hstep, ?_⟩
  rw [hs]

/-- A command either fails and changes nothing, or it succeeds, and then it was proposed and its
result is valid. -/
lemma step_cases (enc : LoopEncoding) (l : MissionLoop) (input : LoopInput) :
    (∃ error, l.step enc input = (.error error, l)) ∨
      ∃ receipt next, l.step enc input = (.ok receipt, next) ∧
        Proposed enc l input next receipt ∧ LoopValid next input.facts.mission := by
  unfold step apply
  cases ha : l.applied enc input.facts input.command input.now with
  | error error => exact .inl ⟨error, rfl⟩
  | ok result =>
    obtain ⟨next, receipt⟩ := result
    obtain ⟨⟨_, _⟩, hp, h⟩ := bind_ok.mp ha
    obtain ⟨hv, h⟩ := check_ok.mp h
    cases h
    exact .inr ⟨receipt, next, rfl, proposed_sound hp, validateFor_iff.mp hv⟩

end MissionLoop

/-! ## A smallest loop -/

def LoopPolicy.sample : LoopPolicy where
  operatorId := "operator"
  maxSlots := 3
  maxParallel := 2
  leaseSeconds := 60
  stallLimit := 3

def MissionLoop.sample : MissionLoop :=
  MissionLoop.initial Mission.sample LoopPolicy.sample 0

lemma MissionLoop.new_sample :
    MissionLoop.new Mission.sample LoopPolicy.sample 0 = .ok MissionLoop.sample := by
  rfl

def LoopEncoding.sample : LoopEncoding where
  sha256 _ := 0
  authority _ := some []
  gates _ := some []
  evidence _ := some []

/-- The printed form of the zero hash. -/
def sampleDigest : String :=
  "0000000000000000000000000000000000000000000000000000000000000000"

def LoopMissionFacts.sample : LoopMissionFacts := ⟨Mission.sample, sampleDigest⟩

def LoopPeer.sample : LoopPeer := ⟨"agent", ∅, sampleDigest⟩

def LoopHost.sample : LoopHost := ⟨"agent", ∅, sampleDigest⟩

def LoopTodoSpec.sample : LoopTodoSpec where
  id := "todo"
  title := "Repair"
  taskId := none
  capability := none
  kind := .repair
  priority := 0
  dependsOn := ∅
  eligibleAgents := ∅
  requiredDecisions := ∅
  workspaceDigest := sampleDigest
  writeScopes := (∅ : BTreeSet String).insert "."
  monitor := none

def LoopInput.sample (revision : ℕ) (actor : LoopActor) (action : LoopAction) : LoopInput where
  facts := LoopMissionFacts.sample
  command := ⟨"op", revision, 1, actor, action⟩
  now := 0

/-- Register the sample peer, add the sample item, and claim it. -/
def sampleRun : List LoopInput :=
  [.sample 1 (.operator "operator") (.registerPeer .sample),
   .sample 2 (.operator "operator") (.addTodo .sample),
   .sample 3 (.agent "agent") (.claim .sample "todo" sampleDigest)]

def LoopClaim.sample : LoopClaim where
  todoId := "todo"
  agentId := "agent"
  tokenDigest := sampleDigest
  generation := 1
  steeringGeneration := 1
  authorityDigest := sampleDigest
  claimedAt := 0
  expiresAt := 60 * nanosPerSecond

/-! ## A small delivery -/

def LoopTodoSpec.delivery (id scope : String) (dependsOn : BTreeSet String) : LoopTodoSpec :=
  { LoopTodoSpec.sample with id, dependsOn, writeScopes := (∅ : BTreeSet String).insert scope }

def LoopClaim.delivery (generation : ℕ) (agentId todoId : String) : LoopClaim :=
  { LoopClaim.sample with todoId, agentId, generation }

def Evidence.delivery (id : EvidenceId) : Evidence :=
  ⟨id, "Report", "report", 0, .confirmed, sampleDigest⟩

/-- Two peers work on two items at the same time and make progress.  Then a third item is claimed,
which depends on the first one, and the claim of the first one is used again, in vain. -/
def deliveryRun : List LoopInput :=
  let mission := { Mission.sample with evidence := [.delivery "first", .delivery "second"] }
  let operator := LoopActor.operator "operator"
  let progress id next : LoopTurnResult := .progress ((∅ : BTreeSet EvidenceId).insert id) next
  let commands : List (LoopActor × LoopAction) :=
    [(operator, .registerPeer .sample),
     (operator, .registerPeer { LoopPeer.sample with id := "other" }),
     (operator, .addTodo (.delivery "todo" "src" ∅)),
     (operator, .addTodo (.delivery "side" "doc" ∅)),
     (operator, .addTodo (.delivery "next" "src" ((∅ : BTreeSet String).insert "todo"))),
     (.agent "agent", .claim .sample "todo" sampleDigest),
     (.agent "other", .claim { LoopHost.sample with agentId := "other" } "side" sampleDigest),
     (.agent "agent", .beginExecution (.delivery 1 "agent" "todo") .sample),
     (.agent "other", .beginExecution (.delivery 2 "other" "side")
       { LoopHost.sample with agentId := "other" }),
     (.agent "agent", .settle (.delivery 1 "agent" "todo") (progress "first" (.nextTodo "next"))),
     (.agent "other", .settle (.delivery 2 "other" "side") (progress "second" .noFollowup)),
     (.agent "agent", .claim .sample "next" sampleDigest),
     (.agent "agent", .heartbeat (.delivery 1 "agent" "todo"))]
  commands.zipIdx.map fun ((actor, action), i) =>
    { LoopInput.sample (i + 1) actor action with facts := ⟨mission, sampleDigest⟩ }

/-! ## Invariants of whole runs -/

section Runs

variable {I : MissionLoop → Prop}

/-- A property that every successful command keeps holds after every run. -/
lemma loopRun_invariant {l : MissionLoop}
    (hstep : ∀ {l next input receipt}, Proposed enc l input next receipt →
      LoopValid next input.facts.mission → I l → I next) (hl : I l) (inputs : List LoopInput) :
    I (run (MissionLoop.step enc) l inputs) := by
  refine run_invariant (MissionLoop.step enc) ?_ hl inputs
  intro l input hl
  rcases MissionLoop.step_cases enc l input with
    ⟨error, hf⟩ | ⟨_, _, hok, hp, hv⟩
  · rw [hf]
    exact hl
  · rw [hok]
    exact hstep hp hv hl

lemma loopRun_todos_valid {mission : Mission} {start : DateTime} {l₀ : MissionLoop}
    {policy : LoopPolicy}
    (hnew : MissionLoop.new mission policy start = .ok l₀) (inputs : List LoopInput)
    (hid : (run (MissionLoop.step enc) l₀ inputs).todos[id]? = some todo) :
    TodoValid (run (MissionLoop.step enc) l₀ inputs) id todo := by
  refine loopRun_invariant
    (I := fun l => ∀ (id : String) (todo : LoopTodo), l.todos[id]? = some todo →
      TodoValid l id todo) (fun _ hv _ => hv.todos) ?_ inputs id todo hid
  obtain ⟨-, rfl⟩ := new_ok hnew
  intro id todo hid
  simp [MissionLoop.initial] at hid

end Runs

end Hartevo
