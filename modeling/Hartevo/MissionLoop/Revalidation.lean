import Hartevo.MissionLoop.Step

/-!
# The validation after a command never fails

`MissionLoop.apply` validates the aggregate it is about to store.  That check is redundant: the
result of every command that is admitted and whose transition succeeds is valid.

Validity alone is not enough to prove this, for two reasons.  The number of acknowledged notices is
bounded by the number of peers because every acknowledged notice is the current one of some peer.
And the lease that a heartbeat renews ends after the claim was issued because a monitor outlives
the instant at which it was claimed.  `Sustained` adds these two facts; every step keeps it.
-/

namespace Hartevo

open MissionLoop Std

variable {enc : LoopEncoding} {l next : MissionLoop} {fs : LoopMissionFacts} {ar : LoopActor}
  {now ex : DateTime} {act : LoopAction} {cl : Option LoopClaim} {td : LoopTodo}

/-! ## What every step leaves in place -/

/-- The second aggregate has the identity of the first and at least its entries. -/
structure Grows (l next : MissionLoop) : Prop where
  schema : next.schemaVersion = l.schemaVersion
  tenant : next.tenantId = l.tenantId
  project : next.projectId = l.projectId
  mission : next.missionId = l.missionId
  created : next.createdAt = l.createdAt
  peers : ∀ id ∈ l.peers, id ∈ next.peers
  todos : ∀ id ∈ l.todos, id ∈ next.todos
  claims : l.claimGeneration ≤ next.claimGeneration
  steering : l.steeringGeneration ≤ next.steeringGeneration

lemma Grows.specValid {spec : LoopTodoSpec}
    (h : Grows l next) (hs : SpecValid l spec) : SpecValid next spec := by
  refine { hs with dependsOn_mem := ?_, eligible_mem := ?_, monitor := ?_ }
  · intro id hid
    exact h.todos id (hs.dependsOn_mem id hid)
  · intro id hid
    exact h.peers id (hs.eligible_mem id hid)
  · intro monitor hm
    rw [h.created]
    exact hs.monitor monitor hm

lemma Grows.claimValid {c : LoopClaim} (h : Grows l next) {id : String} (hc : ClaimValid l id c) :
    ClaimValid next id c :=
  { hc with
    agent_mem := h.peers _ hc.agent_mem
    generation_le := hc.generation_le.trans h.claims
    steering_le := hc.steering_le.trans h.steering }

lemma Grows.todoValid (h : Grows l next) {id : String} (ht : TodoValid l id td) :
    TodoValid next id td :=
  { ht with
    spec := h.specValid ht.spec
    claim := fun c hc => h.claimValid (ht.claim c hc) }

lemma Grows.validateGate {gate : LoopUserGate}
    (h : Grows l next) (hg : l.validateGate gate = .ok ()) : next.validateGate gate = .ok () := by
  obtain ⟨ht, hs⟩ := check_ok.mp hg
  refine check_ok.mpr ⟨ht, ?_⟩
  split at hs
  · rfl
  · rw [rejectIf_ok, Bool.not_eq_false', ExtTreeMap.contains_iff_mem] at hs ⊢
    exact h.peers _ hs
  · rw [rejectIf_ok, Bool.not_eq_false', ExtTreeMap.contains_iff_mem] at hs ⊢
    exact h.todos _ hs
  · exact hs

section Steps

variable {run : Option LoopRunSummary}

lemma LoopStep.grows (h : LoopStep enc l fs ar now act next cl run) : Grows l next := by
  have ht : ∀ id ∈ l.todos, id ∈ next.todos := fun id hid => h.todos_mono hid
  have hp : ∀ (peer : LoopPeer), ∀ id ∈ l.peers, id ∈ l.peers.insert peer.id peer :=
    fun peer id hid => ExtTreeMap.mem_insert.mpr (Or.inr hid)
  cases h with
  | control step =>
    cases step with
    | registerPeer =>
      exact ⟨rfl, rfl, rfl, rfl, rfl, hp _, ht, le_rfl, le_rfl⟩
    | openGate | resolveGate | resume | raiseQuota | acknowledge =>
      exact ⟨rfl, rfl, rfl, rfl, rfl, fun _ hid => hid, ht, le_rfl, le_rfl⟩
  | add => exact ⟨rfl, rfl, rfl, rfl, rfl, fun _ hid => hid, ht, le_rfl, le_rfl⟩
  | invalidate step =>
    cases step <;>
      exact ⟨rfl, rfl, rfl, rfl, rfl, fun _ hid => hid, ht, le_rfl, Nat.le_succ _⟩
  | work _ step =>
    cases step with
    | claim => exact ⟨rfl, rfl, rfl, rfl, rfl, fun _ hid => hid, ht, Nat.le_succ _, le_rfl⟩
    | begin | heartbeat | settle | reconcile | retry | cancel =>
      exact ⟨rfl, rfl, rfl, rfl, rfl, fun _ hid => hid, ht, le_rfl, le_rfl⟩

lemma LoopStep.sizes (hv : LoopValid l fs.mission) (h : LoopStep enc l fs ar now act next cl run) :
    next.todos.size ≤ loopFrontierLimit ∧ next.gates.size ≤ loopFrontierLimit ∧
      next.peers.size ≤ loopPeerLimit ∧ next.recentRuns.length ≤ loopHistoryLimit := by
  have ht := hv.todos_size
  have hg := hv.gates_size
  have hp := hv.peers_size
  have hr := hv.runs_length
  cases h with
  | control step =>
    cases step with
    | registerPeer room =>
      exact ⟨ht, hg, ExtTreeMap.size_insert_le.trans room, hr⟩
    | openGate room => exact ⟨ht, ExtTreeMap.size_insert_le.trans room, hp, hr⟩
    | resolveGate => exact ⟨ht, ExtTreeMap.size_erase_le.trans hg, hp, hr⟩
    | resume | raiseQuota | acknowledge => exact ⟨ht, hg, hp, hr⟩
  | add room => exact ⟨ExtTreeMap.size_insert_le.trans room, hg, hp, hr⟩
  | invalidate step =>
    have hs : l.invalidatedTodos.size ≤ loopFrontierLimit := by
      rwa [invalidatedTodos, ExtTreeMap.size_map]
    cases step <;> exact ⟨hs, hg, hp, hr⟩
  | @work _ id _ _ _ _ _ found step =>
    have hs : ∀ td' : LoopTodo, (l.todos.insert id td').size ≤ loopFrontierLimit := by
      intro td'
      have hmem : l.todos.contains id = true := by
        rw [ExtTreeMap.contains_eq_isSome_getElem?, found]
        rfl
      rwa [ExtTreeMap.size_insert, if_pos hmem]
    have hh : ∀ runs, (truncateHistory runs).length ≤ loopHistoryLimit := by
      intro runs
      rw [truncateHistory, List.length_drop]
      omega
    cases step with
    | claim | begin | heartbeat | retry | cancel => exact ⟨hs _, hg, hp, hr⟩
    | settle | reconcile => exact ⟨hs _, hg, hp, hh _⟩

end Steps

/-! ## Acknowledged notices -/

section Notices

variable {notice : String}

def visibleGates (l : MissionLoop) (agent : String) : List LoopUserGate :=
  l.gates.vals.filter (l.gateVisible agent)

/-- A notification digest is the digest of the gates that concern some registered peer. -/
lemma currentNotice_iff : CurrentNotice enc l notice ↔
    ∃ agent ∈ l.peers, visibleGates l agent ≠ [] ∧
      loopDigest enc (enc.gates (visibleGates l agent)) = .ok notice := by
  refine exists_congr fun agent => and_congr_right fun _ => ?_
  unfold userChannel
  change (∃ channel, ((if (visibleGates l agent).isEmpty then _ else _) >>= _) = _ ∧ _) ↔ _
  constructor
  · rintro ⟨channel, hc, hn⟩
    obtain ⟨digest, hd, hc⟩ := bind_ok.mp hc
    cases hc
    obtain rfl : digest = some notice := hn
    split at hd
    · cases hd
    · next hg =>
      obtain ⟨_, hd, hs⟩ := map_ok.mp hd
      cases hs
      exact ⟨by simpa using hg, hd⟩
  · rintro ⟨hg, hd⟩
    refine ⟨_, bind_ok.mpr ⟨some notice, ?_, rfl⟩, rfl⟩
    rw [if_neg (by simpa using hg)]
    exact map_ok.mpr ⟨notice, hd, rfl⟩

lemma CurrentNotice.mono (h : CurrentNotice enc l notice) (hp : ∀ id ∈ l.peers, id ∈ next.peers)
    (hg : ∀ agent, visibleGates next agent = visibleGates l agent) :
    CurrentNotice enc next notice := by
  obtain ⟨agent, ha, hn, hd⟩ := currentNotice_iff.mp h
  rw [← hg agent] at hn hd
  exact currentNotice_iff.mpr ⟨agent, hp agent ha, hn, hd⟩

lemma CurrentNotice.digest (h : CurrentNotice enc l notice) : digest notice = true := by
  obtain ⟨_, _, _, hd⟩ := currentNotice_iff.mp h
  exact digest_of_loopDigest hd

/-- There are at most as many current notices as peers. -/
lemma size_le_of_currentNotice {notices : BTreeSet String}
    (h : ∀ notice ∈ notices, CurrentNotice enc l notice) : notices.size ≤ l.peers.size := by
  -- Each peer contributes at most one digest.
  let digests := l.peers.keys.filterMap fun agent =>
    (loopDigest enc (enc.gates (visibleGates l agent))).toOption
  have hsub : ∀ notice ∈ notices, notice ∈ digests := by
    intro notice hn
    obtain ⟨agent, ha, -, hd⟩ := currentNotice_iff.mp (h notice hn)
    refine List.mem_filterMap.mpr ⟨agent, ExtTreeMap.mem_keys.mpr ha, ?_⟩
    rw [hd]
    rfl
  calc notices.size ≤ digests.length := ExtTreeSet.size_le_length_of_subset hsub
    _ ≤ l.peers.keys.length := List.length_filterMap_le _ _
    _ = l.peers.size := ExtTreeMap.length_keys

lemma currentNotice_of_currentNotices {current : List String}
    (h : l.currentNotices enc = .ok current)
    (hn : notice ∈ current) : CurrentNotice enc l notice := by
  obtain ⟨channels, hc, h⟩ := bind_ok.mp h
  cases h
  obtain ⟨channel, hch, hd⟩ := List.mem_filterMap.mp hn
  obtain ⟨agent, ha, hr⟩ := exists_of_mem_mapM hc hch
  exact ⟨agent, ExtTreeMap.mem_keys.mp ha, channel, hr, hd⟩

end Notices

section NoticeSteps

variable {run : Option LoopRunSummary}

/-- A step does not change which agents a gate concerns: the item a gate refers to exists, and the
agents that are eligible for it stay the same. -/
lemma LoopStep.gateVisible_eq {gate : LoopUserGate} (h : LoopStep enc l fs ar now act next cl run)
    (hg : l.validateGate gate = .ok ()) (agent : String) :
    next.gateVisible agent gate = l.gateVisible agent gate := by
  obtain ⟨-, hs⟩ := check_ok.mp hg
  unfold gateVisible
  split
  · rfl
  · next id hid =>
    rw [hid, rejectIf_ok, Bool.not_eq_false', ExtTreeMap.contains_iff_mem] at hs
    obtain ⟨td', ht'⟩ := Option.isSome_iff_exists.mp
      (ExtTreeMap.mem_iff_isSome_getElem?.mp (h.todos_mono hs))
    rcases h.spec_cases ht' with ⟨td, ht, hsp⟩ | ⟨_, _, _, hf, _⟩
    · rw [ht', ht, Option.any_some, Option.any_some, hsp]
    · rw [ExtTreeMap.mem_iff_isSome_getElem?, hf] at hs
      cases hs
  · rfl
  · rfl

lemma LoopStep.visibleGates_eq (hv : LoopValid l fs.mission)
    (h : LoopStep enc l fs ar now act next cl run) (hg : next.gates = l.gates)
    (agent : String) : visibleGates next agent = visibleGates l agent := by
  unfold visibleGates
  rw [hg]
  refine List.filter_congr fun gate hga => ?_
  obtain ⟨id, hid⟩ := ExtTreeMap.mem_vals.mp hga
  exact h.gateVisible_eq (hv.gates id gate hid).2 agent

/-- Every acknowledged notice is the current one of a peer. -/
def NoticesCurrent (enc : LoopEncoding) (l : MissionLoop) : Prop :=
  ∀ notice ∈ l.acknowledgedNotices, CurrentNotice enc l notice

lemma noticesCurrent_of_pruned {current : List String} (h : l.currentNotices enc = .ok current) :
    NoticesCurrent enc { l with
      acknowledgedNotices :=
        l.acknowledgedNotices.filter fun notice => current.contains notice } := by
  intro notice hn
  obtain ⟨_, hk⟩ := ExtTreeSet.mem_filter.mp hn
  have hmem : notice ∈ current := by simpa using hk
  exact (currentNotice_of_currentNotices h hmem).mono (fun _ hid => hid) fun _ => rfl

lemma LoopStep.noticesCurrent (hv : LoopValid l fs.mission)
    (h : LoopStep enc l fs ar now act next cl run)
    (hl : NoticesCurrent enc l) : NoticesCurrent enc next := by
  -- Most steps change neither the gates nor the acknowledgements.
  have hf : next.gates = l.gates → next.acknowledgedNotices = l.acknowledgedNotices →
      NoticesCurrent enc next := by
    intro hg hno notice hn
    rw [hno] at hn
    exact (hl notice hn).mono h.grows.peers (h.visibleGates_eq hv hg)
  cases h with
  | control step =>
    cases step with
    | openGate _ _ _ notices => exact noticesCurrent_of_pruned notices
    | resolveGate notices => exact noticesCurrent_of_pruned notices
    | acknowledge _ known =>
      intro notice hn
      have hcur : CurrentNotice enc l notice := by
        rcases ExtTreeSet.mem_insert_iff.mp hn with rfl | hold
        · exact known
        · exact hl notice hold
      exact hcur.mono (fun _ hid => hid) fun _ => rfl
    | registerPeer | resume | raiseQuota => exact hf rfl rfl
  | add => exact hf rfl rfl
  | invalidate step => cases step <;> exact hf rfl rfl
  | work _ step => cases step <;> exact hf rfl rfl

end NoticeSteps

/-! ## Leases -/

section Leases

variable {ms : Mission} {t : DateTime}

/-- A policy that passes its check grants leases of at least one second. -/
lemma LoopPolicy.one_le_leaseSeconds {policy : LoopPolicy} (h : policy.validate = .ok ()) :
    1 ≤ policy.leaseSeconds := by
  have hb : (!(decide (1 ≤ policy.leaseSeconds) && decide (policy.leaseSeconds ≤ 900))) =
      false := by
    rw [LoopPolicy.validate, rejectIf_ok] at h
    simp only [Bool.or_eq_false_iff] at h
    exact h.1.2
  simp only [Bool.not_eq_false', Bool.and_eq_true, decide_eq_true_eq] at hb
  exact hb.1

lemma lt_validUntil_of_hardStop (h : l.hardStop ms now = none) : now < ms.contract.validUntil := by
  unfold hardStop at h
  split_ifs at h with ht he
  exact lt_of_not_ge he

/-- A lease taken while the loop may run ends after every instant up to now that the monitor of
the item outlives. -/
lemma lt_leaseExpiry (hp : l.policy.validate = .ok ()) (hr : l.hardStop ms now = none)
    (h : l.leaseExpiry ms td now = .ok ex) (ht : t ≤ now)
    (hm : ∀ monitor, td.spec.monitor = some monitor → t < monitor.expiresAt) : t < ex := by
  obtain ⟨lease, hl, h⟩ := bind_ok.mp h
  have hnow : now < lease := by
    rw [DateTime.eq_of_checkedAddSeconds (okOr_ok.mp hl)]
    have hse : (1 : ℤ) ≤ l.policy.leaseSeconds := by
      exact_mod_cast LoopPolicy.one_le_leaseSeconds hp
    have hn : (0 : ℤ) < l.policy.leaseSeconds * nanosPerSecond := mul_pos (by omega) (by decide)
    exact lt_add_of_pos_right now hn
  have hcon : t < min lease ms.contract.validUntil :=
    lt_min (ht.trans_lt hnow) (ht.trans_lt (lt_validUntil_of_hardStop hr))
  cases hs : td.spec.monitor with
  | none =>
    rw [hs] at h
    cases h
    exact hcon
  | some monitor =>
    rw [hs] at h
    cases h
    exact lt_min hcon (hm monitor hs)

end Leases

/-- What validity alone does not say: the acknowledged notices are current, and a monitor outlives
the instant at which it was claimed. -/
structure Sustained (enc : LoopEncoding) (l : MissionLoop) : Prop where
  notices : NoticesCurrent enc l
  leases : ∀ {id : String} {todo : LoopTodo} {c : LoopClaim} {monitor : LoopMonitor},
    l.todos[id]? = some todo → todo.claim = some c → todo.spec.monitor = some monitor →
    c.claimedAt < monitor.expiresAt

/-! ## Work items -/

section Items

variable {run : Option LoopRunSummary} {id tok authority : String} {td' outcome : LoopTodo}
  {monitor advanced : LoopMonitor}
  {peer : LoopPeer}

lemma todoValid_of_unclaimed (hid : id = td.spec.id) (hsp : SpecValid l td.spec)
    (hcl : td.claim = none) (hs : td.executionStarted = false)
    (hst : ¬(td.status = .claimed ∨ td.status = .uncertain)) : TodoValid l id td := by
  refine ⟨hid, hsp, ⟨fun h => absurd h hst, fun h => ?_⟩, fun h => ?_, fun c hc => ?_⟩
  · rw [hcl] at h
    cases h
  · rw [hs] at h
    cases h
  · rw [hcl] at hc
    cases hc

lemma LoopMonitor.eq_of_advance (h : monitor.advance now = .ok advanced) :
    advanced = { monitor with nextDueAt := advanced.nextDueAt } := by
  obtain ⟨_, _, h⟩ := bind_ok.mp h
  obtain ⟨_, _, h⟩ := bind_ok.mp h
  obtain ⟨_, _, h⟩ := bind_ok.mp h
  cases h
  rfl

lemma SpecValid.advance {spec : LoopTodoSpec} (hs : SpecValid l spec)
    (hm : spec.monitor = some monitor) (ha : monitor.advance now = .ok advanced) :
    SpecValid l { spec with monitor := some advanced } := by
  refine { hs with monitor_iff := ?_, monitor := ?_ }
  · rw [hs.monitor_iff, hm]
    exact Iff.rfl
  · rintro _ ⟨rfl⟩
    rw [LoopMonitor.eq_of_advance ha]
    exact hs.monitor monitor hm

lemma Settlement.todoValid {c : LoopClaim} {result : LoopTurnResult} {spent streak : ℕ}
    {accepted : BTreeSet EvidenceId} (ht : TodoValid l id td)
    (hst : td.claim = some c) (h : Settlement l fs now c td result outcome spent accepted streak) :
    TodoValid l id outcome.release := by
  have hid : id = outcome.release.spec.id := by
    rw [h.spec_eq]
    exact ht.id_eq
  have hs : SpecValid l outcome.release.spec := by
    rw [release_spec]
    cases h with
    | observation monitored advance => exact ht.spec.advance monitored advance
    | progress | noProgress | failed => exact ht.spec
  by_cases hunc : outcome.status = .uncertain
  · -- Only a failure of unknown effect keeps the claim.
    have hr : outcome.release = outcome := by simp [LoopTodo.release, hunc]
    rw [hr] at hid hs ⊢
    cases h with
    | progress | noProgress => cases hunc
    | observation =>
      dsimp only at hunc
      split_ifs at hunc
    | failed =>
      refine ⟨hid, hs, ?_, ht.started, ht.claim⟩
      rw [hunc, hst]
      simp
  · have hr : outcome.release = { outcome with claim := none, executionStarted := false } := by
      simp [LoopTodo.release, hunc]
    have hc : outcome.status ≠ .claimed := by
      cases h with
      | progress | noProgress => simp
      | observation | failed =>
        dsimp only
        split_ifs <;> simp
    refine todoValid_of_unclaimed hid hs ?_ ?_ ?_
    · rw [hr]
    · rw [hr]
    · rw [release_status]
      exact not_or.mpr ⟨hc, hunc⟩

lemma issuedClaim_valid {host : LoopHost} (hv : LoopValid l fs.mission) (hg : Grows l next)
    (hgen : next.claimGeneration = l.claimGeneration + 1) (ht : digest tok = true)
    (hr : l.peers[host.agentId]? = some peer) (hs : Selectable l fs.mission peer host now td)
    (he : l.leaseExpiry fs.mission td now = .ok ex) (hau : authorityDigest enc fs = .ok authority) :
    ClaimValid next id (issuedClaim l now host id tok authority ex) := by
  have ha : host.agentId ∈ l.peers := by
    rw [ExtTreeMap.mem_iff_isSome_getElem?, hr]
    rfl
  have hl : now < ex :=
    lt_leaseExpiry hv.policy hs.running he le_rfl fun monitor hm => (hs.due monitor hm).2
  exact ⟨rfl, hg.peers _ ha, ht, digest_of_authorityDigest hau,
    Nat.succ_ne_zero _, hgen.ge, hg.steering, hl⟩

lemma WorkStep.todoValid (hv : LoopValid l fs.mission) (hl : Sustained enc l)
    (found : l.todos[id]? = some td) (hg : Grows l next)
    (h : WorkStep enc l fs ar now id td act td' next cl run) : TodoValid next id td' := by
  have ht := hv.todos id td found
  have hs := hg.specValid ht.spec
  cases h with
  | claim _ tokenDigest_ok registered selectable expiry authorized issued =>
    refine ⟨ht.id_eq, hs, by simp, by simp, ?_⟩
    rintro c hc
    obtain rfl := (Option.some.inj hc).symm.trans issued
    exact issuedClaim_valid hv hg rfl tokenDigest_ok registered selectable expiry authorized
  | begin _ _ held =>
    refine ⟨ht.id_eq, hs, ht.status_iff, ?_, ?_⟩
    · rintro -
      simp [held.stored]
    · exact fun c hc => hg.claimValid (ht.claim c hc)
  | heartbeat _ _ held expiry =>
    refine ⟨ht.id_eq, hs, by simp [held.status], by simp, ?_⟩
    rintro _ ⟨rfl⟩
    have hb := ht.claim _ held.stored
    have hle := lt_leaseExpiry hv.policy held.running expiry held.issued
      fun monitor hm => hl.leases found held.stored hm
    exact { hg.claimValid hb with claimedAt_lt := hle }
  | settle _ _ stored _ _ sett | reconcile _ stored _ _ _ sett =>
    exact hg.todoValid (sett.todoValid ht stored)
  | retry => exact todoValid_of_unclaimed ht.id_eq hs rfl rfl (by simp)
  | cancel _ unclaimed =>
    refine todoValid_of_unclaimed ht.id_eq hs unclaimed ?_ (by simp)
    by_contra hst
    have hcl := ht.started (by simpa using hst)
    rw [unclaimed] at hcl
    cases hcl

lemma TodoValid.invalidate (ht : TodoValid l id td) : TodoValid l id td.invalidate := by
  unfold LoopTodo.invalidate
  split_ifs with hc
  · exact ⟨ht.id_eq, ht.spec, by simp [hc], fun _ => hc, ht.claim⟩
  · exact ht

variable (hv : LoopValid l fs.mission)

include hv

lemma LoopStep.todoValid (hl : Sustained enc l) (h : LoopStep enc l fs ar now act next cl run)
    (hid : next.todos[id]? = some td') : TodoValid next id td' := by
  rcases h.todo_cases hid with hs | ⟨spec, rfl, rfl, -, rfl⟩ | ⟨td, ht, rfl, -⟩ | ⟨td, ht, step⟩
  · exact h.grows.todoValid (hv.todos _ _ hs)
  · exact todoValid_of_unclaimed rfl (h.grows.specValid h.of_addTodo.2) rfl rfl
      (by simp [LoopTodo.new])
  · exact h.grows.todoValid (hv.todos _ _ ht).invalidate
  · exact step.todoValid hv hl ht h.grows

lemma LoopStep.sustained (h : LoopStep enc l fs ar now act next cl run) (hl : Sustained enc l) :
    Sustained enc next := by
  refine ⟨h.noticesCurrent hv hl.notices, ?_⟩
  intro id td' c' monitor hid hcl hm
  rcases h.claim_cases hid hcl with ⟨td, c, ht, hc, hsp, hk, -⟩ |
    ⟨td, ht, hsp, -, host, tok, peer, authority, -, hs, hi⟩
  · rw [hsp] at hm
    have hle := hl.leases ht hc hm
    rw [hk]
    exact hle
  · rw [hsp] at hm
    rw [hi]
    exact (hs.due monitor hm).2

lemma LoopStep.gateValid {gate : LoopUserGate} (h : LoopStep enc l fs ar now act next cl run)
    (hid : next.gates[id]? = some gate) : id = gate.id ∧ next.validateGate gate = .ok () := by
  have hk : l.gates[id]? = some gate → id = gate.id ∧ next.validateGate gate = .ok () := by
    intro hold
    obtain ⟨hn, hga⟩ := hv.gates id gate hold
    exact ⟨hn, h.grows.validateGate hga⟩
  have hg := h.grows
  cases h with
  | control step =>
    cases step with
    | openGate _ wellFormed =>
      rw [ExtTreeMap.getElem?_insert_iff] at hid
      split_ifs at hid with hs
      · obtain rfl := Option.some.inj hid
        exact ⟨hs.symm, hg.validateGate wellFormed⟩
      · exact hk hid
    | resolveGate =>
      rw [ExtTreeMap.getElem?_erase] at hid
      split_ifs at hid
      exact hk hid
    | registerPeer | resume | raiseQuota | acknowledge => exact hk hid
  | add => exact hk hid
  | invalidate step => cases step <;> exact hk hid
  | work _ step => cases step <;> exact hk hid

lemma LoopStep.peerValid (h : LoopStep enc l fs ar now act next cl run)
    (hid : next.peers[id]? = some peer) : validatePeer id peer = .ok () := by
  cases h with
  | control step =>
    cases step with
    | registerPeer =>
      rw [ExtTreeMap.getElem?_insert_iff] at hid
      split_ifs at hid with hs
      · obtain rfl := Option.some.inj hid
        rwa [← hs]
      · exact hv.peers id peer hid
    | openGate | resolveGate | resume | raiseQuota | acknowledge => exact hv.peers id peer hid
  | add => exact hv.peers id peer hid
  | invalidate step => cases step <;> exact hv.peers id peer hid
  | work _ step => cases step <;> exact hv.peers id peer hid

lemma LoopStep.policyValid
    (h : LoopStep enc l fs ar now act next cl run) : next.policy.validate = .ok () := by
  rw [h.policy_eq]
  exact hv.policy

end Items

/-! ## The whole aggregate -/

section Whole

variable {input : LoopInput} {receipt : LoopReceipt}

lemma grows_stamped (l : MissionLoop) (revision : ℕ) (now : DateTime) :
    Grows l { l with revision, updatedAt := now } :=
  ⟨rfl, rfl, rfl, rfl, rfl, fun _ hid => hid, fun _ hid => hid, le_rfl, le_rfl⟩

lemma NoticesCurrent.stamped (h : NoticesCurrent enc l) (revision : ℕ) (now : DateTime) :
    NoticesCurrent enc { l with revision, updatedAt := now } :=
  fun notice hn => (h notice hn).mono (fun _ hid => hid) fun _ => rfl

lemma Proposed.loopValid (h : Proposed enc l input next receipt)
    (hl : Sustained enc l) : LoopValid next input.facts.mission := by
  have hv := h.valid
  obtain ⟨moved, hstep, rfl⟩ := h.step
  have hg := hstep.grows
  have hs := grows_stamped moved (l.revision + 1) input.now
  have hp := hstep.policyValid hv
  obtain ⟨ht, hga, hpe, hr⟩ := hstep.sizes hv
  have hn := (hstep.noticesCurrent hv hl.notices).stamped (l.revision + 1) input.now
  have hst : moved.steeringGeneration ≠ 0 := by
    have hpos := hv.steering_pos
    have hle := hg.steering
    omega
  exact {
    policy := hp
    schema := hg.schema.trans hv.schema
    revision_pos := Nat.succ_ne_zero _
    steering_pos := hst
    created_le := hg.created.le.trans (hv.created_le.trans h.clock)
    todos_size := ht
    gates_size := hga
    peers_size := hpe
    runs_length := hr
    notices_size := size_le_of_currentNotice hn
    notices_digest := fun notice hno => (hn notice hno).digest
    tenant_eq := hg.tenant.trans hv.tenant_eq
    project_eq := hg.project.trans hv.project_eq
    mission_eq := hg.mission.trans hv.mission_eq
    peers := fun _ _ hid => hstep.peerValid hv hid
    todos := fun _ _ hid => hs.todoValid (hstep.todoValid hv hl hid)
    gates := fun _ _ hid =>
      (hstep.gateValid hv hid).imp_right fun hgat => hs.validateGate hgat }

lemma Proposed.sustained (h : Proposed enc l input next receipt)
    (hl : Sustained enc l) : Sustained enc next := by
  obtain ⟨moved, hstep, rfl⟩ := h.step
  obtain ⟨hn, hle⟩ := hstep.sustained h.valid hl
  exact ⟨hn.stamped _ _, hle⟩

lemma initial_sustained (ms : Mission) (policy : LoopPolicy) (start : DateTime) :
    Sustained enc (initial ms policy start) := by
  refine ⟨fun notice hn => ?_, fun hid => ?_⟩
  · simp [initial] at hn
  · simp [initial] at hid

lemma applied_eq_error {cmd : LoopCommand} {error : LoopError}
    (h : (l.apply enc fs cmd now).1 = .error error) : l.applied enc fs cmd now = .error error := by
  unfold apply at h
  split at h
  · cases h
  · next he =>
    cases h
    exact he

/-- In every run from a new loop, the aggregate that a command proposes passes the validation that
follows.  A command therefore fails only with the error of the checks before its action or with the
error of the action itself. -/
theorem revalidation_redundant {mission : Mission} {policy : LoopPolicy} {start : DateTime}
    {l₀ : MissionLoop} (hnew : MissionLoop.new mission policy start = .ok l₀)
    (inputs : List LoopInput) (facts : LoopMissionFacts) (command : LoopCommand) (now : DateTime) :
    let l := run (MissionLoop.step enc) l₀ inputs
    (∀ next receipt, l.proposed enc facts command now = .ok (next, receipt) →
        next.validateFor facts.mission = .ok ()) ∧
      ∀ error, (l.apply enc facts command now).1 = .error error →
        l.admission facts command now = .error error ∨
          ∃ receipt, l.admission facts command now = .ok receipt ∧
            l.transition enc facts command.actor command.action receipt now =
              .error error := by
  intro l
  obtain ⟨-, rfl⟩ := new_ok hnew
  have hs : Sustained enc l :=
    loopRun_invariant (fun h _ => h.sustained) (initial_sustained mission policy start) inputs
  have hpo : ∀ next receipt, l.proposed enc facts command now = .ok (next, receipt) →
      next.validateFor facts.mission = .ok () := by
    intro next receipt hp
    have hso : Proposed enc l ⟨facts, command, now⟩ next receipt := proposed_sound hp
    exact validateFor_iff.mpr (hso.loopValid hs)
  refine ⟨hpo, ?_⟩
  intro error he
  rcases bind_eq_error.mp (applied_eq_error he) with hp | ⟨result, hp, h⟩
  · rcases bind_eq_error.mp hp with ha | ⟨receipt, ha, h⟩
    · exact .inl ha
    · rcases bind_eq_error.mp h with ht | ⟨_, _, hr⟩
      · exact .inr ⟨receipt, ha, ht⟩
      · cases hr
  · rcases bind_eq_error.mp h with hv | ⟨_, _, hr⟩
    · rw [hpo result.1 result.2 hp] at hv
      cases hv
    · cases hr

/-- After the run that registers a peer, adds an item and claims it, the validation of what a pause
proposes never fails. -/
theorem revalidation_redundant_sampleRun :
    let l := run (MissionLoop.step .sample) .sample sampleRun
    let input := LoopInput.sample 4 (.operator "operator") (.pause true)
    (∀ next receipt, l.proposed .sample input.facts input.command input.now = .ok (next, receipt) →
        next.validateFor input.facts.mission = .ok ()) ∧
      ∀ error, (l.apply .sample input.facts input.command input.now).1 = .error error →
        l.admission input.facts input.command input.now = .error error ∨
          ∃ receipt, l.admission input.facts input.command input.now = .ok receipt ∧
            l.transition .sample input.facts input.command.actor input.command.action receipt
              input.now = .error error :=
  revalidation_redundant MissionLoop.new_sample sampleRun _ _ _

end Whole

end Hartevo
