import Hartevo.MissionLoop.Step

/-!
# Write isolation

No two claimed work items of one workspace can write the same path, no agent holds two claims, and
the number of claims is bounded by the policy.

All three are tested only when an item is claimed, against the claims stored at that time.  They
persist because a stored claim keeps its agent and its item keeps its scopes until the claim is
released, whatever happens to its status in between (`LoopStep.claim_cases`).
-/

namespace Hartevo

open MissionLoop Std

/-- The two items may not write a common path. -/
def ScopesDisjoint (a b : LoopTodo) : Prop :=
  ∀ scope ∈ a.spec.writeScopes, ∀ scope' ∈ b.spec.writeScopes,
    scopesOverlap scope scope' = false

/-- The claims that are held at the same time do not interfere. -/
structure Isolated (l : MissionLoop) : Prop where
  scopes : ∀ {id id' : String} {todo todo' : LoopTodo}, id ≠ id' →
    l.todos[id]? = some todo → l.todos[id']? = some todo' →
    todo.claim.isSome = true → todo'.claim.isSome = true →
    todo.spec.workspaceDigest = todo'.spec.workspaceDigest → ScopesDisjoint todo todo'
  agents : ∀ {id id' : String} {todo todo' : LoopTodo} {c c' : LoopClaim},
    l.todos[id]? = some todo → l.todos[id']? = some todo' →
    todo.claim = some c → todo'.claim = some c' → c.agentId = c'.agentId → id = id'
  parallel : l.claims.length ≤ l.policy.maxParallel

lemma scopesOverlap_comm (a b : String) : scopesOverlap a b = scopesOverlap b a := by
  rw [Bool.eq_iff_iff, scopesOverlap_eq_true_iff, scopesOverlap_eq_true_iff]
  exact exists_congr fun path => and_comm

lemma ScopesDisjoint.symm {a b : LoopTodo} (h : ScopesDisjoint a b) : ScopesDisjoint b a := by
  intro scope hs scope' hs'
  rw [scopesOverlap_comm]
  exact h scope' hs' scope hs

/-! ## A new claim -/

section NewClaim

variable {l : MissionLoop} {ms : Mission} {peer : LoopPeer} {host : LoopHost}
  {now : DateTime} {id id' : String} {td todo' : LoopTodo}

/-- The claimed items are the ones the scheduler looks at. -/
lemma mem_claims_iff : td ∈ l.claims ↔
    (∃ id : String, l.todos[id]? = some td) ∧ td.claim.isSome = true := by
  rw [claims, List.mem_filter, ExtTreeMap.mem_vals]

lemma Selectable.scopesDisjoint (h : Selectable l ms peer host now td)
    (hv : TodoValid l id td) (hv' : TodoValid l id' todo') (hne : id ≠ id')
    (hid' : l.todos[id']? = some todo') (hc' : todo'.claim.isSome = true)
    (hw : td.spec.workspaceDigest = todo'.spec.workspaceDigest) : ScopesDisjoint todo' td := by
  have hf := ExtTreeMap.vals_any_eq_false_iff.mp h.eligible.isolated id' todo' hid'
  have ho : (todo'.spec.id != td.spec.id) = true := by
    rw [← hv.id_eq, ← hv'.id_eq, bne_iff_ne]
    exact hne.symm
  rw [ho, hc', hw, beq_self_eq_true, Bool.true_and, Bool.true_and, Bool.true_and,
    ExtTreeSet.toList_any_eq_false_iff] at hf
  intro scope hs scope' hs'
  exact ExtTreeSet.toList_any_eq_false_iff.mp (hf scope hs) scope' hs'

lemma Selectable.agent_ne {c : LoopClaim} (h : Selectable l ms peer host now td)
    (hid' : l.todos[id']? = some todo') (hc' : todo'.claim = some c) :
    c.agentId ≠ host.agentId := by
  have hmem : todo' ∈ l.claims := mem_claims_iff.mpr ⟨⟨id', hid'⟩, by simp [hc']⟩
  have hf := h.unclaimed todo' hmem
  simpa [hc'] using hf

end NewClaim

/-! ## One step -/

section Steps

variable {enc : LoopEncoding} {l next : MissionLoop} {fs : LoopMissionFacts} {ar : LoopActor}
  {now : DateTime} {act : LoopAction} {cl : Option LoopClaim} {run : Option LoopRunSummary}
  {td' td : LoopTodo} {c' : LoopClaim}

lemma LoopStep.claimed_cases (h : LoopStep enc l fs ar now act next cl run)
    {id : String} (hid : next.todos[id]? = some td') (hcl : td'.claim = some c') :
    ∃ td, l.todos[id]? = some td ∧ td'.spec = td.spec ∧
      ((∃ c, td.claim = some c ∧ c'.agentId = c.agentId) ∨
        ∃ host tok peer, act = .claim host id tok ∧
          c'.agentId = host.agentId ∧ Selectable l fs.mission peer host now td) := by
  rcases h.claim_cases hid hcl with ⟨td, c, ht, hc, hsp, hk, -⟩ |
    ⟨td, ht, hsp, -, host, tok, peer, authority, ha, hs, hi⟩
  · exact ⟨td, ht, hsp, Or.inl ⟨c, hc, by rw [hk]⟩⟩
  · refine ⟨td, ht, hsp, Or.inr ⟨host, tok, peer, ha, ?_, hs⟩⟩
    rw [hi]
    rfl

lemma LoopStep.isolated_scopes (hva : LoopValid l fs.mission)
    (h : LoopStep enc l fs ar now act next cl run) (hl : Isolated l)
    {id id' : String} (hne : id ≠ id')
    (hid : next.todos[id]? = some td) (hid' : next.todos[id']? = some td')
    (hcl : td.claim.isSome = true) (hcl' : td'.claim.isSome = true)
    (hw : td.spec.workspaceDigest = td'.spec.workspaceDigest) : ScopesDisjoint td td' := by
  obtain ⟨c, hc⟩ := Option.isSome_iff_exists.mp hcl
  obtain ⟨c', hc'⟩ := Option.isSome_iff_exists.mp hcl'
  obtain ⟨old, hold, hsp, ho⟩ := h.claimed_cases hid hc
  obtain ⟨old', hold', hsp', ho'⟩ := h.claimed_cases hid' hc'
  have hv := hva.todos _ _ hold
  have hv' := hva.todos _ _ hold'
  rw [hsp, hsp'] at hw
  unfold ScopesDisjoint
  rw [hsp, hsp']
  rcases ho with ⟨_, hk, -⟩ | ⟨host, tok, peer, ha, -, hs⟩
  · rcases ho' with ⟨_, hk', -⟩ | ⟨host', _, peer', -, -, hs'⟩
    · exact hl.scopes hne hold hold' (by simp [hk]) (by simp [hk']) hw
    · exact hs'.scopesDisjoint hv' hv hne.symm hold (by simp [hk])
        hw.symm
  · rcases ho' with ⟨_, hk', -⟩ | ⟨host', tokenDigest', peer', ha', -, -⟩
    · exact (hs.scopesDisjoint hv hv' hne hold' (by simp [hk'])
        hw).symm
    · -- One step issues one claim.
      rw [ha] at ha'
      cases ha'
      exact absurd rfl hne

lemma LoopStep.isolated_agents {c : LoopClaim} (h : LoopStep enc l fs ar now act next cl run)
    (hl : Isolated l) {id id' : String} (hid : next.todos[id]? = some td)
    (hid' : next.todos[id']? = some td') (hc : td.claim = some c) (hc' : td'.claim = some c')
    (hag : c.agentId = c'.agentId) : id = id' := by
  obtain ⟨old, hold, -, ho⟩ := h.claimed_cases hid hc
  obtain ⟨old', hold', -, ho'⟩ := h.claimed_cases hid' hc'
  rcases ho with ⟨k, hke, hk⟩ | ⟨host, tok, peer, ha, hi, hs⟩
  · rcases ho' with ⟨k', hke', hk'⟩ | ⟨host', _, peer', -, hi', hs'⟩
    · exact hl.agents hold hold' hke hke' (by rw [← hk, ← hk', hag])
    · refine absurd ?_ (hs'.agent_ne hold hke)
      rw [← hk, hag, hi']
  · rcases ho' with ⟨k', hke', hk'⟩ | ⟨host', tokenDigest', peer', ha', -, -⟩
    · refine absurd ?_ (hs.agent_ne hold' hke')
      rw [← hk', ← hag, hi]
    · rw [ha] at ha'
      cases ha'
      rfl

lemma claims_length (l : MissionLoop) : l.claims.length = l.todos.countVals (·.claim.isSome) := by
  rw [claims, ExtTreeMap.countVals, List.countP_eq_length_filter]

lemma LoopStep.claims_length_le (h : LoopStep enc l fs ar now act next cl run) :
    next.claims.length ≤ max l.claims.length l.policy.maxParallel := by
  cases h with
  | control step =>
    rw [claims_length, claims_length, step.frame.1]
    exact le_max_left _ _
  | add _ fresh =>
    rw [claims_length, claims_length, ExtTreeMap.countVals_insert_fresh fresh,
      ExtTreeMap.tally_of_false rfl]
    exact le_max_left _ _
  | invalidate step =>
    rw [claims_length, claims_length, step.frame.1, invalidatedTodos, ExtTreeMap.countVals_map]
    · exact le_max_left _ _
    · intro id td _
      unfold LoopTodo.invalidate
      split_ifs <;> rfl
  | @work _ id td todo' _ _ _ found step =>
    have hco := ExtTreeMap.countVals_replace (w := todo') found (·.claim.isSome)
    have hn : next.todos[id]? = some todo' := by
      rw [step.frame.1, ExtTreeMap.getElem?_insert_same]
    rw [claims_length, step.frame.1]
    cases hcl : todo'.claim with
    | none =>
      rw [ExtTreeMap.tally_of_false (v := todo') (by simp [hcl]), ← claims_length] at hco
      omega
    | some c' =>
      rw [ExtTreeMap.tally_of_true (v := todo') (by simp [hcl]), ← claims_length] at hco
      obtain ⟨old, hold, -, ⟨c, hc, -⟩ | ⟨host, tok, peer, -, -, hs⟩⟩ :=
        (LoopStep.work found step).claimed_cases hn hcl
      · obtain rfl := Option.mem_unique hold found
        rw [ExtTreeMap.tally_of_true (v := old) (by simp [hc])] at hco
        omega
      · have hl := hs.parallel
        omega

lemma LoopStep.isolated (hv : LoopValid l fs.mission)
    (h : LoopStep enc l fs ar now act next cl run) (hl : Isolated l) : Isolated next := by
  refine ⟨h.isolated_scopes hv hl, h.isolated_agents hl, ?_⟩
  rw [h.policy_eq]
  exact h.claims_length_le.trans (max_le hl.parallel le_rfl)

end Steps

/-! ## Whole runs -/

lemma Proposed.isolated {enc : LoopEncoding} {l next : MissionLoop} {input : LoopInput}
    {rc : LoopReceipt} (h : Proposed enc l input next rc) (hl : Isolated l) : Isolated next := by
  obtain ⟨moved, hstep, rfl⟩ := h.step
  obtain ⟨hs, ha, hp⟩ := hstep.isolated h.valid hl
  exact ⟨hs, ha, hp⟩

lemma initial_isolated (ms : Mission) (policy : LoopPolicy) (start : DateTime) :
    Isolated (initial ms policy start) := by
  refine ⟨?_, ?_, ?_⟩
  · intro id id' td todo' _ hid
    simp [initial] at hid
  · intro id id' td todo' c c' hid
    simp [initial] at hid
  · simp [claims_length, initial]

/-- In every run from a new loop: no path lies under the write scopes of two claimed items of one
workspace, each agent holds at most one claim, and at most `maxParallel` items are claimed.  An
item holds a claim exactly when its status is claimed or uncertain. -/
theorem write_isolation {enc : LoopEncoding} {mission : Mission} {policy : LoopPolicy}
    {start : DateTime} {l₀ : MissionLoop} (hnew : MissionLoop.new mission policy start = .ok l₀)
    (inputs : List LoopInput) :
    let l := run (MissionLoop.step enc) l₀ inputs
    (∀ (id id' : String) (todo todo' : LoopTodo), id ≠ id' →
        l.todos[id]? = some todo → l.todos[id']? = some todo' →
        todo.claim.isSome = true → todo'.claim.isSome = true →
        todo.spec.workspaceDigest = todo'.spec.workspaceDigest →
        ¬∃ path, (∃ scope ∈ todo.spec.writeScopes, LiesUnder path scope) ∧
          ∃ scope ∈ todo'.spec.writeScopes, LiesUnder path scope) ∧
      (∀ (id id' : String) (todo todo' : LoopTodo) (c c' : LoopClaim),
        l.todos[id]? = some todo → l.todos[id']? = some todo' →
        todo.claim = some c → todo'.claim = some c' → c.agentId = c'.agentId → id = id') ∧
      l.claims.length ≤ l.policy.maxParallel ∧
      ∀ (id : String) (todo : LoopTodo), l.todos[id]? = some todo →
        ((todo.status = .claimed ∨ todo.status = .uncertain) ↔ todo.claim.isSome = true) := by
  intro l
  obtain ⟨-, rfl⟩ := new_ok hnew
  have hi : Isolated l :=
    loopRun_invariant (fun h _ => h.isolated) (initial_isolated mission policy start) inputs
  refine ⟨?_, fun _ _ _ _ _ _ => hi.agents, hi.parallel, ?_⟩
  · rintro id id' todo todo' hne hid hid' hc hc' hw ⟨path, ⟨scope, hs, hu⟩, scope', hs', hu'⟩
    have ho := (scopesOverlap_eq_true_iff scope scope').mpr ⟨path, hu, hu'⟩
    rw [hi.scopes hne hid hid' hc hc' hw scope hs scope' hs']
      at ho
    cases ho
  · intro id todo hid
    exact (loopRun_todos_valid hnew inputs hid).status_iff

/-- Two items of one workspace are claimed at the same time in the sample delivery, and no path lies
under the scopes of both. -/
theorem write_isolation_deliveryRun :
    let l := run (MissionLoop.step .sample) .sample (deliveryRun.take 7)
    l.claims.length = 2 ∧ l.claims.length ≤ l.policy.maxParallel ∧
      ∃ todo todo', l.todos["todo"]? = some todo ∧ l.todos["side"]? = some todo' ∧
        (todo.claim.isSome = true ∧ todo'.claim.isSome = true) ∧
        ¬∃ path, (∃ scope ∈ todo.spec.writeScopes, LiesUnder path scope) ∧
          ∃ scope ∈ todo'.spec.writeScopes, LiesUnder path scope := by
  have hrun : let l := run (MissionLoop.step .sample) .sample (deliveryRun.take 7)
      l.claims.length = 2 ∧ ∀ id ∈ ["todo", "side"], l.todos[id]?.map (fun todo =>
        (todo.claim.isSome, todo.spec.workspaceDigest)) = some (true, sampleDigest) := by
    decide +kernel
  have hiso := @write_isolation .sample _ _ _ _ MissionLoop.new_sample (deliveryRun.take 7)
  generalize run (MissionLoop.step .sample) .sample (deliveryRun.take 7) = l at hrun hiso ⊢
  obtain ⟨hlen, hid⟩ := hrun
  obtain ⟨todo, ht, hs⟩ := Option.map_eq_some_iff.mp (hid "todo" (by simp))
  obtain ⟨todo', ht', hs'⟩ := Option.map_eq_some_iff.mp (hid "side" (by simp))
  obtain ⟨hc, hw⟩ := Prod.mk.inj hs
  obtain ⟨hc', hw'⟩ := Prod.mk.inj hs'
  exact ⟨hlen, hiso.2.2.1, todo, todo', ht, ht', ⟨hc, hc'⟩,
    hiso.1 "todo" "side" todo todo' (by decide) ht ht' hc hc' (hw.trans hw'.symm)⟩

end Hartevo
