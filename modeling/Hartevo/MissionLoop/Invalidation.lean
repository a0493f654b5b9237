import Hartevo.MissionLoop.ClaimFencing

/-!
# Invalidation is final

A pause, new steering, and a lower quota start a new steering generation.  A claim remembers the
steering generation in which it was issued, and that is compared with the current one whenever the
claim is checked or reconciled.  The current one never decreases, so an invalidated claim is never
in force again.

Its item stays uncertain, with its claim and its reservation: the commands that release a claim
require it to be in force or to belong to the current steering generation, except for the retry
that an operator attests.
-/

namespace Hartevo

open MissionLoop

/-- The action invalidates the claims: a pause, new steering, or a lower quota. -/
def Invalidates (l : MissionLoop) : LoopAction → Prop
  | .pause paused => paused = true
  | .steer _ => True
  | .setQuota maxSlots => maxSlots < l.policy.maxSlots
  | _ => False

def Revoked (id : String) (g : ℕ) (l : MissionLoop) : Prop :=
  ∃ todo c, l.todos[id]? = some todo ∧ todo.status = .uncertain ∧ todo.claim = some c ∧
    c.generation = g ∧ c.steeringGeneration < l.steeringGeneration

/-- The generation `g` was issued, and whatever is stored of it is from an earlier steering. -/
def Outdated (g : ℕ) (l : MissionLoop) : Prop :=
  g ≤ l.claimGeneration ∧
    ∀ id c, Stores l id c → c.generation = g → c.steeringGeneration < l.steeringGeneration

/-! ## One step -/

section Steps

variable {enc : LoopEncoding} {l next : MissionLoop} {facts : LoopMissionFacts}
  {ar : LoopActor} {now : DateTime} {act : LoopAction} {cl : Option LoopClaim}
  {run : Option LoopRunSummary}

variable (h : LoopStep enc l facts ar now act next cl run) {g : ℕ}

include h

/-- The steering generation never decreases. -/
lemma LoopStep.steering_le : l.steeringGeneration ≤ next.steeringGeneration := by
  cases h with
  | control step => exact step.frame.2.2.2.1.ge
  | add => exact le_refl _
  | invalidate step =>
    rw [step.frame.2.2.2.1]
    exact Nat.le_succ _
  | work found step => exact step.frame.2.1.ge

lemma LoopStep.invalidating (hi : Invalidates l act) : InvalidatingStep l act next := by
  cases h with
  | control step =>
    cases step with
    | registerPeer | openGate | resolveGate | acknowledge => exact absurd hi id
    | resume => cases hi
    | raiseQuota raised => exact absurd hi (not_lt.mpr raised)
  | add => exact absurd hi id
  | invalidate step => exact step
  | work found step => cases step <;> exact absurd hi id

lemma LoopStep.outdated (hl : Outdated g l) : Outdated g next := by
  obtain ⟨hb, hold⟩ := hl
  have hmono : l.claimGeneration ≤ next.claimGeneration := by
    rcases h.claimGeneration_cases with ⟨hsa, -⟩ | ⟨hn, -⟩ <;> omega
  refine ⟨hb.trans hmono, ?_⟩
  rintro id c ⟨td, ht, hcl⟩ hc
  rcases h.claim_cases ht hcl with ⟨old, k, ht', hk, -, hke, -⟩ | ⟨_, _, _, _, _, _, _, _, _, _, hi⟩
  · have hgen : k.generation = g := by rw [← hc, hke]
    have hs : c.steeringGeneration = k.steeringGeneration := by rw [hke]
    rw [hs]
    exact (hold id k ⟨old, ht', hk⟩ hgen).trans_le h.steering_le
  · have hgen : c.generation = l.claimGeneration + 1 := by
      rw [hi]
      rfl
    omega

lemma LoopStep.reconcile_steering {c : LoopClaim} {result : LoopTurnResult}
    {readbackDigest : String} (ha : act = .reconcileSettlement c result readbackDigest) :
    c.steeringGeneration = l.steeringGeneration := by
  subst ha
  cases h with
  | control step | invalidate step => cases step
  | work found step =>
    cases step with
    | reconcile _ _ steering => exact steering

/-- A revoked item stays revoked, unless the step is a retry of it; and it is not claimed. -/
lemma LoopStep.revoked
    {id : String} (hl : Revoked id g l) (hr : ∀ ev, act ≠ .reconcileRetry id ev) :
    Revoked id g next ∧ ∀ host tok, act ≠ .claim host id tok := by
  obtain ⟨td, c, ht, hs, hcl, hc, hst⟩ := hl
  have hmem : id ∈ l.todos := by
    rw [Std.ExtTreeMap.mem_iff_isSome_getElem?, ht]
    rfl
  obtain ⟨td', ht'⟩ := Option.isSome_iff_exists.mp
    (Std.ExtTreeMap.mem_iff_isSome_getElem?.mp (h.todos_mono hmem))
  have hla : c.steeringGeneration < next.steeringGeneration := hst.trans_le h.steering_le
  have hn : ∀ host tok, act ≠ .claim host id tok := by
    rintro host tok rfl
    cases h with
    | control step | invalidate step => cases step
    | work found step =>
      cases step with
      | claim _ _ _ selectable =>
        obtain rfl := Option.mem_unique found ht
        have ho := selectable.opened
        rw [hs] at ho
        cases ho
  refine ⟨?_, hn⟩
  rcases h.todo_cases ht' with hsa | ⟨spec, -, -, hf, -⟩ | ⟨old, hold, rfl, -⟩ | ⟨old, hold, step⟩
  · obtain rfl := Option.mem_unique hsa ht
    exact ⟨td', c, ht', hs, hcl, hc, hla⟩
  · rw [ht] at hf
    cases hf
  · obtain rfl := Option.mem_unique hold ht
    refine ⟨_, c, ht', ?_, ?_, hc, hla⟩ <;> simp [LoopTodo.invalidate, hcl]
  · obtain rfl := Option.mem_unique hold ht
    cases step with
    | claim => exact absurd rfl (hn _ _)
    | begin _ _ held | heartbeat _ _ held =>
      have hh := held.status
      rw [hs] at hh
      cases hh
    | @settle k result outcome _ _ _ _ _ _ stored held _ settlement =>
      cases hunc : result.isUncertain with
      | false =>
        have hh := (held hunc).status
        rw [hs] at hh
        cases hh
      | true =>
        obtain ⟨hk, hou⟩ := settlement.uncertain hunc
        exact ⟨_, c, ht', by rw [release_status, hou], hk.trans hcl, hc, hla⟩
    | reconcile _ stored steering =>
      obtain rfl := Option.mem_unique stored hcl
      exact absurd steering hst.ne
    | retry => exact absurd rfl (hr _)
    | cancel opened =>
      rw [hs] at opened
      cases opened

end Steps

/-! ## Whole runs -/

section Runs

variable {enc : LoopEncoding} {l next : MissionLoop} {input : LoopInput} {c : LoopClaim}
  {id : String}

lemma requireClaim_ne_ok (h : c.steeringGeneration < l.steeringGeneration)
    (fs : LoopMissionFacts) (now : DateTime) : l.requireClaim enc fs c now ≠ .ok () := by
  intro hok
  obtain ⟨td, held⟩ := requireClaim_iff.mp hok
  exact h.ne held.steering

lemma revoked_of_invalidates {rc : LoopReceipt} (hstep : Proposed enc l input next rc)
    (hi : Invalidates l input.command.action) (hs : Stores l id c) :
    c.steeringGeneration < next.steeringGeneration ∧ Revoked id c.generation next ∧
      ∀ id' c', Stores next id' c' → c'.steeringGeneration < next.steeringGeneration := by
  obtain ⟨moved, hm, rfl⟩ := hstep.step
  obtain ⟨td, ht, hc⟩ := hs
  obtain ⟨hto, -, -, hst, -⟩ := (hm.invalidating hi).frame
  have hb : ∀ {id : String} {td : LoopTodo} {c : LoopClaim}, l.todos[id]? = some td →
      td.claim = some c → c.steeringGeneration < moved.steeringGeneration := by
    intro id td c ht hc
    have hle := ((hstep.valid.todos id td ht).claim c hc).steering_le
    omega
  refine ⟨hb ht hc, ?_, ?_⟩
  · refine ⟨td.invalidate, c, ?_, ?_, ?_, rfl, hb ht hc⟩
    · change moved.todos[id]? = _
      rw [hto, getElem?_invalidatedTodos, ht, Option.map_some]
    · simp [LoopTodo.invalidate, hc]
    · simp [LoopTodo.invalidate, hc]
  · rintro id' c' ⟨td', ht', hc'⟩
    change moved.todos[id']? = _ at ht'
    rw [hto, getElem?_invalidatedTodos, Option.map_eq_some_iff] at ht'
    obtain ⟨old, hold, rfl⟩ := ht'
    refine hb hold ?_
    unfold LoopTodo.invalidate at hc'
    split_ifs at hc' <;> exact hc'

/-- Along every run the steering generation does not decrease, and an outdated generation stays
outdated; so no accepted reconciliation carries it. -/
lemma outdated_run {s g : ℕ}
    (enc : LoopEncoding) (hs : s < l.steeringGeneration) (hl : Outdated g l)
    (inputs : List LoopInput) :
    s < (run (MissionLoop.step enc) l inputs).steeringGeneration ∧
      ∀ e ∈ trace (MissionLoop.step enc) l inputs, ∀ c result readbackDigest,
        acceptedAction e = some (.reconcileSettlement c result readbackDigest) →
          c.generation ≠ g := by
  have hrun := run_rely (MissionLoop.step enc) (C := fun _ => True)
    (I := fun l => s < l.steeringGeneration ∧ Outdated g l)
    (P := fun e => ∀ c result readbackDigest,
      acceptedAction e = some (.reconcileSettlement c result readbackDigest) → c.generation ≠ g)
    ?_ ⟨hs, hl⟩ (fun e (_ : e ∈ trace (MissionLoop.step enc) l inputs) => trivial)
  · exact ⟨hrun.1.1, hrun.2⟩
  · rintro l input ⟨hs, hl⟩ -
    rcases step_cases enc l input with ⟨error, hf⟩ | ⟨rc, next, hok, hp, -⟩
    · rw [hf]
      refine ⟨⟨hs, hl⟩, ?_⟩
      intro c result readbackDigest hacc
      simp [acceptedAction, eventOf, hf] at hacc
    · obtain ⟨moved, hm, rfl⟩ := hp.step
      rw [hok]
      refine ⟨⟨hs.trans_le hm.steering_le, hm.outdated hl⟩, ?_⟩
      intro c result readbackDigest hacc hc
      have ha : input.command.action = .reconcileSettlement c result readbackDigest := by
        simpa [acceptedAction, eventOf, hok] using hacc
      have hst := hm.stores_of_carried (c := c) (by rw [ha]; rfl)
      have hcu := hm.reconcile_steering ha
      exact (hl.2 _ c hst hc).ne hcu

/-- Along every run without a retry of the item, it stays revoked and is not claimed. -/
lemma revoked_run {inputs : List LoopInput} {g : ℕ} (hl : Revoked id g l)
    (hr : ∀ e ∈ trace (MissionLoop.step enc) l inputs, ∀ ev,
      acceptedAction e ≠ some (.reconcileRetry id ev)) :
    Revoked id g (run (MissionLoop.step enc) l inputs) ∧
      ∀ e ∈ trace (MissionLoop.step enc) l inputs, ∀ host tok,
        acceptedAction e ≠ some (.claim host id tok) := by
  refine run_rely (MissionLoop.step enc) ?_ hl hr
  intro l input hl hr
  rcases step_cases enc l input with ⟨error, hf⟩ | ⟨rc, next, hok, hp, -⟩
  · rw [hf]
    refine ⟨hl, ?_⟩
    intro host tok hacc
    simp [acceptedAction, eventOf, hf] at hacc
  · obtain ⟨moved, hm, rfl⟩ := hp.step
    have hacc : acceptedAction (eventOf (MissionLoop.step enc) l input) =
        some input.command.action := by simp [acceptedAction, eventOf, hok]
    rw [hok]
    simp only [hacc, ne_eq, Option.some.injEq] at hr ⊢
    exact hm.revoked hl hr

/-- After a successful pause, new steering or lower quota, a claim that was stored before it is
never in force again.  Until an operator retries its item, the item stays uncertain with a claim of
that generation and is claimed by nobody; and the claim is never settled by reconciliation. -/
theorem invalidation_final {mission : Mission} {policy : LoopPolicy} {start : DateTime}
    {l₀ : MissionLoop} (hnew : MissionLoop.new mission policy start = .ok l₀)
    (inputs : List LoopInput) (input : LoopInput)
    (hok : ((run (MissionLoop.step enc) l₀ inputs).step enc input).1.isOk = true)
    (hinvalidates : Invalidates (run (MissionLoop.step enc) l₀ inputs) input.command.action)
    {id : String} {c : LoopClaim}
    (hstores : Stores (run (MissionLoop.step enc) l₀ inputs) id c) (later : List LoopInput) :
    let next := run (MissionLoop.step enc) l₀ (inputs ++ [input])
    let l := run (MissionLoop.step enc) next later
    let events := trace (MissionLoop.step enc) next later
    (∀ facts now, l.requireClaim enc facts c now ≠ .ok () ∧
        l.requireExecution enc facts c now ≠ .ok ()) ∧
      ((∀ e ∈ events, ∀ evidenceDigest,
          acceptedAction e ≠ some (.reconcileRetry id evidenceDigest)) →
        (∃ todo c', l.todos[id]? = some todo ∧ todo.status = .uncertain ∧ todo.claim = some c' ∧
          c'.generation = c.generation) ∧
        ∀ e ∈ events, ∀ host tokenDigest,
          acceptedAction e ≠ some (.claim host id tokenDigest)) ∧
      ∀ e ∈ events, ∀ c' result readbackDigest,
        acceptedAction e = some (.reconcileSettlement c' result readbackDigest) →
          c'.generation ≠ c.generation := by
  intro next l events
  have hn : next = ((run (MissionLoop.step enc) l₀ inputs).step enc input).2 := by
    simp only [next, run_append, run_cons, run_nil]
  rcases step_cases enc (run (MissionLoop.step enc) l₀ inputs) input with
    ⟨error, hf⟩ | ⟨receipt, next', hstep, hp, -⟩
  · rw [hf] at hok
    cases hok
  · obtain rfl : next = next' := by rw [hn, hstep]
    obtain ⟨hs, hrev, hall⟩ := revoked_of_invalidates hp hinvalidates hstores
    have hb := (loopRun_fenced hnew inputs).bounded hstores
    have ho : Outdated c.generation next :=
      ⟨hb.trans hp.claimGeneration_le, fun id c hc _ => hall id c hc⟩
    obtain ⟨hl, hre⟩ := outdated_run enc hs ho later
    refine ⟨?_, ?_, hre⟩
    · intro facts now
      have hr : l.requireClaim enc facts c now ≠ .ok () :=
        requireClaim_ne_ok hl facts now
      exact ⟨hr, fun h => hr (requireClaim_of_requireExecution h)⟩
    · intro hret
      obtain ⟨⟨todo, c', ht, hst, hcl, hc', -⟩, hu⟩ := revoked_run hrev hret
      exact ⟨⟨todo, c', ht, hst, hcl, hc'⟩, hu⟩

lemma sampleRun_pausable :
    ((run (MissionLoop.step .sample) .sample sampleRun).todos["todo"]?.bind (·.claim)) =
        some .sample ∧
      ((run (MissionLoop.step .sample) .sample sampleRun).step .sample
        (.sample 4 (.operator "operator") (.pause true))).1.isOk = true := by
  decide +kernel

/-- The claim of the sample run, after a pause that is lifted again. -/
theorem invalidation_final_sampleRun :
    let next := run (MissionLoop.step .sample) .sample
      (sampleRun ++ [.sample 4 (.operator "operator") (.pause true)])
    let later := [.sample 5 (.operator "operator") (.pause false)]
    let l := run (MissionLoop.step .sample) next later
    let events := trace (MissionLoop.step .sample) next later
    (∀ facts now, l.requireClaim .sample facts .sample now ≠ .ok () ∧
        l.requireExecution .sample facts .sample now ≠ .ok ()) ∧
      ((∀ e ∈ events, ∀ evidenceDigest,
          acceptedAction e ≠ some (.reconcileRetry "todo" evidenceDigest)) →
        (∃ todo c', l.todos["todo"]? = some todo ∧ todo.status = .uncertain ∧
          todo.claim = some c' ∧ c'.generation = LoopClaim.sample.generation) ∧
        ∀ e ∈ events, ∀ host tokenDigest,
          acceptedAction e ≠ some (.claim host "todo" tokenDigest)) ∧
      ∀ e ∈ events, ∀ c' result readbackDigest,
        acceptedAction e = some (.reconcileSettlement c' result readbackDigest) →
          c'.generation ≠ LoopClaim.sample.generation :=
  invalidation_final MissionLoop.new_sample sampleRun
    (.sample 4 (.operator "operator") (.pause true)) sampleRun_pausable.2 rfl
    (Option.bind_eq_some_iff.mp sampleRun_pausable.1)
    [.sample 5 (.operator "operator") (.pause false)]

end Runs

end Hartevo
