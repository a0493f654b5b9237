import Hartevo.Foundation.Ranking
import Hartevo.MissionLoop.Step

/-!
# The order of dependent work

An item is added with the ids of the items it depends on, which must exist.  No command checks for
cycles; there are none because an item that does not exist yet has no dependants, and because the
dependencies of an item never change.

An item is claimed only when the items it depends on are completed.  A completed item stays
completed, so this remains true of everything the item depends on, directly or not.
-/

namespace Hartevo

open MissionLoop

/-- The item `a` names the item `b` among its dependencies. -/
def DependsOn (l : MissionLoop) (a b : String) : Prop :=
  ∃ todo, l.todos[a]? = some todo ∧ b ∈ todo.spec.dependsOn

def CompletedIn (l : MissionLoop) (id : String) : Prop :=
  ∃ todo, l.todos[id]? = some todo ∧ todo.status = .completed

/-- Work on the item has begun, or is done. -/
def LoopTodoStatus.isEngaged : LoopTodoStatus → Bool
  | .claimed | .uncertain | .completed => true
  | .opened | .cancelled => false

/-- The dependencies are acyclic, and those of an engaged item are completed. -/
structure Ordered (l : MissionLoop) : Prop where
  ranked : Ranked (DependsOn l)
  completed : ∀ {id : String} {todo : LoopTodo}, l.todos[id]? = some todo →
    todo.status.isEngaged = true → ∀ dep ∈ todo.spec.dependsOn, CompletedIn l dep

/-! ## Reading off one step -/

section Steps

variable {enc : LoopEncoding} {l next : MissionLoop} {fs : LoopMissionFacts} {ar : LoopActor}
  {now : DateTime} {act : LoopAction} {cl : Option LoopClaim} {run : Option LoopRunSummary}
  {id a b : String} {todo td' : LoopTodo}

lemma TodoValid.isEngaged {c : LoopClaim} (hv : TodoValid l id todo) (hc : todo.claim = some c) :
    todo.status.isEngaged = true := by
  rcases hv.status_iff.mpr (by simp [hc]) with hs | hs <;> rw [hs] <;> rfl

/-- An item becomes engaged only by a claim, for which its dependencies are completed. -/
lemma WorkStep.engaged_cases (hv : TodoValid l id todo)
    (h : WorkStep enc l fs ar now id todo act td' next cl run) (he : td'.status.isEngaged = true) :
    todo.status.isEngaged = true ∨ ∀ dep ∈ todo.spec.dependsOn, CompletedIn l dep := by
  cases h with
  | claim _ _ _ selectable => exact .inr selectable.eligible.dependencies
  | begin | heartbeat => exact .inl he
  | settle _ _ stored => exact .inl (hv.isEngaged stored)
  | reconcile _ stored => exact .inl (hv.isEngaged stored)
  | retry | cancel => cases he

lemma WorkStep.not_completed (hv : TodoValid l id todo)
    (h : WorkStep enc l fs ar now id todo act td' next cl run) : todo.status ≠ .completed := by
  cases h with
  | claim _ _ _ selectable =>
    rw [selectable.opened]
    nofun
  | begin _ _ held | heartbeat _ _ held => exact hv.not_completed held.stored
  | settle _ _ stored => exact hv.not_completed stored
  | reconcile _ stored | retry _ stored => exact hv.not_completed stored
  | cancel opened =>
    rw [opened]
    nofun

lemma TodoValid.invalidate_isEngaged (hv : TodoValid l id todo) :
    todo.invalidate.status.isEngaged = todo.status.isEngaged := by
  unfold LoopTodo.invalidate
  split_ifs with hcl
  · obtain ⟨c, hc⟩ := Option.isSome_iff_exists.mp hcl
    rw [hv.isEngaged hc]
    rfl
  · rfl

lemma LoopStep.completedIn (hv : LoopValid l fs.mission)
    (h : LoopStep enc l fs ar now act next cl run) (hid : CompletedIn l id) :
    CompletedIn next id := by
  obtain ⟨todo, ht, hd⟩ := hid
  have hmem : id ∈ l.todos := Std.ExtTreeMap.mem_iff_isSome_getElem?.mpr (by simp [ht])
  obtain ⟨td', ht'⟩ := Option.isSome_iff_exists.mp
    (Std.ExtTreeMap.mem_iff_isSome_getElem?.mp (h.todos_mono hmem))
  refine ⟨td', ht', ?_⟩
  rcases h.todo_cases ht' with hs | ⟨_, -, -, hf, -⟩ | ⟨old, hold, rfl, -⟩ | ⟨old, hold, step⟩
  · rwa [Option.mem_unique hs ht]
  · rw [hf] at ht
    cases ht
  · obtain rfl := Option.mem_unique hold ht
    -- A completed item has no claim, so there is nothing to invalidate.
    unfold LoopTodo.invalidate
    split_ifs with hcl
    · obtain ⟨c, hc⟩ := Option.isSome_iff_exists.mp hcl
      exact absurd hd ((hv.todos _ _ hold).not_completed hc)
    · exact hd
  · obtain rfl := Option.mem_unique hold ht
    exact absurd hd (step.not_completed (hv.todos _ _ hold))

lemma LoopStep.dependsOn_cases (h : LoopStep enc l fs ar now act next cl run)
    (hab : DependsOn next a b) :
    DependsOn l a b ∨ ∃ spec, act = .addTodo spec ∧ a = spec.id ∧ b ∈ spec.dependsOn := by
  obtain ⟨td', ht', hb⟩ := hab
  rcases h.spec_cases ht' with ⟨todo, ht, hs⟩ | ⟨spec, ha, rfl, -, rfl⟩
  · rw [hs] at hb
    exact .inl ⟨todo, ht, hb⟩
  · exact .inr ⟨spec, ha, rfl, hb⟩

/-- A step keeps the dependencies acyclic: a new item is one that nothing depends on. -/
lemma LoopStep.ranked (hv : LoopValid l fs.mission)
    (h : LoopStep enc l fs ar now act next cl run) (hl : Ranked (DependsOn l)) :
    Ranked (DependsOn next) := by
  by_cases hadd : ∃ spec, act = .addTodo spec
  · obtain ⟨spec, rfl⟩ := hadd
    obtain ⟨hf, hsp⟩ := h.of_addTodo
    have hs : spec.id ∉ spec.dependsOn.toList := fun hmem =>
      hsp.self_notMem (Std.ExtTreeSet.mem_toList.mp hmem)
    refine hl.add_source ?_ hs ?_
    · rintro a ⟨todo, ht, hdep⟩
      have hmem := (hv.todos _ _ ht).spec.dependsOn_mem _ hdep
      rw [Std.ExtTreeMap.mem_iff_isSome_getElem?, hf] at hmem
      cases hmem
    · intro a b hab
      rcases h.dependsOn_cases hab with hold | ⟨spec', ha, rfl, hb⟩
      · refine .inl ⟨?_, hold⟩
        rintro rfl
        obtain ⟨todo, ht, -⟩ := hold
        rw [hf] at ht
        cases ht
      · cases ha
        exact .inr ⟨rfl, Std.ExtTreeSet.mem_toList.mpr hb⟩
  · refine hl.mono fun a b hab => ?_
    rcases h.dependsOn_cases hab with hold | ⟨spec, ha, -⟩
    · exact hold
    · exact absurd ⟨spec, ha⟩ hadd

lemma LoopStep.ordered (hv : LoopValid l fs.mission)
    (h : LoopStep enc l fs ar now act next cl run) (hl : Ordered l) : Ordered next := by
  refine ⟨h.ranked hv hl.ranked, ?_⟩
  intro id td' ht' he dep hdep
  -- It is enough that the dependency was completed before the step.
  refine h.completedIn hv ?_
  rcases h.todo_cases ht' with hs | ⟨spec, -, -, -, rfl⟩ | ⟨todo, ht, rfl, -⟩ | ⟨todo, ht, step⟩
  · exact hl.completed hs he dep hdep
  · cases he
  · rw [(hv.todos _ _ ht).invalidate_isEngaged] at he
    rw [invalidate_spec] at hdep
    exact hl.completed ht he dep hdep
  · rw [step.spec_eq] at hdep
    rcases step.engaged_cases (hv.todos _ _ ht) he with hb | hd
    · exact hl.completed ht hb dep hdep
    · exact hd dep hdep

end Steps

/-! ## Whole runs -/

lemma Proposed.ordered {l next : MissionLoop} {enc : LoopEncoding} {input : LoopInput}
    {rc : LoopReceipt} (h : Proposed enc l input next rc) (hl : Ordered l) : Ordered next := by
  obtain ⟨moved, hstep, rfl⟩ := h.step
  obtain ⟨hr, hd⟩ := hstep.ordered h.valid hl
  exact ⟨hr, hd⟩

lemma initial_ordered (ms : Mission) (policy : LoopPolicy) (start : DateTime) :
    Ordered (initial ms policy start) := by
  refine ⟨Ranked.of_empty ?_, ?_⟩
  · rintro a b ⟨todo, ht, -⟩
    simp [initial] at ht
  · intro id todo ht
    simp [initial] at ht

lemma Ordered.completedIn {l : MissionLoop} {td : LoopTodo}
    (hl : Ordered l) {id dep : String} (ht : l.todos[id]? = some td)
    (hen : td.status.isEngaged = true)
    (hp : Relation.TransGen (DependsOn l) id dep) : CompletedIn l dep := by
  induction hp with
  | single he =>
    obtain ⟨td', ht', hdep⟩ := he
    obtain rfl := Option.mem_unique ht ht'
    exact hl.completed ht hen _ hdep
  | tail _ he ih =>
    -- The item before the last edge is completed, hence engaged itself.
    obtain ⟨middle, hm, hd⟩ := ih
    obtain ⟨td', ht', hdep⟩ := he
    obtain rfl := Option.mem_unique hm ht'
    exact hl.completed hm (by rw [hd]; rfl) _ hdep

/-- In every run from a new loop the dependencies are acyclic, and everything that a claimed, an
uncertain or a completed item depends on, directly or through other items, is completed. -/
theorem dependency_order {enc : LoopEncoding} {mission : Mission} {policy : LoopPolicy}
    {start : DateTime} {l₀ : MissionLoop} (hnew : MissionLoop.new mission policy start = .ok l₀)
    (inputs : List LoopInput) :
    let l := run (MissionLoop.step enc) l₀ inputs
    (∀ id, ¬Relation.TransGen (DependsOn l) id id) ∧
      ∀ (id : String) (todo : LoopTodo), l.todos[id]? = some todo →
        (todo.status = .claimed ∨ todo.status = .uncertain ∨ todo.status = .completed) →
        ∀ dep, Relation.TransGen (DependsOn l) id dep →
          ∃ item, l.todos[dep]? = some item ∧ item.status = .completed := by
  intro l
  obtain ⟨-, rfl⟩ := new_ok hnew
  have ho : Ordered l :=
    loopRun_invariant (fun h _ => h.ordered) (initial_ordered mission policy start) inputs
  refine ⟨ho.ranked.acyclic, ?_⟩
  intro id todo ht hs dep hp
  refine ho.completedIn ht ?_ hp
  rcases hs with hs | hs | hs <;> rw [hs] <;> rfl

/-- At the end of the sample delivery an item is claimed, and the one it depends on is completed. -/
theorem dependency_order_deliveryRun :
    let l := run (MissionLoop.step .sample) .sample deliveryRun
    (∀ id, ¬Relation.TransGen (DependsOn l) id id) ∧ DependsOn l "next" "todo" ∧
      ∃ item, l.todos["todo"]? = some item ∧ item.status = .completed := by
  have hrun : (run (MissionLoop.step .sample) .sample deliveryRun).todos["next"]?.map (fun todo =>
      (todo.status, todo.spec.dependsOn.contains "todo")) = some (.claimed, true) := by
    decide +kernel
  have hord := @dependency_order .sample _ _ _ _ MissionLoop.new_sample deliveryRun
  generalize run (MissionLoop.step .sample) .sample deliveryRun = l at hrun hord ⊢
  obtain ⟨todo, ht, hs⟩ := Option.map_eq_some_iff.mp hrun
  obtain ⟨hclaimed, hdep⟩ := Prod.mk.inj hs
  have hd : DependsOn l "next" "todo" := ⟨todo, ht, hdep⟩
  exact ⟨hord.1, hd, hord.2 "next" todo ht (.inl hclaimed) "todo" (.single hd)⟩

end Hartevo
