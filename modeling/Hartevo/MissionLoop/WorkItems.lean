import Hartevo.MissionLoop.Revalidation

/-!
# The life of a work item

A work item is never removed, and what it asks for never changes.  Only a monitor moves: an accepted
observation takes it to its next instant, the least one in the future that is a whole number of
intervals after the instant that was due.  It skips what it has missed, and never drifts.

A completed or cancelled item has no claim, and every command that writes to an item needs an open
one or a claim.  So nothing is written to it any more.
-/

namespace Hartevo

open MissionLoop

/-! ## The cadence of monitors -/

section Cadence

variable {monitor advanced : LoopMonitor} {l next : MissionLoop} {input : LoopInput} {c : LoopClaim}

/-- The monitor after `k` intervals. -/
def LoopMonitor.after (monitor : LoopMonitor) (k : ℕ) : LoopMonitor :=
  { monitor with nextDueAt := monitor.nextDueAt + k * monitor.intervalSeconds * nanosPerSecond }

/-- The instants after now that are a positive number of intervals after the one that is due. -/
def LoopMonitor.upcoming (monitor : LoopMonitor) (now : DateTime) : Set DateTime :=
  {t | ∃ k, 1 ≤ k ∧ t = (monitor.after k).nextDueAt ∧ now < t}

/-- The elapsed seconds are whole ones, and none have elapsed before the start. -/
lemma le_elapsed_iff {n d : ℤ} (hn : 0 < n) :
    n ≤ max (numSeconds d) 0 ↔ n * nanosPerSecond ≤ d := by
  have hs : (0 : ℤ) < nanosPerSecond := by decide
  rw [le_max_iff, or_iff_left (not_le.mpr hn), numSeconds]
  rcases le_total 0 d with hd | hd
  · rw [Int.tdiv_eq_ediv_of_nonneg hd, Int.le_ediv_iff_mul_le hs]
  · have hneg := Int.tdiv_nonneg (neg_nonneg.mpr hd) hs.le
    rw [Int.neg_tdiv] at hneg
    exact iff_of_false (by omega) (not_le.mpr (hd.trans_lt (mul_pos hn hs)))

/-- A monitor advances to the least of the upcoming instants, however many it has missed. -/
lemma LoopMonitor.advance_ok {now : DateTime} (hi : 1 ≤ monitor.intervalSeconds)
    (h : monitor.advance now = .ok advanced) :
    (∃ k, advanced = monitor.after k) ∧ IsLeast (monitor.upcoming now) advanced.nextDueAt := by
  obtain ⟨ticks, ht, h⟩ := bind_ok.mp h
  obtain ⟨seconds, hs, h⟩ := bind_ok.mp h
  obtain ⟨due, hd, h⟩ := bind_ok.mp h
  cases h
  obtain ⟨-, rfl⟩ := checkedI64_eq_some.mp (okOr_ok.mp ht)
  obtain ⟨-, rfl⟩ := checkedI64_eq_some.mp (okOr_ok.mp hs)
  obtain rfl := DateTime.eq_of_checkedAddSeconds (okOr_ok.mp hd)
  have hn : (0 : ℤ) < nanosPerSecond := by decide
  have hint : (0 : ℤ) < monitor.intervalSeconds := by exact_mod_cast hi
  set elapsed := max (numSeconds (now - monitor.nextDueAt)) 0
  have hpos : 0 ≤ elapsed := le_max_right _ _
  have hq : 0 ≤ elapsed / monitor.intervalSeconds := Int.ediv_nonneg hpos hint.le
  obtain ⟨k, hk⟩ := Int.eq_ofNat_of_zero_le (add_nonneg hq zero_le_one)
  rw [hk]
  refine ⟨⟨k, rfl⟩, ⟨k, by omega, rfl, ?_⟩, ?_⟩
  · have hlt := Int.lt_ediv_add_one_mul_self elapsed hint
    rw [hk] at hlt
    have hno := (le_elapsed_iff (hpos.trans_lt hlt)).not.mp (not_le.mpr hlt)
    linarith
  · rintro t ⟨j, hj, rfl, hnow⟩
    have hjp : (0 : ℤ) < j * monitor.intervalSeconds := mul_pos (by omega) hint
    have hlt : elapsed < j * monitor.intervalSeconds := by
      refine not_le.mp ((le_elapsed_iff hjp).not.mpr ?_)
      simp only [LoopMonitor.after] at hnow
      linarith
    have hle : (k : ℤ) ≤ j := hk ▸ Int.ediv_lt_of_lt_mul hint hlt
    exact add_le_add_right (mul_le_mul_of_nonneg_right
      (mul_le_mul_of_nonneg_right hle hint.le) hn.le) _

/-- The claim that the action settles with an observation. -/
def LoopAction.observedClaim : LoopAction → Option LoopClaim
  | .settle c (.monitorObservation _) => some c
  | .reconcileSettlement c (.monitorObservation _) _ => some c
  | _ => none

/-- The monitor of the item `id` was observed: it moved on to the least upcoming instant, and its
item is open again exactly when that lies before the end of the monitor. -/
def Observed (l next : MissionLoop) (id : String) (now : DateTime) : Prop :=
  ∃ todo todo' monitor k, l.todos[id]? = some todo ∧ todo.spec.monitor = some monitor ∧
    next.todos[id]? = some todo' ∧ todo'.spec.monitor = some (monitor.after k) ∧
    IsLeast (monitor.upcoming now) (monitor.after k).nextDueAt ∧
    todo'.status =
      if (monitor.after k).nextDueAt < monitor.expiresAt then .opened else .completed

lemma Proposed.observed {enc : LoopEncoding} {receipt : LoopReceipt}
    (h : Proposed enc l input next receipt)
    (ha : input.command.action.observedClaim = some c) : Observed l next c.todoId input.now := by
  have hv := h.valid
  obtain ⟨moved, hstep, rfl⟩ := h.step
  generalize input.command.action = act at hstep ha
  generalize receipt.run = run at hstep
  generalize receipt.claim = cl at hstep
  cases hstep with
  | control step | invalidate step => cases step <;> cases ha
  | add => cases ha
  | work found step =>
    cases step with
    | claim | begin | heartbeat | retry | cancel => cases ha
    | settle id_eq _ _ _ _ settlement | reconcile id_eq _ _ _ _ settlement =>
      cases settlement with
      | progress | noProgress | failed => cases ha
      | @observation _ monitor _ monitored advance =>
        cases ha
        subst id_eq
        have hi := ((hv.todos _ _ found).spec.monitor monitor monitored).2.1
        obtain ⟨⟨k, rfl⟩, hle⟩ := LoopMonitor.advance_ok hi advance
        refine ⟨_, _, monitor, k, found, monitored, Std.ExtTreeMap.getElem?_insert_same _ _ _,
          by rw [release_spec], hle, ?_⟩
        rw [release_status]
        simp only [← not_le, ite_not]
        rfl

/-- An accepted observation moves the monitor on to the least instant after now that is a positive
number of intervals after the one that was due, and its item is open again exactly when that instant
lies before the end of the monitor; it is completed otherwise.  This holds in every state in which
the command is accepted, so in every state that a run reaches. -/
theorem monitor_cadence {enc : LoopEncoding} (h : (l.step enc input).1.isOk = true)
    (ha : input.command.action.observedClaim = some c) :
    Observed l (l.step enc input).2 c.todoId input.now := by
  rcases step_cases enc l input with ⟨error, hs⟩ | ⟨receipt, next, hs, hp, -⟩
  · rw [hs] at h
    cases h
  · rw [hs]
    exact hp.observed ha

/-- A loop with a monitor that is due, claimed and begun. -/
def watchLoop : MissionLoop :=
  { MissionLoop.sample with
    claimGeneration := 1
    peers := (∅ : BTreeMap String LoopPeer).insert "agent" .sample
    todos := (∅ : BTreeMap String LoopTodo).insert "todo"
      { LoopTodo.new { LoopTodoSpec.sample with
          taskId := some "task", capability := some "research", kind := .monitor
          writeScopes := ∅, monitor := some ⟨sampleDigest, 0, 60, 60 * nanosPerSecond⟩ } with
        status := .claimed, claim := some .sample, executionStarted := true } }

def watchInput : LoopInput :=
  .sample 1 (.agent "agent") (.settle .sample (.monitorObservation sampleDigest))

/-- The monitor is observed. -/
theorem monitor_cadence_watchLoop :
    (watchLoop.step .sample watchInput).1.isOk = true ∧
      Observed watchLoop (watchLoop.step .sample watchInput).2 "todo" 0 := by
  have h : (watchLoop.step .sample watchInput).1.isOk = true := by decide +kernel
  exact ⟨h, monitor_cadence (c := .sample) h rfl⟩

end Cadence

/-! ## Whole runs -/

section Runs

variable {l next : MissionLoop} {fs : LoopMissionFacts} {id : String} {td td' td'' : LoopTodo}
  {ar : LoopActor} {act : LoopAction} {cl : Option LoopClaim} {summary : Option LoopRunSummary}

/-- The specification after `k` intervals of its monitor, if it has one. -/
def LoopTodoSpec.after (spec : LoopTodoSpec) (k : ℕ) : LoopTodoSpec :=
  { spec with monitor := spec.monitor.map (·.after k) }

@[simp] lemma after_zero (spec : LoopTodoSpec) : spec.after 0 = spec := by
  have hz : (fun monitor : LoopMonitor => monitor.after 0) = id := by
    funext monitor
    simp [LoopMonitor.after]
  simp [LoopTodoSpec.after, hz]

lemma after_after (spec : LoopTodoSpec) (j k : ℕ) :
    (spec.after j).after k = spec.after (j + k) := by
  have ha : (fun monitor : LoopMonitor => (monitor.after j).after k) = (·.after (j + k)) := by
    funext monitor
    simp only [LoopMonitor.after]
    congr 1
    push_cast
    ring
  simp [LoopTodoSpec.after, Function.comp_def, ha]

/-- Only an observation writes to the specification, and it moves the monitor by whole intervals. -/
lemma WorkStep.spec_after {enc : LoopEncoding} {now : DateTime} (hv : TodoValid l id td)
    (h : WorkStep enc l fs ar now id td act td' next cl summary) :
    ∃ k, td'.spec = td.spec.after k := by
  cases h with
  | claim | begin | heartbeat | retry | cancel => exact ⟨0, (after_zero _).symm⟩
  | settle _ _ _ _ _ settlement | reconcile _ _ _ _ _ settlement =>
    rw [release_spec]
    cases settlement with
    | progress | noProgress | failed => exact ⟨0, (after_zero _).symm⟩
    | @observation _ monitor advanced monitored advance =>
      obtain ⟨⟨k, rfl⟩, -⟩ :=
        LoopMonitor.advance_ok (hv.spec.monitor monitor monitored).2.1 advance
      exact ⟨k, by simp [LoopTodoSpec.after, monitored]⟩

/-- A command writes to an item only if it is open or has a claim. -/
lemma WorkStep.unfinished {enc : LoopEncoding} {now : DateTime}
    (h : WorkStep enc l fs ar now id td act td' next cl summary) :
    td.status = .opened ∨ td.claim.isSome = true := by
  cases h with
  | claim _ _ _ selectable => exact .inl selectable.opened
  | begin _ _ held | heartbeat _ _ held => exact .inr (by rw [held.stored]; rfl)
  | settle _ _ stored | reconcile _ stored | retry _ stored => exact .inr (by rw [stored]; rfl)
  | cancel opened => exact .inl opened

/-- The item is completed or cancelled. -/
def LoopTodoStatus.isFinished : LoopTodoStatus → Bool
  | .completed | .cancelled => true
  | .opened | .claimed | .uncertain => false

/-- What may become of an item: its monitor moves by whole intervals, the rest of its specification
stays, and if it is finished, all of it does. -/
def LoopTodo.Becomes (td td' : LoopTodo) : Prop :=
  (∃ k, td'.spec = td.spec.after k) ∧ (td.status.isFinished = true → td' = td)

lemma LoopTodo.Becomes.of_spec_eq (h : td'.spec = td.spec)
    (hf : td.status.isFinished = true → td' = td) : td.Becomes td' :=
  ⟨⟨0, by rw [after_zero, h]⟩, hf⟩

lemma LoopTodo.Becomes.trans (h : td.Becomes td') (h' : td'.Becomes td'') : td.Becomes td'' := by
  obtain ⟨⟨j, hj⟩, hf⟩ := h
  obtain ⟨⟨k, hk⟩, hf'⟩ := h'
  refine ⟨⟨j + k, by rw [hk, hj, after_after]⟩, fun hfin => ?_⟩
  obtain rfl := hf hfin
  exact hf' hfin

lemma LoopStep.becomes {enc : LoopEncoding} {now : DateTime} (hv : LoopValid l fs.mission)
    (h : LoopStep enc l fs ar now act next cl summary) (hid : l.todos[id]? = some td) :
    ∃ td', next.todos[id]? = some td' ∧ td.Becomes td' := by
  have hmem : id ∈ l.todos := Std.ExtTreeMap.mem_iff_isSome_getElem?.mpr (by rw [hid]; rfl)
  obtain ⟨td', ht'⟩ := Option.isSome_iff_exists.mp
    (Std.ExtTreeMap.mem_iff_isSome_getElem?.mp (h.todos_mono hmem))
  have ht := hv.todos id td hid
  have hcl : td.status.isFinished = true → td.claim.isSome = false := by
    intro hf
    refine Bool.eq_false_iff.mpr fun hc => ?_
    rcases ht.status_iff.mpr hc with hs | hs <;> rw [hs] at hf <;> cases hf
  refine ⟨td', ht', ?_⟩
  rcases h.todo_cases ht' with hs | ⟨_, -, -, hf, -⟩ | ⟨old, hold, rfl, -⟩ | ⟨old, hold, step⟩
  · obtain rfl := Option.mem_unique hs hid
    exact .of_spec_eq rfl fun _ => rfl
  · rw [hf] at hid
    cases hid
  · obtain rfl := Option.mem_unique hold hid
    exact .of_spec_eq (invalidate_spec old) fun hf => by simp [LoopTodo.invalidate, hcl hf]
  · obtain rfl := Option.mem_unique hold hid
    refine ⟨step.spec_after ht, fun hf => ?_⟩
    rcases step.unfinished with ho | hc
    · rw [ho] at hf
      cases hf
    · rw [hcl hf] at hc
      cases hc

/-- A work item is never removed, and its specification never changes, except that a monitor moves
on by whole intervals.  A completed or cancelled item is never written to again: its record is the
same in every continuation. -/
theorem work_items_permanent {enc : LoopEncoding}
    (inputs : List LoopInput) (hid : l.todos[id]? = some td) :
    ∃ td', (run (MissionLoop.step enc) l inputs).todos[id]? = some td' ∧ td.Becomes td' := by
  refine loopRun_invariant (I := fun l' => ∃ td', l'.todos[id]? = some td' ∧ td.Becomes td') ?_
    ⟨td, hid, .of_spec_eq rfl fun _ => rfl⟩ inputs
  rintro l' next input receipt hp - ⟨td₁, hid₁, hb₁⟩
  obtain ⟨moved, hstep, rfl⟩ := hp.step
  obtain ⟨td₂, hid₂, hb₂⟩ := hstep.becomes hp.valid hid₁
  exact ⟨td₂, hid₂, hb₁.trans hb₂⟩

/-- The observed monitor has ended, and no later command writes to it. -/
theorem work_items_permanent_watchLoop :
    let l := (watchLoop.step .sample watchInput).2
    ∃ td, (l.todos["todo"]? = some td ∧ td.status.isFinished = true) ∧
      ∀ inputs, (run (MissionLoop.step .sample) l inputs).todos["todo"]? = some td := by
  intro l
  have h : (l.todos["todo"]?.map (·.status.isFinished)) = some true := by decide +kernel
  obtain ⟨td, hid, hf⟩ := Option.map_eq_some_iff.mp h
  refine ⟨td, ⟨hid, hf⟩, fun inputs => ?_⟩
  obtain ⟨_, h, -, hfin⟩ := work_items_permanent inputs hid
  rwa [hfin hf] at h

end Runs

end Hartevo
