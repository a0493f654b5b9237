import Hartevo.MissionLoop.Step

/-!
# Slot accounting

Every completed work item that is not a monitor has spent one slot, and every claimed one reserves
one.  The quota is tested only by the read-only scheduler, when an item is claimed; the slot is
spent much later, when the claim is settled.  The two meet in the number of committed slots, spent
plus reserved: a claim of work raises it by one from below the quota, a settlement turns a
reservation into a spent slot or gives it back, and nothing else raises it.

The step lemmas are `WorkStep.spent_balance` and `WorkStep.committed_balance`, which compare the
contributions of the one item that a work step replaces.
-/

namespace Hartevo

open MissionLoop

variable {enc : LoopEncoding} {l next : MissionLoop} {fs : LoopMissionFacts} {ar : LoopActor}
  {now : DateTime} {act : LoopAction} {cl : Option LoopClaim}

/-- A completed item that is not a monitor. -/
def LoopTodo.isCompletedWork (todo : LoopTodo) : Bool :=
  todo.status == .completed && todo.isWork

/-- A claimed item that is not a monitor. -/
def LoopTodo.isReserved (todo : LoopTodo) : Bool :=
  todo.claim.isSome && todo.isWork

/-- The slots that are spent or reserved. -/
def MissionLoop.committedSlots (l : MissionLoop) : ℕ :=
  l.spentSlots + l.reservedSlots

/-- The command succeeds and claims an item that is not a monitor. -/
def ClaimsWork (enc : LoopEncoding) (l : MissionLoop) (input : LoopInput) : Prop :=
  (∃ receipt, (l.step enc input).1 = .ok receipt) ∧
    ∃ host id tokenDigest todo, input.command.action = .claim host id tokenDigest ∧
      l.todos[id]? = some todo ∧ todo.isWork = true

/-- The largest quota in force at the start of a run or after one of its commands. -/
def largestQuota (enc : LoopEncoding) (l : MissionLoop) : List LoopInput → ℕ
  | [] => l.policy.maxSlots
  | input :: inputs =>
    max l.policy.maxSlots (largestQuota enc (l.step enc input).2 inputs)

lemma reservedSlots_eq_countVals (l : MissionLoop) :
    l.reservedSlots = l.todos.countVals LoopTodo.isReserved := by
  unfold reservedSlots claims Std.ExtTreeMap.countVals
  rw [List.filter_filter, List.countP_eq_length_filter]
  refine congrArg List.length (List.filter_congr fun todo _ => ?_)
  exact Bool.and_comm _ _

/-! ## The contribution of one item -/

section Balance

open Std.ExtTreeMap (tally)

variable {run : Option LoopRunSummary} {id : String} {todo td' td oc : LoopTodo} {c : LoopClaim}
  {result : LoopTurnResult} {spent streak : ℕ} {accepted : BTreeSet EvidenceId}

lemma isCompletedWork_eq_false (h : todo.status ≠ .completed) : todo.isCompletedWork = false := by
  simp [LoopTodo.isCompletedWork, h]

/-- An item that is not completed has spent nothing. -/
lemma isCompletedWork_of_status (h : todo.status ≠ .completed) :
    tally LoopTodo.isCompletedWork todo = 0 :=
  Std.ExtTreeMap.tally_of_false (isCompletedWork_eq_false h)

/-- An item without claim reserves nothing. -/
lemma isReserved_of_unclaimed (h : todo.claim = none) : tally LoopTodo.isReserved todo = 0 := by
  simp [tally, LoopTodo.isReserved, h]

/-- A settlement spends exactly the slot of the work it completes. -/
lemma Settlement.spent_balance (hv : TodoValid l id td)
    (h : Settlement l fs now c td result oc spent accepted streak) :
    spent = l.spentSlots + tally LoopTodo.isCompletedWork oc.release := by
  cases h with
  | progress work =>
    have : LoopTodo.isCompletedWork
        { td with status := LoopTodoStatus.completed }.release = true := by
      simpa [LoopTodo.isCompletedWork, LoopTodo.isWork] using work
    simp [this]
  | observation monitored =>
    have hm := hv.isWork_of_monitor monitored
    simp only [LoopTodo.isWork] at hm
    simp [tally, LoopTodo.isCompletedWork, LoopTodo.isWork, hm]
  | noProgress => rw [isCompletedWork_of_status (by simp), Nat.add_zero]
  | @failed _ uncertain =>
    rw [isCompletedWork_of_status (by cases uncertain <;> simp), Nat.add_zero]

lemma Settlement.committed_le (hc : todo.claim = some c)
    (h : Settlement l fs now c todo result oc spent accepted streak) :
    spent + tally LoopTodo.isReserved oc.release ≤
      l.spentSlots + tally LoopTodo.isReserved todo := by
  cases h with
  | progress work =>
    have hr : todo.isReserved = true := by simp [LoopTodo.isReserved, hc, work]
    rw [isReserved_of_unclaimed (by simp [release_claim]), Std.ExtTreeMap.tally_of_true hr]
  | observation =>
    rw [isReserved_of_unclaimed]
    · omega
    · rw [release_claim, if_neg]
      dsimp only
      split_ifs <;> simp
  | noProgress =>
    rw [isReserved_of_unclaimed (by simp [release_claim])]
    omega
  | @failed _ uncertain =>
    cases uncertain with
    | true => simp [tally, LoopTodo.isReserved, LoopTodo.isWork, release_claim]
    | false =>
      rw [isReserved_of_unclaimed (by simp [release_claim])]
      omega

/-- A work step spends exactly the slot of the work it completes. -/
lemma WorkStep.spent_balance (hv : TodoValid l id todo)
    (h : WorkStep enc l fs ar now id todo act td' next cl run) :
    next.spentSlots + tally LoopTodo.isCompletedWork todo =
      l.spentSlots + tally LoopTodo.isCompletedWork td' := by
  cases h with
  | claim _ _ _ selectable =>
    have ho := selectable.opened
    rw [isCompletedWork_of_status (by simp [ho]), isCompletedWork_of_status (by simp)]
  | begin => rfl
  | heartbeat => rfl
  | settle _ _ stored _ _ sett | reconcile _ stored _ _ _ sett =>
    rw [isCompletedWork_of_status (hv.not_completed stored), settledLoop,
      sett.spent_balance hv, Nat.add_zero]
  | retry _ stored =>
    rw [isCompletedWork_of_status (hv.not_completed stored), isCompletedWork_of_status (by simp)]
  | cancel opened =>
    rw [isCompletedWork_of_status (by simp [opened]), isCompletedWork_of_status (by simp)]

/-- A work step commits no new slot, unless it claims an item that is not a monitor; that commits
one more, from below the quota. -/
lemma WorkStep.committed_balance (hv : TodoValid l id todo)
    (h : WorkStep enc l fs ar now id todo act td' next cl run) :
    (next.spentSlots + tally LoopTodo.isReserved td' ≤
        l.spentSlots + tally LoopTodo.isReserved todo ∧
      ∀ host tok, act = .claim host id tok → todo.isWork = false) ∨
    (next.spentSlots + tally LoopTodo.isReserved td' =
        l.spentSlots + tally LoopTodo.isReserved todo + 1 ∧
      (∃ host tok, act = .claim host id tok) ∧ todo.isWork = true ∧
      l.committedSlots < l.policy.maxSlots) := by
  cases h with
  | @claim host tok _ _ _ _ _ _ _ selectable =>
    have hu := isReserved_of_unclaimed (hv.unclaimed selectable.opened)
    cases hw : todo.isWork with
    | true =>
      refine .inr ⟨?_, ⟨host, tok, rfl⟩, rfl, selectable.quota hw⟩
      rw [hu, Std.ExtTreeMap.tally_of_true
        (by simpa [LoopTodo.isReserved, LoopTodo.isWork] using hw)]
    | false =>
      refine .inl ⟨?_, fun _ _ _ => rfl⟩
      rw [hu, Std.ExtTreeMap.tally_of_false
        (by simpa [LoopTodo.isReserved, LoopTodo.isWork] using hw)]
  | begin | cancel => exact .inl ⟨le_refl _, fun _ _ h => by cases h⟩
  | heartbeat _ _ held =>
    refine .inl ⟨?_, fun _ _ h => by cases h⟩
    simp [tally, LoopTodo.isReserved, LoopTodo.isWork, held.stored]
  | settle _ _ stored _ _ sett | reconcile _ stored _ _ _ sett =>
    exact .inl ⟨sett.committed_le stored, fun _ _ h => by cases h⟩
  | retry =>
    refine .inl ⟨?_, fun _ _ h => by cases h⟩
    rw [isReserved_of_unclaimed rfl]
    exact Nat.add_le_add_left (Nat.zero_le _) _

end Balance

/-! ## One step -/

section Steps

variable {run : Option LoopRunSummary}

lemma countVals_completed_invalidatedTodos (hv : LoopValid l fs.mission) :
    l.invalidatedTodos.countVals LoopTodo.isCompletedWork =
      l.todos.countVals LoopTodo.isCompletedWork := by
  refine Std.ExtTreeMap.countVals_map fun id todo ht => ?_
  unfold LoopTodo.invalidate
  split_ifs with hcl
  · obtain ⟨c, hc⟩ := Option.isSome_iff_exists.mp hcl
    rw [isCompletedWork_eq_false ((hv.todos id todo ht).not_completed hc),
      isCompletedWork_eq_false (by simp)]
  · rfl

lemma countVals_reserved_invalidatedTodos (l : MissionLoop) :
    l.invalidatedTodos.countVals LoopTodo.isReserved = l.todos.countVals LoopTodo.isReserved := by
  refine Std.ExtTreeMap.countVals_map fun id todo _ => ?_
  unfold LoopTodo.invalidate
  split_ifs <;> rfl

lemma LoopStep.spent_eq (hv : LoopValid l fs.mission) (h : LoopStep enc l fs ar now act next cl run)
    (hs : l.spentSlots = l.todos.countVals LoopTodo.isCompletedWork) :
    next.spentSlots = next.todos.countVals LoopTodo.isCompletedWork := by
  cases h with
  | control step =>
    obtain ⟨ht, hsa, -⟩ := step.frame
    rw [ht, hsa, hs]
  | add _ fresh =>
    rw [Std.ExtTreeMap.countVals_insert_fresh fresh,
      isCompletedWork_of_status (by simp [LoopTodo.new])]
    exact hs
  | invalidate step =>
    obtain ⟨ht, hsa, -⟩ := step.frame
    rw [ht, hsa, hs, countVals_completed_invalidatedTodos hv]
  | @work _ _ _ td' _ _ _ found step =>
    have hb := step.spent_balance (hv.todos _ _ found)
    have hc := Std.ExtTreeMap.countVals_replace (w := td') found LoopTodo.isCompletedWork
    rw [step.frame.1]
    omega

/-- A step commits no new slot, unless it claims an item that is not a monitor; that commits one
more, from below the quota. -/
lemma LoopStep.committed_cases (hv : LoopValid l fs.mission)
    (h : LoopStep enc l fs ar now act next cl run) :
    (next.committedSlots ≤ l.committedSlots ∧ ∀ host id tok todo, act = .claim host id tok →
        l.todos[id]? = some todo → todo.isWork = false) ∨
    (next.committedSlots = l.committedSlots + 1 ∧ l.committedSlots < l.policy.maxSlots ∧
      ∃ host id tok todo, act = .claim host id tok ∧
        l.todos[id]? = some todo ∧ todo.isWork = true) := by
  unfold committedSlots
  simp only [reservedSlots_eq_countVals]
  cases h with
  | control step =>
    obtain ⟨ht, hs, -⟩ := step.frame
    refine .inl ⟨by rw [ht, hs], ?_⟩
    rintro host id tok todo rfl
    cases step
  | add _ fresh =>
    refine .inl ⟨?_, by rintro host id tok todo ⟨⟩⟩
    rw [Std.ExtTreeMap.countVals_insert_fresh fresh,
      isReserved_of_unclaimed (by simp [LoopTodo.new])]
    exact le_refl _
  | invalidate step =>
    obtain ⟨ht, hs, -⟩ := step.frame
    refine .inl ⟨by rw [ht, hs, countVals_reserved_invalidatedTodos], ?_⟩
    rintro host id tok todo rfl
    cases step
  | @work _ key todo td' _ _ _ found step =>
    have hc := Std.ExtTreeMap.countVals_replace (w := td') found LoopTodo.isReserved
    rw [step.frame.1]
    rcases step.committed_balance (hv.todos _ _ found) with
      ⟨hle, hm⟩ | ⟨heq, ⟨host, tok, rfl⟩, hw, hq⟩
    · refine .inl ⟨by omega, ?_⟩
      rintro host id tok other rfl ho
      have hkey : id = key := by
        cases step
        rfl
      subst hkey
      obtain rfl := Option.mem_unique ho found
      exact hm host tok rfl
    · rw [committedSlots, reservedSlots_eq_countVals] at hq
      exact .inr ⟨by omega, hq, host, key, tok, todo, rfl, found, hw⟩

end Steps

/-! ## Whole runs -/

section Runs

variable {input : LoopInput} {receipt : LoopReceipt}

lemma Proposed.spent_eq (h : Proposed enc l input next receipt)
    (hs : l.spentSlots = l.todos.countVals LoopTodo.isCompletedWork) :
    next.spentSlots = next.todos.countVals LoopTodo.isCompletedWork := by
  obtain ⟨moved, hstep, rfl⟩ := h.step
  have hm := hstep.spent_eq h.valid hs
  exact hm

lemma claimsWork_of_committed_lt (h : l.committedSlots < (l.step enc input).2.committedSlots) :
    ClaimsWork enc l input := by
  rcases step_cases enc l input with ⟨error, hf⟩ | ⟨receipt, next, hok, hp, -⟩
  · rw [hf] at h
    exact absurd h (lt_irrefl _)
  · obtain ⟨moved, hstep, rfl⟩ := hp.step
    rw [hok] at h
    rcases hstep.committed_cases hp.valid with ⟨hle, -⟩ | ⟨-, -, hc⟩
    · exact absurd h (not_lt.mpr hle)
    · exact ⟨⟨receipt, by rw [hok]⟩, hc⟩

lemma ClaimsWork.committed_eq (h : ClaimsWork enc l input) :
    (l.step enc input).2.committedSlots = l.committedSlots + 1 ∧
      l.committedSlots < l.policy.maxSlots := by
  obtain ⟨⟨receipt, hr⟩, host, id, tok, todo, ha, ht, hw⟩ := h
  rcases step_cases enc l input with ⟨error, hf⟩ | ⟨rc', next, hok, hp, -⟩
  · rw [hf] at hr
    cases hr
  · obtain ⟨moved, hstep, rfl⟩ := hp.step
    rw [hok]
    rcases hstep.committed_cases hp.valid with ⟨-, hm⟩ | ⟨heq, hlt, -⟩
    · rw [hm host id tok todo ha ht] at hw
      cases hw
    · exact ⟨heq, hlt⟩

/-- A command leaves at most the committed slots there were, or as many as the quota. -/
lemma committed_step_le (enc : LoopEncoding) (l : MissionLoop) (input : LoopInput) :
    (l.step enc input).2.committedSlots ≤ max l.committedSlots l.policy.maxSlots := by
  by_cases hlt : l.committedSlots < (l.step enc input).2.committedSlots
  · obtain ⟨heq, hq⟩ := (claimsWork_of_committed_lt hlt).committed_eq
    rw [heq]
    exact le_max_of_le_right hq
  · exact le_max_of_le_left (not_lt.mp hlt)

lemma committed_run_le (enc : LoopEncoding) (l : MissionLoop) (inputs : List LoopInput) :
    (run (MissionLoop.step enc) l inputs).committedSlots ≤
      max l.committedSlots (largestQuota enc l inputs) := by
  induction inputs generalizing l with
  | nil => exact le_max_left _ _
  | cons input inputs ih =>
    have hstep := committed_step_le enc l input
    have hr := ih (l.step enc input).2
    rw [run_cons, largestQuota]
    omega

/-- A new loop has spent and reserved nothing. -/
lemma new_committed {ms : Mission} {start : DateTime}
    {policy : LoopPolicy} (h : MissionLoop.new ms policy start = .ok l) :
    l.spentSlots = l.todos.countVals LoopTodo.isCompletedWork ∧ l.committedSlots = 0 := by
  obtain ⟨-, rfl⟩ := new_ok h
  simp [MissionLoop.initial, committedSlots, reservedSlots_eq_countVals]

/-- In every run from a new loop, the spent slots are the completed work items that are not
monitors.  The committed slots are raised by successful claims of such items only, by exactly one
and only from below the quota, so they never exceed the largest quota so far. -/
theorem slot_accounting {mission : Mission} {policy : LoopPolicy} {start : DateTime}
    {l₀ : MissionLoop} (hnew : MissionLoop.new mission policy start = .ok l₀)
    (inputs : List LoopInput) :
    let l := run (MissionLoop.step enc) l₀ inputs
    l.spentSlots = l.todos.countVals LoopTodo.isCompletedWork ∧
      (∀ input, l.committedSlots < (l.step enc input).2.committedSlots →
        ClaimsWork enc l input) ∧
      (∀ input, ClaimsWork enc l input →
        (l.step enc input).2.committedSlots = l.committedSlots + 1 ∧
          l.committedSlots < l.policy.maxSlots) ∧
      l.committedSlots ≤ largestQuota enc l₀ inputs := by
  obtain ⟨hs, hz⟩ := new_committed hnew
  refine ⟨?_, fun _ => claimsWork_of_committed_lt, fun _ => ClaimsWork.committed_eq, ?_⟩
  · exact loopRun_invariant
      (I := fun l => l.spentSlots = l.todos.countVals LoopTodo.isCompletedWork)
      (fun h _ => h.spent_eq) hs inputs
  · have hle := committed_run_le enc l₀ inputs
    rwa [hz, Nat.max_eq_right (Nat.zero_le _)] at hle

/-- The accounting of the run that registers a peer, adds an item and claims it. -/
theorem slot_accounting_sampleRun :
    let l := run (MissionLoop.step .sample) .sample sampleRun
    l.spentSlots = l.todos.countVals LoopTodo.isCompletedWork ∧
      (∀ input, l.committedSlots < (l.step .sample input).2.committedSlots →
        ClaimsWork .sample l input) ∧
      (∀ input, ClaimsWork .sample l input →
        (l.step .sample input).2.committedSlots = l.committedSlots + 1 ∧
          l.committedSlots < l.policy.maxSlots) ∧
      l.committedSlots ≤ largestQuota .sample .sample sampleRun :=
  slot_accounting MissionLoop.new_sample sampleRun

end Runs

end Hartevo
