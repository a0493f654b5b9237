import Hartevo.Mission.EffectLife

/-!
# Receipts and results

The receipt of an effect is written by its executor, or taken over from the durable ledger.  Before
the executor reports there is none (`ResultsInOrder`), so the executor overwrites nothing.  The
ledger can: an effect that became uncertain keeps its receipt, and the recovery then accepts another
one.  `keepsReceipts_iff` says exactly when the receipts of a run stay, and
`recovery_replaces_receipt` is a run in which one does not.

The other recovery takes an uncertain effect to `reconciled`, as not executed, whether it has a
receipt or not.  `withoutResults_iff` and `reconciled_with_receipt` are about that.
-/

namespace Hartevo

open Command List

/-- The statuses that no receipt has been written for. -/
def EffectStatus.isBeforeReceipt : EffectStatus → Bool
  | .proposed | .approved | .executing | .rejected | .cancelled | .expired => true
  | _ => false

/-- The statuses of an effect that was not executed. -/
def EffectStatus.isNotExecuted : EffectStatus → Bool
  | .proposed | .approved | .rejected | .cancelled | .expired | .reconciled => true
  | _ => false

/-- An effect has no receipt in the statuses before one, and no verification without a receipt. -/
structure Effect.ResultsInOrder (e : Effect) : Prop where
  receipt : e.status.isBeforeReceipt = true → e.receipt = none
  verification : e.receipt = none → e.verification = none

variable {e e' : Effect} {enc : MissionEncoding} {cmd : MissionCommand}

lemma EffectMove.resultsInOrder (hm : EffectMove enc cmd e e') (h : e.ResultsInOrder) :
    e'.ResultsInOrder := by
  cases hm with
  | decided hs | expired hs | begun hs =>
    exact ⟨fun _ => h.receipt (by rw [hs]; rfl), h.verification⟩
  | cancelled hs =>
    refine ⟨fun _ => h.receipt ?_, h.verification⟩
    rcases hs with hs | hs <;> rw [hs] <;> rfl
  | received | recovered => exact ⟨nofun, nofun⟩
  | @reconciled _ durableState =>
    refine ⟨fun hb => ?_, h.verification⟩
    cases durableState <;> cases hb
  | uncertain | failed => exact ⟨nofun, h.verification⟩
  | @verified _ verification _ _ _ hr =>
    refine ⟨fun hb => ?_, fun hn => ?_⟩
    · cases hres : verification.status <;>
        simp [hres, VerificationStatus.effectStatus, EffectStatus.isBeforeReceipt] at hb
    · rw [hr] at hn
      cases hn

/-- A move keeps the receipt, unless it recovers another one. -/
lemma EffectMove.receipt_eq {receipt : Receipt}
    (hm : EffectMove enc cmd e e') (ho : e.ResultsInOrder)
    (hr : e.receipt = some receipt) (hown : ∀ eid recovered sa,
      cmd = .reconcileDurableReceipt eid recovered sa → receipt = recovered) :
    e'.receipt = some receipt := by
  cases hm with
  | decided | cancelled | expired | begun | reconciled | uncertain | failed | verified =>
    exact hr
  | received hs =>
    rw [ho.receipt (by rw [hs]; rfl)] at hr
    cases hr
  | recovered => rw [hown _ _ _ rfl]

lemma EffectMove.command_of_reconciled (hm : EffectMove enc cmd e e')
    (hs : e'.status = .reconciled) :
    ∃ eid startedAt recordedAt,
      cmd = .reconcileDurableProviderState eid .reconciledNotExecuted startedAt recordedAt := by
  cases hm with
  | @decided _ approval => cases hdec : approval.decision <;> simp [hdec] at hs
  | cancelled | expired | begun | received | recovered | uncertain | failed => cases hs
  | @reconciled eid durableState startedAt recordedAt =>
    cases durableState <;> cases hs
    exact ⟨eid, startedAt, recordedAt, rfl⟩
  | @verified _ verification =>
    cases hres : verification.status <;> simp [hres, VerificationStatus.effectStatus] at hs

lemma EffectStatus.eq_reconciled_of_isNotExecuted {st : EffectStatus}
    (h : st.isNotExecuted = true) : st.isBeforeReceipt = true ∨ st = .reconciled := by
  cases st <;> first | exact .inl rfl | exact .inr rfl | cases h

/-- An effect whose results are in order has none unless it was reconciled with a receipt. -/
lemma Effect.ResultsInOrder.withoutResults (ho : e.ResultsInOrder)
    (hs : e.status.isNotExecuted = true) (hre : e.status = .reconciled → e.receipt = none) :
    e.receipt = none ∧ e.verification = none := by
  have hr : e.receipt = none := by
    rcases EffectStatus.eq_reconciled_of_isNotExecuted hs with hb | heq
    · exact ho.receipt hb
    · exact hre heq
  exact ⟨hr, ho.verification hr⟩

namespace Mission

variable {m m₁ m₂ m₃ : Mission}

/-- The results of every effect are in order. -/
def ResultsInOrder (m : Mission) : Prop :=
  ∀ e ∈ m.effects, e.ResultsInOrder

lemma ResultsInOrder.step (h : m.ResultsInOrder) (enc : MissionEncoding)
    (cmd : MissionCommand) : (m.step enc cmd).2.ResultsInOrder :=
  forall_effects_step (fun _ _ => ⟨fun _ => rfl, fun _ => rfl⟩)
    (fun _ _ hm he => hm.resultsInOrder he) h

lemma resultsInOrder_of_isCompiled (hs : m.IsCompiled enc) : m.ResultsInOrder := by
  rw [ResultsInOrder, effects_eq_nil hs]
  exact fun e he => absurd he not_mem_nil

/-! ## Receipts -/

/-- Every receipt of the first Mission is one of the second, for the effect at the same position. -/
def KeepsReceipts (before after : Mission) : Prop :=
  ∀ (i : ℕ) (e : Effect) (receipt : Receipt), before.effects[i]? = some e →
    e.receipt = some receipt → ∃ e', after.effects[i]? = some e' ∧ e'.receipt = some receipt

lemma KeepsReceipts.refl (m : Mission) : KeepsReceipts m m := fun _ e _ hat hr => ⟨e, hat, hr⟩

lemma KeepsReceipts.trans (h₁ : KeepsReceipts m₁ m₂)
    (h₂ : KeepsReceipts m₂ m₃) : KeepsReceipts m₁ m₃ := by
  intro i e rc hat hr
  obtain ⟨e', hat', hr'⟩ := h₁ i e rc hat hr
  exact h₂ i e' rc hat' hr'

/-- If the command recovers a receipt from the ledger, the effect has none or this one. -/
def RecoversOwnReceipt (enc : MissionEncoding) (m : Mission) : MissionCommand → Prop
  | .reconcileDurableReceipt effectId receipt startedAt =>
    ∀ e e', m.effects.find? (·.id == effectId) = some e →
      m.checkReconcileDurableReceipt enc effectId receipt startedAt = .ok (some e') →
        e.receipt = none ∨ e.receipt = some receipt
  | _ => True

lemma effects_recovery {g : Mission → Except MissionError (Option Effect)}
    {f : Effect → Mission → Mission} (hcmd : cmd.toCommand enc = (check g >>= fun found =>
      match found with
      | none => pure ()
      | some e' => modify (f e'))) (hw : ∀ e' s, (f e' s).effects = (writeEffect e' s).effects) :
    (m.step enc cmd).2.effects = match g m with
      | .ok (some e') => replaceFirst (·.id == e'.id) e' m.effects
      | _ => m.effects := by
  rw [step, hcmd]
  cases hc : g m with
  | error => rw [exec_check_bind_of_error hc]
  | ok found =>
    rw [exec_check_bind_of_ok hc]
    cases found with
    | none => rfl
    | some e' => exact hw e' m

/-- The recovery of a receipt keeps the receipts exactly when the effect has none or this one. -/
lemma keepsReceipts_reconcileDurableReceipt (eid : EffectId) (receipt : Receipt) (sa : DateTime) :
    KeepsReceipts m (m.step enc (.reconcileDurableReceipt eid receipt sa)).2 ↔
      m.RecoversOwnReceipt enc (.reconcileDurableReceipt eid receipt sa) := by
  have he : (m.step enc (.reconcileDurableReceipt eid receipt sa)).2.effects =
      _ := effects_recovery rfl fun _ _ => rfl
  constructor
  · intro hke e e' hfo hc
    rw [hc] at he
    have hm := moves_of_checkReconcileDurableReceipt hc
    have hw : e'.receipt = some receipt := by
      obtain ⟨_, -, hmo⟩ := hm
      cases hmo
      rfl
    rw [← hm.id_eq] at hfo
    obtain ⟨i, hat, ha⟩ := exists_getElem?_of_find? hfo
    cases hr : e.receipt with
    | none => exact .inl rfl
    | some stored =>
      obtain ⟨known, hk, hkep⟩ := hke i e stored hat hr
      rw [he, ha e'] at hk
      cases hk
      exact .inr (hkep.symm.trans hw)
  · intro hown i e stored hat hr
    rw [he]
    split
    · next e' hc =>
      have hm := moves_of_checkReconcileDurableReceipt hc
      obtain ⟨known, hk, hca⟩ := getElem?_replaceFirst (p := (·.id == e'.id)) (a := e') hat
      refine ⟨known, hk, ?_⟩
      rcases hca with rfl | ⟨rfl, hf⟩
      · exact hr
      · rw [hm.id_eq] at hf
        have hs := hown e known hf hc
        rw [hr, Option.some.injEq] at hs
        obtain ⟨_, -, hmo⟩ := hm
        cases hmo
        rcases hs with hn | hs
        · cases hn
        · rw [hs]
    · exact ⟨e, hat, hr⟩

/-- In a Mission whose results are in order, a command keeps the receipts exactly when it does not
recover another one. -/
lemma keepsReceipts_step_iff (ho : m.ResultsInOrder) (cmd : MissionCommand) :
    KeepsReceipts m (m.step enc cmd).2 ↔ m.RecoversOwnReceipt enc cmd := by
  by_cases hr : ∃ eid rc sa, cmd = .reconcileDurableReceipt eid rc sa
  · obtain ⟨eid, rc, sa, rfl⟩ := hr
    exact keepsReceipts_reconcileDurableReceipt eid rc sa
  · have hot : m.RecoversOwnReceipt enc cmd := by
      unfold RecoversOwnReceipt
      split
      · exact absurd ⟨_, _, _, rfl⟩ hr
      · trivial
    refine iff_of_true ?_ hot
    intro i e rc hat hre
    obtain ⟨e', hat', rfl | hm⟩ := effect_step enc cmd hat
    · exact ⟨e', hat', hre⟩
    · refine ⟨e', hat', ?_⟩
      refine hm.receipt_eq (ho e (mem_of_getElem? hat)) hre ?_
      rintro eid recovered sa rfl
      exact absurd ⟨_, _, _, rfl⟩ hr

/-- In a run from a compiled Mission, every receipt stays for the rest of the run exactly when no
recovery brings a receipt that differs from the stored one. -/
theorem keepsReceipts_iff (enc : MissionEncoding) {m : Mission}
    (hstart : m.IsCompiled enc) (commands : List MissionCommand) :
    (∀ earlier middle later, commands = earlier ++ middle ++ later →
        KeepsReceipts (run (Mission.step enc) m earlier)
          (run (Mission.step enc) m (earlier ++ middle))) ↔
      ∀ e ∈ trace (Mission.step enc) m commands,
        e.before.RecoversOwnReceipt enc e.input := by
  have ho : ∀ commands, (run (Mission.step enc) m commands).ResultsInOrder :=
    run_invariant (Mission.step enc) (fun s command h => h.step enc command)
      (resultsInOrder_of_isCompiled hstart)
  constructor
  · intro hk e he
    obtain ⟨earlier, command, later, rfl, rfl⟩ := (mem_trace_iff (Mission.step enc)).mp he
    have hone := hk earlier [command] later (by simp)
    rw [run_append] at hone
    exact (keepsReceipts_step_iff (ho earlier) command).mp hone
  · rintro hown earlier middle later rfl
    rw [run_append]
    rw [append_assoc, trace_append, trace_append] at hown
    have hm : ∀ e ∈ trace (Mission.step enc) (run (Mission.step enc) m earlier) middle,
        e.before.RecoversOwnReceipt enc e.input := fun e he => hown e (by simp [he])
    have hr := run_rely (Mission.step enc)
      (I := fun s => s.ResultsInOrder ∧ KeepsReceipts (run (Mission.step enc) m earlier) s)
      (C := fun e => e.before.RecoversOwnReceipt enc e.input) (P := fun _ => True)
      (fun s command h hown => ⟨⟨h.1.step enc command,
        h.2.trans ((keepsReceipts_step_iff h.1 command).mpr hown)⟩, trivial⟩)
      ⟨ho earlier, KeepsReceipts.refl _⟩ hm
    exact hr.1.2

/-- A run in which an effect with a receipt becomes uncertain. -/
def uncertainRun : List MissionCommand :=
  [.startResearch [] 1, .proposeEffect .sample 2, .approveEffect "effect" .sample,
    .beginEffect "effect" 4, .recordReceipt "effect" .sample, .markEffectUncertain "effect" 6]

theorem keepsReceipts_iff_uncertainRun :
    IsCompiled .sample sample ∧
      ((∀ earlier middle later, uncertainRun = earlier ++ middle ++ later →
          KeepsReceipts (run (Mission.step .sample) sample earlier)
            (run (Mission.step .sample) sample (earlier ++ middle))) ↔
        ∀ e ∈ trace (Mission.step .sample) sample uncertainRun,
          e.before.RecoversOwnReceipt .sample e.input) :=
  ⟨isCompiled_sample .sample, keepsReceipts_iff .sample (isCompiled_sample .sample) uncertainRun⟩

/-- The ledger then brings a receipt of its own. -/
def replacedRun : List MissionCommand :=
  uncertainRun ++ [.reconcileDurableReceipt "effect" { Receipt.sample with id := "other" } 4]

/-- The recovery is accepted and replaces the receipt. -/
theorem recovery_replaces_receipt :
    IsCompiled .sample sample ∧
      (∀ e ∈ trace (Mission.step .sample) sample replacedRun, e.output = .ok ()) ∧
      (run (Mission.step .sample) sample uncertainRun).effects.map (·.receipt) =
        [some .sample] ∧
      (run (Mission.step .sample) sample replacedRun).effects.map (·.receipt) =
        [some { Receipt.sample with id := "other" }] :=
  ⟨isCompiled_sample .sample, by decide +kernel, by decide +kernel, by decide +kernel⟩

/-! ## Effects that were not executed -/

/-- Effects that were not executed carry no receipt and no verification. -/
def WithoutResults (m : Mission) : Prop :=
  ∀ e ∈ m.effects, e.status.isNotExecuted = true → e.receipt = none ∧ e.verification = none

/-- If the command takes an effect for not executed, the effect has no receipt. -/
def ReconcilesWithoutReceipt (enc : MissionEncoding) (m : Mission) : MissionCommand → Prop
  | .reconcileDurableProviderState effectId .reconciledNotExecuted startedAt recordedAt =>
    ∀ e e', m.effects.find? (·.id == effectId) = some e →
      m.checkReconcileDurableProviderState enc effectId .reconciledNotExecuted startedAt
        recordedAt = .ok (some e') → e.receipt = none
  | _ => True

/-- A command keeps the effects that were not executed without results exactly when it does not
take one with a receipt for not executed. -/
lemma withoutResults_step_iff (ho : m.ResultsInOrder) (hn : m.WithoutResults)
    (cmd : MissionCommand) :
    (m.step enc cmd).2.WithoutResults ↔ m.ReconcilesWithoutReceipt enc cmd := by
  have hne := ho.step enc cmd
  by_cases hr : ∃ eid startedAt recordedAt,
      cmd = .reconcileDurableProviderState eid .reconciledNotExecuted startedAt recordedAt
  · obtain ⟨eid, startedAt, recordedAt, rfl⟩ := hr
    have hef : (m.step enc (.reconcileDurableProviderState eid .reconciledNotExecuted
        startedAt recordedAt)).2.effects = _ := effects_recovery rfl fun _ _ => rfl
    constructor
    · intro haf e e' hf hc
      have hmo := moves_of_checkReconcileDurableProviderState hc
      rw [hc] at hef
      rw [← hmo.id_eq] at hf
      obtain ⟨i, -, hat⟩ := exists_getElem?_of_find? hf
      have hmem : e' ∈ (m.step enc (.reconcileDurableProviderState eid
          .reconciledNotExecuted startedAt recordedAt)).2.effects := by
        rw [hef]
        exact mem_of_getElem? (hat e')
      obtain ⟨known, hk, hm⟩ := hmo.exists_found
      obtain rfl := Option.mem_unique hf hk
      cases hm
      exact (haf _ hmem rfl).1
    · intro hco e he hs
      refine (hne e he).withoutResults hs fun hre => ?_
      rw [hef] at he
      split at he
      · next e' hc =>
        rcases mem_replaceFirst he with rfl | he
        · obtain ⟨known, hk, hm⟩ := moves_of_checkReconcileDurableProviderState hc
          have hrec := hco known e hk hc
          cases hm
          exact hrec
        · exact (hn e he hs).1
      · exact (hn e he hs).1
  · have hot : m.ReconcilesWithoutReceipt enc cmd := by
      unfold ReconcilesWithoutReceipt
      split
      · exact absurd ⟨_, _, _, rfl⟩ hr
      · trivial
    refine iff_of_true ?_ hot
    intro e he hs
    refine (hne e he).withoutResults hs fun hre => ?_
    rcases effects_step enc m cmd with hsa | ⟨spec, now, -, -, ha⟩ | ⟨known, moved, hf, hm, hw⟩
    · rw [hsa] at he
      exact (hn e he hs).1
    · rw [ha, mem_append, mem_singleton] at he
      rcases he with he | rfl
      · exact (hn e he hs).1
      · rfl
    · rw [hw] at he
      rcases mem_replaceFirst he with rfl | he
      · exact absurd (hm.command_of_reconciled hre) hr
      · exact (hn e he hs).1

/-- In a run from a compiled Mission, the effects that were not executed carry no result in any
state exactly when no effect with a receipt is taken for not executed. -/
theorem withoutResults_iff (enc : MissionEncoding) {m : Mission}
    (hstart : m.IsCompiled enc) (commands : List MissionCommand) :
    (∀ earlier later, commands = earlier ++ later →
        (run (Mission.step enc) m earlier).WithoutResults) ↔
      ∀ e ∈ trace (Mission.step enc) m commands,
        e.before.ReconcilesWithoutReceipt enc e.input := by
  refine states_iff (Mission.step enc) (R := ResultsInOrder) (G := fun _ => True)
    (fun s command h _ => h.step enc command)
    (fun s command h _ hn => withoutResults_step_iff h hn command)
    (resultsInOrder_of_isCompiled hstart) ?_ fun _ _ => trivial
  rw [WithoutResults, effects_eq_nil hstart]
  exact fun e he => absurd he not_mem_nil

theorem withoutResults_iff_uncertainRun :
    IsCompiled .sample sample ∧
      ((∀ earlier later, uncertainRun = earlier ++ later →
          (run (Mission.step .sample) sample earlier).WithoutResults) ↔
        ∀ e ∈ trace (Mission.step .sample) sample uncertainRun,
          e.before.ReconcilesWithoutReceipt .sample e.input) :=
  ⟨isCompiled_sample .sample, withoutResults_iff .sample (isCompiled_sample .sample) uncertainRun⟩

/-- The ledger then says that the uncertain effect was not executed. -/
def reconciledRun : List MissionCommand :=
  uncertainRun ++ [.reconcileDurableProviderState "effect" .reconciledNotExecuted 4 7]

/-- The recovery is accepted, and the effect keeps its receipt. -/
theorem reconciled_with_receipt :
    IsCompiled .sample sample ∧
      (∀ e ∈ trace (Mission.step .sample) sample reconciledRun, e.output = .ok ()) ∧
      (run (Mission.step .sample) sample reconciledRun).effects.map
        (fun e => (e.status, e.receipt)) = [(.reconciled, some .sample)] :=
  ⟨isCompiled_sample .sample, by decide +kernel, by decide +kernel⟩

end Mission

end Hartevo
