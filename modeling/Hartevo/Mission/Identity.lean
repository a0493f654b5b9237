import Hartevo.Mission.Records

/-!
# Identities in a Mission

Every lookup in a Mission takes the first record with the wanted id, so the ids should be distinct.
The commands guard them unevenly.  Evidence, work products and idempotency keys are compared with
the recorded ones, and stay distinct in every run (`guardedIds_run`).  The id of a proposed effect
and the ids of the tasks that start a cycle are not: they stay distinct exactly when the caller
supplies fresh ones (`hasUniqueIds_run_iff`), and `duplicate_effect_ids` is a run in which they do
not.
-/

namespace Hartevo

open Command List

namespace Mission

variable {enc : MissionEncoding} {m : Mission} {cmd : MissionCommand} {α : Type}

/-! ## Ids that the commands guard -/

/-- The ids that every append compares with the recorded ones. -/
structure Records.GuardedIds (r : Records) : Prop where
  idempotencyKeys : (r.effects.map (·.idempotencyKey)).Nodup
  evidenceIds : (r.evidence.map (·.id)).Nodup
  workProductIds : (r.workProducts.map (·.id)).Nodup

/-- A list of distinct values stays one when a list of new and distinct values is appended, and only
then. -/
lemma nodup_append_iff {known added : List α} :
    (known ++ added).Nodup ↔ known.Nodup ∧ added.Nodup ∧ ∀ a ∈ added, a ∉ known := by
  rw [nodup_append']
  constructor
  · rintro ⟨hk, had, hd⟩
    exact ⟨hk, had, fun a ha hmem => hd hmem ha⟩
  · rintro ⟨hk, had, hf⟩
    exact ⟨hk, had, fun a hmem ha => hf a ha hmem⟩

lemma nodup_concat {a : α}
    {known : List α} (hk : known.Nodup) (ha : a ∉ known) : (known ++ [a]).Nodup :=
  nodup_append_iff.mpr ⟨hk, nodup_singleton a, fun b hb => by
    rwa [mem_singleton.mp hb]⟩

lemma key_fresh_of_checkProposeEffect {spec : EffectSpec} {now : DateTime}
    (h : m.checkProposeEffect spec now = .ok ()) :
    spec.idempotencyKey ∉ m.effects.map (·.idempotencyKey) := by
  simp only [checkProposeEffect, validateEffectSpec, check_ok, rejectIf_ok] at h
  obtain ⟨-, ⟨-, -, -, -, -, -, -, -, hf⟩, -⟩ := h
  intro hmem
  obtain ⟨e, he, hkey⟩ := mem_map.mp hmem
  have ho := any_eq_false.mp hf e he
  exact ho (beq_iff_eq.mpr hkey)

/-- No command repeats a guarded id. -/
lemma guardedIds_step (h : m.records.GuardedIds) : (m.step enc cmd).2.records.GuardedIds := by
  have hr := records_step enc m cmd
  generalize (m.step enc cmd).2.records = next at hr
  cases hr with
  | kept => exact h
  | researchStarted | cycleStarted | taskBegun =>
    exact ⟨h.idempotencyKeys, h.evidenceIds, h.workProductIds⟩
  | evidenceRecorded hfr =>
    refine ⟨h.idempotencyKeys, ?_, h.workProductIds⟩
    rw [map_append]
    refine nodup_concat h.evidenceIds fun hmem => ?_
    obtain ⟨known, hk, hid⟩ := mem_map.mp hmem
    exact hfr known hk hid
  | workProductRecorded hfr =>
    refine ⟨h.idempotencyKeys, h.evidenceIds, ?_⟩
    rw [map_append]
    refine nodup_concat h.workProductIds fun hmem => ?_
    obtain ⟨known, hk, hid⟩ := mem_map.mp hmem
    exact hfr known hk hid
  | workProductRevised hf =>
    refine ⟨h.idempotencyKeys, h.evidenceIds, ?_⟩
    have hid := find?_some hf
    rw [map_replaceFirst hf (beq_iff_eq.mp hid).symm]
    exact h.workProductIds
  | effectProposed hc =>
    refine ⟨?_, h.evidenceIds, h.workProductIds⟩
    rw [map_append]
    exact nodup_concat h.idempotencyKeys (key_fresh_of_checkProposeEffect hc)
  | effectMoved hf hm =>
    refine ⟨?_, h.evidenceIds, h.workProductIds⟩
    rw [map_replaceFirst hf hm.idempotencyKey_eq]
    exact h.idempotencyKeys

/-- In every run from a compiled Mission, with failing commands or without, the idempotency keys and
the ids of evidence and work products are distinct. -/
lemma guardedIds_run (hst : m.IsCompiled enc) (cmds : List MissionCommand) :
    (run (step enc) m cmds).records.GuardedIds := by
  refine run_invariant (step enc) (I := fun s => s.records.GuardedIds)
    (fun s cmd hs => guardedIds_step hs) ?_ cmds
  obtain ⟨_, _, _, _, _, _, _, rfl⟩ := hst.eq_initial
  exact ⟨nodup_nil, nodup_nil, nodup_nil⟩

/-! ## Ids that the caller chooses -/

/-- All records of a Mission have distinct ids, and its effects distinct idempotency keys. -/
structure Records.HasUniqueIds (r : Records) : Prop extends r.GuardedIds where
  effectIds : (r.effects.map (·.id)).Nodup
  taskIds : r.taskIds.Nodup

/-- The ids that a command brings, and that the Mission does not compare with the recorded ones, are
distinct and new. -/
def FreshIds (m : Mission) : MissionCommand → Prop
  | .startResearch tasks _ | .startScheduledCycle _ tasks _ =>
    (tasks.map (·.id)).Nodup ∧ ∀ id ∈ tasks.map (·.id), id ∉ m.tasks.map (·.id)
  | .proposeEffect spec _ => spec.id ∉ m.effects.map (·.id)
  | _ => True

/-- The ids that are not guarded. -/
def Records.FreeIds (r : Records) : Prop :=
  (r.effects.map (·.id)).Nodup ∧ r.taskIds.Nodup

lemma freshIds_of_appends (h : appends cmd = false) : m.FreshIds cmd := by
  cases cmd <;> first | exact trivial | cases h

/-- A command that succeeds keeps the other ids distinct exactly when it brings fresh ones. -/
lemma freeIds_step_iff (hok : (m.step enc cmd).1 = .ok ()) :
    (m.step enc cmd).2.records.FreeIds ↔ m.records.FreeIds ∧ m.FreshIds cmd := by
  have hr := records_step enc m cmd
  rw [hok] at hr
  generalize (m.step enc cmd).2.records = next at hr
  cases hr with
  | kept hk => exact (and_iff_left (freshIds_of_appends (hk rfl))).symm
  | researchStarted | cycleStarted =>
    simp only [Records.FreeIds, FreshIds, nodup_append_iff, and_assoc]
    rfl
  | taskBegun hf =>
    refine (and_congr_right fun _ => ?_).trans (and_iff_left trivial).symm
    constructor
    · intro hn
      exact (nodup_append_iff.mp hn).1
    · intro hn
      exact nodup_concat hn hf
  | evidenceRecorded | workProductRecorded | workProductRevised => exact (and_iff_left trivial).symm
  | @effectProposed spec _ hc =>
    have hids : (m.effects ++ [m.proposedEffect spec]).map (·.id) =
        m.effects.map (·.id) ++ [spec.id] := by
      rw [map_append]
      rfl
    constructor
    · rintro ⟨he, ht⟩
      rw [hids, nodup_append_iff] at he
      exact ⟨⟨he.1, ht⟩, he.2.2 spec.id (mem_singleton_self _)⟩
    · rintro ⟨⟨he, ht⟩, hf⟩
      refine ⟨?_, ht⟩
      rw [hids]
      exact nodup_concat he hf
  | effectMoved hfo hm =>
    have hf : m.FreshIds cmd := by cases hm <;> exact trivial
    rw [Records.FreeIds, map_replaceFirst hfo hm.id_eq]
    exact (and_iff_left hf).symm

/-- Over a run of commands that succeed, the other ids stay distinct exactly when every command
brings fresh ones. -/
lemma freeIds_run_iff {cmds : List MissionCommand}
    (hok : ∀ e ∈ trace (step enc) m cmds, e.output = .ok ()) :
    (run (step enc) m cmds).records.FreeIds ↔
      m.records.FreeIds ∧ ∀ e ∈ trace (step enc) m cmds, e.before.FreshIds e.input := by
  induction cmds generalizing m with
  | nil => simp
  | cons cmd cmds ih =>
    have hf : (m.step enc cmd).1 = .ok () := hok _ mem_cons_self
    have hr := ih fun e he => hok e (mem_cons_of_mem _ he)
    rw [run_cons, hr, freeIds_step_iff hf, trace_cons, forall_mem_cons, and_assoc]
    rfl

/-- In a run of successful commands from a compiled Mission, all ids are distinct exactly when every
proposed effect and every task that starts a cycle came with a fresh id. -/
theorem hasUniqueIds_run_iff (enc : MissionEncoding) {m : Mission}
    (hstart : m.IsCompiled enc) {commands : List MissionCommand}
    (hok : ∀ e ∈ trace (Mission.step enc) m commands, e.output = .ok ()) :
    (run (Mission.step enc) m commands).records.HasUniqueIds ↔
      ∀ e ∈ trace (Mission.step enc) m commands, e.before.FreshIds e.input := by
  have hg := guardedIds_run hstart commands
  have hi : m.records.FreeIds := by
    obtain ⟨_, _, _, _, _, _, _, rfl⟩ := hstart.eq_initial
    exact ⟨nodup_nil, nodup_nil⟩
  have hf := freeIds_run_iff hok
  constructor
  · intro hu
    exact (hf.mp ⟨hu.effectIds, hu.taskIds⟩).2
  · intro hfr
    obtain ⟨he, ht⟩ := hf.mpr ⟨hi, hfr⟩
    exact ⟨hg, he, ht⟩

/-- A run that proposes two effects, with an id of their own each. -/
def distinctRun : List MissionCommand :=
  [.startResearch [] 1, .proposeEffect .sample 2,
    .proposeEffect { EffectSpec.sample with id := "second", idempotencyKey := "second" } 3]

/-- The run of distinct ids. -/
theorem hasUniqueIds_run_iff_distinctRun :
    (run (Mission.step .sample) sample distinctRun).records.HasUniqueIds ↔
      ∀ e ∈ trace (Mission.step .sample) sample distinctRun, e.before.FreshIds e.input :=
  hasUniqueIds_run_iff .sample (isCompiled_sample .sample) (by decide +kernel)

/-- A run that proposes two effects with the same id and different idempotency keys. -/
def duplicateRun : List MissionCommand :=
  [.startResearch [] 1, .proposeEffect .sample 2,
    .proposeEffect { EffectSpec.sample with idempotencyKey := "second" } 3]

/-- Both proposals are accepted. -/
theorem duplicate_effect_ids :
    IsCompiled .sample sample ∧
      (∀ e ∈ trace (Mission.step .sample) sample duplicateRun, e.output = .ok ()) ∧
      (run (Mission.step .sample) sample duplicateRun).effects.map (·.id) = ["effect", "effect"] ∧
      ¬(run (Mission.step .sample) sample duplicateRun).records.HasUniqueIds := by
  have hids : (run (Mission.step .sample) sample duplicateRun).effects.map (·.id) =
      ["effect", "effect"] := by decide +kernel
  refine ⟨isCompiled_sample .sample, by decide +kernel, hids, fun hu => ?_⟩
  have hn : ((run (Mission.step .sample) sample duplicateRun).effects.map (·.id)).Nodup :=
    hu.effectIds
  rw [hids] at hn
  exact absurd hn (by decide)

end Mission

end Hartevo
