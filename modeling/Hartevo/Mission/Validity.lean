import Hartevo.Mission.Order

/-!
# What makes a definition valid

The check of a definition reads the manifest, the frames of the checkpoints in their order, the
state of each checkpoint on its own, and how many are ready or active.  `validate_iff` separates the
four.  The first two depend on the frame alone, which no command writes, and checkpoints in order
never have two that are ready or active; what is left is one statement about each checkpoint.
-/

namespace Hartevo

open List

namespace MissionDefinition

variable {enc : MissionEncoding} {d d' : MissionDefinition}
  {c c' : MissionCheckpoint} {seen : BTreeSet String} {l : List MissionCheckpoint}

/-- The part of the check of a checkpoint that reads its frame. -/
def frameIsValid (self : MissionDefinition) (c : MissionCheckpoint) (seen : BTreeSet String) :
    Bool :=
  !(isBlank c.id ||
    (c.route.any fun route =>
      !route.validate.isOk || !self.capabilityIds.contains route.capabilityId ||
        !route.oracleIds.toList.all self.oracleIds.contains) ||
    c.dependsOn.contains c.id || !c.dependsOn.toList.all seen.contains)

def framesAreValid (self : MissionDefinition) : BTreeSet String → List MissionCheckpoint → Bool
  | _, [] => true
  | seen, c :: rest => self.frameIsValid c seen && framesAreValid self (seen.insert c.id) rest

/-- The state of a checkpoint fits together. -/
structure CheckpointHolds (enc : MissionEncoding) (definition : MissionDefinition)
    (c : MissionCheckpoint) : Prop where
  revision : c.revision ≠ 0
  attempt : c.attempt = 0 → c.startedAt = none
  pending : c.status = .pending → c.startedAt = none
  completion : c.completion.isSome = (c.status == .completed)
  block : c.status.isWaiting = c.block.isSome
  valid : ∀ completion, c.completion = some completion →
    definition.completionIsValid enc c completion = true

lemma CheckpointHolds.block_eq_none (h : d.CheckpointHolds enc c)
    (hs : c.status.isWaiting = false) : c.block = none := by
  have hb := h.block
  rw [hs] at hb
  simpa using hb.symm

lemma CheckpointHolds.completion_eq_none (h : d.CheckpointHolds enc c)
    (hs : c.status ≠ .completed) : c.completion = none := by
  have hc := h.completion
  rw [beq_eq_false_iff_ne.mpr hs] at hc
  simpa using hc

/-- The check of a checkpoint reads its frame and its state. -/
lemma checkpointIsValid_iff : d.checkpointIsValid enc c seen = true ↔
      d.frameIsValid c seen = true ∧ d.CheckpointHolds enc c := by
  have hv : c.completion.all (d.completionIsValid enc c) = true ↔
      ∀ cpl, c.completion = some cpl → d.completionIsValid enc c cpl = true := by
    cases c.completion <;> simp
  rw [checkpointIsValid, Bool.and_eq_true, hv]
  simp only [frameIsValid, Bool.not_eq_true', passed, beq_eq_false_iff_ne, Bool.and_eq_false_iff,
    Option.isSome_eq_false_iff, Option.isNone_iff_eq_none, and_assoc]
  constructor
  · rintro ⟨hid, hrev, hr, hse, hd, hatt, hp, -, hdo, ho, hb, hc⟩
    refine ⟨hid, hr, hse, hd, hrev, fun h => hatt.resolve_left (· h),
      fun h => (hp.resolve_left (· h)).1, ?_, hb, hc⟩
    by_cases hs : c.status = .completed
    · have hso := hdo.resolve_left (· hs)
      rw [Option.isNone_eq_false_iff.mp hso, hs]
      rfl
    · have hn := ho.resolve_left (by simp [hs])
      rw [hn, beq_eq_false_iff_ne.mpr hs]
      rfl
  · rintro ⟨hid, hr, hse, hd, h⟩
    have hi : ∀ st, c.status = st → st.isWaiting = false → st ≠ .completed →
        c.block = none ∧ c.completion = none := by
      rintro _ rfl hw hop
      exact ⟨h.block_eq_none hw, h.completion_eq_none hop⟩
    refine ⟨hid, h.revision, hr, hse, hd, ?_, ?_, ?_, ?_, ?_, h.block, h.valid⟩
    · exact or_iff_not_imp_left.mpr fun hatt => h.attempt (not_not.mp hatt)
    · refine or_iff_not_imp_left.mpr fun hs => ?_
      obtain ⟨hb, hc⟩ := hi _ (not_not.mp hs) rfl (by decide)
      exact ⟨h.pending (not_not.mp hs), hb, hc⟩
    · exact or_iff_not_imp_left.mpr fun hs =>
        hi _ (not_not.mp hs) rfl (by decide)
    · refine or_iff_not_imp_left.mpr fun hs => ?_
      have hc := h.completion
      rw [not_not.mp hs] at hc
      exact Option.isNone_eq_false_iff.mpr hc
    · refine or_iff_not_imp_left.mpr fun hs => ?_
      exact h.completion_eq_none (by simpa using hs)

lemma checkpointsAreValid_iff : d.checkpointsAreValid enc seen l = true ↔
      d.framesAreValid seen l = true ∧ ∀ c ∈ l, d.CheckpointHolds enc c := by
  induction l generalizing seen with
  | nil => simp [checkpointsAreValid, framesAreValid]
  | cons c rest ih =>
    rw [checkpointsAreValid, framesAreValid, Bool.and_eq_true, Bool.and_eq_true,
      checkpointIsValid_iff, ih, forall_mem_cons]
    tauto

/-- The part of the check of a definition that reads its frame. -/
def manifestIsValid (self : MissionDefinition) : Bool :=
  let routedCheckpointCount := self.checkpoints.countP (·.route.isSome)
  !(isBlank self.manifestId || self.manifestVersion == 0 || !isSha256 self.catalogDigest ||
    self.capabilityIds.isEmpty || self.requiredArtifactTypes.isEmpty || self.oracleIds.isEmpty ||
    self.checkpoints.isEmpty ||
    (setOf (self.checkpoints.map (·.id))).size != self.checkpoints.length ||
    self.capabilityIds.toList.any isBlank || self.requiredArtifactTypes.toList.any isBlank ||
    self.oracleIds.toList.any isBlank) &&
  !(routedCheckpointCount != 0 && routedCheckpointCount != self.checkpoints.length) &&
  !(routedCheckpointCount == self.checkpoints.length && !self.routesAreValid) &&
  self.framesAreValid ∅ self.checkpoints

lemma framesAreValid_map_frame (seen : BTreeSet String) (l : List MissionCheckpoint) :
    d.framesAreValid seen (l.map (·.frame)) = d.framesAreValid seen l := by
  induction l generalizing seen with
  | nil => rfl
  | cons c rest ih =>
    rw [map_cons, framesAreValid, framesAreValid, ih]
    rfl

lemma framesAreValid_frame (seen : BTreeSet String) (l : List MissionCheckpoint) :
    d.frame.framesAreValid seen l = d.framesAreValid seen l := by
  induction l generalizing seen with
  | nil => rfl
  | cons c rest ih =>
    rw [framesAreValid, framesAreValid, ih]
    rfl

lemma manifestIsValid_frame (d : MissionDefinition) :
    d.frame.manifestIsValid = d.manifestIsValid := by
  have hids : d.frame.checkpoints.map (·.id) = d.checkpoints.map (·.id) := by
    rw [frame, map_map]
    rfl
  have hr : d.frame.checkpoints.countP (·.route.isSome) =
      d.checkpoints.countP (·.route.isSome) := by
    rw [frame, countP_map]
    rfl
  have hl : d.frame.checkpoints.length = d.checkpoints.length := length_map _
  have he : d.frame.checkpoints.isEmpty = d.checkpoints.isEmpty := isEmpty_map
  have hro : d.frame.routesAreValid = d.routesAreValid := by
    have hf : d.frame.checkpoints.filterMap (·.route) = d.checkpoints.filterMap (·.route) := by
      rw [frame, filterMap_map]
      rfl
    unfold routesAreValid
    rw [hf]
    rfl
  unfold manifestIsValid
  rw [hids, hr, hl, he, hro, framesAreValid_frame]
  rw [show d.frame.checkpoints = d.checkpoints.map (·.frame) from rfl, framesAreValid_map_frame]
  rfl

/-- A definition is valid when its manifest is, the cycle is counted from one, each checkpoint fits
together, and no two are ready or active. -/
lemma validate_iff : d.validate enc = .ok () ↔ d.manifestIsValid = true ∧ d.cycle ≠ 0 ∧
        (∀ c ∈ d.checkpoints, d.CheckpointHolds enc c) ∧
        d.checkpoints.countP (·.status == .ready) ≤ 1 ∧
        d.checkpoints.countP (·.status.isActive) ≤ 1 := by
  simp only [validate, check_ok, passed, checkpointsAreValid_iff, manifestIsValid, Bool.and_eq_true,
    Bool.not_eq_true', beq_eq_false_iff_ne, and_assoc, and_left_comm (b := d.cycle ≠ 0)]

/-! ## Checkpoints in order -/

/-- Of checkpoints in order, at most one has a status that is neither completed nor pending. -/
lemma countP_le_one_of_pairwiseOrdered (h : PairwiseOrdered l)
    {p : MissionCheckpointStatus → Bool} (hd : p .completed = false)
    (hp : p .pending = false) : l.countP (fun c => p c.status) ≤ 1 := by
  induction l with
  | nil => exact Nat.zero_le 1
  | cons c rest ih =>
    obtain ⟨hr, ht⟩ := pairwise_cons.mp h
    by_cases hs : c.status = .completed
    · rw [countP_cons_of_neg (by rw [hs, hd]; exact Bool.false_ne_true)]
      exact ih ht
    · have hz : rest.countP (fun c => p c.status) = 0 := by
        rw [countP_eq_zero]
        intro known hk
        rw [(hr known hk).resolve_left hs, hp]
        exact Bool.false_ne_true
      rw [countP_cons, hz]
      split <;> omega

/-- With its checkpoints in order, a definition is valid when each checkpoint is. -/
lemma InOrder.validate_iff (h : d.InOrder) (hman : d.manifestIsValid = true) (hc : d.cycle ≠ 0) :
    d.validate enc = .ok () ↔ ∀ c ∈ d.checkpoints, d.CheckpointHolds enc c := by
  have hr := countP_le_one_of_pairwiseOrdered h.ordered (p := (· == .ready)) rfl rfl
  have ha := countP_le_one_of_pairwiseOrdered h.ordered (p := (·.isActive)) rfl rfl
  rw [MissionDefinition.validate_iff]
  exact ⟨fun hv => hv.2.2.1, fun hh => ⟨hman, hc, hh, hr, ha⟩⟩

/-! ## What a write does to one checkpoint -/

lemma CheckpointHolds.of_open (hrev : c'.revision ≠ 0) (hatt : c'.attempt = 0 → c'.startedAt = none)
    (hp : c'.status = .pending → c'.startedAt = none) (hst : c'.status ≠ .completed)
    (hc : c'.completion = none) (hb : c'.status.isWaiting = c'.block.isSome) :
    d.CheckpointHolds enc c' where
  revision := hrev
  attempt := hatt
  pending := hp
  completion := by
    rw [hc, beq_eq_false_iff_ne.mpr hst]
    rfl
  block := hb
  valid cpl hs := by
    rw [hc] at hs
    cases hs

lemma completionIsValid_congr (hf : d'.frame = d.frame)
    (hc : d'.cycle = d.cycle) (c : MissionCheckpoint) (cpl : MissionCheckpointCompletion) :
    d'.completionIsValid enc c cpl = d.completionIsValid enc c cpl := by
  have ho : d'.oracleIds = d.oracleIds := (congrArg oracleIds hf :)
  have hman : d'.manifestId = d.manifestId := (congrArg manifestId hf :)
  have hv : d'.manifestVersion = d.manifestVersion := (congrArg manifestVersion hf :)
  have hd : d'.catalogDigest = d.catalogDigest := (congrArg catalogDigest hf :)
  simp only [completionIsValid, validPersistedApplicationCheckpointEvidence,
    applicationEvidenceMatches, ho, hman, hv, hd, hc]

lemma CheckpointHolds.congr (h : d.CheckpointHolds enc c)
    (hf : d'.frame = d.frame) (hcy : d'.cycle = d.cycle) : d'.CheckpointHolds enc c := by
  refine { h with valid := fun cpl hc => ?_ }
  rw [completionIsValid_congr hf hcy]
  exact h.valid cpl hc

lemma CheckpointHolds.move (h : d.CheckpointHolds enc c) (hm : c.Move c')
    (hbo : c.revision + 1 < 2 ^ 64) : d.CheckpointHolds enc c' := by
  have hc := h.completion_eq_none (ne_of_isOpen hm.isOpen).1
  cases hm with
  | first hs =>
    have hb := h.block_eq_none (by rw [hs]; rfl)
    refine .of_open ?_ nofun nofun nofun hc ?_
    · rw [Nat.mod_eq_of_lt hbo]
      exact Nat.succ_ne_zero _
    · rw [hb]
      rfl
  | begun hs hatt =>
    exact .of_open (Nat.succ_ne_zero _) (fun hz => absurd hz hatt) nofun nofun hc rfl
  | verifying hs =>
    have hb := h.block_eq_none (by rw [hs]; rfl)
    refine .of_open (Nat.succ_ne_zero _) h.attempt nofun nofun hc ?_
    rw [hb]
    rfl
  | entered hact hs hb =>
    refine .of_open (Nat.succ_ne_zero _) h.attempt ?_ ?_ hc hb
    · rintro rfl
      cases hs
    · rintro rfl
      cases hs

lemma CheckpointHolds.makeReady (h : d.CheckpointHolds enc c)
    (hp : c.status = .pending) : d.CheckpointHolds enc c.makeReady := by
  have hb := h.block_eq_none (by rw [hp]; rfl)
  refine .of_open (Nat.succ_ne_zero _) h.attempt nofun nofun
    (h.completion_eq_none (by rw [hp]; decide)) ?_
  rw [MissionCheckpoint.makeReady, hb]
  rfl

lemma CheckpointHolds.skip (h : d.CheckpointHolds enc c)
    (hr : c.status = .ready) : d.CheckpointHolds enc c.skip := by
  have hb := h.block_eq_none (by rw [hr]; rfl)
  refine .of_open (Nat.succ_ne_zero _) h.attempt nofun nofun
    (h.completion_eq_none (by rw [hr]; decide)) ?_
  rw [MissionCheckpoint.skip, hb]
  rfl

lemma checkpointHolds_renew (enc : MissionEncoding) (d : MissionDefinition) (cyc : ℕ) :
    ∀ c ∈ (d.renew cyc).checkpoints, (d.renew cyc).CheckpointHolds enc c := by
  intro c hc
  obtain ⟨old, -, status, hs, rfl⟩ := mem_renew hc
  rcases hs with rfl | rfl
  · exact .of_open (Nat.succ_ne_zero _) (fun _ => rfl) nofun nofun rfl rfl
  · exact .of_open (Nat.succ_ne_zero _) (fun _ => rfl) (fun _ => rfl) nofun rfl rfl

end MissionDefinition

end Hartevo
