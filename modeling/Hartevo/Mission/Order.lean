import Hartevo.Mission.Checkpoints

/-!
# The checkpoints of a linear manifest are completed in order

A manifest lists its checkpoints in the order in which they are worked on, and each of them depends
on the one before it.  In every Mission that is compiled from a manifest, the checkpoints so far are
completed, at most one is ready, active or skipped, and the rest are pending.

As an invariant this is a statement about any two checkpoints: the earlier one is completed or the
later one is pending.  A write to an open checkpoint keeps it whatever it writes, since everything
before an open checkpoint is completed and everything after it is pending.  A completion keeps it
because the next pending checkpoint is the one that depends on the completed one.
-/

namespace Hartevo

open Command List

/-! ## Definitions from a manifest -/

inductive MissionDefinition.FromManifest (enc : MissionEncoding) : MissionDefinition → Prop
  | linear {manifestId : String} {manifestVersion : ℕ} {catalogDigest : String}
    {operatingMode : OperatingMode}
    {capabilityIds requiredArtifactTypes oracleIds checkpointIds : List String}
    {definition : MissionDefinition}
    (h : MissionDefinition.fromLinearManifest enc manifestId manifestVersion catalogDigest
      operatingMode capabilityIds requiredArtifactTypes oracleIds checkpointIds =
        .ok definition) : FromManifest enc definition
  | routed {manifestId : String} {manifestVersion : ℕ} {catalogDigest : String}
    {operatingMode : OperatingMode} {capabilityIds requiredArtifactTypes oracleIds : List String}
    {checkpointRoutes : List (String × MissionCheckpointRoute)} {definition : MissionDefinition}
    (h : MissionDefinition.fromRoutedLinearManifest enc manifestId manifestVersion
      catalogDigest operatingMode capabilityIds requiredArtifactTypes oracleIds
      checkpointRoutes = .ok definition) : FromManifest enc definition

/-- The Missions that are compiled from a manifest of the Catalog. -/
inductive Mission.IsCataloged (enc : MissionEncoding) : Mission → Prop
  | compileCatalog {tenantId : TenantId} {id : MissionId} {projectId : ProjectId} {title : String}
    {contract : OperatingContract} {definition : MissionDefinition} {now : DateTime} {m : Mission}
    (hmanifest : definition.FromManifest enc)
    (h : Mission.compileCatalog enc tenantId id projectId title contract definition now =
      .ok m) : Mission.IsCataloged enc m

lemma MissionDefinition.FromManifest.checkpoints_eq {enc : MissionEncoding} {d : MissionDefinition}
    (h : d.FromManifest enc) :
    d.validate enc = .ok () ∧ ∃ routes, d.checkpoints = linearCheckpoints none routes := by
  cases h with
  | linear h | routed h =>
    obtain ⟨hv, hres⟩ := check_ok.mp h
    cases hres
    exact ⟨hv, _, rfl⟩

lemma Mission.IsCataloged.exists_definition {enc : MissionEncoding} {m : Mission}
    (h : m.IsCataloged enc) :
    ∃ tid id pid title ct d now, d.FromManifest enc ∧
      m = Mission.initial tid id pid title ct (some d) now := by
  cases h with
  | @compileCatalog _ _ _ _ _ d _ _ hman h =>
    exact ⟨_, _, _, _, _, d, _, hman, (Mission.compileCatalog_ok h).2.2⟩

/-! ## Statuses in order -/

def MissionCheckpointStatus.isCurrent (status : MissionCheckpointStatus) : Bool :=
  status == .ready || status.isActive || status == .skipped

/-- Completed checkpoints, then at most one current one, then pending ones. -/
def IsOrdered (statuses : List MissionCheckpointStatus) : Prop :=
  ∃ (k n : ℕ) (current : Option MissionCheckpointStatus),
    statuses = List.replicate k .completed ++ current.toList ++ List.replicate n .pending ∧
      ∀ status ∈ current, status.isCurrent = true

/-- Of two checkpoints the earlier one is completed or the later one is pending. -/
def PairwiseOrdered (checkpoints : List MissionCheckpoint) : Prop :=
  checkpoints.Pairwise fun c later => c.status = .completed ∨ later.status = .pending

variable {c c' : MissionCheckpoint} {before after cps : List MissionCheckpoint}
  {stage : MissionStage} {cpl : MissionCheckpointCompletion} {d d' : MissionDefinition}
  {enc : MissionEncoding} {m : Mission} {cmd : MissionCommand} {p : Mission.Progress}

lemma pairwiseOrdered_cons (ha : ∀ known ∈ after, known.status = .pending) :
    PairwiseOrdered (c :: after) :=
  (pairwise_or_of_around (forall_mem_nil _) ha :)

lemma PairwiseOrdered.isOrdered (h : PairwiseOrdered cps) : IsOrdered (cps.map (·.status)) := by
  induction cps with
  | nil => exact ⟨0, 0, none, rfl, by simp⟩
  | cons c rest ih =>
    obtain ⟨hr, ht⟩ := pairwise_cons.mp h
    by_cases hd : c.status = .completed
    · obtain ⟨k, n, current, hs, hcur⟩ := ih ht
      refine ⟨k + 1, n, current, ?_, hcur⟩
      rw [map_cons, hs, hd, replicate_succ]
      rfl
    · have hp : rest.map (·.status) = List.replicate rest.length .pending := by
        rw [eq_replicate_iff]
        refine ⟨length_map _, fun st hst => ?_⟩
        obtain ⟨known, hk, rfl⟩ := mem_map.mp hst
        exact (hr known hk).resolve_left hd
      by_cases hf : c.status = .pending
      · refine ⟨0, rest.length + 1, none, ?_, by simp⟩
        rw [map_cons, hp, hf, replicate_succ]
        rfl
      · refine ⟨0, rest.length, some c.status, ?_, ?_⟩
        · rw [map_cons, hp]
          rfl
        · rintro st ⟨⟩
          cases hst : c.status <;> simp_all [MissionCheckpointStatus.isCurrent,
            MissionCheckpointStatus.isActive]

namespace MissionDefinition

/-- The definition is worked on in order: each checkpoint depends on the one before it, no two have
the same id, and the statuses are in order. -/
structure InOrder (definition : MissionDefinition) : Prop where
  chain : definition.checkpoints.IsChain fun c next => next.dependsOn = setOf [c.id]
  ids : (definition.checkpoints.map (·.id)).Nodup
  ordered : PairwiseOrdered definition.checkpoints

lemma InOrder.of_frame_eq (h : d.InOrder) (hf : d'.frame = d.frame)
    (ho : PairwiseOrdered d'.checkpoints) : d'.InOrder := by
  have hmap : d'.checkpoints.map (·.frame) = d.checkpoints.map (·.frame) := congrArg checkpoints hf
  have hids : ∀ l : List MissionCheckpoint, (l.map (·.frame)).map (·.id) = l.map (·.id) := by
    intro l
    rw [map_map]
    rfl
  refine ⟨?_, ?_, ho⟩
  · have hc := (isChain_map (R := fun c next : MissionCheckpoint =>
      next.dependsOn = setOf [c.id]) MissionCheckpoint.frame).mpr h.chain
    rw [← hmap] at hc
    exact (isChain_map MissionCheckpoint.frame).mp hc
  · rw [← hids, hmap, hids]
    exact h.ids

lemma Rewrites.pairwiseOrdered (h : d.Rewrites c c' d')
    (ho : PairwiseOrdered d.checkpoints) (hd : c.status ≠ .completed)
    (hp : c.status ≠ .pending) : PairwiseOrdered d'.checkpoints := by
  obtain ⟨before, after, hs, rfl⟩ := h
  rw [hs] at ho
  obtain ⟨hb, ha⟩ := pairwise_or_around ho hd hp
  exact pairwise_or_of_around hb ha

lemma ne_of_isOpen {st : MissionCheckpointStatus} (h : st.isOpen = true) :
    st ≠ .completed ∧ st ≠ .pending := by
  constructor
  · rintro rfl
    cases h
  · rintro rfl
    cases h

lemma pairwiseOrdered_renew (d : MissionDefinition) (cyc : ℕ) :
    PairwiseOrdered (d.renew cyc).checkpoints := by
  unfold renew
  cases hl : d.checkpoints with
  | nil => exact List.Pairwise.nil
  | cons c rest =>
    refine pairwiseOrdered_cons fun known hk => ?_
    obtain ⟨old, -, rfl⟩ := mem_map.mp hk
    rfl

lemma Advances.pairwiseOrdered (h : d.Advances d' stage)
    (hch : d.checkpoints.IsChain fun c next => next.dependsOn = setOf [c.id])
    (hs : d.checkpoints = before ++ c :: after) (hc : c.status = .completed)
    (hb : ∀ known ∈ before, known.status = .completed)
    (ha : ∀ known ∈ after, known.status = .pending) : PairwiseOrdered d'.checkpoints := by
  cases h with
  | last =>
    rw [hs]
    exact pairwise_or_of_around hb ha
  | @next next rev hn hrev =>
    have hdo : ∀ known ∈ before ++ [c], known.status = .completed := by
      rw [forall_mem_append, forall_mem_singleton]
      exact ⟨hb, hc⟩
    have hnot : ∀ known ∈ before ++ [c], Mission.isNext d.completedIds known = false := by
      intro known hk
      rw [Mission.isNext, hdo known hk]
      rfl
    cases after with
    | nil =>
      rw [hs, find?_eq_none.mpr fun known hk => by simp [hnot known hk]] at hn
      cases hn
    | cons first rest =>
      -- The checkpoint after the completed one depends on nothing else, so it is the one found.
      have hd : first.dependsOn = setOf [c.id] := by
        rw [hs] at hch
        exact (isChain_cons_cons.mp (isChain_append.mp hch).2.1).1
      have hf : Mission.isNext d.completedIds first = true := by
        have hdon : d.completedIds.contains c.id = true := by
          rw [completedIds, contains_setOf, mem_map]
          refine ⟨c, mem_filter.mpr ⟨?_, by rw [hc]; rfl⟩, rfl⟩
          rw [hs]
          exact mem_append_right before mem_cons_self
        rw [Mission.isNext, ha first mem_cons_self, hd, Bool.and_eq_true]
        refine ⟨rfl, Std.ExtTreeSet.toList_all_iff.mpr fun id hid => ?_⟩
        rw [← Std.ExtTreeSet.contains_iff_mem, contains_setOf, mem_singleton] at hid
        rwa [hid]
      have hl : d.checkpoints = (before ++ [c]) ++ first :: rest := by simp [hs]
      have hw : ∀ c', replaceFirst (Mission.isNext d.completedIds) c'
          d.checkpoints = (before ++ [c]) ++ c' :: rest := by
        intro c'
        rw [hl]
        exact replaceFirst_append hnot hf
      rw [hw]
      exact pairwise_or_of_around hdo fun known hk =>
        ha known (mem_cons_of_mem first hk)

end MissionDefinition

namespace Mission

lemma pairwiseOrdered_of_completes {id : String} {stage : MissionStage} (hor : d.InOrder)
    (hdef : m.definition = some d)
    (h : m.Completes enc d id cpl d' stage) : PairwiseOrdered d'.checkpoints := by
  obtain ⟨route, c, d₁, -, -, hst, -, hrw, ha⟩ := h.rewrites hdef
  have ho : c.status ≠ .completed ∧ c.status ≠ .pending := by
    rw [hst]
    decide
  have hf := hor.of_frame_eq (hrw.frame_eq rfl) (hrw.pairwiseOrdered hor.ordered ho.1 ho.2)
  obtain ⟨before, after, hs, rfl⟩ := hrw
  have hord := hor.ordered
  rw [hs] at hord
  obtain ⟨hb, haf⟩ := pairwise_or_around hord ho.1 ho.2
  exact ha.pairwiseOrdered hf.chain rfl rfl hb haf

lemma CheckpointStep.inOrder (hdef : m.definition = some d)
    (ho : d.InOrder) (h : CheckpointStep enc m d cmd p) : p.definition.InOrder := by
  refine ho.of_frame_eq (h.frame_eq hdef) ?_
  cases h with
  | kept _ hsa =>
    rw [hsa]
    exact ho.ordered
  | moved _ hm hrw =>
    obtain ⟨hd, hp⟩ := MissionDefinition.ne_of_isOpen hm.isOpen
    exact hrw.pairwiseOrdered ho.ordered hd hp
  | renewed _ _ _ _ hm hrw =>
    obtain ⟨hd, hp⟩ := MissionDefinition.ne_of_isOpen hm.isOpen
    exact hrw.pairwiseOrdered (d.pairwiseOrdered_renew _) hd hp
  | completed _ hcpl => exact pairwiseOrdered_of_completes ho hdef hcpl
  | stopped _ hcpl hs _ _ hrw =>
    exact hrw.pairwiseOrdered (pairwiseOrdered_of_completes ho hdef hcpl)
      (by rw [hs]; decide) (by rw [hs]; decide)

lemma pending_of_linearCheckpoints (routes : List (String × Option MissionCheckpointRoute))
    (prev : String) :
    ∀ c ∈ MissionDefinition.linearCheckpoints (some prev) routes, c.status = .pending := by
  induction routes generalizing prev with
  | nil => exact fun c hc => absurd hc not_mem_nil
  | cons entry rest ih =>
    intro c hc
    rcases mem_cons.mp hc with rfl | hc
    · rfl
    · exact ih entry.1 c hc

lemma isChain_linearCheckpoints (routes : List (String × Option MissionCheckpointRoute))
    (prev : Option String) :
    (MissionDefinition.linearCheckpoints prev routes).IsChain
      fun c next => next.dependsOn = setOf [c.id] := by
  induction routes generalizing prev with
  | nil => exact List.IsChain.nil
  | cons entry rest ih =>
    cases rest with
    | nil => exact List.IsChain.singleton _
    | cons next rest => exact isChain_cons_cons.mpr ⟨rfl, ih (some entry.1)⟩

lemma inOrder_of_fromManifest (h : d.FromManifest enc) : d.InOrder := by
  obtain ⟨hv, routes, hc⟩ := h.checkpoints_eq
  refine ⟨?_, ?_, ?_⟩
  · rw [hc]
    exact isChain_linearCheckpoints routes none
  · simp only [MissionDefinition.validate, bind_ok, passed] at hv
    obtain ⟨-, ⟨⟨⟨⟨-, hs⟩, -⟩, -⟩, -⟩, -⟩ := hv
    refine Std.ExtTreeSet.nodup_of_size_ofList ?_
    rw [length_map]
    exact hs
  · rw [hc]
    cases routes with
    | nil => exact List.Pairwise.nil
    | cons entry rest => exact pairwiseOrdered_cons (pending_of_linearCheckpoints rest entry.1)

/-- In a definition that comes from a manifest nothing has happened. -/
lemma checkpoints_of_fromManifest (h : d.FromManifest enc) :
    ∀ c ∈ d.checkpoints, c.revision = 1 ∧ c.completion = none ∧ c.block = none ∧
      c.status.isActive = false ∧ c.status ≠ .completed := by
  have hf : ∀ routes prev, ∀ c ∈ MissionDefinition.linearCheckpoints prev routes,
      c.revision = 1 ∧ c.completion = none ∧ c.block = none ∧ c.status.isActive = false ∧
        c.status ≠ .completed := by
    intro routes
    induction routes with
    | nil => exact fun _ c hc => absurd hc not_mem_nil
    | cons entry rest ih =>
      intro prev c hc
      rcases mem_cons.mp hc with rfl | hc
      · cases prev <;> exact ⟨rfl, rfl, rfl, rfl, nofun⟩
      · exact ih (some entry.1) c hc
  obtain ⟨-, routes, hch⟩ := h.checkpoints_eq
  rw [hch]
  exact hf routes none

/-! ## Completions -/

end Mission

namespace MissionDefinition

variable {id : String}

/-- The checkpoint with the given id is completed. -/
def HasCompleted (definition : MissionDefinition) (id : String) : Prop :=
  ∃ c ∈ definition.checkpoints, c.id = id ∧ c.status = .completed

/-- A write to a checkpoint that is not completed adds at most this checkpoint. -/
lemma Rewrites.hasCompleted_iff (h : d.Rewrites c c' d') (hid : c'.id = c.id)
    (ho : c.status ≠ .completed) :
    d'.HasCompleted id ↔ d.HasCompleted id ∨ c.id = id ∧ c'.status = .completed := by
  obtain ⟨before, after, hs, rfl⟩ := h
  simp only [HasCompleted, hs, mem_append, mem_cons, or_and_right, exists_or,
    exists_eq_left, hid, ho, and_false, false_or]
  rw [or_assoc]
  exact or_congr_right or_comm

lemma not_hasCompleted_renew (d : MissionDefinition) (cyc : ℕ) :
    ¬(d.renew cyc).HasCompleted id := by
  rintro ⟨c, hc, -, hd⟩
  obtain ⟨old, -, status, hs, rfl⟩ := mem_renew hc
  rcases hs with rfl | rfl <;> cases hd

lemma Advances.hasCompleted_iff (h : d.Advances d' stage) :
    d'.HasCompleted id ↔ d.HasCompleted id := by
  obtain ⟨-, rfl | ⟨next, -, hp, -, hrw⟩⟩ := h.cases
  · exact Iff.rfl
  · rw [hrw.hasCompleted_iff rfl (by rw [hp]; decide)]
    exact or_iff_left fun hr => by cases hr.2

lemma InOrder.not_hasCompleted (h : d.InOrder) (hc : c ∈ d.checkpoints)
    (ho : c.status ≠ .completed) : ¬d.HasCompleted c.id := by
  rintro ⟨known, hk, hid, hd⟩
  have hs : known = c := inj_on_of_nodup_map h.ids hk hc hid
  rw [hs] at hd
  exact ho hd

end MissionDefinition

namespace Mission

lemma hasCompleted_of_completes {id known : String} {stage : MissionStage}
    (hdef : m.definition = some d) (h : m.Completes enc d id cpl d' stage) :
    d'.HasCompleted known ↔ d.HasCompleted known ∨ id = known := by
  obtain ⟨route, c, d₁, -, rfl, hs, -, hrw, ha⟩ := h.rewrites hdef
  rw [ha.hasCompleted_iff, hrw.hasCompleted_iff rfl (by rw [hs]; decide)]
  exact or_congr_right (and_iff_left rfl)

/-- A command keeps the cycle and completes the checkpoint it names, if any; or it begins the next
cycle, with no checkpoint completed. -/
lemma CheckpointStep.cycle_cases (hdef : m.definition = some d) (h : CheckpointStep enc m d cmd p) :
    (p.definition.cycle = d.cycle ∧ ∀ id, p.definition.HasCompleted id ↔
        d.HasCompleted id ∨ (completionOf cmd).map Prod.fst = some id) ∨
      p.definition.cycle = d.cycle + 1 ∧ completionOf cmd = none ∧
        (∀ c ∈ d.checkpoints, c.status.isTerminal = true) ∧
        ∀ id, ¬p.definition.HasCompleted id := by
  have ha : ∀ {c c' : MissionCheckpoint}, c.Move c' → c'.status ≠ .completed := by
    intro c c' hm hd
    have ha := hm.isActive
    rw [hd] at ha
    cases ha
  cases h with
  | kept hn hs =>
    refine .inl ⟨by rw [hs], fun id => ?_⟩
    rw [hs, hn]
    exact (or_iff_left (by simp)).symm
  | moved hn hm hrw =>
    refine .inl ⟨hrw.cycle_eq, fun id => ?_⟩
    have hid := congrArg MissionCheckpoint.id hm.frame_eq
    rw [hrw.hasCompleted_iff hid (MissionDefinition.ne_of_isOpen hm.isOpen).1, hn]
    simp [ha hm]
  | renewed hn _ hne _ hm hrw =>
    rw [MissionDefinition.requireNextCycle, rejectIf_ok, Bool.or_eq_false_iff,
      bne_eq_false_iff_eq, Bool.not_eq_false', all_eq_true] at hne
    obtain ⟨-, hc⟩ := checkedAdd_eq_some.mp hne.1
    refine .inr ⟨hrw.cycle_eq.trans hc.symm, hn, hne.2, fun id => ?_⟩
    have hid := congrArg MissionCheckpoint.id hm.frame_eq
    rw [hrw.hasCompleted_iff hid (MissionDefinition.ne_of_isOpen hm.isOpen).1]
    simp [ha hm, MissionDefinition.not_hasCompleted_renew]
  | completed hcmd hcpl =>
    refine .inl ⟨(frame_of_completes hdef hcpl).2, fun known => ?_⟩
    rw [hasCompleted_of_completes hdef hcpl, hcmd]
    simp
  | stopped hcmd hcpl hst _ _ hrw =>
    refine .inl ⟨hrw.cycle_eq.trans (frame_of_completes hdef hcpl).2, fun known => ?_⟩
    rw [hrw.hasCompleted_iff rfl (by rw [hst]; decide), hasCompleted_of_completes hdef hcpl, hcmd]
    simp [MissionCheckpoint.skip]

lemma CheckpointStep.not_hasCompleted (hdef : m.definition = some d)
    (ho : d.InOrder) (h : CheckpointStep enc m d cmd p)
    {id : String} (hid : (completionOf cmd).map Prod.fst = some id) : ¬d.HasCompleted id := by
  have hcpl : ∃ cpl d' stage, m.Completes enc d id cpl d' stage := by
    cases h with
    | kept hn | moved hn | renewed hn => rw [hn] at hid; cases hid
    | completed hcmd hcpl | stopped hcmd hcpl =>
      rw [hcmd] at hid
      cases hid
      exact ⟨_, _, _, hcpl⟩
  obtain ⟨cpl, d', stage, hcpl⟩ := hcpl
  obtain ⟨route, c, definition₁, -, rfl, hs, -, hrw, -⟩ := hcpl.rewrites hdef
  exact ho.not_hasCompleted hrw.mem (by rw [hs]; decide)

/-- The completions so far, with their cycles: the checkpoints are in order, and those completed are
the ones of the current cycle. -/
structure Completions (done : List (ℕ × String)) (definition : MissionDefinition) : Prop where
  order : definition.InOrder
  nodup : done.Nodup
  cycle_le : ∀ entry ∈ done, entry.1 ≤ definition.cycle
  mem_iff : ∀ id, (definition.cycle, id) ∈ done ↔ definition.HasCompleted id

/-- A command adds the completion it makes. -/
lemma Completions.step {done : List (ℕ × String)} (h : Completions done d)
    (hdef : m.definition = some d) (hstep : CheckpointStep enc m d cmd p) :
    Completions (done ++ ((completionOf cmd).map fun cpl =>
      (d.cycle, cpl.1)).toList) p.definition := by
  have ho := hstep.inOrder hdef h.order
  rcases hstep.cycle_cases hdef with ⟨hc, hd⟩ | ⟨hc, hn, -, hd⟩
  · cases hcmd : completionOf cmd with
    | none =>
      rw [Option.map_none, Option.toList_none, append_nil]
      refine ⟨ho, h.nodup, by rw [hc]; exact h.cycle_le, fun id => ?_⟩
      rw [hc, h.mem_iff, hd, hcmd]
      exact (or_iff_left (by simp)).symm
    | some cpl =>
      rw [Option.map_some, Option.toList_some]
      have hid : (completionOf cmd).map Prod.fst = some cpl.1 := by rw [hcmd]; rfl
      have hf : (d.cycle, cpl.1) ∉ done := by
        rw [h.mem_iff]
        exact hstep.not_hasCompleted hdef h.order hid
      refine ⟨ho, ?_, ?_, fun id => ?_⟩
      · rw [← concat_eq_append]
        exact h.nodup.concat hf
      · rw [hc, forall_mem_append, forall_mem_singleton]
        exact ⟨h.cycle_le, le_rfl⟩
      · rw [hc, mem_append, h.mem_iff, hd, hid, mem_singleton]
        simp [eq_comm]
  · rw [hn, Option.map_none, Option.toList_none, append_nil]
    refine ⟨ho, h.nodup, fun entry he => ?_, fun id => ?_⟩
    · rw [hc]
      exact (h.cycle_le entry he).trans (Nat.le_succ _)
    · refine iff_of_false (fun hmem => ?_) (hd id)
      have hle := h.cycle_le _ hmem
      rw [hc] at hle
      exact absurd hle (Nat.not_succ_le_self _)

/-- The checkpoint that an event completes, with the cycle. -/
def completedBy (e : Event Mission MissionCommand (Except MissionError Unit)) :
    Option (ℕ × String) :=
  match e.output with
  | .error _ => none
  | .ok _ => (completionOf e.input).bind fun completion =>
      e.before.definition.map fun definition => (definition.cycle, completion.1)

/-- The completions of a run of successful commands. -/
lemma completions_run (hs : m.IsCataloged enc) (cmds : List MissionCommand)
    (hok : ∀ e ∈ trace (step enc) m cmds, e.output = .ok ()) :
    ∃ d, (run (step enc) m cmds).definition = some d ∧
      Completions ((trace (step enc) m cmds).filterMap completedBy)
        d := by
  refine trace_invariant (step enc)
    (J := fun evs m => (∀ e ∈ evs, e.output = .ok ()) → ∃ d,
      m.definition = some d ∧ Completions (evs.filterMap completedBy) d)
    (fun _ => ?_) (fun evs m cmd h hok => ?_) cmds hok
  · obtain ⟨tid, id, projectId, title, contract, d, now, hman, rfl⟩ := hs.exists_definition
    refine ⟨d, rfl, inOrder_of_fromManifest hman, nodup_nil,
      fun _ he => absurd he not_mem_nil, fun id => ?_⟩
    refine iff_of_false not_mem_nil ?_
    rintro ⟨c, hc, -, hco⟩
    exact (checkpoints_of_fromManifest hman c hc).2.2.2.2 hco
  · rw [forall_mem_append, forall_mem_singleton] at hok
    obtain ⟨d, hdef, hd⟩ := h hok.1
    have hres : m.step enc cmd = (.ok (), (m.step enc cmd).2) := Prod.ext hok.2 rfl
    obtain ⟨p, hstep, hp⟩ := checkpoint_step hdef hres
    refine ⟨p.definition, (progress_eq_some.mp hp).1, ?_⟩
    have hev : completedBy (eventOf (step enc) m cmd) =
        (completionOf cmd).map fun cpl => (d.cycle, cpl.1) := by
      rw [completedBy, hok.2]
      cases hcmd : completionOf cmd <;> simp [eventOf, hcmd, hdef]
    rw [filterMap_append, filterMap_cons, filterMap_nil, hev]
    have hn := hd.step hdef hstep
    cases hcmd : completionOf cmd with
    | none | some =>
      rw [hcmd] at hn
      exact hn

/-- In every run of successful commands of a Mission compiled from a manifest: the statuses are in
order; no checkpoint is completed twice in a cycle, and the completed checkpoints are those that
were completed in the current cycle; and the cycle only ever goes to the next one, with all
checkpoints done. -/
theorem checkpoints_in_order (enc : MissionEncoding) {m : Mission}
    (hstart : m.IsCataloged enc) (commands : List MissionCommand)
    (hok : ∀ e ∈ trace (Mission.step enc) m commands, e.output = .ok ()) :
    (∃ definition, (run (Mission.step enc) m commands).definition = some definition ∧
      IsOrdered (definition.checkpoints.map (·.status)) ∧
      ∀ id, definition.HasCompleted id ↔ (definition.cycle, id) ∈
        (trace (Mission.step enc) m commands).filterMap completedBy) ∧
      ((trace (Mission.step enc) m commands).filterMap completedBy).Nodup ∧
      ∀ e ∈ trace (Mission.step enc) m commands, ∃ definition definition',
        e.before.definition = some definition ∧ e.after.definition = some definition' ∧
        (definition'.cycle = definition.cycle ∨
          definition'.cycle = definition.cycle + 1 ∧
            ∀ c ∈ definition.checkpoints, c.status.isTerminal = true) := by
  obtain ⟨definition, hd, hdo⟩ := completions_run hstart commands hok
  refine ⟨⟨definition, hd, hdo.order.ordered.isOrdered, fun id =>
    (hdo.mem_iff id).symm⟩, hdo.nodup, fun e he => ?_⟩
  obtain ⟨earlier, command, later, rfl, rfl⟩ := (mem_trace_iff _).mp he
  rw [trace_append, trace_cons, forall_mem_append, forall_mem_cons] at hok
  obtain ⟨before, hb, -⟩ := completions_run hstart earlier hok.1
  have hr : (run (Mission.step enc) m earlier).step enc command =
      (.ok (), ((run (Mission.step enc) m earlier).step enc command).2) :=
    Prod.ext hok.2.1 rfl
  obtain ⟨p, hstep, hp⟩ := checkpoint_step hb hr
  refine ⟨before, p.definition, hb, (progress_eq_some.mp hp).1, ?_⟩
  rcases hstep.cycle_cases hb with ⟨hc, -⟩ | ⟨hc, -, ht, -⟩
  · exact .inl hc
  · exact .inr ⟨hc, ht⟩

lemma isCataloged_catalogSample : IsCataloged .sample catalogSample := .compileCatalog
    (.linear (show MissionDefinition.fromLinearManifest .sample "VM-01" 1 (lowerHex 0)
      .oneOffDecision ["research"] ["report"] ["goal"] ["first", "second"] = .ok .sample by rfl))
    (show compileCatalog .sample "tenant" "mission" "project" "Sample" .sample .sample 0 = _ by rfl)

/-- A run that completes both checkpoints. -/
def completedRun : List MissionCommand :=
  [.startResearch [] 1, .beginCheckpointVerification "first" 2,
    .completeCheckpoint "first" .sample, .beginCheckpoint "second" 3,
    .beginCheckpointVerification "second" 3, .completeCheckpoint "second" .sample]

/-- The completed run closes both checkpoints in order. -/
theorem checkpoints_in_order_completedRun :
    IsCataloged .sample catalogSample ∧
      (∀ e ∈ trace (Mission.step .sample) catalogSample completedRun, e.output = .ok ()) ∧
      (trace (Mission.step .sample) catalogSample completedRun).filterMap completedBy =
        [(1, "first"), (1, "second")] ∧
      ∃ definition, (run (Mission.step .sample) catalogSample completedRun).definition =
          some definition ∧ IsOrdered (definition.checkpoints.map (·.status)) := by
  have hok : ∀ e ∈ trace (Mission.step .sample) catalogSample completedRun, e.output = .ok () := by
    decide +kernel
  obtain ⟨⟨definition, hd, ho, -⟩, -⟩ :=
    checkpoints_in_order .sample isCataloged_catalogSample completedRun hok
  exact ⟨isCataloged_catalogSample, hok, by decide +kernel, definition, hd, ho⟩

end Mission

end Hartevo
