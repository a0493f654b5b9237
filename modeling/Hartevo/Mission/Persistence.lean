import Hartevo.Mission.Validity

/-!
# Persisted Missions are checked again

Storage and synchronisation call `validateCheckpointEvidenceScope` on a Mission they have read back:
the definition has to be valid, and the application proof of every completed checkpoint has to name
the Mission and an earlier revision of it.

Along a run from a manifest only a completion can break this.  The commands check the proof of a
routed checkpoint, but not that the Mission has names at all, which the persisted check asks for;
and they do not look at the proof of a checkpoint without a route.  `evidenceScope_iff` shows that
nothing else is missing.
-/

namespace Hartevo

open Command

namespace Mission

variable {scope : Scope} {rev later k : ℕ} {id : String} {d' : MissionDefinition}
  {stage : MissionStage} {c' : MissionCheckpoint}

variable {enc : MissionEncoding} {m m' : Mission} {d : MissionDefinition}
  {cmd : MissionCommand} {p : Progress} {c : MissionCheckpoint}
  {cpl : MissionCheckpointCompletion}

def validateCheckpointEvidenceScope (enc : MissionEncoding) (self : Mission) :
    Except MissionError Unit :=
  match self.definition with
  | none => .ok ()
  | some definition => do
    definition.validate enc
    definition.checkpoints.forM fun checkpoint =>
      match checkpoint.completion.bind (·.applicationEvidence) with
      | none => .ok ()
      | some evidence =>
        rejectIf (evidence.tenantId != self.tenantId || evidence.projectId != self.projectId ||
          evidence.missionId != self.id ||
          decide (self.revision ≤ evidence.verificationMissionRevision))
          (.invalidCheckpointCompletion checkpoint.id)

/-! ## What the check says about each checkpoint -/

/-- The application proof names the scope, and a revision before the given one. -/
structure InScope (scope : Scope) (revision : ℕ)
    (evidence : MissionCheckpointApplicationEvidence) : Prop where
  tenantId : evidence.tenantId = scope.tenantId
  projectId : evidence.projectId = scope.projectId
  missionId : evidence.missionId = scope.missionId
  revision : evidence.verificationMissionRevision < revision

/-- The application proof of the checkpoint, if there is one, is in scope. -/
def ProofInScope (scope : Scope) (revision : ℕ) (c : MissionCheckpoint) : Prop :=
  ∀ completion evidence, c.completion = some completion →
    completion.applicationEvidence = some evidence → InScope scope revision evidence

lemma proofInScope_of_none (h : c.completion = none) : ProofInScope scope rev c := by
  intro cpl evd hc
  rw [h] at hc
  cases hc

lemma ProofInScope.mono (h : ProofInScope scope rev c) (hle : rev ≤ later) :
    ProofInScope scope later c := by
  intro cpl evd hc hev
  have hs := h cpl evd hc hev
  exact { hs with revision := hs.revision.trans_le hle }

lemma validateCheckpointEvidenceScope_iff (hdef : m.definition = some d) :
    m.validateCheckpointEvidenceScope enc = .ok () ↔
      d.validate enc = .ok () ∧ ∀ c ∈ d.checkpoints, ProofInScope m.scope m.revision c := by
  rw [validateCheckpointEvidenceScope, hdef, check_ok, forM_eq_ok_iff]
  refine and_congr_right fun _ => forall₂_congr fun c _ => ?_
  cases hc : c.completion with
  | none => exact iff_of_true rfl (proofInScope_of_none hc)
  | some cpl =>
    cases hev : cpl.applicationEvidence with
    | none =>
      refine iff_of_true (by simp [hev]) fun known evd hk hso => ?_
      rw [hc] at hk
      cases hk
      rw [hev] at hso
      cases hso
    | some evd =>
      simp only [Option.bind_some, hev, passed, not_le]
      constructor
      · rintro ⟨⟨⟨ht, hp⟩, hm⟩, hrev⟩ known proof hk hso
        rw [hc] at hk
        cases hk
        rw [hev] at hso
        cases hso
        exact ⟨ht, hp, hm, hrev⟩
      · intro h
        have hs := h cpl evd hc hev
        exact ⟨⟨⟨hs.tenantId, hs.projectId⟩, hs.missionId⟩, hs.revision⟩

/-! ## Completions -/

def Scope.IsNamed (scope : Scope) : Prop :=
  isBlank scope.tenantId = false ∧ isBlank scope.projectId = false ∧
    isBlank scope.missionId = false

/-- The application proof that a completion brings, if any, names the Mission and a revision before
the one that the completion leads to; under a route the Mission has a name. -/
def CompletesInScope (m : Mission) (command : MissionCommand) : Prop :=
  ∀ id completion evidence, completionOf command = some (id, completion) →
    completion.applicationEvidence = some evidence →
      InScope m.scope (m.revision + completionRevisions command) evidence ∧
        ((m.routeOf id).isSome = true → m.scope.IsNamed)

/-- What the checks of a completion establish. -/
structure Completable (enc : MissionEncoding) (m : Mission) (definition : MissionDefinition)
    (c : MissionCheckpoint) (completion : MissionCheckpointCompletion) : Prop where
  oracles : completion.oracleIds.isEmpty = false
  known : completion.oracleIds.toList.all definition.oracleIds.contains = true
  digest : isSha256 completion.evidenceDigest = true
  started : c.startedAt.any (fun startedAt => decide (startedAt ≤ completion.verifiedAt)) = true
  routed : ∀ route, c.route = some route →
    m.routeRefuses enc definition c completion route = false

lemma completable_of_check {route : Option MissionCheckpointRoute} (hdef : m.definition = some d)
    (h : m.checkCompleteCheckpointValidated enc id cpl = .ok (route, c)) :
    m.Completable enc d c cpl := by
  simp only [checkCompleteCheckpointValidated, bind_ok, passed] at h
  obtain ⟨-, -, route, hro, -, -, d₁, hfi, c, hf, -, ⟨-, hs⟩, hres⟩ := h
  cases hres
  obtain rfl := Option.mem_unique hdef (okOr_ok.mp hfi)
  simp only [validatedCheckpointCompletionRoute, bind_ok, passed, and_assoc] at hro
  obtain ⟨d₂, hse, c₂, hf₂, -, he, hk, hd, -, -, hr, -⟩ := hro
  obtain rfl := Option.mem_unique hdef (okOr_ok.mp hse)
  obtain rfl : c = c₂ := Except.ok.inj (hf.symm.trans hf₂)
  refine ⟨he, hk, hd, hs, fun route hso => ?_⟩
  rw [hso] at hr
  exact hr

/-- The proof that a route accepted is in scope, and passes the persisted check when the Mission has
a name. -/
lemma validPersisted_of_valid {route : MissionCheckpointRoute} (hk : 0 < k)
    (hv : m.validApplicationCheckpointEvidence enc d c route cpl = true)
    (hb : c.revision + 1 < 2 ^ 64) :
    (∀ evd, cpl.applicationEvidence = some evd → InScope m.scope (m.revision + k) evd) ∧
      (validPersistedApplicationCheckpointEvidence enc d (c.complete cpl) route
          cpl = true ↔ (cpl.applicationEvidence.isSome = true → m.scope.IsNamed)) := by
  unfold validApplicationCheckpointEvidence at hv
  unfold validPersistedApplicationCheckpointEvidence
  by_cases he : (route.executor != .application) = true
  · rw [if_pos he] at hv ⊢
    have hn := Option.isNone_iff_eq_none.mp hv
    refine ⟨fun evd hev => ?_, ?_⟩
    · rw [hn] at hev
      cases hev
    · rw [hn]
      exact iff_of_true rfl nofun
  · rw [if_neg he] at hv ⊢
    cases hev : cpl.applicationEvidence with
    | none =>
      rw [hev] at hv
      cases hv
    | some evd =>
      rw [hev, Option.any_some] at hv
      simp only [Bool.and_eq_true, beq_iff_eq, and_assoc] at hv
      obtain ⟨ht, hp, hm, hrev, hc, hma⟩ := hv
      refine ⟨?_, ?_⟩
      · rintro known ⟨⟩
        exact ⟨ht, hp, hm, by omega⟩
      · have hne : checkedAdd 64 evd.verificationCheckpointRevision 1 = some (c.revision + 1) := by
          rw [hc]
          exact checkedAdd_eq_some.mpr ⟨hb, rfl⟩
        have hs : applicationEvidenceMatches enc d (c.complete cpl) route cpl evd = true := hma
        rw [Option.any_some, hs, show (c.complete cpl).revision = c.revision + 1 from rfl,
          hne, ht, hp, hm]
        simp [Scope.IsNamed, scope, and_assoc]

/-- The persisted check of a completed checkpoint asks for nothing but the proof of its route. -/
lemma completionIsValid_complete (h : m.Completable enc d c cpl) :
    d.completionIsValid enc (c.complete cpl) cpl =
      c.route.all fun route => validPersistedApplicationCheckpointEvidence enc d
        (c.complete cpl) route cpl := by
  unfold MissionDefinition.completionIsValid
  rw [show (c.complete cpl).startedAt = c.startedAt from rfl,
    show (c.complete cpl).route = c.route from rfl, h.oracles, h.known, h.digest, h.started]
  cases hs : c.route with
  | none => rfl
  | some route =>
    have hr := h.routed route hs
    simp only [routeRefuses, passed, beq_eq_false_iff_ne, Bool.and_eq_false_iff, and_assoc] at hr
    obtain ⟨hc, ho, -, hpr, hpo, he, -⟩ := hr
    have hp : (!route.oracleIds.contains "work_product" || !cpl.workProductIds.isEmpty) = true := by
      rcases hpr with h | h <;> simp [h]
    have hef : (route.completionPolicy != some .verifiedEffect ||
        !cpl.effectIds.isEmpty) = true := by
      rcases he with h | h <;> simp [h]
    have hre : (route.completionPolicy != some .effectReadbackV2) = true := by
      simpa using hpo
    rw [Option.all_some, Option.all_some, hc, ho, hre, hp, hef, beq_self_eq_true]
    simp

/-- A completed checkpoint passes the persisted check exactly when its proof is in scope and, under
a route, the Mission has a name. -/
lemma persists_complete (hk : 0 < k) (h : m.Completable enc d c cpl)
    (hh : d.CheckpointHolds enc c) (hb : c.revision + 1 < 2 ^ 64) :
    d.CheckpointHolds enc (c.complete cpl) ∧
        ProofInScope m.scope (m.revision + k) (c.complete cpl) ↔
      ∀ evidence, cpl.applicationEvidence = some evidence →
        InScope m.scope (m.revision + k) evidence ∧ (c.route.isSome = true → m.scope.IsNamed) := by
  have hs : ProofInScope m.scope (m.revision + k) (c.complete cpl) ↔
      ∀ evidence, cpl.applicationEvidence = some evidence →
        InScope m.scope (m.revision + k) evidence := by
    constructor
    · exact fun hp evidence hev => hp cpl evidence rfl hev
    · rintro hp known evidence ⟨⟩ hev
      exact hp evidence hev
  have hv : d.CheckpointHolds enc (c.complete cpl) ↔
      d.completionIsValid enc (c.complete cpl) cpl = true := by
    constructor
    · exact fun hnew => hnew.valid cpl rfl
    · intro hc
      refine ⟨Nat.succ_ne_zero _, hh.attempt, nofun, rfl, rfl, ?_⟩
      rintro known ⟨⟩
      exact hc
  rw [hv, completionIsValid_complete h, hs]
  cases hso : c.route with
  | none =>
    refine ⟨fun hp evidence hev => ⟨hp.2 evidence hev, nofun⟩, fun hp => ?_⟩
    exact ⟨rfl, fun evidence hev => (hp evidence hev).1⟩
  | some route =>
    have hr := h.routed route hso
    simp only [routeRefuses, passed, and_assoc] at hr
    obtain ⟨-, -, ha, -⟩ := hr
    obtain ⟨hi, hpe⟩ := validPersisted_of_valid hk ha hb
    rw [Option.all_some, hpe, and_iff_left hi]
    constructor
    · intro hn evidence hev
      exact ⟨hi evidence hev, fun _ => hn (by rw [hev]; rfl)⟩
    · intro hp hev
      obtain ⟨evidence, hev⟩ := Option.isSome_iff_exists.mp hev
      exact (hp evidence hev).2 rfl

/-! ## Steps -/

/-- What every command keeps: checkpoints in order under a valid manifest, whose revisions are not
ahead of the Mission.  A scheduled Mission is one revision ahead of them, since the next cycle
writes the first one twice. -/
structure Steady (m : Mission) (definition : MissionDefinition) : Prop where
  definition_eq : m.definition = some definition
  order : definition.InOrder
  manifest : definition.manifestIsValid = true
  cycle : definition.cycle ≠ 0
  revision : ∀ c ∈ definition.checkpoints, c.revision ≤ m.revision
  scheduled : m.stage = .scheduled → ∀ c ∈ definition.checkpoints, c.revision < m.revision

/-- The checkpoint passes the persisted check. -/
structure Persists (enc : MissionEncoding) (scope : Scope) (revision : ℕ)
    (definition : MissionDefinition) (c : MissionCheckpoint) : Prop where
  holds : definition.CheckpointHolds enc c
  inScope : ProofInScope scope revision c

lemma Steady.validate_iff (h : m.Steady d) : m.validateCheckpointEvidenceScope enc = .ok () ↔
      ∀ c ∈ d.checkpoints, Persists enc m.scope m.revision d c := by
  rw [validateCheckpointEvidenceScope_iff h.definition_eq, h.order.validate_iff h.manifest h.cycle]
  constructor
  · exact fun hv c hc => ⟨hv.1 c hc, hv.2 c hc⟩
  · exact fun hv => ⟨fun c hc => (hv c hc).holds, fun c hc => (hv c hc).inScope⟩

lemma completionRevisions_pos (cmd : MissionCommand) : 0 < completionRevisions cmd := by
  unfold completionRevisions
  split
  · exact Nat.one_pos
  · split
    · exact Nat.two_pos
    · exact Nat.one_pos
  · exact Nat.two_pos

/-- A completion adds at most one to the revision of each checkpoint. -/
lemma revision_of_completes (hdef : m.definition = some d)
    (hrev : ∀ c ∈ d.checkpoints, c.revision ≤ m.revision) (h : m.Completes enc d id cpl d' stage) :
    ∀ c ∈ d'.checkpoints, c.revision ≤ m.revision + 1 := by
  obtain ⟨route, c, definition₁, -, -, -, -, hrw, ha⟩ := h.rewrites hdef
  have hf : ∀ known ∈ definition₁.checkpoints,
      known.revision ≤ m.revision ∨
        known.status = .completed ∧ known.revision ≤ m.revision + 1 := by
    refine hrw.forall (fun known hk => Or.inl (hrev known hk)) (Or.inr ⟨rfl, ?_⟩)
    exact Nat.succ_le_succ (hrev c hrw.mem)
  have hs : ∀ known ∈ definition₁.checkpoints, known.revision ≤ m.revision + 1 := by
    intro known hk
    rcases hf known hk with hle | ⟨-, hle⟩
    · exact hle.trans (Nat.le_succ _)
    · exact hle
  obtain ⟨-, rfl | ⟨next, -, hp, -, hn⟩⟩ := ha.cases
  · exact hs
  · refine hn.forall hs ?_
    rcases hf next hn.mem with hle | ⟨hd, -⟩
    · exact Nat.succ_le_succ hle
    · rw [hp] at hd
      cases hd

/-- Every command keeps a Mission steady. -/
lemma Steady.step (h : m.Steady d) (hstep : CheckpointStep enc m d cmd p)
    (hp : m'.progress = some p) : m'.Steady p.definition := by
  obtain ⟨hdef', hst', -, hrev'⟩ := progress_eq_some.mp hp
  have hf := hstep.frame_eq h.definition_eq
  have hcy : p.definition.cycle ≠ 0 := by
    rcases hstep.cycle_cases h.definition_eq with ⟨hcy, -⟩ | ⟨hcy, -⟩
    · rw [hcy]
      exact h.cycle
    · omega
  have hre : (∀ c ∈ p.definition.checkpoints, c.revision ≤ p.revision) ∧
      (p.stage = .scheduled → ∀ c ∈ p.definition.checkpoints, c.revision < p.revision) := by
    cases hstep with
    | kept _ hsa hle hs =>
      rw [hsa]
      refine ⟨fun c hc => (h.revision c hc).trans hle, fun hst c hc => ?_⟩
      rcases hs hst with hb | hlt
      · exact (h.scheduled hb c hc).trans_le hle
      · exact (h.revision c hc).trans_lt hlt
    | moved _ hm hrw _ hrev hst =>
      rw [hrev]
      refine ⟨hrw.forall (fun c hc => (h.revision c hc).trans (Nat.le_succ _)) ?_,
        fun hs => absurd hs hst⟩
      exact hm.revision_le.trans (Nat.succ_le_succ (h.revision _ hrw.mem))
    | renewed _ hs _ _ hm hrw _ hrev hst =>
      rw [hrev]
      have hr : ∀ cyc, ∀ c ∈ (d.renew cyc).checkpoints, c.revision ≤ m.revision := by
        intro cyc c hc
        obtain ⟨old, hold, status, -, rfl⟩ := MissionDefinition.mem_renew hc
        exact h.scheduled hs old hold
      refine ⟨hrw.forall (fun c hc => (hr _ c hc).trans (Nat.le_succ _)) ?_,
        fun hs => absurd hs hst⟩
      exact hm.revision_le.trans (Nat.succ_le_succ (hr _ _ hrw.mem))
    | completed _ hcpl hrev hst =>
      have hone := completionRevisions_pos cmd
      refine ⟨fun c hc => ?_, fun hs => absurd hs hst⟩
      have hle := revision_of_completes h.definition_eq h.revision hcpl c hc
      omega
    | stopped _ hcpl _ _ _ hrw _ hrev hst =>
      have hle := revision_of_completes h.definition_eq h.revision hcpl
      rw [hrev]
      refine ⟨hrw.forall (fun c hc => (hle c hc).trans (Nat.le_succ _)) ?_, fun hs => absurd hs hst⟩
      exact Nat.succ_le_succ (hle _ hrw.mem)
  refine ⟨hdef', hstep.inOrder h.definition_eq h.order, ?_, hcy, ?_, ?_⟩
  · rw [← MissionDefinition.manifestIsValid_frame, hf, MissionDefinition.manifestIsValid_frame]
    exact h.manifest
  · rw [hrev']
    exact hre.1
  · rw [hst', hrev']
    exact hre.2

lemma Persists.congr (h : Persists enc scope rev d c) (hf : d'.frame = d.frame)
    (hc : d'.cycle = d.cycle) : Persists enc scope rev d' c :=
  ⟨h.holds.congr hf hc, h.inScope⟩

lemma Persists.mono (h : Persists enc scope rev d c) (hle : rev ≤ later) :
    Persists enc scope later d c :=
  ⟨h.holds, h.inScope.mono hle⟩

lemma persists_of_rewrites (hrw : d.Rewrites c c' d') (hf : c'.frame = c.frame) (hle : rev ≤ later)
    (hall : ∀ known ∈ d.checkpoints, Persists enc scope rev d known)
    (hnew : Persists enc scope later d c') :
    ∀ known ∈ d'.checkpoints, Persists enc scope later d' known := by
  have hs := hrw.frame_eq hf
  have hc := hrw.cycle_eq
  refine hrw.forall (fun known hk => ?_) (hnew.congr hs hc)
  exact ((hall known hk).mono hle).congr hs hc

/-- A completion leaves a definition that passes the persisted check exactly when the completed
checkpoint does. -/
lemma persists_of_completes (hk : 0 < k) (hdef : m.definition = some d)
    (hall : ∀ c ∈ d.checkpoints, Persists enc m.scope m.revision d c)
    (h : m.Completes enc d id cpl d' stage) :
    ∃ c : MissionCheckpoint, c.complete cpl ∈ d'.checkpoints ∧
      (Persists enc m.scope (m.revision + k) d (c.complete cpl) ↔
        ∀ evd, cpl.applicationEvidence = some evd → InScope m.scope (m.revision + k) evd ∧
            ((m.routeOf id).isSome = true → m.scope.IsNamed)) ∧
      (Persists enc m.scope (m.revision + k) d (c.complete cpl) →
        ∀ known ∈ d'.checkpoints, Persists enc m.scope (m.revision + k) d' known) := by
  obtain ⟨route, c, d₁, hc, hid, hst, hb, hrw, ha⟩ := h.rewrites hdef
  have hr : m.routeOf id = c.route := by
    obtain ⟨hfi, -⟩ := checkCompleteCheckpointValidated_ok hc
    have hfo := hfi.findCheckpoint_eq hdef
    rw [hid] at hfo
    rw [routeOf, hdef, Option.bind_some, hfo, Option.bind_some]
  refine ⟨c, ?_, ?_, fun hnew => ?_⟩
  · obtain ⟨-, rfl | ⟨next, -, hp, -, hn⟩⟩ := ha.cases
    · exact hrw.new_mem
    · refine hn.mem_of_ne hrw.new_mem fun hs => ?_
      rw [← hs] at hp
      cases hp
  · rw [hr, ← persists_complete hk (completable_of_check hdef hc) (hall c hrw.mem).holds hb]
    exact ⟨fun h => ⟨h.holds, h.inScope⟩, fun h => ⟨h.1, h.2⟩⟩
  · have hf := persists_of_rewrites hrw rfl (Nat.le_add_right m.revision k) hall hnew
    obtain ⟨-, rfl | ⟨next, -, hp, -, hn⟩⟩ := ha.cases
    · exact hf
    · have hh := (hf next hn.mem).holds
      exact persists_of_rewrites hn rfl le_rfl hf ⟨hh.makeReady hp,
        proofInScope_of_none (hh.completion_eq_none (by rw [hp]; decide))⟩

lemma persists_of_move (hm : c.Move c') (hrw : d.Rewrites c c' d') (hb : c.revision + 1 < 2 ^ 64)
    (hall : ∀ known ∈ d.checkpoints, Persists enc scope rev d known) :
    ∀ known ∈ d'.checkpoints, Persists enc scope rev d' known := by
  have hh := (hall c hrw.mem).holds.move hm hb
  refine persists_of_rewrites hrw hm.frame_eq le_rfl hall ⟨hh, ?_⟩
  refine proofInScope_of_none (hh.completion_eq_none fun hd => ?_)
  have ha := hm.isActive
  rw [hd] at ha
  cases ha

/-- A command keeps the persisted check exactly when a completion it makes is in scope. -/
lemma persists_step_iff (hs : m.Steady d)
    (hall : ∀ c ∈ d.checkpoints, Persists enc m.scope m.revision d c)
    (h : CheckpointStep enc m d cmd p) :
    (∀ c ∈ p.definition.checkpoints, Persists enc m.scope p.revision p.definition c) ↔
      m.CompletesInScope cmd := by
  have hfr : completionOf cmd = none → m.CompletesInScope cmd := by
    intro hn id cpl evd hso
    rw [hn] at hso
    cases hso
  have hb : ∀ {c : MissionCheckpoint}, c.revision ≤ m.revision → m.Checked c →
      c.revision + 1 < 2 ^ 64 := by
    rintro c hle (hch | hch)
    · omega
    · exact hch
  have hco : ∀ {id cpl}, completionOf cmd = some (id, cpl) →
      (m.CompletesInScope cmd ↔ ∀ evd, cpl.applicationEvidence = some evd →
        InScope m.scope (m.revision + completionRevisions cmd) evd ∧
          ((m.routeOf id).isSome = true → m.scope.IsNamed)) := by
    intro id cpl hcmd
    constructor
    · exact fun hsc evd hev => hsc id cpl evd hcmd hev
    · intro hsc known proof evd hk hev
      obtain ⟨rfl, rfl⟩ := Prod.mk.inj (Option.mem_unique hcmd hk)
      exact hsc evd hev
  cases h with
  | kept hn hsa hle =>
    refine iff_of_true ?_ (hfr hn)
    rw [hsa]
    exact fun c hc => (hall c hc).mono hle
  | moved hn hm hrw hch =>
    refine iff_of_true ?_ (hfr hn)
    have hmo := persists_of_move hm hrw (hb (hs.revision _ hrw.mem) hch) hall
    exact fun c hc => (hmo c hc).mono (by omega)
  | renewed hn hsch hne hren hm hrw hch =>
    refine iff_of_true ?_ (hfr hn)
    have hr : ∀ cyc, ∀ c ∈ (d.renew cyc).checkpoints,
        Persists enc m.scope p.revision (d.renew cyc) c := by
      intro cyc c hc
      have hco : c.completion = none := by
        obtain ⟨old, -, status, -, rfl⟩ := MissionDefinition.mem_renew hc
        rfl
      exact ⟨MissionDefinition.checkpointHolds_renew enc d _ c hc, proofInScope_of_none hco⟩
    refine persists_of_move hm hrw (hb ?_ hch) (hr _)
    obtain ⟨old, hold, status, -, hsa⟩ := MissionDefinition.mem_renew hrw.mem
    rw [hsa]
    exact hs.scheduled hsch old hold
  | completed hcmd hcpl hrev =>
    obtain ⟨hf, hcy⟩ := frame_of_completes hs.definition_eq hcpl
    obtain ⟨c, hmem, hiff, hnew⟩ := persists_of_completes (completionRevisions_pos cmd)
      hs.definition_eq hall hcpl
    rw [hrev, hco hcmd, ← hiff]
    exact ⟨fun h => (h _ hmem).congr hf.symm hcy.symm, hnew⟩
  | stopped hcmd hcpl hst he _ hrw hre hrev =>
    obtain ⟨hf, hcy⟩ := frame_of_completes hs.definition_eq hcpl
    obtain ⟨c, hmem, hiff, hnew⟩ := persists_of_completes (completionRevisions_pos cmd)
      hs.definition_eq hall hcpl
    rw [hco hcmd, ← hiff, hrev, hre]
    rw [hre] at hnew
    constructor
    · intro h
      have hke := hrw.mem_of_ne hmem fun hsa => by
        rw [← hsa] at hst
        cases hst
      exact ((h _ hke).congr (hrw.frame_eq rfl).symm hrw.cycle_eq.symm).congr hf.symm hcy.symm
    · intro h
      have hfi := hnew h
      have hh := (hfi _ hrw.mem).holds
      exact persists_of_rewrites hrw rfl le_rfl hfi ⟨hh.skip hst, proofInScope_of_none he.1⟩

/-! ## Runs -/

lemma steady_of_isCataloged (hs : m.IsCataloged enc) :
    ∃ d, m.Steady d ∧ m.validateCheckpointEvidenceScope enc = .ok () := by
  obtain ⟨tid, id, pid, title, ct, d, now, hman, rfl⟩ := hs.exists_definition
  obtain ⟨hv, -⟩ := hman.checkpoints_eq
  obtain ⟨hfr, hcy, -⟩ := MissionDefinition.validate_iff.mp hv
  have hf := checkpoints_of_fromManifest hman
  refine ⟨d, ⟨rfl, inOrder_of_fromManifest hman, hfr, hcy, fun c hc => ?_,
    nofun⟩, (validateCheckpointEvidenceScope_iff rfl).mpr ⟨hv, fun c hc => ?_⟩⟩
  · rw [(hf c hc).1]
    exact le_rfl
  · exact proofInScope_of_none (hf c hc).2.1

/-- In a run of successful commands of a Mission compiled from a manifest, every state passes the
persisted check exactly when every completion of the run is in scope. -/
theorem evidenceScope_iff (enc : MissionEncoding) {m : Mission}
    (hstart : m.IsCataloged enc) {commands : List MissionCommand}
    (hok : ∀ e ∈ trace (Mission.step enc) m commands, e.output = .ok ()) :
    (∀ earlier later, commands = earlier ++ later →
        (run (Mission.step enc) m earlier).validateCheckpointEvidenceScope enc =
          .ok ()) ↔
      ∀ e ∈ trace (Mission.step enc) m commands, e.before.CompletesInScope e.input := by
  obtain ⟨definition, hs, hi⟩ := steady_of_isCataloged hstart
  refine states_iff (Mission.step enc) (R := fun m => ∃ definition, m.Steady definition)
    (I := fun m => m.validateCheckpointEvidenceScope enc = .ok ())
    (G := fun e => e.output = .ok ()) ?_ ?_ ⟨definition, hs⟩ hi hok
  · rintro m command ⟨definition, hs⟩ hok
    have hr : m.step enc command = (.ok (), (m.step enc command).2) :=
      Prod.ext hok rfl
    obtain ⟨p, hstep, hp⟩ := checkpoint_step hs.definition_eq hr
    exact ⟨p.definition, hs.step hstep hp⟩
  · rintro m command ⟨definition, hs⟩ hok hv
    have hr : m.step enc command = (.ok (), (m.step enc command).2) :=
      Prod.ext hok rfl
    obtain ⟨p, hstep, hp⟩ := checkpoint_step hs.definition_eq hr
    obtain ⟨-, -, -, hre⟩ := progress_eq_some.mp hp
    rw [(hs.step hstep hp).validate_iff, scope_step, hre]
    exact persists_step_iff hs (hs.validate_iff.mp hv) hstep

theorem evidenceScope_iff_completedRun :
    IsCataloged .sample catalogSample ∧
      (∀ e ∈ trace (Mission.step .sample) catalogSample completedRun, e.output = .ok ()) ∧
      ((∀ earlier later, completedRun = earlier ++ later →
          (run (Mission.step .sample) catalogSample earlier).validateCheckpointEvidenceScope
            .sample = .ok ()) ↔
        ∀ e ∈ trace (Mission.step .sample) catalogSample completedRun,
          e.before.CompletesInScope e.input) := by
  have hok : ∀ e ∈ trace (Mission.step .sample) catalogSample completedRun, e.output = .ok () := by
    decide +kernel
  exact ⟨isCataloged_catalogSample, hok, evidenceScope_iff .sample isCataloged_catalogSample hok⟩

/-- An application proof of another Mission. -/
def foreignEvidence : MissionCheckpointApplicationEvidence :=
  { MissionCheckpointApplicationEvidence.sample with tenantId := "other" }

/-- A run that completes a checkpoint without a route, with the proof of another Mission. -/
def foreignRun : List MissionCommand :=
  [.startResearch [] 1, .beginCheckpointVerification "first" 2,
    .completeCheckpoint "first"
      { MissionCheckpointCompletion.sample with applicationEvidence := some foreignEvidence }]

/-- The completion is accepted, and the Mission does not pass the persisted check. -/
theorem foreign_evidence_accepted :
    IsCataloged .sample catalogSample ∧
      (∀ e ∈ trace (Mission.step .sample) catalogSample foreignRun, e.output = .ok ()) ∧
      (run (Mission.step .sample) catalogSample foreignRun).validateCheckpointEvidenceScope
        .sample = .error (.invalidCheckpointCompletion "first") :=
  ⟨isCataloged_catalogSample, by decide +kernel, by decide +kernel⟩

end Mission

end Hartevo
