import Hartevo.Session.Reachability

/-!
# Sessions: how an event changes the surface

`Placed` lists what an accepted event can do to the surface, with everything that was checked
before; all later proofs about the surface split on it and do not look into the plan any more.

`surfaceNodes` computes the nodes of the surface from the events alone, without any check, and
`shadowedBy` the nodes that an event took the place of.  On the events of a restorable log
`surfaceNodes` is the surface of the log.
-/

namespace Hartevo.Cordis

open List

variable {surf surf' : SessionSurfaceState} {seq node : ℕ} {kind : SessionEventKind}
  {intent : SessionSurfaceIntent} {prior evs : List SessionEvent} {plan : SessionSurfacePlan}
  {st st' : SessionState} {event : SessionEvent}

/-- The surface after an accepted event. -/
inductive Placed (surface : SessionSurfaceState) (seq : ℕ) (kind : SessionEventKind)
    (prior : List SessionEvent) : SessionSurfaceState → Prop
  | none (hkind : kind.surfaceIntent = none) : Placed surface seq kind prior surface
  | append {intent : SessionSurfaceIntent} (hkind : kind.surfaceIntent = some intent)
    (hop : intent.surfaceOp = .append)
    (hsources : validateSurfaceProvenance seq kind intent [] prior = .ok ()) :
    Placed surface seq kind prior { surface with nodes := surface.nodes ++ [seq] }
  | replace {intent : SessionSurfaceIntent} {start finish i j : ℕ}
    (hkind : kind.surfaceIntent = some intent) (hop : intent.surfaceOp = .replace start finish)
    (hi : position surface.nodes start = some i) (hj : position surface.nodes finish = some j)
    (hij : i ≤ j)
    (hsources : validateSurfaceProvenance seq kind intent (slice surface.nodes i j) prior =
      .ok ())
    (hcompaction : validateCompactionReplacement kind (slice surface.nodes i j) surface.nodes i j
      prior = .ok ())
    (hresult : validateToolResultReplacement kind (slice surface.nodes i j) prior = .ok ()) :
    Placed surface seq kind prior
      { nodes := splice surface.nodes i j seq,
        replaceGeneration := surface.replaceGeneration + 1 }

lemma placed_of_planMessage (hk : kind.surfaceIntent = some intent)
    (h : surf.planMessage seq kind intent prior = .ok plan) :
    Placed surf seq kind prior (surf.apply plan) := by
  rcases hop : intent.surfaceOp with _ | ⟨start, finish⟩
  · simp only [SessionSurfaceState.planMessage, hop] at h
    obtain ⟨hs, hp⟩ := check_ok.mp h
    cases hp
    exact .append hk hop hs
  · simp only [SessionSurfaceState.planMessage, hop, bind_ok, okOr_ok, passed, exists_const]
      at h
    obtain ⟨i, hi, j, hj, hij, u, hs, u', hc, u'', hres, generation, hgen, hp⟩ := h
    obtain ⟨-, rfl⟩ := checkedAdd_eq_some.mp hgen
    cases hp
    exact .replace hk hop hi hj hij hs hc hres

lemma placed_of_plan (h : surf.plan seq kind prior = .ok plan) :
    Placed surf seq kind prior (surf.apply plan) := by
  by_cases hs : ∃ compaction, kind = .compactionSummary compaction
  · obtain ⟨compaction, rfl⟩ := hs
    obtain ⟨-, hp⟩ := check_ok.mp h
    cases hp
    exact .none rfl
  have hc : surf.plan seq kind prior = kind.surfaceIntent.elim (.ok .none) fun intent =>
      surf.planMessage seq kind intent prior := by
    rcases kind <;> first | rfl | exact absurd ⟨_, rfl⟩ hs
  rw [hc] at h
  rcases hi : kind.surfaceIntent with _ | intent
  · rw [hi] at h
    cases h
    exact .none hi
  · rw [hi] at h
    exact placed_of_planMessage hi h

/-- What an accepted event does: it takes the next number, the state goes on with it, and it is
placed on the surface. -/
lemma placed_of_replayEvent (h : SessionLog.replayEvent prior st surf event = .ok (st', surf')) :
    event.seq = prior.length ∧ Placed surf event.seq event.kind prior surf' := by
  obtain ⟨hseq, -, -, plan, hp, rfl⟩ := SessionLog.replayEvent_ok.mp h
  exact ⟨hseq, placed_of_plan hp⟩

/-! ## Provenance -/

lemma eq_of_validateSources {sources collected : List ℕ}
    (h : validateSources seq sources = .ok collected) : collected = sources := by
  suffices hacc : ∀ acc collected, sources.foldlM
      (fun sources source => do
        rejectIf (sources.contains source) (SessionError.duplicateSurfaceProvenance source)
        rejectIf (decide (seq ≤ source)) (SessionError.surfaceProvenanceNotEarlier source seq)
        return sources ++ [source]) acc = .ok collected → collected = acc ++ sources by
    simpa using hacc [] collected h
  clear h
  induction sources with
  | nil =>
    intro acc collected h
    cases h
    rw [append_nil]
  | cons source sources ih =>
    intro acc collected h
    rw [foldlM_cons] at h
    obtain ⟨next, hn, hr⟩ := bind_ok.mp h
    obtain ⟨-, hn⟩ := check_ok.mp hn
    obtain ⟨-, hn⟩ := check_ok.mp hn
    cases hn
    rw [ih _ _ hr, append_assoc, singleton_append]

def SessionEventKind.sources (kind : SessionEventKind) : List ℕ :=
  (kind.surfaceIntent.bind SessionSurfaceIntent.sourceEventSeqs).getD []

lemma mem_sources_of_validate {shadowed : List ℕ} (hk : kind.surfaceIntent = some intent)
    (h : validateSurfaceProvenance seq kind intent shadowed prior = .ok ()) (hn : node ∈ shadowed) :
    node ∈ kind.sources := by
  rw [validateSurfaceProvenance] at h
  obtain ⟨sources, hs, h⟩ := bind_ok.mp h
  obtain ⟨-, hm⟩ := check_ok.mp h
  have hl : sources = intent.sourceEventSeqs.getD [] := by
    rcases hg : intent.sourceEventSeqs with _ | given
    · simp only [collectSources, hg] at hs
      cases hs
      rfl
    · simp only [collectSources, hg] at hs
      obtain ⟨-, hc⟩ := check_ok.mp hs
      exact eq_of_validateSources hc
  have hall : node ∈ sources := by
    by_contra ha
    have hf : node ∈ shadowed.filter fun node => !sources.contains node := by
      rw [mem_filter]
      exact ⟨hn, by simp [ha]⟩
    rw [rejectIf_ok, Bool.not_eq_false_eq_eq_true, List.isEmpty_iff] at hm
    rw [hm] at hf
    exact not_mem_nil hf
  rwa [SessionEventKind.sources, hk, Option.bind_some, ← hl]

/-! ## The nodes of the surface -/

/-- The nodes after one more event. -/
def placeNode (nodes : List ℕ) (event : SessionEvent) : List ℕ :=
  match event.kind.surfaceIntent.map SessionSurfaceIntent.surfaceOp with
  | none => nodes
  | some .append => nodes ++ [event.seq]
  | some (.replace start finish) =>
    match position nodes start, position nodes finish with
    | some i, some j => splice nodes i j event.seq
    | _, _ => nodes

/-- The nodes that an event takes the place of. -/
def shadowedNodes (nodes : List ℕ) (event : SessionEvent) : List ℕ :=
  match event.kind.surfaceIntent.map SessionSurfaceIntent.surfaceOp with
  | some (.replace start finish) =>
    match position nodes start, position nodes finish with
    | some i, some j => slice nodes i j
    | _, _ => []
  | _ => []

def surfaceNodes (events : List SessionEvent) : List ℕ :=
  events.foldl placeNode []

/-- The nodes that the event with number `seq` took the place of. -/
def shadowedBy (events : List SessionEvent) (seq : ℕ) : List ℕ :=
  match events[seq]? with
  | some event => shadowedNodes (surfaceNodes (events.take seq)) event
  | none => []

lemma surfaceNodes_concat (evs : List SessionEvent) (event : SessionEvent) :
    surfaceNodes (evs ++ [event]) = placeNode (surfaceNodes evs) event := by
  rw [surfaceNodes, foldl_concat, ← surfaceNodes]

lemma placeNode_of_none (nodes : List ℕ) (h : event.kind.surfaceIntent = none) :
    placeNode nodes event = nodes ∧ shadowedNodes nodes event = [] := by
  simp only [placeNode, shadowedNodes, h, Option.map_none, and_self]

lemma placeNode_of_append (nodes : List ℕ) (h : event.kind.surfaceIntent = some intent)
    (hop : intent.surfaceOp = .append) :
    placeNode nodes event = nodes ++ [event.seq] ∧ shadowedNodes nodes event = [] := by
  simp only [placeNode, shadowedNodes, h, Option.map_some, hop, and_self]

lemma placeNode_of_replace {start finish i j : ℕ} {nodes : List ℕ}
    (h : event.kind.surfaceIntent = some intent) (hop : intent.surfaceOp = .replace start finish)
    (hi : position nodes start = some i) (hj : position nodes finish = some j) :
    placeNode nodes event = splice nodes i j event.seq ∧
      shadowedNodes nodes event = slice nodes i j := by
  simp only [placeNode, shadowedNodes, h, Option.map_some, hop, hi, hj, and_self]

lemma Placed.nodes_eq (h : Placed surf event.seq event.kind prior surf') :
    surf'.nodes = placeNode surf.nodes event := by
  rcases h with hk | ⟨hk, hop, -⟩ | ⟨hk, hop, hi, hj, -, -, -, -⟩
  · exact (placeNode_of_none _ hk).1.symm
  · exact (placeNode_of_append _ hk hop).1.symm
  · exact (placeNode_of_replace hk hop hi hj).1.symm

lemma nodes_of_replay (h : SessionLog.replay evs = .ok (st, surf)) :
    surf.nodes = surfaceNodes evs := by
  refine SessionLog.replay_induction (I := fun evs _ surf =>
    surf.nodes = surfaceNodes evs) rfl ?_ h
  intro evs st surf event st' surf' _ ih he
  rw [(placed_of_replayEvent he).2.nodes_eq, surfaceNodes_concat, ih]

lemma shadowedBy_concat_of_lt (ev : SessionEvent) (h : seq < evs.length) :
    shadowedBy (evs ++ [ev]) seq = shadowedBy evs seq := by
  rw [shadowedBy, shadowedBy, getElem?_append_left h, take_append_of_le_length h.le]

lemma shadowedBy_concat_length (evs : List SessionEvent) (event : SessionEvent) :
    shadowedBy (evs ++ [event]) evs.length = shadowedNodes (surfaceNodes evs) event := by
  rw [shadowedBy, getElem?_concat_length, take_left]

lemma shadowedBy_of_getElem? (h : evs[seq]? = some event) :
    shadowedBy evs seq = shadowedNodes (surfaceNodes (evs.take seq)) event := by
  simp only [shadowedBy, h]

lemma shadowedBy_of_le (h : evs.length ≤ seq) : shadowedBy evs seq = [] := by
  rw [shadowedBy, getElem?_eq_none h]

end Hartevo.Cordis
