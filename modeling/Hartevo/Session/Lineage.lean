import Hartevo.Foundation.Lineage
import Hartevo.Session.Placement

/-!
# Sessions: the surface loses and repeats nothing

A replacing event takes the place of a span of the surface, and later events may replace it in turn.
`replacedNodes` records for every replacing event the nodes that it shadowed; expanding the surface
with it gives back the appended message events, each once and in their order.  The invariant is
`Lineage`: it is carried through one event (`Lineage.none`, `Lineage.append`, `Lineage.replace`) and
from there to every restorable log.

A shadowed node is shadowed by one event only, and that event lists it among its sources.  Later
events may list it again, since the sources of a message may be any earlier events.
-/

namespace Hartevo.Cordis

open List

/-! ## Appended and replacing events -/

/-- The event adds a message at the end of the surface. -/
def SessionEventKind.isAppend (kind : SessionEventKind) : Bool :=
  kind.surfaceIntent.any fun intent => intent.surfaceOp == .append

/-- The event puts a message in the place of a span of the surface. -/
def SessionEventKind.isReplace (kind : SessionEventKind) : Bool :=
  kind.surfaceIntent.any fun intent => intent.surfaceOp != .append

/-- The numbers of the appended messages, in the order of the log. -/
def appendedSeqs (events : List SessionEvent) : List ℕ :=
  (events.filter fun event => event.kind.isAppend).map SessionEvent.seq

/-- What a node stands for: the nodes that it shadowed, if its event replaced a span. -/
def replacedNodes (events : List SessionEvent) (node : ℕ) : Option (List ℕ) :=
  if (events[node]?).any (fun event => event.kind.isReplace) then some (shadowedBy events node)
  else none

section Step

variable {events : List SessionEvent} {event : SessionEvent}

lemma replacedNodes_concat_of_lt {node : ℕ} (h : node < events.length) :
    replacedNodes (events ++ [event]) node = replacedNodes events node := by
  rw [replacedNodes, replacedNodes, getElem?_append_left h, shadowedBy_concat_of_lt event h]

lemma replacedNodes_concat_length : replacedNodes (events ++ [event]) events.length =
      if event.kind.isReplace then some (shadowedNodes (surfaceNodes events) event) else none := by
  rw [replacedNodes, getElem?_concat_length, shadowedBy_concat_length, Option.any_some]

lemma expand_concat_of_lt {node : ℕ} (h : node < events.length) :
    expand (replacedNodes (events ++ [event])) node = expand (replacedNodes events) node :=
  expand_congr fun _ hle => replacedNodes_concat_of_lt (hle.trans_lt h)

lemma appendedSeqs_concat : appendedSeqs (events ++ [event]) =
      appendedSeqs events ++ if event.kind.isAppend then [event.seq] else [] := by
  rw [appendedSeqs, filter_append, map_append, ← appendedSeqs, filter_singleton]
  cases event.kind.isAppend <;> rfl

lemma countP_isReplace_concat : (events ++ [event]).countP (fun event => event.kind.isReplace) =
      events.countP (fun event => event.kind.isReplace) +
        if event.kind.isReplace then 1 else 0 := by
  rw [countP_append, countP_singleton]

end Step

/-! ## The invariant -/

/-- How the surface and the events of a log belong together. -/
structure Lineage (events : List SessionEvent) (surface : SessionSurfaceState) : Prop where
  nodes_eq : surface.nodes = surfaceNodes events
  nodup : surface.nodes.Nodup
  message : ∀ node ∈ surface.nodes, ∃ event, events[node]? = some event ∧
    event.kind.surfaceIntent.isSome = true
  expanded : surface.nodes.flatMap (expand (replacedNodes events)) = appendedSeqs events
  generation : surface.replaceGeneration = events.countP fun event => event.kind.isReplace
  /-- What is shadowed was a node once, and is none any more. -/
  gone : ∀ seq, ∀ node ∈ shadowedBy events seq, node < events.length ∧ node ∉ surface.nodes
  once : ∀ seq seq' node, node ∈ shadowedBy events seq → node ∈ shadowedBy events seq' →
    seq' = seq
  listed : ∀ seq event, events[seq]? = some event → ∀ node ∈ shadowedBy events seq,
    node ∈ event.kind.sources

namespace Lineage

variable {events : List SessionEvent} {surface surface' surf : SessionSurfaceState}
  {event : SessionEvent} {node start finish i j : ℕ} {nodes : List ℕ}
  {intent : SessionSurfaceIntent}

lemma node_lt (h : Lineage events surface) (hn : node ∈ surface.nodes) : node < events.length := by
  obtain ⟨event, he, -⟩ := h.message node hn
  exact (List.getElem?_eq_some_iff.mp he).1

lemma length_notMem (h : Lineage events surface) : events.length ∉ surface.nodes :=
  fun hmem => lt_irrefl _ (h.node_lt hmem)

/-- What is shadowed by one of the events and a last one is shadowed by one of the events, or by the
last one. -/
lemma mem_shadowedBy_concat {seq : ℕ} (h : node ∈ shadowedBy (events ++ [event]) seq) :
    (seq < events.length ∧ node ∈ shadowedBy events seq) ∨
      (seq = events.length ∧ node ∈ shadowedNodes (surfaceNodes events) event) := by
  rcases lt_trichotomy seq events.length with hlt | rfl | hgt
  · rw [shadowedBy_concat_of_lt event hlt] at h
    exact .inl ⟨hlt, h⟩
  · rw [shadowedBy_concat_length] at h
    exact .inr ⟨rfl, h⟩
  · have hlen : (events ++ [event]).length ≤ seq := by
      rw [length_append, length_singleton]
      exact hgt
    rw [shadowedBy_of_le hlen] at h
    exact absurd h not_mem_nil

/-- The earlier nodes still stand for message events. -/
lemma message_concat (h : Lineage events surface) (hn : node ∈ surface.nodes) :
    ∃ found, (events ++ [event])[node]? = some found ∧ found.kind.surfaceIntent.isSome = true := by
  obtain ⟨found, hf, hmsg⟩ := h.message node hn
  refine ⟨found, ?_, hmsg⟩
  rw [getElem?_append_left (h.node_lt hn), hf]

lemma flatMap_concat (h : Lineage events surface) (hn : ∀ node ∈ nodes, node ∈ surface.nodes) :
    nodes.flatMap (expand (replacedNodes (events ++ [event]))) =
      nodes.flatMap (expand (replacedNodes events)) :=
  flatMap_congr fun node hno => expand_concat_of_lt (h.node_lt (hn node hno))

lemma empty : Lineage [] {} where
  nodes_eq := rfl
  nodup := nodup_nil
  message := fun _ hn => absurd hn not_mem_nil
  expanded := rfl
  generation := rfl
  gone := fun _ _ hn => absurd hn not_mem_nil
  once := fun _ _ _ hn => absurd hn not_mem_nil
  listed := fun _ _ _ _ hn => absurd hn not_mem_nil

/-- The facts about shadowed nodes stay true on every surface that keeps the earlier numbers off, if
what the event shadows was on the old surface, is off the new one and is among its sources. -/
lemma shadow_facts (h : Lineage events surface) (event : SessionEvent)
    (hn : ∀ node ∈ nodes, node ∈ surface.nodes ∨ node = events.length)
    (hs : ∀ node ∈ shadowedNodes (surfaceNodes events) event,
      node ∈ surface.nodes ∧ node ∉ nodes ∧ node ∈ event.kind.sources) :
    (∀ seq, ∀ node ∈ shadowedBy (events ++ [event]) seq,
      node < (events ++ [event]).length ∧ node ∉ nodes) ∧
    (∀ seq seq' node, node ∈ shadowedBy (events ++ [event]) seq →
      node ∈ shadowedBy (events ++ [event]) seq' → seq' = seq) ∧
    (∀ seq found, (events ++ [event])[seq]? = some found →
      ∀ node ∈ shadowedBy (events ++ [event]) seq, node ∈ found.kind.sources) := by
  -- A node that is shadowed now was on the surface until now, so no earlier event shadowed it.
  have hnew : ∀ {node seq}, node ∈ shadowedNodes (surfaceNodes events) event →
      node ∉ shadowedBy events seq := fun hmem he => (h.gone _ _ he).2 (hs _ hmem).1
  refine ⟨?_, ?_, ?_⟩
  · intro seq node hmem
    rw [length_append, length_singleton]
    rcases mem_shadowedBy_concat hmem with ⟨-, hmem⟩ | ⟨-, hmem⟩
    · obtain ⟨hlt, hoff⟩ := h.gone seq node hmem
      refine ⟨by omega, fun hon => ?_⟩
      rcases hn node hon with hon | rfl
      · exact hoff hon
      · exact lt_irrefl _ hlt
    · obtain ⟨hon, hoff, -⟩ := hs node hmem
      exact ⟨Nat.lt_succ_of_lt (h.node_lt hon), hoff⟩
  · intro seq seq' node hmem hmem'
    rcases mem_shadowedBy_concat hmem with ⟨-, hn⟩ | ⟨hl, hn⟩ <;>
      rcases mem_shadowedBy_concat hmem' with ⟨-, hn'⟩ | ⟨hl', hn'⟩
    · exact h.once seq seq' node hn hn'
    · exact absurd hn (hnew hn')
    · exact absurd hn' (hnew hn)
    · exact hl'.trans hl.symm
  · intro seq found hf node hmem
    rcases mem_shadowedBy_concat hmem with ⟨hlt, hn⟩ | ⟨hl, hn⟩
    · rw [getElem?_append_left hlt] at hf
      exact h.listed seq found hf node hn
    · rw [hl, getElem?_concat_length] at hf
      cases hf
      exact (hs node hn).2.2

/-- Every node of a surface that adds at most the new event comes from a message. -/
lemma message_of_cases (h : Lineage events surface) (hk : event.kind.surfaceIntent = some intent)
    (hn : node ∈ surface.nodes ∨ node = events.length) :
    ∃ found, (events ++ [event])[node]? = some found ∧ found.kind.surfaceIntent.isSome = true := by
  rcases hn with hn | rfl
  · exact h.message_concat hn
  · exact ⟨event, getElem?_concat_length, by rw [hk]; rfl⟩

lemma none (h : Lineage events surface) (hk : event.kind.surfaceIntent = .none) :
    Lineage (events ++ [event]) surface := by
  obtain ⟨hp, hs⟩ := placeNode_of_none (surfaceNodes events) hk
  obtain ⟨hg, ho, hl⟩ := h.shadow_facts event (fun _ => Or.inl) (by simp [hs])
  have ha : event.kind.isAppend = false := by rw [SessionEventKind.isAppend, hk]; rfl
  have hr : event.kind.isReplace = false := by rw [SessionEventKind.isReplace, hk]; rfl
  exact
    { nodes_eq := by rw [h.nodes_eq, surfaceNodes_concat, hp]
      nodup := h.nodup
      message := fun node hn => h.message_concat hn
      expanded := by
        rw [h.flatMap_concat fun _ hn => hn, h.expanded, appendedSeqs_concat, ha]
        exact (append_nil _).symm
      generation := by
        rw [h.generation, countP_isReplace_concat, hr]
        rfl
      gone := hg
      once := ho
      listed := hl }

lemma append (h : Lineage events surf) (hseq : event.seq = events.length)
    (hk : event.kind.surfaceIntent = some intent) (hop : intent.surfaceOp = .append) :
    Lineage (events ++ [event]) { surf with nodes := surf.nodes ++ [event.seq] } := by
  obtain ⟨hp, hs⟩ := placeNode_of_append (surfaceNodes events) hk hop
  have ha : event.kind.isAppend = true := by
    rw [SessionEventKind.isAppend, hk, Option.any_some, hop]
    rfl
  have hr : event.kind.isReplace = false := by
    rw [SessionEventKind.isReplace, hk, Option.any_some, hop]
    rfl
  have hc : ∀ node ∈ surf.nodes ++ [event.seq], node ∈ surf.nodes ∨ node = events.length := by
    intro node hn
    rcases mem_append.mp hn with hn | hn
    · exact .inl hn
    · exact .inr ((mem_singleton.mp hn).trans hseq)
  obtain ⟨hg, ho, hli⟩ := h.shadow_facts event hc (by simp [hs])
  have hse : expand (replacedNodes (events ++ [event])) event.seq = [event.seq] := by
    refine expand_of_none ?_
    rw [hseq, replacedNodes_concat_length, hr]
    rfl
  exact
    { nodes_eq := by rw [surfaceNodes_concat, hp, h.nodes_eq]
      nodup := by
        refine nodup_append.mpr ⟨h.nodup, nodup_singleton _, ?_⟩
        rintro node hn _ hl rfl
        rw [mem_singleton, hseq] at hl
        exact h.length_notMem (hl ▸ hn)
      message := fun node hn => h.message_of_cases hk (hc node hn)
      expanded := by
        rw [flatMap_append, h.flatMap_concat fun _ hn => hn, h.expanded,
          flatMap_singleton, hse, appendedSeqs_concat, if_pos ha]
      generation := by
        rw [countP_isReplace_concat, hr, ← h.generation]
        rfl
      gone := hg
      once := ho
      listed := hli }

lemma replace (h : Lineage events surface) (hseq : event.seq = events.length)
    (hk : event.kind.surfaceIntent = some intent) (hop : intent.surfaceOp = .replace start finish)
    (hi : position surface.nodes start = some i) (hj : position surface.nodes finish = some j)
    (hij : i ≤ j) (hso : ∀ node ∈ slice surface.nodes i j, node ∈ event.kind.sources) :
    Lineage (events ++ [event])
      { nodes := splice surface.nodes i j event.seq,
        replaceGeneration := surface.replaceGeneration + 1 } := by
  obtain ⟨hp, hs⟩ := placeNode_of_replace hk hop hi hj
  rw [h.nodes_eq] at hp hs
  have ha : event.kind.isAppend = false := by
    rw [SessionEventKind.isAppend, hk, Option.any_some, hop]
    rfl
  have hr : event.kind.isReplace = true := by
    rw [SessionEventKind.isReplace, hk, Option.any_some, hop]
    rfl
  have hsp : ∀ node ∈ slice surface.nodes i j, node ∈ surface.nodes :=
    fun node hn => mem_of_mem_take (mem_of_mem_drop hn)
  have hfr : event.seq ∉ surface.nodes := hseq ▸ h.length_notMem
  obtain ⟨hno, hoff⟩ := nodup_splice hij h.nodup hfr
  have hc : ∀ node ∈ splice surface.nodes i j event.seq,
      node ∈ surface.nodes ∨ node = events.length := by
    intro node hn
    rcases mem_splice.mp hn with rfl | hn | hn
    · exact .inr hseq
    · exact .inl (mem_of_mem_take hn)
    · exact .inl (mem_of_mem_drop hn)
  have hse : expand (replacedNodes (events ++ [event])) event.seq =
      (slice surface.nodes i j).flatMap (expand (replacedNodes (events ++ [event]))) := by
    refine expand_of_some ?_ fun node hn => hseq ▸ h.node_lt (hsp node hn)
    rw [hseq, replacedNodes_concat_length, if_pos hr, hs, h.nodes_eq]
  obtain ⟨hg, ho, hli⟩ := h.shadow_facts event hc fun node hmem => by
    rw [hs, ← h.nodes_eq] at hmem
    exact ⟨hsp node hmem, hoff node hmem, hso node hmem⟩
  exact
    { nodes_eq := by rw [surfaceNodes_concat, hp, h.nodes_eq]
      nodup := hno
      message := fun node hn => h.message_of_cases hk (hc node hn)
      expanded := by
        rw [flatMap_splice hij hse, h.flatMap_concat fun _ hn => hn, h.expanded,
          appendedSeqs_concat, ha]
        exact (append_nil _).symm
      generation := by
        rw [countP_isReplace_concat, if_pos hr, ← h.generation]
      gone := hg
      once := ho
      listed := hli }

lemma placed (h : Lineage events surface)
    (hseq : event.seq = events.length) (hp : Placed surface event.seq event.kind events surface') :
    Lineage (events ++ [event]) surface' := by
  rcases hp with hk | ⟨hk, hop, -⟩ | ⟨hk, hop, hi, hj, hij, hs, -, -⟩
  · exact h.none hk
  · exact h.append hseq hk hop
  · exact h.replace hseq hk hop hi hj hij fun _ => mem_sources_of_validate hk hs

/-- Every log that can be replayed has the invariant. -/
lemma of_replay {st : SessionState}
    (h : SessionLog.replay events = .ok (st, surface)) : Lineage events surface := by
  refine SessionLog.replay_induction (I := fun events _ surface => Lineage events surface)
    empty ?_ h
  intro events st surface event st' surf' _ ih he
  obtain ⟨hseq, hp⟩ := placed_of_replayEvent he
  exact ih.placed hseq hp

end Lineage

/-! ## Restorable logs -/

variable {evs : List SessionEvent}

lemma pairwise_appendedSeqs {st : SessionState} {surf : SessionSurfaceState}
    (h : SessionLog.replay evs = .ok (st, surf)) : (appendedSeqs evs).Pairwise (· < ·) := by
  have ho : evs.Pairwise fun earlier later => earlier.seq < later.seq := by
    rw [pairwise_iff_getElem]
    intro i j hi hj hij
    have hseq := SessionLog.seq_eq_of_replay h (getElem?_eq_getElem hi)
    have hseq' := SessionLog.seq_eq_of_replay h (getElem?_eq_getElem hj)
    omega
  exact pairwise_map.mpr (ho.filter _)

lemma exists_of_mem_shadowedBy {node seq : ℕ} (h : node ∈ shadowedBy evs seq) :
    ∃ event, evs[seq]? = some event ∧ event.kind.isReplace = true := by
  rcases he : evs[seq]? with _ | event
  · rw [shadowedBy_of_le (getElem?_eq_none_iff.mp he)] at h
    exact absurd h not_mem_nil
  have hn : node ∈ shadowedNodes (surfaceNodes (evs.take seq)) event := by
    rwa [shadowedBy_of_getElem? he] at h
  refine ⟨event, rfl, ?_⟩
  rcases hi : event.kind.surfaceIntent with _ | intent
  · rw [(placeNode_of_none _ hi).2] at hn
    exact absurd hn not_mem_nil
  rcases hop : intent.surfaceOp with _ | ⟨start, finish⟩
  · rw [(placeNode_of_append _ hi hop).2] at hn
    exact absurd hn not_mem_nil
  · rw [SessionEventKind.isReplace, hi, Option.any_some, hop]
    rfl

/-- The surface of a restorable log has distinct nodes, each the number of a message event.
Expanded, it is the appended messages in the order of the log.  The generation counts the replacing
events.  Every shadowed node is off the surface and was shadowed by exactly one event, which is a
replacing one and lists the node among its sources. -/
theorem restored_surface_lineage {header : SessionHeader} {events : List SessionEvent}
    {log : SessionLog} (h : SessionLog.restore header events = .ok log) :
    log.surface.nodes.Nodup ∧
    (∀ node ∈ log.surface.nodes, ∃ event, log.events[node]? = some event ∧ event.seq = node ∧
      event.kind.surfaceIntent.isSome = true) ∧
    log.surface.nodes.flatMap (expand (replacedNodes log.events)) = appendedSeqs log.events ∧
    (appendedSeqs log.events).Pairwise (· < ·) ∧
    log.surface.replaceGeneration = log.events.countP (fun event => event.kind.isReplace) ∧
    ∀ seq, ∀ node ∈ shadowedBy log.events seq,
      node ∉ log.surface.nodes ∧
      (∃ event, log.events[seq]? = some event ∧ event.seq = seq ∧ event.kind.isReplace = true ∧
        node ∈ event.kind.sources) ∧
      ∀ seq', node ∈ shadowedBy log.events seq' → seq' = seq := by
  obtain ⟨-, hr, -, rfl⟩ := SessionLog.restore_ok.mp h
  have hl := Lineage.of_replay hr
  refine ⟨hl.nodup, ?_, hl.expanded, pairwise_appendedSeqs hr, hl.generation, ?_⟩
  · intro node hn
    obtain ⟨event, he, hm⟩ := hl.message node hn
    exact ⟨event, he, SessionLog.seq_eq_of_replay hr he, hm⟩
  · intro seq node hn
    obtain ⟨event, he, hre⟩ := exists_of_mem_shadowedBy hn
    have hseq := SessionLog.seq_eq_of_replay hr he
    have hli := hl.listed seq event he node hn
    exact ⟨(hl.gone seq node hn).2, ⟨event, he, hseq, hre, hli⟩,
      fun seq' hn' => hl.once seq seq' node hn hn'⟩

/-- Three texts of the user: the second takes the place of the first and the third the place of the
second, and the third names both of them as its sources. -/
def relistedEvents : List SessionEvent :=
  [⟨0, 0, .userMessage .sample ⟨.append, none⟩⟩,
    ⟨1, 0, .userMessage .sample ⟨.replace 0 0, some [0]⟩⟩,
    ⟨2, 0, .userMessage .sample ⟨.replace 1 1, some [1, 0]⟩⟩]

def SessionLog.relisted : SessionLog :=
  { SessionLog.sample with events := relistedEvents, surface := ⟨[2], 2⟩ }

/-- The one message that is left stands for the first. -/
theorem restored_surface_lineage_relisted :
    SessionLog.restore SessionLog.sample.header relistedEvents = .ok .relisted ∧
      SessionLog.relisted.surface.nodes.flatMap (expand (replacedNodes relistedEvents)) = [0] := by
  have hr : SessionLog.restore SessionLog.sample.header relistedEvents = .ok .relisted := rfl
  exact ⟨hr, (restored_surface_lineage hr).2.2.1⟩

/-- The first text is shadowed by the second event, and two replacing events list it. -/
theorem shadowed_node_listed_twice :
    SessionLog.restore SessionLog.sample.header relistedEvents = .ok .relisted ∧
      0 ∈ shadowedBy relistedEvents 1 ∧
      (relistedEvents.countP fun event =>
        event.kind.isReplace && event.kind.sources.contains 0) = 2 :=
  ⟨rfl, by decide, by decide⟩

end Hartevo.Cordis
