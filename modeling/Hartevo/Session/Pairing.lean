import Hartevo.Session.Answers

/-!
# Sessions: calls and results on the surface

The cuts of a surface can be computed as long as every result stands after a call that it answers.
The commands do not see to that.  A result is accepted for a recorded call, whether or not a message
on the surface asks for it, and a message may take the place of the one that asked.

`PairsTools` is a condition on the events under which the open calls of the surface can be counted.
The checkpoint of a compaction and a revised result meet it by their own checks.
-/

namespace Hartevo.Cordis

open SessionLog List

variable {events : List SessionEvent} {event : SessionEvent} {kind : SessionEventKind}
  {nodes later : List ℕ} {node n m i j : ℕ}

/-- The number of open calls after some nodes of the surface. -/
def openCalls (events : List SessionEvent) (inProgress : ℕ) (nodes : List ℕ) :
    Except SessionError ℕ :=
  nodes.foldlM (fun n node => surfaceEvent events node >>= fun event => event.kind.pairing node n)
    inProgress

lemma openCalls_cons_ok :
    openCalls events n (node :: nodes) = .ok m ↔ ∃ event, surfaceEvent events node = .ok event ∧
      ∃ k, event.kind.pairing node n = .ok k ∧ openCalls events k nodes = .ok m := by
  rw [openCalls, foldlM_cons, bind_assoc, bind_ok]
  simp only [bind_ok]
  rfl

lemma openCalls_append_ok : openCalls events n (nodes ++ later) = .ok m ↔
      ∃ k, openCalls events n nodes = .ok k ∧ openCalls events k later = .ok m := by
  rw [openCalls, foldlM_append, bind_ok]
  rfl

/-! ## The cuts -/

lemma exists_cuts (h : openCalls events n nodes = .ok m) :
    ∃ cuts, toolPairingCutsFrom events n nodes = .ok cuts := by
  induction nodes generalizing n with
  | nil => exact ⟨[], rfl⟩
  | cons node nodes ih =>
    obtain ⟨event, he, k, hk, h⟩ := openCalls_cons_ok.mp h
    obtain ⟨cuts, hc⟩ := ih h
    exact ⟨_, bind_ok.mpr ⟨event, he, bind_ok.mpr ⟨k, hk, bind_ok.mpr ⟨cuts, hc, rfl⟩⟩⟩⟩

/-- A cut says whether calls are open before its node and after it. -/
lemma openCalls_of_cut {cuts : List (ℕ × Bool × Bool)} {cut : ℕ × Bool × Bool}
    (h : toolPairingCutsFrom events n nodes = .ok cuts) (hcut : cuts[i]? = some cut) :
    ∃ a b, openCalls events n (nodes.take i) = .ok a ∧
      openCalls events n (nodes.take (i + 1)) = .ok b ∧
      cut.2.1 = (a == 0) ∧ cut.2.2 = (b == 0) := by
  induction nodes generalizing n cuts i with
  | nil =>
    cases h
    cases hcut
  | cons node nodes ih =>
    obtain ⟨event, he, h⟩ := bind_ok.mp h
    obtain ⟨k, hk, h⟩ := bind_ok.mp h
    obtain ⟨rest, hr, h⟩ := bind_ok.mp h
    cases h
    rcases i with _ | i
    · cases hcut
      exact ⟨n, k, rfl, openCalls_cons_ok.mpr ⟨event, he, k, hk, rfl⟩, rfl, rfl⟩
    · obtain ⟨a, b, ha, hb, hcut⟩ := ih hr hcut
      exact ⟨a, b, openCalls_cons_ok.mpr ⟨event, he, k, hk, ha⟩,
        openCalls_cons_ok.mpr ⟨event, he, k, hk, hb⟩, hcut⟩

/-- The event is the result of a tool. -/
def SessionEventKind.isToolResult : SessionEventKind → Bool
  | toolResult _ _ _ _ _ => true
  | _ => false

/-- The checkpoint of a compaction and a revised result leave as many calls open as the span whose
place they take. -/
lemma pairing_of_slice (hij : i ≤ j) (hki : kind.isCompactCheckpoint || kind.isToolResult)
    (hc : validateCompactionReplacement kind (slice nodes i j) nodes i j events = .ok ())
    (hr : validateToolResultReplacement kind (slice nodes i j) events = .ok ())
    (hn : openCalls events 0 (nodes.take i) = .ok n)
    (hm : openCalls events n (slice nodes i j) = .ok m) : kind.pairing node n = .ok m := by
  cases kind with
  | userMessage msg surf =>
    rw [validateCompactionReplacement, if_pos ((Bool.or_false _).symm.trans hki)] at hc
    split at hc
    · obtain ⟨-, h⟩ := check_ok.mp hc
      obtain ⟨cuts, hcu, h⟩ := bind_ok.mp h
      obtain ⟨first, hf, h⟩ := bind_ok.mp h
      obtain ⟨hbe, h⟩ := check_ok.mp h
      obtain ⟨last, hl, haf⟩ := bind_ok.mp h
      obtain ⟨a, _, ha, -, hcut, -⟩ := openCalls_of_cut hcu (okOr_ok.mp hf)
      obtain ⟨_, b, -, hb, -, hcut'⟩ := openCalls_of_cut hcu (okOr_ok.mp hl)
      rw [← take_append_slice nodes hij] at hb
      cases hn.symm.trans ha
      cases (openCalls_append_ok.mpr ⟨n, hn, hm⟩).symm.trans hb
      simp only [passed, hcut, hcut', beq_iff_eq] at hbe haf
      rw [hbe, haf]
      rfl
    · cases hc
  | toolResult =>
    generalize slice nodes i j = shadowed at hr hm
    simp only [validateToolResultReplacement] at hr
    split at hr
    · next node =>
      split at hr
      · next hno =>
        obtain ⟨original, ho, k, hk, hm⟩ := openCalls_cons_ok.mp hm
        cases hm
        rw [surfaceEvent, okOr_ok, Option.filter_eq_some_iff] at ho
        rw [ho.1] at hno
        rw [Option.some.inj hno] at hk
        rcases n with _ | n
        · cases hk
        · exact hk
      · cases hr
    · cases hr
  | _ => cases hki

/-! ## One more event -/

lemma surfaceEvent_concat (h : surfaceEvent events node = .ok event) (last : SessionEvent) :
    surfaceEvent (events ++ [last]) node = .ok event := by
  rw [surfaceEvent, okOr_ok] at h ⊢
  rwa [getElem?_append_left ?_]
  rw [Option.filter_eq_some_iff] at h
  exact (List.getElem?_eq_some_iff.mp h.1).1

lemma openCalls_concat (h : openCalls events n nodes = .ok m) (last : SessionEvent) :
    openCalls (events ++ [last]) n nodes = .ok m := by
  induction nodes generalizing n with
  | nil => exact h
  | cons node nodes ih =>
    obtain ⟨event, he, k, hk, h⟩ := openCalls_cons_ok.mp h
    exact openCalls_cons_ok.mpr ⟨event, surfaceEvent_concat he last, k, hk, ih h⟩

/-- The event answers an open call, and if it takes the place of a span, it leaves as many calls
open as the span did. -/
def KeepsPairing (events : List SessionEvent) (event : SessionEvent) : Prop :=
  (event.kind.isAppend = true → ∀ n, openCalls events 0 (surfaceNodes events) = .ok n →
    ∃ m, event.kind.pairing event.seq n = .ok m) ∧
  (event.kind.isReplace = true →
    (event.kind.isCompactCheckpoint || event.kind.isToolResult) = true ∨
    ∀ n m, openCalls events n (shadowedNodes (surfaceNodes events) event) = .ok m →
      event.kind.pairing event.seq n = .ok m)

/-- Every event kept the pairing when it was appended. -/
def PairsTools (events : List SessionEvent) : Prop :=
  ∀ seq event, events[seq]? = some event → KeepsPairing (events.take seq) event

lemma exists_openCalls_placed {surf surf' : SessionSurfaceState}
    (hn : surf.nodes = surfaceNodes events)
    (hseq : event.seq = events.length) (hp : Placed surf event.seq event.kind events surf')
    (hke : KeepsPairing events event) (h : openCalls events 0 surf.nodes = .ok n) :
    ∃ m, openCalls (events ++ [event]) 0 surf'.nodes = .ok m := by
  have hl : surfaceEvent (events ++ [event]) event.seq = .ok event := by
    rw [surfaceEvent, hseq, getElem?_concat_length, okOr_ok, Option.filter_some, hseq]
    simp
  obtain ⟨ha, hr⟩ := hke
  rw [← hn] at ha hr
  rcases hp with hk | ⟨hk, hop, -⟩ | ⟨hk, hop, hi, hj, hij, -, hc, hres⟩
  · exact ⟨n, openCalls_concat h event⟩
  · obtain ⟨m, hm⟩ := ha (by simp [SessionEventKind.isAppend, hk, hop]) n h
    exact ⟨m, openCalls_append_ok.mpr ⟨n, openCalls_concat h event,
      openCalls_cons_ok.mpr ⟨event, hl, m, hm, rfl⟩⟩⟩
  · rw [eq_append_slice surf.nodes hij, openCalls_append_ok] at h
    obtain ⟨b, h, haf⟩ := h
    obtain ⟨a, hb, hs⟩ := openCalls_append_ok.mp h
    have hpa : event.kind.pairing event.seq a = .ok b := by
      rcases hr (by simp [SessionEventKind.isReplace, hk, hop]) with hown | hown
      · exact pairing_of_slice hij hown hc hres hb hs
      · exact hown a b (by rwa [(placeNode_of_replace hk hop hi hj).2])
    exact ⟨n, openCalls_append_ok.mpr ⟨a, openCalls_concat hb event,
      openCalls_cons_ok.mpr ⟨event, hl, b, hpa, openCalls_concat haf event⟩⟩⟩

/-- On a reachable log whose events keep the pairing, the cuts can be computed. -/
theorem pairing_computable {log : SessionLog} (h : log.Reachable fun _ _ => True)
    (hpairs : PairsTools log.events) : ∃ cuts, log.toolPairingCuts = .ok cuts := by
  have hc : ∃ n, openCalls log.events 0 log.surface.nodes = .ok n := by
    revert hpairs
    refine replay_induction (I := fun events _ surface => PairsTools events →
      ∃ n, openCalls events 0 surface.nodes = .ok n) (fun _ => ⟨0, rfl⟩) ?_
      (restorable_iff.mp h.restorable).2
    intro events state surface event state' surface' hb ih hev hpairs
    have he : PairsTools events := by
      intro seq found hf
      have hlt := (List.getElem?_eq_some_iff.mp hf).1
      have hk := hpairs seq found (by rw [getElem?_append_left hlt, hf])
      rwa [take_append_of_le_length hlt.le] at hk
    obtain ⟨n, hn⟩ := ih he
    have hl := hpairs events.length event getElem?_concat_length
    rw [take_left] at hl
    obtain ⟨hseq, hp⟩ := placed_of_replayEvent hev
    exact exists_openCalls_placed (nodes_of_replay hb) hseq hp hl hn
  obtain ⟨n, hn⟩ := hc
  exact exists_cuts hn

/-- A model asks for the tool before it is called. -/
theorem pairing_computable_answeredCall :
    let log := SessionLog.after (askedCall ++ answeredCall)
    log.Reachable (fun _ _ => True) ∧ PairsTools log.events ∧
      ∃ cuts, log.toolPairingCuts = .ok cuts := by
  intro log
  have hall : ∀ seq < 5, ∀ event ∈ log.events[seq]?, event.kind.isReplace = false ∧
      (event.kind.isAppend = true → ∀ n ∈ (openCalls (log.events.take seq) 0
        (surfaceNodes (log.events.take seq))).toOption,
          (event.kind.pairing event.seq n).isOk = true) := by
    decide
  have hpa : PairsTools log.events := by
    intro seq event he
    obtain ⟨hk, happ⟩ := hall seq (List.getElem?_eq_some_iff.mp he).1 event he
    refine ⟨fun ha n hn => ?_, fun hr => ?_⟩
    · have hok := happ ha n (by rw [hn]; rfl)
      rcases hp : event.kind.pairing event.seq n with e | m
      · rw [hp] at hok
        cases hok
      · exact ⟨m, rfl⟩
    · rw [hk] at hr
      cases hr
  exact ⟨reachable_after _, hpa, pairing_computable (reachable_after _) hpa⟩

/-- No message asks for the tool, and the surface begins with its result. -/
theorem unasked_result_blocks_cuts :
    let log := SessionLog.after ([.startTurn, .startStep 1] ++ answeredCall)
    log.Reachable (fun _ _ => True) ∧
      log.toolPairingCuts = .error (.compactionToolResultWithoutCall 3) :=
  ⟨reachable_after _, rfl⟩

end Hartevo.Cordis
