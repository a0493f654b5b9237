import Hartevo.Session.Repair

/-!
# Sessions: after a crash

A log that was read back is repaired before it is used again.  Exactly if no compaction was open
between two turns, the repaired log has nothing open, a second repair finds nothing to do, and a
turn can be started.  The children of a fork are restored from a part of the events of their source
and are not repaired: they have no open turn, and a turn can be started exactly if the part does not
end inside a compaction.

A compaction that is begun between two turns has no owner turn; a crash before its end leaves a log
that a repair does not touch and in which no turn can be started (`repair_leaves_compaction_open`).
-/

namespace Hartevo.Cordis

open Command SessionLog

/-! ## Open compactions -/

def leavesCompactionOpen (events : List SessionEvent) : Bool :=
  events.foldl
    (fun opened event =>
      match event.kind with
      | .compactionStart _ => true
      | .compactionEnd _ => false
      | _ => opened) false

lemma isSome_compaction_of_replay {st : SessionState} {surf : SessionSurfaceState}
    {events : List SessionEvent}
    (h : replay events = .ok (st, surf)) : st.compaction.isSome = leavesCompactionOpen events := by
  refine replay_induction
    (I := fun events st _ => st.compaction.isSome = leavesCompactionOpen events) rfl ?_ h
  intro events st surf ev st' surf' _ ih he
  have ha := applied_of_apply (replayEvent_ok.mp he).2.2.1
  rw [leavesCompactionOpen, List.foldl_concat, ← leavesCompactionOpen, ← ih]
  rcases ev with ⟨seq, timeMs, kind⟩
  cases ha with
  | compactionStart | compactionEnd => rfl
  | compactionSummary ho | checkpoint _ ho =>
    rw [ho]
    rfl
  | setting hk =>
    change kind.isSetting = true at hk
    cases kind <;> first | rfl | cases hk
  | _ => rfl

/-! ## Starting a turn -/

namespace SessionLog

variable {clock : Clock}

lemma exec_startTurn {log : SessionLog} (ht : log.state.openTurn = none)
    (hn : log.state.compaction = none) (hr : log.state.lastTurn + 1 < 2 ^ 64)
    (hc : 0 ≤ clock log.events.length) :
    ∃ next, log.accept (.turnStart (log.state.lastTurn + 1)) (clock log.events.length) = .ok next ∧
      (startTurn clock).exec log = (.ok (log.state.lastTurn + 1), next) := by
  have ha := accept_of hc (apply_turnStart ht hn hr) rfl
  have hl : okOr (checkedAdd 64 log.state.lastTurn 1) SessionError.turnSequenceOverflow =
      .ok (log.state.lastTurn + 1) :=
    okOr_ok.mpr (checkedAdd_eq_some.mpr ⟨hr, rfl⟩)
  refine ⟨_, ha, ?_⟩
  refine (exec_check_bind_of_ok (g := fun log : SessionLog =>
    okOr (checkedAdd 64 log.state.lastTurn 1) SessionError.turnSequenceOverflow) hl).trans ?_
  exact exec_bind_of_ok (exec_appendAt_of_accept ha)

lemma exec_handle_startTurn {handle : SessionHandle} (ht : handle.log.state.openTurn = none)
    (hn : handle.log.state.compaction = none)
    (hr : handle.log.state.lastTurn + 1 < 2 ^ 64) (hc : 0 ≤ clock handle.log.events.length) :
    ∃ next, (SessionHandle.startTurn clock).exec handle =
      (.ok (handle.log.state.lastTurn + 1), next) := by
  obtain ⟨log, ha, he⟩ := exec_startTurn ht hn hr hc
  refine ⟨{ handle with log }, ?_⟩
  rw [SessionHandle.startTurn, SessionHandle.onLog, exec_focus, exec_commit_of_accept ha he]

/-- A turn that was started found no compaction open. -/
lemma compaction_of_startTurn {handle next : SessionHandle} {turn : ℕ}
    (h : (SessionHandle.startTurn clock).exec handle = (.ok turn, next)) :
    handle.log.state.compaction = none := by
  rw [SessionHandle.startTurn, SessionHandle.onLog, exec_focus_ok] at h
  obtain ⟨log, hc, -⟩ := h
  have ha : AppendsAt (fun _ kind => ∃ turn, kind = .turnStart turn) (commit (startTurn clock))
      handle.log :=
    (AppendsAt.check_bind fun turn _ =>
      (appendsAt_append fun _ _ _ => ⟨turn, rfl⟩).bind_pure).commit
  rcases ha with ⟨e, he⟩ | ⟨_, _, timeMs, next, ⟨turn, rfl⟩, hacc, -⟩
  · rw [hc] at he
    cases he
  · have happ := applied_of_apply (replayEvent_ok.mp (accept_ok.mp hacc).2.2).2.2.1
    generalize next.state = state at happ
    cases happ with
    | turnStart _ hn => exact hn
    | setting hk => cases hk

/-! ## Forks -/

def eventsUpTo (log : SessionLog) (boundary : Option ℕ) : List SessionEvent :=
  log.events.take ((boundary.or (log.events.getLast?.map SessionEvent.seq)).elim 0 (· + 1))

variable {source : SessionLog} {sourceId : SessionId} {boundary : Option ℕ}

lemma eq_eventsUpTo_of_forkSeed {seed : List SessionEvent}
    (h : source.forkSeed sourceId boundary = .ok seed) : seed = source.eventsUpTo boundary := by
  rw [forkSeed] at h
  rw [eventsUpTo]
  rcases hb : boundary.or (source.events.getLast?.map SessionEvent.seq) with _ | last
  · rw [hb] at h
    cases h
    rfl
  · rw [hb] at h
    obtain ⟨ev, -, h⟩ := bind_ok.mp h
    obtain ⟨-, hs⟩ := check_ok.mp h
    cases hs
    rfl

/-- A forked log has no open turn, and it has an open compaction exactly if its seed has. -/
lemma fork_closed {childId : SessionId} {cms : ℤ}
    {child : SessionLog} (h : source.fork sourceId boundary childId cms = .ok child) :
    child.state.openTurn = none ∧ (child.state.compaction = none ↔
      leavesCompactionOpen (source.eventsUpTo boundary) = false) := by
  obtain ⟨header, seed, hs, hr, ht⟩ := fork_ok h
  obtain ⟨-, hre, -, -⟩ := restore_ok.mp hr
  refine ⟨ht, ?_⟩
  rw [← eq_eventsUpTo_of_forkSeed hs, ← isSome_compaction_of_replay hre,
    Option.isSome_eq_false_iff, Option.isNone_iff_eq_none]

end SessionLog

lemma SessionStore.fork_ok {childId sourceId : SessionId} {cms : ℤ} {boundary : Option ℕ}
    {store store' : SessionStore} {child : SessionHandle}
    (h : (SessionStore.fork sourceId boundary childId cms).exec store = (.ok child, store')) :
    ∃ source, store.sessions[sourceId]? = some source ∧
      source.log.fork sourceId boundary childId cms = .ok child.log := by
  obtain ⟨handle, hm, hr⟩ := exec_check_ok.mp h
  cases hr
  obtain ⟨-, hm⟩ := check_ok.mp hm
  obtain ⟨source, hsrc, hm⟩ := bind_ok.mp hm
  obtain ⟨log, hf, hm⟩ := bind_ok.mp hm
  obtain ⟨inbox, -, hh⟩ := bind_ok.mp hm
  cases hh
  exact ⟨source, okOr_ok.mp hsrc, hf⟩

/-! ## After a crash -/

/-- Exactly if no compaction is open between two turns, a repair of a restored log succeeds, keeps
the events and leaves nothing open, a second one does nothing, and a turn can be started.  In the
child of a fork a turn can be started exactly if its seed does not end inside a compaction. -/
theorem repair_makes_usable_iff {header : SessionHeader} {events : List SessionEvent}
    {log : SessionLog} (h : SessionLog.restore header events = .ok log) :
    ((∃ repaired, repairInterruptedTail.exec log = (.ok log.state.openTurn.isSome, repaired) ∧
      log.events <+: repaired.events ∧ repaired.state.openTurn = none ∧
      repaired.state.openStep = none ∧ repaired.state.pendingApprovals = ∅ ∧
      repaired.state.compaction = none ∧
      repairInterruptedTail.exec repaired = (.ok false, repaired) ∧
      ∀ clock : Clock, 0 ≤ clock repaired.events.length → log.state.lastTurn + 1 < 2 ^ 64 →
        ∃ next, (startTurn clock).exec repaired = (.ok (log.state.lastTurn + 1), next)) ↔
      (log.state.compaction.isSome = true → log.state.openTurn.isSome = true)) ∧
    ∀ (store store' : SessionStore) (sourceId childId : SessionId) (boundary : Option ℕ)
      (createdAtMs : ℤ) (source child : SessionHandle),
      store.sessions[sourceId]? = some source →
      (SessionStore.fork sourceId boundary childId createdAtMs).exec store =
        (.ok child, store') →
      ∀ clock : Clock, 0 ≤ clock child.log.events.length →
        child.log.state.lastTurn + 1 < 2 ^ 64 →
        ((∃ next, (SessionHandle.startTurn clock).exec child =
          (.ok (child.log.state.lastTurn + 1), next)) ↔
          leavesCompactionOpen (source.log.eventsUpTo boundary) = false) := by
  have hlog := restorable_of_restore h
  constructor
  · rcases ht : log.state.openTurn with _ | turn
    · have he := exec_repair_of_closed ht
      simp only [Option.isSome_none, Bool.false_eq_true, imp_false, Bool.not_eq_true,
        Option.isSome_eq_false_iff, Option.isNone_iff_eq_none]
      constructor
      · rintro ⟨repaired, hre, -, -, -, -, hn, -⟩
        cases he.symm.trans hre
        exact hn
      intro hn
      have hstep : log.state.openStep = none := by
        by_contra hs
        have ho := hlog.coherent.step_turn (Option.isSome_iff_ne_none.mpr hs)
        rw [ht] at ho
        cases ho
      have ha : log.state.pendingApprovals = ∅ := by
        refine Std.ExtTreeSet.eq_empty_iff_forall_not_mem.mpr fun id hid => ?_
        have ho := (hlog.coherent.approvals id hid).1
        rw [ht] at ho
        cases ho
      refine ⟨log, he, List.prefix_rfl, ht, hstep, ha, hn, he, ?_⟩
      intro clock hc hro
      obtain ⟨next, -, hne⟩ := exec_startTurn ht hn hro hc
      exact ⟨next, hne⟩
    · refine iff_of_true ?_ fun _ => rfl
      obtain ⟨repaired, he, hr⟩ := exec_repair_of_open hlog ht
      obtain ⟨timeMs, before, after, hev, -⟩ := hr.events
      refine ⟨repaired, he, ?_, hr.openTurn, hr.openStep, hr.approvals,
        hr.compaction, exec_repair_of_closed hr.openTurn, ?_⟩
      · rw [hev, List.append_assoc, List.append_assoc]
        exact List.prefix_append _ _
      · intro clock hc hro
        rw [← hr.lastTurn] at hro ⊢
        obtain ⟨next, -, hne⟩ :=
          exec_startTurn hr.openTurn hr.compaction hro hc
        exact ⟨next, hne⟩
  · intro store store' sourceId childId boundary createdAtMs source child hso hf clock hc hro
    obtain ⟨source', hso', hl⟩ := SessionStore.fork_ok hf
    cases hso.symm.trans hso'
    obtain ⟨ht, hn⟩ := fork_closed hl
    rw [← hn]
    constructor
    · rintro ⟨next, hst⟩
      exact compaction_of_startTurn hst
    · exact fun hn => exec_handle_startTurn ht hn hro hc

/-! ## Small logs -/

/-- A log that was cut inside a step. -/
def SessionLog.cut : SessionLog :=
  { SessionLog.sample with
    events := [⟨0, 0, .turnStart 1⟩, ⟨1, 0, .stepStart 1 1⟩]
    state := { lastTurn := 1, openTurn := some 1, lastStep := 1, openStep := some 1 } }

def SessionStore.ofLog (log : SessionLog) : SessionStore where
  sessions := (∅ : BTreeMap SessionId SessionHandle).insert log.header.id
    { id := log.header.id, log, inbox := {} }

def SessionHeader.childOf (log : SessionLog) : SessionHeader :=
  { log.header with
    id := ⟨"child", by decide⟩
    parentSession := some log.header.id
    seedLength := some log.events.length }

def SessionHandle.childOf (log : SessionLog) : SessionHandle where
  id := ⟨"child", by decide⟩
  log := { log with header := .childOf log }
  inbox := {}

/-- A log that was cut inside a step can be repaired, and a new session can be forked; both can
start a turn afterwards. -/
theorem repair_makes_usable_iff_cut :
    SessionLog.restore SessionLog.sample.header SessionLog.cut.events = .ok .cut ∧
    (∃ repaired, repairInterruptedTail.exec SessionLog.cut = (.ok true, repaired) ∧
      ∃ next, (SessionLog.startTurn fun _ => 0).exec repaired = (.ok 2, next)) ∧
    ∃ next, (SessionHandle.startTurn fun _ => 0).exec (.childOf .sample) = (.ok 1, next) := by
  have hr : SessionLog.restore SessionLog.sample.header SessionLog.cut.events = .ok .cut := rfl
  obtain ⟨hrep, hfo⟩ := repair_makes_usable_iff hr
  obtain ⟨repaired, he, -, -, -, -, -, -, hst⟩ := hrep.mpr fun _ => rfl
  refine ⟨hr, ⟨repaired, he, hst (fun _ => 0) le_rfl (by decide)⟩, ?_⟩
  exact (hfo (.ofLog .sample) _ ⟨"session", by decide⟩ ⟨"child", by decide⟩ none 0 _ _
    Std.ExtTreeMap.getElem?_insert_self rfl (fun _ => 0) le_rfl (by decide)).mpr rfl

/-- A log that was cut inside a compaction that no turn owns. -/
def SessionLog.dangling : SessionLog :=
  { SessionLog.sample with
    events := [⟨0, 0, .userMessage .sample ⟨.append, none⟩⟩,
      ⟨1, 0, .compactionStart { compactionId := "c", sourceCommandId := none, turn := none }⟩]
    state := { compaction := some ⟨"c", none, none, 1, .started⟩ }
    surface := ⟨[0], 0⟩ }

/-- The repair leaves the compaction open, and neither the session nor a fork of it can start a
turn. -/
theorem repair_leaves_compaction_open :
    SessionLog.restore SessionLog.sample.header SessionLog.dangling.events = .ok .dangling ∧
    repairInterruptedTail.exec SessionLog.dangling = (.ok false, .dangling) ∧
    SessionLog.dangling.state.compaction.isSome = true ∧
    ((SessionLog.startTurn fun _ => 0).exec SessionLog.dangling).1 =
      .error .compactionCrossesTurnBoundary ∧
    ((SessionStore.fork ⟨"session", by decide⟩ none ⟨"child", by decide⟩ 0).exec
      (.ofLog .dangling)).1 = .ok (.childOf .dangling) ∧
    ((SessionHandle.startTurn fun _ => 0).exec (.childOf .dangling)).1 =
      .error .compactionCrossesTurnBoundary :=
  ⟨rfl, rfl, rfl, rfl, rfl, rfl⟩

end Hartevo.Cordis
