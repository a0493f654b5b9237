import Hartevo.Session.Store

/-!
# Sessions: replay

A log that grew event by event and a log that was read back from its events go through the same
checks in the same order.  So every log that the commands can reach is the one that `restore` makes
of its header and its events, and the same holds of the log at every earlier point after its seed.

`replay_induction` is the rule for everything that is proved about restorable logs: a property of
the events, the state and the surface that one more event keeps holds of all of them.  `Grows`
relates two logs of which the second is the first with further accepted events, and
`SessionCommand.growsAt` says once for all commands that they either fail and change nothing, or
succeed and let the log grow.
-/

namespace Hartevo.Cordis

open Command List

namespace SessionLog

/-! ## Replay -/

variable {log next middle : SessionLog} {kind : SessionEventKind} {timeMs : ℤ}
  {header : SessionHeader} {events prior earlier : List SessionEvent} {ev : SessionEvent}
  {state st' : SessionState} {surf surface' : SessionSurfaceState}

lemma replayEvent_ok :
    replayEvent prior state surf ev = .ok (st', surface') ↔
      ev.seq = prior.length ∧ 0 ≤ ev.timeMs ∧ state.apply ev.seq ev.kind = .ok st' ∧
        ∃ plan, surf.plan ev.seq ev.kind prior = .ok plan ∧ surface' = surf.apply plan := by
  simp only [replayEvent, bind_ok, passed, exists_const, pure, Except.pure, Except.ok.injEq,
    Prod.mk.injEq]
  constructor
  · rintro ⟨hseq, ht, next, ha, plan, hp, rfl, rfl⟩
    exact ⟨hseq, ht, ha, plan, hp, rfl⟩
  · rintro ⟨hseq, ht, ha, plan, hp, rfl⟩
    exact ⟨hseq, ht, st', ha, plan, hp, rfl, rfl⟩

lemma replayFrom_append (prior : List SessionEvent) (st : SessionState)
    (surf : SessionSurfaceState) (earlier later : List SessionEvent) :
    replayFrom prior st surf (earlier ++ later) =
      replayFrom prior st surf earlier >>= fun reached =>
        replayFrom (prior ++ earlier) reached.1 reached.2 later := by
  induction earlier generalizing prior st surf with
  | nil =>
    rw [nil_append, append_nil]
    rfl
  | cons ev earlier ih =>
    rw [cons_append, replayFrom, replayFrom, bind_assoc]
    refine bind_congr ?_
    rintro ⟨st, surf⟩
    change replayFrom _ _ _ (earlier ++ later) = _
    rw [ih, append_assoc, singleton_append]

lemma replay_concat (evs : List SessionEvent) (ev : SessionEvent) : replay (evs ++ [ev]) =
      replay evs >>= fun reached => replayEvent evs reached.1 reached.2 ev := by
  rw [replay, replayFrom_append, replay, nil_append]
  refine bind_congr fun reached => ?_
  rw [replayFrom]
  rcases replayEvent evs reached.1 reached.2 ev with e | ⟨state, surf⟩ <;> rfl

lemma replay_concat_ok : replay (events ++ [ev]) = .ok (st', surface') ↔
      ∃ state surf, replay events = .ok (state, surf) ∧
        replayEvent events state surf ev = .ok (st', surface') := by
  rw [replay_concat, bind_ok]
  constructor
  · rintro ⟨⟨state, surf⟩, hr, he⟩
    exact ⟨state, surf, hr, he⟩
  · rintro ⟨state, surf, hr, he⟩
    exact ⟨(state, surf), hr, he⟩

lemma exists_replay_of_prefix (he : earlier <+: events) (h : replay events = .ok (state, surf)) :
    ∃ st' surface', replay earlier = .ok (st', surface') := by
  obtain ⟨later, rfl⟩ := he
  rw [replay, replayFrom_append, bind_ok] at h
  obtain ⟨⟨st', surface'⟩, he, -⟩ := h
  exact ⟨st', surface', he⟩

/-- What holds of the empty log and is kept by every accepted event holds of every log that can be
replayed. -/
lemma replay_induction {I : List SessionEvent → SessionState → SessionSurfaceState → Prop}
    (he : I [] {} {})
    (hstep : ∀ events state surf ev st' surface', replay events = .ok (state, surf) →
      I events state surf → replayEvent events state surf ev = .ok (st', surface') →
        I (events ++ [ev]) st' surface')
    (h : replay events = .ok (state, surf)) : I events state surf := by
  induction events using reverseRecOn generalizing state surf with
  | nil =>
    cases h
    exact he
  | append_singleton events ev ih =>
    obtain ⟨st', surface', hb, hev⟩ := replay_concat_ok.mp h
    exact hstep _ _ _ _ _ _ hb (ih hb) hev

/-- The events of a log that can be replayed are numbered from zero. -/
lemma seq_eq_of_replay {i : ℕ} (h : replay events = .ok (state, surf)) (he : events[i]? = some ev) :
    ev.seq = i := by
  revert he
  refine replay_induction (I := fun events _ _ => events[i]? = some ev → ev.seq = i)
    (fun he => ?_) (fun events state surf last st' surface' _ ih hl he => ?_) h
  · cases he
  · rw [getElem?_append] at he
    split at he
    · exact ih he
    · next hlen =>
      rw [getElem?_singleton] at he
      split at he
      · next hi =>
        cases he
        rw [(replayEvent_ok.mp hl).1]
        omega
      · cases he

/-! ## Restored logs -/

lemma restore_ok : restore header events = .ok log ↔
      validateHeader header events.length = .ok () ∧
        replay events = .ok (log.state, log.surface) ∧ log.header = header ∧
        log.events = events := by
  rw [restore, check_ok, bind_ok]
  constructor
  · rintro ⟨hh, ⟨state, surf⟩, hr, hlog⟩
    cases hlog
    exact ⟨hh, hr, rfl, rfl⟩
  · rintro ⟨hh, hr, rfl, rfl⟩
    exact ⟨hh, _, hr, rfl⟩

lemma validateHeader_ok {eventCount : ℕ} : validateHeader header eventCount = .ok () ↔
      header.version = sessionFormatVersion ∧ 0 ≤ header.createdAtMs ∧
        header.seedLength.getD 0 ≤ eventCount := by
  simp only [validateHeader, check_ok, passed]
  rcases header.seedLength with _ | seedLength <;> simp

/-- The log is the one that its header and its events are restored to. -/
def Restorable (log : SessionLog) : Prop :=
  restore log.header log.events = .ok log

lemma restorable_iff : log.Restorable ↔ validateHeader log.header log.events.length = .ok () ∧
      replay log.events = .ok (log.state, log.surface) := by
  rw [Restorable, restore_ok]
  exact ⟨fun h => ⟨h.1, h.2.1⟩, fun h => ⟨h.1, h.2, rfl, rfl⟩⟩

lemma restorable_of_restore (h : restore header events = .ok log) : log.Restorable := by
  obtain ⟨hh, hr, rfl, rfl⟩ := restore_ok.mp h
  exact restorable_iff.mpr ⟨hh, hr⟩

/-! ## Accepted events -/

lemma accept_ok : log.accept kind timeMs = .ok next ↔
      next.header = log.header ∧ next.events = log.events ++ [⟨log.events.length, timeMs, kind⟩] ∧
        replayEvent log.events log.state log.surface ⟨log.events.length, timeMs, kind⟩ =
          .ok (next.state, next.surface) := by
  rw [replayEvent_ok]
  simp only [accept, bind_ok, passed, exists_const, pure, Except.pure, Except.ok.injEq]
  constructor
  · rintro ⟨ht, state, ha, plan, hp, rfl⟩
    exact ⟨rfl, rfl, trivial, ht, ha, plan, hp, rfl⟩
  · rintro ⟨hh, he, -, ht, ha, plan, hp, hs⟩
    refine ⟨ht, next.state, ha, plan, hp, ?_⟩
    rcases next with ⟨header, events, state, surf⟩
    cases hh
    cases he
    cases hs
    rfl

lemma events_of_accept (h : log.accept kind timeMs = .ok next) :
    next.events = log.events ++ [⟨log.events.length, timeMs, kind⟩] :=
  (accept_ok.mp h).2.1

lemma Restorable.accept (hlog : log.Restorable) (h : log.accept kind timeMs = .ok next) :
    next.Restorable := by
  obtain ⟨hh, he, hev⟩ := accept_ok.mp h
  obtain ⟨hv, hr⟩ := restorable_iff.mp hlog
  rw [validateHeader_ok] at hv
  obtain ⟨hve, hc, hs⟩ := hv
  refine restorable_iff.mpr ⟨?_, ?_⟩
  · rw [hh, he, length_append, validateHeader_ok]
    exact ⟨hve, hc, Nat.le_add_right_of_le hs⟩
  · rw [he, replay_concat_ok]
    exact ⟨log.state, log.surface, hr, hev⟩

lemma exec_appendAt (kind : SessionEventKind) (timeMs : ℤ) (log : SessionLog) :
    (∃ e, log.accept kind timeMs = .error e ∧ (appendAt kind timeMs).exec log = (.error e, log)) ∨
      ∃ next, log.accept kind timeMs = .ok next ∧
        (appendAt kind timeMs).exec log = (.ok ⟨log.events.length, timeMs, kind⟩, next) := by
  rcases ha : log.accept kind timeMs with e | next
  · exact .inl ⟨e, rfl, exec_check_bind_of_error ha⟩
  · refine .inr ⟨next, rfl, ?_⟩
    have hl : okOr next.events.getLast? SessionError.eventSequenceOverflow =
        .ok ⟨log.events.length, timeMs, kind⟩ := by
      rw [events_of_accept ha, getLast?_concat, okOr_ok]
    refine (exec_check_bind_of_ok (g := fun log : SessionLog => log.accept kind timeMs) ha).trans ?_
    change (okOr next.events.getLast? SessionError.eventSequenceOverflow, next) = _
    rw [hl]

lemma exec_appendAt_of_accept (h : log.accept kind timeMs = .ok next) :
    (appendAt kind timeMs).exec log = (.ok ⟨log.events.length, timeMs, kind⟩, next) := by
  rcases exec_appendAt kind timeMs log with ⟨e, he, -⟩ | ⟨next', hn, hex⟩
  · rw [h] at he
    cases he
  · rw [h] at hn
    cases hn
    exact hex

/-! ## Growth -/

section Growth

variable {P : SessionLog → SessionEventKind → Prop} {α β : Type}
  {c : Command SessionLog SessionError α} {k : α → Command SessionLog SessionError β}
  {g : SessionLog → Except SessionError α}

/-- The second log is the first one with further events, each of which satisfied `P` when it was
accepted. -/
def Grows (P : SessionLog → SessionEventKind → Prop) : SessionLog → SessionLog → Prop :=
  Relation.ReflTransGen fun log next =>
    ∃ kind timeMs, P log kind ∧ log.accept kind timeMs = .ok next

lemma Grows.trans (h : Grows P log middle) (h' : Grows P middle next) : Grows P log next :=
  Relation.ReflTransGen.trans h h'

lemma Grows.restorable (h : Grows P log next) (hlog : log.Restorable) : next.Restorable := by
  induction h with
  | refl => exact hlog
  | tail _ hl ih =>
    obtain ⟨kind, timeMs, -, ha⟩ := hl
    exact ih.accept ha

/-- The command is refused and leaves the log, or it appends exactly one event. -/
def AppendsAt (P : SessionLog → SessionEventKind → Prop) (c : Command SessionLog SessionError α)
    (log : SessionLog) : Prop :=
  Refuses c log ∨ ∃ a kind timeMs next, P log kind ∧ log.accept kind timeMs = .ok next ∧
    c.exec log = (.ok a, next)

/-- The command is refused and leaves the log, or it succeeds and lets the log grow. -/
def GrowsAt (P : SessionLog → SessionEventKind → Prop) (c : Command SessionLog SessionError α)
    (log : SessionLog) : Prop :=
  Refuses c log ∨ ∃ a next, c.exec log = (.ok a, next) ∧ Grows P log next

/-- When the command succeeds, it has let the log grow. -/
def GrowsIfOk (P : SessionLog → SessionEventKind → Prop) (c : Command SessionLog SessionError α)
    (log : SessionLog) : Prop :=
  ∀ a next, c.exec log = (.ok a, next) → Grows P log next

lemma appendsAt_appendAt (hP : ∀ next, log.accept kind timeMs = .ok next → P log kind) :
    AppendsAt P (appendAt kind timeMs) log := by
  rcases exec_appendAt kind timeMs log with ⟨e, -, he⟩ | ⟨next, ha, he⟩
  · exact .inl ⟨e, he⟩
  · exact .inr ⟨_, kind, timeMs, next, hP next ha, ha, he⟩

lemma exec_commit (c : Command SessionLog SessionError α) (log : SessionLog) :
    (commit c).exec log = (c >>= fun result => check (fun next => do
        let _ ← okOr (next.events[log.events.length]?.filter fun ev =>
          ev.seq == log.events.length) SessionError.eventSequenceOverflow
        rejectIf (next.events.length != log.events.length + 1)
          SessionError.eventSequenceOverflow) >>= fun _ => pure result).exec log := rfl

lemma exec_commit_of_accept {a : α} (ha : log.accept kind timeMs = .ok next)
    (hex : c.exec log = (.ok a, next)) : (commit c).exec log = (.ok a, next) := by
  have he := events_of_accept ha
  have hla : next.events[log.events.length]? = some ⟨log.events.length, timeMs, kind⟩ := by
    rw [he, getElem?_concat_length]
  have hl : next.events.length = log.events.length + 1 := by
    rw [he, length_append, length_singleton]
  rw [exec_commit, exec_bind_of_ok hex]
  refine (exec_check_bind_of_ok (a := ()) ?_).trans rfl
  refine bind_ok.mpr ⟨⟨log.events.length, timeMs, kind⟩, ?_, ?_⟩
  · rw [okOr_ok, hla]
    simp
  · rw [rejectIf_ok, hl]
    simp

namespace AppendsAt

lemma check_bind (h : ∀ a, g log = .ok a → AppendsAt P (k a) log) :
    AppendsAt P (check g >>= k) log := by
  rcases hg : g log with e | a
  · exact .inl ⟨e, exec_check_bind_of_error hg⟩
  · rcases h a hg with ⟨e, he⟩ | ⟨b, kind, timeMs, next, hP, ha, he⟩
    · exact .inl ⟨e, (exec_check_bind_of_ok hg).trans he⟩
    · exact .inr ⟨b, kind, timeMs, next, hP, ha, (exec_check_bind_of_ok hg).trans he⟩

lemma bind_pure {f : α → β} (h : AppendsAt P c log) :
    AppendsAt P (c >>= fun a => pure (f a)) log := by
  rcases h with hr | ⟨a, kind, timeMs, next, hP, ha, he⟩
  · exact .inl hr.bind
  · exact .inr ⟨f a, kind, timeMs, next, hP, ha, exec_bind_of_ok he⟩

lemma map (f : α → β) (h : AppendsAt P c log) : AppendsAt P (f <$> c) log := by
  rw [← bind_pure_comp]
  exact h.bind_pure

lemma commit (h : AppendsAt P c log) : AppendsAt P (commit c) log := by
  rcases h with ⟨e, he⟩ | ⟨a, kind, timeMs, next, hP, ha, he⟩
  · exact .inl ⟨e, by rw [exec_commit, exec_bind_of_error he]⟩
  · exact .inr ⟨a, kind, timeMs, next, hP, ha, exec_commit_of_accept ha he⟩

lemma commitSilently (h : AppendsAt P c log) : AppendsAt P (commitSilently c) log := h.commit.map _

lemma growsAt (h : AppendsAt P c log) : GrowsAt P c log := by
  rcases h with hr | ⟨a, kind, timeMs, next, hP, ha, he⟩
  · exact .inl hr
  · exact .inr ⟨a, next, he, Relation.ReflTransGen.single ⟨kind, timeMs, hP, ha⟩⟩

end AppendsAt

lemma appendsAt_append {clock : Clock}
    (hP : ∀ timeMs next, log.accept kind timeMs = .ok next → P log kind) :
    AppendsAt P (append clock kind) log :=
  AppendsAt.check_bind fun _ _ => appendsAt_appendAt fun next h => hP _ next h

lemma GrowsAt.growsIfOk (h : GrowsAt P c log) : GrowsIfOk P c log := by
  intro a next hex
  rcases h with ⟨e, he⟩ | ⟨b, next', hok, hg⟩
  · rw [hex] at he
    cases he
  · rw [hex] at hok
    cases hok
    exact hg

lemma AppendsAt.growsIfOk (h : AppendsAt P c log) : GrowsIfOk P c log := h.growsAt.growsIfOk

lemma growsIfOk_pure (a : α) (log : SessionLog) :
    GrowsIfOk P (pure a : Command SessionLog SessionError α) log := by
  intro b next he
  cases he
  exact .refl

lemma GrowsIfOk.bind (hc : GrowsIfOk P c log)
    (hk : ∀ a next, c.exec log = (.ok a, next) → GrowsIfOk P (k a) next) :
    GrowsIfOk P (c >>= k) log := by
  intro b next he
  obtain ⟨a, middle, hf, hr⟩ := exec_bind_ok.mp he
  exact (hc a middle hf).trans (hk a middle hf b next hr)

lemma GrowsIfOk.check_bind (hk : ∀ a, g log = .ok a → GrowsIfOk P (k a) log) :
    GrowsIfOk P (check g >>= k) log := by
  intro b next he
  obtain ⟨a, hg, hr⟩ := exec_check_ok.mp he
  exact hk a hg b next hr

lemma growsIfOk_forM {body : α → Command SessionLog SessionError PUnit.{1}}
    {items : List α} (h : ∀ a ∈ items, ∀ log, GrowsIfOk P (body a) log)
    (log : SessionLog) : GrowsIfOk P (items.forM body) log := by
  induction items generalizing log with
  | nil => exact growsIfOk_pure () log
  | cons a items ih =>
    change GrowsIfOk P (body a >>= fun _ => items.forM body) log
    refine (h a mem_cons_self log).bind fun _ next _ => ?_
    exact ih (fun b hb => h b (mem_cons_of_mem _ hb)) next

lemma GrowsIfOk.onCopy (h : GrowsIfOk P c log) : GrowsAt P (onCopy c) log := by
  rcases he : (Command.onCopy c).exec log with ⟨e | a, next⟩
  · have hs := atomicAt_onCopy c log e (by rw [he])
    rw [he] at hs
    obtain rfl : next = log := hs
    exact .inl ⟨e, he⟩
  · exact .inr ⟨a, next, he, h a next (exec_onCopy_ok.mp he)⟩

lemma GrowsAt.check_bind (h : ∀ a, g log = .ok a → GrowsAt P (k a) log) :
    GrowsAt P (check g >>= k) log := by
  rcases hg : g log with e | a
  · exact .inl ⟨e, exec_check_bind_of_error hg⟩
  · rcases h a hg with ⟨e, he⟩ | ⟨b, next, he, hgr⟩
    · exact .inl ⟨e, (exec_check_bind_of_ok hg).trans he⟩
    · exact .inr ⟨b, next, (exec_check_bind_of_ok hg).trans he, hgr⟩

lemma GrowsAt.bind_pure {f : α → β} (h : GrowsAt P c log) :
    GrowsAt P (c >>= fun a => pure (f a)) log := by
  rcases h with hr | ⟨a, next, he, hg⟩
  · exact .inl hr.bind
  · exact .inr ⟨f a, next, exec_bind_of_ok he, hg⟩

lemma GrowsAt.map (f : α → β) (h : GrowsAt P c log) : GrowsAt P (f <$> c) log := by
  rw [← bind_pure_comp]
  exact h.bind_pure

end Growth

end SessionLog

end Hartevo.Cordis
