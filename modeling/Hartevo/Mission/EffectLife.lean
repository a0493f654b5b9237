import Hartevo.Mission.Records

/-!
# The life of an effect

An effect keeps its position in the Mission and moves from status to status.  The rules of this
module follow one effect through a run: at its position (`effect_step`), as the first one with its
id (`firstEffect_step`), and as one of all (`forall_effects_run`).

The result is that an effect is dispatched at most once (`dispatch_at_most_once`): a dispatch takes
it out of the status `approved`, and nothing leads back there.  A status that is a result is never
left.
-/

namespace Hartevo

open Command List

/-- The statuses that end the life of an effect. -/
def EffectStatus.isResult : EffectStatus → Bool
  | .verified | .failed | .rejected | .cancelled | .expired | .reconciled | .deadLetter => true
  | .proposed | .approved | .executing | .receiptRecorded | .verificationRequired => false

lemma EffectStatus.isPending_of_isResult {st : EffectStatus} (h : st.isResult = true) :
    st.isPending = false := by
  cases st <;> first | rfl | cases h

/-- The effect has not been dispatched yet. -/
def EffectStatus.isUndispatched : EffectStatus → Bool
  | .proposed | .approved => true
  | _ => false

variable {enc : MissionEncoding} {cmd : MissionCommand} {e e' : Effect}

namespace EffectMove

lemma not_isUndispatched (h : EffectMove enc cmd e e')
    (hb : e.status.isUndispatched = false) : e'.status.isUndispatched = false := by
  cases h with
  | decided hs => rw [hs] at hb; cases hb
  | cancelled => rfl
  | expired => rfl
  | begun => rfl
  | received => rfl
  | recovered => rfl
  | @reconciled _ durableState => cases durableState <;> rfl
  | uncertain => rfl
  | failed => rfl
  | @verified _ verification => cases verification.status <;> simp <;> rfl

lemma approval_of_approved (h : EffectMove enc cmd e e') (ha : e'.status = .approved) :
    ∃ apr, e'.approval = some apr ∧ apr.decision = .approved := by
  cases h with
  | @decided _ apr =>
    refine ⟨apr, rfl, ?_⟩
    cases hdec : apr.decision with
    | approved => rfl
    | rejected => simp [hdec] at ha
  | cancelled | expired | begun | received | recovered | uncertain | failed => cases ha
  | @reconciled _ durableState => cases durableState <;> cases ha
  | @verified _ verification =>
    cases hres : verification.status <;> simp [hres, VerificationStatus.effectStatus] at ha

end EffectMove

namespace Mission

variable {m : Mission} {i : ℕ} {id eid : EffectId} {P : Effect → Prop}
  {evs : List (Event Mission MissionCommand (Except MissionError Unit))}

/-! ## Following an effect -/

/-- What one command does to the effects: nothing, one more, or one moves. -/
lemma effects_step (enc : MissionEncoding) (m : Mission) (cmd : MissionCommand) :
    (m.step enc cmd).2.effects = m.effects ∨ (∃ spec now, cmd = .proposeEffect spec now ∧
        m.checkProposeEffect spec now = .ok () ∧
        (m.step enc cmd).2.effects = m.effects ++ [m.proposedEffect spec]) ∨
      ∃ e e', m.effects.find? (·.id == e'.id) = some e ∧ EffectMove enc cmd e e' ∧
        (m.step enc cmd).2.effects = replaceFirst (·.id == e'.id) e' m.effects := by
  have hstep := records_step enc m cmd
  have he : (m.step enc cmd).2.effects = (m.step enc cmd).2.records.effects := rfl
  rw [he]
  generalize (m.step enc cmd).2.records = next at hstep
  cases hstep with
  | kept | researchStarted | cycleStarted | taskBegun | evidenceRecorded | workProductRecorded
  | workProductRevised => exact .inl rfl
  | effectProposed hc => exact .inr (Or.inl ⟨_, _, rfl, hc, rfl⟩)
  | effectMoved hf hm => exact .inr (Or.inr ⟨_, _, hf, hm, rfl⟩)

/-- At its position, an effect stays as it is or moves. -/
lemma effect_step (enc : MissionEncoding) (cmd : MissionCommand) (hat : m.effects[i]? = some e) :
    ∃ e', (m.step enc cmd).2.effects[i]? = some e' ∧ (e' = e ∨ EffectMove enc cmd e e') := by
  rcases effects_step enc m cmd with hs | ⟨spec, now, -, -, ha⟩ | ⟨known, moved, hfo, hm, hw⟩
  · rw [hs]
    exact ⟨e, hat, Or.inl rfl⟩
  · rw [ha, List.getElem?_append_left (List.getElem?_eq_some_iff.mp hat).1]
    exact ⟨e, hat, Or.inl rfl⟩
  · rw [hw]
    obtain ⟨e', he', hc⟩ := getElem?_replaceFirst (p := (·.id == moved.id)) (a := moved) hat
    refine ⟨e', he', hc.imp_right ?_⟩
    rintro ⟨rfl, hf⟩
    obtain rfl := Option.mem_unique hfo hf
    exact hm

/-- The first effect with an id stays the first one with it, as it is or moved. -/
lemma firstEffect_step (hf : m.effects.find? (·.id == id) = some e) :
    ∃ e', (m.step enc cmd).2.effects.find? (·.id == id) = some e' ∧
      (e' = e ∨ EffectMove enc cmd e e') := by
  have hid := find?_some hf
  rcases effects_step enc m cmd with hs | ⟨spec, now, -, -, ha⟩ | ⟨known, moved, hfo, hmo, hw⟩
  · rw [hs]
    exact ⟨e, hf, Or.inl rfl⟩
  · rw [ha, find?_append, hf]
    exact ⟨e, rfl, Or.inl rfl⟩
  · rw [hw]
    have hk := find?_some hfo
    by_cases hm : moved.id = id
    · rw [hm] at hfo hk ⊢
      obtain rfl := Option.mem_unique hfo hf
      exact ⟨moved, find?_replaceFirst hfo (by simp [hm]), Or.inr hmo⟩
    · have ho : (known.id == id) = false := by
        rw [beq_iff_eq.mp hk]
        simpa using hm
      rw [find?_replaceFirst_of_not hfo (by simpa using hm) ho]
      exact ⟨e, hf, Or.inl rfl⟩

/-- A property that a proposed effect has, and that every move keeps, is kept for all effects. -/
lemma forall_effects_step (hp : ∀ m spec, P (proposedEffect m spec))
    (hmo : ∀ e e', EffectMove enc cmd e e' → P e → P e') (hall : ∀ e ∈ m.effects, P e) :
    ∀ e ∈ (m.step enc cmd).2.effects, P e := by
  intro e he
  rcases effects_step enc m cmd with hs | ⟨spec, now, -, -, ha⟩ | ⟨known, moved, hf, hm, hw⟩
  · rw [hs] at he
    exact hall e he
  · rw [ha, mem_append, mem_singleton] at he
    rcases he with he | rfl
    · exact hall e he
    · exact hp m spec
  · rw [hw] at he
    rcases mem_replaceFirst he with rfl | he
    · exact hmo known e hm (hall known (mem_of_find?_eq_some hf))
    · exact hall e he

lemma effects_eq_nil (hs : m.IsCompiled enc) : m.effects = [] := by
  obtain ⟨_, _, _, _, _, _, _, rfl⟩ := hs.eq_initial
  rfl

/-- Such a property is one of every effect in a run. -/
lemma forall_effects_run (hp : ∀ m spec, P (proposedEffect m spec))
    (hm : ∀ cmd e e', EffectMove enc cmd e e' → P e → P e')
    (hs : m.IsCompiled enc) (cmds : List MissionCommand) :
    ∀ e ∈ (run (step enc) m cmds).effects, P e := by
  refine run_invariant (step enc) (I := fun m => ∀ e ∈ m.effects, P e) ?_ ?_ cmds
  · intro s cmd hall
    exact forall_effects_step hp (hm cmd) hall
  · rw [effects_eq_nil hs]
    exact fun e he => absurd he not_mem_nil

/-- A result stays what it is. -/
lemma result_step (hat : m.effects[i]? = some e)
    (hres : e.status.isResult = true) : (m.step enc cmd).2.effects[i]? = some e := by
  obtain ⟨e', he', rfl | hm⟩ := effect_step enc cmd hat
  · exact he'
  · have hp := hm.isPending
    rw [EffectStatus.isPending_of_isResult hres] at hp
    cases hp

/-! ## Dispatches -/

/-- The first effect with the id is approved, by an approval for the effect as it is, and neither of
the two is over. -/
def MayDispatch (enc : MissionEncoding) (m : Mission) (effectId : EffectId) (now : DateTime) :
    Prop :=
  ∃ e approval, m.effects.find? (·.id == effectId) = some e ∧ e.status = .approved ∧
    e.approval = some approval ∧ approval.decision = .approved ∧
    approval.scopeDigest = e.approvalDigest enc ∧ now < approval.validUntil ∧
    now < e.expiresAt

/-- The id of the effect that an event dispatched. -/
def dispatchedBy (event : Event Mission MissionCommand (Except MissionError Unit)) :
    Option EffectId :=
  match event.input, event.output with
  | .beginEffect effectId _, .ok () => some effectId
  | _, _ => none

lemma dispatchedBy_eq_some {ev : Event Mission MissionCommand (Except MissionError Unit)} :
    dispatchedBy ev = some id ↔ (∃ now, ev.input = .beginEffect id now) ∧ ev.output = .ok () := by
  obtain ⟨before, input, output, after⟩ := ev
  rcases output with error | ⟨⟩ <;> cases input <;> simp [dispatchedBy]

lemma beginEffect_ok {now : DateTime} (hok : (m.step enc (.beginEffect eid now)).1 = .ok ()) :
    ∃ e approval, m.effects.find? (·.id == eid) = some e ∧ e.status = .approved ∧
      e.approval = some approval ∧ approval.scopeDigest = e.approvalDigest enc ∧
      now < approval.validUntil ∧ now < e.expiresAt ∧
      (m.step enc (.beginEffect eid now)).2.effects =
        replaceFirst (·.id == eid) { e with status := .executing } m.effects := by
  have he : m.step enc (.beginEffect eid now) =
      (.ok (), (m.step enc (.beginEffect eid now)).2) := Prod.ext hok rfl
  obtain ⟨⟨e, approval⟩, hc, h⟩ := exec_check_ok.mp he
  obtain ⟨hf, hst, ha, hs⟩ := checkBeginEffect_ok hc
  have hid := find?_some hf
  dsimp only at h
  split at h
  · cases h
  · next hv =>
    split at h
    · cases h
    · next ht =>
      rw [exec_modify, Prod.mk.injEq] at h
      refine ⟨e, approval, hf, hst, ha, hs, not_le.mp hv, not_le.mp ht, ?_⟩
      rw [← h.2]
      simp only [touch, writeEffect, beq_iff_eq.mp hid]

/-- The dispatched ids are distinct, and none of their effects can be dispatched again. -/
def DispatchedOnce (events : List (Event Mission MissionCommand (Except MissionError Unit)))
    (m : Mission) : Prop :=
  (events.filterMap dispatchedBy).Nodup ∧
    ∀ id ∈ events.filterMap dispatchedBy, ∃ e, m.effects.find? (·.id == id) = some e ∧
      e.status.isUndispatched = false

lemma DispatchedOnce.kept
    (h : DispatchedOnce evs m) (enc : MissionEncoding) (cmd : MissionCommand) :
    DispatchedOnce evs (m.step enc cmd).2 := by
  refine ⟨h.1, fun id hid => ?_⟩
  obtain ⟨e, hf, hs⟩ := h.2 id hid
  obtain ⟨e', hf', rfl | hm⟩ := firstEffect_step hf
  · exact ⟨e', hf', hs⟩
  · exact ⟨e', hf', hm.not_isUndispatched hs⟩

lemma DispatchedOnce.step (h : DispatchedOnce evs m) (cmd : MissionCommand) :
    DispatchedOnce (evs ++ [eventOf (step enc) m cmd])
      (m.step enc cmd).2 := by
  have hk := h.kept enc cmd
  cases hd : dispatchedBy (eventOf (Mission.step enc) m cmd) with
  | none =>
    unfold DispatchedOnce
    rw [filterMap_append, filterMap_cons_none hd, filterMap_nil, append_nil]
    exact hk
  | some id =>
    -- Only a dispatch that succeeded counts: it found its effect approved.
    obtain ⟨⟨now, hi⟩, hok⟩ := dispatchedBy_eq_some.mp hd
    dsimp only [eventOf] at hi hok
    subst hi
    obtain ⟨e, approval, hf, hst, -, -, -, -, he⟩ := beginEffect_ok hok
    have hid := find?_some hf
    have hnew : id ∉ evs.filterMap dispatchedBy := by
      intro hmem
      obtain ⟨known, hfi, hbe⟩ := h.2 id hmem
      obtain rfl := Option.mem_unique hf hfi
      rw [hst] at hbe
      cases hbe
    unfold DispatchedOnce
    rw [filterMap_append, filterMap_cons_some hd, filterMap_nil]
    refine ⟨?_, fun other ho => ?_⟩
    · rw [nodup_append]
      refine ⟨h.1, nodup_singleton id, ?_⟩
      rintro a ha b hb rfl
      rw [mem_singleton] at hb
      exact hnew (hb ▸ ha)
    · rcases mem_append.mp ho with hold | hs
      · exact hk.2 other hold
      · rw [mem_singleton] at hs
        subst hs
        refine ⟨{ e with status := .executing }, ?_, rfl⟩
        rw [he]
        exact find?_replaceFirst hf hid

/-- In a run from a compiled Mission, no effect id is dispatched twice; every dispatch finds the
first effect with the id approved and in time; and a result is never left. -/
theorem dispatch_at_most_once (enc : MissionEncoding) {m : Mission}
    (hstart : m.IsCompiled enc) (commands : List MissionCommand) :
    ((trace (Mission.step enc) m commands).filterMap dispatchedBy).Nodup ∧
      (∀ event ∈ trace (Mission.step enc) m commands, ∀ effectId now,
        event.input = .beginEffect effectId now → event.output = .ok () →
          event.before.MayDispatch enc effectId now) ∧
      ∀ earlier later, commands = earlier ++ later → ∀ (i : ℕ) (e : Effect),
        (run (Mission.step enc) m earlier).effects[i]? = some e → e.status.isResult = true →
          (run (Mission.step enc) m commands).effects[i]? = some e := by
  refine ⟨?_, ?_, ?_⟩
  · have hin : DispatchedOnce [] m := ⟨nodup_nil, fun id hid => absurd hid not_mem_nil⟩
    exact (trace_invariant (Mission.step enc) (J := DispatchedOnce) hin
      (fun events t command h => h.step command) commands).1
  · intro event he effectId now hi hok
    obtain ⟨earlier, command, later, -, rfl⟩ := (mem_trace_iff (Mission.step enc)).mp he
    dsimp only [eventOf] at hi hok ⊢
    subst hi
    obtain ⟨e, approval, hf, hs, ha, hsc, hv, ht, -⟩ := beginEffect_ok hok
    have hd := forall_effects_run (P := fun e : Effect => e.status = .approved →
        ∃ approval, e.approval = some approval ∧ approval.decision = .approved)
      (fun _ _ hp => by cases hp)
      (fun _ _ _ hm _ hap => hm.approval_of_approved hap) hstart earlier e
      (mem_of_find?_eq_some hf) hs
    obtain ⟨known, hk, hd⟩ := hd
    obtain rfl := Option.mem_unique ha hk
    exact ⟨e, approval, hf, hs, ha, hd, hsc, hv, ht⟩
  · rintro earlier later rfl i e hat hr
    rw [run_append]
    exact run_invariant (Mission.step enc) (I := fun m => m.effects[i]? = some e)
      (fun s command h => result_step h hr) hat later

/-- A run that tries to dispatch its effect twice. -/
def dispatchRun : List MissionCommand :=
  [.startResearch [] 1, .proposeEffect .sample 2, .approveEffect "effect" .sample,
    .beginEffect "effect" 4, .beginEffect "effect" 5]

/-- The run dispatches its effect once. -/
theorem dispatch_at_most_once_dispatchRun :
    IsCompiled .sample sample ∧
      (trace (Mission.step .sample) sample dispatchRun).filterMap dispatchedBy = ["effect"] ∧
      ((trace (Mission.step .sample) sample dispatchRun).filterMap dispatchedBy).Nodup :=
  ⟨isCompiled_sample .sample, by decide +kernel,
    (dispatch_at_most_once .sample (isCompiled_sample .sample) dispatchRun).1⟩

end Mission

end Hartevo
