import Hartevo.MissionLoop.ClaimFencing

/-!
# Evidence is used once

Progress is settled with evidence of the Mission.  The loop remembers every id that was accepted
and refuses it from then on.  The history of runs that it keeps is bounded, so this rests on the set
of accepted ids alone: no command removes an id from it.

`ConsumedOnce` relates that set to the settlements of the run so far, and `ConsumedOnce.step`
extends it by one command.
-/

namespace Hartevo

open MissionLoop List

def LoopTurnResult.progressEvidence : LoopTurnResult → Option (BTreeSet EvidenceId)
  | .progress evidenceIds _ => some evidenceIds
  | _ => none

def LoopAction.progressMade : LoopAction → Option (LoopClaim × BTreeSet EvidenceId)
  | .settle c result => result.progressEvidence.map (c, ·)
  | .reconcileSettlement c result _ => result.progressEvidence.map (c, ·)
  | _ => none

def progressBy (e : LoopEvent) : Option (LoopClaim × BTreeSet EvidenceId) :=
  (acceptedAction e).bind LoopAction.progressMade

/-! ## One step -/

section Steps

variable {enc : LoopEncoding} {l next : MissionLoop} {fs : LoopMissionFacts}
  {ar : LoopActor} {now : DateTime} {act : LoopAction} {cl : Option LoopClaim}
  {run : Option LoopRunSummary}

lemma Settlement.accepted_cases {c : LoopClaim} {td oc : LoopTodo} {result : LoopTurnResult}
    {spent streak : ℕ} {accepted : BTreeSet EvidenceId}
    (h : Settlement l fs now c td result oc spent accepted streak) :
    (result.progressEvidence = none ∧ accepted = l.acceptedEvidence) ∨
    ∃ evidenceIds, result.progressEvidence = some evidenceIds ∧ evidenceIds.isEmpty = false ∧
      (∀ id ∈ evidenceIds, EvidenceAcceptable l fs now c id) ∧
      accepted = l.acceptedEvidence.insertMany evidenceIds.toList := by
  cases h with
  | @progress evidenceIds _ _ nonempty acceptable =>
    exact .inr ⟨evidenceIds, rfl, nonempty, acceptable, rfl⟩
  | observation | noProgress | failed => exact .inl ⟨rfl, rfl⟩

/-- Only a settlement with progress accepts evidence: evidence that is acceptable under the stored
claim it settles. -/
lemma LoopStep.accepted_cases (h : LoopStep enc l fs ar now act next cl run) :
    (act.progressMade = none ∧ next.acceptedEvidence = l.acceptedEvidence) ∨
    ∃ c evidenceIds, act.progressMade = some (c, evidenceIds) ∧ Stores l c.todoId c ∧
      evidenceIds.isEmpty = false ∧
      (∀ id ∈ evidenceIds, EvidenceAcceptable l fs now c id) ∧
      next.acceptedEvidence = l.acceptedEvidence.insertMany evidenceIds.toList := by
  cases h with
  | control step | invalidate step => exact .inl ⟨by cases step <;> rfl, step.frame.2.2.2.2⟩
  | add => exact .inl ⟨rfl, rfl⟩
  | @work _ id td _ _ _ _ found step =>
    cases step with
    | claim | begin | heartbeat | retry | cancel => exact .inl ⟨rfl, rfl⟩
    | @settle c _ _ _ _ _ _ id_eq _ stored _ _ settlement =>
      rcases settlement.accepted_cases with ⟨hno, hacc⟩ | ⟨evidenceIds, hs, hn, ha, hacc⟩
      · exact .inl ⟨by simp [LoopAction.progressMade, hno], hacc⟩
      · exact .inr ⟨c, evidenceIds, by simp [LoopAction.progressMade, hs],
          ⟨td, id_eq ▸ found, stored⟩, hn, ha, hacc⟩
    | @reconcile c _ _ _ _ _ _ _ id_eq stored _ _ _ settlement =>
      rcases settlement.accepted_cases with ⟨hno, hacc⟩ | ⟨evidenceIds, hs, hn, ha, hacc⟩
      · exact .inl ⟨by simp [LoopAction.progressMade, hno], hacc⟩
      · exact .inr ⟨c, evidenceIds, by simp [LoopAction.progressMade, hs],
          ⟨td, id_eq ▸ found, stored⟩, hn, ha, hacc⟩

end Steps

/-! ## Whole runs -/

/-- The evidence item was confirmed when the event accepted it for the claim, and had been observed
while the claim was held. -/
def ConfirmedAt (e : LoopEvent) (c : LoopClaim) (id : EvidenceId) : Prop :=
  ∃ item, e.input.facts.mission.evidence.find? (·.id == id) = some item ∧
    item.status = .confirmed ∧ c.claimedAt ≤ item.observedAt ∧ item.observedAt ≤ e.input.now

/-- The accepted ids are the disjoint union of the evidence of the settlements so far. -/
structure ConsumedOnce (events : List LoopEvent) (l : MissionLoop) : Prop where
  disjoint : (events.filterMap progressBy).Pairwise fun p q => ∀ id ∈ p.2, id ∉ q.2
  nonempty : ∀ p ∈ events.filterMap progressBy, p.2.isEmpty = false
  union : ∀ id, id ∈ l.acceptedEvidence ↔ ∃ p ∈ events.filterMap progressBy, id ∈ p.2
  confirmed : ∀ e ∈ events, ∀ c evidenceIds, progressBy e = some (c, evidenceIds) →
    Stores e.before c.todoId c ∧ ∀ id ∈ evidenceIds, ConfirmedAt e c id

section History

variable {enc : LoopEncoding} {events : List LoopEvent} {l next l₀ : MissionLoop}
  {e : LoopEvent}

/-- An event that settles no progress and accepts no evidence changes nothing. -/
lemma ConsumedOnce.idle (h : ConsumedOnce events l) (he : progressBy e = none)
    (hn : next.acceptedEvidence = l.acceptedEvidence) : ConsumedOnce (events ++ [e]) next := by
  have hs : (events ++ [e]).filterMap progressBy = events.filterMap progressBy := by
    simp [he]
  refine ⟨?_, ?_, ?_, ?_⟩
  · rw [hs]
    exact h.disjoint
  · rw [hs]
    exact h.nonempty
  · intro id
    rw [hs, hn]
    exact h.union id
  · intro e' he' c evidenceIds hp
    rcases mem_append.mp he' with hold | hl
    · exact h.confirmed e' hold c evidenceIds hp
    · rw [mem_singleton.mp hl, he] at hp
      cases hp

lemma ConsumedOnce.settled {c : LoopClaim} {evidenceIds : BTreeSet EvidenceId}
    (h : ConsumedOnce events l) (he : progressBy e = some (c, evidenceIds))
    (hn : evidenceIds.isEmpty = false) (hf : ∀ id ∈ evidenceIds, id ∉ l.acceptedEvidence)
    (hc : Stores e.before c.todoId c ∧ ∀ id ∈ evidenceIds, ConfirmedAt e c id)
    (hne : next.acceptedEvidence = l.acceptedEvidence.insertMany evidenceIds.toList) :
    ConsumedOnce (events ++ [e]) next := by
  have hl : (events ++ [e]).filterMap progressBy =
      events.filterMap progressBy ++ [(c, evidenceIds)] := by
    simp [he]
  refine ⟨?_, ?_, ?_, ?_⟩
  · rw [hl, pairwise_append]
    refine ⟨h.disjoint, pairwise_singleton _ _, ?_⟩
    rintro p hp q hq id hid
    obtain rfl := mem_singleton.mp hq
    intro ha
    exact hf id ha ((h.union id).mpr ⟨p, hp, hid⟩)
  · rw [hl]
    intro p hp
    rcases mem_append.mp hp with hold | hnew
    · exact h.nonempty p hold
    · rw [mem_singleton.mp hnew]
      exact hn
  · intro id
    have hmem : id ∈ next.acceptedEvidence ↔ id ∈ l.acceptedEvidence ∨ id ∈ evidenceIds := by
      rw [hne, Std.ExtTreeSet.mem_insertMany_list, contains_iff_mem, Std.ExtTreeSet.mem_toList]
    rw [hmem, h.union id, hl]
    simp [or_and_right, exists_or]
  · intro e' he' c' evidenceIds' hpr
    rcases mem_append.mp he' with hold | hnew
    · exact h.confirmed e' hold c' evidenceIds' hpr
    · obtain rfl := mem_singleton.mp hnew
      rw [he] at hpr
      cases hpr
      exact hc

/-- One more command extends the history. -/
lemma ConsumedOnce.step (h : ConsumedOnce events l) (input : LoopInput) :
    ConsumedOnce (events ++ [eventOf (MissionLoop.step enc) l input])
      (l.step enc input).2 := by
  rcases step_cases enc l input with ⟨error, hf⟩ | ⟨rc, next, hok, hpr, -⟩
  · refine h.idle ?_ (by rw [hf])
    simp [progressBy, acceptedAction, eventOf, hf]
  · obtain ⟨moved, hm, hne⟩ := hpr.step
    have hacc : (l.step enc input).2.acceptedEvidence = moved.acceptedEvidence := by
      rw [hok, hne]
    have hp : progressBy (eventOf (MissionLoop.step enc) l input) =
        input.command.action.progressMade := by
      simp [progressBy, acceptedAction, eventOf, hok]
    rcases hm.accepted_cases with ⟨hno, hsa⟩ | ⟨c, evidenceIds, hso, hs, hn, ha, hi⟩
    · exact h.idle (hp.trans hno) (hacc.trans hsa)
    · refine h.settled (hp.trans hso) hn ?_ ⟨hs, ?_⟩ (hacc.trans hi)
      · intro id hid
        obtain ⟨_, _, _, hfr, _⟩ := ha id hid
        exact hfr
      · intro id hid
        obtain ⟨item, hfo, hst, -, haf, hb, -⟩ := ha id hid
        exact ⟨item, hfo, hst, haf, hb⟩

lemma initial_consumedOnce (ms : Mission) (policy : LoopPolicy) (start : DateTime) :
    ConsumedOnce [] (initial ms policy start) := by
  refine ⟨List.Pairwise.nil, ?_, ?_, ?_⟩
  · intro p hp
    cases hp
  · intro id
    simp [initial]
  · intro e he
    cases he

lemma loopRun_consumedOnce {ms : Mission} {start : DateTime}
    {policy : LoopPolicy} (hnew : MissionLoop.new ms policy start = .ok l₀)
    (inputs : List LoopInput) :
    ConsumedOnce (trace (MissionLoop.step enc) l₀ inputs)
      (run (MissionLoop.step enc) l₀ inputs) := by
  obtain ⟨-, rfl⟩ := new_ok hnew
  refine trace_invariant (MissionLoop.step enc) (J := ConsumedOnce)
    (initial_consumedOnce ms policy start) ?_ inputs
  intro events l input h
  exact h.step input

/-- In every run from a new loop: the evidence of two settlements with progress is disjoint, and
each uses some; the accepted ids are exactly the evidence of these settlements; and each of them was
confirmed when it was accepted, and observed between the issue of the settled claim and the
settlement. -/
theorem evidence_once {mission : Mission} {policy : LoopPolicy} {start : DateTime}
    {l₀ : MissionLoop} (hnew : MissionLoop.new mission policy start = .ok l₀)
    (inputs : List LoopInput) :
    let events := trace (MissionLoop.step enc) l₀ inputs
    ((events.filterMap progressBy).Pairwise fun p q => ∀ id ∈ p.2, id ∉ q.2) ∧
      (∀ p ∈ events.filterMap progressBy, p.2.isEmpty = false) ∧
      (∀ id, id ∈ (run (MissionLoop.step enc) l₀ inputs).acceptedEvidence ↔
        ∃ p ∈ events.filterMap progressBy, id ∈ p.2) ∧
      ∀ e ∈ events, ∀ c evidenceIds, progressBy e = some (c, evidenceIds) →
        Stores e.before c.todoId c ∧ ∀ id ∈ evidenceIds, ConfirmedAt e c id := by
  intro events
  have hc : ConsumedOnce events (run (MissionLoop.step enc) l₀ inputs) :=
    loopRun_consumedOnce hnew inputs
  exact ⟨hc.disjoint, hc.nonempty, hc.union, hc.confirmed⟩

/-- The sample delivery has two settlements, each with evidence of its own. -/
theorem evidence_once_deliveryRun :
    let events := trace (MissionLoop.step .sample) .sample deliveryRun
    (events.filterMap progressBy).map (fun p => (p.1.generation, p.2.toList)) =
        [(1, ["first"]), (2, ["second"])] ∧
      ((events.filterMap progressBy).Pairwise fun p q => ∀ id ∈ p.2, id ∉ q.2) ∧
      (∀ id, id ∈ (run (MissionLoop.step .sample) .sample deliveryRun).acceptedEvidence ↔
        ∃ p ∈ events.filterMap progressBy, id ∈ p.2) ∧
      ∀ e ∈ events, ∀ c evidenceIds, progressBy e = some (c, evidenceIds) →
        Stores e.before c.todoId c ∧ ∀ id ∈ evidenceIds, ConfirmedAt e c id := by
  intro events
  obtain ⟨hd, -, hu, hc⟩ := @evidence_once .sample _ _ _ _ MissionLoop.new_sample deliveryRun
  exact ⟨by decide +kernel, hd, hu, hc⟩

end History

end Hartevo
