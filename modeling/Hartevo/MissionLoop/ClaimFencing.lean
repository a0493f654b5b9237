import Hartevo.MissionLoop.Step

/-!
# Claim fencing

Every claim carries the generation in which it was issued.  Generations strictly increase, so a
generation names one claim, and a stored claim keeps its generation until it is released.  This is
what makes the generation a fence: after the item has lost the claim, no command that carries it is
accepted, and the execution of a claim begins at most once.

The history of a run is needed to say this, since the loop forgets a claim when it is released.
`Fenced` relates the events so far to the current state, and `Fenced.step` extends it by one
command.
-/

namespace Hartevo

open List

open MissionLoop

/-- One command of a run of the loop. -/
abbrev LoopEvent := Event MissionLoop LoopInput (Except LoopError LoopReceipt)

variable {id place : String} {c c' : LoopClaim} {g : ℕ} {e : LoopEvent} {enc : LoopEncoding}
  {l next : MissionLoop} {input : LoopInput} {receipt : LoopReceipt}

/-- The action of a command that was accepted. -/
def acceptedAction (e : LoopEvent) : Option LoopAction :=
  match e.output with
  | .ok _ => some e.input.command.action
  | .error _ => none

/-- The claim whose execution the action begins. -/
def LoopAction.begunClaim : LoopAction → Option LoopClaim
  | .beginExecution c _ => some c
  | _ => none

/-- The claim that the action carries: to begin its execution, to renew it, or to settle it. -/
def LoopAction.carriedClaim : LoopAction → Option LoopClaim
  | .beginExecution c _ => some c
  | .heartbeat c => some c
  | .settle c _ => some c
  | .reconcileSettlement c _ _ => some c
  | _ => none

/-- The claim that the action settles with progress, no progress or an observation. -/
def LoopAction.executedClaim : LoopAction → Option LoopClaim
  | .settle c result => if result.isFailed then none else some c
  | .reconcileSettlement c result _ => if result.isFailed then none else some c
  | _ => none

def issuedBy (e : LoopEvent) : Option LoopClaim :=
  match e.output, e.input.command.action with
  | .ok receipt, .claim _ _ _ => receipt.claim
  | _, _ => none

/-- The generation of the claim whose execution the event began. -/
def begunBy (e : LoopEvent) : Option ℕ :=
  ((acceptedAction e).bind LoopAction.begunClaim).map (·.generation)

/-- The claim that the accepted command carries. -/
def usedBy (e : LoopEvent) : Option LoopClaim :=
  (acceptedAction e).bind LoopAction.carriedClaim

/-- The claim that the event settled with progress, no progress or an observation. -/
def executedBy (e : LoopEvent) : Option LoopClaim :=
  (acceptedAction e).bind LoopAction.executedClaim

def Stores (l : MissionLoop) (id : String) (c : LoopClaim) : Prop :=
  ∃ todo, l.todos[id]? = some todo ∧ todo.claim = some c

/-- The item `id` stores the claim, and its execution has begun. -/
def Executes (l : MissionLoop) (id : String) (c : LoopClaim) : Prop :=
  ∃ todo, l.todos[id]? = some todo ∧ todo.claim = some c ∧ todo.executionStarted = true

lemma Executes.stores {l : MissionLoop} (h : Executes l id c) : Stores l id c := by
  obtain ⟨td, ht, hc, -⟩ := h
  exact ⟨td, ht, hc⟩

lemma Executes.of_stores {l : MissionLoop}
    (h : Executes l id c) (hst : Stores l id c') : Executes l id c' := by
  obtain ⟨td, ht, -, hs⟩ := h
  obtain ⟨td', ht', hc⟩ := hst
  obtain rfl := Option.mem_unique ht' ht
  exact ⟨td', ht, hc, hs⟩

/-! ## One step -/

section Steps

variable {fs : LoopMissionFacts} {ar : LoopActor} {now : DateTime} {act : LoopAction}
  {cl : Option LoopClaim} {run : Option LoopRunSummary}

lemma LoopStep.stores_of_carried (h : LoopStep enc l fs ar now act next cl run)
    (hc : act.carriedClaim = some c) : Stores l c.todoId c := by
  cases h with
  | control step | invalidate step => cases step <;> cases hc
  | add => cases hc
  | @work _ _ todo _ _ _ _ found step =>
    cases step with
    | claim | retry | cancel => cases hc
    | begin id_eq _ held | heartbeat id_eq _ held =>
      cases hc
      exact ⟨todo, id_eq ▸ found, held.stored⟩
    | settle id_eq _ stored | reconcile id_eq stored =>
      cases hc
      exact ⟨todo, id_eq ▸ found, stored⟩

lemma LoopStep.executes_of_begun (h : LoopStep enc l fs ar now act next cl run)
    (hb : act.begunClaim = some c) :
    Stores l c.todoId c ∧ ¬Executes l c.todoId c ∧ Executes next c.todoId c := by
  cases h with
  | control step | invalidate step => cases step <;> cases hb
  | add => cases hb
  | @work _ _ td _ _ _ _ found step =>
    cases step with
    | claim | heartbeat | settle | reconcile | retry | cancel => cases hb
    | begin id_eq _ held unstarted =>
      cases hb
      subst id_eq
      refine ⟨⟨td, found, held.stored⟩, ?_, ?_⟩
      · rintro ⟨td', ht', -, hs⟩
        obtain rfl := Option.mem_unique ht' found
        rw [unstarted] at hs
        cases hs
      · exact ⟨_, Std.ExtTreeMap.getElem?_insert_same _ _ _, held.stored, rfl⟩

/-- A result other than a failure is settled only for a claim that executes. -/
lemma LoopStep.executes_of_executed (h : LoopStep enc l fs ar now act next cl run)
    (hexe : act.executedClaim = some c) : Executes l c.todoId c := by
  cases h with
  | control step | invalidate step => cases step <;> cases hexe
  | add => cases hexe
  | @work _ _ td _ _ _ _ found step =>
    cases step with
    | claim | begin | heartbeat | retry | cancel => cases hexe
    | settle id_eq _ stored _ started | reconcile id_eq stored _ _ started =>
      simp only [LoopAction.executedClaim, Option.ite_none_left_eq_some, Bool.not_eq_true,
        Option.some.injEq] at hexe
      obtain ⟨hs, rfl⟩ := hexe
      exact ⟨td, id_eq ▸ found, stored, started hs⟩

end Steps

/-! ## One command -/

section Commands

variable (h : Proposed enc l input next receipt)

include h

/-- A claim stored after a command was stored before with the same generation, or it was issued by
the command with the next generation. -/
lemma Proposed.stores_cases (hs : Stores next id c) :
    (∃ old, Stores l id old ∧ old.generation = c.generation) ∨
      (c.generation = l.claimGeneration + 1 ∧
        ∃ host tok, input.command.action = .claim host id tok) := by
  obtain ⟨moved, hstep, rfl⟩ := h.step
  obtain ⟨td, ht, hc⟩ := hs
  rcases hstep.claim_cases ht hc with ⟨old, k, hold, hk, -, hke, -⟩ |
    ⟨_, _, _, _, host, tok, _, _, ha, _, hi⟩
  · exact .inl ⟨k, ⟨old, hold, hk⟩, by rw [hke]⟩
  · refine .inr ⟨?_, host, tok, ha⟩
    rw [hi]
    rfl

lemma Proposed.executes_cases (he : Executes next id c) :
    (∃ old, Executes l id old ∧ old.generation = c.generation) ∨
      ∃ old host, input.command.action = .beginExecution old host ∧
        old.generation = c.generation := by
  obtain ⟨moved, hstep, rfl⟩ := h.step
  obtain ⟨td, ht, hc, hs⟩ := he
  rcases hstep.claim_cases ht hc with ⟨old, k, hold, hk, -, hke, hsa | ⟨-, host, hb⟩⟩ |
    ⟨-, -, -, hu, -⟩
  · exact .inl ⟨k, ⟨old, hold, hk, hsa ▸ hs⟩, by rw [hke]⟩
  · exact .inr ⟨k, host, hb, by rw [hke]⟩
  · have hf : td.executionStarted = false := hu
    rw [hf] at hs
    cases hs

lemma Proposed.executes_of_stores (hst : Stores next id c) (hbo : c.generation ≤ l.claimGeneration)
    (he : ∀ old, Stores l id old → old.generation = c.generation → Executes l id old) :
    Executes next id c := by
  obtain ⟨moved, hstep, rfl⟩ := h.step
  obtain ⟨td, ht, hc⟩ := hst
  rcases hstep.claim_cases ht hc with ⟨old, k, hold, hk, -, hke, hs⟩ |
    ⟨_, _, _, _, host, tok, _, _, ha, _, hi⟩
  · refine ⟨td, ht, hc, ?_⟩
    rcases hs with hsa | ⟨hb, -⟩
    · obtain ⟨old', hold', -, hr⟩ := he k ⟨old, hold, hk⟩ (by rw [hke])
      obtain rfl := Option.mem_unique hold' hold
      rw [hsa, hr]
    · exact hb
  · have hgen : c.generation = l.claimGeneration + 1 := by
      rw [hi]
      rfl
    omega

lemma Proposed.issued_cases : (next.claimGeneration = l.claimGeneration ∧
      ∀ host id tok, input.command.action ≠ .claim host id tok) ∨
    (next.claimGeneration = l.claimGeneration + 1 ∧
      ∃ host id tok c, input.command.action = .claim host id tok ∧
        receipt.claim = some c ∧ Stores next id c ∧ c.todoId = id ∧
        c.generation = l.claimGeneration + 1) := by
  obtain ⟨moved, hstep, rfl⟩ := h.step
  rcases hstep.claimGeneration_cases with hs | ⟨hn, host, id, tok, todo, c, ha,
    hr, ht, hc, hid, hgen⟩
  · exact .inl hs
  · exact .inr ⟨hn, host, id, tok, c, ha, hr, ⟨todo, ht, hc⟩, hid, hgen⟩

lemma Proposed.claimGeneration_le : l.claimGeneration ≤ next.claimGeneration := by
  rcases h.issued_cases with ⟨hs, -⟩ | ⟨hn, -⟩ <;> omega

lemma Proposed.bounded (hb : ∀ {id c}, Stores l id c → c.generation ≤ l.claimGeneration)
    (hs : Stores next id c) : c.generation ≤ next.claimGeneration := by
  rcases h.stores_cases hs with ⟨old, hold, hgen⟩ | ⟨hgen, host, token, ha⟩
  · rw [← hgen]
    exact (hb hold).trans h.claimGeneration_le
  · rcases h.issued_cases with ⟨-, hnot⟩ | ⟨hn, -⟩
    · exact absurd ha (hnot host id token)
    · rw [hgen, hn]

lemma Proposed.stored_at (hb : g ≤ l.claimGeneration)
    (hp : ∀ {id c}, Stores l id c → c.generation = g → id = place)
    (hs : Stores next id c) (hc : c.generation = g) : id = place := by
  rcases h.stores_cases hs with ⟨old, hold, hgen⟩ | ⟨hgen, -⟩
  · exact hp hold (hgen.trans hc)
  · omega

/-- A generation that is stored with no item, and was issued, is never stored again. -/
lemma Proposed.not_stored
    (hb : g ≤ l.claimGeneration) (hg : ∀ {id c}, Stores l id c → c.generation ≠ g)
    (hs : Stores next id c) : c.generation ≠ g := by
  rcases h.stores_cases hs with ⟨old, hold, hgen⟩ | ⟨hgen, -⟩
  · rw [← hgen]
    exact hg hold
  · omega

end Commands

/-! ## The history of a run -/

/-- The generations stored in the current state, and those issued and begun so far, fit
together. -/
structure Fenced (events : List LoopEvent) (l : MissionLoop) : Prop where
  bounded : ∀ {id c}, Stores l id c → c.generation ≤ l.claimGeneration
  unique : ∀ {id id' c c'}, Stores l id c → Stores l id' c' → c.generation = c'.generation →
    id = id'
  issued_le : ∀ c ∈ events.filterMap issuedBy, c.generation ≤ l.claimGeneration
  issued_sorted : (events.filterMap issuedBy).Pairwise fun c c' => c.generation < c'.generation
  issued_at : ∀ c ∈ events.filterMap issuedBy, ∀ {id c'}, Stores l id c' →
    c'.generation = c.generation → id = c.todoId
  begun_le : ∀ g ∈ events.filterMap begunBy, g ≤ l.claimGeneration
  begun_executes : ∀ g ∈ events.filterMap begunBy, ∀ {id c}, Stores l id c → c.generation = g →
    Executes l id c
  begun_nodup : (events.filterMap begunBy).Nodup
  executes_begun : ∀ {id c}, Executes l id c → c.generation ∈ events.filterMap begunBy
  executed_begun : ∀ earlier e later c, events = earlier ++ e :: later → executedBy e = some c →
    c.generation ∈ earlier.filterMap begunBy

section History

variable {events : List LoopEvent} {l₀ : MissionLoop}

lemma Fenced.failed {error : LoopError} (h : Fenced events l) (he : e.output = .error error) :
    Fenced (events ++ [e]) l := by
  have hi : issuedBy e = none := by simp [issuedBy, he]
  have hb : begunBy e = none := by simp [begunBy, acceptedAction, he]
  have hs : (events ++ [e]).filterMap issuedBy = events.filterMap issuedBy := by
    simp [filterMap_append, hi]
  have hs' : (events ++ [e]).filterMap begunBy = events.filterMap begunBy := by
    simp [filterMap_append, hb]
  refine ⟨h.bounded, h.unique, hs ▸ h.issued_le, hs ▸ h.issued_sorted, hs ▸ h.issued_at,
    hs' ▸ h.begun_le, hs' ▸ h.begun_executes, hs' ▸ h.begun_nodup,
    hs' ▸ h.executes_begun, ?_⟩
  intro earlier e' later c hsp hexe
  rcases eq_nil_or_concat later with rfl | ⟨later', last, rfl⟩
  · obtain ⟨rfl, heq⟩ := append_inj' hsp rfl
    cases heq
    simp [executedBy, acceptedAction, he] at hexe
  · rw [concat_eq_append, ← cons_append, ← append_assoc] at hsp
    obtain ⟨hev, -⟩ := append_inj' hsp rfl
    exact h.executed_begun earlier e' later' c hev hexe

lemma Fenced.issued (h : Fenced events l) (hstep : Proposed enc l input next receipt)
    (he : e.output = .ok receipt) (hin : e.input = input) :
    (∀ c ∈ (events ++ [e]).filterMap issuedBy, c.generation ≤ next.claimGeneration ∧
      ∀ {id c'}, Stores next id c' → c'.generation = c.generation → id = c.todoId) ∧
    ((events ++ [e]).filterMap issuedBy).Pairwise fun c c' => c.generation < c'.generation := by
  have hold : ∀ c ∈ events.filterMap issuedBy, c.generation ≤ next.claimGeneration ∧
      ∀ {id c'}, Stores next id c' → c'.generation = c.generation → id = c.todoId := by
    intro c hc
    refine ⟨(h.issued_le c hc).trans hstep.claimGeneration_le, ?_⟩
    exact hstep.stored_at (h.issued_le c hc) (h.issued_at c hc)
  rw [filterMap_append]
  rcases hstep.issued_cases with ⟨-, hnot⟩ | ⟨hne, host, id, token, c, ha, hr, hs, hid, hgen⟩
  · have hn : issuedBy e = none := by
      unfold issuedBy
      rw [he, hin]
      split
      · next ha => exact absurd ha (hnot _ _ _)
      · rfl
    rw [filterMap_cons_none hn, filterMap_nil, append_nil]
    exact ⟨hold, h.issued_sorted⟩
  · have hso : issuedBy e = some c := by simp [issuedBy, he, hin, ha, hr]
    rw [filterMap_cons_some hso, filterMap_nil]
    constructor
    · intro c' hc'
      rcases mem_append.mp hc' with hc' | hc'
      · exact hold c' hc'
      · obtain rfl := mem_singleton.mp hc'
        refine ⟨by omega, ?_⟩
        intro id' c'' hs' hsa
        rcases hstep.stores_cases hs' with ⟨old, hold', hk⟩ | ⟨-, host', token', ha'⟩
        · have := h.bounded hold'
          omega
        · rw [ha] at ha'
          cases ha'
          exact hid.symm
    · rw [pairwise_append]
      refine ⟨h.issued_sorted, pairwise_singleton _ _, ?_⟩
      intro c' hc' c'' hc''
      obtain rfl := mem_singleton.mp hc''
      have := h.issued_le c' hc'
      omega

lemma Fenced.unique_next {id' : String}
    (h : Fenced events l) (hstep : Proposed enc l input next receipt)
    (hc : Stores next id c) (hc' : Stores next id' c')
    (hs : c.generation = c'.generation) : id = id' := by
  rcases hstep.stores_cases hc with ⟨old, hold, hk⟩ | ⟨hi, host, token, ha⟩
  · rcases hstep.stores_cases hc' with ⟨old', hold', hk'⟩ | ⟨hi', -⟩
    · exact h.unique hold hold' (by omega)
    · have := h.bounded hold
      omega
  · rcases hstep.stores_cases hc' with ⟨old', hold', hk'⟩ | ⟨-, host', token', ha'⟩
    · have := h.bounded hold'
      omega
    · rw [ha] at ha'
      cases ha'
      rfl

lemma Fenced.begun (h : Fenced events l) (hstep : Proposed enc l input next receipt)
    (he : e.output = .ok receipt) (hin : e.input = input) :
    (∀ g ∈ (events ++ [e]).filterMap begunBy, g ≤ next.claimGeneration ∧
      ∀ {id c}, Stores next id c → c.generation = g → Executes next id c) ∧
    ((events ++ [e]).filterMap begunBy).Nodup ∧
    ∀ {id c}, Executes next id c → c.generation ∈ (events ++ [e]).filterMap begunBy := by
  obtain ⟨moved, hm, hne⟩ := hstep.step
  have hold : ∀ g ∈ events.filterMap begunBy, g ≤ next.claimGeneration ∧
      ∀ {id c}, Stores next id c → c.generation = g → Executes next id c := by
    intro g hg
    refine ⟨(h.begun_le g hg).trans hstep.claimGeneration_le, ?_⟩
    intro id c hst hc
    refine hstep.executes_of_stores hst (hc ▸ h.begun_le g hg) ?_
    intro old hs hsa
    exact h.begun_executes g hg hs (hsa.trans hc)
  have hacc : begunBy e = input.command.action.begunClaim.map (·.generation) := by
    simp [begunBy, acceptedAction, he, hin]
  have hex : ∀ {id c}, Executes next id c →
      c.generation ∈ events.filterMap begunBy ∨ begunBy e = some c.generation := by
    intro id c hex
    rcases hstep.executes_cases hex with ⟨old, hr, hsa⟩ | ⟨old, host, hac, hsa⟩
    · exact .inl (hsa ▸ h.executes_begun hr)
    · refine .inr ?_
      rw [hacc, hac, ← hsa]
      rfl
  rw [filterMap_append]
  cases hb : input.command.action.begunClaim with
  | none =>
    have hn : begunBy e = none := by rw [hacc, hb, Option.map_none]
    rw [filterMap_cons_none hn, filterMap_nil, append_nil]
    refine ⟨hold, h.begun_nodup, fun hr => ?_⟩
    rcases hex hr with hmem | hso
    · exact hmem
    · rw [hn] at hso
      cases hso
  | some b =>
    have hso : begunBy e = some b.generation := by rw [hacc, hb, Option.map_some]
    obtain ⟨hs, hi, hr⟩ := hm.executes_of_begun hb
    have hr' : Executes next b.todoId b := by
      rw [hne]
      exact hr
    rw [filterMap_cons_some hso, filterMap_nil]
    refine ⟨?_, ?_, fun hexe => ?_⟩
    · intro g hg
      rcases mem_append.mp hg with hg | hg
      · exact hold g hg
      · obtain rfl := mem_singleton.mp hg
        refine ⟨(h.bounded hs).trans hstep.claimGeneration_le, ?_⟩
        intro id c hst hc
        rcases hstep.stores_cases hst with ⟨old, hold', hk⟩ | ⟨his, -⟩
        · obtain rfl := h.unique hold' hs (by omega)
          exact hr'.of_stores hst
        · have := h.bounded hs
          omega
    · rw [nodup_append]
      refine ⟨h.begun_nodup, nodup_singleton _, ?_⟩
      rintro g hg g' hg' rfl
      obtain rfl := mem_singleton.mp hg'
      exact hi (h.begun_executes _ hg hs rfl)
    · rcases hex hexe with hmem | ha
      · exact mem_append_left _ hmem
      · rw [hso] at ha
        exact mem_append_right _ (mem_singleton.mpr (Option.some.inj ha).symm)

lemma Fenced.accepted (h : Fenced events l) (hstep : Proposed enc l input next receipt)
    (he : e.output = .ok receipt) (hin : e.input = input) : Fenced (events ++ [e]) next := by
  obtain ⟨hi, hso⟩ := h.issued hstep he hin
  obtain ⟨hb, hn, hex⟩ := h.begun hstep he hin
  refine ⟨hstep.bounded h.bounded, h.unique_next hstep, fun c hc => (hi c hc).1, hso,
    fun c hc => (hi c hc).2, fun g hg => (hb g hg).1, fun g hg => (hb g hg).2, hn,
    hex, ?_⟩
  intro earlier e' later c hs hexe
  rcases eq_nil_or_concat later with rfl | ⟨later', last, rfl⟩
  · obtain ⟨rfl, heq⟩ := append_inj' hs rfl
    cases heq
    obtain ⟨moved, hm, -⟩ := hstep.step
    have hacc : input.command.action.executedClaim = some c := by
      simpa [executedBy, acceptedAction, he, hin] using hexe
    exact h.executes_begun (hm.executes_of_executed hacc)
  · rw [concat_eq_append, ← cons_append, ← append_assoc] at hs
    obtain ⟨hev, -⟩ := append_inj' hs rfl
    exact h.executed_begun earlier e' later' c hev hexe

/-- Every command extends the history. -/
lemma Fenced.step (h : Fenced events l) (input : LoopInput) :
    Fenced (events ++ [eventOf (MissionLoop.step enc) l input])
      (l.step enc input).2 := by
  rcases step_cases enc l input with ⟨error, hf⟩ | ⟨receipt, next, hok, hp, -⟩
  · have hs : (l.step enc input).2 = l := by rw [hf]
    have he : (eventOf (MissionLoop.step enc) l input).output = .error error := by
      simp [eventOf, hf]
    rw [hs]
    exact h.failed he
  · have hs : (l.step enc input).2 = next := by rw [hok]
    rw [hs]
    exact h.accepted hp (by simp [eventOf, hok]) rfl

lemma initial_fenced (ms : Mission) (policy : LoopPolicy) (start : DateTime) :
    Fenced [] (initial ms policy start) := by
  have hn : ∀ {id c}, ¬Stores (initial ms policy start) id c := by
    rintro id c ⟨td, ht, -⟩
    simp [initial] at ht
  refine ⟨fun h => absurd h hn, fun h => absurd h hn, forall_mem_nil _, List.Pairwise.nil,
    forall_mem_nil _, forall_mem_nil _, forall_mem_nil _, nodup_nil,
    fun h => absurd h.stores hn, ?_⟩
  intro earlier e later c hs
  simp at hs

lemma loopRun_fenced {ms : Mission} {start : DateTime}
    {policy : LoopPolicy} (hnew : MissionLoop.new ms policy start = .ok l₀)
    (inputs : List LoopInput) :
    Fenced (trace (MissionLoop.step enc) l₀ inputs)
      (run (MissionLoop.step enc) l₀ inputs) := by
  obtain ⟨-, rfl⟩ := new_ok hnew
  refine trace_invariant (MissionLoop.step enc) (J := Fenced)
    (initial_fenced ms policy start) ?_ inputs
  intro events l input h
  exact h.step input

/-- A generation that was issued and is not stored is never carried by an accepted command again. -/
lemma generation_lost (hb : g ≤ l.claimGeneration)
    (hg : ∀ {id c}, Stores l id c → c.generation ≠ g) (inputs : List LoopInput) :
    ∀ e ∈ trace (MissionLoop.step enc) l inputs, ∀ c, usedBy e = some c → c.generation ≠ g := by
  refine (run_rely (MissionLoop.step enc) (C := fun _ => True)
    (I := fun l => g ≤ l.claimGeneration ∧ ∀ id c, Stores l id c → c.generation ≠ g) ?_
    ⟨hb, fun _ _ => hg⟩ (fun _ _ => trivial)).2
  rintro l input ⟨hb, hg⟩ -
  rcases step_cases enc l input with ⟨error, hf⟩ | ⟨receipt, next, hok, hp, -⟩
  · refine ⟨by rw [hf]; exact ⟨hb, hg⟩, ?_⟩
    intro c hu
    simp [usedBy, acceptedAction, eventOf, hf] at hu
  · obtain ⟨moved, hm, -⟩ := hp.step
    rw [hok]
    refine ⟨⟨hb.trans hp.claimGeneration_le, ?_⟩, ?_⟩
    · intro id c
      exact hp.not_stored hb (hg _ _)
    · intro c hu
      have hc : input.command.action.carriedClaim = some c := by
        simpa [usedBy, acceptedAction, eventOf, hok] using hu
      exact hg _ _ (hm.stores_of_carried hc)

/-- In every run from a new loop: the generations of the claims issued strictly increase; the
execution of a generation begins at most once; progress, no progress and observations are settled
only for a generation whose execution began before; and once the item of an issued claim does not
store its generation any more, no accepted command carries that generation. -/
theorem claim_fencing {mission : Mission} {policy : LoopPolicy} {start : DateTime}
    {l₀ : MissionLoop} (hnew : MissionLoop.new mission policy start = .ok l₀)
    (inputs : List LoopInput) :
    let events := trace (MissionLoop.step enc) l₀ inputs
    ((events.filterMap issuedBy).Pairwise fun c c' => c.generation < c'.generation) ∧
      (events.filterMap begunBy).Nodup ∧
      (∀ earlier e later c, events = earlier ++ e :: later → executedBy e = some c →
        c.generation ∈ earlier.filterMap begunBy) ∧
      ∀ earlier later, inputs = earlier ++ later →
        ∀ c ∈ (trace (MissionLoop.step enc) l₀ earlier).filterMap issuedBy,
          (∀ c', Stores (Hartevo.run (MissionLoop.step enc) l₀ earlier) c.todoId c' →
            c'.generation ≠ c.generation) →
          ∀ e ∈ trace (MissionLoop.step enc)
              (Hartevo.run (MissionLoop.step enc) l₀ earlier) later,
            ∀ c', usedBy e = some c' → c'.generation ≠ c.generation := by
  intro events
  have hf : Fenced events (Hartevo.run (MissionLoop.step enc) l₀ inputs) :=
    loopRun_fenced hnew inputs
  refine ⟨hf.issued_sorted, hf.begun_nodup, hf.executed_begun, ?_⟩
  intro earlier later _ c hc hl
  have he : Fenced (trace (MissionLoop.step enc) l₀ earlier)
      (Hartevo.run (MissionLoop.step enc) l₀ earlier) := loopRun_fenced hnew earlier
  refine generation_lost (he.issued_le c hc) ?_ later
  intro id c' hs hsa
  obtain rfl := he.issued_at c hc hs hsa
  exact hl c' hs hsa

/-- In the sample delivery three claims are issued and two executions begin and are settled; once
the first one is settled, its claim is not used any more. -/
theorem claim_fencing_deliveryRun :
    let events := trace (MissionLoop.step .sample) .sample deliveryRun
    (events.filterMap issuedBy).map (·.generation) = [1, 2, 3] ∧
      events.filterMap begunBy = [1, 2] ∧
      (events.filterMap executedBy).map (·.generation) = [1, 2] ∧
      (events.filterMap issuedBy).Pairwise (fun c c' => c.generation < c'.generation) ∧
      (∀ earlier e later c, events = earlier ++ e :: later → executedBy e = some c →
        c.generation ∈ earlier.filterMap begunBy) ∧
      ∀ e ∈ trace (MissionLoop.step .sample)
          (Hartevo.run (MissionLoop.step .sample) .sample (deliveryRun.take 10))
          (deliveryRun.drop 10),
        ∀ c, usedBy e = some c → c.generation ≠ 1 := by
  have hrun : let events := trace (MissionLoop.step .sample) .sample deliveryRun
      (events.filterMap issuedBy).map (·.generation) = [1, 2, 3] ∧
      events.filterMap begunBy = [1, 2] ∧
      (events.filterMap executedBy).map (·.generation) = [1, 2] := by
    decide +kernel
  have hsettled : LoopClaim.delivery 1 "agent" "todo" ∈ (trace (MissionLoop.step .sample) .sample
        (deliveryRun.take 10)).filterMap issuedBy ∧
      (Hartevo.run (MissionLoop.step .sample) .sample
        (deliveryRun.take 10)).todos["todo"]?.bind (·.claim) = none := by
    decide +kernel
  obtain ⟨hs, -, hx, hl⟩ := @claim_fencing .sample _ _ _ _ MissionLoop.new_sample deliveryRun
  refine ⟨hrun.1, hrun.2.1, hrun.2.2, hs, hx, ?_⟩
  refine hl _ _ (List.take_append_drop 10 _).symm _ hsettled.1 ?_
  have hn := hsettled.2
  generalize Hartevo.run (MissionLoop.step .sample) .sample (deliveryRun.take 10) = l at hn ⊢
  rintro c' ⟨todo, ht, hc⟩
  rw [LoopClaim.delivery] at ht
  rw [ht, Option.bind_some, hc] at hn
  cases hn

end History

end Hartevo
