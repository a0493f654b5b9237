import Hartevo.MissionSchedule.Commands

/-!
# Lease fencing

Every lease carries the generation in which it was claimed.  A claim that succeeds hands out the
next generation, no command lowers it, and a command that carries a generation is accepted only for
the current one.  So a worker whose lease was taken over is fenced off.

A record that is triggered, cancelled, expired or dead refuses every command and stays as it is
(`refuses_of_not_isOpen`).  This is why the cycle is triggered at most once.
-/

namespace Hartevo

open Command List

variable {own tok : String} {dur : ℤ} {now : DateTime} {lease : MissionScheduleLease}
  {generation : ℕ} {enc : MissionEncoding} {s s' : MissionSchedule}

namespace MissionSchedule

/-! ## Generations -/

/-- The generation is not lowered. -/
def KeepsGeneration (s t : MissionSchedule) : Prop :=
  s.leaseGeneration ≤ t.leaseGeneration

instance : Std.Refl KeepsGeneration :=
  ⟨fun s => Nat.le_refl s.leaseGeneration⟩

instance : IsTrans MissionSchedule KeepsGeneration :=
  ⟨fun _ _ _ => Nat.le_trans⟩

lemma generation_of_nextLease (h : s.nextLease own tok dur now = .ok lease) :
    lease.generation = s.leaseGeneration + 1 := by
  obtain ⟨generation, hgen, h⟩ := bind_ok.mp h
  obtain ⟨ex, -, h⟩ := bind_ok.mp h
  obtain ⟨-, h⟩ := check_ok.mp h
  obtain ⟨-, h⟩ := check_ok.mp h
  cases h
  rw [okOr_ok, checkedAdd_eq_some] at hgen
  exact hgen.2.symm

lemma moves_recordExpiredLease (now : DateTime) :
    Moves KeepsGeneration (recordExpiredLease enc now) := by
  refine (moves_check _).bind fun fl => (moves_modify fun s => ?_).bind fun _ =>
    Moves.branch ((moves_check _).bind fun _ => (moves_modify fun s => ?_).bind fun _ =>
      moves_throw _) (moves_pure _)
  · exact Nat.le_refl s.leaseGeneration
  · exact Nat.le_refl s.leaseGeneration

lemma moves_claim (own tok : String) (dur : ℤ) (now : DateTime) :
    Moves KeepsGeneration (claim enc own tok dur now) := by
  refine (moves_check _).bind fun _ =>
    (Moves.branch (moves_recordExpiredLease now) (moves_check _)).bind fun _ => ?_
  refine moves_store fun s lease hl => ?_
  have hn := generation_of_nextLease hl
  show s.leaseGeneration ≤ lease.generation
  omega

lemma leaseGeneration_le (enc : MissionEncoding) (s : MissionSchedule)
    (cmd : MissionScheduleCommand) : s.leaseGeneration ≤ (s.step enc cmd).2.leaseGeneration := by
  have hstep : Moves KeepsGeneration (cmd.toCommand enc) := by
    cases cmd with
    | signalEvent =>
      refine Moves.map _ ((moves_check _).bind fun _ =>
        Moves.branch (moves_pure _) ((moves_store fun s _ _ => ?_).bind fun _ => moves_pure _))
      exact Nat.le_refl s.leaseGeneration
    | claim own tok dur now =>
      exact Moves.map _ (moves_claim own tok dur now)
    | heartbeat | recordFailure =>
      exact Moves.map _ ((moves_store fun s _ _ => Nat.le_refl s.leaseGeneration).bind fun _ =>
        moves_pure _)
    | markTriggered | cancel | expire =>
      exact Moves.map _ (moves_store fun s _ _ => Nat.le_refl s.leaseGeneration)
  exact hstep s

lemma claim_ok (h : (claim enc own tok dur now).exec s = (.ok lease, s')) :
    lease.generation = s.leaseGeneration + 1 ∧ s'.leaseGeneration = lease.generation := by
  obtain ⟨_, -, h⟩ := exec_check_ok.mp h
  obtain ⟨_, t, hf, h⟩ := exec_bind_ok.mp h
  obtain ⟨hl, rfl⟩ := exec_store_ok h
  refine ⟨?_, rfl⟩
  -- What happens before the lease is taken leaves the generation alone.
  have hk : t.leaseGeneration = s.leaseGeneration := by
    rw [exec_branch] at hf
    split at hf
    · obtain ⟨fl, -, hf⟩ := exec_check_ok.mp hf
      rw [exec_modify_bind, exec_branch] at hf
      split at hf
      · obtain ⟨_, -, ht⟩ := exec_check_ok.mp hf
        cases ht
      · cases hf
        rfl
    · rw [exec_check, Prod.mk.injEq] at hf
      rw [← hf.2]
  rw [generation_of_nextLease hl, hk]

/-- A lease proof is accepted only for the current generation. -/
lemma generation_of_verifyLease (hv : s.validate = .ok ())
    (h : s.verifyLease own tok generation now = .ok ()) :
    s.status = .leased ∧ generation = s.leaseGeneration := by
  obtain ⟨lease, hl, h⟩ := bind_ok.mp h
  rw [okOr_ok] at hl
  simp only [passed] at h
  obtain ⟨⟨⟨⟨hs, -⟩, -⟩, hgen⟩, -⟩ := h
  refine ⟨hs, ?_⟩
  obtain ⟨-, hv⟩ := check_ok.mp hv
  rw [hs] at hv
  obtain ⟨ls', hl', hv⟩ := bind_ok.mp hv
  rw [okOr_ok, hl, Option.some.injEq] at hl'
  subst hl'
  simp only [passed, leaseIsInvalid] at hv
  rw [← hgen, hv.1.1.1.1.1.1]

/-! ## Closed records -/

lemma verifyLease_ne_ok (h : s.isOpen = false) (own tok : String)
    (gen : ℕ) (now : DateTime) : s.verifyLease own tok gen now ≠ .ok () := by
  intro hver
  obtain ⟨lease, -, hver⟩ := bind_ok.mp hver
  simp only [passed] at hver
  rw [isOpen, hver.1.1.1.1] at h
  cases h

lemma refuses_of_not_isOpen (h : s.isOpen = false) (cmd : MissionScheduleCommand) :
    Refuses (cmd.toCommand enc) s := by
  obtain ⟨hp, hl⟩ := Bool.or_eq_false_iff.mp h
  cases cmd with
  | signalEvent =>
    refine Refuses.map _ (Refuses.check_bind fun _ hc => absurd hc fun hc => ?_)
    obtain ⟨-, hc⟩ := check_ok.mp hc
    obtain ⟨hs, -⟩ := check_ok.mp hc
    simp [bne, hp] at hs
  | claim =>
    refine Refuses.map _ (Refuses.check_bind fun _ _ => Refuses.bind ⟨.notDue, ?_⟩)
    rw [exec_branch, hl, exec_check]
    simp [isDue, hp, rejectIf]
  | heartbeat =>
    refine Refuses.map _ (Refuses.bind (refuses_store fun ex hr => ?_))
    obtain ⟨-, hr⟩ := check_ok.mp hr
    exact verifyLease_ne_ok h _ _ _ _ (check_ok.mp hr).1
  | markTriggered =>
    refine Refuses.map _ (refuses_store fun _ hr => ?_)
    obtain ⟨-, hr⟩ := check_ok.mp hr
    exact verifyLease_ne_ok h _ _ _ _ (check_ok.mp hr).1
  | recordFailure =>
    refine Refuses.map _ (Refuses.bind (refuses_store fun fl hr => ?_))
    obtain ⟨-, hr⟩ := check_ok.mp hr
    exact verifyLease_ne_ok h _ _ _ _ (check_ok.mp hr).1
  | cancel | expire =>
    refine Refuses.map _ (refuses_store fun _ hr => ?_)
    obtain ⟨-, hr⟩ := check_ok.mp hr
    obtain ⟨ho, -⟩ := check_ok.mp hr
    simp [h] at ho

end MissionSchedule

/-! ## Events of a run -/

/-- One command of a run of a schedule. -/
abbrev ScheduleEvent :=
  Event MissionSchedule MissionScheduleCommand (Except MissionScheduleError MissionScheduleReply)

/-- The generation that the event handed out. -/
def issuedGeneration (e : ScheduleEvent) : Option ℕ :=
  match e.output with
  | .ok (.leased lease) => some lease.generation
  | _ => none

/-- The generation with which the event was accepted as the holder of a lease. -/
def usedGeneration (e : ScheduleEvent) : Option ℕ :=
  match e.output, e.input with
  | .ok _, .heartbeat _ _ generation _ _ => some generation
  | .ok _, .markTriggered _ _ generation _ _ => some generation
  | .ok _, .recordFailure _ _ generation _ _ _ _ _ => some generation
  | _, _ => none

def triggersCycle (e : ScheduleEvent) : Bool :=
  match e.output, e.input with
  | .ok _, .markTriggered .. => true
  | _, _ => false

namespace MissionSchedule

variable {cmd : MissionScheduleCommand} {ev : String}

/-- Only a claim hands out a lease. -/
lemma issued_step {g : ℕ} (h : g ∈ issuedGeneration (eventOf (step enc) s cmd)) :
    s.leaseGeneration < g ∧ (s.step enc cmd).2.leaseGeneration = g := by
  have hok : ∃ lease, (s.step enc cmd).1 = .ok (.leased lease) ∧ lease.generation = g := by
    unfold issuedGeneration eventOf at h
    dsimp only at h
    split at h
    · next lease hout => exact ⟨lease, hout, Option.some.inj h⟩
    · cases h
  obtain ⟨lease, hout, rfl⟩ := hok
  unfold step MissionScheduleCommand.toCommand at hout ⊢
  cases cmd with
  | claim =>
    obtain ⟨ls', t, hc, heq, ha⟩ := exec_map_ok hout
    cases heq
    obtain ⟨hn, hgen⟩ := claim_ok hc
    rw [ha, hgen]
    exact ⟨by omega, rfl⟩
  | signalEvent | heartbeat | markTriggered | recordFailure | cancel | expire =>
    obtain ⟨_, _, _, heq, -⟩ := exec_map_ok hout
    cases heq

lemma heartbeat_ok {dur : ℤ} (h : (heartbeat own tok generation dur now).exec s = (.ok (), s')) :
    s.validate = .ok () ∧ s.verifyLease own tok generation now = .ok () := by
  obtain ⟨ex, t, hs, -⟩ := exec_bind_ok.mp h
  obtain ⟨hv, hr⟩ := check_ok.mp (exec_store_ok hs).1
  exact ⟨hv, (check_ok.mp hr).1⟩

lemma markTriggered_ok {ms : Mission}
    (h : (markTriggered own tok generation ms now).exec s = (.ok (), s')) :
    s.validate = .ok () ∧ s.verifyLease own tok generation now = .ok () ∧
      s'.status = .triggered := by
  obtain ⟨hr, rfl⟩ := exec_store_ok h
  obtain ⟨hv, hr⟩ := check_ok.mp hr
  exact ⟨hv, (check_ok.mp hr).1, rfl⟩

lemma recordFailure_ok {class_ : MissionScheduleFailureClass} {retryable : Bool}
    {retryAt : Option DateTime}
    (h : (recordFailure own tok generation class_ ev retryable retryAt now).exec s = (.ok (), s')) :
    s.validate = .ok () ∧ s.verifyLease own tok generation now = .ok () := by
  obtain ⟨fl, t, hs, -⟩ := exec_bind_ok.mp h
  obtain ⟨hv, hr⟩ := check_ok.mp (exec_store_ok hs).1
  exact ⟨hv, (check_ok.mp hr).1⟩

/-- A command on a lease is accepted for the current generation. -/
lemma used_step {g : ℕ}
    (h : g ∈ usedGeneration (eventOf (step enc) s cmd)) : g = s.leaseGeneration := by
  unfold usedGeneration eventOf at h
  dsimp only at h
  split at h
  · next rp own tok generation dur now hout =>
    obtain rfl := Option.some.inj h
    obtain ⟨⟨⟩, t, hok, -⟩ := exec_map_ok hout
    obtain ⟨hv, hver⟩ := heartbeat_ok hok
    exact (generation_of_verifyLease hv hver).2
  · next rp own tok generation ms now hout =>
    obtain rfl := Option.some.inj h
    obtain ⟨⟨⟩, t, hok, -⟩ := exec_map_ok hout
    obtain ⟨hv, hver, -⟩ := markTriggered_ok hok
    exact (generation_of_verifyLease hv hver).2
  · next hout =>
    obtain rfl := Option.some.inj h
    obtain ⟨⟨⟩, t, hok, -⟩ := exec_map_ok hout
    obtain ⟨hv, hver⟩ := recordFailure_ok hok
    exact (generation_of_verifyLease hv hver).2
  · cases h

/-- Triggering the cycle closes the record. -/
lemma triggers_step (h : triggersCycle (eventOf (step enc) s cmd) = true) :
    s.isOpen = true ∧ (s.step enc cmd).2.isOpen = false := by
  unfold triggersCycle eventOf at h
  dsimp only at h
  split at h
  · next rp own tok generation ms now hout =>
    obtain ⟨⟨⟩, t, hok, -, ha⟩ := exec_map_ok hout
    obtain ⟨hv, hver, hs⟩ := markTriggered_ok hok
    refine ⟨by simp [isOpen, (generation_of_verifyLease hv hver).1], ?_⟩
    have hl : (s.step enc (.markTriggered own tok generation ms now)).2 = t := ha
    rw [hl, isOpen, hs]
    rfl
  · cases h

lemma step_of_not_isOpen (h : s.isOpen = false) (enc : MissionEncoding)
    (cmd : MissionScheduleCommand) : ∃ e, s.step enc cmd = (.error e, s) :=
  refuses_of_not_isOpen h cmd

/-! ## Runs -/

/-- What holds of two events of a run, the first of which came earlier. -/
structure Fenced (e e' : ScheduleEvent) : Prop where
  issued : ∀ g ∈ issuedGeneration e, ∀ g' ∈ issuedGeneration e', g < g'
  used : ∀ g ∈ issuedGeneration e, ∀ g' ∈ usedGeneration e', g ≤ g'
  triggered : triggersCycle e = true → triggersCycle e' = false

/-- What the events so far tell about the record. -/
structure Tracks (events : List ScheduleEvent) (s : MissionSchedule) : Prop where
  fenced : events.Pairwise Fenced
  issued : ∀ e ∈ events, ∀ g ∈ issuedGeneration e, g ≤ s.leaseGeneration
  triggered : ∀ e ∈ events, triggersCycle e = true → s.isOpen = false

lemma Tracks.step {evs : List ScheduleEvent} (h : Tracks evs s) :
    Tracks (evs ++ [eventOf (step enc) s cmd]) (s.step enc cmd).2 := by
  have hgr := leaseGeneration_le enc s cmd
  have hc : s.isOpen = false → (s.step enc cmd).2 = s := by
    intro hc
    obtain ⟨e, he⟩ := step_of_not_isOpen hc enc cmd
    rw [he]
  refine ⟨?_, ?_, ?_⟩
  · refine pairwise_append.mpr ⟨h.fenced, pairwise_singleton _ _, ?_⟩
    intro e he e' he'
    obtain rfl := mem_singleton.mp he'
    refine ⟨fun g hg g' hg' => ?_, fun g hg g' hg' => ?_, fun ht => ?_⟩
    · exact lt_of_le_of_lt (h.issued e he g hg) (issued_step hg').1
    · rw [used_step hg']
      exact h.issued e he g hg
    · by_contra ha
      have ho := (triggers_step (Bool.not_eq_false _ ▸ ha)).1
      rw [h.triggered e he ht] at ho
      cases ho
  · intro e he g hg
    rcases mem_append.mp he with he | he
    · exact le_trans (h.issued e he g hg) hgr
    · obtain rfl := mem_singleton.mp he
      exact (issued_step hg).2.ge
  · intro e he ht
    rcases mem_append.mp he with he | he
    · rw [hc (h.triggered e he ht)]
      exact h.triggered e he ht
    · obtain rfl := mem_singleton.mp he
      exact (triggers_step ht).2

lemma tracks_run (enc : MissionEncoding) (s : MissionSchedule)
    (cmds : List MissionScheduleCommand) :
    Tracks (trace (step enc) s cmds) (run (step enc) s cmds) := by
  refine trace_invariant (step enc) ⟨List.Pairwise.nil, ?_, ?_⟩ (fun _ _ _ h => h.step) cmds
  · exact fun e he => absurd he not_mem_nil
  · exact fun e he => absurd he not_mem_nil

/-- In every run of a schedule, with any times: the generations that claims hand out increase, no
command on a lease succeeds with a generation below one handed out before, the cycle is triggered at
most once, and a record that is triggered, cancelled, expired or dead stays so. -/
theorem lease_fencing (enc : MissionEncoding) (s : MissionSchedule)
    (commands : List MissionScheduleCommand) :
    let events := trace (step enc) s commands
    (events.filterMap issuedGeneration).Pairwise (· < ·) ∧
      events.Pairwise
        (fun e e' => ∀ g ∈ issuedGeneration e, ∀ g' ∈ usedGeneration e', ¬g' < g) ∧
      (events.filter triggersCycle).length ≤ 1 ∧
      ∀ e ∈ events, e.before.status ∈
          [.triggered, .cancelled, .expired, MissionScheduleStatus.deadLetter] →
        e.after.status = e.before.status := by
  have ht := (tracks_run enc s commands).fenced
  refine ⟨?_, ?_, ?_, ?_⟩
  · exact pairwise_filterMap.mpr (ht.imp fun {e e'} hf g hg g' hg' => hf.issued g hg g' hg')
  · exact ht.imp fun {e e'} hf g hg g' hg' => not_lt.mpr (hf.used g hg g' hg')
  · exact length_filter_le_one (ht.imp fun {e e'} hf => hf.triggered)
  · intro e he hs
    obtain ⟨earlier, command, later, -, rfl⟩ := (mem_trace_iff (step enc)).mp he
    have hc : (run (step enc) s earlier).isOpen = false := by
      simp only [mem_cons, not_mem_nil, or_false] at hs
      rcases hs with h | h | h | h <;> simp only [eventOf] at h <;> rw [isOpen, h] <;> rfl
    obtain ⟨error, hstep⟩ := step_of_not_isOpen hc enc command
    simp only [eventOf, hstep]

end MissionSchedule

end Hartevo
