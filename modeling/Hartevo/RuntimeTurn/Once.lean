import Hartevo.RuntimeTurn.Storage

/-!
# A turn is dispatched and finished once

Two things are kept apart.  A run of commands, successful or not, dispatches the turn at most once,
writes its identity once, answers an approval under the request that is pending, and does nothing
after the end of the turn; a command that fails may still have moved the status, and the run goes on
from there.

The evidence of a valid attempt says the same without knowing how the attempt came about: it is a
path of the status graph, and the graph has one edge into the dispatch, one into the acceptance, and
none out of an end.
-/

namespace Hartevo

open Command List

namespace RuntimeTurnAttempt

variable {next : RuntimeTurnAttempt} {now : DateTime} {previous current : RuntimeTurnStatus}
  {kind : RuntimeTurnEvidenceKind} {first : RuntimeTurnEvidence}

variable {enc : RuntimeTurnEncoding} {self start att : RuntimeTurnAttempt}
  {cmd : RuntimeTurnCommand} {dr : Draft} {rp : RuntimeTurnReply}

/-! ## One step, successful or not -/

lemma eq_of_withoutRecord (h : withoutRecord next = withoutRecord att) :
    next = { att with
      evidence := next.evidence, revision := next.revision, updatedAt := next.updatedAt } := by
  cases next
  cases att
  simp only [withoutRecord, mk.injEq] at h ⊢
  simp [h]

lemma step_frame (enc : RuntimeTurnEncoding) (self : RuntimeTurnAttempt)
    (cmd : RuntimeTurnCommand) :
    (self.step enc cmd).2 = self ∨ ∃ dr evidence revision updatedAt, Planned enc self cmd dr ∧
        (self.step enc cmd).2 = { dr.attempt with
          evidence := evidence, revision := revision, updatedAt := updatedAt } := by
  rcases hp : self.plan enc cmd with refusal | - | dr
  · rw [step_eq, hp]
    exact .inl rfl
  · rw [step_eq, hp]
    exact .inl rfl
  · rw [step_eq, hp]
    exact .inr ⟨dr, _, _, _, planned_of_plan hp,
      eq_of_withoutRecord (keeps_withoutRecord_appendEvidence dr.attempt)⟩

/-- What holds of the status before, and of the status of every plan, holds after the command. -/
lemma status_step {P : RuntimeTurnStatus → Prop} (hse : P self.status)
    (hp : ∀ dr, Planned enc self cmd dr → P dr.attempt.status) :
    P (self.step enc cmd).2.status := by
  rcases step_frame enc self cmd with hs | ⟨dr, _, _, _, hd, hn⟩
  · rwa [hs]
  · rw [hn]
    exact hp dr hd

/-- No command leads back to a prepared attempt. -/
lemma status_ne_prepared_step (h : self.status ≠ .prepared) :
    (self.step enc cmd).2.status ≠ .prepared := by
  apply status_step (P := (· ≠ .prepared)) h
  intro dr hp
  cases hp with
  | progress | confirm => exact h
  | dispatchFailed =>
    rename_i definitive _ _ _
    cases definitive <;> nofun
  | _ => nofun

lemma Planned.not_terminal (h : Planned enc self cmd dr) : self.status.isTerminal = false := by
  have he := h.transition
  cases hs : self.status with
  | completed | interrupted | failed =>
    rw [hs] at he
    cases ha : dr.attempt.status <;> cases hk : dr.kind <;>
      rw [ha, hk] at he <;> cases he
  | _ => rfl

/-- An uncertain turn stays uncertain or ends. -/
lemma status_of_uncertain_step (h : self.status = .uncertain) :
    (self.step enc cmd).2.status = .uncertain ∨ (self.step enc cmd).2.status.isTerminal = true := by
  apply status_step (P := fun st => st = .uncertain ∨ st.isTerminal = true)
  · exact .inl h
  · intro dr hp
    have he := hp.transition
    rw [h] at he
    cases ha : dr.attempt.status with
    | uncertain => exact .inl rfl
    | completed | interrupted | failed => exact .inr rfl
    | _ =>
      rw [ha] at he
      cases hk : dr.kind <;> rw [hk] at he <;> cases he

/-- After the end of the turn nothing changes, and only the fence succeeds. -/
lemma step_of_terminal (h : self.status.isTerminal = true) : (self.step enc cmd).2 = self ∧
      ∀ rp, (self.step enc cmd).1 = .ok rp →
        rp = .restarted .alreadySafe ∧ ∃ now, cmd = .fenceAfterCoordinatorRestart now := by
  rcases hp : self.plan enc cmd with refusal | - | dr
  · rw [step_eq, hp]
    refine ⟨rfl, ?_⟩
    intro rp hr
    cases hr
  · obtain ⟨hf, -⟩ := fence_of_plan_none hp
    rw [step_eq, hp]
    refine ⟨rfl, ?_⟩
    intro rp hr
    cases hr
    exact ⟨rfl, hf⟩
  · rw [(planned_of_plan hp).not_terminal] at h
    cases h

/-- A dispatch succeeds only on a prepared attempt, which is then no longer prepared. -/
lemma status_of_beginDispatch (h : (self.step enc (.beginDispatch now)).1 = .ok rp) :
    self.status = .prepared ∧ (self.step enc (.beginDispatch now)).2.status = .dispatching := by
  rcases hstep : self.step enc (.beginDispatch now) with ⟨result, next⟩
  rw [hstep] at h
  change result = .ok rp at h
  subst h
  rcases step_ok hstep with ⟨hn, -⟩ | ⟨dr, hp, -, rfl, -⟩
  · obtain ⟨⟨later, hf⟩, -⟩ := fence_of_plan_none hn
    cases hf
  · cases hp with
    | dispatch hs => exact ⟨hs, rfl⟩

/-! ## Write-once fields over a run -/

lemma changed_eq_false {prev current : Option String} :
    changed prev current = false ↔ ∀ value, prev = some value → current = some value := by
  cases prev <;> simp [changed]

lemma changed_trans {first second third : Option String} (h₁ : changed first second = false)
    (h₂ : changed second third = false) : changed first third = false := by
  rw [changed_eq_false] at h₁ h₂ ⊢
  intro value hv
  exact h₂ value (h₁ value hv)

lemma WriteOnce.refl (attempt : RuntimeTurnAttempt) : attempt.WriteOnce attempt :=
  ⟨changed_self _, changed_self _, changed_self _, changed_self _⟩

lemma WriteOnce.trans {first second third : RuntimeTurnAttempt} (h₁ : first.WriteOnce second)
    (h₂ : second.WriteOnce third) : first.WriteOnce third :=
  ⟨changed_trans h₁.identity h₂.identity, changed_trans h₁.identityDigest h₂.identityDigest,
    changed_trans h₁.request h₂.request, changed_trans h₁.response h₂.response⟩

/-- One command, successful or not, writes the identity once. -/
lemma writeOnce_step (enc : RuntimeTurnEncoding) (cmd : RuntimeTurnCommand)
    (hs : self.isUnsent → self.NoIdentity) :
    self.WriteOnce (self.step enc cmd).2 ∧
      ((self.step enc cmd).2.isUnsent → (self.step enc cmd).2.NoIdentity) := by
  rcases step_frame enc self cmd with hsa | ⟨dr, _, _, _, hp, hn⟩
  · rw [hsa]
    exact ⟨WriteOnce.refl self, hs⟩
  · rw [hn]
    have ho := hp.writeOnce hs
    refine ⟨{ ho with }, fun hu => ?_⟩
    have hno := hp.unsent hs hu
    exact { hno with }

/-- A run writes the identity once. -/
lemma writeOnce_run (hs : self.isUnsent → self.NoIdentity)
    (cmds : List RuntimeTurnCommand) : self.WriteOnce (run (step enc) self cmds) := by
  induction cmds generalizing self with
  | nil => exact WriteOnce.refl self
  | cons cmd cmds ih =>
    obtain ⟨hstep, hn⟩ := writeOnce_step enc cmd hs
    exact hstep.trans (ih hn)

/-! ## Dispatches and approvals over a run -/

/-- A call of a command and what it did. -/
abbrev TurnEvent :=
  Event RuntimeTurnAttempt RuntimeTurnCommand (Except RuntimeTurnError RuntimeTurnReply)

variable {evs : List TurnEvent} {event : TurnEvent}

/-- A dispatch that succeeded. -/
def dispatched (event : TurnEvent) : Bool :=
  match event.input, event.output with
  | .beginDispatch _, .ok _ => true
  | _, _ => false

lemma dispatched_eventOf (h : dispatched (eventOf (step enc) self cmd) = true) :
    self.status = .prepared ∧ (self.step enc cmd).2.status = .dispatching := by
  cases cmd with
  | beginDispatch now =>
    rcases hres : (self.step enc (.beginDispatch now)).1 with error | rp
    · simp [dispatched, eventOf, hres] at h
    · exact status_of_beginDispatch hres
  | _ => simp [dispatched, eventOf] at h

lemma countP_dispatched_eq_zero (hs : self.status ≠ .prepared) (cmds : List RuntimeTurnCommand) :
    (trace (step enc) self cmds).countP dispatched = 0 := by
  induction cmds generalizing self with
  | nil => rfl
  | cons cmd cmds ih =>
    have hnot : ¬dispatched (eventOf (step enc) self cmd) = true := by
      intro hd
      exact hs (dispatched_eventOf hd).1
    rw [trace_cons, countP_cons_of_neg hnot]
    exact ih (status_ne_prepared_step hs)

/-- A run dispatches the turn at most once. -/
lemma countP_dispatched_le_one (cmds : List RuntimeTurnCommand) :
    (trace (step enc) self cmds).countP dispatched ≤ 1 := by
  induction cmds generalizing self with
  | nil => simp
  | cons cmd cmds ih =>
    rw [trace_cons]
    by_cases hd : dispatched (eventOf (step enc) self cmd) = true
    · have ha : (self.step enc cmd).2.status ≠ .prepared := by
        rw [(dispatched_eventOf hd).2]
        nofun
      rw [countP_cons_of_pos hd, countP_dispatched_eq_zero ha]
    · rw [countP_cons_of_neg hd]
      exact ih

/-- What a run does with approvals: a request becomes pending, or a response to it starts. -/
inductive ApprovalAct
  | requested (requestDigest : String)
  | answered (requestDigest : String)

variable {act : ApprovalAct}

/-- A request counts when it becomes pending, even if recording it then fails; an answer counts when
it succeeds. -/
def approvalAct (event : TurnEvent) : Option ApprovalAct :=
  match event.input with
  | .requestLocalApproval requestDigest _ =>
    if event.before.status = .running ∧ event.after.status = .waitingLocalApproval then
      some (.requested requestDigest)
    else none
  | .beginLocalApprovalResponse requestDigest _ _ =>
    if event.output.isOk then some (.answered requestDigest) else none
  | _ => none

/-- Every answer comes right after the request with its digest. -/
def AnswersOwn (acts : List ApprovalAct) : Prop :=
  ∀ earlier requestDigest later, acts = earlier ++ .answered requestDigest :: later →
    ∃ before, earlier = before ++ [.requested requestDigest]

lemma AnswersOwn.concat {acts : List RuntimeTurnAttempt.ApprovalAct} (h : AnswersOwn acts)
    (hact : ∀ requestDigest, act = .answered requestDigest →
      ∃ before, acts = before ++ [.requested requestDigest]) : AnswersOwn (acts ++ [act]) := by
  intro earlier requestDigest later hs
  rcases eq_nil_or_concat later with rfl | ⟨init, last, rfl⟩
  · obtain ⟨rfl, hl⟩ := append_inj' hs rfl
    exact hact requestDigest (singleton_inj.mp hl)
  · have hsa : acts ++ [act] = (earlier ++ .answered requestDigest :: init) ++ [last] := by
      simpa using hs
    obtain ⟨ha, -⟩ := append_inj' hsa rfl
    exact h earlier requestDigest init ha

/-- The answers so far are right, and a waiting attempt waits for the last request. -/
structure ApprovalState (events : List TurnEvent) (attempt : RuntimeTurnAttempt) : Prop where
  answers : AnswersOwn (events.filterMap approvalAct)
  waiting : attempt.status = .waitingLocalApproval → ∃ before requestDigest,
    events.filterMap approvalAct = before ++ [.requested requestDigest] ∧
      attempt.pendingApprovalRequestDigest = some requestDigest

/-- A call that is no act, and after which the attempt waits only as it did before. -/
lemma ApprovalState.quiet (h : ApprovalState evs self) (hact : approvalAct event = none)
    (hw : next.status = .waitingLocalApproval → self.status = .waitingLocalApproval ∧
      next.pendingApprovalRequestDigest = self.pendingApprovalRequestDigest) :
    ApprovalState (evs ++ [event]) next := by
  have hs : (evs ++ [event]).filterMap approvalAct = evs.filterMap approvalAct := by
    simp [hact]
  refine ⟨hs ▸ h.answers, ?_⟩
  intro hn
  obtain ⟨hse, hp⟩ := hw hn
  obtain ⟨before, requestDigest, ha, hd⟩ := h.waiting hse
  exact ⟨before, requestDigest, hs.trans ha, hp.trans hd⟩

lemma approvalAct_of_refused {error : RuntimeTurnError}
    : approvalAct ⟨self, cmd, .error error, self⟩ = none := by
  cases cmd with
  | requestLocalApproval =>
    simp only [approvalAct, ite_eq_right_iff, reduceCtorEq, imp_false]
    rintro ⟨hr, hw⟩
    rw [hr] at hw
    cases hw
  | beginLocalApprovalResponse => rfl
  | _ => rfl

/-- The only act of a response is the answer. -/
lemma approvalAct_of_response {requestDigest decisionDigest : String}
    (hi : event.input = .beginLocalApprovalResponse requestDigest decisionDigest now)
    (h : approvalAct event = some act) : act = .answered requestDigest := by
  rw [approvalAct, hi] at h
  by_cases hok : event.output.isOk = true
  · simpa [hok, eq_comm] using h
  · simp [hok] at h

/-- One command, successful or not, keeps the approvals right. -/
lemma ApprovalState.step (h : ApprovalState evs self) (cmd : RuntimeTurnCommand) :
    ApprovalState (evs ++ [eventOf (step enc) self cmd])
      (self.step enc cmd).2 := by
  rcases hpl : self.plan enc cmd with refusal | - | dr
  · have hstep : self.step enc cmd = (.error refusal, self) := by
      rw [step_eq, hpl]
      rfl
    rw [eventOf, hstep]
    exact h.quiet approvalAct_of_refused fun hw => ⟨hw, rfl⟩
  · obtain ⟨⟨now, rfl⟩, -⟩ := fence_of_plan_none hpl
    have hstep : (self.step enc (.fenceAfterCoordinatorRestart now)).2 = self := by
      rw [step_eq, hpl]
      rfl
    rw [hstep]
    exact h.quiet rfl fun hw => ⟨hw, rfl⟩
  have hpla := planned_of_plan hpl
  have hf : (self.step enc cmd).2 = { dr.attempt with
      evidence := (self.step enc cmd).2.evidence
      revision := (self.step enc cmd).2.revision
      updatedAt := (self.step enc cmd).2.updatedAt } := by
    apply eq_of_withoutRecord
    rw [step_eq, hpl]
    exact keeps_withoutRecord_appendEvidence dr.attempt
  cases hpla with
  | request hs =>
    rename_i requestDigest now _ _
    have hact : approvalAct (eventOf (RuntimeTurnAttempt.step enc) self
        (.requestLocalApproval requestDigest now)) = some (.requested requestDigest) := by
      have haf := congrArg status hf
      exact if_pos ⟨hs, haf⟩
    have hac : (evs ++ [eventOf (RuntimeTurnAttempt.step enc) self
        (.requestLocalApproval requestDigest now)]).filterMap approvalAct =
        evs.filterMap approvalAct ++ [.requested requestDigest] := by
      simp [hact]
    refine ⟨?_, fun _ => ⟨_, requestDigest, hac, ?_⟩⟩
    · rw [hac]
      exact h.answers.concat fun _ ha => by cases ha
    · have hp := congrArg pendingApprovalRequestDigest hf
      exact hp
  | respond hs hp =>
    rename_i requestDigest decisionDigest now _
    have haf : (self.step enc
        (.beginLocalApprovalResponse requestDigest decisionDigest now)).2.status =
        .approvalResponding := by
      have hfi := congrArg status hf
      exact hfi
    obtain ⟨before, digest, hac, hd⟩ := h.waiting hs
    have hsa : digest = requestDigest := Option.mem_unique hd hp
    refine ⟨?_, fun hw => by cases haf.symm.trans hw⟩
    rcases hact : approvalAct (eventOf (RuntimeTurnAttempt.step enc) self
      (.beginLocalApprovalResponse requestDigest decisionDigest now)) with - | act
    · have hq : (evs ++ [eventOf (RuntimeTurnAttempt.step enc) self
          (.beginLocalApprovalResponse requestDigest decisionDigest now)]).filterMap approvalAct =
          evs.filterMap approvalAct := by
        simp [hact]
      rw [hq]
      exact h.answers
    · have hm : (evs ++ [eventOf (RuntimeTurnAttempt.step enc) self
          (.beginLocalApprovalResponse requestDigest decisionDigest now)]).filterMap approvalAct =
          evs.filterMap approvalAct ++ [act] := by
        simp [hact]
      rw [hm, approvalAct_of_response rfl hact]
      apply h.answers.concat
      intro answeredDigest ha
      cases ha
      exact ⟨before, by rw [hac, hsa]⟩
  | progress =>
    refine h.quiet rfl fun hw => ?_
    rw [hf] at hw ⊢
    exact ⟨hw, rfl⟩
  | confirm hs =>
    refine h.quiet rfl fun hw => ?_
    rw [hf] at hw
    cases hs.symm.trans hw
  | dispatchFailed =>
    rename_i definitive _ _ _
    refine h.quiet rfl fun hw => ?_
    rw [hf] at hw
    cases definitive <;> cases hw
  | _ =>
    refine h.quiet rfl fun hw => ?_
    rw [hf] at hw
    cases hw

/-- Over a run from an attempt that waits for nothing, every answer is to the pending request. -/
lemma answersOwn_trace (hse : self.status ≠ .waitingLocalApproval)
    (cmds : List RuntimeTurnCommand) :
    AnswersOwn ((trace (step enc) self cmds).filterMap approvalAct) := by
  have hst : ApprovalState [] self := by
    refine ⟨?_, fun hw => absurd hw hse⟩
    intro earlier requestDigest later hs
    cases earlier <;> cases hs
  exact (trace_invariant (step enc) (J := ApprovalState) hst
    (fun evs att cmd hsta => hsta.step cmd) cmds).answers

/-! ## The evidence of a valid attempt -/

def stage : RuntimeTurnStatus → ℕ
  | .prepared => 0
  | .dispatching => 1
  | _ => 2

lemma stage_le_of_transition (h : validStatusTransition previous current kind = true) :
    stage previous ≤ stage current := by
  simp only [validStatusTransition] at h
  split at h
  all_goals try decide
  · simp only [Bool.and_eq_true, beq_iff_eq] at h
    rw [h.2]
    cases previous <;> decide
  · split at h
    · next hs => rw [beq_iff_eq.mp hs]
    · rw [Bool.and_eq_true] at h
      cases current <;> cases previous <;> first | decide | simp [isTerminalReport] at h

lemma not_terminal_of_transition (h : validStatusTransition previous current kind = true) :
    previous.isTerminal = false := by
  cases previous with
  | completed | interrupted | failed =>
    cases current <;> cases kind <;> cases h
  | _ => rfl

def isEnd (entry : RuntimeTurnEvidence) : Bool :=
  entry.resultingStatus.isTerminal ||
    (entry.kind == .completed || entry.kind == .interrupted || entry.kind == .failed)

lemma terminal_of_isEnd {prev entry : RuntimeTurnEvidence} (h : Follows prev entry)
    (hend : isEnd entry = true) : entry.resultingStatus.isTerminal = true := by
  have he := h.2
  simp only [isEnd, Bool.or_eq_true, beq_iff_eq] at hend
  rcases hend with ht | (hk | hk) | hk
  · exact ht
  all_goals
    rw [hk] at he
    cases hcur : entry.resultingStatus <;> rw [hcur] at he <;> first
      | rfl
      | cases hp : prev.resultingStatus <;> rw [hp] at he <;> cases he

/-- A kind of entry that only leads from one stage to the next occurs at most once in a chain. -/
lemma countP_kind_le_one {rest : List RuntimeTurnEvidence} (level : ℕ)
    (hk : ∀ previous current, validStatusTransition previous current kind = true →
      stage previous = level ∧ stage current = level + 1) (h : (first :: rest).IsChain Follows) :
    rest.countP (·.kind = kind) ≤ 1 ∧
      (level < stage first.resultingStatus → rest.countP (·.kind = kind) = 0) := by
  induction rest generalizing first with
  | nil => simp
  | cons entry rest ih =>
    obtain ⟨hf, hr⟩ := isChain_cons_cons.mp h
    obtain ⟨hone, hn⟩ := ih hr
    have hs := stage_le_of_transition hf.2
    by_cases he : entry.kind = kind
    · have hed := hf.2
      rw [he] at hed
      obtain ⟨hp, hcur⟩ := hk _ _ hed
      have hl : rest.countP (·.kind = kind) = 0 := hn (by omega)
      rw [countP_cons_of_pos (by simpa using he), hl]
      exact ⟨le_refl 1, fun hle => by omega⟩
    · rw [countP_cons_of_neg (by simpa using he)]
      exact ⟨hone, fun hle => hn (by omega)⟩

structure EvidenceOnce (attempt : RuntimeTurnAttempt) : Prop where
  dispatchStarted : attempt.evidence.countP (·.kind = .dispatchStarted) ≤ 1
  dispatchAccepted : attempt.evidence.countP (·.kind = .dispatchAccepted) ≤ 1
  terminal : ∀ earlier entry later, attempt.evidence = earlier ++ entry :: later →
    isEnd entry = true → later = []

/-- The evidence of a valid attempt has one dispatch, one acceptance, and nothing after an end. -/
lemma Valid.evidenceOnce (h : self.Valid enc) : self.EvidenceOnce := by
  have hc : self.evidence.IsChain Follows := isChain_of_validateEvidence h.evidence
  obtain ⟨first, rest, hev, -, hk, hp⟩ := h.header.first
  have hr : (first :: rest).IsChain Follows := hev ▸ hc
  refine ⟨?_, ?_, ?_⟩
  · have hone : rest.countP (·.kind = .dispatchStarted) ≤ 1 := (countP_kind_le_one 0 (by
        intro previous current he
        cases previous <;> cases current <;> first | exact ⟨rfl, rfl⟩ | cases he) hr).1
    rw [hev, countP_cons_of_neg (by simp [hk])]
    exact hone
  · have hone : rest.countP (·.kind = .dispatchAccepted) ≤ 1 := (countP_kind_le_one 1 (by
        intro previous current he
        cases previous <;> cases current <;> first | exact ⟨rfl, rfl⟩ | cases he) hr).1
    rw [hev, countP_cons_of_neg (by simp [hk])]
    exact hone
  · intro earlier entry later hs hend
    have ht : entry.resultingStatus.isTerminal = true := by
      rcases eq_nil_or_concat earlier with rfl | ⟨init, previous, rfl⟩
      · -- the first entry is a preparation, which is no end
        rw [hev] at hs
        cases hs
        simp [isEnd, hk, hp, RuntimeTurnStatus.isTerminal] at hend
      · rw [hs, concat_eq_append, append_assoc, singleton_append] at hc
        exact terminal_of_isEnd (isChain_append_cons_cons.mp hc).2.1 hend
    cases later with
    | nil => rfl
    | cons next later =>
      rw [hs] at hc
      have hf := (isChain_append_cons_cons.mp hc).2.1
      rw [not_terminal_of_transition hf.2] at ht
      cases ht

/-! ## The whole turn -/

/-- What holds of a run of commands, successful or not. -/
structure TurnOnce (enc : RuntimeTurnEncoding) (start : RuntimeTurnAttempt)
    (commands : List RuntimeTurnCommand) : Prop where
  dispatched : (trace (step enc) start commands).countP dispatched ≤ 1
  writeOnce : ∀ earlier later, commands = earlier ++ later →
    (run (step enc) start earlier).WriteOnce (run (step enc) start commands)
  answers : AnswersOwn ((trace (step enc) start commands).filterMap approvalAct)
  terminal : ∀ event ∈ trace (step enc) start commands,
    event.before.status.isTerminal = true → event.after = event.before ∧
      ∀ reply, event.output = .ok reply → reply = .restarted .alreadySafe ∧
        ∃ now, event.input = .fenceAfterCoordinatorRestart now
  uncertain : ∀ event ∈ trace (step enc) start commands,
    event.before.status = .uncertain →
      event.after.status = .uncertain ∨ event.after.status.isTerminal = true

/-- A turn is dispatched and finished once, in every run from `prepare` and in the evidence of every
valid attempt. -/
theorem turn_once :
    (∀ id scope now start, prepare enc id scope now = .ok start →
      ∀ commands, TurnOnce enc start commands) ∧
    ∀ attempt : RuntimeTurnAttempt, attempt.validate enc = .ok () → attempt.EvidenceOnce := by
  refine ⟨?_, fun attempt hv => (validate_ok.mp hv).evidenceOnce⟩
  intro id scope now start hpr commands
  obtain ⟨-, rfl⟩ := prepare_ok.mp hpr
  have hun : (prepared enc id scope now).isUnsent →
      (prepared enc id scope now).NoIdentity :=
    fun _ => ⟨rfl, rfl, rfl, rfl⟩
  have hp : (prepared enc id scope now).status ≠ .waitingLocalApproval := by
    intro hw
    cases hw
  refine ⟨countP_dispatched_le_one commands, ?_, answersOwn_trace hp commands, ?_, ?_⟩
  · rintro earlier later rfl
    rw [run_append]
    refine writeOnce_run ?_ later
    exact run_invariant (step enc) (I := fun attempt => attempt.isUnsent → attempt.NoIdentity)
      (fun attempt command h => (writeOnce_step enc command h).2) hun earlier
  · intro event he ht
    obtain ⟨earlier, command, later, -, rfl⟩ := (mem_trace_iff (step enc)).mp he
    exact step_of_terminal ht
  · intro event he hu
    obtain ⟨earlier, command, later, -, rfl⟩ := (mem_trace_iff (step enc)).mp he
    exact status_of_uncertain_step hu

/-- The prepared sample, dispatched twice. -/
theorem turn_once_preparedSample :
    TurnOnce .sample preparedSample [.beginDispatch 11, .beginDispatch 12] ∧
      preparedSample.EvidenceOnce :=
  ⟨turn_once.1 "turn" .sample 10 preparedSample
      (prepare_of_scope RuntimeTurnScope.validate_sample) _,
    turn_once.2 preparedSample (validate_ok.mpr valid_preparedSample)⟩

/-- The fence succeeds on a turn that has failed. -/
theorem fence_succeeds_after_failure :
    prepare .sample "turn" .sample 10 = .ok preparedSample ∧
      (run (step .sample) preparedSample [.failWithoutDispatch turnDigest 11]).status = .failed ∧
      ((run (step .sample) preparedSample [.failWithoutDispatch turnDigest 11]).step .sample
        (.fenceAfterCoordinatorRestart 12)).1 = .ok (.restarted .alreadySafe) := by
  have ht : preparedSample.Timely 11 :=
    reachable_preparedSample.sound.timely (by decide) (by decide)
  have hp : preparedSample.plan .sample (.failWithoutDispatch turnDigest 11) =
      .ok (some ⟨{ preparedSample.withFailure .dispatchNotSent turnDigest 11 with
        status := .failed }, .failed, turnDigest, .done⟩) := by
    simp only [plan, planFailure, failureRefused, isSha256_turnDigest]
    rfl
  have hstep := step_of_plan _ hp valid_preparedSample ht rfl
  have hs : (run (step .sample) preparedSample
      [.failWithoutDispatch turnDigest 11]).status = .failed := by
    rw [run_cons, run_nil, hstep]
    rfl
  refine ⟨prepare_of_scope RuntimeTurnScope.validate_sample, hs, ?_⟩
  rw [step_eq, plan, hs]
  rfl

end RuntimeTurnAttempt

end Hartevo
