import Hartevo.Campaign.Model

/-!
# The sends of a campaign

A send is recorded under an authorization that was issued earlier, when the frequency window still
had room.  The authorization names the revision of its recipient, and every write to a recipient
moves that revision on: an authorization is used at most once, and as long as it can be used its
recipient has got no further message.  The window of a later send then reaches back no further than
the one that was checked, so that no window ever holds more messages than the campaign allows.

The storage does not see authorizations.  It recognises a send by the one message more that the
recipient got, and asks neither for an active recipient nor for room in the window.
-/

namespace Hartevo

open List

/-- A list of times with room in the window that ends after all of them can take one more time, not
before the end of that window. -/
lemma recentMessages_concat_le {sentAt : List DateTime} {checked width now : DateTime} {cap : ℕ}
    (hp : ∀ sent ∈ sentAt, sent ≤ checked)
    (hro : recentMessages (checked - width) checked sentAt < cap) (hnow : checked ≤ now)
    (hcap : ∀ t, recentMessages (t - width) t sentAt ≤ cap) (t : DateTime) :
    recentMessages (t - width) t (sentAt ++ [now]) ≤ cap := by
  have hs : recentMessages (t - width) t (sentAt ++ [now]) =
      recentMessages (t - width) t sentAt + recentMessages (t - width) t [now] :=
    countP_append
  by_cases hin : t - width < now ∧ now ≤ t
  · have he : recentMessages (t - width) t sentAt ≤
        recentMessages (checked - width) checked sentAt := by
      refine countP_mono_left fun sent hse hr => ?_
      simp only [Bool.and_eq_true, decide_eq_true_eq] at hr ⊢
      have hst : checked - width ≤ t - width := sub_le_sub_right (hnow.trans hin.2) width
      exact ⟨lt_of_le_of_lt hst hr.1, hp sent hse⟩
    have hone : recentMessages (t - width) t [now] ≤ 1 := countP_le_length
    omega
  · have hn : recentMessages (t - width) t [now] = 0 := by
      simpa [recentMessages] using hin
    rw [hs, hn]
    exact hcap t

/-- The authorization under which a command records a send. -/
def CampaignCommand.authorization : CampaignCommand → Option CampaignSendAuthorization
  | .recordSend authorization _ _ _ => some authorization
  | _ => none

namespace Campaign

variable {enc : CampaignEncoding} {c c' : Campaign} {cmd : CampaignCommand} {now : DateTime}
  {out : Except CampaignError (Option CampaignSendAuthorization)} {a : CampaignSendAuthorization}
  {r r' : CampaignRecipient} {person : PersonId} {cmds later : List CampaignCommand}
  {consent : ConsentRecord}

/-- The messages in the frequency window that ends at an instant. -/
def recentAt (self : Campaign) (t : DateTime) (sentAt : List DateTime) : ℕ :=
  recentMessages (t - self.frequencyWindowSeconds * nanosPerSecond) t sentAt

/-! ## What the commands do -/

/-- What an authorization says about the campaign that issues it. -/
structure Issues (c : Campaign) (a : CampaignSendAuthorization) (r : CampaignRecipient) : Prop where
  found : c.recipient? a.personId = some r
  policy : a.policyVersion = c.policyVersion
  revision : a.recipientRevision = r.revision
  time : c.updatedAt ≤ a.preparedAt
  room : c.recentAt a.preparedAt r.sentAt < c.maxMessagesPerWindow

/-- A write to an active recipient: of its suppression, or of a message under an authorization that
names the versions of the campaign and of the recipient. -/
structure Writes (c : Campaign) (cmd : CampaignCommand) (person : PersonId)
    (r r' : CampaignRecipient) (now : DateTime) : Prop where
  found : c.recipient? person = some r
  active : r.state = .active
  samePerson : r'.personId = r.personId
  revision : r'.revision = r.revision + 1
  time : c.updatedAt ≤ now
  sent : (cmd.authorization = none ∧ r'.sentAt = r.sentAt) ∨
    ∃ a, cmd.authorization = some a ∧ a.personId = person ∧ a.policyVersion = c.policyVersion ∧
      a.recipientRevision = r.revision ∧ a.preparedAt ≤ now ∧ r'.sentAt = r.sentAt ++ [now]

/-- A command is refused, changes the status and the policy version, issues an authorization, or
writes to one recipient. -/
inductive Transition (c : Campaign) (cmd : CampaignCommand) :
    Except CampaignError (Option CampaignSendAuthorization) → Campaign → Prop
  | refused {e : CampaignError} : Transition c cmd (.error e) c
  | controlled {status : CampaignStatus} {revision : ℕ} {now : DateTime}
    (hcmd : cmd.authorization = none) (htime : c.updatedAt ≤ now) : Transition c cmd (.ok none)
      { c with status, policyVersion := c.policyVersion + 1, revision, updatedAt := now }
  | issued {a : CampaignSendAuthorization} {r : CampaignRecipient}
    (hcmd : cmd.authorization = none) (hissues : c.Issues a r) : Transition c cmd (.ok (some a)) c
  | written {person : PersonId} {r r' : CampaignRecipient} {revision : ℕ} {now : DateTime}
    (hwrites : c.Writes cmd person r r' now) :
    Transition c cmd (.ok none) (c.writeRecipient person r' revision now)

lemma nextRevision_ok {current next : ℕ} :
    nextRevision current = .ok next ↔ current + 1 < 2 ^ 64 ∧ current + 1 = next := by
  rw [nextRevision, okOr_ok, checkedAdd_eq_some]

lemma le_of_prepareBump {rev : ℕ} (h : c.prepareBump now = .ok rev) : c.updatedAt ≤ now := by
  obtain ⟨ht, -⟩ := check_ok.mp h
  simpa using ht

lemma transition_transitionControl {st : CampaignStatus} (hcmd : cmd.authorization = none)
    (h : c.transitionControl st now = .ok c') : Transition c cmd (.ok none) c' := by
  obtain ⟨policyVersion, hp, h⟩ := bind_ok.mp h
  obtain ⟨rev, hb, h⟩ := bind_ok.mp h
  obtain ⟨-, rfl⟩ := nextRevision_ok.mp hp
  cases h
  exact .controlled hcmd (le_of_prepareBump hb)

lemma issues_of_authorizeSend
    (h : c.authorizeSend enc person consent now = .ok a) : ∃ r, c.Issues a r := by
  obtain ⟨-, h⟩ := check_ok.mp h
  obtain ⟨ht, h⟩ := check_ok.mp h
  obtain ⟨r, hf, h⟩ := bind_ok.mp h
  obtain ⟨-, h⟩ := check_ok.mp h
  obtain ⟨windowStart, hs, h⟩ := bind_ok.mp h
  obtain ⟨hr, h⟩ := check_ok.mp h
  obtain ⟨vu, -, h⟩ := bind_ok.mp h
  cases h
  simp only [passed, not_le] at ht hr
  rw [DateTime.eq_of_checkedAddSeconds (okOr_ok.mp hs), neg_mul, ← sub_eq_add_neg] at hr
  exact ⟨r, okOr_ok.mp hf, rfl, rfl, ht, hr⟩

lemma writes_of_recordSend {receiptId : ReceiptId}
    (h : c.recordSend enc a consent receiptId now = .ok c') :
    Transition c (.recordSend a consent receiptId now) (.ok none) c' := by
  obtain ⟨hc, h⟩ := check_ok.mp h
  obtain ⟨r, hf, h⟩ := bind_ok.mp h
  obtain ⟨hr, h⟩ := check_ok.mp h
  obtain ⟨windowStart, -, h⟩ := bind_ok.mp h
  obtain ⟨-, h⟩ := check_ok.mp h
  obtain ⟨recipientRevision, hrev, h⟩ := bind_ok.mp h
  obtain ⟨rev, hb, h⟩ := bind_ok.mp h
  obtain ⟨-, rfl⟩ := nextRevision_ok.mp hrev
  cases h
  simp only [passed] at hc hr
  obtain ⟨⟨⟨⟨⟨⟨⟨-, hpo⟩, -⟩, -⟩, hp⟩, -⟩, -⟩, -⟩ := hc
  obtain ⟨⟨hs, ha⟩, -⟩ := hr
  exact .written ⟨okOr_ok.mp hf, ha, rfl, rfl, le_of_prepareBump hb,
    Or.inr ⟨a, rfl, rfl, hpo, hs.symm, hp, rfl⟩⟩

lemma writes_of_suppressRecipient {ev : String} {reason : SuppressionReason}
    (h : c.suppressRecipient person reason ev now = .ok c') :
    Transition c (.suppressRecipient person reason ev now) (.ok none) c' := by
  obtain ⟨-, h⟩ := check_ok.mp h
  obtain ⟨r, hf, h⟩ := bind_ok.mp h
  obtain ⟨ha, h⟩ := check_ok.mp h
  obtain ⟨recipientRevision, hrev, h⟩ := bind_ok.mp h
  obtain ⟨rev, hb, h⟩ := bind_ok.mp h
  obtain ⟨-, rfl⟩ := nextRevision_ok.mp hrev
  cases h
  exact .written ⟨okOr_ok.mp hf, by simpa using ha, rfl, rfl, le_of_prepareBump hb,
    Or.inl ⟨rfl, rfl⟩⟩

lemma transition_step (enc : CampaignEncoding) (c : Campaign) (cmd : CampaignCommand) :
    Transition c cmd (c.step enc cmd).1 (c.step enc cmd).2 := by
  unfold step
  cases ha : c.apply enc cmd with
  | error e => exact .refused
  | ok result =>
    cases cmd with
    | activate | pause | complete | cancel =>
      obtain ⟨_, hc, rfl⟩ := map_ok.mp ha
      obtain ⟨-, hc⟩ := check_ok.mp hc
      exact transition_transitionControl rfl hc
    | authorizeSend =>
      obtain ⟨a, hau, rfl⟩ := map_ok.mp ha
      obtain ⟨r, hi⟩ := issues_of_authorizeSend hau
      exact .issued rfl hi
    | recordSend =>
      obtain ⟨_, hr, rfl⟩ := map_ok.mp ha
      exact writes_of_recordSend hr
    | suppressRecipient =>
      obtain ⟨_, hs, rfl⟩ := map_ok.mp ha
      exact writes_of_suppressRecipient hs

/-! ## Versions only grow -/

/-- The revision of the recipient with an identity. -/
def revisionOf (c : Campaign) (person : PersonId) : ℕ :=
  (c.recipient? person).elim 0 (·.revision)

/-- The policy version and the revisions of the recipients. -/
def versions (c : Campaign) : ℕ × (PersonId → ℕ) :=
  (c.policyVersion, c.revisionOf)

/-- A recipient is found again after a write to it, and another one as it was. -/
lemma Writes.recipient? (h : c.Writes cmd person r r' now) (rev : ℕ) (other : PersonId) :
    (c.writeRecipient person r' rev now).recipient? other =
      if other = person then some r' else c.recipient? other := by
  have hp : r.personId = person := by simpa using find?_some h.found
  split
  · next hs =>
    subst hs
    exact find?_replaceFirst h.found (by simp [h.samePerson, hp])
  · next hne =>
    refine find?_replaceFirst_of_not h.found ?_ ?_ <;> simp [h.samePerson, hp, Ne.symm hne]

/-- A transition leaves the status and the policy version, or moves the policy version on. -/
lemma Transition.policy_cases (h : Transition c cmd out c') :
    (c'.status = c.status ∧ c'.policyVersion = c.policyVersion) ∨
      c.policyVersion < c'.policyVersion := by
  cases h with
  | controlled => exact .inr (Nat.lt_succ_self _)
  | refused | issued | written => exact .inl ⟨rfl, rfl⟩

lemma Transition.versions_le (h : Transition c cmd out c') : c.versions ≤ c'.versions := by
  cases h with
  | refused | issued => exact le_rfl
  | controlled => exact ⟨Nat.le_succ _, le_rfl⟩
  | @written person r r' _ _ hw =>
    refine ⟨le_rfl, fun other => ?_⟩
    show (c.recipient? other).elim 0 (·.revision) ≤ Option.elim _ 0 _
    rw [hw.recipient?]
    split
    · next hs =>
      rw [hs, hw.found]
      exact (Nat.le_succ _).trans hw.revision.ge
    · exact le_rfl

abbrev CampaignEvent :=
  Event Campaign CampaignCommand (Except CampaignError (Option CampaignSendAuthorization))

/-- A send is recorded under the authorization. -/
def RecordsUnder (a : CampaignSendAuthorization) (e : CampaignEvent) : Prop :=
  e.input.authorization = some a ∧ e.output.isOk = true

/-- A recorded send finds the versions of its authorization, and moves the recipient on. -/
lemma Transition.versions_of_authorization (h : Transition c cmd out c') (hok : out.isOk = true)
    (ha : cmd.authorization = some a) : c.policyVersion = a.policyVersion ∧
      c.revisionOf a.personId = a.recipientRevision ∧
      c'.revisionOf a.personId = a.recipientRevision + 1 := by
  cases h with
  | refused => cases hok
  | controlled hn | issued hn => cases ha.symm.trans hn
  | written hw =>
    rcases hw.sent with ⟨hn, -⟩ | ⟨a', ha', rfl, hp, hrev, -, -⟩
    · cases ha.symm.trans hn
    · cases ha.symm.trans ha'
      simp only [revisionOf, hw.recipient?, hw.found, if_true, Option.elim_some]
      exact ⟨hp.symm, hrev.symm, by rw [hw.revision, hrev]⟩

lemma Transition.policyVersion_of_issued (h : Transition c cmd (.ok (some a)) c') :
    c'.policyVersion = a.policyVersion := by
  cases h with
  | issued _ hi => exact hi.policy.symm

/-! ## Windows -/

/-- As long as the recipient of an authorization is at the revision that it names, all messages to
it were sent before, and there is room for one more. -/
def Covers (c : Campaign) (a : CampaignSendAuthorization) : Prop :=
  ∀ r, c.recipient? a.personId = some r → a.recipientRevision ≤ r.revision ∧
    (a.recipientRevision = r.revision → (∀ sent ∈ r.sentAt, sent ≤ a.preparedAt) ∧
      c.recentAt a.preparedAt r.sentAt < c.maxMessagesPerWindow)

/-- The messages of a campaign are past, and no frequency window has too many of them. -/
structure Capped (c : Campaign) : Prop where
  past : ∀ r ∈ c.recipients, ∀ sent ∈ r.sentAt, sent ≤ c.updatedAt
  capped : ∀ r ∈ c.recipients, ∀ t, c.recentAt t r.sentAt ≤ c.maxMessagesPerWindow

lemma Covers.transition (h : c.Covers a) (ht : Transition c cmd out c') : c'.Covers a := by
  cases ht with
  | refused | controlled | issued => exact h
  | written hw =>
    intro r hf
    rw [hw.recipient?] at hf
    split at hf
    · next hs =>
      obtain rfl := Option.some.inj hf
      have hle := (h _ (hs ▸ hw.found)).1
      have hn := hw.revision
      exact ⟨by omega, fun heq => by omega⟩
    · exact h r hf

lemma Capped.covers_issued (h : c.Capped) (ht : Transition c cmd (.ok (some a)) c') :
    c'.Covers a := by
  cases ht with
  | issued _ hi =>
    intro r hf
    obtain rfl := Option.mem_unique hi.found hf
    refine ⟨hi.revision.le, fun _ => ⟨fun sent hs => ?_, hi.room⟩⟩
    exact (h.past _ (mem_of_find?_eq_some hf) sent hs).trans hi.time

lemma Capped.transition (h : c.Capped) (hc : ∀ a ∈ cmd.authorization, c.Covers a)
    (ht : Transition c cmd out c') : c'.Capped := by
  cases ht with
  | refused | issued => exact h
  | controlled hcmd hti =>
    exact ⟨fun r hr sent hs => (h.past r hr sent hs).trans hti, h.capped⟩
  | @written person r r' revision now hw =>
    have hr := mem_of_find?_eq_some hw.found
    have hpa : ∀ sent ∈ r.sentAt, sent ≤ now := fun sent hs => (h.past r hr sent hs).trans hw.time
    have hnew : (∀ sent ∈ r'.sentAt, sent ≤ now) ∧
        ∀ t, c.recentAt t r'.sentAt ≤ c.maxMessagesPerWindow := by
      rcases hw.sent with ⟨-, hsa⟩ | ⟨a, hcmd, rfl, -, hrev, hti, hs⟩
      · rw [hsa]
        exact ⟨hpa, h.capped r hr⟩
      · obtain ⟨hp, hro⟩ := (hc a hcmd r hw.found).2 hrev
        rw [hs]
        refine ⟨fun sent hmem => ?_, recentMessages_concat_le hp hro hti (h.capped r hr)⟩
        rcases mem_append.mp hmem with hold | hl
        · exact hpa sent hold
        · exact (mem_singleton.mp hl).le
    refine ⟨fun q hq sent hs => ?_, fun q hq => ?_⟩
    · rcases mem_replaceFirst hq with rfl | hq
      · exact hnew.1 sent hs
      · exact (h.past q hq sent hs).trans hw.time
    · rcases mem_replaceFirst hq with rfl | hq
      · exact hnew.2
      · exact h.capped q hq

/-- A recipient that is not active is left as it is. -/
lemma Transition.mem_of_suppressed (h : Transition c cmd out c') (hr : r ∈ c.recipients)
    (hst : r.state ≠ .active) : r ∈ c'.recipients := by
  cases h with
  | refused | controlled | issued => exact hr
  | @written person q q' revision now hw =>
    obtain ⟨before, after, hs, -, hwr⟩ := exists_split_of_find? hw.found
    have hne : r ≠ q := by
      rintro rfl
      exact hst hw.active
    show r ∈ replaceFirst _ q' c.recipients
    rw [hwr, mem_append, mem_cons]
    rw [hs, mem_append, mem_cons] at hr
    exact hr.imp_right fun ha => Or.inr (ha.resolve_left hne)

/-! ## Runs -/

/-- The campaign is one that `create` makes. -/
def IsNew (c : Campaign) : Prop :=
  ∃ id tenantId projectId missionId channel purpose market frequencyWindow cap recipients now,
    create id tenantId projectId missionId channel purpose market frequencyWindow cap recipients
      now = .ok c

/-- Every send is recorded under an authorization that an earlier command of the run returned. -/
def Authorized (enc : CampaignEncoding) (c : Campaign) (commands : List CampaignCommand) : Prop :=
  ∀ i < commands.length, ∀ cmd ∈ commands[i]?, ∀ a ∈ cmd.authorization,
    ∃ e ∈ trace (step enc) c (commands.take i), e.output = .ok (some a)

lemma IsNew.capped (h : c.IsNew) : c.Capped := by
  obtain ⟨_, _, _, _, _, _, _, _, _, recipients, _, h⟩ := h
  obtain ⟨-, h⟩ := check_ok.mp h
  cases h
  have hu : ∀ r ∈ recipients.map (fun p => CampaignRecipient.mk p.1 p.2 .active [] [] 1),
      r.sentAt = [] := by
    intro r hr
    obtain ⟨_, -, rfl⟩ := mem_map.mp hr
    rfl
  refine ⟨fun r hr sent hs => ?_, fun r hr t => ?_⟩
  · rw [hu r hr] at hs
    cases hs
  · rw [hu r hr]
    exact Nat.zero_le _

lemma Authorized.of_append (h : Authorized enc c (cmds ++ later)) : Authorized enc c cmds := by
  intro i hi cmd hcmd a ha
  have he := h i (by rw [length_append]; omega) cmd
    (by rwa [getElem?_append_left hi]) a ha
  rwa [take_append_of_le_length hi.le] at he

/-- In a run under authorizations the windows stay capped, and every authorization is covered. -/
lemma capped_run (hin : c.Capped) (h : Authorized enc c cmds) :
    (run (step enc) c cmds).Capped ∧ ∀ e ∈ trace (step enc) c cmds,
      ∀ a, e.output = .ok (some a) → (run (step enc) c cmds).Covers a := by
  induction cmds using List.reverseRecOn with
  | nil => exact ⟨hin, fun e he => absurd he not_mem_nil⟩
  | append_singleton cmds cmd ih =>
    obtain ⟨hca, hc⟩ := ih h.of_append
    have hcmd : ∀ a ∈ cmd.authorization, (run (step enc) c cmds).Covers a := by
      intro a ha
      obtain ⟨e, he, hi⟩ := h cmds.length (by simp) cmd (by simp) a ha
      rw [take_left] at he
      exact hc e he a hi
    have ht := transition_step enc (run (step enc) c cmds) cmd
    rw [run_append, trace_append]
    refine ⟨hca.transition hcmd ht, fun e he a hi => ?_⟩
    rcases mem_append.mp he with he | he
    · exact (hc e he a hi).transition ht
    · obtain rfl := mem_singleton.mp he
      have hout : ((run (step enc) c cmds).step enc cmd).1 = .ok (some a) := hi
      rw [hout] at ht
      exact hca.covers_issued ht

/-- In a run of a new campaign whose sends are authorized, no frequency window holds more messages
to a recipient than allowed, every authorization is used at most once, suppressed recipients are
left alone, and between an authorization and its send neither status nor policy changes. -/
theorem sends_governed (enc : CampaignEncoding) {c : Campaign} (hnew : c.IsNew)
    (commands : List CampaignCommand) (hauthorized : Authorized enc c commands) :
    (∀ r ∈ (run (step enc) c commands).recipients, ∀ t,
      (run (step enc) c commands).recentAt t r.sentAt ≤
        (run (step enc) c commands).maxMessagesPerWindow) ∧
    ((trace (step enc) c commands).Pairwise fun e e' =>
      ∀ a, ¬(RecordsUnder a e ∧ RecordsUnder a e')) ∧
    (∀ e ∈ trace (step enc) c commands, ∀ r ∈ e.before.recipients, r.state ≠ .active →
      r ∈ e.after.recipients) ∧
    ∀ earlier issue middle record later a,
      trace (step enc) c commands = earlier ++ issue :: (middle ++ record :: later) →
      issue.output = .ok (some a) → RecordsUnder a record →
      ∀ e ∈ middle, e.after.status = e.before.status ∧
        e.after.policyVersion = e.before.policyVersion := by
  have hg := trace_pairwise_le (step enc) (fun c cmd => (transition_step enc c cmd).versions_le)
    c commands
  have hev : ∀ e ∈ trace (step enc) c commands,
      Transition e.before e.input e.output e.after := by
    intro e he
    obtain ⟨earlier, cmd, later, -, rfl⟩ := (mem_trace_iff _).mp he
    exact transition_step enc _ cmd
  refine ⟨(capped_run hnew.capped hauthorized).1.capped, ?_, ?_, ?_⟩
  · refine hg.imp_of_mem fun {e e'} he he' hle a ⟨⟨ha, hok⟩, ⟨ha', hok'⟩⟩ => ?_
    have hf := ((hev e he).versions_of_authorization hok ha).2.2
    have hs := ((hev e' he').versions_of_authorization hok' ha').2.1
    have hp := hle.2 a.personId
    exact absurd (hf.ge.trans (hp.trans hs.le)) (Nat.not_succ_le_self _)
  · intro e he r hr hst
    exact (hev e he).mem_of_suppressed hr hst
  · intro earlier issue middle record later a ht his hre e he
    rw [ht] at hg hev
    obtain ⟨hi, hres⟩ := pairwise_cons.mp (pairwise_append.mp hg).2.1
    have haf := hi e (mem_append_left _ he)
    have hb := (pairwise_append.mp hres).2.2 e he record mem_cons_self
    have hlow := his ▸ hev issue (by simp)
    have hh := (hev record (by simp)).versions_of_authorization hre.2 hre.1
    have hv := hh.1.le.trans (hlow.policyVersion_of_issued.ge.trans haf.1)
    exact (hev e (by simp [he])).policy_cases.resolve_right
      (not_lt.mpr (hb.1.trans hv))

/-- One message an hour, to one person. -/
def sample : Campaign :=
  ⟨"campaign", "tenant", "project", "mission", .email, .emailMarketing, "DE", 3600, 1, .draft, 1,
    [⟨"person", "consent", .active, [], [], 1⟩], 1, 0, 0⟩

lemma isNew_sample : sample.IsNew :=
  ⟨"campaign", "tenant", "project", "mission", .email, .emailMarketing, "DE",
    3600 * nanosPerSecond, 1, [("person", "consent")], 0, by decide +kernel⟩

def sampleConsent : ConsentRecord :=
  ⟨"consent", "tenant", "project", "person", .emailMarketing, .email, "DE", .granted, some 0, none,
    none, 1⟩

def sampleEncoding : CampaignEncoding :=
  ⟨fun _ _ _ _ _ _ => "", fun _ => 0⟩

/-- The campaign is activated, and a message is authorized and sent. -/
def sampleRun : List CampaignCommand :=
  [.activate 1, .authorizeSend "person" sampleConsent 2,
    .recordSend ⟨"campaign", "person", "consent", 1, 2, 1, lowerHex 0, 2,
      2 + 600 * nanosPerSecond⟩ sampleConsent "receipt" 3]

lemma authorized_sampleRun : Authorized sampleEncoding sample sampleRun := by
  unfold Authorized
  decide +kernel

/-- The sample run sends once, within the window. -/
theorem sends_governed_sampleRun :
    sample.IsNew ∧ Authorized sampleEncoding sample sampleRun ∧
      (run (step sampleEncoding) sample sampleRun).recipients.map (·.sentAt) = [[3]] ∧
      ∀ r ∈ (run (step sampleEncoding) sample sampleRun).recipients, ∀ t,
        (run (step sampleEncoding) sample sampleRun).recentAt t r.sentAt ≤
          (run (step sampleEncoding) sample sampleRun).maxMessagesPerWindow :=
  ⟨isNew_sample, authorized_sampleRun, by decide +kernel,
    (sends_governed sampleEncoding isNew_sample sampleRun authorized_sampleRun).1⟩

/-! ## Appended sends -/

end Campaign

end Hartevo
