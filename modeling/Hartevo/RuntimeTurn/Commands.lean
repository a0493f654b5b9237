import Hartevo.RuntimeTurn.Model

/-!
# The commands of a runtime turn

A command checks the status, writes the fields of the attempt, and records an entry of the evidence
at the end.  `appendEvidence` can fail, and what the command wrote before then stays written.
`RuntimeTurnAttempt.step` is one call of any of them.
-/

namespace Hartevo

open Command

/-! ## Commands -/

inductive RuntimeTurnRestartDisposition
  | failedBeforeDispatch | frozenUncertain | alreadySafe
deriving DecidableEq

inductive RuntimeTurnObservedKind
  | turnStarted | itemStarted | agentMessageDelta | itemCompleted | diagnostic | completed
  | interrupted | failed

/-- The entry of an observation. -/
def RuntimeTurnObservedKind.evidenceKind : RuntimeTurnObservedKind → RuntimeTurnEvidenceKind
  | .turnStarted => .turnStarted
  | .itemStarted => .itemStarted
  | .agentMessageDelta => .agentMessageDelta
  | .itemCompleted => .itemCompleted
  | .diagnostic => .diagnostic
  | .completed => .completed
  | .interrupted => .interrupted
  | .failed => .failed

namespace RuntimeTurnAttempt

def requireStatus (expected : RuntimeTurnStatus) (self : RuntimeTurnAttempt) :
    Except RuntimeTurnError Unit :=
  rejectIf (self.status != expected) .invalidTransition

/-- The failure cannot be recorded: its evidence is no digest, or there are too many. -/
def failureRefused (evidenceDigest : String) (self : RuntimeTurnAttempt) : Bool :=
  !isSha256 evidenceDigest || decide (maxTurnFailures ≤ self.failures.length)

def withFailure (class_ : RuntimeTurnFailureClass) (evidenceDigest : String) (now : DateTime)
    (self : RuntimeTurnAttempt) : RuntimeTurnAttempt :=
  { self with failures := self.failures ++ [⟨class_, evidenceDigest, now⟩] }

def recordFailure (class_ : RuntimeTurnFailureClass) (evidenceDigest : String) (now : DateTime) :
    Command RuntimeTurnAttempt RuntimeTurnError Unit := do
  check fun self => rejectIf (self.failureRefused evidenceDigest) .invalidEvidence
  modify (withFailure class_ evidenceDigest now)

/-- The entry cannot be recorded: its evidence is no digest, it is too early, or there are too
many. -/
def evidenceRefused (evidenceDigest : String) (now : DateTime) (self : RuntimeTurnAttempt) : Bool :=
  !isSha256 evidenceDigest || decide (now < self.updatedAt) ||
    decide (maxTurnEvidence ≤ self.evidence.length)

def withEvidence (kind : RuntimeTurnEvidenceKind) (evidenceDigest : String) (now : DateTime)
    (sequence : ℕ) (self : RuntimeTurnAttempt) : RuntimeTurnAttempt :=
  { self with
    evidence := self.evidence ++ [⟨sequence, kind, evidenceDigest, self.status, now⟩]
    revision := sequence
    updatedAt := now }

def appendEvidence (enc : RuntimeTurnEncoding) (kind : RuntimeTurnEvidenceKind)
    (evidenceDigest : String) (now : DateTime) :
    Command RuntimeTurnAttempt RuntimeTurnError Unit := do
  check fun self => rejectIf (self.evidenceRefused evidenceDigest now) .invalidEvidence
  let sequence ← check fun self => okOr (checkedAdd 64 self.revision 1) .revisionOverflow
  modify (withEvidence kind evidenceDigest now sequence)
  check fun self => self.validate enc

/-- The attempt before its first entry. -/
def blank (id : RuntimeTurnAttemptId) (scope : RuntimeTurnScope) (now : DateTime) :
    RuntimeTurnAttempt where
  id := id
  scope := scope
  runtimeTurnId := none
  runtimeTurnIdDigest := none
  dispatchRequestDigest := none
  dispatchResponseDigest := none
  pendingApprovalRequestDigest := none
  approvalDecisionDigest := none
  interruptRequestDigest := none
  failures := []
  evidence := []
  status := .prepared
  revision := 0
  createdAt := now
  updatedAt := now

def prepare (enc : RuntimeTurnEncoding) (id : RuntimeTurnAttemptId) (scope : RuntimeTurnScope)
    (now : DateTime) : Except RuntimeTurnError RuntimeTurnAttempt := do
  scope.validate enc
  let scopeDigest ← scope.digest enc
  match (appendEvidence enc .prepared scopeDigest now).exec (blank id scope now) with
  | (.error error, _) => .error error
  | (.ok (), attempt) => do
    attempt.validate enc
    return attempt

def dispatchEvidence (enc : RuntimeTurnEncoding) (self : RuntimeTurnAttempt) : String :=
  enc.textDigest (self.scope.assemblyManifestDigest ++ ":" ++
    self.scope.runtimeMappingDigest ++ ":" ++ toString (self.revision + 1))

def beginDispatch (enc : RuntimeTurnEncoding) (now : DateTime) :
    Command RuntimeTurnAttempt RuntimeTurnError Unit := do
  check (requireStatus .prepared)
  modify fun self => { self with status := .dispatching }
  let evidence ← check fun self => .ok (self.dispatchEvidence enc)
  appendEvidence enc .dispatchStarted evidence now

def failWithoutDispatch (enc : RuntimeTurnEncoding) (evidenceDigest : String)
    (now : DateTime) : Command RuntimeTurnAttempt RuntimeTurnError Unit := do
  check (requireStatus .prepared)
  recordFailure .dispatchNotSent evidenceDigest now
  modify fun self => { self with status := .failed }
  appendEvidence enc .failed evidenceDigest now

def acceptDispatch (enc : RuntimeTurnEncoding)
    (runtimeTurnId requestDigest responseDigest : String) (now : DateTime) :
    Command RuntimeTurnAttempt RuntimeTurnError Unit := do
  check (requireStatus .dispatching)
  check fun _ => rejectIf (!isIdentifier runtimeTurnId || !isSha256 requestDigest ||
    !isSha256 responseDigest) .invalidEvidence
  modify fun self => { self with
    runtimeTurnIdDigest := some (enc.textDigest runtimeTurnId)
    runtimeTurnId := some runtimeTurnId
    dispatchRequestDigest := some requestDigest
    dispatchResponseDigest := some responseDigest
    status := .running }
  appendEvidence enc .dispatchAccepted responseDigest now

def failDispatch (enc : RuntimeTurnEncoding) (class_ : RuntimeTurnFailureClass)
    (evidenceDigest : String) (definitive : Bool) (now : DateTime) :
    Command RuntimeTurnAttempt RuntimeTurnError Unit := do
  check (requireStatus .dispatching)
  recordFailure class_ evidenceDigest now
  modify fun self => { self with status := if definitive then .failed else .uncertain }
  appendEvidence enc (if definitive then .failed else .uncertain) evidenceDigest now

def activeWithIdentity (self : RuntimeTurnAttempt) : Bool :=
  self.runtimeTurnId.isSome && self.status.isObservable

/-- The turn has ended. -/
def finished (status : RuntimeTurnStatus) (self : RuntimeTurnAttempt) : RuntimeTurnAttempt :=
  { self with status := status, pendingApprovalRequestDigest := none }

/-- The part of `observe` that writes: an observation of the end of the turn ends it. -/
def applyObservation (kind : RuntimeTurnObservedKind) (evidenceDigest : String) (now : DateTime) :
    Command RuntimeTurnAttempt RuntimeTurnError RuntimeTurnEvidenceKind :=
  match kind with
  | .completed => do
    modify (finished .completed)
    return .completed
  | .interrupted => do
    modify (finished .interrupted)
    return .interrupted
  | .failed => do
    recordFailure .runtimeReportedFailure evidenceDigest now
    modify (finished .failed)
    return .failed
  | kind => return kind.evidenceKind

def observe (enc : RuntimeTurnEncoding) (kind : RuntimeTurnObservedKind)
    (evidenceDigest : String) (now : DateTime) :
    Command RuntimeTurnAttempt RuntimeTurnError Unit := do
  check fun _ => rejectIf (!isSha256 evidenceDigest) .invalidEvidence
  check fun self => rejectIf (!self.activeWithIdentity) .invalidTransition
  let evidenceKind ← applyObservation kind evidenceDigest now
  appendEvidence enc evidenceKind evidenceDigest now

def requestLocalApproval (enc : RuntimeTurnEncoding) (requestDigest : String)
    (now : DateTime) : Command RuntimeTurnAttempt RuntimeTurnError Unit := do
  check (requireStatus .running)
  check fun self => rejectIf (!isSha256 requestDigest ||
    self.pendingApprovalRequestDigest.isSome) .invalidEvidence
  modify fun self => { self with
    pendingApprovalRequestDigest := some requestDigest
    status := .waitingLocalApproval }
  appendEvidence enc .localApprovalRequested requestDigest now

def beginLocalApprovalResponse (enc : RuntimeTurnEncoding)
    (requestDigest decisionDigest : String) (now : DateTime) :
    Command RuntimeTurnAttempt RuntimeTurnError Unit := do
  check (requireStatus .waitingLocalApproval)
  check fun self => rejectIf (self.pendingApprovalRequestDigest != some requestDigest ||
    !isSha256 decisionDigest) .invalidEvidence
  modify fun self => { self with
    approvalDecisionDigest := some decisionDigest
    status := .approvalResponding }
  appendEvidence enc .localApprovalResponseStarted decisionDigest now

def finishLocalApprovalResponse (enc : RuntimeTurnEncoding) (responseDigest : String)
    (now : DateTime) : Command RuntimeTurnAttempt RuntimeTurnError Unit := do
  check (requireStatus .approvalResponding)
  check fun _ => rejectIf (!isSha256 responseDigest) .invalidEvidence
  modify fun self => { self with pendingApprovalRequestDigest := none, status := .running }
  appendEvidence enc .localApprovalResponseSent responseDigest now

def interruptEvidence (enc : RuntimeTurnEncoding) (self : RuntimeTurnAttempt) : String :=
  enc.textDigest (self.id ++ ":interrupt:" ++ toString (self.revision + 1))

def beginInterrupt (enc : RuntimeTurnEncoding) (now : DateTime) :
    Command RuntimeTurnAttempt RuntimeTurnError Unit := do
  check fun self => rejectIf
    (!(self.status == .running || self.status == .waitingLocalApproval)) .invalidTransition
  modify fun self => { self with
    pendingApprovalRequestDigest := none
    status := .interruptRequested }
  let evidence ← check fun self => .ok (self.interruptEvidence enc)
  appendEvidence enc .interruptRequested evidence now

def confirmInterrupt (enc : RuntimeTurnEncoding) (requestDigest responseDigest : String)
    (now : DateTime) : Command RuntimeTurnAttempt RuntimeTurnError Unit := do
  check (requireStatus .interruptRequested)
  check fun _ => rejectIf (!isSha256 requestDigest || !isSha256 responseDigest) .invalidEvidence
  modify fun self => { self with interruptRequestDigest := some requestDigest }
  appendEvidence enc .interruptAccepted responseDigest now

def freezeUncertain (enc : RuntimeTurnEncoding) (class_ : RuntimeTurnFailureClass)
    (evidenceDigest : String) (now : DateTime) :
    Command RuntimeTurnAttempt RuntimeTurnError Unit := do
  check fun self => rejectIf (!self.status.isLive) .invalidTransition
  recordFailure class_ evidenceDigest now
  modify fun self => { self with status := .uncertain }
  appendEvidence enc .uncertain evidenceDigest now

/-- The evidence of a restart before anything was sent. -/
def restartedBeforeDispatch (enc : RuntimeTurnEncoding) : String :=
  enc.textDigest "runtime-coordinator-restarted-before-dispatch-permit"

/-- The evidence of a restart while the turn may be running. -/
def restartedWhileLive (enc : RuntimeTurnEncoding) : String :=
  enc.textDigest "runtime-coordinator-restarted-with-live-or-ambiguous-turn"

def fenceAfterCoordinatorRestart (enc : RuntimeTurnEncoding) (now : DateTime) :
    Command RuntimeTurnAttempt RuntimeTurnError RuntimeTurnRestartDisposition := do
  match ← check fun self => .ok self.status with
  | .prepared => do
    failWithoutDispatch enc (restartedBeforeDispatch enc) now
    return .failedBeforeDispatch
  | .dispatching | .running | .waitingLocalApproval | .approvalResponding
  | .interruptRequested => do
    freezeUncertain enc .coordinatorRestart (restartedWhileLive enc) now
    return .frozenUncertain
  | .uncertain | .completed | .interrupted | .failed => return .alreadySafe

end RuntimeTurnAttempt

/-! ## One step -/

/-- A call of one of the commands. -/
inductive RuntimeTurnCommand
  | beginDispatch (now : DateTime)
  | failWithoutDispatch (evidenceDigest : String) (now : DateTime)
  | acceptDispatch (runtimeTurnId requestDigest responseDigest : String) (now : DateTime)
  | failDispatch (class_ : RuntimeTurnFailureClass) (evidenceDigest : String) (definitive : Bool)
    (now : DateTime)
  | observe (kind : RuntimeTurnObservedKind) (evidenceDigest : String) (now : DateTime)
  | requestLocalApproval (requestDigest : String) (now : DateTime)
  | beginLocalApprovalResponse (requestDigest decisionDigest : String) (now : DateTime)
  | finishLocalApprovalResponse (responseDigest : String) (now : DateTime)
  | beginInterrupt (now : DateTime)
  | confirmInterrupt (requestDigest responseDigest : String) (now : DateTime)
  | freezeUncertain (class_ : RuntimeTurnFailureClass) (evidenceDigest : String) (now : DateTime)
  | fenceAfterCoordinatorRestart (now : DateTime)

/-- What a command returns. -/
inductive RuntimeTurnReply
  | done
  | restarted (disposition : RuntimeTurnRestartDisposition)
deriving DecidableEq

namespace RuntimeTurnCommand

def now : RuntimeTurnCommand → DateTime
  | .beginDispatch now | .failWithoutDispatch _ now | .acceptDispatch _ _ _ now
  | .failDispatch _ _ _ now | .observe _ _ now | .requestLocalApproval _ now
  | .beginLocalApprovalResponse _ _ now | .finishLocalApprovalResponse _ now
  | .beginInterrupt now | .confirmInterrupt _ _ now | .freezeUncertain _ _ now
  | .fenceAfterCoordinatorRestart now => now

def body (enc : RuntimeTurnEncoding) :
    RuntimeTurnCommand → Command RuntimeTurnAttempt RuntimeTurnError RuntimeTurnReply
  | .beginDispatch now => (fun _ => .done) <$> RuntimeTurnAttempt.beginDispatch enc now
  | .failWithoutDispatch evidenceDigest now =>
    (fun _ => .done) <$> RuntimeTurnAttempt.failWithoutDispatch enc evidenceDigest now
  | .acceptDispatch runtimeTurnId requestDigest responseDigest now => (fun _ => .done) <$>
    RuntimeTurnAttempt.acceptDispatch enc runtimeTurnId requestDigest responseDigest now
  | .failDispatch class_ evidenceDigest definitive now => (fun _ => .done) <$>
    RuntimeTurnAttempt.failDispatch enc class_ evidenceDigest definitive now
  | .observe kind evidenceDigest now =>
    (fun _ => .done) <$> RuntimeTurnAttempt.observe enc kind evidenceDigest now
  | .requestLocalApproval requestDigest now =>
    (fun _ => .done) <$> RuntimeTurnAttempt.requestLocalApproval enc requestDigest now
  | .beginLocalApprovalResponse requestDigest decisionDigest now => (fun _ => .done) <$>
    RuntimeTurnAttempt.beginLocalApprovalResponse enc requestDigest decisionDigest now
  | .finishLocalApprovalResponse responseDigest now =>
    (fun _ => .done) <$> RuntimeTurnAttempt.finishLocalApprovalResponse enc responseDigest now
  | .beginInterrupt now => (fun _ => .done) <$> RuntimeTurnAttempt.beginInterrupt enc now
  | .confirmInterrupt requestDigest responseDigest now => (fun _ => .done) <$>
    RuntimeTurnAttempt.confirmInterrupt enc requestDigest responseDigest now
  | .freezeUncertain class_ evidenceDigest now => (fun _ => .done) <$>
    RuntimeTurnAttempt.freezeUncertain enc class_ evidenceDigest now
  | .fenceAfterCoordinatorRestart now =>
    .restarted <$> RuntimeTurnAttempt.fenceAfterCoordinatorRestart enc now

end RuntimeTurnCommand

namespace RuntimeTurnAttempt

def step (enc : RuntimeTurnEncoding) (self : RuntimeTurnAttempt)
    (command : RuntimeTurnCommand) :
    Except RuntimeTurnError RuntimeTurnReply × RuntimeTurnAttempt :=
  (command.body enc).exec self

end RuntimeTurnAttempt

end Hartevo
