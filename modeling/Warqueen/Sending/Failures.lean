import Warqueen.Concurrency.System
import Warqueen.Sending

/-!
# Failures to send

A message that fails because the connection is gone is answered with who ended the
connection.  `Sender` is what there is to know about a side that sends: the answers
of its calls, the first cause that ended its connection, and what Quinn answered to
its sending tasks.
-/

namespace Warqueen.Sending

open Concurrency Quinn

/-! ## Answers and causes -/

/-- The causes that are the close of the peer, a reset, or a timeout. -/
def endedByPeer : ConnectionError → Bool
  | .applicationClosed _ | .connectionClosed _ | .reset | .timedOut => true
  | .versionMismatch | .transportError _ | .locallyClosed | .cidsExhausted => false

/-- The answer tells who ended the connection. -/
def Truthful (cause : ConnectionError) (answer : SendingState) : Prop :=
  (answer = .result .weClosed ↔ cause = .locallyClosed) ∧
    (answer = .result .peerClosedOrDied ↔ endedByPeer cause = true)

/-- A failure of Quinn's that names the loss of the connection. -/
def Answer.isLoss : Answer → Bool
  | .opened (.error _) | .wrote (.error (.connectionLost _))
  | .stopped (.error (.connectionLost _)) => true
  | _ => false

/-- The message failed. -/
def SendingState.hasFailed : SendingState → Bool
  | .stillBeingSent | .result .sent => false
  | .result .weClosed | .result .peerClosedOrDied | .result .error => true

theorem truthful_fromConnectionError (cause : ConnectionError) :
    Truthful cause (.result (.fromConnectionError cause)) := by
  cases cause <;> simp [Truthful, SendingResult.fromConnectionError, endedByPeer]

/-- A refusal with `WeClosed` is truthful about our own close only. -/
theorem truthful_weClosed_iff {cause : ConnectionError} :
    Truthful cause (.result .weClosed) ↔ cause = .locallyClosed := by
  constructor
  · intro truthful
    exact truthful.1.mp rfl
  · intro ours
    subst ours
    simp [Truthful, endedByPeer]

/-- A task that Quinn tells of the loss ends with what belongs to the cause. -/
theorem SendingPhase.resume_of_isLoss {S : Type} {encode : S → Option (List UInt8)}
    {message : S} {phase resumed : SendingPhase} {answer : Answer}
    {cause : ConnectionError}
    (resumes : phase.resume encode message answer = some resumed)
    (isLoss : answer.isLoss = true) (allowed : answer.allowed (some cause) = true) :
    resumed = .ended (.fromConnectionError cause) := by
  cases answer with
  | polled | finished => cases isLoss
  | opened result =>
      cases result with
      | ok => cases isLoss
      | error error =>
          obtain rfl : cause = error := by simpa [Answer.allowed] using allowed
          cases phase <;> cases resumes
          rfl
  | wrote result =>
      cases result with
      | ok => cases isLoss
      | error error =>
          cases error with
          | connectionLost error =>
              obtain rfl : cause = error := by simpa [Answer.allowed] using allowed
              cases phase <;> cases resumes
              rfl
          | stopped | closedStream | zeroRttRejected => cases isLoss
  | stopped result =>
      cases result with
      | ok => cases isLoss
      | error error =>
          cases error with
          | connectionLost error =>
              obtain rfl : cause = error := by simpa [Answer.allowed] using allowed
              cases phase <;> cases resumes
              rfl
          | zeroRttRejected => cases isLoss

/-! ## Sides that send -/

/-- A side that sends, as far as its failures are concerned. -/
structure Sender (State Action : Type) where
  system : System State Action
  answers : State → List SendingState
  closed : State → Option ConnectionError
  answered : Action → Option Answer

namespace Sender

variable {State Action : Type} (sender : Sender State Action)

/-- The call has failed. -/
def HasFailed (state : State) (call : Nat) : Prop :=
  ∃ answer, (sender.answers state)[call]? = some answer ∧ answer.hasFailed = true

/-- In this step the call fails because the connection is gone, which the cause ended:
it had not failed before, and no sending task fails for another reason. -/
structure FailsAsGone (before : State) (action : Action) (after : State) (call : Nat)
    (cause : ConnectionError) : Prop where
  notBefore : ¬ sender.HasFailed before call
  failed : sender.HasFailed after call
  gone : sender.closed after = some cause
  isLoss : ∀ answer, sender.answered action = some answer → answer.isLoss = true

/-- What fails in this step because the connection is gone is told truthfully, at
once and for ever. -/
def TellsTruthIn (before : State) (action : Action) : Prop :=
  ∀ after, sender.system.step before action = some after →
    ∀ call cause, sender.FailsAsGone before action after call cause →
      ∀ last, sender.system.Reaches System.always after last →
        sender.closed last = some cause ∧
          ∃ answer, (sender.answers last)[call]? = some answer ∧ Truthful cause answer

/-- Every failure of a run because the connection is gone is told truthfully. -/
def TellsTruth (actions : List Action) : Prop :=
  sender.system.EveryStep sender.TellsTruthIn actions

variable {sender} {before : State} {action : Action}

/-- It is enough that answers that are failures stay, and that the answer at once is
truthful. -/
theorem tellsTruthIn_of_stays
    (stays : ∀ after cause (call : Nat) (answer : SendingState),
      sender.system.Reachable after → sender.closed after = some cause →
      (sender.answers after)[call]? = some answer → answer.hasFailed = true →
      ∀ last, sender.system.Reaches System.always after last →
        sender.closed last = some cause ∧ (sender.answers last)[call]? = some answer)
    (reachable : sender.system.Reachable before)
    (atOnce : ∀ after, sender.system.step before action = some after →
      ∀ call cause, sender.FailsAsGone before action after call cause →
        ∀ answer, (sender.answers after)[call]? = some answer →
          answer.hasFailed = true → Truthful cause answer) :
    sender.TellsTruthIn before action := by
  intro after stepped call cause fails last reached
  obtain ⟨answer, found, failed⟩ := fails.failed
  obtain ⟨closed, kept⟩ := stays after cause call answer (reachable.step stepped)
    fails.gone found failed last reached
  exact ⟨closed, answer, kept, atOnce after stepped call cause fails answer found failed⟩

end Sender

end Warqueen.Sending
