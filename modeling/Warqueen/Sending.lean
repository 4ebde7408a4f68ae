import Warqueen.Concurrency.Channel
import Warqueen.Quinn

/-!
# Sending a message

`send_message` encodes the message, opens a stream, writes the bytes, finishes
the stream and waits until the peer is done with it.  The task that runs it goes
from one await to the next: `SendingPhase` is where it is, and `resume` is what it
does with the answer it was waiting for.  Its result goes through a oneshot
channel to the `SendingStateHandle`.

Which answers can come is Quinn's business: `Answer.allowed` says what they owe
to the connection, and the systems that run sending tasks add the rest.
-/

namespace Warqueen.Sending

open Concurrency Quinn

/-! ## Results -/

/-- Was the message successfully sent, or did it fail (and why)? -/
inductive SendingResult where
  | sent
  | weClosed
  | peerClosedOrDied
  | error
  deriving DecidableEq, Repr

/-- What `send_message` fails with. -/
inductive SendingError where
  | openUni (error : ConnectionError)
  | writeAll (error : WriteError)
  | stopped (error : StoppedError)
  deriving DecidableEq, Repr

/-- `SendingResult::from_connection_error`. -/
def SendingResult.fromConnectionError : ConnectionError → SendingResult
  | .locallyClosed => .weClosed
  | .applicationClosed _ | .connectionClosed _ | .reset | .timedOut => .peerClosedOrDied
  | .versionMismatch | .transportError _ | .cidsExhausted => .error

/-- `SendingResult::from_result`. -/
def SendingResult.fromResult : Except SendingError Unit → SendingResult
  | .ok () => .sent
  | .error (.openUni connectionError)
  | .error (.writeAll (.connectionLost connectionError))
  | .error (.stopped (.connectionLost connectionError)) =>
      .fromConnectionError connectionError
  | .error _ => .error

/-- No error counts as sent. -/
theorem fromResult_error_ne_sent (error : SendingError) :
    SendingResult.fromResult (.error error) ≠ .sent := by
  have lost (connectionError : ConnectionError) :
      SendingResult.fromConnectionError connectionError ≠ .sent := by
    cases connectionError <;> simp [SendingResult.fromConnectionError]
  simp only [SendingResult.fromResult]
  split
  next impossible => cases impossible
  next => exact lost _
  next => exact lost _
  next => exact lost _
  next => simp

/-- The answer of a `SendingStateHandle`. -/
inductive SendingState where
  | stillBeingSent
  | result (result : SendingResult)
  deriving DecidableEq, Repr

/-- `SendingStateHandle::get_state`, on the receiver that the handle holds. -/
def getState (resultReceiver : Oneshot SendingResult) : SendingState :=
  match resultReceiver.tryRecv.1 with
  | .ok result => .result result
  | .error .closed => .result .error
  | .error .empty => .stillBeingSent

/-! ## The sending task -/

/-- Where a sending task is in `send_message`: not polled yet, or at one of its
awaits, or done with a result, or panicked. -/
inductive SendingPhase where
  | spawned
  | opening (messageRaw : List UInt8)
  | writing (stream : Nat) (rest : List UInt8)
  | stopping (stream : Nat)
  | ended (result : SendingResult)
  | panicked
  deriving DecidableEq, Repr

/-- What a sending task is resumed with: its first poll, or Quinn's answer to
`open_uni`, to one write of `write_all`, to `finish`, or to `stopped`. -/
inductive Answer where
  | polled
  | opened (result : Except ConnectionError Nat)
  | wrote (result : Except WriteError Nat)
  | finished
  | stopped (result : Except StoppedError (Option VarInt))
  deriving DecidableEq, Repr

/-- What the connection lets Quinn answer: a success of `open_uni` or of a write
needs the connection, and a failure that names a connection error names the
cause that ended it. -/
def Answer.allowed (closed : Option ConnectionError) : Answer → Bool
  | .polled | .finished | .stopped (.ok _) => true
  | .opened (.ok _) | .wrote (.ok _) | .wrote (.error (.stopped _)) => closed.isNone
  | .opened (.error error) | .wrote (.error (.connectionLost error))
  | .stopped (.error (.connectionLost error)) => closed = some error
  | .wrote (.error _) | .stopped (.error _) => false

/-- A sending task goes on with an answer, `none` when it does not await it.  The
message is encoded at the first poll, and a message that cannot be encoded makes
the task panic; `finish` cannot fail on a stream that was not finished yet; the
code of a stream stopped by the peer is not looked at. -/
def SendingPhase.resume {S : Type} (encode : S → Option (List UInt8)) (message : S) :
    SendingPhase → Answer → Option SendingPhase
  | .spawned, .polled =>
      match encode message with
      | some messageRaw => some (.opening messageRaw)
      | none => some .panicked
  | .opening messageRaw, .opened (.ok stream) => some (.writing stream messageRaw)
  | .opening _, .opened (.error error) =>
      some (.ended (.fromResult (.error (.openUni error))))
  | .writing stream rest, .wrote (.ok written) =>
      if 0 < written ∧ written ≤ rest.length then
        some (.writing stream (rest.drop written))
      else none
  | .writing _ _, .wrote (.error error) =>
      some (.ended (.fromResult (.error (.writeAll error))))
  | .writing stream rest, .finished =>
      if rest = [] then some (.stopping stream) else none
  | .stopping _, .stopped (.ok _) => some (.ended (.fromResult (.ok ())))
  | .stopping _, .stopped (.error error) =>
      some (.ended (.fromResult (.error (.stopped error))))
  | _, _ => none

/-- The end of the task: the result is sent, or its sender is dropped. -/
def SendingPhase.settle (phase : SendingPhase) (result : Oneshot SendingResult) :
    Oneshot SendingResult :=
  match phase with
  | .ended value => result.send value
  | .panicked => result.dropSender
  | _ => result

/-- What the handle of a message answers, given where the task that sends it is. -/
def SendingPhase.answer : SendingPhase → SendingState
  | .ended result => .result result
  | .panicked => .result .error
  | .spawned | .opening _ | .writing _ _ | .stopping _ => .stillBeingSent

@[simp] theorem getState_settle (phase : SendingPhase) :
    getState (phase.settle .channel) = phase.answer := by
  cases phase <;> rfl

/-- A task that can go on has not sent its result. -/
theorem SendingPhase.settle_of_resume {S : Type} {encode : S → Option (List UInt8)}
    {message : S} {phase resumed : SendingPhase} {answer : Answer}
    (resumes : phase.resume encode message answer = some resumed)
    (result : Oneshot SendingResult) : phase.settle result = result := by
  cases phase with
  | spawned | opening | writing | stopping => rfl
  | ended | panicked => cases answer <;> cases resumes

/-- A handle whose sender is gone has its answer. -/
theorem getState_ne_stillBeingSent {result : Oneshot SendingResult}
    (gone : result.senderHeld = false) : getState result ≠ .stillBeingSent := by
  simp only [getState, Oneshot.tryRecv]
  cases result.value <;> simp [gone]

end Warqueen.Sending
