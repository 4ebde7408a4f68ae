import Warqueen.Receiving.Accounting
import Warqueen.Sending

/-!
# One direction of a connection

The sending tasks of one side and the receiving tasks of the other, with the
streams between them.  The network opens, extends and ends the peer's streams as
the sending side wrote them; each side has its own view of when and why the
connection ended.  Flow control lets a sending task write ahead of what the peer
has read by at most a window.
-/

namespace Warqueen.Delivery

open Concurrency Quinn Receiving Sending

/-- What the two sides agree on: how messages are encoded and decoded, what the
peer should make of a message, and how far a stream may be written ahead of its
reader. -/
structure Wire (S R : Type) where
  encode : S → Option (List UInt8)
  decode : List UInt8 → Option R
  toPeer : S → R
  window : Nat
  window_pos : 0 < window

/-- A stream as the sending side has written it. -/
structure OutgoingStream where
  written : List UInt8
  finished : Bool
  deriving DecidableEq, Repr

/-- A message being sent: the task, the stream that it opened, and the channel to
the `SendingStateHandle`. -/
structure OutgoingMessage (S : Type) where
  message : S
  phase : SendingPhase
  stream : Option Nat
  result : Oneshot SendingResult
  deriving DecidableEq

/-- The two sides.  `closed` is the cause that ended the connection for the
sending side, `peer.closed` for the peer. -/
structure State (S Event : Type) where
  closed : Option ConnectionError
  sendings : List (OutgoingMessage S)
  outgoing : List OutgoingStream
  peer : Receiving.State Event
  deriving DecidableEq

/-- The steps of the sending side (`send`, `resume`), the end of the connection
for it (`lose`), and the steps of the peer and of the network towards it. -/
inductive Action (S : Type) where
  | send (message : S)
  | resume (sending : Nat) (answer : Answer)
  | lose (cause : ConnectionError)
  | peer (action : Receiving.Action)
  deriving DecidableEq

/-- `send_message_to_client`, or `send_message_to_server` once connected. -/
def OutgoingMessage.start {S : Type} (message : S) : OutgoingMessage S :=
  { message := message, phase := .spawned, stream := none, result := .channel }

/-- The sending task has reached its next await, or its end. -/
def OutgoingMessage.advance {S : Type} (sending : OutgoingMessage S)
    (phase : SendingPhase) : OutgoingMessage S :=
  { sending with
    phase := phase
    stream := match phase with
      | .writing stream _ => some stream
      | _ => sending.stream
    result := phase.settle sending.result }

@[simp] theorem OutgoingMessage.advance_message {S : Type} (sending : OutgoingMessage S)
    (phase : SendingPhase) : (sending.advance phase).message = sending.message := rfl

@[simp] theorem OutgoingMessage.advance_phase {S : Type} (sending : OutgoingMessage S)
    (phase : SendingPhase) : (sending.advance phase).phase = phase := rfl

@[simp] theorem OutgoingMessage.advance_result {S : Type} (sending : OutgoingMessage S)
    (phase : SendingPhase) :
    (sending.advance phase).result = phase.settle sending.result := rfl

namespace State

variable {S R Event : Type} (wire : Wire S R)

/-- A connection just established. -/
def established : State S Event :=
  { closed := none, sendings := [], outgoing := [], peer := .established }

/-- How much of a stream the peer's reading task can have read. -/
def readByPeer (state : State S Event) (stream : Nat) : Nat :=
  match state.peer.streams[stream]? with
  | some incoming =>
      if incoming.reader = .notSpawned then 0
      else min incoming.received.length oneGigabyteInBytes
  | none => 0

/-- What the streams let Quinn answer to a sending task. -/
def answers (state : State S Event) : SendingPhase → Answer → Bool
  | _, .opened (.ok stream) => stream = state.outgoing.length
  | .writing stream _, .wrote (.ok written) =>
      (state.outgoing[stream]?).any fun outgoing =>
        outgoing.written.length + written ≤ wire.window + state.readByPeer stream
  | .writing stream _, .wrote (.error (.stopped _)) =>
      (state.peer.streams[stream]?).any (·.stopped)
  | .stopping stream, .stopped (.ok none) =>
      (state.peer.streams[stream]?).any (·.ending = .finished)
  | .stopping stream, .stopped (.ok (some _)) =>
      (state.peer.streams[stream]?).any (·.stopped)
  | _, _ => true

/-- What the answer does to the streams.  A task that fails while it writes drops
its stream; that is a reset of a stream the peer has stopped reading, or nothing
at all on a lost connection, and the peer sees neither. -/
def transmit (state : State S Event) : SendingPhase → Answer → List OutgoingStream
  | _, .opened (.ok _) =>
      state.outgoing ++ [{ written := [], finished := false }]
  | .writing stream rest, .wrote (.ok written) =>
      state.outgoing.modify stream fun outgoing =>
        { outgoing with written := outgoing.written ++ rest.take written }
  | .writing stream _, .finished =>
      state.outgoing.modify stream fun outgoing => { outgoing with finished := true }
  | _, _ => state.outgoing

/-- What the network does to the peer's streams is what was done to the streams
of the sending side, in order and without loss.  No stream is reset before the
peer has stopped it. -/
def transports (state : State S Event) : Receiving.Action → Bool
  | .openStream => state.peer.streams.length < state.outgoing.length
  | .deliver stream bytes =>
      (state.outgoing[stream]?).any fun outgoing =>
        (state.peer.streams[stream]?).any fun incoming =>
          bytes.isPrefixOf (outgoing.written.drop incoming.received.length)
  | .finish stream =>
      (state.outgoing[stream]?).any fun outgoing =>
        (state.peer.streams[stream]?).any fun incoming =>
          outgoing.finished ∧ incoming.received = outgoing.written
  | .resetStream _ _ => false
  | _ => true

end State

section Step

variable {S R Event : Type} (side : ReceivingSide R Event) (wire : Wire S R)

/-- A sending task goes on with an answer of Quinn's. -/
def resume (state : State S Event) (index : Nat) (answer : Answer) :
    Option (State S Event) :=
  match state.sendings[index]? with
  | some sending =>
      if answer.allowed state.closed ∧ state.answers wire sending.phase answer then
        (sending.phase.resume wire.encode sending.message answer).map fun phase =>
          { state with
            sendings := state.sendings.set index (sending.advance phase)
            outgoing := state.transmit sending.phase answer }
      else none
  | none => none

/-- The step function of the two sides. -/
def step (state : State S Event) : Action S → Option (State S Event)
  | .send message => some { state with sendings := state.sendings ++ [.start message] }
  | .resume index answer => resume wire state index answer
  | .lose cause =>
      if state.closed = none then some { state with closed := some cause } else none
  | .peer action =>
      if state.transports action then
        (Receiving.step side wire.decode state.peer action).map fun peer =>
          { state with peer := peer }
      else none

/-- One direction of a connection as a system. -/
def system : System (State S Event) (Action S) where
  init := .established
  step := step side wire

end Step

end Warqueen.Delivery
