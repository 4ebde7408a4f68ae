import Warqueen.Concurrency.Channel
import Warqueen.Concurrency.System
import Warqueen.Quinn

/-!
# The receiving tasks of a connection

Both sides of a connection run the same receiving tasks: an accept loop that
waits for the next stream of the peer and spawns a task that reads it to its
end, decodes one message and queues it as an event.  A task that finds the
connection lost queues the event its side maps the cause to, or panics when the
side has no event for that cause; a panic ends the task it happens in.

The two sides differ in their event types only, so the tasks are written once
over a `ReceivingSide`, and `clientSide` and `serverSide` are its two values.
The network and the application are the environment: they open, extend and end
streams, end the connection, poll the queue or let go of it.
-/

namespace Warqueen.Receiving

open Concurrency Quinn

/-! ## Events -/

/-- Details about a `ClientEvent.disconnected`. -/
inductive ClientDisconnectionDetails where
  | none
  | timeout
  deriving DecidableEq, Repr

/-- What `ClientNetworking::poll_event_from_server` returns. -/
inductive ClientEvent (R : Type) where
  | connected
  | message (message : R)
  | disconnected (details : ClientDisconnectionDetails)
  | failedToConnect
  deriving DecidableEq, Repr

/-- Details about a `ClientOnServerEvent.disconnected`. -/
inductive ClientOnServerDisconnectionDetails where
  | none
  | timeout
  deriving DecidableEq, Repr

/-- What `ClientOnServerNetworking::poll_event_from_client` returns. -/
inductive ClientOnServerEvent (R : Type) where
  | message (message : R)
  | disconnected (details : ClientOnServerDisconnectionDetails)
  deriving DecidableEq, Repr

/-- What ended a task that panicked. -/
inductive Panic where
  | connection (error : ConnectionError)
  | read (error : ReadToEndError)
  | decode
  deriving DecidableEq, Repr

/-- The mapping that both sides write out for their own event type, from the
cause of the loss of the connection to the event that reports it. -/
def connectionErrorToEvent {Event : Type} (disconnectedNone disconnectedTimeout : Event) :
    ConnectionError → Except Panic (Option Event)
  | .applicationClosed _thingy => .ok (some disconnectedNone)
  | .connectionClosed _thingy => .ok (some disconnectedNone)
  | .locallyClosed => .ok none
  | .timedOut => .ok (some disconnectedTimeout)
  | error => .error (.connection error)

/-- `connection_error_to_client_event`. -/
def connectionErrorToClientEvent {R : Type} :
    ConnectionError → Except Panic (Option (ClientEvent R)) :=
  connectionErrorToEvent (.disconnected .none) (.disconnected .timeout)

/-- `connection_error_to_client_on_server_event`. -/
def connectionErrorToClientOnServerEvent {R : Type} :
    ConnectionError → Except Panic (Option (ClientOnServerEvent R)) :=
  connectionErrorToEvent (.disconnected .none) (.disconnected .timeout)

/-- The causes of a loss that the mapping turns into an event. -/
def reported : ConnectionError → Bool
  | .applicationClosed _ | .connectionClosed _ | .timedOut => true
  | _ => false

/-- What the receiving tasks need of their side: how it wraps a message, how it
reports a loss, and which of its events are disconnections. -/
structure ReceivingSide (R Event : Type) where
  message : R → Event
  connectionErrorToEvent : ConnectionError → Except Panic (Option Event)
  isDisconnected : Event → Bool
  message_injective : ∀ {one other}, message one = message other → one = other
  message_not_disconnected : ∀ message', isDisconnected (message message') = false
  loss_disconnected : ∀ {cause event},
    connectionErrorToEvent cause = .ok (some event) → isDisconnected event = true
  loss_reported : ∀ {cause},
    (∃ event, connectionErrorToEvent cause = .ok (some event)) ↔ reported cause = true

/-- The receiving side of `ClientNetworkingConnected`. -/
def clientSide (R : Type) : ReceivingSide R (ClientEvent R) where
  message := .message
  connectionErrorToEvent := connectionErrorToClientEvent
  isDisconnected
    | .disconnected _ => true
    | _ => false
  message_injective := by
    intro one other same
    injection same
  message_not_disconnected _ := rfl
  loss_disconnected := by
    intro cause event mapped
    cases cause <;> simp [connectionErrorToClientEvent, connectionErrorToEvent] at mapped
    all_goals subst mapped; rfl
  loss_reported := by
    intro cause
    cases cause <;> simp [connectionErrorToClientEvent, connectionErrorToEvent, reported]

/-- The receiving side of `ClientOnServerNetworking`. -/
def serverSide (R : Type) : ReceivingSide R (ClientOnServerEvent R) where
  message := .message
  connectionErrorToEvent := connectionErrorToClientOnServerEvent
  isDisconnected
    | .disconnected _ => true
    | .message _ => false
  message_injective := by
    intro one other same
    injection same
  message_not_disconnected _ := rfl
  loss_disconnected := by
    intro cause event mapped
    cases cause <;>
      simp [connectionErrorToClientOnServerEvent, connectionErrorToEvent] at mapped
    all_goals subst mapped; rfl
  loss_reported := by
    intro cause
    cases cause <;>
      simp [connectionErrorToClientOnServerEvent, connectionErrorToEvent, reported]

/-! ## The tasks -/

/-- The most bytes a message may have, `ONE_GIGABYTE_IN_BYTES`. -/
def oneGigabyteInBytes : Nat := 1073741824

/-- One poll of `receive_message_raw`, `none` while it is pending. -/
def receiveMessageRaw (stream : RecvStream) (closed : Option ConnectionError) :
    Option (Except ReadToEndError (List UInt8)) :=
  stream.readToEnd closed oneGigabyteInBytes

/-- The task that reads one stream.  Once ended it keeps what
`receive_message_raw` returned to it. -/
inductive ReadingTask where
  | notSpawned
  | reading
  | ended (result : Except ReadToEndError (List UInt8))
  deriving DecidableEq, Repr

/-- A stream opened by the peer, with the task that reads it.  `stopped` says
that the stream was dropped before its end, which asks the peer to stop it. -/
structure IncomingStream extends RecvStream where
  reader : ReadingTask
  stopped : Bool
  deriving DecidableEq, Repr

/-- A stream the peer just opened. -/
def IncomingStream.opened : IncomingStream :=
  { received := [], ending := .open, reader := .notSpawned, stopped := false }

/-- The accept loop, spawned by `new`.  It runs until it finds the connection
lost, and then returns or panics. -/
inductive AcceptTask where
  | notSpawned
  | running
  | returned
  | panicked
  deriving DecidableEq, Repr

/-- The task that queued an event. -/
inductive Source where
  | acceptLoop
  | reader (stream : Nat)
  deriving DecidableEq, Repr

/-- The receiving half of one connection.  `closed` is the first cause that
ended it.  The events carry the task that queued them, which the application
does not see. -/
structure State (Event : Type) where
  closed : Option ConnectionError
  streams : List IncomingStream
  acceptTask : AcceptTask
  events : Mpsc (Source × Event)
  deriving DecidableEq, Repr

/-- The steps of the receiving tasks (`spawn`, `acceptUni`, `read`), of the
network and the peer, and of the application. -/
inductive Action where
  | spawn
  | acceptUni
  | read (stream : Nat)
  | openStream
  | deliver (stream : Nat) (bytes : List UInt8)
  | finish (stream : Nat)
  | resetStream (stream : Nat) (code : VarInt)
  | lose (cause : ConnectionError)
  | poll
  | dropReceiver
  deriving DecidableEq, Repr

/-- The labels of the receiving tasks themselves. -/
def Action.IsTask : Action → Prop
  | .spawn | .acceptUni | .read _ => True
  | _ => False

section Step

variable {R Event : Type} (side : ReceivingSide R Event) (decode : List UInt8 → Option R)

/-- What a reading task does with the answer of `receive_message_raw`: the event
it queues if any, or its panic. -/
def readingTaskEvent : Except ReadToEndError (List UInt8) → Except Panic (Option Event)
  | .ok messageRaw =>
      match decode messageRaw with
      | some message => .ok (some (side.message message))
      | none => .error .decode
  | .error (.read (.connectionLost error)) => side.connectionErrorToEvent error
  | .error error => .error (.read error)

namespace State

variable {Event : Type}

/-- A connection just established, before `new` spawned the accept loop. -/
def established : State Event :=
  { closed := none, streams := [], acceptTask := .notSpawned, events := .channel }

/-- Replace one stream. -/
def updateStream (state : State Event) (index : Nat)
    (update : IncomingStream → IncomingStream) : State Event :=
  { state with streams := state.streams.modify index update }

/-- Queue the event of a task, if it has one. -/
def queue (state : State Event) (source : Source) (event : Option Event) : State Event :=
  { state with events := state.events.sendSome (event.map (source, ·)) }

/-- The first stream that the accept loop has not taken yet. -/
def nextStream (state : State Event) : Option Nat :=
  state.streams.findIdx? fun stream => stream.reader = .notSpawned

/-- Apply a step of the network to a stream, which it can only do to a stream
whose end is unknown and while the connection is up. -/
def onOpenStream (state : State Event) (index : Nat)
    (update : IncomingStream → IncomingStream) : Option (State Event) :=
  match state.closed, state.streams[index]? with
  | none, some stream =>
      if stream.ending = .open then some (state.updateStream index update) else none
  | _, _ => none

end State

/-- One iteration of the accept loop, `none` while `accept_uni` is pending.
Streams already received are accepted before the loss is reported. -/
def acceptUni (state : State Event) : Option (State Event) :=
  match state.acceptTask, state.nextStream, state.closed with
  | .running, some index, _ =>
      some (state.updateStream index fun stream => { stream with reader := .reading })
  | .running, none, some error =>
      match side.connectionErrorToEvent error with
      | .ok event =>
          some { state.queue .acceptLoop event with acceptTask := .returned }
      | .error _ => some { state with acceptTask := .panicked }
  | _, _, _ => none

/-- A reading task runs to its end, `none` while the read is pending. -/
def read (state : State Event) (index : Nat) : Option (State Event) :=
  match state.streams[index]? with
  | some stream =>
      if stream.reader = .reading then
        match receiveMessageRaw stream.toRecvStream state.closed with
        | some result =>
            let ended := state.updateStream index fun stream =>
              { stream with
                reader := .ended result
                stopped := result = .error .tooLong ∧ state.closed = none }
            match readingTaskEvent side decode result with
            | .ok event => some (ended.queue (.reader index) event)
            | .error _ => some ended
        | none => none
      else none
  | none => none

/-- The step function of the receiving half. -/
def step (state : State Event) : Action → Option (State Event)
  | .spawn =>
      if state.acceptTask = .notSpawned then
        some { state with acceptTask := .running }
      else none
  | .acceptUni => acceptUni side state
  | .read index => read side decode state index
  | .openStream =>
      if state.closed = none then
        some { state with streams := state.streams ++ [.opened] }
      else none
  | .deliver index bytes =>
      state.onOpenStream index fun stream =>
        { stream with received := stream.received ++ bytes }
  | .finish index =>
      state.onOpenStream index fun stream => { stream with ending := .finished }
  | .resetStream index code =>
      state.onOpenStream index fun stream => { stream with ending := .reset code }
  | .lose cause =>
      if state.closed = none then some { state with closed := some cause } else none
  | .poll => some { state with events := state.events.tryRecv.2 }
  | .dropReceiver => some { state with events := state.events.dropReceiver }

/-- The receiving half of a connection as a system. -/
def system : System (State Event) Action where
  init := .established
  step := step side decode

end Step

/-- MessagePack decoding of the unit value, which is the nil byte.  As in
`rmp_serde::from_slice`, what follows the value is not looked at. -/
def decodeUnit : List UInt8 → Option Unit
  | 0xc0 :: _ => some ()
  | _ => none

end Warqueen.Receiving
