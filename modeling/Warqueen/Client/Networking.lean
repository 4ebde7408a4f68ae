import Warqueen.Disconnection
import Warqueen.Receiving.Tasks
import Warqueen.Sending

/-!
# A client

`ClientNetworking` starts `Connecting`, buffers the messages that it is given, and
asks a oneshot channel for the outcome of the attempt at each of its operations.
The connecting task, spawned by `new`, makes the attempt; when it succeeds the
task builds a `ClientNetworkingConnected`, whose accept loop holds a handle on the
connection of its own, and puts it in the channel.

The state has the client with everything it leaves running: the connecting
task, the connection with its receiving tasks, the sending tasks, the closing
task.  It also has what the application was given: the handles of its calls and
the events that it polled.
-/

namespace Warqueen.Client

open Concurrency Quinn Receiving Sending

/-! ## The data of a client -/

/-- What a client is built with: how its messages are encoded and decoded, and the
`forbid_handle_drop` feature. -/
structure Build (S R : Type) where
  encode : S → Option (List UInt8)
  decode : List UInt8 → Option R
  forbidHandleDrop : Bool

/-- How a connection attempt ends: `Endpoint::client` or `Endpoint::connect`
fails, the handshake fails, or the connection is established. -/
inductive AttemptOutcome where
  | noEndpoint
  | connectFailed (error : ConnectError)
  | handshakeFailed (error : ConnectionError)
  | connected
  deriving DecidableEq, Repr

/-- A client with an established connection.  The connection and the receiver of
its events are parts of the `State`. -/
structure ClientNetworkingConnected where
  connectedEventAlreadyPolled : Bool
  deriving DecidableEq, Repr

/-- What the connecting task puts in the channel. -/
inductive ConnectedOrTimeout where
  | connected (connected : ClientNetworkingConnected)
  | timeout
  deriving DecidableEq, Repr

/-- A message given before the connection is established.  The result sender is
named by the call whose handle has the receiver. -/
structure PendingMessage (S : Type) where
  message : S
  resultSender : Nat
  deriving DecidableEq, Repr

/-- A client whose connection is still being established. -/
structure ClientNetworkingConnecting (S : Type) where
  pendingSentMessages : List (PendingMessage S)
  deriving DecidableEq, Repr

/-- Who closed the connection. -/
inductive WhoClosed where
  | us
  | thePeer
  | thePeerDidntEvenConnect (failedToConnectEventAlreadyPolled : Bool)
  deriving DecidableEq, Repr

/-- `ClientNetworkingEnum`. -/
inductive ClientNetworking (S : Type) where
  | connecting (connecting : ClientNetworkingConnecting S)
  | connected (connected : ClientNetworkingConnected)
  | disconnected (whoClosed : WhoClosed)
  deriving DecidableEq, Repr

/-- Whether a `DisconnectionHandle` has a barrier to wait at. -/
inductive HandleKind where
  | withBarrier
  | withoutBarrier
  deriving DecidableEq, Repr

/-! ## The tasks of a client and what the application was given -/

/-- The connecting task: waiting for the end of the attempt, about to go on with
it, holding the client it built, or over. -/
inductive ConnectingTask where
  | attempting
  | answered (outcome : AttemptOutcome)
  | created (connected : ClientNetworkingConnected)
  | ended
  | panicked
  deriving DecidableEq, Repr

/-- The connecting task is over. -/
def ConnectingTask.isOver : ConnectingTask → Bool
  | .ended | .panicked => true
  | _ => false

/-- A sending task, with the message and the result sender moved into it. -/
structure SendingTask (S : Type) where
  message : S
  resultSender : Nat
  phase : SendingPhase
  deriving DecidableEq, Repr

/-- A call of `send_message_to_server`: the message, and the channel whose
receiver the `SendingStateHandle` holds. -/
structure Call (S : Type) where
  message : S
  result : Oneshot SendingResult
  deriving DecidableEq, Repr

/-- A client, its tasks, and what the application was given. -/
structure State (S R : Type) where
  networking : ClientNetworking S
  connectedClient : Oneshot ConnectedOrTimeout
  connectingTask : ConnectingTask
  connection : Option (Receiving.State (ClientEvent R))
  drained : Bool
  sendings : List (SendingTask S)
  disconnection : Option Disconnection
  calls : List (Call S)
  polled : List (ClientEvent R)
  deriving DecidableEq

/-- The calls of the application, the end of the attempt, the steps of the tasks,
and those of the network, the endpoint and the handle. -/
inductive Action (S : Type) where
  | sendMessageToServer (message : S)
  | pollEventFromServer
  | disconnect
  | endAttempt (outcome : AttemptOutcome)
  | connectingTask
  | sendingTask (sending : Nat) (answer : Answer)
  | receiving (action : Receiving.Action)
  | dropLastHandle
  | drain
  | closingTask
  | wait
  | finishWaiting
  | dropHandle
  deriving DecidableEq, Repr

/-- The labels of the client's own tasks and of its endpoint. -/
def Action.IsTask {S : Type} : Action S → Prop
  | .connectingTask | .sendingTask _ _ | .closingTask | .drain | .dropLastHandle => True
  | .receiving action => action.IsTask
  | _ => False

/-- The steps of the receiving half that are no part of another step: not those
of `ClientNetworkingConnected::new`, of a poll, of a drop or of our own close. -/
def isReceiving : Receiving.Action → Bool
  | .spawn | .poll | .dropReceiver | .lose .locallyClosed => false
  | _ => true

/-- `send_message_to_server_with_result_sender` spawns the sending task. -/
def sendMessageToServerWithResultSender {S : Type} (message : S) (resultSender : Nat) :
    SendingTask S :=
  { message := message, resultSender := resultSender, phase := .spawned }

/-- The answer to a message sent when there is no connection. -/
def WhoClosed.sendingResult : WhoClosed → SendingResult
  | .us => .weClosed
  | .thePeer => .peerClosedOrDied
  | .thePeerDidntEvenConnect _ => .peerClosedOrDied

namespace State

variable {S R : Type} (build : Build S R) (state : State S R)

/-! ## The operations -/

/-- `ClientNetworking::new`. -/
def new : State S R :=
  { networking := .connecting { pendingSentMessages := [] }
    connectedClient := .channel
    connectingTask := .attempting
    connection := none
    drained := false
    sendings := []
    disconnection := none
    calls := []
    polled := [] }

/-- Do something to the result senders of buffered messages. -/
def settlePending (settle : Oneshot SendingResult → Oneshot SendingResult)
    (pendingSentMessages : List (PendingMessage S)) (calls : List (Call S)) :
    List (Call S) :=
  pendingSentMessages.foldl
    (fun calls pendingMessage =>
      calls.modify pendingMessage.resultSender fun call =>
        { call with result := settle call.result })
    calls

/-- A `ClientNetworkingConnected` is dropped, and with it the receiver of the
events. -/
def dropConnected : State S R :=
  { state with
    connection := state.connection.map fun connection =>
      { connection with events := connection.events.dropReceiver } }

/-- `ClientNetworkingConnecting::connected`. -/
def connected (connecting : ClientNetworkingConnecting S) :
    Option ConnectedOrTimeout × State S R :=
  match state.connectedClient.tryRecv with
  | (.ok (.connected connectedClient), channel) =>
      (some (.connected connectedClient),
        { state with
          connectedClient := channel
          networking := .connecting { pendingSentMessages := [] }
          sendings := state.sendings ++ connecting.pendingSentMessages.map
            fun pendingMessage => sendMessageToServerWithResultSender
              pendingMessage.message pendingMessage.resultSender })
  | (.ok .timeout, channel) =>
      (some .timeout, { state with connectedClient := channel })
  | (.error _, _) => (none, state)

/-- `ClientNetworking::connect_if_possible`.  On a timeout the buffered messages
are dropped with their result senders. -/
def connectIfPossible : State S R :=
  match state.networking with
  | .connecting connecting =>
      match state.connected connecting with
      | (some (.connected connected), state) =>
          { state with
            networking := .connected connected
            connectedClient := state.connectedClient.dropReceiver }
      | (some .timeout, state) =>
          { state with
            networking := .disconnected (.thePeerDidntEvenConnect false)
            connectedClient := state.connectedClient.dropReceiver
            calls := settlePending .dropSender connecting.pendingSentMessages state.calls }
      | (none, state) => state
  | .connected _ | .disconnected _ => state

/-- `ClientNetworking::send_message_to_server`, after `connect_if_possible`. -/
def sendMessage (message : S) : State S R :=
  match state.networking with
  | .connecting connecting =>
      { state with
        networking := .connecting
          { pendingSentMessages := connecting.pendingSentMessages ++
              [{ message := message, resultSender := state.calls.length }] }
        calls := state.calls ++ [{ message := message, result := .channel }] }
  | .connected _ =>
      { state with
        sendings := state.sendings ++
          [sendMessageToServerWithResultSender message state.calls.length]
        calls := state.calls ++ [{ message := message, result := .channel }] }
  | .disconnected whoClosed =>
      { state with
        calls := state.calls ++
          [{ message := message, result := Oneshot.channel.send whoClosed.sendingResult }] }

/-- `ClientNetworkingConnected::poll_event_from_client`. -/
def pollEventFromClient (connected : ClientNetworkingConnected) :
    Option (ClientEvent R) × State S R :=
  if connected.connectedEventAlreadyPolled then
    match state.connection with
    | some connection =>
        (connection.events.tryRecv.1.map Prod.snd,
          { state with
            connection :=
              some { connection with events := connection.events.tryRecv.2 } })
    | none => (none, state)
  else
    (some .connected,
      { state with networking := .connected { connectedEventAlreadyPolled := true } })

/-- `ClientNetworking::poll_event_from_server`, after `connect_if_possible`. -/
def pollEvent : Option (ClientEvent R) × State S R :=
  match state.networking with
  | .connecting _connecting => (none, state)
  | .connected connected => state.pollEventFromClient connected
  | .disconnected (.thePeerDidntEvenConnect false) =>
      (some .failedToConnect,
        { state with networking := .disconnected (.thePeerDidntEvenConnect true) })
  | .disconnected _whoClosed => (none, state)

/-- The application polls, and keeps the event if there is one. -/
def poll : State S R :=
  let (event, after) := state.pollEvent
  { after with polled := after.polled ++ event.toList }

/-- `Connection::close`.  What ended the connection first is assumed to stay what Quinn
reports of it, also when it is closed again. -/
def close : State S R :=
  { state with
    connection := state.connection.map fun connection =>
      { connection with closed := connection.closed.or (some .locallyClosed) } }

/-- `ClientNetworking::disconnect`, with the kind of handle that it returns. -/
def disconnect : HandleKind × State S R :=
  match state.networking with
  | .connecting connecting =>
      -- The receiver is dropped, and with it the client that may be in the channel.
      let dropped :=
        if state.connectedClient.value.isSome then state.dropConnected else state
      (.withoutBarrier,
        { dropped with
          networking := .disconnected .us
          connectedClient := state.connectedClient.dropReceiver
          calls := settlePending (·.send .weClosed) connecting.pendingSentMessages
            state.calls })
  | .connected _connected =>
      (.withBarrier,
        { state.close.dropConnected with
          networking := .disconnected .us
          disconnection := some .new })
  | .disconnected _whoClosed => (.withoutBarrier, state)

/-! ## The tasks -/

/-- The connecting task goes on.  `ClientNetworkingConnected::new` spawns the
accept loop, and a client that finds no receiver is dropped. -/
def resumeConnecting : Option (State S R) :=
  match state.connectingTask with
  | .answered .connected =>
      (state.connection.bind (Receiving.step (clientSide R) build.decode · .spawn)).map
        fun connection =>
          { state with
            connection := some connection
            connectingTask := .created { connectedEventAlreadyPolled := false } }
  | .created connected =>
      let dropped :=
        if state.connectedClient.receiverHeld then state else state.dropConnected
      some
        { dropped with
          connectedClient := state.connectedClient.send (.connected connected)
          connectingTask := .ended }
  | .answered (.handshakeFailed .timedOut) =>
      some
        { state with
          connectedClient := state.connectedClient.send .timeout
          connectingTask := .ended }
  | .answered _error =>
      some
        { state with
          connectedClient := state.connectedClient.dropSender
          connectingTask := .panicked }
  | .attempting | .ended | .panicked => none

/-- A sending task goes on with an answer of Quinn's. -/
def resumeSending (index : Nat) (answer : Answer) : Option (State S R) :=
  match state.sendings[index]?, state.connection with
  | some sending, some connection =>
      if answer.allowed connection.closed then
        (sending.phase.resume build.encode sending.message answer).map fun phase =>
          { state with
            sendings := state.sendings.set index { sending with phase := phase }
            calls := state.calls.modify sending.resultSender fun call =>
              { call with result := phase.settle call.result } }
      else none
  | _, _ => none

/-- Someone holds a handle on the connection: the connecting task, the client,
the accept loop, or a task that reads or sends. -/
def connectionHeld : Bool :=
  (match state.connectingTask with
    | .answered .connected | .created _ => true
    | _ => false) ||
  (match state.connectedClient.value with
    | some (.connected _) => true
    | _ => false) ||
  (match state.networking with
    | .connected _ => true
    | _ => false) ||
  state.connection.any (fun connection =>
    connection.acceptTask = .running ||
      connection.streams.any fun stream => stream.reader = .reading) ||
  state.sendings.any fun sending =>
    match sending.phase with
    | .ended _ | .panicked => false
    | _ => true

/-- What `Endpoint::wait_idle` awaits. -/
def endpointIdle : Bool :=
  state.connectingTask ≠ .attempting && (state.connection.isNone || state.drained)

/-- A connection of the client is open. -/
def OpenConnection : Prop :=
  ∃ connection, state.connection = some connection ∧ connection.closed = none

instance : Decidable state.OpenConnection :=
  match found : state.connection with
  | some connection =>
      decidable_of_iff (connection.closed = none) (by simp [OpenConnection, found])
  | none => isFalse (by simp [OpenConnection, found])

end State

/-! ## The system -/

section Step

variable {S R : Type} (build : Build S R)

/-- The step function of a client. -/
def step (state : State S R) : Action S → Option (State S R)
  | .sendMessageToServer message => some (state.connectIfPossible.sendMessage message)
  | .pollEventFromServer => some state.connectIfPossible.poll
  | .disconnect => some state.disconnect.2
  | .endAttempt outcome =>
      if state.connectingTask = .attempting then
        some
          { state with
            connectingTask := .answered outcome
            connection := if outcome = .connected then some .established else none }
      else none
  | .connectingTask => state.resumeConnecting build
  | .sendingTask index answer => state.resumeSending build index answer
  | .receiving action =>
      if isReceiving action then
        (state.connection.bind
          (Receiving.step (clientSide R) build.decode · action)).map
            fun connection => { state with connection := some connection }
      else none
  | .dropLastHandle =>
      if state.OpenConnection ∧ state.connectionHeld = false then some state.close
      else none
  | .drain =>
      if (state.connection.any (·.closed.isSome)) ∧ state.drained = false then
        some { state with drained := true }
      else none
  | .closingTask =>
      match state.disconnection with
      | some disconnection =>
          if state.endpointIdle ∧ disconnection.closingTask = none then
            some { state with disconnection := some disconnection.closingTaskWaits }
          else none
      | none => none
  | .wait =>
      match state.disconnection with
      | some disconnection =>
          if disconnection.handle.holder = .application then
            some { state with
              disconnection :=
                some disconnection.actuallyWaitForProperDisconnection }
          else none
      | none => none
  | .finishWaiting =>
      match state.disconnection with
      | some disconnection =>
          if disconnection.handle.holder.ticket.isSome ∧
              disconnection.blocksThread = false then
            some { state with
              disconnection := some (disconnection.finishWaiting build.forbidHandleDrop) }
          else none
      | none => none
  | .dropHandle =>
      match state.disconnection with
      | some disconnection =>
          if disconnection.handle.holder = .application then
            some { state with
              disconnection := some (disconnection.drop build.forbidHandleDrop) }
          else none
      | none => none

/-- A client as a system. -/
def system : System (State S R) (Action S) where
  init := .new
  step := step build

end Step

end Warqueen.Client
