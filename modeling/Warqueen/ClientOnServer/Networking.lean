import Warqueen.Client.Networking
import Warqueen.Receiving.Accounting

/-!
# A client on the server

The server's end of a connection: `ClientOnServerNetworking` has the connection from
the start, asks Quinn for every message that it is given, and goes on polling its
queue after `disconnect`.  Which steps of its connection are no part of another step
is the same as for a client.  The closing tasks and the handles of its disconnections
belong to the process, which has one endpoint for all clients.
-/

namespace Warqueen.ClientOnServer

open Concurrency Quinn Receiving Sending

/-- How messages are encoded and decoded. -/
structure Codec (S R : Type) where
  encode : S → Option (List UInt8)
  decode : List UInt8 → Option R

/-- A call of `send_message_to_client`: the sending task, and the channel whose
receiver the `SendingStateHandle` holds. -/
structure SentMessage (S : Type) where
  message : S
  phase : SendingPhase
  result : Oneshot SendingResult
  deriving DecidableEq, Repr

/-- A client on the server, its tasks, and the events that the application polled.
`held` says that the application has not dropped the `ClientOnServerNetworking`. -/
structure State (S R : Type) where
  held : Bool
  connection : Receiving.State (ClientOnServerEvent R)
  sentMessages : List (SentMessage S)
  polled : List (ClientOnServerEvent R)
  deriving DecidableEq

/-- The calls of the application and the drop of the object, the steps of the tasks,
and those of the network. -/
inductive Action (S : Type) where
  | sendMessageToClient (message : S)
  | pollEventFromClient
  | disconnect
  | drop
  | sendingTask (sentMessage : Nat) (answer : Answer)
  | receiving (action : Receiving.Action)
  deriving DecidableEq, Repr

namespace State

variable {S R : Type} (codec : Codec S R) (state : State S R)

/-- `ClientOnServerNetworking::new`, which spawns the accept loop. -/
def new : State S R :=
  { held := true
    connection := { Receiving.State.established with acceptTask := .running }
    sentMessages := []
    polled := [] }

/-- `ClientOnServerNetworking::send_message_to_client`. -/
def sendMessageToClient (message : S) : State S R :=
  { state with
    sentMessages := state.sentMessages ++
      [{ message := message, phase := .spawned, result := .channel }] }

/-- `ClientOnServerNetworking::poll_event_from_client`; the application keeps the
event if there is one. -/
def pollEventFromClient : State S R :=
  { state with
    connection := { state.connection with events := state.connection.events.tryRecv.2 }
    polled := state.polled ++ (state.connection.events.tryRecv.1.map Prod.snd).toList }

/-- `ClientOnServerNetworking::disconnect`.  What ended the connection first is assumed
to stay what Quinn reports of it, also when it is closed again. -/
def disconnect : State S R :=
  { state with
    connection :=
      { state.connection with
        closed := state.connection.closed.or (some .locallyClosed) } }

/-- The object is dropped, and with it the receiver of the events.  The accept loop
holds the connection as long as it is up. -/
def drop : State S R :=
  { state with
    held := false
    connection :=
      { state.connection with events := state.connection.events.dropReceiver } }

/-- A sending task goes on with an answer of Quinn's. -/
def resumeSending (index : Nat) (answer : Answer) : Option (State S R) :=
  match state.sentMessages[index]? with
  | some sent =>
      if answer.allowed state.connection.closed then
        (sent.phase.resume codec.encode sent.message answer).map fun phase =>
          { state with
            sentMessages := state.sentMessages.set index
              { sent with phase := phase, result := phase.settle sent.result } }
      else none
  | none => none

end State

section Step

variable {S R : Type} (codec : Codec S R)

/-- The step function of a client on the server. -/
def step (state : State S R) : Action S → Option (State S R)
  | .sendMessageToClient message =>
      if state.held then some (state.sendMessageToClient message) else none
  | .pollEventFromClient => if state.held then some state.pollEventFromClient else none
  | .disconnect => if state.held then some state.disconnect else none
  | .drop => if state.held then some state.drop else none
  | .sendingTask index answer => state.resumeSending codec index answer
  | .receiving action =>
      if Client.isReceiving action then
        (Receiving.step (serverSide R) codec.decode state.connection action).map
          fun connection => { state with connection := connection }
      else none

/-- A client on the server as a system. -/
def system : System (State S R) (Action S) where
  init := .new
  step := step codec

end Step

variable {S R : Type} {codec : Codec S R} {state state' : State S R} {action : Action S}

/-- What a sending task that goes on does. -/
theorem State.resumeSending_eq_some {index : Nat} {answer : Answer}
    (resumes : state.resumeSending codec index answer = some state') :
    ∃ sent phase, state.sentMessages[index]? = some sent ∧
      answer.allowed state.connection.closed = true ∧
      sent.phase.resume codec.encode sent.message answer = some phase ∧
      { state with
        sentMessages := state.sentMessages.set index
          { sent with phase := phase, result := phase.settle sent.result } } = state' := by
  simp only [State.resumeSending] at resumes
  split at resumes
  next sent found =>
    simp only [Option.ite_none_right_eq_some] at resumes
    obtain ⟨allowed, resumes⟩ := resumes
    obtain ⟨phase, resumed, same⟩ := Option.map_eq_some_iff.mp resumes
    exact ⟨sent, phase, found, allowed, resumed, same⟩
  next => cases resumes

/-- What a step of a receiving task does. -/
theorem receiving_cases {label : Receiving.Action}
    (stepped : step codec state (.receiving label) = some state') :
    ∃ connection, state' = { state with connection := connection } ∧
      Client.isReceiving label = true ∧
      Receiving.step (serverSide R) codec.decode state.connection label =
        some connection := by
  simp only [step, Option.ite_none_right_eq_some] at stepped
  obtain ⟨isReceiving, steps⟩ := stepped
  obtain ⟨connection, received, rfl⟩ := Option.map_eq_some_iff.mp steps
  exact ⟨connection, rfl, isReceiving, received⟩

/-! ## The connection -/

/-- A step of the receiving half. -/
theorem reaches_of_step {connection connection' : Receiving.State (ClientOnServerEvent R)}
    {receiving : Receiving.Action}
    (stepped : Receiving.step (serverSide R) codec.decode connection receiving =
      some connection') :
    (Receiving.system (serverSide R) codec.decode).Reaches System.always
      connection connection' := by
  have steps : (Receiving.system (serverSide R) codec.decode).step connection receiving =
      some connection' := stepped
  exact System.Reaches.single trivial steps

/-- Our own close is a loss, or comes after one and changes nothing of its cause. -/
theorem reaches_disconnect (codec : Codec S R) (state : State S R) :
    (Receiving.system (serverSide R) codec.decode).Reaches System.always
      state.connection state.disconnect.connection := by
  cases closed : state.connection.closed with
  | none =>
      have loses : Receiving.step (serverSide R) codec.decode state.connection
          (.lose .locallyClosed) = some state.disconnect.connection := by
        simp [Receiving.step, closed, State.disconnect]
      exact reaches_of_step loses
  | some cause =>
      have same : state.disconnect.connection = state.connection := by
        simp only [State.disconnect, closed, Option.some_or]
        rw [← closed]
      rw [same]
      exact System.Reaches.refl

/-- Every step is a run of the receiving half. -/
theorem step_connection (stepped : step codec state action = some state') :
    (Receiving.system (serverSide R) codec.decode).Reaches System.always
      state.connection state'.connection := by
  cases action with
  | sendMessageToClient message =>
      simp only [step, Option.ite_none_right_eq_some, Option.some.injEq] at stepped
      obtain ⟨-, rfl⟩ := stepped
      exact System.Reaches.refl
  | pollEventFromClient =>
      simp only [step, Option.ite_none_right_eq_some, Option.some.injEq] at stepped
      obtain ⟨-, rfl⟩ := stepped
      have polls : Receiving.step (serverSide R) codec.decode state.connection .poll =
          some state.pollEventFromClient.connection := rfl
      exact reaches_of_step polls
  | disconnect =>
      simp only [step, Option.ite_none_right_eq_some, Option.some.injEq] at stepped
      obtain ⟨-, rfl⟩ := stepped
      exact reaches_disconnect codec state
  | drop =>
      simp only [step, Option.ite_none_right_eq_some, Option.some.injEq] at stepped
      obtain ⟨-, rfl⟩ := stepped
      have drops : Receiving.step (serverSide R) codec.decode state.connection
          .dropReceiver = some state.drop.connection := rfl
      exact reaches_of_step drops
  | sendingTask index answer =>
      obtain ⟨-, -, -, -, -, rfl⟩ := State.resumeSending_eq_some stepped
      exact System.Reaches.refl
  | receiving receiving =>
      obtain ⟨connection, rfl, -, received⟩ := receiving_cases stepped
      exact reaches_of_step received

/-- A client on the server refines the receiving half of its connection: its
connection is always one that the receiving half reaches. -/
theorem connection_reachable (reachable : (system codec).Reachable state) :
    (Receiving.system (serverSide R) codec.decode).Reachable state.connection := by
  have spawns : Receiving.step (serverSide R) codec.decode .established .spawn =
      some (State.new : State S R).connection := rfl
  have spawned : (Receiving.system (serverSide R) codec.decode).Reachable
      (State.new : State S R).connection := reaches_of_step spawns
  refine reachable.invariant (fun state =>
    (Receiving.system (serverSide R) codec.decode).Reachable state.connection) spawned ?_
  intro before action after _ reached stepped
  exact reached.reaches (step_connection stepped)

/-- What is queued for the polls is accounted for. -/
theorem connection_accounted (reachable : (system codec).Reachable state) :
    Accounted (serverSide R) codec.decode state.connection :=
  accounted_of_reachable (connection_reachable reachable)

/-- The cause that ended the connection first stays. -/
theorem closed_stays {before after : State S R} {cause : ConnectionError}
    (closed : before.connection.closed = some cause)
    (reached : (system codec).Reaches System.always before after) :
    after.connection.closed = some cause := by
  refine reached.invariant (fun state => state.connection.closed = some cause) closed ?_
  intro _ _ _ _ closed _ stepped
  exact (step_connection stepped).invariant (fun half => half.closed = some cause) closed
    fun _ _ _ _ closed _ stepped => (step_of_closed closed stepped).1

end Warqueen.ClientOnServer
