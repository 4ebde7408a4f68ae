import Warqueen.Client.Connection
import Warqueen.ClientOnServer.Networking
import Warqueen.Delivery.Parties

/-!
# A client and its client on the server

The two ends of one connection with the streams of both directions.  The client is
there from the start; the server's end is built when the server's handshake is over,
which is after the client's.  Each end has its own view of when and why the connection
ended.  What Quinn answers to the sending tasks of an end, and what the network does to
the streams of the other, is what the direction between them allows.
-/

namespace Warqueen.Session

open Concurrency Quinn Receiving Sending Delivery

/-- What the two ends are built with: the messages of both directions as they are
encoded and decoded, and the `forbid_handle_drop` feature of the client. -/
structure Build (S S' R R' : Type) where
  clientToServer : Wire S S'
  serverToClient : Wire R' R
  forbidHandleDrop : Bool

/-- What the client is built with. -/
def Build.client {S S' R R' : Type} (build : Build S S' R R') : Client.Build S R :=
  { encode := build.clientToServer.encode
    decode := build.serverToClient.decode
    forbidHandleDrop := build.forbidHandleDrop }

/-- What the server's end is built with. -/
def Build.server {S S' R R' : Type} (build : Build S S' R R') :
    ClientOnServer.Codec R' S' :=
  { encode := build.serverToClient.encode
    decode := build.clientToServer.decode }

/-- The two ends, and the streams as each of them has written them. -/
structure State (S S' R R' : Type) where
  client : Client.State S R
  server : Option (ClientOnServer.State R' S')
  clientToServer : List OutgoingStream
  serverToClient : List OutgoingStream
  deriving DecidableEq

/-- The steps of the client, the construction of the server's end, and its steps. -/
inductive Action (S R' : Type) where
  | client (action : Client.Action S)
  | newClientOnServer
  | server (action : ClientOnServer.Action R')
  deriving DecidableEq

namespace State

variable {S S' R R' : Type} (state : State S S' R R')

/-- A client that was just created. -/
def new : State S S' R R' :=
  { client := .new, server := none, clientToServer := [], serverToClient := [] }

/-- The receiving half at the server, which is as good as new before there is one. -/
def serverHalf : Receiving.State (ClientOnServerEvent S') :=
  (state.server.map (·.connection)).getD .established

/-- A sending task of the client as its direction has it. -/
def ofSendingTask (sending : Client.SendingTask S) : OutgoingMessage S :=
  { message := sending.message
    phase := sending.phase
    stream := none
    result := sending.phase.settle .channel }

/-- A sent message of the server's end as its direction has it. -/
def ofSentMessage (sent : ClientOnServer.SentMessage R') : OutgoingMessage R' :=
  { message := sent.message, phase := sent.phase, stream := none, result := sent.result }

/-- The direction from the client to the server. -/
def fromClient : Delivery.State S (ClientOnServerEvent S') :=
  { closed := state.client.receivingHalf.closed
    sendings := state.client.sendings.map ofSendingTask
    outgoing := state.clientToServer
    peer := state.serverHalf }

/-- The direction from the server to the client. -/
def fromServer : Delivery.State R' (ClientEvent R) :=
  { closed := state.serverHalf.closed
    sendings := ((state.server.map (·.sentMessages)).getD []).map ofSentMessage
    outgoing := state.serverToClient
    peer := state.client.receivingHalf }

end State

/-! ## The system -/

section Direction

variable {M M' Event : Type} (direction : Delivery.State M Event)

/-- The streams let Quinn give this answer to a sending task. -/
def answersTask (wire : Wire M M') (index : Nat) (answer : Answer) : Bool :=
  (direction.sendings[index]?).any fun sending =>
    direction.answers wire sending.phase answer

/-- The streams once a sending task has gone on with an answer. -/
def transmitted (index : Nat) (answer : Answer) : List OutgoingStream :=
  match direction.sendings[index]? with
  | some sending => direction.transmit sending.phase answer
  | none => direction.outgoing

end Direction

section Step

variable {S S' R R' : Type} (build : Build S S' R R')

/-- A step of the client. -/
def stepClient (state : State S S' R R') (action : Client.Action S) :
    Option (State S S' R R') :=
  let stepped := Client.step build.client state.client action
  match action with
  | .sendingTask index answer =>
      if answersTask state.fromClient build.clientToServer index answer then
        stepped.map fun client =>
          { state with
            client := client
            clientToServer := transmitted state.fromClient index answer }
      else none
  | .receiving receiving =>
      if state.fromServer.transports receiving then
        stepped.map fun client => { state with client := client }
      else none
  | _ => stepped.map fun client => { state with client := client }

/-- A step of the server's end. -/
def stepServer (state : State S S' R R') (server : ClientOnServer.State R' S')
    (action : ClientOnServer.Action R') : Option (State S S' R R') :=
  let stepped := ClientOnServer.step build.server server action
  match action with
  | .sendingTask index answer =>
      if answersTask state.fromServer build.serverToClient index answer then
        stepped.map fun server =>
          { state with
            server := some server
            serverToClient := transmitted state.fromServer index answer }
      else none
  | .receiving receiving =>
      if state.fromClient.transports receiving then
        stepped.map fun server => { state with server := some server }
      else none
  | _ => stepped.map fun server => { state with server := some server }

/-- The step function of the two ends. -/
def step (state : State S S' R R') : Action S R' → Option (State S S' R R')
  | .client action => stepClient build state action
  | .newClientOnServer =>
      if state.client.connection.isSome ∧ state.server.isNone then
        some { state with server := some .new }
      else none
  | .server action => state.server.bind fun server => stepServer build state server action

/-- The two ends of a connection as a system. -/
def system : System (State S S' R R') (Action S R') where
  init := .new
  step := step build

end Step

end Warqueen.Session
