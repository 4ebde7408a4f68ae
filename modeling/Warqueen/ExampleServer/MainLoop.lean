import Warqueen.Serving.Calls

/-!
# The main loop of the example server

The main thread polls the new clients, then the events of each client, forgets those
whose disconnection it was told, now and then sends a message to one of the others, and
disconnects all of them when it is halted.  Between any two of its calls the clients,
the network and the tasks of the runtime go on.

Lines that do not depend on a client are not modelled, and of the line for a new client
its address is not.
-/

namespace Warqueen.ExampleServer

open Concurrency Quinn Receiving Server Session

/-! ## The data of the main loop -/

inductive MessageClientToServer where
  | string (content : String)
  deriving DecidableEq, Repr

inductive MessageServerToClient where
  | string (content : String)
  deriving DecidableEq, Repr

/-- What the server sends periodically. -/
def periodicMessage : MessageServerToClient := .string "uwu"

/-- A line that the server prints about a client. -/
inductive Line where
  | connected (clientId : Nat)
  | clientSays (clientId : Nat) (content : String)
  | disconnected (clientId : Nat)
  | timedOut (clientId : Nat)
  | weSay (clientId : Nat)
  | disconnecting (clientId : Nat)
  deriving DecidableEq, Repr

/-- A connected client with its id, an entry of `clients`.  The client is named by its
attempt. -/
structure Client where
  attempt : Nat
  id : Nat
  deriving DecidableEq, Repr

/-- Where the main thread is: in the loop over the new clients, in the loop over the
events of the client at a place of the list, before the two conditions that follow, in
the last loop, waiting in it for the first of the clients that are left, or over. -/
inductive Phase where
  | pollingClients
  | pollingEvents (place : Nat)
  | sending
  | checkingHalt
  | disconnecting
  | waiting
  | returned
  deriving DecidableEq, Repr

/-- The server with its main thread, and what it printed.  In the last loop `clients`
has those that are left. -/
structure State (S R : Type) where
  server : Serving.State S MessageClientToServer R MessageServerToClient
  phase : Phase
  clients : List Client
  nextClientId : Nat
  disconnectedIds : List Nat
  printed : List Line
  deriving DecidableEq

/-- The steps of the main thread, with what the clock, the random number generator and
the `AtomicBool` tell it, and those of everything else. -/
inductive Action (S : Type) where
  | outside (action : Serving.Action S MessageServerToClient)
  | pollClient
  | pollEventFromClient
  | forgetDisconnected
  | send (elapsed : Bool) (randomClientIndex : Nat)
  | loadHalt (halt : Bool)
  | disconnect
  | finishWaiting
  deriving DecidableEq

/-- The label is no call of the main thread. -/
def isOutside {S : Type} : Serving.Action S MessageServerToClient → Bool
  | .listener .pollClient | .listener .drop => false
  | .session _ (.server call) => !Serving.isCall call
  | _ => true

namespace State

variable {S R : Type}

/-- The main thread enters the loop. -/
def new (attempts : List Handshake) : State S R :=
  { server := .new attempts
    phase := .pollingClients
    clients := []
    nextClientId := 0
    disconnectedIds := []
    printed := [] }

variable (state : State S R)

/-- A new client gets the next id, or there is none and the events are next. -/
def welcome : Option Nat → State S R
  | some attempt =>
      { state with
        clients := state.clients ++ [{ attempt := attempt, id := state.nextClientId }]
        nextClientId := state.nextClientId + 1
        printed := state.printed ++ [.connected state.nextClientId] }
  | none => { state with phase := .pollingEvents 0, disconnectedIds := [] }

/-- The line for an event of a client. -/
def eventLine (clientId : Nat) : ClientOnServerEvent MessageClientToServer → Line
  | .message (.string content) => .clientSays clientId content
  | .disconnected .none => .disconnected clientId
  | .disconnected .timeout => .timedOut clientId

/-- The body of the loop over the events of a client, or the next client. -/
def hear (client : Client) (place : Nat) :
    Option (ClientOnServerEvent MessageClientToServer) → State S R
  | some event =>
      { state with
        disconnectedIds := state.disconnectedIds ++
          if (serverSide MessageClientToServer).isDisconnected event then [client.id] else []
        printed := state.printed ++ [eventLine client.id event] }
  | none => { state with phase := .pollingEvents (place + 1) }

/-- The clients that `retain` keeps. -/
def keeps (client : Client) : Bool := !state.disconnectedIds.contains client.id

/-- Every connection of the endpoint has ended, which `Endpoint::wait_idle` awaits. -/
def allEnded : Bool :=
  state.server.sessions.all fun session =>
    session.server.all fun server => server.connection.closed.isSome

end State

section Step

variable {S R : Type} (attempts : List Handshake)
variable (build : Build S MessageClientToServer R MessageServerToClient)

/-- A call of the main thread on a client that it has. -/
def call (state : State S R) (client : Client)
    (call : ClientOnServer.Action MessageServerToClient) : Option (State S R) :=
  (Serving.step attempts build state.server (.session client.attempt (.server call))).map
    fun server => { state with server := server }

/-- The clients are dropped, one after the other. -/
def dropClients (state : State S R) (clients : List Client) : Option (State S R) :=
  clients.foldlM (fun state client => call attempts build state client .drop) state

/-- The step function of the example server. -/
def step (state : State S R) : Action S → Option (State S R)
  | .outside action =>
      if isOutside action then
        (Serving.step attempts build state.server action).map fun server =>
          { state with server := server }
      else none
  | .pollClient =>
      if state.phase = .pollingClients then
        (Serving.step attempts build state.server (.listener .pollClient)).map fun server =>
          { state with server := server }.welcome state.server.nextClient
      else none
  | .pollEventFromClient =>
      match state.phase with
      | .pollingEvents place =>
          (state.clients[place]?).bind fun client =>
            (call attempts build state client .pollEventFromClient).map fun polled =>
              polled.hear client place (state.server.nextEvent client.attempt)
      | _ => none
  | .forgetDisconnected =>
      if state.phase = .pollingEvents state.clients.length then
        (dropClients attempts build state
          (state.clients.filter fun client => !state.keeps client)).map fun dropped =>
            { dropped with clients := state.clients.filter state.keeps, phase := .sending }
      else none
  | .send elapsed randomClientIndex =>
      if state.phase = .sending then
        if elapsed ∧ state.clients ≠ [] then
          (state.clients[randomClientIndex]?).bind fun client =>
            (call attempts build state client (.sendMessageToClient periodicMessage)).map
              fun sent =>
                { sent with
                  phase := .checkingHalt
                  printed := state.printed ++ [.weSay client.id] }
        else some { state with phase := .checkingHalt }
      else none
  | .loadHalt halt =>
      if state.phase = .checkingHalt then
        some { state with phase := if halt then .disconnecting else .pollingClients }
      else none
  | .disconnect =>
      if state.phase = .disconnecting then
        match state.clients with
        | client :: _ =>
            (call attempts build state client .disconnect).map fun disconnected =>
              { disconnected with
                phase := .waiting
                printed := state.printed ++ [.disconnecting client.id] }
        | [] => some { state with phase := .returned }
      else none
  | .finishWaiting =>
      if state.phase = .waiting ∧ state.allEnded then
        match state.clients with
        | client :: left =>
            (call attempts build state client .drop).map fun dropped =>
              { dropped with phase := .disconnecting, clients := left }
        | [] => none
      else none

/-- The example server as a system. -/
def system : System (State S R) (Action S) where
  init := .new attempts
  step := step attempts build

end Step

end Warqueen.ExampleServer
