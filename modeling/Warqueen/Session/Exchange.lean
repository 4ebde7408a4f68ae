import Warqueen.Client.Answers
import Warqueen.Client.Events
import Warqueen.ClientOnServer.Closing
import Warqueen.ClientOnServer.Failures
import Warqueen.Session.Directions

/-!
# What two ends exchange

Between two ends of a connection nothing is invented and nothing repeated, in either
direction: what an application polls is among what the other application gave.  When
the receiving tasks of an end are at rest, everything that was answered with
`SendingResult::Sent` is there, and when the connection stays up and both ends are at
rest, everything is there.
-/

namespace Warqueen.Session

open Concurrency Quinn Receiving Sending Delivery

variable {S S' R R' : Type} {build : Build S S' R R'}
variable {state state' : State S S' R R'} {action : Action S R'}

/-! ## What the applications gave and polled -/

/-- The messages that the client's application gave in a run. -/
def givenToClient (actions : List (Action S R')) : List S :=
  actions.filterMap fun
    | .client (.sendMessageToServer message) => some message
    | _ => none

/-- The messages that the server's application gave in a run. -/
def givenToServer (actions : List (Action S R')) : List R' :=
  actions.filterMap fun
    | .server (.sendMessageToClient message) => some message
    | _ => none

/-- The messages that the client's application polled. -/
def State.polledByClient (state : State S S' R R') : List R :=
  state.client.polled.filterMap ClientEvent.payload

/-- The messages that the server's application polled. -/
def State.polledByServer (state : State S S' R R') : List S' :=
  ((state.server.map (·.polled)).getD []).filterMap ClientOnServerEvent.payload

/-- The messages in the order in which the client queued them. -/
def State.queuedAtClient (state : State S S' R R') : List R :=
  state.fromServer.queuedMessages (clientPayload R)

/-- The messages in the order in which the server's end queued them. -/
def State.queuedAtServer (state : State S S' R R') : List S' :=
  state.fromClient.queuedMessages (serverPayload S')

/-- The client of a run has made the calls of the run. -/
theorem calls_of_run {actions : List (Action S R')}
    (ran : (system build).run .new actions = some state) :
    state.client.calls.map (·.message) = givenToClient actions := by
  refine System.run_history (fun actions (state : State S S' R R') =>
    state.client.calls.map (·.message) = givenToClient actions) rfl ?_ ran
  intro actions before action after _ same stepped
  have added : after.client.calls.map (·.message) =
      before.client.calls.map (·.message) ++ givenToClient [action] := by
    cases sessionStep_of_step stepped with
    | @client acting _ stepped =>
        rw [Client.step_messages stepped.client]
        cases acting <;> rfl
    | newClientOnServer => simp [givenToClient]
    | server found stepped =>
        rw [stepped.server.1]
        simp [givenToClient]
  rw [added, same]
  exact List.filterMap_append.symm

/-- The messages that the server's end was given. -/
def State.sentMessages (state : State S S' R R') : List (ClientOnServer.SentMessage R') :=
  (state.server.map (·.sentMessages)).getD []

/-- Each step of the server's end adds what its application gave. -/
theorem step_sentMessages {server server' : ClientOnServer.State R' S'}
    {acting : ClientOnServer.Action R'}
    (stepped : ClientOnServer.step build.server server acting = some server') :
    server'.sentMessages.map (·.message) =
      server.sentMessages.map (·.message) ++
        givenToServer [(.server acting : Action S R')] := by
  cases acting with
  | sendMessageToClient message =>
      simp only [ClientOnServer.step, Option.ite_none_right_eq_some,
        Option.some.injEq] at stepped
      obtain ⟨-, rfl⟩ := stepped
      simp [ClientOnServer.State.sendMessageToClient, givenToServer]
  | pollEventFromClient | disconnect | drop =>
      simp only [ClientOnServer.step, Option.ite_none_right_eq_some,
        Option.some.injEq] at stepped
      obtain ⟨-, rfl⟩ := stepped
      exact (List.append_nil _).symm
  | sendingTask index answer =>
      obtain ⟨sent, phase, found, -, -, rfl⟩ :=
        ClientOnServer.State.resumeSending_eq_some stepped
      have messages : (server.sentMessages.set index
          { sent with phase := phase, result := phase.settle sent.result }).map
            (·.message) = server.sentMessages.map (·.message) := map_set_of_same found rfl
      exact messages.trans (List.append_nil _).symm
  | receiving receiving =>
      obtain ⟨connection, rfl, -, -⟩ := ClientOnServer.receiving_cases stepped
      exact (List.append_nil _).symm

/-- Each step of the two ends adds what the server's application gave. -/
theorem sentMessages_step (stepped : step build state action = some state') :
    state'.sentMessages.map (·.message) =
      state.sentMessages.map (·.message) ++ givenToServer [action] := by
  cases sessionStep_of_step stepped with
  | client stepped =>
      simp only [State.sentMessages, stepped.server]
      simp [givenToServer]
  | newClientOnServer _ notYet =>
      simp [State.sentMessages, notYet, givenToServer, ClientOnServer.State.new]
  | server found stepped =>
      obtain ⟨-, server', found', steps⟩ := stepped.server
      simp only [State.sentMessages, found, found', Option.map_some, Option.getD_some]
      exact step_sentMessages steps

/-- The server's end of a run has been given the messages of the run. -/
theorem sentMessages_of_run {actions : List (Action S R')}
    (ran : (system build).run .new actions = some state) :
    state.sentMessages.map (·.message) = givenToServer actions := by
  refine System.run_history (fun actions (state : State S S' R R') =>
    state.sentMessages.map (·.message) = givenToServer actions) rfl ?_ ran
  intro actions before action after _ same stepped
  rw [sentMessages_step stepped, same]
  exact List.filterMap_append.symm

/-! ## Nothing is invented -/

/-- A direction has the same messages without the records of its streams. -/
theorem sendings_forgetStreams {M M' Event : Type} (direction : Delivery.State M Event)
    (image : M → Option M') :
    direction.forgetStreams.sendings.filterMap (fun sending => image sending.message) =
      direction.sendings.filterMap fun sending => image sending.message := by
  simp only [Delivery.State.forgetStreams, List.filterMap_map]
  rfl

theorem queuedAtServer_subperm (reachable : (system build).Reachable state) :
    state.queuedAtServer.Subperm
      (state.client.sendings.filterMap fun sending =>
        build.clientToServer.transfer sending.message) := by
  obtain ⟨⟨direction, reached, same⟩, -⟩ := exists_directions reachable
  have within := queuedMessages_subperm (serverPayload S') reached
  have sendings : state.client.sendings.filterMap
      (fun sending => build.clientToServer.transfer sending.message) =
        state.fromClient.sendings.filterMap
          fun sending => build.clientToServer.transfer sending.message := by
    simp only [State.fromClient, List.filterMap_map]
    rfl
  rw [sendings, State.queuedAtServer, same, sendings_forgetStreams]
  exact within

theorem queuedAtClient_subperm (reachable : (system build).Reachable state) :
    state.queuedAtClient.Subperm
      (state.sentMessages.filterMap fun sent =>
        build.serverToClient.transfer sent.message) := by
  obtain ⟨-, direction, reached, same⟩ := exists_directions reachable
  have within := queuedMessages_subperm (clientPayload R) reached
  have sendings : state.sentMessages.filterMap
      (fun sent => build.serverToClient.transfer sent.message) =
        state.fromServer.sendings.filterMap
          fun sending => build.serverToClient.transfer sending.message := by
    simp only [State.fromServer, List.filterMap_map]
    rfl
  rw [sendings, State.queuedAtClient, same, sendings_forgetStreams]
  exact within

/-- What the server's application polled was queued. -/
theorem polledByServer_sublist (reachable : (system build).Reachable state) :
    state.polledByServer.Sublist state.queuedAtServer := by
  cases found : state.server with
  | none => simp [State.polledByServer, found]
  | some server =>
      have polled := (ClientOnServer.polled_of_reachable
        (server_reachable reachable found)).2
      have half : state.fromClient.peer = server.connection := by
        simp [State.fromClient, State.serverHalf, found]
      simp only [State.polledByServer, State.queuedAtServer, State.queuedMessages, half, found,
        Option.map_some, Option.getD_some, polled]
      exact ((List.take_sublist _ _).map _).filterMap _

/-- What the client's application polled was queued. -/
theorem polledByClient_sublist (reachable : (system build).Reachable state) :
    state.polledByClient.Sublist state.queuedAtClient := by
  rcases Client.followsProtocol (client_reachable reachable) with
    polled | polled | ⟨connection, found, polled, -⟩
  · simp [State.polledByClient, polled]
  · have none : state.polledByClient = [] := by
      rw [State.polledByClient, polled]
      rfl
    rw [none]
    exact List.nil_sublist _
  · have half : state.fromServer.peer = connection := by
      simp [State.fromServer, Client.State.receivingHalf, found]
    simp only [State.polledByClient, State.queuedAtClient, State.queuedMessages, half, polled]
    exact ((List.take_sublist _ _).map _).filterMap _

/-- After a run, in both directions, what an application polled is among what the
other one gave, as the format transfers it, and nothing more often than it was given. -/
structure NothingInvented (build : Build S S' R R') (actions : List (Action S R'))
    (state : State S S' R R') : Prop where
  atServer : state.polledByServer.Subperm
    ((givenToClient actions).filterMap build.clientToServer.transfer)
  atClient : state.polledByClient.Subperm
    ((givenToServer actions).filterMap build.serverToClient.transfer)

/-- In every run of the two ends, with buffered messages, losses, closes and every
interleaving, nothing is invented and nothing is repeated. -/
theorem nothing_is_invented (build : Build S S' R R') (actions : List (Action S R'))
    (state : State S S' R R') (ran : (system build).run .new actions = some state) :
    NothingInvented build actions state := by
  have reachable := System.reachable_of_run ran
  have paired := Client.paired_of_reachable (client_reachable reachable)
  constructor
  · have started := paired.started_prefix.sublist.filterMap build.clientToServer.transfer
    rw [calls_of_run ran, List.filterMap_map] at started
    exact ((polledByServer_sublist reachable).subperm.trans
      (queuedAtServer_subperm reachable)).trans started.subperm
  · have given := queuedAtClient_subperm reachable
    have messages : state.sentMessages.filterMap
        (fun sent => build.serverToClient.transfer sent.message) =
          (givenToServer actions).filterMap build.serverToClient.transfer := by
      rw [← sentMessages_of_run ran, List.filterMap_map]
      rfl
    rw [messages] at given
    exact (polledByClient_sublist reachable).subperm.trans given

/-- MessagePack of booleans.  What follows the value is not looked at. -/
def booleanWire : Wire Bool Bool where
  encode message := some [if message then 0xc3 else 0xc2]
  decode
    | 0xc3 :: _ => some true
    | 0xc2 :: _ => some false
    | _ => none
  toPeer := id
  window := bytesWire.window
  window_pos := bytesWire.window_pos

/-- Two ends that exchange booleans. -/
def booleans : Build Bool Bool Bool Bool where
  clientToServer := booleanWire
  serverToClient := booleanWire
  forbidHandleDrop := false

/-- Both ends are built, and each application gives a message, the client's while there
is no connection yet. -/
def greetEachOther : List (Action Bool Bool) :=
  [.client (.sendMessageToServer true), .client (.endAttempt .connected),
    .client .connectingTask, .client .connectingTask, .client .pollEventFromServer,
    .newClientOnServer, .server (.sendMessageToClient false)]

/-- The client's message is sent, received and polled. -/
def crossTheNetwork : List (Action Bool Bool) :=
  [.client (.sendingTask 0 .polled), .client (.sendingTask 0 (.opened (.ok 0))),
    .client (.sendingTask 0 (.wrote (.ok 1))), .client (.sendingTask 0 .finished),
    .server (.receiving .openStream), .server (.receiving (.deliver 0 [0xc3])),
    .server (.receiving (.finish 0)), .server (.receiving .acceptUni),
    .server (.receiving (.read 0)), .client (.sendingTask 0 (.stopped (.ok none))),
    .server .pollEventFromClient]

theorem nothing_is_invented_of_greetings :
    ∃ state, (system booleans).run .new (greetEachOther ++ crossTheNetwork) =
        some state ∧
      state.polledByServer = [true] ∧
      NothingInvented booleans (greetEachOther ++ crossTheNetwork) state :=
  ⟨_, rfl, rfl, nothing_is_invented booleans _ _ rfl⟩

/-! ## What was sent arrives -/

/-- What the server should make of the messages whose handles at the client answer
`SendingResult::Sent`. -/
def State.sentByClient (build : Build S S' R R') (state : State S S' R R') : List S' :=
  state.client.calls.filterMap fun call =>
    if getState call.result = .result .sent then
      build.clientToServer.transfer call.message
    else none

/-- What the client should make of the messages whose handles at the server answer
`SendingResult::Sent`. -/
def State.sentByServer (build : Build S S' R R') (state : State S S' R R') : List R :=
  state.sentMessages.filterMap fun sent =>
    if getState sent.result = .result .sent then
      build.serverToClient.transfer sent.message
    else none

/-- The receiving tasks of the server's end are at rest, and a poll of its application,
which holds it, returns nothing. -/
def State.ServerCaughtUp (build : Build S S' R R') (state : State S S' R R') : Prop :=
  ∃ server, state.server = some server ∧ server.held = true ∧
    (Receiving.system (serverSide S') build.clientToServer.decode).Stuck
      Receiving.Action.IsTask server.connection ∧
    server.connection.events.tryRecv.1 = none

/-- The receiving tasks of the client are at rest, and a poll of its application, which
is connected and knows it, returns nothing. -/
def State.ClientCaughtUp (build : Build S S' R R') (state : State S S' R R') : Prop :=
  ∃ connection, state.client.connection = some connection ∧
    state.client.networking = .connected { connectedEventAlreadyPolled := true } ∧
    (Receiving.system (clientSide R) build.serverToClient.decode).Stuck
      Receiving.Action.IsTask connection ∧
    connection.events.tryRecv.1 = none

/-- A queue from which nothing can be received has been taken to its end. -/
theorem taken_of_tryRecv_none {α : Type} {queue : Mpsc α} (none : queue.tryRecv.1 = none) :
    queue.taken = queue.sent := by
  simp only [Mpsc.tryRecv] at none
  split at none
  next => cases none
  next nothing => exact List.take_of_length_le (List.getElem?_eq_none_iff.mp nothing)

theorem polledByServer_of_caughtUp (reachable : (system build).Reachable state)
    (caughtUp : state.ServerCaughtUp build) : state.polledByServer = state.queuedAtServer := by
  obtain ⟨server, found, -, -, nothing⟩ := caughtUp
  have polled := (ClientOnServer.polled_of_reachable (server_reachable reachable found)).2
  have half : state.fromClient.peer = server.connection := by
    simp [State.fromClient, State.serverHalf, found]
  rw [taken_of_tryRecv_none nothing] at polled
  simp only [State.polledByServer, State.queuedAtServer, State.queuedMessages, half, found,
    Option.map_some, Option.getD_some, polled]
  rfl

theorem polledByClient_of_caughtUp (reachable : (system build).Reachable state)
    (caughtUp : state.ClientCaughtUp build) : state.polledByClient = state.queuedAtClient := by
  obtain ⟨connection, found, networking, -, nothing⟩ := caughtUp
  have returned := (Client.told_of_reachable (client_reachable reachable)).returned
  simp only [Client.State.Returned, networking, if_true, Client.State.taken, found,
    taken_of_tryRecv_none nothing] at returned
  have half : state.fromServer.peer = connection := by
    simp [State.fromServer, Client.State.receivingHalf, found]
  simp only [State.polledByClient, State.queuedAtClient, State.queuedMessages, half, returned]
  rfl

/-- The server's end holds its queue until it is dropped. -/
theorem receiverHeld_of_held {server : ClientOnServer.State R' S'}
    (reachable : (ClientOnServer.system build.server).Reachable server)
    (held : server.held = true) : server.connection.events.receiverHeld = true := by
  refine reachable.invariant (fun server : ClientOnServer.State R' S' =>
    server.held = true → server.connection.events.receiverHeld = true) (fun _ => rfl) ?_ held
  intro before acting after _ holds stepped heldAfter
  cases acting with
  | sendMessageToClient | disconnect =>
      simp only [ClientOnServer.system, ClientOnServer.step, Option.ite_none_right_eq_some,
        Option.some.injEq] at stepped
      obtain ⟨heldBefore, rfl⟩ := stepped
      exact holds heldBefore
  | pollEventFromClient =>
      simp only [ClientOnServer.system, ClientOnServer.step, Option.ite_none_right_eq_some,
        Option.some.injEq] at stepped
      obtain ⟨heldBefore, rfl⟩ := stepped
      exact (Mpsc.tryRecv_receiverHeld _).trans (holds heldBefore)
  | drop =>
      simp only [ClientOnServer.system, ClientOnServer.step, Option.ite_none_right_eq_some,
        Option.some.injEq] at stepped
      obtain ⟨-, rfl⟩ := stepped
      cases heldAfter
  | sendingTask index answer =>
      obtain ⟨sent, phase, -, -, -, rfl⟩ := ClientOnServer.State.resumeSending_eq_some stepped
      exact holds heldAfter
  | receiving receiving =>
      obtain ⟨connection, rfl, isReceiving, received⟩ :=
        ClientOnServer.receiving_cases stepped
      have keeps : receiving ≠ .dropReceiver := by
        intro same
        subst same
        cases isReceiving
      exact (step_receiverHeld keeps received).trans (holds heldAfter)

/-- The messages answered with `SendingResult::Sent` do not depend on the records of the
streams. -/
theorem sent_forgetStreams {M M' Event : Type} (wire : Wire M M')
    (direction : Delivery.State M Event) :
    direction.forgetStreams.sendings.filterMap (OutgoingMessage.transferIfSent wire) =
      direction.sendings.filterMap (OutgoingMessage.transferIfSent wire) := by
  simp only [Delivery.State.forgetStreams, List.filterMap_map]
  rfl

/-- Once an application has polled everything and the receiving tasks of its end are at
rest, it has polled what the other end was told to be sent, each message as often as it
was so answered. -/
structure SentArrives (build : Build S S' R R') (state : State S S' R R') : Prop where
  atServer : state.ServerCaughtUp build →
    (state.sentByClient build).Subperm state.polledByServer
  atClient : state.ClientCaughtUp build →
    (state.sentByServer build).Subperm state.polledByClient

/-- In every state that two ends can reach, whether the connection is up or lost and
whoever closed it, what was answered with `SendingResult::Sent` arrives, buffered
messages included. -/
theorem what_was_sent_arrives (build : Build S S' R R') (state : State S S' R R')
    (reachable : (system build).Reachable state) : SentArrives build state := by
  obtain ⟨⟨fromClient, reachedClient, sameClient⟩, fromServer, reachedServer, sameServer⟩ :=
    exists_directions reachable
  have decided := Client.decided_of_reachable (client_reachable reachable)
  constructor
  · intro caughtUp
    rw [polledByServer_of_caughtUp reachable caughtUp]
    obtain ⟨server, found, held, stuck, -⟩ := caughtUp
    have peer : fromClient.peer = server.connection := by
      have half := congrArg Delivery.State.peer sameClient
      simpa [State.fromClient, State.serverHalf, found, Delivery.State.forgetStreams,
        eq_comm] using half
    have arrives := sent_subperm (serverPayload S') reachedClient (by rwa [peer])
      (by rw [peer]; exact receiverHeld_of_held (server_reachable reachable found) held)
    have calls : state.sentByClient build = state.fromClient.sendings.filterMap
        (OutgoingMessage.transferIfSent build.clientToServer) := by
      rw [State.sentByClient, decided.sent_calls, State.fromClient, List.filterMap_map]
      apply List.filterMap_congr
      intro sending _
      simp only [Function.comp_apply, OutgoingMessage.transferIfSent, State.ofSendingTask,
        getState_settle]
    rw [calls, State.queuedAtServer, sameClient, sent_forgetStreams]
    exact arrives
  · intro caughtUp
    rw [polledByClient_of_caughtUp reachable caughtUp]
    obtain ⟨connection, found, networking, stuck, -⟩ := caughtUp
    have peer : fromServer.peer = connection := by
      have half := congrArg Delivery.State.peer sameServer
      simpa [State.fromServer, Client.State.receivingHalf, found,
        Delivery.State.forgetStreams, eq_comm] using half
    have held := decided.eventsHeld connection found (by simp [networking])
    have arrives := sent_subperm (clientPayload R) reachedServer (by rwa [peer])
      (by rwa [peer])
    have messages : state.sentByServer build = state.fromServer.sendings.filterMap
        (OutgoingMessage.transferIfSent build.serverToClient) := by
      rw [State.sentByServer, State.fromServer, List.filterMap_map]
      rfl
    rw [messages, State.queuedAtClient, sameServer, sent_forgetStreams]
    exact arrives

/-- The client disconnects, and the server polls what is left. -/
def clientLeaves : List (Action Bool Bool) :=
  [.client .disconnect, .server (.receiving (.lose (.applicationClosed []))),
    .server (.receiving .acceptUni), .server .pollEventFromClient]

theorem what_was_sent_arrives_before_leaving :
    ∃ state, (system booleans).run .new
        (greetEachOther ++ crossTheNetwork ++ clientLeaves) = some state ∧
      state.ServerCaughtUp booleans ∧ state.sentByClient booleans = [true] ∧
      SentArrives booleans state := by
  obtain ⟨state, ran, caughtUp, sent⟩ : ∃ state, (system booleans).run .new
      (greetEachOther ++ crossTheNetwork ++ clientLeaves) = some state ∧
        state.ServerCaughtUp booleans ∧ state.sentByClient booleans = [true] := by
    refine ⟨_, rfl, ⟨_, rfl, rfl, ?_, rfl⟩, rfl⟩
    intro receiving isTask
    cases receiving with
    | spawn | acceptUni => rfl
    | read reader => cases reader <;> rfl
    | _ => exact isTask.elim
  exact ⟨state, ran, caughtUp, sent,
    what_was_sent_arrives booleans state (System.reachable_of_run ran)⟩

end Warqueen.Session
