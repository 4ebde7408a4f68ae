import Mathlib.Tactic.IntervalCases
import Warqueen.Delivery.Arrivals
import Warqueen.Session.Rest

/-!
# Every message gets through

The applications of a session need not wait until it comes to rest.  As long as the
connection is up at both ends, both applications keep polling, and neither the tasks nor
the network are passed over for ever, whatever an application gives is polled by the other
some time later, however much else is given meanwhile.
-/

namespace Warqueen.Session

open Concurrency Quinn Receiving Sending Delivery

variable {S S' R R' : Type} {build : Build S S' R R'}
variable {state state' : State S S' R R'} {action : Action S R'}

/-! ## Who takes the steps -/

/-- Who takes the step in the direction from the client. -/
def Action.partyToServer : Action S R' → Option Party
  | .client (.sendingTask index _) => some (.sendingTask index)
  | .server (.receiving receiving) => (.peer receiving : Delivery.Action S).party
  | .server .pollEventFromClient => some .application
  | _ => none

/-- Who takes the step in the direction from the server. -/
def Action.partyToClient : Action S R' → Option Party
  | .server (.sendingTask index _) => some (.sendingTask index)
  | .client (.receiving receiving) => (.peer receiving : Delivery.Action R').party
  | .client .pollEventFromServer => some .application
  | _ => none

/-- Neither a task of the two ends nor the network is passed over for ever, and both
applications keep polling. -/
structure Fair (execution : Execution (system build)) : Prop where
  toServer : ∀ party, execution.FairTo fun action => action.partyToServer = some party
  toClient : ∀ party, execution.FairTo fun action => action.partyToClient = some party

theorem partyToServer_ofFromClient {own : Delivery.Action S} {party : Party}
    (isParty : own.party = some party) :
    (Action.ofFromClient own : Action S R').partyToServer = some party := by
  cases own with
  | send | lose => cases isParty
  | resume => exact isParty
  | peer receiving => cases receiving <;> exact isParty

theorem partyToClient_ofFromServer {own : Delivery.Action R'} {party : Party}
    (isParty : own.party = some party) :
    (Action.ofFromServer own : Action S R').partyToClient = some party := by
  cases own with
  | send | lose => cases isParty
  | resume => exact isParty
  | peer receiving => cases receiving <;> exact isParty

/-! ## Polls -/

/-- The client has told its application that it is connected, or has been left. -/
def State.Announced (state : State S S' R R') : Prop :=
  state.client.networking = .connected { connectedEventAlreadyPolled := true } ∨
    ∃ whoClosed, state.client.networking = .disconnected whoClosed

theorem announced_step (announced : state.Announced)
    (stepped : (system build).step state action = some state') : state'.Announced := by
  cases sessionStep_of_step stepped with
  | @client acting _ stepped =>
      refine Client.keeps_of_transitions (fun client =>
        client.networking = .connected { connectedEventAlreadyPolled := true } ∨
          ∃ whoClosed, client.networking = .disconnected whoClosed) ?_ announced
        stepped.client
      intro before after holds transition
      cases transition with
      | connects _ networking | timesOut _ networking | buffers networking
      | abandons networking => simp [networking] at holds
      | pollsConnected networking | pollsFailed networking => simp
      | closes networking => simp
      | _ => exact holds
  | newClientOnServer => exact announced
  | server found stepped =>
      simp only [State.Announced, stepped.server.1]
      exact announced

/-- A poll of the client's application, once it knows that it is connected, is a poll of
the direction from the server. -/
theorem ClientStep.polled {connection : Receiving.State (ClientEvent R)}
    (networking : state.client.networking = .connected { connectedEventAlreadyPolled := true })
    (found : state.client.connection = some connection)
    (stepped : ClientStep build state .pollEventFromServer state') :
    (serverOutside build).step state.fromServer (.peer .poll) = some state'.fromServer := by
  cases stepped with
  | @acts _ client notSending notReceiving stepped =>
      obtain rfl := Option.some.inj stepped
      have isHalf : state.client.receivingHalf = connection := by
        simp [Client.State.receivingHalf, found]
      have polls : Receiving.step (clientSide R) build.serverToClient.decode
          state.client.receivingHalf .poll =
            some { connection with events := connection.events.tryRecv.2 } := by
        rw [isHalf]
        rfl
      have polled := outside_peer _ build.serverToClient (fromServer_seen state) rfl polls
      rw [polled]
      simp [State.fromServer, State.serverHalf, Client.State.receivingHalf,
        Client.State.connectIfPossible, Client.State.poll, Client.State.pollEvent,
        Client.State.pollEventFromClient, networking, found]

/-- The first poll of a client that is connected announces it. -/
theorem ClientStep.announces {connected : Client.ClientNetworkingConnected}
    (networking : state.client.networking = .connected connected)
    (stepped : ClientStep build state .pollEventFromServer state') : state'.Announced := by
  cases stepped with
  | @acts _ client notSending notReceiving stepped =>
      obtain rfl := Option.some.inj stepped
      left
      simp only [Client.State.connectIfPossible, Client.State.poll, Client.State.pollEvent,
        Client.State.pollEventFromClient, networking]
      obtain ⟨already⟩ := connected
      cases already with
      | false => rfl
      | true => cases state.client.connection <;> simp [networking]

theorem announced_of_poll (up : Up state) (isPoll : action.partyToClient = some .application)
    (stepped : (system build).step state action = some state') : state'.Announced := by
  obtain ⟨connected, connection, networking, found, -⟩ := up.client
  cases sessionStep_of_step stepped with
  | @client acting _ stepped =>
      cases acting with
      | pollEventFromServer => exact stepped.announces networking
      | receiving receiving =>
          obtain ⟨impossible, -⟩ | ⟨-, same⟩ := isOwn_of_party isPoll
          · exact absurd rfl impossible
          · obtain rfl := Delivery.Action.peer.inj same
            cases stepped with
            | receives _ polls => simp [Client.step, Client.isReceiving] at polls
            | acts _ notReceiving => exact absurd rfl (notReceiving _)
      | _ => cases isPoll
  | newClientOnServer => cases isPoll
  | @server acting server _ found stepped =>
      cases acting with
      | sendingTask => cases isPoll
      | _ => cases isPoll

/-! ## Courses of the two directions -/

/-- A step of a party of the direction from the client is a step of the direction. -/
theorem acts_fromClient {party : Party} (isParty : action.partyToServer = some party)
    (stepped : (system build).step state action = some state') :
    ActsOutside (serverSide S') build.clientToServer party state.fromClient
      state'.fromClient := by
  cases sessionStep_of_step stepped with
  | @client acting _ stepped =>
      cases acting with
      | sendingTask index answer =>
          exact ⟨.resume index answer, isParty, stepped.resumed.1⟩
      | _ => cases isParty
  | newClientOnServer => cases isParty
  | @server acting server _ found stepped =>
      cases acting with
      | receiving receiving =>
          exact ⟨.peer receiving, isParty, (stepped.received found).1⟩
      | pollEventFromClient => exact ⟨.peer .poll, isParty, (stepped.polled found).1⟩
      | _ => cases isParty

/-- A step of a party of the direction from the server is a step of the direction, once
the client has told its application that it is connected. -/
theorem acts_fromServer (up : Up state) {party : Party}
    (announced : party = .application → state.Announced)
    (isParty : action.partyToClient = some party)
    (stepped : (system build).step state action = some state') :
    ActsOutside (clientSide R) build.serverToClient party state.fromServer
      state'.fromServer := by
  cases sessionStep_of_step stepped with
  | @client acting _ stepped =>
      cases acting with
      | receiving receiving => exact ⟨.peer receiving, isParty, stepped.received.1⟩
      | pollEventFromServer =>
          obtain ⟨connected, connection, networking, found, -⟩ := up.client
          rcases announced (Option.some.inj isParty).symm with known | ⟨whoClosed, left⟩
          · exact ⟨.peer .poll, isParty, stepped.polled known found⟩
          · simp [networking] at left
      | _ => cases isParty
  | newClientOnServer => cases isParty
  | @server acting server _ found stepped =>
      cases acting with
      | sendingTask index answer =>
          exact ⟨.resume index answer, isParty, (stepped.resumed found).1⟩
      | _ => cases isParty

section Courses

variable {execution : Execution (system build)} {place : Nat}

/-- From one place of an execution to the next, both directions go on. -/
theorem directions_next (execution : Execution (system build)) (place : Nat) :
    (clientOutside build).Reaches System.always (execution.state place).fromClient
        (execution.state (place + 1)).fromClient ∧
      (serverOutside build).Reaches System.always (execution.state place).fromServer
        (execution.state (place + 1)).fromServer := by
  have follows := execution.follows place
  cases label : execution.label place with
  | none =>
      rw [label] at follows
      rw [follows]
      exact ⟨System.Reaches.refl, System.Reaches.refl⟩
  | some action =>
      rw [label] at follows
      have owned := Client.owned_of_reachable (client_reachable (execution.reachable place))
      have runs := (sessionStep_of_step follows).runs owned
      exact ⟨runs.1.always, runs.2.always⟩

/-- A party that is not passed over in an execution has its turn after a place from which
both ends are up. -/
theorem exists_turn {own : Action S R' → Prop} (fair : execution.FairTo own)
    (place later : Nat) :
    ∃ turn, later ≤ turn ∧
      ((system build).Stuck own (execution.state (place + turn)) ∨
        ∃ action, own action ∧ (system build).step (execution.state (place + turn)) action =
          some (execution.state (place + turn + 1))) := by
  obtain ⟨point, order, turn⟩ := fair (place + later)
  obtain ⟨turn', rfl⟩ := Nat.exists_eq_add_of_le (Nat.le_trans (Nat.le_add_right _ _) order)
  refine ⟨turn', by omega, ?_⟩
  rcases turn with stuck | ⟨action, isOwn, label⟩
  · exact .inl stuck
  · have follows := execution.follows (place + turn')
    rw [label] at follows
    exact .inr ⟨action, isOwn, follows⟩

/-- From a place on from which both ends are up, the direction from the client takes a
course. -/
theorem exists_clientCourse (fair : Fair execution)
    (up : ∀ later, place ≤ later → Up (execution.state later)) :
    ∃ course : Course (serverSide S') build.clientToServer, ∀ later,
      (execution.state (place + later)).fromClient = (course.state later).forgetStreams := by
  obtain ⟨⟨direction, reachable, begins⟩, -⟩ := exists_directions (execution.reachable place)
  refine exists_course (fun later => (execution.state (place + later)).fromClient) reachable
    begins (fun later => (directions_next execution (place + later)).1) ?_
  intro party later
  obtain ⟨turn, order, stuck | ⟨action, isParty, stepped⟩⟩ :=
    exists_turn (fair.toServer party) place later
  · refine ⟨turn, order, .inl ?_⟩
    intro own isParty
    by_contra enabled
    exact fromClient_enabled (execution.reachable _) (up _ (Nat.le_add_right _ _))
      ((isOwn_of_party isParty).imp And.right And.right) enabled
      (stuck _ (partyToServer_ofFromClient isParty))
  · exact ⟨turn, order, .inr (acts_fromClient isParty stepped)⟩

/-- Some time after both ends are up, the client has told its application that it is
connected. -/
theorem exists_announced (fair : Fair execution)
    (up : ∀ later, place ≤ later → Up (execution.state later)) :
    ∃ point, ∀ later, point ≤ later → (execution.state (place + later)).Announced := by
  obtain ⟨turn, -, stuck | ⟨action, isParty, stepped⟩⟩ :=
    exists_turn (fair.toClient .application) place 0
  · have enabled := stuck (.client .pollEventFromServer) rfl
    simp [system, step, stepClient, Client.step] at enabled
  · refine ⟨turn + 1, ?_⟩
    have told := announced_of_poll (up _ (Nat.le_add_right _ _)) isParty stepped
    intro later order
    refine Execution.keeps State.Announced ?_ (Nat.add_le_add_left order place) told
    intro before action after announced stepped
    exact announced_step announced stepped

/-- From a place on from which both ends are up, the direction from the server takes a
course. -/
theorem exists_serverCourse (fair : Fair execution)
    (up : ∀ later, place ≤ later → Up (execution.state later)) :
    ∃ course : Course (clientSide R) build.serverToClient, ∀ later,
      (execution.state (place + later)).fromServer = (course.state later).forgetStreams := by
  obtain ⟨-, direction, reachable, begins⟩ := exists_directions (execution.reachable place)
  obtain ⟨point, announced⟩ := exists_announced fair up
  refine exists_course (fun later => (execution.state (place + later)).fromServer) reachable
    begins (fun later => (directions_next execution (place + later)).2) ?_
  intro party later
  obtain ⟨turn, order, stuck | ⟨action, isParty, stepped⟩⟩ :=
    exists_turn (fair.toClient party) place (max later point)
  · refine ⟨turn, Nat.le_trans (Nat.le_max_left _ _) order, .inl ?_⟩
    intro own isParty
    by_contra enabled
    exact fromServer_enabled (execution.reachable _) (up _ (Nat.le_add_right _ _))
      ((isOwn_of_party isParty).imp And.right And.right) enabled
      (stuck _ (partyToClient_ofFromServer isParty))
  · refine ⟨turn, Nat.le_trans (Nat.le_max_left _ _) order, .inr ?_⟩
    exact acts_fromServer (up _ (Nat.le_add_right _ _))
      (fun _ => announced turn (Nat.le_trans (Nat.le_max_right _ _) order)) isParty stepped

end Courses

/-! ## Both directions get through -/

/-- What has become, some time later, of the messages that the applications had given by
some time: each application has polled what the other gave, each message as often as it
was given, and the handles have their answers. -/
structure GotThrough (build : Build S S' R R') (start later : State S S' R R') : Prop where
  atServer : (start.client.calls.filterMap fun call =>
    build.clientToServer.transfer call.message).Subperm later.polledByServer
  atClient : (start.sentMessages.filterMap fun sent =>
    build.serverToClient.transfer sent.message).Subperm later.polledByClient
  answeredAtClient : ∀ (index : Nat) (call : Client.Call S),
    start.client.calls[index]? = some call → ∃ after, later.client.calls[index]? = some after ∧
      Answered build.clientToServer call.message (getState after.result)
  answeredAtServer : ∀ (index : Nat) (sent : ClientOnServer.SentMessage R'),
    start.sentMessages[index]? = some sent → ∃ after, later.sentMessages[index]? = some after ∧
      Answered build.serverToClient sent.message (getState after.result)

/-- A client that is connected has started to send all that it was given. -/
theorem started_of_up (reachable : (system build).Reachable state) (up : Up state) :
    state.client.sendings.map (·.message) = state.client.calls.map (·.message) := by
  obtain ⟨connected, connection, networking, -, -⟩ := up.client
  have paired := Client.paired_of_reachable (client_reachable reachable)
  apply paired.started_prefix.eq_of_length
  simpa using paired.started connected networking

theorem polledByServer_eq (reachable : (system build).Reachable state) (up : Up state) :
    state.polledByServer = state.fromClient.polledMessages (serverPayload S') := by
  obtain ⟨server, found, -, -⟩ := up.server
  have polled := (ClientOnServer.polled_of_reachable (server_reachable reachable found)).2
  simp only [State.polledByServer, Delivery.State.polledMessages, State.fromClient,
    State.serverHalf, found, Option.map_some, Option.getD_some, polled]
  rfl

theorem polledByClient_eq (reachable : (system build).Reachable state) (up : Up state) :
    state.polledByClient = state.fromServer.polledMessages (clientPayload R) := by
  obtain ⟨connected, connection, networking, found, -⟩ := up.client
  have returned := (Client.told_of_reachable (client_reachable reachable)).returned
  simp only [Client.State.Returned, networking, Client.State.taken, found] at returned
  simp only [State.polledByClient, Delivery.State.polledMessages, State.fromServer,
    Client.State.receivingHalf, found, Option.getD_some]
  split at returned
  · rw [returned]
    rfl
  · rw [returned.1, returned.2]
    rfl

theorem gotThrough_of_directions {start later : State S S' R R'}
    (reachable : (system build).Reachable start) (up : Up start)
    (reachableLater : (system build).Reachable later) (upLater : Up later)
    (fromClient : Delivery.GotThrough (serverPayload S') build.clientToServer
      start.fromClient later.fromClient)
    (fromServer : Delivery.GotThrough (clientPayload R) build.serverToClient
      start.fromServer later.fromServer) : GotThrough build start later := by
  have started := started_of_up reachable up
  have paired := Client.paired_of_reachable (client_reachable reachableLater)
  constructor
  · have polled := fromClient.polled
    rw [← polledByServer_eq reachableLater upLater] at polled
    have images : (start.client.calls.filterMap fun call =>
        build.clientToServer.transfer call.message) =
          start.client.sendings.filterMap fun task =>
            build.clientToServer.transfer task.message := by
      have same := congrArg (List.filterMap build.clientToServer.transfer) started
      simp only [List.filterMap_map] at same
      exact same.symm
    simp only [Delivery.State.transfers, State.fromClient, List.filterMap_map] at polled
    rw [images]
    exact polled
  · have polled := fromServer.polled
    rw [← polledByClient_eq reachableLater upLater] at polled
    simp only [Delivery.State.transfers, State.fromServer, List.filterMap_map] at polled
    exact polled
  · intro index call found
    obtain ⟨task, foundTask, message⟩ := Client.exists_of_map_eq_map started.symm found
    have foundSending :
        start.fromClient.sendings[index]? = some (State.ofSendingTask task) := by
      simp [State.fromClient, foundTask]
    obtain ⟨after, foundAfter, answered, sent⟩ :=
      fromClient.answered index _ foundSending
    obtain ⟨task', foundTask', rfl⟩ : ∃ task', later.client.sendings[index]? = some task' ∧
        State.ofSendingTask task' = after := by
      simpa [State.fromClient] using foundAfter
    obtain ⟨-, call', foundCall', -, result⟩ := paired.carried index task' foundTask'
    refine ⟨call', foundCall', ?_⟩
    rw [result, ← message]
    exact ⟨answered, sent⟩
  · intro index sent found
    have foundSending :
        start.fromServer.sendings[index]? = some (State.ofSentMessage sent) := by
      have found' : ((start.server.map (·.sentMessages)).getD [])[index]? = some sent := found
      simp [State.fromServer, found']
    obtain ⟨after, foundAfter, answered, isSent⟩ := fromServer.answered index _ foundSending
    obtain ⟨sent', foundSent', rfl⟩ : ∃ sent', later.sentMessages[index]? = some sent' ∧
        State.ofSentMessage sent' = after := by
      simp only [State.fromServer, List.getElem?_map] at foundAfter
      exact Option.map_eq_some_iff.mp foundAfter
    exact ⟨sent', foundSent', answered, isSent⟩

theorem fromClient_closed (up : Up state) : state.fromClient.closed = none := by
  obtain ⟨connected, connection, -, found, closed⟩ := up.client
  simp [State.fromClient, Client.State.receivingHalf, found, closed]

theorem fromServer_closed (up : Up state) : state.fromServer.closed = none := by
  obtain ⟨server, found, -, closed⟩ := up.server
  simp [State.fromServer, State.serverHalf, found, closed]

/-- The server's end that is held holds its queue. -/
theorem serverHalf_held (reachable : (system build).Reachable state) (up : Up state) :
    state.serverHalf.events.receiverHeld = true := by
  obtain ⟨server, found, held, -⟩ := up.server
  simpa [State.serverHalf, found] using
    receiverHeld_of_held (server_reachable reachable found) held

/-- A client that is connected holds its queue. -/
theorem clientHalf_held (reachable : (system build).Reachable state) (up : Up state) :
    state.client.receivingHalf.events.receiverHeld = true := by
  obtain ⟨connected, connection, networking, found, -⟩ := up.client
  have decided := Client.decided_of_reachable (client_reachable reachable)
  simpa [Client.State.receivingHalf, found] using
    decided.eventsHeld connection found (by simp [networking])

/-- In every execution that passes over nobody, from any place on from which both ends are
up, all that the applications have given by then gets through, while they go on to give
more. -/
theorem every_message_gets_through (build : Build S S' R R')
    (execution : Execution (system build)) (fair : Fair execution) (place : Nat)
    (up : ∀ later, place ≤ later → Up (execution.state later)) :
    execution.Eventually place (GotThrough build (execution.state place)) := by
  obtain ⟨clientCourse, seenClient⟩ := exists_clientCourse fair up
  obtain ⟨serverCourse, seenServer⟩ := exists_serverCourse fair up
  have upAt (later : Nat) := up (place + later) (Nat.le_add_right place later)
  have reachableAt (later : Nat) := execution.reachable (place + later)
  have clientUp : clientCourse.UpFrom 0 := by
    intro later _
    have seen := seenClient later
    exact ⟨(congrArg Delivery.State.closed seen).symm.trans (fromClient_closed (upAt later)),
      (congrArg (·.peer.closed) seen).symm.trans (fromServer_closed (upAt later))⟩
  have serverUp : serverCourse.UpFrom 0 := by
    intro later _
    have seen := seenServer later
    exact ⟨(congrArg Delivery.State.closed seen).symm.trans (fromServer_closed (upAt later)),
      (congrArg (·.peer.closed) seen).symm.trans (fromClient_closed (upAt later))⟩
  obtain ⟨clientPoint, -, clientThrough⟩ :=
    clientCourse.exists_gotThrough (serverPayload S') clientUp fun later _ =>
      (congrArg (·.peer.events.receiverHeld) (seenClient later)).symm.trans
        (serverHalf_held (reachableAt later) (upAt later))
  obtain ⟨serverPoint, -, serverThrough⟩ :=
    serverCourse.exists_gotThrough (clientPayload R) serverUp fun later _ =>
      (congrArg (·.peer.events.receiverHeld) (seenServer later)).symm.trans
        (clientHalf_held (reachableAt later) (upAt later))
  refine ⟨place + max clientPoint serverPoint, Nat.le_add_right _ _, ?_⟩
  intro later order
  obtain ⟨later, rfl⟩ := Nat.exists_eq_add_of_le (Nat.le_trans (Nat.le_add_right _ _) order)
  have fromClient := (clientThrough later (by omega)).forgetStreams
  have fromServer := (serverThrough later (by omega)).forgetStreams
  rw [← seenClient, ← seenClient] at fromClient
  rw [← seenServer, ← seenServer] at fromServer
  exact gotThrough_of_directions (reachableAt 0) (upAt 0) (reachableAt later) (upAt later)
    fromClient fromServer

/-! ## An execution that passes over nobody -/

/-- The server's message is sent, received and polled. -/
def crossBack : List (Action Bool Bool) :=
  [.server (.sendingTask 0 .polled), .server (.sendingTask 0 (.opened (.ok 0))),
    .server (.sendingTask 0 (.wrote (.ok 1))), .server (.sendingTask 0 .finished),
    .client (.receiving .openStream), .client (.receiving (.deliver 0 [0xc2])),
    .client (.receiving (.finish 0)), .client (.receiving .acceptUni),
    .client (.receiving (.read 0)), .server (.sendingTask 0 (.stopped (.ok none))),
    .client .pollEventFromServer]

/-- Both applications keep polling. -/
def keepPolling (place : Nat) : Option (Action Bool Bool) :=
  if place % 2 = 0 then some (.server .pollEventFromClient)
  else some (.client .pollEventFromServer)

/-- A receiving half that has read a stream of one byte, whose event was polled. -/
def oneRead {Event : Type} (byte : UInt8) (event : Event) : Receiving.State Event where
  closed := none
  streams :=
    [{ received := [byte]
       ending := .finished
       reader := .ended (.ok [byte])
       stopped := false }]
  acceptTask := .running
  events := { sent := [(.reader 0, event)], received := 1, receiverHeld := true }

/-- Where the two ends are when both messages have got through. -/
def greeted : State Bool Bool Bool Bool where
  client :=
    { networking := .connected { connectedEventAlreadyPolled := true }
      connectedClient := { value := none, senderHeld := false, receiverHeld := false }
      connectingTask := .ended
      connection := some (oneRead 0xc2 (.message false))
      drained := false
      sendings := [{ message := true, resultSender := 0, phase := .ended .sent }]
      disconnection := none
      calls :=
        [{ message := true
           result := { value := some .sent, senderHeld := false, receiverHeld := true } }]
      polled := [.connected, .message false] }
  server :=
    some
      { held := true
        connection := oneRead 0xc3 (.message true)
        sentMessages :=
          [{ message := false
             phase := .ended .sent
             result := { value := some .sent, senderHeld := false, receiverHeld := true } }]
        polled := [.message true] }
  clientToServer := [{ written := [0xc3], finished := true }]
  serverToClient := [{ written := [0xc2], finished := true }]

theorem run_greeted : (system booleans).run .new
    (greetEachOther ++ crossTheNetwork ++ crossBack) = some greeted := rfl

theorem greeted_stays (place : Nat) (action : Action Bool Bool)
    (polls : keepPolling place = some action) :
    (system booleans).step greeted action = some greeted := by
  simp only [keepPolling] at polls
  split at polls <;> obtain rfl := Option.some.inj polls <;> rfl

/-- Nothing is left to do for such a receiving half until there is a new stream. -/
theorem oneRead_idle {M M' Event : Type} (side : ReceivingSide M' Event)
    (decode : List UInt8 → Option M') (byte : UInt8) (event : Event)
    {receiving : Receiving.Action} (own : (.peer receiving : Delivery.Action M).IsOwn) :
    receiving = .openStream ∨
      Receiving.step side decode (oneRead byte event) receiving = none := by
  cases receiving with
  | openStream => exact .inl rfl
  | spawn | acceptUni => exact .inr rfl
  | read stream | deliver stream | finish stream => cases stream <;> exact .inr rfl
  | resetStream | lose | poll | dropReceiver => exact own.elim

/-- Nothing is left to do for the parties of either direction but to poll. -/
theorem greeted_idle {action : Action Bool Bool} {party : Party}
    (notApplication : party ≠ .application)
    (isParty : action.partyToServer = some party ∨ action.partyToClient = some party) :
    (system booleans).step greeted action = none := by
  have own {M : Type} {label : Delivery.Action M} (isParty : label.party = some party) :
      label.IsOwn := by
    rcases isOwn_of_party isParty with ⟨-, own⟩ | ⟨isApplication, -⟩
    · exact own
    · exact absurd isApplication notApplication
  cases action with
  | newClientOnServer => rcases isParty with impossible | impossible <;> cases impossible
  | client acting =>
      cases acting with
      | sendingTask index answer =>
          cases index with
          | zero =>
              simp [system, step, stepClient, Client.step, Client.State.resumeSending, greeted,
                SendingPhase.resume]
          | succ index => rfl
      | receiving receiving =>
          rcases isParty with impossible | isParty
          · cases impossible
          · rcases oneRead_idle (clientSide Bool) booleans.client.decode 0xc2
              (.message false) (own isParty) with rfl | idle
            · rfl
            · simp [system, step, stepClient, Client.step, greeted, idle]
      | pollEventFromServer =>
          rcases isParty with impossible | isParty
          · cases impossible
          · exact absurd (Option.some.inj isParty).symm notApplication
      | _ => rcases isParty with impossible | impossible <;> cases impossible
  | server acting =>
      cases acting with
      | sendingTask index answer =>
          cases index with
          | zero =>
              simp [system, step, stepServer, ClientOnServer.step,
                ClientOnServer.State.resumeSending, greeted, SendingPhase.resume]
          | succ index => rfl
      | receiving receiving =>
          rcases isParty with isParty | impossible
          · rcases oneRead_idle (serverSide Bool) booleans.server.decode 0xc3
              (.message true) (own isParty) with rfl | idle
            · rfl
            · simp [system, step, stepServer, ClientOnServer.step, greeted, idle]
          · cases impossible
      | pollEventFromClient =>
          rcases isParty with isParty | impossible
          · exact absurd (Option.some.inj isParty).symm notApplication
          · cases impossible
      | _ => rcases isParty with impossible | impossible <;> cases impossible

/-- The two ends greet each other, and go on polling. -/
def keepGreeting : Execution (system booleans) :=
  .ofRunThen _ run_greeted keepPolling greeted_stays

theorem keepGreeting_fair : Fair keepGreeting where
  toServer := by
    intro party
    apply Execution.ofRunThen_fairTo
    by_cases isApplication : party = .application
    · subst isApplication
      exact .inr fun place => ⟨2 * place, by omega, .server .pollEventFromClient, rfl,
        by simp [keepPolling]⟩
    · exact .inl fun action isParty => greeted_idle isApplication (.inl isParty)
  toClient := by
    intro party
    apply Execution.ofRunThen_fairTo
    by_cases isApplication : party = .application
    · subst isApplication
      exact .inr fun place => ⟨2 * place + 1, by omega, .client .pollEventFromServer, rfl,
        by simp [keepPolling, Nat.add_mod]⟩
    · exact .inl fun action isParty => greeted_idle isApplication (.inr isParty)

theorem keepGreeting_up (later : Nat) (order : 7 ≤ later) : Up (keepGreeting.state later) := by
  by_cases finished : 29 ≤ later
  · have last : keepGreeting.state later = greeted :=
      Execution.ofRun_state_of_le run_greeted finished
    rw [last]
    exact ⟨⟨_, _, rfl, rfl, rfl⟩, _, rfl, rfl, rfl⟩
  · interval_cases later <;> exact ⟨⟨_, _, rfl, rfl, rfl⟩, _, rfl, rfl, rfl⟩

theorem every_message_gets_through_of_greetings :
    ∃ execution : Execution (system booleans), Fair execution ∧
      (∀ later, 7 ≤ later → Up (execution.state later)) ∧
      (execution.state 7).polledByServer = [] ∧ (execution.state 7).polledByClient = [] ∧
      execution.Eventually 7 (GotThrough booleans (execution.state 7)) :=
  ⟨keepGreeting, keepGreeting_fair, keepGreeting_up, rfl, rfl,
    every_message_gets_through booleans keepGreeting keepGreeting_fair 7 keepGreeting_up⟩

end Warqueen.Session
