import Warqueen.ClientOnServer.Ended
import Warqueen.Session.Exchange

/-!
# A session comes to rest

Left alone, the tasks of the two ends and the network between them can only take so
many steps, in both directions together.  When none of them can take another and the
connection is up at both ends, all that each application gave is in the queue of the
other, and every handle has its answer.
-/

namespace Warqueen.Session

open Concurrency Quinn Receiving Sending Delivery

variable {S S' R R' : Type} {build : Build S S' R R'}
variable {state state' : State S S' R R'} {action : Action S R'}

/-- The steps of the sending and receiving tasks of both ends, and of the network as
long as it does something. -/
def Action.IsOwn : Action S R' → Prop
  | .client (.sendingTask _ _) | .server (.sendingTask _ _) => True
  | .client (.receiving receiving) => (.peer receiving : Delivery.Action R').IsOwn
  | .server (.receiving receiving) => (.peer receiving : Delivery.Action S).IsOwn
  | _ => False

/-- How many of these steps are left. -/
def State.stepsLeft (build : Build S S' R R') (state : State S S' R R') : Nat :=
  state.fromClient.stepsLeft build.clientToServer +
    state.fromServer.stepsLeft build.serverToClient

/-- Each step leaves fewer steps in its direction, and as many in the other. -/
theorem step_stepsLeft (own : action.IsOwn)
    (stepped : (system build).step state action = some state') :
    state'.stepsLeft build < state.stepsLeft build := by
  cases sessionStep_of_step stepped with
  | @client acting _ stepped =>
      cases acting with
      | sendingTask index answer =>
          obtain ⟨resumes, same⟩ := stepped.resumed
          have own' : (.resume index answer : Delivery.Action S).IsOwn := trivial
          have fewer := outside_stepsLeft own' resumes
          simp only [State.stepsLeft, same]
          omega
      | receiving receiving =>
          obtain ⟨receives, same | ⟨cause, rfl, -⟩⟩ := stepped.received
          · have fewer := outside_stepsLeft own receives
            simp only [State.stepsLeft, same]
            omega
          · exact own.elim
      | _ => exact own.elim
  | newClientOnServer => exact own.elim
  | @server acting server _ found stepped =>
      cases acting with
      | sendingTask index answer =>
          obtain ⟨resumes, same⟩ := stepped.resumed found
          have own' : (.resume index answer : Delivery.Action R').IsOwn := trivial
          have fewer := outside_stepsLeft own' resumes
          simp only [State.stepsLeft, same]
          omega
      | receiving receiving =>
          obtain ⟨receives, same | ⟨cause, rfl, -⟩⟩ := stepped.received found
          · have fewer := outside_stepsLeft own receives
            simp only [State.stepsLeft, same]
            omega
          · exact own.elim
      | _ => exact own.elim

/-! ## What these steps keep -/

/-- Both applications have their end of the connection, and it is up at both. -/
structure Up (state : State S S' R R') : Prop where
  client : ∃ connected connection, state.client.networking = .connected connected ∧
    state.client.connection = some connection ∧ connection.closed = none
  server : ∃ server, state.server = some server ∧ server.held = true ∧
    server.connection.closed = none

/-- A receiving task, or a network that does not lose the connection, keeps it up. -/
theorem closed_of_own {M M' Event : Type} {side : ReceivingSide M' Event}
    {decode : List UInt8 → Option M'} {half half' : Receiving.State Event}
    {receiving : Receiving.Action} (own : (.peer receiving : Delivery.Action M).IsOwn)
    (up : half.closed = none)
    (stepped : Receiving.step side decode half receiving = some half') :
    half'.closed = none := by
  rcases closed_cases stepped with same | ⟨cause, -, -, rfl⟩
  · rw [same, up]
  · exact own.elim

/-- The steps of the tasks and of the network keep both ends up. -/
theorem step_up (up : Up state) (own : action.IsOwn)
    (stepped : (system build).step state action = some state') : Up state' := by
  obtain ⟨connected, connection, networking, connectedTo, clientUp⟩ := up.client
  obtain ⟨server, found, held, serverUp⟩ := up.server
  cases sessionStep_of_step stepped with
  | @client acting _ stepped =>
      refine ⟨?_, server, stepped.server ▸ found, held, serverUp⟩
      have steps := stepped.client
      cases acting with
      | sendingTask index answer =>
          simp only [Client.system, Client.step, Client.State.resumeSending,
            connectedTo] at steps
          split at steps
          next sending foundSending same =>
            simp only [Option.ite_none_right_eq_some] at steps
            obtain ⟨phase, -, after⟩ := Option.map_eq_some_iff.mp steps.2
            rw [← after]
            exact ⟨connected, connection, networking, rfl, clientUp⟩
          next => cases steps
      | receiving receiving =>
          simp only [Client.system, Client.step, connectedTo, Option.bind_some,
            Option.ite_none_right_eq_some] at steps
          obtain ⟨half', received, after⟩ := Option.map_eq_some_iff.mp steps.2
          rw [← after]
          exact ⟨connected, half', networking, rfl, closed_of_own own clientUp received⟩
      | _ => exact own.elim
  | newClientOnServer => exact own.elim
  | @server acting server' _ found' stepped =>
      obtain rfl := Option.some.inj (found.symm.trans found')
      obtain ⟨same, after, foundAfter, steps⟩ := stepped.server
      refine ⟨same ▸ up.client, after, foundAfter, ?_⟩
      cases acting with
      | sendingTask index answer =>
          obtain ⟨sent, phase, -, -, -, rfl⟩ :=
            ClientOnServer.State.resumeSending_eq_some steps
          exact ⟨held, serverUp⟩
      | receiving receiving =>
          obtain ⟨half', rfl, -, received⟩ := ClientOnServer.receiving_cases steps
          exact ⟨held, closed_of_own own serverUp received⟩
      | _ => exact own.elim

/-- What the applications gave stays what it was. -/
theorem step_given (own : action.IsOwn)
    (stepped : (system build).step state action = some state') :
    state'.client.calls.map (·.message) = state.client.calls.map (·.message) ∧
      state'.sentMessages.map (·.message) = state.sentMessages.map (·.message) := by
  cases sessionStep_of_step stepped with
  | @client acting _ stepped =>
      constructor
      · rw [Client.step_messages stepped.client]
        cases acting with
        | sendMessageToServer => exact own.elim
        | _ => simp [Client.messagesGiven]
      · simp only [State.sentMessages, stepped.server]
  | newClientOnServer => exact own.elim
  | @server acting server _ found stepped =>
      obtain ⟨same, after, foundAfter, steps⟩ := stepped.server
      refine ⟨by rw [same], ?_⟩
      simp only [State.sentMessages, found, foundAfter, Option.map_some, Option.getD_some]
      rw [step_sentMessages (S := S) steps]
      cases acting with
      | sendMessageToClient => exact own.elim
      | _ => simp [givenToServer]

/-! ## At rest -/

/-- A client that has its connection has its accept loop. -/
theorem client_spawned {client : Client.State S R}
    (reachable : (Client.system build.client).Reachable client) {connected : _}
    {connection : Receiving.State (ClientEvent R)}
    (networking : client.networking = .connected connected)
    (found : client.connection = some connection) :
    connection.acceptTask ≠ .notSpawned := by
  have taskOver := (Client.decided_of_reachable reachable).taskOver
    (.inl ⟨connected, networking⟩)
  intro notSpawned
  rw [(Client.spawnedOnce_of_reachable reachable connection found).mp notSpawned] at taskOver
  cases taskOver

/-- A step of the peer that is not a spawn is one of those of the receiving half. -/
theorem isReceiving_of_own {M : Type} {receiving : Receiving.Action}
    (own : (.peer receiving : Delivery.Action M).IsOwn) (notSpawn : receiving ≠ .spawn) :
    Client.isReceiving receiving = true := by
  cases receiving with
  | spawn => exact absurd rfl notSpawn
  | lose | poll | dropReceiver => exact own.elim
  | _ => rfl

/-- The step of the session that a step of the direction from the client is. -/
def Action.ofFromClient : Delivery.Action S → Action S R'
  | .send message => .client (.sendMessageToServer message)
  | .resume index answer => .client (.sendingTask index answer)
  | .lose cause => .client (.receiving (.lose cause))
  | .peer .poll => .server .pollEventFromClient
  | .peer receiving => .server (.receiving receiving)

/-- The step of the session that a step of the direction from the server is. -/
def Action.ofFromServer : Delivery.Action R' → Action S R'
  | .send message => .server (.sendMessageToClient message)
  | .resume index answer => .server (.sendingTask index answer)
  | .lose cause => .server (.receiving (.lose cause))
  | .peer .poll => .client .pollEventFromServer
  | .peer receiving => .client (.receiving receiving)

/-- A step of the direction from the client can be taken in the session, while both ends
are up. -/
theorem fromClient_enabled (reachable : (system build).Reachable state) (up : Up state)
    {own : Delivery.Action S} (isOwn : own.IsOwn ∨ own = .peer .poll)
    (enabled : (clientOutside build).step state.fromClient own ≠ none) :
    (system build).step state (.ofFromClient own) ≠ none := by
  obtain ⟨connected, connection, networking, connectedTo, clientUp⟩ := up.client
  obtain ⟨server, found, held, serverUp⟩ := up.server
  obtain ⟨after, stepped⟩ := Option.ne_none_iff_exists'.mp enabled
  obtain ⟨direction, steps, rfl⟩ := Option.map_eq_some_iff.mp stepped
  rcases isOwn with isOwn | rfl
  · cases own with
    | send | lose => exact isOwn.elim
    | resume index answer =>
        obtain ⟨sending, phase, foundSending, allowed, answered, resumed, rfl⟩ :=
          resume_eq_some steps
        obtain ⟨task, foundTask, rfl⟩ : ∃ task, state.client.sendings[index]? = some task ∧
            State.ofSendingTask task = sending := by
          simpa [State.fromClient] using foundSending
        have isAllowed : answer.allowed connection.closed = true := by
          simpa [State.fromClient, Client.State.receivingHalf, connectedTo] using allowed
        simp only [State.ofSendingTask] at answered resumed
        have resumed' : task.phase.resume build.client.encode task.message answer =
            some phase := resumed
        simp [system, step, Action.ofFromClient, stepClient, answersTask, foundSending,
          State.ofSendingTask, answered, Client.step, Client.State.resumeSending, foundTask,
          connectedTo, isAllowed, resumed']
    | peer receiving =>
        obtain ⟨half', rfl, transported, received⟩ := peer_cases steps
        have isHalf : state.fromClient.peer = server.connection := by
          simp [State.fromClient, State.serverHalf, found]
        rw [isHalf] at received
        have notSpawn : receiving ≠ .spawn := by
          intro same
          subst same
          simp [Receiving.step,
            ClientOnServer.spawned_of_reachable (server_reachable reachable found)] at received
        have notPoll : receiving ≠ .poll := by
          intro same
          subst same
          exact isOwn
        have received' : Receiving.step (serverSide S') build.server.decode server.connection
            receiving = some half' := received
        rw [Action.ofFromClient]
        · simp [system, step, found, stepServer, transported, ClientOnServer.step,
            isReceiving_of_own isOwn notSpawn, received']
        · exact notPoll
  · simp [Action.ofFromClient, system, step, found, stepServer, ClientOnServer.step, held]

/-- A step of the direction from the server can be taken in the session, while both ends
are up. -/
theorem fromServer_enabled (reachable : (system build).Reachable state) (up : Up state)
    {own : Delivery.Action R'} (isOwn : own.IsOwn ∨ own = .peer .poll)
    (enabled : (serverOutside build).step state.fromServer own ≠ none) :
    (system build).step state (.ofFromServer own) ≠ none := by
  obtain ⟨connected, connection, networking, connectedTo, clientUp⟩ := up.client
  obtain ⟨server, found, held, serverUp⟩ := up.server
  obtain ⟨after, stepped⟩ := Option.ne_none_iff_exists'.mp enabled
  obtain ⟨direction, steps, rfl⟩ := Option.map_eq_some_iff.mp stepped
  rcases isOwn with isOwn | rfl
  · cases own with
    | send | lose => exact isOwn.elim
    | resume index answer =>
        obtain ⟨sending, phase, foundSending, allowed, answered, resumed, rfl⟩ :=
          resume_eq_some steps
        obtain ⟨sent, foundSent, rfl⟩ : ∃ sent, server.sentMessages[index]? = some sent ∧
            State.ofSentMessage sent = sending := by
          simpa [State.fromServer, found] using foundSending
        have isAllowed : answer.allowed server.connection.closed = true := by
          simpa [State.fromServer, State.serverHalf, found] using allowed
        simp only [State.ofSentMessage] at answered resumed
        have resumed' : sent.phase.resume build.server.encode sent.message answer =
            some phase := resumed
        simp [system, step, Action.ofFromServer, found, stepServer, answersTask,
          foundSending, State.ofSentMessage, answered, ClientOnServer.step,
          ClientOnServer.State.resumeSending, foundSent, isAllowed, resumed']
    | peer receiving =>
        obtain ⟨half', rfl, transported, received⟩ := peer_cases steps
        have isHalf : state.fromServer.peer = connection := by
          simp [State.fromServer, Client.State.receivingHalf, connectedTo]
        rw [isHalf] at received
        have notSpawn : receiving ≠ .spawn := by
          intro same
          subst same
          simp [Receiving.step, client_spawned (client_reachable reachable) networking
            connectedTo] at received
        have notPoll : receiving ≠ .poll := by
          intro same
          subst same
          exact isOwn
        have received' : Receiving.step (clientSide R) build.client.decode connection
            receiving = some half' := received
        rw [Action.ofFromServer]
        · simp [system, step, stepClient, transported, Client.step, connectedTo,
            isReceiving_of_own isOwn notSpawn, received']
        · exact notPoll
  · simp [Action.ofFromServer, system, step, stepClient, Client.step]

theorem ofFromClient_isOwn {own : Delivery.Action S} (isOwn : own.IsOwn) :
    (Action.ofFromClient own : Action S R').IsOwn := by
  cases own with
  | send | lose => exact isOwn.elim
  | resume => trivial
  | peer receiving => cases receiving <;> exact isOwn

theorem ofFromServer_isOwn {own : Delivery.Action R'} (isOwn : own.IsOwn) :
    (Action.ofFromServer own : Action S R').IsOwn := by
  cases own with
  | send | lose => exact isOwn.elim
  | resume => trivial
  | peer receiving => cases receiving <;> exact isOwn

/-- When a session is at rest, so is the direction from the client. -/
theorem fromClient_stuck (reachable : (system build).Reachable state) (up : Up state)
    (stuck : (system build).Stuck Action.IsOwn state) :
    (clientOutside build).Stuck Delivery.Action.IsOwn state.fromClient := by
  intro own isOwn
  by_contra enabled
  exact fromClient_enabled reachable up (.inl isOwn) enabled
    (stuck _ (ofFromClient_isOwn isOwn))

/-- When a session is at rest, so is the direction from the server. -/
theorem fromServer_stuck (reachable : (system build).Reachable state) (up : Up state)
    (stuck : (system build).Stuck Action.IsOwn state) :
    (serverOutside build).Stuck Delivery.Action.IsOwn state.fromServer := by
  intro own isOwn
  by_contra enabled
  exact fromServer_enabled reachable up (.inl isOwn) enabled
    (stuck _ (ofFromServer_isOwn isOwn))

/-- The handle of a message has its answer, which is `SendingResult::Sent` for a message
that the other end can read. -/
def Answered {M M' : Type} (wire : Wire M M') (message : M) (answer : SendingState) : Prop :=
  answer ≠ .stillBeingSent ∧
    ((wire.transfer message).isSome = true → answer = .result .sent)

/-- When both ends are up and at rest, all that each application gave is in the queue
of the other, each message as often as it was given and no other, and every handle has
its answer. -/
structure AllExchanged (build : Build S S' R R') (actions : List (Action S R'))
    (state : State S S' R R') : Prop where
  atServer : state.queuedAtServer.Perm
    ((givenToClient actions).filterMap build.clientToServer.transfer)
  atClient : state.queuedAtClient.Perm
    ((givenToServer actions).filterMap build.serverToClient.transfer)
  answeredAtClient : ∀ call ∈ state.client.calls,
    Answered build.clientToServer call.message (getState call.result)
  answeredAtServer : ∀ sent ∈ state.sentMessages,
    Answered build.serverToClient sent.message (getState sent.result)

/-- The same at any state that is at rest, for the messages that the ends have. -/
theorem allExchanged_of_stuck {actions : List (Action S R')}
    (reachable : (system build).Reachable state) (up : Up state)
    (stuck : (system build).Stuck Action.IsOwn state)
    (calls : state.client.calls.map (·.message) = givenToClient actions)
    (sentMessages : state.sentMessages.map (·.message) = givenToServer actions) :
    AllExchanged build actions state := by
  obtain ⟨⟨fromClient, reachedClient, sameClient⟩, fromServer, reachedServer, sameServer⟩ :=
    exists_directions reachable
  have clientStuck := fromClient_stuck reachable up stuck
  have serverStuck := fromServer_stuck reachable up stuck
  obtain ⟨connected, connection, networking, connectedTo, clientUp⟩ := up.client
  obtain ⟨server, found, held, serverUp⟩ := up.server
  have decided := Client.decided_of_reachable (client_reachable reachable)
  have isClientPeer : fromClient.peer = server.connection := by
    have half := congrArg Delivery.State.peer sameClient
    simpa [State.fromClient, State.serverHalf, found, Delivery.State.forgetStreams,
      eq_comm] using half
  have isServerPeer : fromServer.peer = connection := by
    have half := congrArg Delivery.State.peer sameServer
    simpa [State.fromServer, Client.State.receivingHalf, connectedTo,
      Delivery.State.forgetStreams, eq_comm] using half
  have clientAtRest : AtRest (serverSide S') build.clientToServer fromClient := by
    refine ⟨stuck_of_outside (sameClient ▸ clientStuck), ?_, by rw [isClientPeer, serverUp]⟩
    have closed := congrArg Delivery.State.closed sameClient
    simpa [State.fromClient, Client.State.receivingHalf, connectedTo, clientUp,
      Delivery.State.forgetStreams, eq_comm] using closed
  have serverAtRest : AtRest (clientSide R) build.serverToClient fromServer := by
    refine ⟨stuck_of_outside (sameServer ▸ serverStuck), ?_, by rw [isServerPeer, clientUp]⟩
    have closed := congrArg Delivery.State.closed sameServer
    simpa [State.fromServer, State.serverHalf, found, serverUp,
      Delivery.State.forgetStreams, eq_comm] using closed
  have clientHeld := receiverHeld_of_held (server_reachable reachable found) held
  have serverHeld := decided.eventsHeld connection connectedTo (by simp [networking])
  have toServer := (clientAtRest.allDelivered (serverPayload S') reachedClient
    (by rw [isClientPeer, clientHeld])).forgetStreams
  have toClient := (serverAtRest.allDelivered (clientPayload R) reachedServer
    (by rw [isServerPeer, serverHeld])).forgetStreams
  rw [← sameClient] at toServer
  rw [← sameServer] at toClient
  have started : state.client.sendings.map (·.message) = givenToClient actions := by
    rw [← calls]
    apply decided.paired.started_prefix.eq_of_length
    simpa using decided.paired.started connected networking
  constructor
  · have queued := toServer.queued
    simp only [State.fromClient, List.filterMap_map] at queued
    rw [← started, List.filterMap_map]
    exact queued
  · have queued := toClient.queued
    simp only [State.fromServer, List.filterMap_map] at queued
    rw [← sentMessages, List.filterMap_map]
    exact queued
  · intro call member
    obtain ⟨index, foundCall⟩ := List.mem_iff_getElem?.mp member
    have inBounds := (List.getElem?_eq_some_iff.mp foundCall).1
    rw [← decided.paired.started connected networking] at inBounds
    obtain ⟨-, call', foundCall', message, result⟩ :=
      decided.paired.carried index _ (List.getElem?_eq_getElem inBounds)
    obtain rfl := Option.some.inj (foundCall.symm.trans foundCall')
    have sending : State.ofSendingTask state.client.sendings[index] ∈
        state.fromClient.sendings := List.mem_map_of_mem (List.getElem_mem inBounds)
    rw [message, result]
    exact ⟨toServer.answered _ sending, toServer.sent _ sending⟩
  · intro sent member
    have sending : State.ofSentMessage sent ∈ state.fromServer.sendings :=
      List.mem_map_of_mem member
    exact ⟨toClient.answered _ sending, toClient.sent _ sending⟩

/-- Once both ends are up, whatever happened before and in whatever order the tasks and
the network go on, they come to rest, in a number of steps that is known in advance,
and there everything is exchanged. -/
theorem everything_is_exchanged (build : Build S S' R R') (actions : List (Action S R'))
    (state : State S S' R R') (ran : (system build).run .new actions = some state)
    (up : Up state) :
    (∃ rest, (system build).Reaches (fun _ action => action.IsOwn) state rest ∧
      (system build).Stuck Action.IsOwn rest) ∧
    ∀ taken rest, (∀ action ∈ taken, action.IsOwn) →
      (system build).run state taken = some rest →
        taken.length ≤ state.stepsLeft build ∧
        ((system build).Stuck Action.IsOwn rest → AllExchanged build actions rest) := by
  have reachable := System.reachable_of_run ran
  constructor
  · exact System.exists_stuck Action.IsOwn (State.stepsLeft build)
      (fun _ _ _ own stepped => step_stepsLeft own stepped) state
  · intro taken rest every ranRest
    have length := System.length_le_of_run Action.IsOwn (State.stepsLeft build)
      (fun _ _ _ own stepped => step_stepsLeft own stepped) every ranRest
    refine ⟨by omega, ?_⟩
    intro stuck
    have reached := System.reaches_of_run Action.IsOwn every ranRest
    have kept := reached.invariant (fun later => Up later ∧
      later.client.calls.map (·.message) = givenToClient actions ∧
      later.sentMessages.map (·.message) = givenToServer actions)
      ⟨up, calls_of_run ran, sentMessages_of_run ran⟩ ?_
    · exact allExchanged_of_stuck (reachable.reaches reached) kept.1 stuck kept.2.1 kept.2.2
    · intro before action after _ holds own stepped
      have given := step_given own stepped
      exact ⟨step_up holds.1 own stepped, given.1.trans holds.2.1,
        given.2.trans holds.2.2⟩

theorem everything_is_exchanged_of_greetings :
    ∃ state, (system booleans).run .new greetEachOther = some state ∧
      (∃ rest, (system booleans).Reaches (fun _ action => action.IsOwn) state rest ∧
        (system booleans).Stuck Action.IsOwn rest) ∧
      ∀ taken rest, (∀ action ∈ taken, action.IsOwn) →
        (system booleans).run state taken = some rest →
          taken.length ≤ state.stepsLeft booleans ∧
          ((system booleans).Stuck Action.IsOwn rest →
            AllExchanged booleans greetEachOther rest) :=
  ⟨_, rfl, everything_is_exchanged booleans greetEachOther _ rfl
    ⟨⟨_, _, rfl, rfl, rfl⟩, _, rfl, rfl, rfl⟩⟩

end Warqueen.Session
