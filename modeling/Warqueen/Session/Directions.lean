import Warqueen.Delivery.Outside
import Warqueen.Session.Parties

/-!
# The parts of a session

A session is at once a run of its client, of its server's end, and of its two
directions: each of its steps is a step of one end, and a run, often empty, of each
direction.  So whatever holds of every run of a part holds of every session.
-/

namespace Warqueen.Session

open Concurrency Quinn Receiving Sending Delivery

variable {S S' R R' : Type} {build : Build S S' R R'}
variable {state state' : State S S' R R'} {action : Action S R'}

/-! ## What a step of a session requires -/

/-- The steps of the client: an answer to one of its sending tasks, a step of its
receiving half, or anything else. -/
inductive ClientStep (build : Build S S' R R') (state : State S S' R R') :
    Client.Action S → State S S' R R' → Prop where
  | sends {index : Nat} {answer : Answer} {client : Client.State S R}
      (answered : answersTask state.fromClient build.clientToServer index answer = true)
      (stepped : Client.step build.client state.client (.sendingTask index answer) =
        some client) :
      ClientStep build state (.sendingTask index answer)
        { state with
          client := client
          clientToServer := transmitted state.fromClient index answer }
  | receives {receiving : Receiving.Action} {client : Client.State S R}
      (transported : state.fromServer.transports receiving = true)
      (stepped : Client.step build.client state.client (.receiving receiving) =
        some client) :
      ClientStep build state (.receiving receiving) { state with client := client }
  | acts {action : Client.Action S} {client : Client.State S R}
      (notSending : ∀ index answer, action ≠ .sendingTask index answer)
      (notReceiving : ∀ receiving, action ≠ .receiving receiving)
      (stepped : Client.step build.client state.client action = some client) :
      ClientStep build state action { state with client := client }

/-- The steps of the server's end. -/
inductive ServerStep (build : Build S S' R R') (state : State S S' R R')
    (server : ClientOnServer.State R' S') :
    ClientOnServer.Action R' → State S S' R R' → Prop where
  | sends {index : Nat} {answer : Answer} {server' : ClientOnServer.State R' S'}
      (answered : answersTask state.fromServer build.serverToClient index answer = true)
      (stepped : ClientOnServer.step build.server server (.sendingTask index answer) =
        some server') :
      ServerStep build state server (.sendingTask index answer)
        { state with
          server := some server'
          serverToClient := transmitted state.fromServer index answer }
  | receives {receiving : Receiving.Action} {server' : ClientOnServer.State R' S'}
      (transported : state.fromClient.transports receiving = true)
      (stepped : ClientOnServer.step build.server server (.receiving receiving) =
        some server') :
      ServerStep build state server (.receiving receiving)
        { state with server := some server' }
  | acts {action : ClientOnServer.Action R'} {server' : ClientOnServer.State R' S'}
      (notSending : ∀ index answer, action ≠ .sendingTask index answer)
      (notReceiving : ∀ receiving, action ≠ .receiving receiving)
      (stepped : ClientOnServer.step build.server server action = some server') :
      ServerStep build state server action { state with server := some server' }

theorem clientStep_of_step {action : Client.Action S}
    (stepped : stepClient build state action = some state') :
    ClientStep build state action state' := by
  simp only [stepClient] at stepped
  split at stepped
  next index answer =>
    simp only [Option.ite_none_right_eq_some] at stepped
    obtain ⟨answered, steps⟩ := stepped
    obtain ⟨client, stepped, rfl⟩ := Option.map_eq_some_iff.mp steps
    exact .sends answered stepped
  next receiving =>
    simp only [Option.ite_none_right_eq_some] at stepped
    obtain ⟨transported, steps⟩ := stepped
    obtain ⟨client, stepped, rfl⟩ := Option.map_eq_some_iff.mp steps
    exact .receives transported stepped
  next notSending notReceiving =>
    obtain ⟨client, steps, rfl⟩ := Option.map_eq_some_iff.mp stepped
    exact .acts notSending notReceiving steps

theorem serverStep_of_step {server : ClientOnServer.State R' S'}
    {action : ClientOnServer.Action R'}
    (stepped : stepServer build state server action = some state') :
    ServerStep build state server action state' := by
  simp only [stepServer] at stepped
  split at stepped
  next index answer =>
    simp only [Option.ite_none_right_eq_some] at stepped
    obtain ⟨answered, steps⟩ := stepped
    obtain ⟨server', stepped, rfl⟩ := Option.map_eq_some_iff.mp steps
    exact .sends answered stepped
  next receiving =>
    simp only [Option.ite_none_right_eq_some] at stepped
    obtain ⟨transported, steps⟩ := stepped
    obtain ⟨server', stepped, rfl⟩ := Option.map_eq_some_iff.mp steps
    exact .receives transported stepped
  next notSending notReceiving =>
    obtain ⟨server', steps, rfl⟩ := Option.map_eq_some_iff.mp stepped
    exact .acts notSending notReceiving steps

/-- What a step of a session is. -/
inductive SessionStep (build : Build S S' R R') (state : State S S' R R') :
    Action S R' → State S S' R R' → Prop where
  | client {action : Client.Action S} {state' : State S S' R R'}
      (stepped : ClientStep build state action state') :
      SessionStep build state (.client action) state'
  | newClientOnServer (connected : state.client.connection.isSome = true)
      (notYet : state.server = none) :
      SessionStep build state .newClientOnServer { state with server := some .new }
  | server {action : ClientOnServer.Action R'} {server : ClientOnServer.State R' S'}
      {state' : State S S' R R'} (found : state.server = some server)
      (stepped : ServerStep build state server action state') :
      SessionStep build state (.server action) state'

theorem sessionStep_of_step (stepped : (system build).step state action = some state') :
    SessionStep build state action state' := by
  cases action with
  | client action => exact .client (clientStep_of_step stepped)
  | newClientOnServer =>
      simp only [system, step, Option.ite_none_right_eq_some, Option.some.injEq] at stepped
      obtain ⟨⟨connected, notYet⟩, rfl⟩ := stepped
      exact .newClientOnServer connected (Option.isNone_iff_eq_none.mp notYet)
  | server action =>
      obtain ⟨server, found, stepped⟩ := Option.bind_eq_some_iff.mp stepped
      exact .server found (serverStep_of_step stepped)

/-! ## The two ends -/

/-- The client takes the step of its label. -/
theorem ClientStep.client {action : Client.Action S}
    (stepped : ClientStep build state action state') :
    (Client.system build.client).step state.client action = some state'.client := by
  cases stepped with
  | sends _ stepped | receives _ stepped | acts _ _ stepped => exact stepped

/-- The server's end takes the step of its label, and the client is not concerned. -/
theorem ServerStep.server {server : ClientOnServer.State R' S'}
    {action : ClientOnServer.Action R'}
    (stepped : ServerStep build state server action state') :
    state'.client = state.client ∧ ∃ server', state'.server = some server' ∧
      (ClientOnServer.system build.server).step server action = some server' := by
  cases stepped with
  | sends _ stepped | receives _ stepped | acts _ _ stepped => exact ⟨rfl, _, rfl, stepped⟩

theorem ClientStep.server {action : Client.Action S}
    (stepped : ClientStep build state action state') : state'.server = state.server := by
  cases stepped <;> rfl

/-- The client of a session is a client. -/
theorem client_reachable (reachable : (system build).Reachable state) :
    (Client.system build.client).Reachable state.client := by
  refine reachable.invariant
    (fun state => (Client.system build.client).Reachable state.client)
    System.Reachable.init ?_
  intro before action after _ reached stepped
  cases sessionStep_of_step stepped with
  | client stepped => exact reached.step stepped.client
  | newClientOnServer => exact reached
  | server found stepped =>
      rw [stepped.server.1]
      exact reached

/-- The server's end of a session is a client on the server. -/
theorem server_reachable (reachable : (system build).Reachable state)
    {server : ClientOnServer.State R' S'} (found : state.server = some server) :
    (ClientOnServer.system build.server).Reachable server := by
  refine reachable.invariant (fun state => ∀ server, state.server = some server →
    (ClientOnServer.system build.server).Reachable server) (by simp [system, State.new]) ?_
    server found
  intro before action after _ holds stepped server found
  cases sessionStep_of_step stepped with
  | client stepped =>
      rw [stepped.server] at found
      exact holds server found
  | newClientOnServer =>
      obtain rfl := Option.some.inj found
      exact System.Reachable.init
  | server foundBefore stepped =>
      obtain ⟨-, server', found', steps⟩ := stepped.server
      obtain rfl := Option.some.inj (found'.symm.trans found)
      exact (holds _ foundBefore).step steps

/-! ## The two directions -/

/-- Which steps of the direction from the client a step of the session can be. -/
inductive FromClient : Action S R' → Delivery.Action S → Prop where
  | starts {action : Client.Action S} (operation : action.isOperation = true)
      (message : S) : FromClient (.client action) (.send message)
  | resumes (index : Nat) (answer : Answer) :
      FromClient (.client (.sendingTask index answer)) (.resume index answer)
  | closes {action : Client.Action S} (isClose : action = .disconnect ∨
      action = .dropLastHandle) : FromClient (.client action) (.lose .locallyClosed)
  | loses (cause : ConnectionError) :
      FromClient (.client (.receiving (.lose cause))) (.lose cause)
  | spawns : FromClient .newClientOnServer (.peer .spawn)
  | polls : FromClient (.server .pollEventFromClient) (.peer .poll)
  | peerCloses : FromClient (.server .disconnect) (.peer (.lose .locallyClosed))
  | drops : FromClient (.server .drop) (.peer .dropReceiver)
  | receives (receiving : Receiving.Action) :
      FromClient (.server (.receiving receiving)) (.peer receiving)

/-- Which steps of the direction from the server a step of the session can be. -/
inductive FromServer : Action S R' → Delivery.Action R' → Prop where
  | starts (message : R') :
      FromServer (.server (.sendMessageToClient message)) (.send message)
  | resumes (index : Nat) (answer : Answer) :
      FromServer (.server (.sendingTask index answer)) (.resume index answer)
  | closes : FromServer (.server .disconnect) (.lose .locallyClosed)
  | loses (cause : ConnectionError) :
      FromServer (.server (.receiving (.lose cause))) (.lose cause)
  | spawns : FromServer (.client .connectingTask) (.peer .spawn)
  | polls : FromServer (.client .pollEventFromServer) (.peer .poll)
  | peerCloses {action : Client.Action S} (isClose : action = .disconnect ∨
      action = .dropLastHandle) :
      FromServer (.client action) (.peer (.lose .locallyClosed))
  | drops {action : Client.Action S} (isDrop : action = .disconnect ∨
      action = .connectingTask) : FromServer (.client action) (.peer .dropReceiver)
  | receives (receiving : Receiving.Action) :
      FromServer (.client (.receiving receiving)) (.peer receiving)

/-- The direction from the client as it is seen from outside. -/
abbrev clientOutside (build : Build S S' R R') :=
  outside (serverSide S') build.clientToServer

/-- The direction from the server as it is seen from outside. -/
abbrev serverOutside (build : Build S S' R R') :=
  outside (clientSide R) build.serverToClient

theorem fromClient_seen (state : State S S' R R') :
    state.fromClient.forgetStreams = state.fromClient := by
  simp only [State.fromClient, Delivery.State.forgetStreams, List.map_map]
  rfl

theorem fromServer_seen (state : State S S' R R') :
    state.fromServer.forgetStreams = state.fromServer := by
  simp only [State.fromServer, Delivery.State.forgetStreams, List.map_map]
  rfl

/-- The steps of the direction from the client that a step can be, as a run. -/
def ClientRun (build : Build S S' R R') (action : Action S R')
    (state state' : State S S' R R') : Prop :=
  (clientOutside build).Reaches (fun _ label => FromClient action label)
    state.fromClient state'.fromClient

/-- The steps of the direction from the server that a step can be, as a run. -/
def ServerRun (build : Build S S' R R') (action : Action S R')
    (state state' : State S S' R R') : Prop :=
  (serverOutside build).Reaches (fun _ label => FromServer action label)
    state.fromServer state'.fromServer

theorem clientRun_of_same (same : state'.fromClient = state.fromClient) :
    ClientRun build action state state' := by
  simp only [ClientRun, same]
  exact System.Reaches.refl

theorem serverRun_of_same (same : state'.fromServer = state.fromServer) :
    ServerRun build action state state' := by
  simp only [ServerRun, same]
  exact System.Reaches.refl

/-- The client is replaced by a later one. -/
def State.withClient (state : State S S' R R') (client : Client.State S R) :
    State S S' R R' :=
  { state with client := client }

/-! ## What the client does to the directions -/

section ClientActs

variable {acting : Client.Action S} {client client' : Client.State S R}

/-- What a step of the client does to its receiving half, other than a step of the
receiving tasks or of the network. -/
def Touches (action : Client.Action S) (label : Receiving.Action) : Prop :=
  label = .spawn ∧ action = .connectingTask ∨
    label = .poll ∧ action = .pollEventFromServer ∨
    label = .lose .locallyClosed ∧ (action = .disconnect ∨ action = .dropLastHandle) ∨
    label = .dropReceiver ∧ (action = .disconnect ∨ action = .connectingTask)

/-- The receiving half comes to be another one by what the client does to it. -/
def HalfRun (build : Client.Build S R) (action : Client.Action S)
    (client client' : Client.State S R) : Prop :=
  (Receiving.system (clientSide R) build.decode).Reaches
    (fun _ label => Touches action label) client.receivingHalf client'.receivingHalf

theorem halfRun_of_same {build : Client.Build S R}
    (same : client'.connection = client.connection) :
    HalfRun build acting client client' := by
  simp only [HalfRun, Client.State.receivingHalf]
  rw [same]
  exact System.Reaches.refl

theorem halfRun_of_step {build : Client.Build S R}
    {connection connection' : Receiving.State (ClientEvent R)} {label : Receiving.Action}
    (touches : Touches acting label) (found : client.connection = some connection)
    (stepped : Receiving.step (clientSide R) build.decode connection label =
      some connection') (found' : client'.connection = some connection') :
    HalfRun build acting client client' := by
  simp only [HalfRun, Client.State.receivingHalf]
  rw [found, found']
  exact System.Reaches.single touches stepped

theorem halfRun_dropConnected (build : Client.Build S R) (client : Client.State S R)
    (drops : acting = .disconnect ∨ acting = .connectingTask) :
    HalfRun build acting client client.dropConnected := by
  cases found : client.connection with
  | none => exact halfRun_of_same (by simp [Client.State.dropConnected, found])
  | some connection =>
      have dropped : Receiving.step (clientSide R) build.decode connection .dropReceiver =
          some { connection with events := connection.events.dropReceiver } := rfl
      exact halfRun_of_step (.inr (.inr (.inr ⟨rfl, drops⟩))) found dropped
        (by simp [Client.State.dropConnected, found])

theorem halfRun_close (build : Client.Build S R) (client : Client.State S R)
    (closes : acting = .disconnect ∨ acting = .dropLastHandle) :
    HalfRun build acting client client.close := by
  cases found : client.connection with
  | none => exact halfRun_of_same (by simp [Client.State.close, found])
  | some connection =>
      cases closed : connection.closed with
      | none =>
          have loses : Receiving.step (clientSide R) build.decode connection
              (.lose .locallyClosed) =
                some { connection with closed := some .locallyClosed } := if_pos closed
          exact halfRun_of_step (.inr (.inr (.inl ⟨rfl, closes⟩))) found loses
            (by simp [Client.State.close, found, closed])
      | some cause =>
          have same : { connection with closed := some cause } = connection := by
            rw [← closed]
          exact halfRun_of_same (by simp [Client.State.close, found, closed, same])

/-- Every other transition of a client is such a run. -/
theorem halfRun_of_transition {build : Client.Build S R} (owned : Client.Owned client)
    (notReceiving : ∀ receiving, acting ≠ .receiving receiving)
    (transition : Client.Transition build client acting client') :
    HalfRun build acting client client' := by
  cases transition with
  | @pollsQueue _ connection networking already found =>
      have polls : Receiving.step (clientSide R) build.decode connection .poll =
          some { connection with events := connection.events.tryRecv.2 } := rfl
      exact halfRun_of_step (.inr (.inl ⟨rfl, rfl⟩)) found polls rfl
  | abandons networking kept =>
      rcases kept with rfl | rfl
      · exact halfRun_of_same rfl
      · exact halfRun_dropConnected build client (.inl rfl)
  | closes networking =>
      exact (halfRun_close build client (.inl rfl)).trans
        (halfRun_dropConnected build client.close (.inl rfl))
  | endsAttempt attempting =>
      have none := (owned.attempted attempting).2.1
      simp only [HalfRun, Client.State.receivingHalf]
      rw [none]
      split <;> exact System.Reaches.refl
  | creates answered found spawned =>
      exact halfRun_of_step (.inl ⟨rfl, rfl⟩) found spawned rfl
  | discards => exact halfRun_dropConnected build client (.inr rfl)
  | receives => exact absurd rfl (notReceiving _)
  | dropsLastHandle => exact halfRun_close build client (.inr rfl)
  | _ => exact halfRun_of_same rfl

/-- Such a run loses the connection only by our own close. -/
theorem HalfRun.closed {build : Client.Build S R}
    (ran : HalfRun build acting client client') :
    client'.receivingHalf.closed = client.receivingHalf.closed ∨
      client.receivingHalf.closed = none ∧
        client'.receivingHalf.closed = some .locallyClosed ∧
        (acting = .disconnect ∨ acting = .dropLastHandle) := by
  refine ran.invariant (fun half => half.closed = client.receivingHalf.closed ∨
    client.receivingHalf.closed = none ∧ half.closed = some .locallyClosed ∧
      (acting = .disconnect ∨ acting = .dropLastHandle)) (.inl rfl) ?_
  intro before label after _ holds touches stepped
  cases closed : before.closed with
  | some cause =>
      rw [(step_of_closed closed stepped).1, ← closed]
      exact holds
  | none =>
      have upFirst : client.receivingHalf.closed = none := by
        rcases holds with same | ⟨up, -⟩
        · rw [← same, closed]
        · exact up
      cases closed' : after.closed with
      | none => exact .inl upFirst.symm
      | some cause =>
          obtain ⟨rfl, -⟩ := step_loses closed closed' stepped
          rcases touches with ⟨impossible, -⟩ | ⟨impossible, -⟩ | ⟨same, closes⟩ |
            ⟨impossible, -⟩
          · cases impossible
          · cases impossible
          · obtain rfl := Receiving.Action.lose.inj same
            exact .inr ⟨upFirst, rfl, closes⟩
          · cases impossible

/-- The client's receiving half is the peer of the direction from the server. -/
theorem serverRun_of_halfRun (state : State S S' R R')
    (ran : HalfRun build.client acting client client') :
    ServerRun build (.client acting) (state.withClient client)
      (state.withClient client') := by
  have runs := outside_peer_run (clientSide R) build.serverToClient
    (fromServer_seen (state.withClient client)) ?_ ran
  · refine System.Reaches.mono ?_ runs
    intro _ label ⟨receiving, isLabel, touches⟩
    subst isLabel
    rcases touches with ⟨rfl, rfl⟩ | ⟨rfl, rfl⟩ | ⟨rfl, closes⟩ | ⟨rfl, drops⟩
    · exact .spawns
    · exact .polls
    · exact .peerCloses closes
    · exact .drops drops
  · intro direction label touches
    rcases touches with ⟨rfl, -⟩ | ⟨rfl, -⟩ | ⟨rfl, -⟩ | ⟨rfl, -⟩ <;> rfl

/-- The end of the client's connection is the end of the direction from it. -/
theorem clientRun_of_closed (state : State S S' R R')
    (sendings : client'.sendings = client.sendings)
    (ran : HalfRun build.client acting client client') :
    ClientRun build (.client acting) (state.withClient client)
      (state.withClient client') := by
  rcases ran.closed with same | ⟨up, lost, closes⟩
  · apply clientRun_of_same
    simp only [State.fromClient, State.withClient, State.serverHalf, sendings, same]
  · have loses := outside_lose (serverSide S') build.clientToServer
      (fromClient_seen (state.withClient client)) up .locallyClosed
    refine System.Reaches.single (.closes closes) (loses.trans ?_)
    simp only [State.fromClient, State.withClient, State.serverHalf, sendings, lost]

/-- The client starts sending messages. -/
theorem clientRun_of_sends (state : State S S' R R') (operation : acting.isOperation = true)
    {started : List (Client.SendingTask S)} (fresh : ∀ task ∈ started, task.phase = .spawned)
    (sendings : client'.sendings = client.sendings ++ started)
    (connection : client'.connection = client.connection) :
    ClientRun build (.client acting) (state.withClient client)
      (state.withClient client') := by
  have starts : ∀ message ∈ started.map (·.message),
      FromClient (.client acting : Action S R') (.send message) :=
    fun message _ => .starts operation message
  have sends := outside_sends (serverSide S') build.clientToServer
    (fromClient_seen (state.withClient client)) (started.map (·.message)) starts
  have tasks : started.map State.ofSendingTask =
      (started.map (·.message)).map OutgoingMessage.start := by
    rw [List.map_map]
    apply List.map_congr_left
    intro task member
    simp [State.ofSendingTask, OutgoingMessage.start, fresh task member, SendingPhase.settle]
  have same : (state.withClient client').fromClient =
      { (state.withClient client).fromClient with
        sendings := (state.withClient client).fromClient.sendings ++
          (started.map (·.message)).map .start } := by
    rw [← tasks]
    simp only [State.fromClient, State.withClient, State.serverHalf,
      Client.State.receivingHalf, sendings, connection, List.map_append]
  simp only [ClientRun, same]
  exact sends

/-- What the client does, other than a step of a sending task or of its receiving
half, is a run of both directions. -/
theorem runs_of_transition (state : State S S' R R') (owned : Client.Owned client)
    (notSending : ∀ index answer, acting ≠ .sendingTask index answer)
    (notReceiving : ∀ receiving, acting ≠ .receiving receiving)
    (transition : Client.Transition build.client client acting client') :
    ClientRun build (.client acting) (state.withClient client) (state.withClient client') ∧
      ServerRun build (.client acting) (state.withClient client)
        (state.withClient client') := by
  have half := halfRun_of_transition owned notReceiving transition
  refine ⟨?_, serverRun_of_halfRun state half⟩
  cases transition with
  | connects operation networking value =>
      refine clientRun_of_sends state operation ?_ rfl rfl
      intro task member
      obtain ⟨pendingMessage, -, rfl⟩ := List.mem_map.mp member
      rfl
  | sends networking =>
      refine clientRun_of_sends state rfl ?_ rfl rfl
      intro task member
      rw [List.mem_singleton.mp member]
      rfl
  | resumes => exact absurd rfl (notSending _ _)
  | receives => exact absurd rfl (notReceiving _)
  | _ => exact clientRun_of_closed state rfl half

end ClientActs

/-! ## Every step is a run of both directions -/

/-- A sending task of the client that goes on is a step of the direction from it, and
none of the other. -/
theorem ClientStep.resumed {index : Nat} {answer : Answer}
    (stepped : ClientStep build state (.sendingTask index answer) state') :
    (clientOutside build).step state.fromClient (.resume index answer) =
        some state'.fromClient ∧
      state'.fromServer = state.fromServer := by
  cases stepped with
  | acts notSending => exact absurd rfl (notSending index answer)
  | @sends _ _ client answered stepped =>
      cases Client.resumeSending_transition stepped with
      | connects operation | timesOut operation => cases operation
      | meets isMeeting => cases isMeeting
      | @resumes _ _ sending phase connection found connected allowed resumed =>
          refine ⟨?_, rfl⟩
          have foundTask : state.fromClient.sendings[index]? =
              some (State.ofSendingTask sending) := by
            simp [State.fromClient, found]
          simp only [answersTask, foundTask, Option.any_some] at answered
          have resumes := outside_resume (serverSide S') build.clientToServer
            (fromClient_seen state) foundTask
            (by simpa [State.fromClient, Client.State.receivingHalf, connected] using allowed)
            answered resumed
          have advanced : ((State.ofSendingTask sending).advance phase).forgetStream =
              State.ofSendingTask { sending with phase := phase } := by
            simp only [OutgoingMessage.forgetStream, OutgoingMessage.advance,
              State.ofSendingTask, SendingPhase.settle_of_resume resumed]
          rw [resumes, advanced]
          simp only [State.fromClient, State.serverHalf, Client.State.receivingHalf,
            List.map_set, transmitted, List.getElem?_map, found, Option.map_some]

/-- A step of a receiving half loses the connection or leaves it as it is. -/
theorem closed_cases {R Event : Type} {side : ReceivingSide R Event}
    {decode : List UInt8 → Option R} {half half' : Receiving.State Event}
    {receiving : Receiving.Action}
    (stepped : Receiving.step side decode half receiving = some half') :
    half'.closed = half.closed ∨
      ∃ cause, half.closed = none ∧ half'.closed = some cause ∧ receiving = .lose cause := by
  cases closed : half.closed with
  | some cause => exact .inl (step_of_closed closed stepped).1
  | none =>
      cases closed' : half'.closed with
      | none => exact .inl rfl
      | some cause => exact .inr ⟨cause, rfl, rfl, (step_loses closed closed' stepped).1⟩

/-- A step of the client's receiving half is one of the direction from the server.  The
other direction only sees the loss of the connection. -/
theorem ClientStep.received {receiving : Receiving.Action}
    (stepped : ClientStep build state (.receiving receiving) state') :
    (serverOutside build).step state.fromServer (.peer receiving) =
        some state'.fromServer ∧
      (state'.fromClient = state.fromClient ∨ ∃ cause, receiving = .lose cause ∧
        (clientOutside build).step state.fromClient (.lose cause) =
          some state'.fromClient) := by
  cases stepped with
  | acts _ notReceiving => exact absurd rfl (notReceiving receiving)
  | @receives _ client transported stepped =>
      simp only [Client.step, Option.ite_none_right_eq_some] at stepped
      obtain ⟨-, steps⟩ := stepped
      obtain ⟨half', received, rfl⟩ := Option.map_eq_some_iff.mp steps
      obtain ⟨half, connected, stepped⟩ := Option.bind_eq_some_iff.mp received
      have isHalf : state.client.receivingHalf = half := by
        simp [Client.State.receivingHalf, connected]
      constructor
      · have receives := outside_peer (clientSide R) build.serverToClient
          (fromServer_seen state) transported (isHalf ▸ stepped)
        rw [receives]
        simp [State.fromServer, State.serverHalf, Client.State.receivingHalf]
      · rcases closed_cases stepped with same | ⟨cause, up, lost, rfl⟩
        · apply Or.inl
          simp [State.fromClient, State.serverHalf, Client.State.receivingHalf, connected,
            same]
        · refine .inr ⟨cause, rfl, ?_⟩
          have loses := outside_lose (serverSide S') build.clientToServer
            (fromClient_seen state) (by simpa [State.fromClient, isHalf] using up) cause
          rw [loses]
          simp [State.fromClient, State.serverHalf, Client.State.receivingHalf, lost]

/-- A sending task of the server's end that goes on is a step of the direction from it,
and none of the other. -/
theorem ServerStep.resumed {server : ClientOnServer.State R' S'} {index : Nat}
    {answer : Answer} (found : state.server = some server)
    (stepped : ServerStep build state server (.sendingTask index answer) state') :
    (serverOutside build).step state.fromServer (.resume index answer) =
        some state'.fromServer ∧
      state'.fromClient = state.fromClient := by
  cases stepped with
  | acts notSending => exact absurd rfl (notSending index answer)
  | @sends _ _ server' answered stepped =>
      obtain ⟨sent, phase, foundSent, allowed, resumed, rfl⟩ :=
        ClientOnServer.State.resumeSending_eq_some stepped
      have foundTask : state.fromServer.sendings[index]? =
          some (State.ofSentMessage sent) := by
        simp [State.fromServer, found, foundSent]
      constructor
      · simp only [answersTask, foundTask, Option.any_some] at answered
        have resumes := outside_resume (clientSide R) build.serverToClient
          (fromServer_seen state) foundTask
          (by simpa [State.fromServer, State.serverHalf, found] using allowed) answered resumed
        rw [resumes]
        simp [State.fromServer, State.serverHalf, found, foundSent, transmitted, List.map_set,
          State.ofSentMessage, OutgoingMessage.forgetStream, OutgoingMessage.advance]
      · simp [State.fromClient, State.serverHalf, found]

/-- A step of the server's receiving half is one of the direction from the client.  The
other direction only sees the loss of the connection. -/
theorem ServerStep.received {server : ClientOnServer.State R' S'}
    {receiving : Receiving.Action} (found : state.server = some server)
    (stepped : ServerStep build state server (.receiving receiving) state') :
    (clientOutside build).step state.fromClient (.peer receiving) =
        some state'.fromClient ∧
      (state'.fromServer = state.fromServer ∨ ∃ cause, receiving = .lose cause ∧
        (serverOutside build).step state.fromServer (.lose cause) =
          some state'.fromServer) := by
  cases stepped with
  | acts _ notReceiving => exact absurd rfl (notReceiving receiving)
  | @receives _ server' transported stepped =>
      obtain ⟨half', rfl, -, stepped⟩ := ClientOnServer.receiving_cases stepped
      have isHalf : state.serverHalf = server.connection := by
        simp [State.serverHalf, found]
      constructor
      · have receives := outside_peer (serverSide S') build.clientToServer
          (fromClient_seen state) transported (by rw [← isHalf] at stepped; exact stepped)
        rw [receives]
        simp [State.fromClient, State.serverHalf]
      · rcases closed_cases stepped with same | ⟨cause, up, lost, rfl⟩
        · apply Or.inl
          simp [State.fromServer, State.serverHalf, found, same]
        · refine .inr ⟨cause, rfl, ?_⟩
          have loses := outside_lose (clientSide R) build.serverToClient
            (fromServer_seen state) (by simpa [State.fromServer, isHalf] using up) cause
          rw [loses]
          simp [State.fromServer, State.serverHalf, found, lost]

/-- A poll of the server's application is a poll of the direction from the client. -/
theorem ServerStep.polled {server : ClientOnServer.State R' S'}
    (found : state.server = some server)
    (stepped : ServerStep build state server .pollEventFromClient state') :
    (clientOutside build).step state.fromClient (.peer .poll) = some state'.fromClient ∧
      state'.fromServer = state.fromServer := by
  cases stepped with
  | @acts _ server' notSending notReceiving stepped =>
      simp only [ClientOnServer.step, Option.ite_none_right_eq_some,
        Option.some.injEq] at stepped
      obtain ⟨-, rfl⟩ := stepped
      have isHalf : state.serverHalf = server.connection := by
        simp [State.serverHalf, found]
      have polls : Receiving.step (serverSide S') build.clientToServer.decode
          state.serverHalf .poll = some server.pollEventFromClient.connection := by
        rw [isHalf]
        rfl
      constructor
      · have polled := outside_peer _ build.clientToServer (fromClient_seen state) rfl polls
        rw [polled]
        simp [State.fromClient, State.serverHalf]
      · simp [State.fromServer, State.serverHalf, found,
          ClientOnServer.State.pollEventFromClient]

/-- A step of the client is a run of both directions. -/
theorem ClientStep.runs {acting : Client.Action S} (owned : Client.Owned state.client)
    (stepped : ClientStep build state acting state') :
    ClientRun build (.client acting) state state' ∧
      ServerRun build (.client acting) state state' := by
  cases stepped with
  | @sends index answer client answered stepped =>
      have both := (ClientStep.sends answered stepped).resumed
      exact ⟨System.Reaches.single (.resumes index answer) both.1, serverRun_of_same both.2⟩
  | @receives receiving client transported stepped =>
      have both := (ClientStep.receives transported stepped).received
      refine ⟨?_, System.Reaches.single (.receives receiving) both.1⟩
      rcases both.2 with same | ⟨cause, rfl, loses⟩
      · exact clientRun_of_same same
      · exact System.Reaches.single (.loses cause) loses
  | @acts _ client notSending notReceiving stepped =>
      have both := Client.keeps_of_transitions
        (fun client => Client.Owned client ∧
          ClientRun build (.client acting) state (state.withClient client) ∧
          ServerRun build (.client acting) state (state.withClient client))
        (fun before after holds transition => by
          obtain ⟨owned, clientRun, serverRun⟩ := holds
          have runs := runs_of_transition state owned notSending notReceiving transition
          exact ⟨owned.transition transition, clientRun.trans runs.1,
            serverRun.trans runs.2⟩)
        ⟨owned, System.Reaches.refl, System.Reaches.refl⟩ stepped
      exact both.2

/-- A step of the server's end is a run of both directions. -/
theorem ServerStep.runs {server : ClientOnServer.State R' S'}
    {acting : ClientOnServer.Action R'} (found : state.server = some server)
    (stepped : ServerStep build state server acting state') :
    ClientRun build (.server acting) state state' ∧
      ServerRun build (.server acting) state state' := by
  have isHalf : state.serverHalf = server.connection := by
    simp [State.serverHalf, found]
  cases stepped with
  | @sends index answer server' answered stepped =>
      have both := (ServerStep.sends answered stepped).resumed found
      exact ⟨clientRun_of_same both.2, System.Reaches.single (.resumes index answer) both.1⟩
  | @receives receiving server' transported stepped =>
      have both := (ServerStep.receives transported stepped).received found
      refine ⟨System.Reaches.single (.receives receiving) both.1, ?_⟩
      rcases both.2 with same | ⟨cause, rfl, loses⟩
      · exact serverRun_of_same same
      · exact System.Reaches.single (.loses cause) loses
  | @acts _ server' notSending notReceiving stepped =>
      cases acting with
      | sendMessageToClient message =>
          simp only [ClientOnServer.step, Option.ite_none_right_eq_some,
            Option.some.injEq] at stepped
          obtain ⟨-, rfl⟩ := stepped
          constructor
          · apply clientRun_of_same
            simp [State.fromClient, State.serverHalf, found,
              ClientOnServer.State.sendMessageToClient]
          · have starts : ∀ started ∈ [message],
                FromServer (.server (.sendMessageToClient message) : Action S R')
                  (.send started) := by
              simpa using FromServer.starts message
            have sends := outside_sends (clientSide R) build.serverToClient
              (fromServer_seen state) [message] starts
            have same : State.fromServer { state with
                server := some (server.sendMessageToClient message) } =
                { state.fromServer with
                  sendings := state.fromServer.sendings ++ [message].map .start } := by
              simp [State.fromServer, State.serverHalf, found, State.ofSentMessage,
                ClientOnServer.State.sendMessageToClient, OutgoingMessage.start]
            simp only [ServerRun, same]
            exact sends
      | pollEventFromClient =>
          have both := (ServerStep.acts notSending notReceiving stepped).polled found
          exact ⟨System.Reaches.single .polls both.1, serverRun_of_same both.2⟩
      | disconnect =>
          simp only [ClientOnServer.step, Option.ite_none_right_eq_some,
            Option.some.injEq] at stepped
          obtain ⟨-, rfl⟩ := stepped
          cases closed : server.connection.closed with
          | some cause =>
              have same : server.disconnect = server := by
                simp only [ClientOnServer.State.disconnect, closed, Option.some_or]
                rw [← closed]
              constructor
              · apply clientRun_of_same
                simp [State.fromClient, State.serverHalf, found, same]
              · apply serverRun_of_same
                simp [State.fromServer, State.serverHalf, found, same]
          | none =>
              have loses : Receiving.step (serverSide S') build.clientToServer.decode
                  state.serverHalf (.lose .locallyClosed) =
                    some server.disconnect.connection := by
                simp [isHalf, Receiving.step, closed, ClientOnServer.State.disconnect]
              constructor
              · refine System.Reaches.single .peerCloses
                  ((outside_peer _ build.clientToServer (fromClient_seen state) rfl
                    loses).trans ?_)
                simp [State.fromClient, State.serverHalf]
              · have lost := outside_lose (clientSide R) build.serverToClient
                  (fromServer_seen state) (by simpa [State.fromServer, isHalf] using closed)
                  .locallyClosed
                refine System.Reaches.single .closes (lost.trans ?_)
                simp [State.fromServer, State.serverHalf, found, closed,
                  ClientOnServer.State.disconnect]
      | drop =>
          simp only [ClientOnServer.step, Option.ite_none_right_eq_some,
            Option.some.injEq] at stepped
          obtain ⟨-, rfl⟩ := stepped
          have drops : Receiving.step (serverSide S') build.clientToServer.decode
              state.serverHalf .dropReceiver = some server.drop.connection := by
            rw [isHalf]
            rfl
          constructor
          · refine System.Reaches.single .drops
              ((outside_peer _ build.clientToServer (fromClient_seen state) rfl drops).trans ?_)
            simp [State.fromClient, State.serverHalf]
          · apply serverRun_of_same
            simp [State.fromServer, State.serverHalf, found, ClientOnServer.State.drop]
      | sendingTask index answer => exact absurd rfl (notSending index answer)
      | receiving receiving => exact absurd rfl (notReceiving receiving)

/-- A step of a session is a run of both directions. -/
theorem SessionStep.runs (owned : Client.Owned state.client)
    (stepped : SessionStep build state action state') :
    ClientRun build action state state' ∧ ServerRun build action state state' := by
  cases stepped with
  | client stepped => exact stepped.runs owned
  | newClientOnServer connected notYet =>
      have spawns : Receiving.step (serverSide S') build.clientToServer.decode
          state.serverHalf .spawn =
            some (ClientOnServer.State.new : ClientOnServer.State R' S').connection := by
        simp only [State.serverHalf, notYet]
        rfl
      constructor
      · refine System.Reaches.single .spawns
          ((outside_peer _ build.clientToServer (fromClient_seen state) rfl spawns).trans ?_)
        simp [State.fromClient, State.serverHalf]
      · apply serverRun_of_same
        simp [State.fromServer, State.serverHalf, notYet, ClientOnServer.State.new,
          Receiving.State.established]
  | server found stepped => exact stepped.runs found

theorem SessionStep.owned (owned : Client.Owned state.client)
    (stepped : SessionStep build state action state') : Client.Owned state'.client := by
  cases stepped with
  | client stepped =>
      exact Client.keeps_of_transitions Client.Owned
        (fun _ _ owned transition => owned.transition transition) owned stepped.client
  | newClientOnServer => exact owned
  | server found stepped =>
      rw [stepped.server.1]
      exact owned

/-- The direction from the client of a session is a direction of a connection. -/
def fromClientSimulation (build : Build S S' R R') {guard : Action S R' → Prop}
    {guard' : Delivery.Action S → Prop}
    (labels : ∀ action label, guard action → FromClient action label → guard' label) :
    Simulation (system build) (fun _ action => guard action)
      (Delivery.system (serverSide S') build.clientToServer) (fun _ label => guard' label)
      where
  related state direction :=
    Client.Owned state.client ∧ state.fromClient = direction.forgetStreams
  init := ⟨Client.new_owned, rfl⟩
  step := by
    intro state direction action after related allowed stepped
    obtain ⟨owned, same⟩ := related
    have step' := sessionStep_of_step stepped
    have ran := (step'.runs owned).1.mono fun _ label => labels action label allowed
    obtain ⟨direction', reached, seen⟩ :=
      (outsideSimulation (serverSide S') build.clientToServer guard').continues same ran
    exact ⟨direction', reached, step'.owned owned, seen⟩

/-- The direction from the server of a session is a direction of a connection. -/
def fromServerSimulation (build : Build S S' R R') {guard : Action S R' → Prop}
    {guard' : Delivery.Action R' → Prop}
    (labels : ∀ action label, guard action → FromServer action label → guard' label) :
    Simulation (system build) (fun _ action => guard action)
      (Delivery.system (clientSide R) build.serverToClient) (fun _ label => guard' label)
      where
  related state direction :=
    Client.Owned state.client ∧ state.fromServer = direction.forgetStreams
  init := ⟨Client.new_owned, rfl⟩
  step := by
    intro state direction action after related allowed stepped
    obtain ⟨owned, same⟩ := related
    have step' := sessionStep_of_step stepped
    have ran := (step'.runs owned).2.mono fun _ label => labels action label allowed
    obtain ⟨direction', reached, seen⟩ :=
      (outsideSimulation (clientSide R) build.serverToClient guard').continues same ran
    exact ⟨direction', reached, step'.owned owned, seen⟩

/-- What a session goes on to reach, its directions go on to reach, with the records of
their streams. -/
theorem continue_directions {later : State S S' R R'} (owned : Client.Owned state.client)
    (reached : (system build).Reaches System.always state later)
    {fromClient : Delivery.State S (ClientOnServerEvent S')}
    {fromServer : Delivery.State R' (ClientEvent R)}
    (sameClient : state.fromClient = fromClient.forgetStreams)
    (sameServer : state.fromServer = fromServer.forgetStreams) :
    (∃ direction, (Delivery.system (serverSide S') build.clientToServer).Reaches
        System.always fromClient direction ∧ later.fromClient = direction.forgetStreams) ∧
      ∃ direction, (Delivery.system (clientSide R) build.serverToClient).Reaches
        System.always fromServer direction ∧ later.fromServer = direction.forgetStreams := by
  have going : (system build).Reaches (fun _ _ => True) state later :=
    reached.mono fun _ _ _ => trivial
  have anyFromClient : ∀ (action : Action S R') (label : Delivery.Action S), True →
      FromClient action label → True := fun _ _ _ _ => trivial
  have anyFromServer : ∀ (action : Action S R') (label : Delivery.Action R'), True →
      FromServer action label → True := fun _ _ _ _ => trivial
  constructor
  · obtain ⟨direction, reachedDirection, -, same⟩ :=
      (fromClientSimulation build anyFromClient).continues ⟨owned, sameClient⟩ going
    exact ⟨direction, reachedDirection.always, same⟩
  · obtain ⟨direction, reachedDirection, -, same⟩ :=
      (fromServerSimulation build anyFromServer).continues ⟨owned, sameServer⟩ going
    exact ⟨direction, reachedDirection.always, same⟩

/-- What the sessions reach, with the records of the streams of both directions. -/
theorem exists_directions (reachable : (system build).Reachable state) :
    (∃ direction, (Delivery.system (serverSide S') build.clientToServer).Reachable direction ∧
      state.fromClient = direction.forgetStreams) ∧
      ∃ direction, (Delivery.system (clientSide R) build.serverToClient).Reachable direction ∧
        state.fromServer = direction.forgetStreams :=
  continue_directions Client.new_owned reachable rfl rfl

end Warqueen.Session
