import Warqueen.ExampleServer.MainLoop

/-!
# What the example server prints

The lines about a client are what the application polled of it and gave it, in the
order in which it did, the ids are those of the clients in the order in which they were
polled, and the list of the main loop has the clients whose disconnection was not
printed.  A client is not mentioned any more after the iteration that printed its
disconnection.
-/

namespace Warqueen.ExampleServer

open Concurrency Quinn Receiving Server Session

variable {S R : Type} {attempts : List Handshake}
variable {build : Build S MessageClientToServer R MessageServerToClient}
variable {state state' : State S R} {action : Action S}

/-! ## Lines -/

/-- The client that a line is about. -/
def Line.clientId : Line → Nat
  | .connected clientId | .clientSays clientId _ | .disconnected clientId
  | .timedOut clientId | .weSay clientId | .disconnecting clientId => clientId

/-- The event of a client that a line tells. -/
def Line.heard (clientId : Nat) : Line → Option (ClientOnServerEvent MessageClientToServer)
  | .clientSays id content =>
      if id = clientId then some (.message (.string content)) else none
  | .disconnected id => if id = clientId then some (.disconnected .none) else none
  | .timedOut id => if id = clientId then some (.disconnected .timeout) else none
  | .connected _ | .weSay _ | .disconnecting _ => none

/-- The message to a client that a line tells. -/
def Line.said (clientId : Nat) : Line → Option MessageServerToClient
  | .weSay id => if id = clientId then some periodicMessage else none
  | _ => none

/-- The id that a line gives to a new client. -/
def Line.welcomed : Line → Option Nat
  | .connected clientId => some clientId
  | _ => none

namespace State

/-- The events of a client that were printed. -/
def heard (state : State S R) (clientId : Nat) :
    List (ClientOnServerEvent MessageClientToServer) :=
  state.printed.filterMap (Line.heard clientId)

/-- The messages to a client that were printed. -/
def said (state : State S R) (clientId : Nat) : List MessageServerToClient :=
  state.printed.filterMap (Line.said clientId)

/-- The disconnection of a client was printed. -/
def reported (state : State S R) (clientId : Nat) : Bool :=
  (state.heard clientId).any (serverSide MessageClientToServer).isDisconnected

/-- All the clients that were ever polled, with their ids. -/
def everybody (state : State S R) : List Client :=
  state.server.polledClients.mapIdx fun id attempt => { attempt := attempt, id := id }

end State

/-- The main thread is in the loop over the events. -/
def Phase.isPollingEvents : Phase → Bool
  | .pollingEvents _ => true
  | _ => false

/-- The main thread is in the last loop, or over. -/
def Phase.isLast : Phase → Bool
  | .disconnecting | .waiting | .returned => true
  | _ => false

/-- The clients that the list should have: those whose disconnection was not printed, or
only in this iteration. -/
def State.staying (state : State S R) (client : Client) : Bool :=
  !state.reported client.id ||
    (state.phase.isPollingEvents && state.disconnectedIds.contains client.id)

theorem Line.heard_eventLine (clientId other : Nat)
    (event : ClientOnServerEvent MessageClientToServer) :
    (State.eventLine clientId event).heard other =
      if clientId = other then some event else none := by
  cases event with
  | message message => cases message; rfl
  | disconnected details => cases details <;> rfl

theorem Line.said_eventLine (clientId other : Nat)
    (event : ClientOnServerEvent MessageClientToServer) :
    (State.eventLine clientId event).said other = none := by
  cases event with
  | message message => cases message; rfl
  | disconnected details => cases details <;> rfl

theorem Line.welcomed_eventLine (clientId : Nat)
    (event : ClientOnServerEvent MessageClientToServer) :
    (State.eventLine clientId event).welcomed = none := by
  cases event with
  | message message => cases message; rfl
  | disconnected details => cases details <;> rfl

theorem Line.clientId_eventLine (clientId : Nat)
    (event : ClientOnServerEvent MessageClientToServer) :
    (State.eventLine clientId event).clientId = clientId := by
  cases event with
  | message message => cases message; rfl
  | disconnected details => cases details <;> rfl

/-- A line tells nothing of the clients that it is not about. -/
theorem Line.heard_of_ne {line : Line} {clientId : Nat} (different : line.clientId ≠ clientId) :
    line.heard clientId = none ∧ line.said clientId = none := by
  cases line <;> simp_all [Line.heard, Line.said, Line.clientId]

/-! ## The server of the example -/

/-- The calls of the main thread that poll nothing and give nothing, and what others do,
leave what was polled and given. -/
structure SameCalls (server server' :
    Serving.State S MessageClientToServer R MessageServerToClient) : Prop where
  heardFrom : ∀ attempt, server'.heardFrom attempt = server.heardFrom attempt
  saidTo : ∀ attempt, server'.saidTo attempt = server.saidTo attempt
  polledClients : server'.polledClients = server.polledClients

theorem SameCalls.trans {first second third :
    Serving.State S MessageClientToServer R MessageServerToClient}
    (one : SameCalls first second) (two : SameCalls second third) : SameCalls first third where
  heardFrom attempt := (two.heardFrom attempt).trans (one.heardFrom attempt)
  saidTo attempt := (two.saidTo attempt).trans (one.saidTo attempt)
  polledClients := two.polledClients.trans one.polledClients

theorem server_step {server server' :
    Serving.State S MessageClientToServer R MessageServerToClient}
    {acting : Serving.Action S MessageServerToClient}
    (reachable : (Serving.system attempts build).Reachable server)
    (stepped : Serving.step attempts build server acting = some server') :
    (Serving.system attempts build).Reachable server' :=
  System.Reachable.step reachable stepped

theorem sameCalls_of_step {server server' :
    Serving.State S MessageClientToServer R MessageServerToClient}
    {acting : Serving.Action S MessageServerToClient}
    (reachable : (Serving.system attempts build).Reachable server)
    (stepped : Serving.step attempts build server acting = some server')
    (hears : ∀ attempt, server.hears attempt acting = [])
    (gives : ∀ attempt, Serving.gives attempt acting = [])
    (welcomes : server.welcomes acting = []) : SameCalls server server' where
  heardFrom attempt := by
    rw [Serving.heardFrom_step stepped, hears, List.append_nil]
  saidTo attempt := by
    rw [Serving.saidTo_step stepped, gives, List.append_nil]
  polledClients := by
    rw [Serving.polledClients_step stepped
      (Serving.queue_bounded (Serving.listener_reachable reachable)), welcomes,
      List.append_nil]

/-- What is no call of the main thread polls nothing and gives nothing. -/
theorem sameCalls_of_outside {server server' :
    Serving.State S MessageClientToServer R MessageServerToClient}
    {acting : Serving.Action S MessageServerToClient}
    (reachable : (Serving.system attempts build).Reachable server)
    (outside : isOutside acting = true)
    (stepped : Serving.step attempts build server acting = some server') :
    SameCalls server server' := by
  cases acting with
  | listener acting =>
      apply sameCalls_of_step reachable stepped (fun _ => rfl) (fun _ => rfl)
      cases acting <;> first | rfl | cases outside
  | session index acting =>
      refine sameCalls_of_step reachable stepped ?_ ?_ rfl
      · intro attempt
        have nothing (session : Session.State S MessageClientToServer R MessageServerToClient) :
            Serving.polledBy session acting = [] := by
          cases acting with
          | client | newClientOnServer => rfl
          | server call => cases call <;> first | rfl | cases outside
        cases found : server.sessions[attempt]? <;>
          simp [Serving.State.hears, nothing, found]
      · intro attempt
        have nothing : givenToServer [acting] = [] := by
          cases acting with
          | client | newClientOnServer => rfl
          | server call => cases call <;> first | rfl | cases outside
        simp [Serving.gives, nothing]

/-- A call of the main thread is a step of the server. -/
theorem call_eq_some {client : Client} {acting : ClientOnServer.Action MessageServerToClient}
    (called : call attempts build state client acting = some state') :
    ∃ server, Serving.step attempts build state.server
        (.session client.attempt (.server acting)) = some server ∧
      state' = { state with server := server } := by
  obtain ⟨server, stepped, rfl⟩ := Option.map_eq_some_iff.mp called
  exact ⟨server, stepped, rfl⟩

theorem sameCalls_of_drop {server server' :
    Serving.State S MessageClientToServer R MessageServerToClient} {index : Nat}
    {acting : ClientOnServer.Action MessageServerToClient}
    (reachable : (Serving.system attempts build).Reachable server)
    (leaves : acting = .disconnect ∨ acting = .drop)
    (stepped : Serving.step attempts build server (.session index (.server acting)) =
      some server') : SameCalls server server' := by
  refine sameCalls_of_step reachable stepped ?_ ?_ rfl
  · intro attempt
    cases found : server.sessions[attempt]? <;>
      rcases leaves with rfl | rfl <;>
        simp [Serving.State.hears, Serving.polledBy, found]
  · intro attempt
    rcases leaves with rfl | rfl <;> simp [Serving.gives, givenToServer]

/-- Dropping clients changes the server only, and polls and gives nothing. -/
theorem dropClients_eq_some {clients : List Client}
    (reachable : (Serving.system attempts build).Reachable state.server)
    (dropped : dropClients attempts build state clients = some state') :
    ∃ server, (Serving.system attempts build).Reachable server ∧
      SameCalls state.server server ∧ state' = { state with server := server } := by
  induction clients generalizing state with
  | nil =>
      obtain rfl := Option.some.inj dropped
      exact ⟨_, reachable, ⟨fun _ => rfl, fun _ => rfl, rfl⟩, rfl⟩
  | cons client rest inductionHypothesis =>
      simp only [dropClients, List.foldlM_cons] at dropped
      obtain ⟨middle, called, dropped⟩ := Option.bind_eq_some_iff.mp dropped
      obtain ⟨server, stepped, rfl⟩ := call_eq_some called
      obtain ⟨last, reached, same, rfl⟩ :=
        inductionHypothesis (server_step reachable stepped) dropped
      exact ⟨last, reached, (sameCalls_of_drop reachable (.inr rfl) stepped).trans same, rfl⟩

/-! ## The turns of the main thread -/

/-- What a step of the example server does, as far as the server's calls matter. -/
inductive Turn (state : State S R) : State S R → Prop where
  | quiet {server : Serving.State S MessageClientToServer R MessageServerToClient}
      (same : SameCalls state.server server) : Turn state { state with server := server }
  | welcomes {server : Serving.State S MessageClientToServer R MessageServerToClient}
      {attempt : Nat} (phase : state.phase = .pollingClients)
      (heardFrom : ∀ attempt, server.heardFrom attempt = state.server.heardFrom attempt)
      (saidTo : ∀ attempt, server.saidTo attempt = state.server.saidTo attempt)
      (polled : server.polledClients = state.server.polledClients ++ [attempt]) :
      Turn state ({ state with server := server }.welcome (some attempt))
  | nobodyNew {server : Serving.State S MessageClientToServer R MessageServerToClient}
      (phase : state.phase = .pollingClients) (same : SameCalls state.server server) :
      Turn state ({ state with server := server }.welcome none)
  | hears {server : Serving.State S MessageClientToServer R MessageServerToClient}
      {place : Nat} {client : Client} {event : ClientOnServerEvent MessageClientToServer}
      (phase : state.phase = .pollingEvents place)
      (found : state.clients[place]? = some client)
      (heardFrom : ∀ attempt, server.heardFrom attempt =
        state.server.heardFrom attempt ++ if client.attempt = attempt then [event] else [])
      (saidTo : ∀ attempt, server.saidTo attempt = state.server.saidTo attempt)
      (polled : server.polledClients = state.server.polledClients) :
      Turn state ({ state with server := server }.hear client place (some event))
  | hearsNothing {server : Serving.State S MessageClientToServer R MessageServerToClient}
      {place : Nat} {client : Client} (phase : state.phase = .pollingEvents place)
      (same : SameCalls state.server server) :
      Turn state ({ state with server := server }.hear client place none)
  | forgets {server : Serving.State S MessageClientToServer R MessageServerToClient}
      {place : Nat} (phase : state.phase = .pollingEvents place)
      (same : SameCalls state.server server) :
      Turn state { state with
        server := server
        clients := state.clients.filter state.keeps
        phase := .sending }
  | sends {server : Serving.State S MessageClientToServer R MessageServerToClient}
      {client : Client} (phase : state.phase = .sending) (member : client ∈ state.clients)
      (heardFrom : ∀ attempt, server.heardFrom attempt = state.server.heardFrom attempt)
      (saidTo : ∀ attempt, server.saidTo attempt = state.server.saidTo attempt ++
        if client.attempt = attempt then [periodicMessage] else [])
      (polled : server.polledClients = state.server.polledClients) :
      Turn state { state with
        server := server
        phase := .checkingHalt
        printed := state.printed ++ [.weSay client.id] }
  | sendsNothing (phase : state.phase = .sending) :
      Turn state { state with phase := .checkingHalt }
  | loadsHalt {halt : Bool} (phase : state.phase = .checkingHalt) :
      Turn state { state with phase := if halt then .disconnecting else .pollingClients }
  | disconnects {server : Serving.State S MessageClientToServer R MessageServerToClient}
      {client : Client} (phase : state.phase = .disconnecting)
      (member : client ∈ state.clients) (same : SameCalls state.server server) :
      Turn state { state with
        server := server
        phase := .waiting
        printed := state.printed ++ [.disconnecting client.id] }
  | returns (phase : state.phase = .disconnecting) : Turn state { state with phase := .returned }
  | waited {server : Serving.State S MessageClientToServer R MessageServerToClient}
      {client : Client} {left : List Client} (phase : state.phase = .waiting)
      (first : state.clients = client :: left) (same : SameCalls state.server server) :
      Turn state { state with server := server, phase := .disconnecting, clients := left }

/-- A step of the example server is a turn, and its server stays one. -/
theorem turn_of_step (reachable : (Serving.system attempts build).Reachable state.server)
    (stepped : step attempts build state action = some state') :
    Turn state state' ∧ (Serving.system attempts build).Reachable state'.server := by
  have bounded := Serving.queue_bounded (Serving.listener_reachable reachable)
  cases action with
  | outside acting =>
      simp only [step, Option.ite_none_right_eq_some] at stepped
      obtain ⟨outside, stepped⟩ := stepped
      obtain ⟨server, acts, rfl⟩ := Option.map_eq_some_iff.mp stepped
      exact ⟨.quiet (sameCalls_of_outside reachable outside acts),
        server_step reachable acts⟩
  | pollClient =>
      simp only [step, Option.ite_none_right_eq_some] at stepped
      obtain ⟨phase, stepped⟩ := stepped
      obtain ⟨server, acts, rfl⟩ := Option.map_eq_some_iff.mp stepped
      have polled := Serving.polledClients_step acts bounded
      have reached := server_step reachable acts
      cases found : state.server.nextClient with
      | some attempt =>
          simp only [Serving.State.welcomes, found, Option.toList_some] at polled
          refine ⟨.welcomes phase ?_ ?_ polled, reached⟩
          · intro attempt
            simpa [Serving.State.hears] using Serving.heardFrom_step acts attempt
          · intro attempt
            simpa [Serving.gives] using Serving.saidTo_step acts attempt
      | none =>
          refine ⟨.nobodyNew phase (sameCalls_of_step reachable acts (fun _ => rfl)
            (fun _ => rfl) ?_), reached⟩
          simp [Serving.State.welcomes, found]
  | pollEventFromClient =>
      simp only [step] at stepped
      split at stepped
      next place phase =>
        obtain ⟨client, found, stepped⟩ := Option.bind_eq_some_iff.mp stepped
        obtain ⟨polled, called, rfl⟩ := Option.map_eq_some_iff.mp stepped
        obtain ⟨server, acts, rfl⟩ := call_eq_some called
        refine ⟨?_, by cases state.server.nextEvent client.attempt <;>
          exact server_step reachable acts⟩
        have heard (attempt : Nat) : server.heardFrom attempt =
            state.server.heardFrom attempt ++
              if client.attempt = attempt then
                (state.server.nextEvent client.attempt).toList
              else [] := by
          rw [Serving.heardFrom_step acts, Serving.hears_poll]
        have said (attempt : Nat) : server.saidTo attempt = state.server.saidTo attempt := by
          simpa [Serving.gives, givenToServer] using Serving.saidTo_step acts attempt
        have polled : server.polledClients = state.server.polledClients := by
          simpa [Serving.State.welcomes] using Serving.polledClients_step acts bounded
        cases event : state.server.nextEvent client.attempt with
        | some event => exact .hears phase found (by simpa [event] using heard) said polled
        | none =>
            refine .hearsNothing phase ⟨?_, said, polled⟩
            intro attempt
            simpa [event] using heard attempt
      next => cases stepped
  | forgetDisconnected =>
      simp only [step, Option.ite_none_right_eq_some] at stepped
      obtain ⟨phase, stepped⟩ := stepped
      obtain ⟨dropped, drops, rfl⟩ := Option.map_eq_some_iff.mp stepped
      obtain ⟨server, reached, same, rfl⟩ := dropClients_eq_some reachable drops
      exact ⟨.forgets phase same, reached⟩
  | send elapsed randomClientIndex =>
      simp only [step, Option.ite_none_right_eq_some] at stepped
      obtain ⟨phase, stepped⟩ := stepped
      split at stepped
      · obtain ⟨client, found, stepped⟩ := Option.bind_eq_some_iff.mp stepped
        obtain ⟨sent, called, rfl⟩ := Option.map_eq_some_iff.mp stepped
        obtain ⟨server, acts, rfl⟩ := call_eq_some called
        refine ⟨.sends phase (List.mem_of_getElem? found) ?_ ?_ ?_, server_step reachable acts⟩
        · intro attempt
          cases session : state.server.sessions[attempt]? <;>
            simpa [Serving.State.hears, Serving.polledBy, session] using
              Serving.heardFrom_step acts attempt
        · intro attempt
          simpa [Serving.gives, givenToServer] using Serving.saidTo_step acts attempt
        · simpa [Serving.State.welcomes] using Serving.polledClients_step acts bounded
      · obtain rfl := Option.some.inj stepped
        exact ⟨.sendsNothing phase, reachable⟩
  | loadHalt halt =>
      simp only [step, Option.ite_none_right_eq_some, Option.some.injEq] at stepped
      obtain ⟨phase, rfl⟩ := stepped
      exact ⟨.loadsHalt phase, reachable⟩
  | disconnect =>
      simp only [step, Option.ite_none_right_eq_some] at stepped
      obtain ⟨phase, stepped⟩ := stepped
      split at stepped
      next client left first =>
        obtain ⟨disconnected, called, rfl⟩ := Option.map_eq_some_iff.mp stepped
        obtain ⟨server, acts, rfl⟩ := call_eq_some called
        exact ⟨.disconnects phase (by simp [first])
          (sameCalls_of_drop reachable (.inl rfl) acts), server_step reachable acts⟩
      next =>
        obtain rfl := Option.some.inj stepped
        exact ⟨.returns phase, reachable⟩
  | finishWaiting =>
      simp only [step, Option.ite_none_right_eq_some] at stepped
      obtain ⟨⟨phase, -⟩, stepped⟩ := stepped
      split at stepped
      next client left first =>
        obtain ⟨dropped, called, rfl⟩ := Option.map_eq_some_iff.mp stepped
        obtain ⟨server, acts, rfl⟩ := call_eq_some called
        exact ⟨.waited phase first (sameCalls_of_drop reachable (.inr rfl) acts),
          server_step reachable acts⟩
      next => cases stepped

/-! ## What was printed -/

/-- Clients that were polled are known by their place. -/
theorem mem_everybody {client : Client} :
    client ∈ state.everybody ↔
      state.server.polledClients[client.id]? = some client.attempt := by
  simp only [State.everybody, List.mem_mapIdx]
  constructor
  · intro isPlace
    obtain ⟨id, inBounds, rfl⟩ := isPlace
    exact List.getElem?_eq_getElem inBounds
  · intro found
    obtain ⟨inBounds, isAttempt⟩ := List.getElem?_eq_some_iff.mp found
    exact ⟨client.id, inBounds, by rw [isAttempt]⟩

/-- Clients with the same id, or of the same attempt, are the same. -/
theorem everybody_same (once : state.server.polledClients.Nodup) {client other : Client}
    (member : client ∈ state.everybody) (memberOther : other ∈ state.everybody) :
    client.id = other.id ↔ client.attempt = other.attempt := by
  rw [mem_everybody] at member memberOther
  constructor
  · intro same
    rw [same] at member
    exact Option.some.inj (member.symm.trans memberOther)
  · intro same
    obtain ⟨inBounds, isAttempt⟩ := List.getElem?_eq_some_iff.mp member
    obtain ⟨inBoundsOther, isOther⟩ := List.getElem?_eq_some_iff.mp memberOther
    exact (once.getElem_inj_iff).mp (isAttempt.trans (same.trans isOther.symm))

/-- What was printed is what was polled and given, under the ids of the clients. -/
structure Told (state : State S R) : Prop where
  once : state.server.polledClients.Nodup
  count : state.nextClientId = state.server.polledClients.length
  welcomed : state.printed.filterMap Line.welcomed = List.range state.nextClientId
  known : ∀ line ∈ state.printed, line.clientId < state.nextClientId
  heard : ∀ client ∈ state.everybody,
    state.heard client.id = state.server.heardFrom client.attempt
  said : ∀ client ∈ state.everybody,
    state.said client.id = state.server.saidTo client.attempt

/-- What is not printed and polls and gives nothing does not matter. -/
theorem Told.congr (told : Told state) (same : SameCalls state.server state'.server)
    (printed : state'.printed = state.printed)
    (nextClientId : state'.nextClientId = state.nextClientId) : Told state' where
  once := same.polledClients ▸ told.once
  count := by rw [nextClientId, same.polledClients, told.count]
  welcomed := by rw [printed, nextClientId, told.welcomed]
  known := by
    rw [printed, nextClientId]
    exact told.known
  heard := by
    simp only [State.heard, State.everybody, printed, same.polledClients, same.heardFrom]
    exact told.heard
  said := by
    simp only [State.said, State.everybody, printed, same.polledClients, same.saidTo]
    exact told.said

/-- What one more line tells of the clients: something of the one that it is about. -/
theorem filterMap_append_line {Told : Type} {tells : Nat → Line → Option Told}
    (silent : ∀ (line : Line) (id : Nat), line.clientId ≠ id → tells id line = none)
    (once : state.server.polledClients.Nodup) {client other : Client}
    (member : client ∈ state.everybody) (memberOther : other ∈ state.everybody)
    {line : Line} (about : line.clientId = client.id) (printed : List Line) :
    (printed ++ [line]).filterMap (tells other.id) =
      printed.filterMap (tells other.id) ++
        if client.attempt = other.attempt then (tells client.id line).toList else [] := by
  rw [List.filterMap_append]
  by_cases same : client.attempt = other.attempt
  · rw [if_pos same, (everybody_same once member memberOther).mpr same]
    cases told : tells other.id line <;> simp [told]
  · have different : line.clientId ≠ other.id := by
      intro sameId
      exact same ((everybody_same once member memberOther).mp (about ▸ sameId))
    simp [same, silent line other.id different]

/-- A line tells what was polled of its client, or given it. -/
theorem Told.adds (told : Told state) {client : Client} (member : client ∈ state.everybody)
    (line : Line) (about : line.clientId = client.id) (notNew : line.welcomed = none)
    (polled : state'.server.polledClients = state.server.polledClients)
    (heardFrom : ∀ attempt, state'.server.heardFrom attempt =
      state.server.heardFrom attempt ++
        if client.attempt = attempt then (line.heard client.id).toList else [])
    (saidTo : ∀ attempt, state'.server.saidTo attempt =
      state.server.saidTo attempt ++
        if client.attempt = attempt then (line.said client.id).toList else [])
    (printed : state'.printed = state.printed ++ [line])
    (nextClientId : state'.nextClientId = state.nextClientId) : Told state' := by
  have everybody : state'.everybody = state.everybody := by
    simp only [State.everybody, polled]
  constructor
  · exact polled ▸ told.once
  · rw [nextClientId, polled, told.count]
  · rw [printed, nextClientId, List.filterMap_append, told.welcomed]
    simp [notNew]
  · intro other isLine
    rw [printed, List.mem_append, List.mem_singleton] at isLine
    rw [nextClientId]
    rcases isLine with old | rfl
    · exact told.known other old
    · obtain ⟨inBounds, -⟩ := List.getElem?_eq_some_iff.mp (mem_everybody.mp member)
      rw [about, told.count]
      exact inBounds
  · intro other memberOther
    rw [everybody] at memberOther
    rw [State.heard, printed, filterMap_append_line
      (fun _ _ different => (Line.heard_of_ne different).1) told.once member memberOther about,
      heardFrom, ← told.heard other memberOther]
    rfl
  · intro other memberOther
    rw [everybody] at memberOther
    rw [State.said, printed, filterMap_append_line
      (fun _ _ different => (Line.heard_of_ne different).2) told.once member memberOther about,
      saidTo, ← told.said other memberOther]
    rfl

/-- A new client gets an id under which nothing was printed. -/
theorem Told.welcomes (told : Told state) {attempt : Nat}
    {server : Serving.State S MessageClientToServer R MessageServerToClient}
    (reachable : (Serving.system attempts build).Reachable state.server)
    (heardFrom : ∀ attempt, server.heardFrom attempt = state.server.heardFrom attempt)
    (saidTo : ∀ attempt, server.saidTo attempt = state.server.saidTo attempt)
    (polled : server.polledClients = state.server.polledClients ++ [attempt])
    (onceThen : server.polledClients.Nodup) :
    Told ({ state with server := server }.welcome (some attempt)) := by
  have notPolled : attempt ∉ state.server.polledClients := by
    rw [polled, List.nodup_append] at onceThen
    intro member
    exact onceThen.2.2 attempt member attempt (by simp) rfl
  obtain ⟨nothingHeard, nothingSaid⟩ := Serving.nothing_of_notPolled reachable notPolled
  have unknown : ∀ line ∈ state.printed, line.clientId ≠ state.nextClientId :=
    fun line isLine => Nat.ne_of_lt (told.known line isLine)
  have everybody : ∀ client, client ∈
      ({ state with server := server }.welcome (some attempt)).everybody ↔
        client ∈ state.everybody ∨
          client = { attempt := attempt, id := state.nextClientId } := by
    intro client
    have appended : ({ state with server := server }.welcome (some attempt)).everybody =
        state.everybody ++ [{ attempt := attempt, id := state.nextClientId }] := by
      simp [State.everybody, State.welcome, polled, told.count]
    rw [appended, List.mem_append, List.mem_singleton]
  constructor
  · exact onceThen
  · simp [State.welcome, polled, told.count]
  · simp [State.welcome, List.filterMap_append, told.welcomed, Line.welcomed,
      List.range_succ]
  · intro line isLine
    simp only [State.welcome, List.mem_append, List.mem_singleton] at isLine ⊢
    rcases isLine with old | rfl
    · exact Nat.lt_succ_of_lt (told.known line old)
    · exact Nat.lt_succ_self _
  · intro client member
    have same : ({ state with server := server }.welcome (some attempt)).heard client.id =
        state.heard client.id := by
      simp [State.heard, State.welcome, List.filterMap_append, Line.heard]
    rw [same]
    rcases (everybody client).mp member with old | rfl
    · exact (told.heard client old).trans (heardFrom client.attempt).symm
    · have nothing : state.heard state.nextClientId = [] := by
        rw [State.heard, List.filterMap_eq_nil_iff]
        intro line isLine
        exact (Line.heard_of_ne (unknown line isLine)).1
      exact nothing.trans ((heardFrom attempt).trans nothingHeard).symm
  · intro client member
    have same : ({ state with server := server }.welcome (some attempt)).said client.id =
        state.said client.id := by
      simp [State.said, State.welcome, List.filterMap_append, Line.said]
    rw [same]
    rcases (everybody client).mp member with old | rfl
    · exact (told.said client old).trans (saidTo client.attempt).symm
    · have nothing : state.said state.nextClientId = [] := by
        rw [State.said, List.filterMap_eq_nil_iff]
        intro line isLine
        exact (Line.heard_of_ne (unknown line isLine)).2
      exact nothing.trans ((saidTo attempt).trans nothingSaid).symm

/-! ## The list of the main loop -/

/-- The list has the clients that it should have, in the order in which they came, and
in the last loop those of them that are left. -/
structure Listed (state : State S R) : Prop where
  forgetting : state.phase.isPollingEvents = true →
    ∀ id ∈ state.disconnectedIds, state.reported id = true
  listed : state.clients <:+ state.everybody.filter state.staying
  whole : state.phase.isLast = false →
    state.clients = state.everybody.filter state.staying

theorem Listed.member (listed : Listed state) {client : Client}
    (member : client ∈ state.clients) :
    client ∈ state.everybody ∧ state.staying client = true :=
  List.mem_filter.mp (listed.listed.subset member)

/-- A step that neither welcomes nor removes clients. -/
theorem Listed.congr (listed : Listed state)
    (everybody : state'.everybody = state.everybody)
    (staying : ∀ client ∈ state.everybody, state'.staying client = state.staying client)
    (clients : state'.clients = state.clients)
    (last : state'.phase.isLast = false → state.phase.isLast = false)
    (forgetting : state'.phase.isPollingEvents = true →
      ∀ id ∈ state'.disconnectedIds, state'.reported id = true) : Listed state' := by
  have same : state'.everybody.filter state'.staying =
      state.everybody.filter state.staying := by
    rw [everybody]
    exact List.filter_congr staying
  constructor
  · exact forgetting
  · rw [clients, same]
    exact listed.listed
  · intro notLast
    rw [clients, same]
    exact listed.whole (last notLast)

theorem reported_congr {clientId : Nat}
    (same : state'.heard clientId = state.heard clientId) :
    state'.reported clientId = state.reported clientId := by
  rw [State.reported, same, State.reported]

/-- What the application heard of a client is what was printed of it before, and the
event of the line if it is about the client. -/
theorem heard_hear {client : Client} {place : Nat}
    {event : ClientOnServerEvent MessageClientToServer} (clientId : Nat) :
    (state.hear client place (some event)).heard clientId =
      state.heard clientId ++ if client.id = clientId then [event] else [] := by
  simp only [State.heard, State.hear, List.filterMap_append]
  congr 1
  by_cases same : client.id = clientId <;> simp [Line.heard_eventLine, same]

/-- The list does not depend on more of the server than the clients that were polled. -/
theorem Listed.server (listed : Listed state)
    {server : Serving.State S MessageClientToServer R MessageServerToClient}
    (polled : server.polledClients = state.server.polledClients) :
    Listed { state with server := server } := by
  apply listed.congr
  · simp only [State.everybody, polled]
  · intro client _
    rfl
  · rfl
  · exact id
  · exact listed.forgetting

/-- A disconnection is printed, and its client stays in the list until it is forgotten. -/
theorem Listed.hears (listed : Listed state) {place : Nat} {client : Client}
    {event : ClientOnServerEvent MessageClientToServer}
    (phase : state.phase = .pollingEvents place) (member : client ∈ state.clients) :
    Listed (state.hear client place (some event)) := by
  have reported (clientId : Nat) :
      (state.hear client place (some event)).reported clientId =
        (state.reported clientId || (decide (client.id = clientId) &&
          (serverSide MessageClientToServer).isDisconnected event)) := by
    rw [State.reported, heard_hear, List.any_append, State.reported]
    by_cases same : client.id = clientId <;> simp [same]
  have polling : (state.hear client place (some event)).phase.isPollingEvents = true := by
    simp [State.hear, phase, Phase.isPollingEvents]
  have disconnectedIds : (state.hear client place (some event)).disconnectedIds =
      state.disconnectedIds ++
        if (serverSide MessageClientToServer).isDisconnected event then [client.id] else [] :=
    rfl
  have pollingBefore : state.phase.isPollingEvents = true := by
    rw [phase]
    rfl
  have staying := (listed.member member).2
  simp only [State.staying, pollingBefore, Bool.true_and] at staying
  apply listed.congr
  · rfl
  · intro other _
    simp only [State.staying, reported, polling, pollingBefore, disconnectedIds, Bool.true_and]
    cases isDisconnected : (serverSide MessageClientToServer).isDisconnected event with
    | false => simp
    | true =>
        by_cases same : client.id = other.id
        · rw [same] at staying ⊢
          simpa using staying
        · have other' : ¬ other.id = client.id := fun isSame => same isSame.symm
          simp [same, other']
  · rfl
  · exact id
  · intro _ id isId
    rw [disconnectedIds, List.mem_append] at isId
    rw [reported]
    rcases isId with old | new
    · rw [listed.forgetting pollingBefore id old]
      rfl
    · cases isDisconnected : (serverSide MessageClientToServer).isDisconnected event with
      | true =>
          simp only [isDisconnected, if_true, List.mem_singleton] at new
          simp [new]
      | false => simp [isDisconnected] at new

/-- The clients whose disconnection was printed are forgotten, and no others. -/
theorem Listed.forgets (listed : Listed state) {place : Nat}
    (phase : state.phase = .pollingEvents place) :
    Listed { state with clients := state.clients.filter state.keeps, phase := .sending } := by
  have polling : state.phase.isPollingEvents = true := by
    rw [phase]
    rfl
  have whole : state.clients.filter state.keeps = state.everybody.filter
      ({ state with clients := state.clients.filter state.keeps, phase := .sending } :
        State S R).staying := by
    rw [listed.whole (by rw [phase]; rfl), List.filter_filter]
    apply List.filter_congr
    intro client _
    have told := listed.forgetting polling client.id
    simp only [State.keeps, State.staying, Phase.isPollingEvents, Bool.false_and,
      Bool.or_false]
    cases forgotten : state.disconnectedIds.contains client.id with
    | false => simp [State.reported, State.heard]
    | true =>
        have reported := told (by simpa using forgotten)
        simpa [State.reported, State.heard] using reported
  constructor
  · intro impossible
    cases impossible
  · rw [whole]
    exact List.suffix_rfl
  · intro _
    exact whole

/-- Outside the loop over the events the list only depends on what was printed of the
clients. -/
theorem Listed.outsideLoop (listed : Listed state)
    (polled : state'.server.polledClients = state.server.polledClients)
    (heard : ∀ clientId, state'.heard clientId = state.heard clientId)
    (clients : state'.clients = state.clients)
    (before : state.phase.isPollingEvents = false)
    (after : state'.phase.isPollingEvents = false)
    (last : state'.phase.isLast = false → state.phase.isLast = false) : Listed state' := by
  apply listed.congr
  · simp only [State.everybody, polled]
  · intro client _
    rw [State.staying, State.staying, reported_congr (heard client.id), before, after]
    rfl
  · exact clients
  · exact last
  · intro polling
    rw [after] at polling
    cases polling

/-- A new client comes last. -/
theorem Listed.welcomes (listed : Listed state) (told : Told state) {attempt : Nat}
    {server : Serving.State S MessageClientToServer R MessageServerToClient}
    (phase : state.phase = .pollingClients)
    (polled : server.polledClients = state.server.polledClients ++ [attempt]) :
    Listed ({ state with server := server }.welcome (some attempt)) := by
  have everybody : ({ state with server := server }.welcome (some attempt)).everybody =
      state.everybody ++ [{ attempt := attempt, id := state.nextClientId }] := by
    simp [State.everybody, State.welcome, polled, told.count]
  have heard (clientId : Nat) :
      ({ state with server := server }.welcome (some attempt)).heard clientId =
        state.heard clientId := by
    simp [State.heard, State.welcome, List.filterMap_append, Line.heard]
  have nothing : state.heard state.nextClientId = [] := by
    rw [State.heard, List.filterMap_eq_nil_iff]
    intro line isLine
    exact (Line.heard_of_ne (Nat.ne_of_lt (told.known line isLine))).1
  have staying (client : Client) :
      ({ state with server := server }.welcome (some attempt)).staying client =
        state.staying client := by
    rw [State.staying, State.staying, reported_congr (heard client.id)]
    simp [State.welcome, phase, Phase.isPollingEvents]
  have new : state.staying { attempt := attempt, id := state.nextClientId } = true := by
    simp [State.staying, State.reported, nothing]
  have whole : ({ state with server := server }.welcome (some attempt)).clients =
      ({ state with server := server }.welcome (some attempt)).everybody.filter
        ({ state with server := server }.welcome (some attempt)).staying := by
    rw [everybody, List.filter_congr fun client _ => staying client, List.filter_append,
      ← listed.whole (by rw [phase]; rfl)]
    simp [State.welcome, new]
  constructor
  · intro impossible
    simp [State.welcome, phase, Phase.isPollingEvents] at impossible
  · exact whole ▸ List.suffix_rfl
  · intro _
    exact whole

theorem Listed.turn (listed : Listed state) (told : Told state) (turn : Turn state state') :
    Listed state' := by
  cases turn with
  | quiet same => exact listed.server same.polledClients
  | welcomes phase _ _ polled => exact listed.welcomes told phase polled
  | nobodyNew phase same =>
      apply (listed.server same.polledClients).congr
      · rfl
      · intro client _
        simp [State.staying, State.welcome, phase, Phase.isPollingEvents, State.reported,
          State.heard]
      · rfl
      · simp [phase, Phase.isLast]
      · simp [State.welcome]
  | hears phase found _ _ polled =>
      exact (listed.server polled).hears phase (List.mem_of_getElem? found)
  | hearsNothing phase same =>
      apply (listed.server same.polledClients).congr
      · rfl
      · intro client _
        simp [State.staying, State.hear, phase, Phase.isPollingEvents, State.reported,
          State.heard]
      · rfl
      · simp [phase, Phase.isLast]
      · intro _
        exact listed.forgetting (by rw [phase]; rfl)
  | forgets phase same => exact (listed.server same.polledClients).forgets phase
  | sends phase member _ _ polled =>
      refine listed.outsideLoop polled ?_ rfl (by rw [phase]; rfl) rfl
        (by simp [phase, Phase.isLast])
      intro clientId
      simp [State.heard, List.filterMap_append, Line.heard]
  | sendsNothing phase =>
      exact listed.outsideLoop rfl (fun _ => rfl) rfl (by rw [phase]; rfl) rfl
        (by simp [phase, Phase.isLast])
  | @loadsHalt halt phase =>
      refine listed.outsideLoop rfl (fun _ => rfl) rfl (by rw [phase]; rfl) ?_
        (by simp [phase, Phase.isLast])
      cases halt <;> rfl
  | disconnects phase member same =>
      refine listed.outsideLoop same.polledClients ?_ rfl (by rw [phase]; rfl) rfl
        (by simp [Phase.isLast])
      intro clientId
      simp [State.heard, List.filterMap_append, Line.heard]
  | returns phase =>
      exact listed.outsideLoop rfl (fun _ => rfl) rfl (by rw [phase]; rfl) rfl
        (by simp [Phase.isLast])
  | @waited server client left phase first same =>
      have suffix : left <:+ state.everybody.filter state.staying := by
        have before := listed.listed
        rw [first] at before
        exact (List.suffix_cons client left).trans before
      have sameList : state.everybody.filter state.staying =
          ({ state with server := server, phase := .disconnecting, clients := left } :
            State S R).everybody.filter
          ({ state with server := server, phase := .disconnecting, clients := left } :
            State S R).staying := by
        simp only [State.everybody, same.polledClients]
        apply List.filter_congr
        intro other _
        simp [State.staying, phase, Phase.isPollingEvents, State.reported, State.heard]
      constructor
      · intro impossible
        cases impossible
      · exact sameList ▸ suffix
      · intro impossible
        cases impossible

/-- What was printed stays what was polled and given. -/
theorem Told.turn (told : Told state) (listed : Listed state)
    (reachable : (Serving.system attempts build).Reachable state.server)
    (reachableThen : (Serving.system attempts build).Reachable state'.server)
    (turn : Turn state state') : Told state' := by
  cases turn with
  | quiet same => exact told.congr same rfl rfl
  | welcomes phase heardFrom saidTo polled =>
      refine told.welcomes reachable heardFrom saidTo polled ?_
      exact (Serving.polledClients_increasing reachableThen).imp Nat.ne_of_lt
  | nobodyNew phase same => exact told.congr same rfl rfl
  | @hears server place client event phase found heardFrom saidTo polled =>
      have member := (listed.member (List.mem_of_getElem? found)).1
      refine told.adds member (State.eventLine client.id event)
        (Line.clientId_eventLine client.id event) (Line.welcomed_eventLine client.id event)
        polled ?_ ?_ rfl rfl
      · simpa [Line.heard_eventLine, State.hear] using heardFrom
      · simpa [Line.said_eventLine, State.hear] using saidTo
  | hearsNothing phase same => exact told.congr same rfl rfl
  | forgets phase same => exact told.congr same rfl rfl
  | sends phase member heardFrom saidTo polled =>
      refine told.adds (listed.member member).1 (.weSay _) rfl rfl polled ?_ ?_ rfl rfl
      · simpa [Line.heard] using heardFrom
      · simpa [Line.said] using saidTo
  | sendsNothing phase => exact told.congr ⟨fun _ => rfl, fun _ => rfl, rfl⟩ rfl rfl
  | loadsHalt phase => exact told.congr ⟨fun _ => rfl, fun _ => rfl, rfl⟩ rfl rfl
  | disconnects phase member same =>
      refine told.adds (listed.member member).1 (.disconnecting _) rfl rfl same.polledClients
        ?_ ?_ rfl rfl
      · simpa [Line.heard] using same.heardFrom
      · simpa [Line.said] using same.saidTo
  | returns phase => exact told.congr ⟨fun _ => rfl, fun _ => rfl, rfl⟩ rfl rfl
  | waited phase first same => exact told.congr same rfl rfl

/-- In every reachable state the console is in step with the calls, and the list with the
console. -/
theorem told_of_reachable (reachable : (system attempts build).Reachable state) :
    (Serving.system attempts build).Reachable state.server ∧ Told state ∧ Listed state := by
  refine reachable.invariant (fun state => (Serving.system attempts build).Reachable
    state.server ∧ Told state ∧ Listed state) ?_ ?_
  · refine ⟨System.Reachable.init, ?_, ?_⟩
    · exact ⟨List.nodup_nil, rfl, rfl, by simp [system, State.new],
        by simp [system, State.new, State.everybody, Serving.State.polledClients,
          Serving.State.new, Listener.new, Mpsc.channel, Mpsc.taken], by
        simp [system, State.new, State.everybody, Serving.State.polledClients,
          Serving.State.new, Listener.new, Mpsc.channel, Mpsc.taken]⟩
    · exact ⟨fun _ id isId => (List.not_mem_nil isId).elim, List.suffix_rfl, fun _ => rfl⟩
  · intro before action after _ holds stepped
    obtain ⟨reached, told, listed⟩ := holds
    obtain ⟨turn, reachedThen⟩ := turn_of_step reached stepped
    exact ⟨reachedThen, told.turn listed reached reachedThen turn, listed.turn told turn⟩

/-! ## Forgotten clients -/

/-- A client that was welcomed is not in the list. -/
def Forgotten (clientId : Nat) (state : State S R) : Prop :=
  clientId < state.nextClientId ∧ ∀ client ∈ state.clients, client.id ≠ clientId

/-- What is printed in a turn is not about a forgotten client, which stays forgotten. -/
theorem Forgotten.turn {clientId : Nat} (forgotten : Forgotten clientId state)
    (turn : Turn state state') :
    Forgotten clientId state' ∧ ∃ lines, state'.printed = state.printed ++ lines ∧
      ∀ line ∈ lines, line.clientId ≠ clientId := by
  obtain ⟨welcomed, notListed⟩ := forgotten
  have nothing : ∃ lines, state.printed = state.printed ++ lines ∧
      ∀ line ∈ lines, line.clientId ≠ clientId := ⟨[], by simp, by simp⟩
  cases turn with
  | quiet | nobodyNew | hearsNothing | sendsNothing | loadsHalt | returns =>
      exact ⟨⟨welcomed, notListed⟩, nothing⟩
  | welcomes =>
      refine ⟨⟨Nat.lt_succ_of_lt welcomed, ?_⟩, _, rfl, ?_⟩
      · intro client member
        simp only [State.welcome, List.mem_append, List.mem_singleton] at member
        rcases member with old | rfl
        · exact notListed client old
        · exact Nat.ne_of_gt welcomed
      · simpa [Line.clientId] using Nat.ne_of_gt welcomed
  | @hears _ _ client event _ found =>
      refine ⟨⟨welcomed, notListed⟩, _, rfl, ?_⟩
      simpa [Line.clientId_eventLine] using notListed client (List.mem_of_getElem? found)
  | forgets =>
      refine ⟨⟨welcomed, ?_⟩, nothing⟩
      intro client member
      exact notListed client (List.mem_of_mem_filter member)
  | sends _ member =>
      exact ⟨⟨welcomed, notListed⟩, _, rfl, by simpa [Line.clientId] using notListed _ member⟩
  | disconnects _ member =>
      exact ⟨⟨welcomed, notListed⟩, _, rfl, by simpa [Line.clientId] using notListed _ member⟩
  | waited _ first =>
      refine ⟨⟨welcomed, ?_⟩, nothing⟩
      intro client member
      exact notListed client (by rw [first]; exact List.mem_cons_of_mem _ member)

/-- In the rest of a run nothing is printed of a forgotten client. -/
theorem Forgotten.reaches {clientId : Nat} (forgotten : Forgotten clientId state)
    (reachable : (system attempts build).Reachable state)
    (reached : (system attempts build).Reaches System.always state state') :
    ∃ lines, state'.printed = state.printed ++ lines ∧
      ∀ line ∈ lines, line.clientId ≠ clientId := by
  refine (reached.invariant (fun later => Forgotten clientId later ∧ ∃ lines,
    later.printed = state.printed ++ lines ∧ ∀ line ∈ lines, line.clientId ≠ clientId)
    ⟨forgotten, [], by simp, by simp⟩ ?_).2
  intro before action after reachedBefore holds _ stepped
  obtain ⟨forgotten, lines, printed, others⟩ := holds
  have reachableBefore := reachable.reaches reachedBefore
  obtain ⟨turn, -⟩ := turn_of_step (told_of_reachable reachableBefore).1 stepped
  obtain ⟨still, more, printedMore, othersMore⟩ := forgotten.turn turn
  refine ⟨still, lines ++ more, by rw [printedMore, printed, List.append_assoc], ?_⟩
  intro line member
  rcases List.mem_append.mp member with old | new
  · exact others line old
  · exact othersMore line new

/-- What the example server prints is so.  The ids are given to the clients in the order
in which they are polled, and no line is about anybody else.  The lines about a client
tell all that was polled of it and given it, in that order, and so what it is said to
have said is among what its own application gave.  Outside the loop over the events,
which prints the rest of a client's events after its disconnection, the list has those
whose disconnection was not printed, until the last loop takes them from it, and of the
others nothing is printed in the rest of the run. -/
structure Truthful (attempts : List Handshake)
    (build : Build S MessageClientToServer R MessageServerToClient) (state : State S R) :
    Prop where
  welcomed : state.printed.filterMap Line.welcomed =
    List.range state.server.polledClients.length
  nobodyElse : ∀ line ∈ state.printed, line.clientId < state.server.polledClients.length
  heard : ∀ (id attempt : Nat) session, state.server.polledClients[id]? = some attempt →
    state.server.sessions[attempt]? = some session →
      state.heard id = Serving.polledEvents session ∧
        ((state.heard id).filterMap ClientOnServerEvent.payload).Subperm
          (Serving.givenByClient build session)
  said : ∀ (id attempt : Nat) session, state.server.polledClients[id]? = some attempt →
    state.server.sessions[attempt]? = some session →
      state.said id = session.sentMessages.map (·.message)
  listed : state.phase.isPollingEvents = false → state.phase.isLast = false →
    state.clients = state.everybody.filter fun client => !state.reported client.id
  silent : ∀ (id : Nat) later, state.phase.isPollingEvents = false →
    state.reported id = true → (system attempts build).Reaches System.always state later →
      ∃ lines, later.printed = state.printed ++ lines ∧ ∀ line ∈ lines, line.clientId ≠ id

end Warqueen.ExampleServer
