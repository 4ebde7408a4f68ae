import Warqueen.Serving.Clients

/-!
# What the application of a server polls and gives

The events that the application polled of an attempt, the messages that it gave it, and
the clients that it polled grow by what its calls poll and give, and by nothing else
that happens at a server.
-/

namespace Warqueen.Serving

open Concurrency Quinn Receiving Sending Server Session

variable {S S' R R' : Type} {attempts : List Handshake} {build : Build S S' R R'}
variable {state state' : State S S' R R'} {action : Action S R'}
variable {session session' : Session.State S S' R R'}

/-! ## The two ends of an attempt -/

/-- The events that the server's application polled. -/
def polledEvents (session : Session.State S S' R R') : List (ClientOnServerEvent S') :=
  (session.server.map (·.polled)).getD []

/-- What a poll of the server's application finds. -/
def pollFinds (session : Session.State S S' R R') : Option (ClientOnServerEvent S') :=
  session.server.bind fun server => server.connection.events.tryRecv.1.map Prod.snd

/-- What a call of the server's application polls. -/
def polledBy (session : Session.State S S' R R') :
    Session.Action S R' → List (ClientOnServerEvent S')
  | .server .pollEventFromClient => (pollFinds session).toList
  | _ => []

/-- A step of the two ends adds what it polls. -/
theorem polledEvents_step {acting : Session.Action S R'}
    (stepped : Session.step build session acting = some session') :
    polledEvents session' = polledEvents session ++ polledBy session acting := by
  cases Session.sessionStep_of_step stepped with
  | client stepped => simp [polledEvents, polledBy, stepped.server]
  | newClientOnServer _ notYet =>
      simp [polledEvents, polledBy, notYet, ClientOnServer.State.new]
  | @server call server _ found stepped =>
      obtain ⟨-, server', found', stepped⟩ := stepped.server
      simp only [polledEvents, found, found', Option.map_some, Option.getD_some]
      cases call with
      | sendMessageToClient | disconnect | drop =>
          simp only [ClientOnServer.system, ClientOnServer.step,
            Option.ite_none_right_eq_some, Option.some.injEq] at stepped
          obtain ⟨-, rfl⟩ := stepped
          exact (List.append_nil _).symm
      | pollEventFromClient =>
          simp only [ClientOnServer.system, ClientOnServer.step,
            Option.ite_none_right_eq_some, Option.some.injEq] at stepped
          obtain ⟨-, rfl⟩ := stepped
          simp [polledBy, pollFinds, found, ClientOnServer.State.pollEventFromClient]
      | sendingTask index answer =>
          obtain ⟨sent, phase, -, -, -, rfl⟩ :=
            ClientOnServer.State.resumeSending_eq_some stepped
          exact (List.append_nil _).symm
      | receiving receiving =>
          obtain ⟨connection, rfl, -, -⟩ := ClientOnServer.receiving_cases stepped
          exact (List.append_nil _).symm

/-- A server's end that was just built has nothing, and a dropped one what it had. -/
theorem serve_keeps {listenerHeld : Bool}
    (serves : serve build listenerHeld session = some session') :
    polledEvents session' = polledEvents session ∧
      session'.sentMessages.map (·.message) = session.sentMessages.map (·.message) := by
  obtain ⟨newSession, builds, serves⟩ := Option.bind_eq_some_iff.mp serves
  have built := polledEvents_step builds
  have given := Session.sentMessages_step builds
  split at serves
  · obtain rfl := Option.some.inj serves
    exact ⟨by simpa [polledBy] using built, by simpa [givenToServer] using given⟩
  · have dropped := polledEvents_step serves
    have stillGiven := Session.sentMessages_step serves
    rw [dropped, built, stillGiven, given]
    simp [polledBy, givenToServer]

theorem dropClient_keeps :
    polledEvents (dropClient build session) = polledEvents session ∧
      (dropClient build session).sentMessages.map (·.message) =
        session.sentMessages.map (·.message) := by
  simp only [dropClient]
  cases drops : Session.step build session (.server .drop) with
  | none => exact ⟨rfl, rfl⟩
  | some dropped =>
      rw [Option.getD_some, polledEvents_step drops, Session.sentMessages_step drops]
      simp [polledBy, givenToServer]

/-! ## The whole server -/

namespace State

/-- The events that the application polled of an attempt. -/
def heardFrom (state : State S S' R R') (attempt : Nat) : List (ClientOnServerEvent S') :=
  ((state.sessions[attempt]?).map polledEvents).getD []

/-- The messages that the application gave an attempt. -/
def saidTo (state : State S S' R R') (attempt : Nat) : List R' :=
  ((state.sessions[attempt]?).map fun session =>
    session.sentMessages.map (·.message)).getD []

/-- What a poll of the events of an attempt finds. -/
def nextEvent (state : State S S' R R') (attempt : Nat) : Option (ClientOnServerEvent S') :=
  (state.sessions[attempt]?).bind pollFinds

/-- What a poll of the new clients finds. -/
def nextClient (state : State S S' R R') : Option Nat := state.listener.clients.tryRecv.1

/-- What a step polls of an attempt. -/
def hears (state : State S S' R R') (attempt : Nat) :
    Action S R' → List (ClientOnServerEvent S')
  | .session index acting =>
      if index = attempt then
        ((state.sessions[attempt]?).map fun session => polledBy session acting).getD []
      else []
  | .listener _ => []

/-- What a step polls of the listener. -/
def welcomes (state : State S S' R R') : Action S R' → List Nat
  | .listener .pollClient => state.nextClient.toList
  | _ => []

end State

/-- What a step gives an attempt. -/
def gives (attempt : Nat) : Action S R' → List R'
  | .session index acting => if index = attempt then givenToServer [acting] else []
  | .listener _ => []

/-- A poll of the events of a client hears what there is. -/
theorem hears_poll (attempt index : Nat) :
    state.hears attempt (.session index (.server .pollEventFromClient) : Action S R') =
      if index = attempt then (state.nextEvent index).toList else [] := by
  simp only [State.hears, State.nextEvent]
  split
  next same =>
    subst same
    cases state.sessions[index]? <;> rfl
  next => rfl

/-- The two ends of an attempt have what they had, and what the call adds. -/
theorem AttemptStep.adds {attempt : Nat}
    (found : state.sessions[attempt]? = some session)
    (changed : AttemptStep attempts build state attempt session action session') :
    polledEvents session' = polledEvents session ++ state.hears attempt action ∧
      session'.sentMessages.map (·.message) =
        session.sentMessages.map (·.message) ++ gives attempt action := by
  cases changed with
  | same notConcerned =>
      cases action with
      | listener => simp [State.hears, gives]
      | session index acting =>
          have different : index ≠ attempt := notConcerned
          simp [State.hears, gives, different]
  | served _ _ serves => simpa [State.hears, gives] using serve_keeps serves
  | dropped => simpa [State.hears, gives] using dropClient_keeps
  | own _ stepped =>
      rw [polledEvents_step stepped, Session.sentMessages_step stepped]
      simp [State.hears, gives, found]

/-- The two ends of an attempt before and after a step, or there is no such attempt. -/
theorem attempt_cases (stepped : step attempts build state action = some state')
    (attempt : Nat) :
    (∃ session session', state.sessions[attempt]? = some session ∧
        state'.sessions[attempt]? = some session' ∧
        AttemptStep attempts build state attempt session action session') ∨
      state.sessions[attempt]? = none ∧ state'.sessions[attempt]? = none ∧
        ∀ acting, action ≠ .session attempt acting := by
  have parts := stepped_of_step stepped
  cases found : state.sessions[attempt]? with
  | some session =>
      obtain ⟨session', found', changed⟩ := parts.sessions attempt session found
      exact .inl ⟨session, session', rfl, found', changed⟩
  | none =>
      refine .inr ⟨rfl, ?_, ?_⟩
      · rw [List.getElem?_eq_none_iff] at found ⊢
        rw [parts.length]
        exact found
      · intro acting isSession
        subst isSession
        simp [step, stepSession, found] at stepped

/-- The application has heard of an attempt what it polled of it. -/
theorem heardFrom_step (stepped : step attempts build state action = some state')
    (attempt : Nat) :
    state'.heardFrom attempt = state.heardFrom attempt ++ state.hears attempt action := by
  rcases attempt_cases stepped attempt with ⟨session, session', found, found', changed⟩ |
    ⟨none, none', notSession⟩
  · simp only [State.heardFrom, found, found', Option.map_some, Option.getD_some]
    exact (changed.adds found).1
  · have nothing : state.hears attempt action = [] := by
      cases action with
      | listener => rfl
      | session index acting => simp [State.hears, none]
    simp [State.heardFrom, none, none', nothing]

/-- The application has said to an attempt what it gave it. -/
theorem saidTo_step (stepped : step attempts build state action = some state')
    (attempt : Nat) :
    state'.saidTo attempt = state.saidTo attempt ++ gives attempt action := by
  rcases attempt_cases stepped attempt with ⟨session, session', found, found', changed⟩ |
    ⟨none, none', notSession⟩
  · simp only [State.saidTo, found, found', Option.map_some, Option.getD_some]
    exact (changed.adds found).2
  · have nothing : gives attempt action = [] := by
      cases action with
      | listener => rfl
      | session index acting =>
          have different : index ≠ attempt := by
            intro same
            exact notSession acting (same ▸ rfl)
          simp [gives, different]
    simp [State.saidTo, none, none', nothing]

/-- The application has the clients that it polled. -/
theorem polledClients_step (stepped : step attempts build state action = some state')
    (bounded : state.listener.clients.Bounded) :
    state'.polledClients = state.polledClients ++ state.welcomes action := by
  rcases (stepped_of_step stepped).queue with ⟨⟨attempt, acting, rfl⟩, same⟩ |
    ⟨acting, rfl, changed⟩
  · simp [State.polledClients, State.welcomes, same]
  · simp only [State.polledClients]
    generalize state'.listener.clients = clients at changed ⊢
    cases changed with
    | same notPolling =>
        have nothing : state.welcomes (.listener acting : Action S R') = [] := by
          cases acting <;> first | rfl | exact absurd rfl notPolling
        rw [nothing, List.append_nil]
    | queued => rw [bounded.send_taken]; simp [State.welcomes]
    | polled => exact Mpsc.tryRecv_taken _
    | dropped => simp [State.welcomes]

/-- Of an attempt whose client it did not poll, the application has heard nothing, and it
has said nothing to it. -/
theorem nothing_of_notPolled (reachable : (system attempts build).Reachable state)
    {attempt : Nat} (notPolled : attempt ∉ state.polledClients) :
    state.heardFrom attempt = [] ∧ state.saidTo attempt = [] := by
  cases found : state.sessions[attempt]? with
  | none => simp [State.heardFrom, State.saidTo, found]
  | some session =>
      have untouched :=
        (owned_of_reachable reachable).untouched attempt session found notPolled
      cases hasServer : session.server with
      | none =>
          simp [State.heardFrom, State.saidTo, found, polledEvents,
            Session.State.sentMessages, hasServer]
      | some server =>
          obtain ⟨polled, messages⟩ := untouched server hasServer
          simp [State.heardFrom, State.saidTo, found, polledEvents,
            Session.State.sentMessages, hasServer, polled, messages]

end Warqueen.Serving
