import Warqueen.Server.Listener
import Warqueen.Session.Exchange

/-!
# A server and its clients

A listener with the attempts that are made on it, and for every attempt the two ends
of its connection.  The accept task builds the server's end when the handshake of the
attempt succeeds, and queues it; the application calls only the clients that it polled.
When the listener is dropped, the clients that are still in its queue are dropped too.
-/

namespace Warqueen.Serving

open Concurrency Quinn Receiving Sending Server Session

/-- A listener and the ends of the connections of its attempts. -/
structure State (S S' R R' : Type) where
  listener : Listener
  sessions : List (Session.State S S' R R')
  deriving DecidableEq

/-- The steps of the listener, and those of the two ends of an attempt. -/
inductive Action (S R' : Type) where
  | listener (action : ListenerAction)
  | session (attempt : Nat) (action : Session.Action S R')
  deriving DecidableEq

/-- The label is a call of the application on a client of the server, or its drop. -/
def isCall {R' : Type} : ClientOnServer.Action R' → Bool
  | .sendMessageToClient _ | .pollEventFromClient | .disconnect | .drop => true
  | .sendingTask _ _ | .receiving _ => false

/-- A listener that was just created, before the attempts that will be made on it. -/
def State.new {S S' R R' : Type} (attempts : List Handshake) : State S S' R R' :=
  { listener := .new, sessions := attempts.map fun _ => .new }

section Step

variable {S S' R R' : Type} (attempts : List Handshake) (build : Build S S' R R')

namespace State

variable (state : State S S' R R')

/-- The clients that the application polled. -/
def polledClients : List Nat := state.listener.clients.taken

/-- The clients that are queued and that nobody polled. -/
def waitingClients : List Nat :=
  state.listener.clients.sent.drop state.listener.clients.received

/-- Whether a step of the two ends can be taken: the server's end is only built by the
accept task, and the application only has the clients that it polled. -/
def allows (attempt : Nat) : Session.Action S R' → Bool
  | .client _ => true
  | .newClientOnServer => false
  | .server action => !isCall action || state.polledClients.contains attempt

end State

/-- `ClientOnServerNetworking::new` in the accept task.  What cannot be sent to the
listener, which was dropped, is dropped with the error that `unwrap` finds. -/
def serve (listenerHeld : Bool) (session : Session.State S S' R R') :
    Option (Session.State S S' R R') :=
  (Session.step build session .newClientOnServer).bind fun session =>
    if listenerHeld then some session else Session.step build session (.server .drop)

/-- The server's end, if there is one, is dropped. -/
def dropClient (session : Session.State S S' R R') : Session.State S S' R R' :=
  (Session.step build session (.server .drop)).getD session

/-- The handshake that the accept task awaits is over. -/
def finishHandshake (state : State S S' R R') (attempt : Nat) (listener : Listener) :
    Option (State S S' R R') :=
  if (attempts[attempt]?).any Handshake.succeeds then
    (state.sessions[attempt]?).bind fun session =>
      (serve build state.listener.clients.receiverHeld session).map fun session =>
        { listener := listener, sessions := state.sessions.set attempt session }
  else some { state with listener := listener }

/-- A step of the listener, with what it does to the ends of the connections. -/
def stepListener (state : State S S' R R') (action : ListenerAction) :
    Option (State S S' R R') :=
  (state.listener.step attempts action).bind fun listener =>
    match action, state.listener.acceptTask with
    | .handshake, .handshaking attempt => finishHandshake attempts build state attempt listener
    | .pollClient, _ =>
        if state.listener.clients.receiverHeld then some { state with listener := listener }
        else none
    | .drop, _ =>
        if state.listener.clients.receiverHeld then
          some
            { listener := listener
              sessions := state.sessions.mapIdx fun attempt session =>
                if state.waitingClients.contains attempt then dropClient build session
                else session }
        else none
    | _, _ => some { state with listener := listener }

/-- A step of the two ends of an attempt. -/
def stepSession (state : State S S' R R') (attempt : Nat) (action : Session.Action S R') :
    Option (State S S' R R') :=
  if state.allows attempt action then
    (state.sessions[attempt]?).bind fun session =>
      (Session.step build session action).map fun session =>
        { state with sessions := state.sessions.set attempt session }
  else none

/-- The step function of a server and its clients. -/
def step (state : State S S' R R') : Action S R' → Option (State S S' R R')
  | .listener action => stepListener attempts build state action
  | .session attempt action => stepSession build state attempt action

/-- A server and its clients as a system. -/
def system : System (State S S' R R') (Action S R') where
  init := .new attempts
  step := step attempts build

end Step

/-! ## What a step does -/

variable {S S' R R' : Type} {attempts : List Handshake} {build : Build S S' R R'}
variable {state state' : State S S' R R'} {action : Action S R'} {attempt : Nat}

/-- The label concerns the two ends of an attempt. -/
def Concerns (attempts : List Handshake) (state : State S S' R R') (attempt : Nat) :
    Action S R' → Prop
  | .session index _ => index = attempt
  | .listener .handshake => state.listener.acceptTask = .handshaking attempt ∧
      (attempts[attempt]?).any Handshake.succeeds = true
  | .listener .drop => attempt ∈ state.waitingClients
  | .listener _ => False

/-- What a step does to the two ends of an attempt. -/
inductive AttemptStep (attempts : List Handshake) (build : Build S S' R R')
    (state : State S S' R R') (attempt : Nat) (session : Session.State S S' R R') :
    Action S R' → Session.State S S' R R' → Prop where
  | same {action : Action S R'} (notConcerned : ¬ Concerns attempts state attempt action) :
      AttemptStep attempts build state attempt session action session
  | served {session' : Session.State S S' R R'}
      (handshaking : state.listener.acceptTask = .handshaking attempt)
      (succeeds : (attempts[attempt]?).any Handshake.succeeds = true)
      (serves : serve build state.listener.clients.receiverHeld session = some session') :
      AttemptStep attempts build state attempt session (.listener .handshake) session'
  | dropped (waiting : attempt ∈ state.waitingClients) :
      AttemptStep attempts build state attempt session (.listener .drop)
        (dropClient build session)
  | own {action : Session.Action S R'} {session' : Session.State S S' R R'}
      (allowed : state.allows attempt action = true)
      (stepped : Session.step build session action = some session') :
      AttemptStep attempts build state attempt session (.session attempt action) session'

/-- The listener and each session under a step. -/
structure Stepped (attempts : List Handshake) (build : Build S S' R R')
    (state : State S S' R R') (action : Action S R') (state' : State S S' R R') : Prop where
  listener : (∃ attempt acting, action = .session attempt acting) ∧
      state'.listener = state.listener ∨
    ∃ acting, action = .listener acting ∧
      state.listener.step attempts acting = some state'.listener
  sessions : ∀ (attempt : Nat) session, state.sessions[attempt]? = some session →
    ∃ session', state'.sessions[attempt]? = some session' ∧
      AttemptStep attempts build state attempt session action session'
  length : state'.sessions.length = state.sessions.length

/-- A change of one session is a step of it, and of no other. -/
theorem sessions_set {index : Nat} {sessionBefore session : Session.State S S' R R'}
    (found : state.sessions[index]? = some sessionBefore)
    (changed : AttemptStep attempts build state index sessionBefore action session)
    (onlyOne : ∀ attempt, Concerns attempts state attempt action → index = attempt)
    (attempt : Nat) (other : Session.State S S' R R')
    (foundOther : state.sessions[attempt]? = some other) :
    ∃ session', (state.sessions.set index session)[attempt]? = some session' ∧
      AttemptStep attempts build state attempt other action session' := by
  by_cases same : index = attempt
  · subst same
    obtain rfl := Option.some.inj (found.symm.trans foundOther)
    have inBounds := (List.getElem?_eq_some_iff.mp found).1
    exact ⟨session, List.getElem?_set_self inBounds, changed⟩
  · exact ⟨other, (List.getElem?_set_ne same).trans foundOther,
      .same fun concerns => same (onlyOne attempt concerns)⟩

theorem stepped_of_step (stepped : step attempts build state action = some state') :
    Stepped attempts build state action state' := by
  cases action with
  | session index acting =>
      simp only [step, stepSession, Option.ite_none_right_eq_some] at stepped
      obtain ⟨allowed, stepped⟩ := stepped
      obtain ⟨session, found, stepped⟩ := Option.bind_eq_some_iff.mp stepped
      obtain ⟨session', steps, rfl⟩ := Option.map_eq_some_iff.mp stepped
      exact
        { listener := .inl ⟨⟨_, _, rfl⟩, rfl⟩
          sessions := sessions_set found (.own allowed steps) fun _ => id
          length := List.length_set }
  | listener acting =>
      simp only [step, stepListener] at stepped
      obtain ⟨listener, steps, stepped⟩ := Option.bind_eq_some_iff.mp stepped
      have kept (before : state'.sessions = state.sessions)
          (concernsNone : ∀ attempt, ¬ Concerns attempts state attempt
            (.listener acting : Action S R'))
          (attempt : Nat) (session : Session.State S S' R R')
          (found : state.sessions[attempt]? = some session) :
          ∃ session', state'.sessions[attempt]? = some session' ∧
            AttemptStep attempts build state attempt session (.listener acting) session' :=
        ⟨session, before ▸ found, .same (concernsNone attempt)⟩
      split at stepped
      next attempt _ handshaking _ =>
        simp only [finishHandshake] at stepped
        split at stepped
        next succeeds =>
          obtain ⟨session, found, stepped⟩ := Option.bind_eq_some_iff.mp stepped
          obtain ⟨session', serves, rfl⟩ := Option.map_eq_some_iff.mp stepped
          refine
            { listener := .inr ⟨_, rfl, steps⟩
              sessions := sessions_set found (.served handshaking succeeds serves) ?_
              length := List.length_set }
          intro other concerns
          exact AcceptTask.handshaking.inj (handshaking.symm.trans concerns.1)
        next fails =>
          obtain rfl := Option.some.inj stepped
          refine
            { listener := .inr ⟨_, rfl, steps⟩
              sessions := kept rfl ?_
              length := rfl }
          intro other concerns
          obtain rfl := AcceptTask.handshaking.inj (handshaking.symm.trans concerns.1)
          exact fails concerns.2
      next =>
        simp only [Option.ite_none_right_eq_some, Option.some.injEq] at stepped
        obtain ⟨-, rfl⟩ := stepped
        exact
          { listener := .inr ⟨_, rfl, steps⟩
            sessions := kept rfl fun _ => id
            length := rfl }
      next =>
        simp only [Option.ite_none_right_eq_some, Option.some.injEq] at stepped
        obtain ⟨-, rfl⟩ := stepped
        refine
          { listener := .inr ⟨_, rfl, steps⟩
            sessions := ?_
            length := List.length_mapIdx }
        intro attempt session found
        refine ⟨_, by rw [List.getElem?_mapIdx, found]; rfl, ?_⟩
        by_cases waiting : attempt ∈ state.waitingClients
        · have dropped : AttemptStep attempts build state attempt session (.listener .drop)
              (dropClient build session) := .dropped waiting
          simpa [waiting] using dropped
        · have same : AttemptStep attempts build state attempt session (.listener .drop)
              session := .same waiting
          simpa [waiting] using same
      next acting _ _ _ notDropping _ notServing =>
        obtain rfl := Option.some.inj stepped
        refine
          { listener := .inr ⟨_, rfl, steps⟩
            sessions := kept rfl ?_
            length := rfl }
        intro attempt concerns
        cases acting with
        | handshake => exact notServing attempt rfl concerns.1
        | drop => exact notDropping rfl
        | openEndpoint | arrive | accept | pollClient => exact concerns

theorem reaches_of_session {session session' : Session.State S S' R R'}
    {acting : Session.Action S R'}
    (stepped : Session.step build session acting = some session') :
    (Session.system build).Reaches System.always session session' :=
  System.Reaches.single trivial stepped

/-- What a step does to the ends of an attempt they can do by themselves. -/
theorem AttemptStep.reaches {session session' : Session.State S S' R R'}
    (changed : AttemptStep attempts build state attempt session action session') :
    (Session.system build).Reaches System.always session session' := by
  cases changed with
  | same => exact System.Reaches.refl
  | served _ _ serves =>
      obtain ⟨newSession, builds, serves⟩ := Option.bind_eq_some_iff.mp serves
      have built := reaches_of_session builds
      split at serves
      · obtain rfl := Option.some.inj serves
        exact built
      · exact built.trans (reaches_of_session serves)
  | dropped =>
      simp only [dropClient]
      cases drops : Session.step build session (.server .drop) with
      | none => exact System.Reaches.refl
      | some dropped => exact reaches_of_session drops
  | own _ stepped => exact reaches_of_session stepped

end Warqueen.Serving
