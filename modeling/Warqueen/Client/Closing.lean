import Warqueen.Client.Buffering
import Warqueen.Receiving.Rest

/-!
# What `disconnect` closes

`disconnect` closes the connection of a `Connected` client.  A client that is still
`Connecting` only lets go of the channel: the attempt goes on, and the accept loop
of the connection that it brings, or has brought already, keeps a handle of its
own.  Nobody closes that connection any more.
-/

namespace Warqueen.Client

open Concurrency Quinn Receiving Sending

variable {S R : Type} {build : Build S R} {state state' : State S R} {action : Action S}

/-- The handle that `disconnect` returned has been waited for. -/
def WaitedFor (handle : HandleKind) (state : State S R) : Prop :=
  match handle with
  | .withoutBarrier => True
  | .withBarrier => ∃ disconnection, state.disconnection = some disconnection ∧
      disconnection.handle.holder = .gone ∧ disconnection.handle.waitedFor = true

/-- Once `disconnect` has returned and its handle has been waited for, the client
has no open connection in any state in which its tasks can do nothing more. -/
def DisconnectCloses (build : Build S R) (before : State S R) : Prop :=
  ∀ after, step build before .disconnect = some after →
    ∀ later, (system build).Reaches System.always after later →
      WaitedFor before.disconnect.1 later →
      (system build).Stuck Action.IsTask later → ¬ later.OpenConnection

/-- The connection attempt is still going on. -/
def State.Attempting (state : State S R) : Prop := state.connectingTask = .attempting

/-- The client is in the `Connected` state. -/
def State.IsConnected (state : State S R) : Prop :=
  ∃ connected, state.networking = .connected connected

/-! ## Who has what -/

/-- The connection is as it was for those who hold it, unless it has ended. -/
def Continues (connection connection' : Option (Receiving.State (ClientEvent R))) : Prop :=
  ∀ after, connection' = some after → ∃ before, connection = some before ∧
    (after.closed = none →
      before.closed = none ∧ after.acceptTask = before.acceptTask)

/-- The channel is empty and there is no connection during the attempt; a connection
has its accept loop as soon as the client was built; and only a client that was
`Connected` has sending tasks or a closing task, so that there is none on a
connection that is open or may come when the client is not `Connected`. -/
structure Owned (state : State S R) : Prop where
  attempted : state.Attempting → ¬ state.IsConnected ∧ state.connection = none ∧
    state.connectedClient.value = none
  unused : ¬ state.IsConnected → state.Attempting ∨ state.OpenConnection →
    state.sendings = [] ∧ state.disconnection = none
  accepting : ∀ connection, state.connection = some connection →
    connection.closed = none →
    connection.acceptTask =
      if state.connectingTask = .answered .connected then .notSpawned else .running

/-- No attempt goes on once the connecting task is over. -/
theorem not_attempting_of_isOver (isOver : state.connectingTask.isOver = true) :
    ¬ state.Attempting := by
  intro attempting
  rw [State.Attempting] at attempting
  rw [attempting] at isOver
  cases isOver

theorem new_owned : Owned (State.new : State S R) where
  attempted _ := ⟨by simp [State.IsConnected, State.new], rfl, rfl⟩
  unused _ _ := ⟨rfl, rfl⟩
  accepting := by simp [State.new]

theorem Continues.refl (connection : Option (Receiving.State (ClientEvent R))) :
    Continues connection connection :=
  fun after found => ⟨after, found, fun up => ⟨up, rfl⟩⟩

/-- Letting go of the events does nothing to the connection. -/
theorem continues_dropConnected :
    Continues state.connection state.dropConnected.connection := by
  intro after found
  obtain ⟨before, foundBefore, rfl⟩ := Option.map_eq_some_iff.mp found
  exact ⟨before, foundBefore, fun up => ⟨up, rfl⟩⟩

/-- A closed connection is not open. -/
theorem continues_close : Continues state.connection state.close.connection := by
  intro after found
  obtain ⟨before, foundBefore, rfl⟩ := Option.map_eq_some_iff.mp found
  refine ⟨before, foundBefore, ?_⟩
  intro up
  cases closed : before.closed <;> simp [closed] at up

theorem not_openConnection_close : ¬ state.close.OpenConnection := by
  intro isOpen
  obtain ⟨connection, found, up⟩ := isOpen
  obtain ⟨before, -, rfl⟩ := Option.map_eq_some_iff.mp found
  cases closed : before.closed <;> simp [closed] at up

/-- A step of the receiving half but its spawn continues the connection. -/
theorem continues_step {connection connection' : Receiving.State (ClientEvent R)}
    {receiving : Receiving.Action} (notSpawn : receiving ≠ .spawn)
    (stepped : Receiving.step (clientSide R) build.decode connection receiving =
      some connection') :
    Continues (some connection) (some connection') := by
  intro after same
  obtain rfl := Option.some.inj same
  refine ⟨connection, rfl, ?_⟩
  intro up
  refine ⟨?_, step_acceptTask notSpawn up stepped⟩
  by_contra ended
  obtain ⟨cause, closed⟩ := Option.ne_none_iff_exists'.mp ended
  rw [(step_of_closed closed stepped).1] at up
  cases up

/-- An open connection that continues another one. -/
theorem openConnection_of_continues
    (continues : Continues state.connection state'.connection)
    (isOpen : state'.OpenConnection) : state.OpenConnection := by
  obtain ⟨after, found, up⟩ := isOpen
  obtain ⟨before, foundBefore, kept⟩ := continues after found
  exact ⟨before, foundBefore, (kept up).1⟩

/-- A transition that keeps the client `Connected` or not, continues the connection,
and neither begins an attempt nor has to do with its success. -/
theorem Owned.congr (owned : Owned state)
    (connected : state'.IsConnected ↔ state.IsConnected)
    (attempting : state'.Attempting → state.Attempting)
    (answered : state'.connectingTask = .answered .connected ↔
      state.connectingTask = .answered .connected)
    (continues : Continues state.connection state'.connection)
    (value : state'.Attempting → state.connectedClient.value = none →
      state'.connectedClient.value = none)
    (unused : ¬ state.IsConnected → state.sendings = [] ∧ state.disconnection = none →
      state'.sendings = [] ∧ state'.disconnection = none) : Owned state' := by
  refine ⟨?_, ?_, ?_⟩
  · intro isAttempting
    obtain ⟨notConnected, none, empty⟩ := owned.attempted (attempting isAttempting)
    refine ⟨fun isConnected => notConnected (connected.mp isConnected), ?_,
      value isAttempting empty⟩
    cases found : state'.connection with
    | none => rfl
    | some after =>
        obtain ⟨before, foundBefore, -⟩ := continues after found
        simp [none] at foundBefore
  · intro notConnected mayBeOpen
    have notConnectedBefore : ¬ state.IsConnected := fun isConnected =>
      notConnected (connected.mpr isConnected)
    exact unused notConnectedBefore (owned.unused notConnectedBefore
      (mayBeOpen.imp attempting (openConnection_of_continues continues)))
  · intro connection found up
    obtain ⟨before, foundBefore, kept⟩ := continues connection found
    obtain ⟨upBefore, acceptTask⟩ := kept up
    rw [acceptTask, owned.accepting before foundBefore upBefore]
    simp only [answered]

/-- The connecting task comes to its end. -/
theorem Owned.finishes (owned : Owned state)
    (isOver : state'.connectingTask.isOver = true)
    (notAnswered : state.connectingTask ≠ .answered .connected)
    (networking : state'.networking = state.networking)
    (continues : Continues state.connection state'.connection)
    (sendings : state'.sendings = state.sendings)
    (disconnection : state'.disconnection = state.disconnection) : Owned state' := by
  have notAttempting := not_attempting_of_isOver isOver
  apply owned.congr
  · simp only [State.IsConnected, networking]
  · intro attempting
    exact absurd attempting notAttempting
  · apply iff_of_false _ notAnswered
    intro answered
    rw [answered] at isOver
    cases isOver
  · exact continues
  · intro attempting
    exact absurd attempting notAttempting
  · intro _ none
    rw [sendings, disconnection]
    exact none

theorem Owned.connects (owned : Owned state) (isConnected : state'.IsConnected)
    (task : state'.connectingTask = state.connectingTask)
    (connection : state'.connection = state.connection)
    (value : state.connectedClient.value ≠ none) : Owned state' where
  attempted attempting := absurd (owned.attempted (task.symm.trans attempting)).2.2 value
  unused notConnected := absurd isConnected notConnected
  accepting := by
    rw [task, connection]
    exact owned.accepting

/-- The attempt ends. -/
theorem Owned.endsAttempt (owned : Owned state) (outcome : AttemptOutcome)
    (attempting : state.Attempting) :
    Owned
      { state with
        connectingTask := .answered outcome
        connection := if outcome = .connected then some .established else none } where
  attempted impossible := by cases impossible
  unused notConnected _ := owned.unused notConnected (.inl attempting)
  accepting := by
    intro connection found _
    split at found
    next isConnected =>
      obtain rfl := Option.some.inj found
      simp [isConnected, Receiving.State.established]
    next => cases found

/-- The client is built and the accept loop spawned. -/
theorem Owned.creates (owned : Owned state)
    {connection connection' : Receiving.State (ClientEvent R)}
    {connected : ClientNetworkingConnected}
    (found : state.connection = some connection)
    (spawned : Receiving.step (clientSide R) build.decode connection .spawn =
      some connection') :
    Owned
      { state with
        connection := some connection'
        connectingTask := .created connected } := by
  simp only [Receiving.step, Option.ite_none_right_eq_some, Option.some.injEq] at spawned
  obtain ⟨-, rfl⟩ := spawned
  refine ⟨?_, ?_, ?_⟩
  · intro attempting
    cases attempting
  · intro notConnected mayBeOpen
    rcases mayBeOpen with attempting | isOpen
    · cases attempting
    · obtain ⟨after, found', up⟩ := isOpen
      obtain rfl := Option.some.inj found'
      exact owned.unused notConnected (.inr ⟨connection, found, up⟩)
  · intro after found' _
    obtain rfl := Option.some.inj found'
    simp

/-- Every transition keeps who has what. -/
theorem Owned.transition (owned : Owned state)
    (transition : Transition build state action state') : Owned state' := by
  cases transition with
  | connects operation networking value =>
      exact owned.connects ⟨_, rfl⟩ rfl rfl (by simp [value])
  | timesOut operation networking value =>
      exact owned.congr (by simp [State.IsConnected, networking]) id Iff.rfl (.refl _)
        (fun _ => fun _ => rfl) fun _ => id
  | abandons networking kept =>
      refine owned.congr (by simp [State.IsConnected, networking]) id Iff.rfl ?_
        (fun _ => fun _ => rfl) fun _ => id
      rcases kept with rfl | rfl
      · exact .refl _
      · exact continues_dropConnected
  | buffers networking value =>
      exact owned.congr (by simp [State.IsConnected, networking]) id Iff.rfl (.refl _)
        (fun _ => id) fun _ => id
  | sends networking =>
      exact owned.congr Iff.rfl id Iff.rfl (.refl _) (fun _ => id)
        fun notConnected => absurd ⟨_, networking⟩ notConnected
  | pollsConnected networking notYet =>
      exact owned.congr (by simp [State.IsConnected, networking]) id Iff.rfl (.refl _)
        (fun _ => id) fun _ => id
  | pollsFailed networking =>
      exact owned.congr (by simp [State.IsConnected, networking]) id Iff.rfl (.refl _)
        (fun _ => id) fun _ => id
  | pollsQueue networking already found =>
      refine owned.congr Iff.rfl id Iff.rfl ?_ (fun _ => id) fun _ => id
      rw [found]
      intro after same
      obtain rfl := Option.some.inj same
      exact ⟨_, rfl, fun up => ⟨up, rfl⟩⟩
  | closes networking =>
      have notAttempting : ¬ state.Attempting := fun attempting =>
        (owned.attempted attempting).1 ⟨_, networking⟩
      have notOpen : ¬ state.close.dropConnected.OpenConnection := fun isOpen =>
        not_openConnection_close (openConnection_of_continues continues_dropConnected isOpen)
      refine ⟨fun attempting => absurd attempting notAttempting, ?_, ?_⟩
      · intro _ mayBeOpen
        rcases mayBeOpen with attempting | isOpen
        · exact absurd attempting notAttempting
        · exact absurd isOpen notOpen
      · intro connection found up
        exact absurd ⟨connection, found, up⟩ notOpen
  | endsAttempt attempting => exact owned.endsAttempt _ attempting
  | creates answered found spawned => exact owned.creates found spawned
  | delivers created held =>
      exact owned.finishes rfl (by simp [created]) rfl (.refl _) rfl rfl
  | discards created dropped =>
      exact owned.finishes rfl (by simp [created]) rfl continues_dropConnected rfl rfl
  | givesUp answered =>
      exact owned.finishes rfl (by simp [answered]) rfl (.refl _) rfl rfl
  | panics answered notConnected notTimedOut =>
      exact owned.finishes rfl (by simp [answered, notConnected]) rfl (.refl _) rfl rfl
  | resumes =>
      exact owned.congr Iff.rfl id Iff.rfl (.refl _) (fun _ => id) (by simp)
  | receives isReceiving found stepped =>
      refine owned.congr Iff.rfl id Iff.rfl ?_ (fun _ => id) fun _ => id
      rw [found]
      refine continues_step ?_ stepped
      intro same
      subst same
      cases isReceiving
  | dropsLastHandle isOpen unheld =>
      exact owned.congr Iff.rfl id Iff.rfl continues_close (fun _ => id) fun _ => id
  | refuses | drains =>
      exact owned.congr Iff.rfl id Iff.rfl (.refl _) (fun _ => id) fun _ => id
  | meets isMeeting found meeting =>
      refine owned.congr Iff.rfl id Iff.rfl (.refl _) (fun _ => id) ?_
      intro _ unused
      obtain ⟨-, none⟩ := unused
      simp [none] at found

theorem owned_of_reachable (reachable : (system build).Reachable state) : Owned state :=
  reachable.invariant Owned new_owned fun _ _ _ _ owned stepped =>
    keeps_of_transitions Owned (fun _ _ owned transition => owned.transition transition)
      owned stepped

/-! ## Clients that have nothing open any more -/

/-- Without an attempt and an open connection there is never one again. -/
theorem Transition.nothingOpen (transition : Transition build state action state')
    (nothing : ¬ state.Attempting ∧ ¬ state.OpenConnection) :
    ¬ state'.Attempting ∧ ¬ state'.OpenConnection := by
  have continued (continues : Continues state.connection state'.connection) :
      ¬ state'.OpenConnection := fun isOpen =>
    nothing.2 (openConnection_of_continues continues isOpen)
  cases transition with
  | endsAttempt attempting => exact absurd attempting nothing.1
  | creates answered found spawned =>
      have isTask : Receiving.Action.spawn.IsTask := trivial
      constructor
      · intro attempting
        cases attempting
      · intro isOpen
        obtain ⟨after, found', up⟩ := isOpen
        obtain rfl := Option.some.inj found'
        exact nothing.2 ⟨_, found, (step_closed_of_task isTask spawned).symm.trans up⟩
  | delivers | givesUp | panics =>
      exact ⟨not_attempting_of_isOver rfl, continued (.refl _)⟩
  | discards =>
      exact ⟨not_attempting_of_isOver rfl, continued continues_dropConnected⟩
  | abandons networking kept =>
      refine ⟨nothing.1, continued ?_⟩
      rcases kept with rfl | rfl
      · exact .refl _
      · exact continues_dropConnected
  | closes =>
      refine ⟨nothing.1, fun isOpen => ?_⟩
      exact not_openConnection_close
        (openConnection_of_continues continues_dropConnected isOpen)
  | pollsQueue networking already found =>
      refine ⟨nothing.1, continued ?_⟩
      rw [found]
      intro after same
      obtain rfl := Option.some.inj same
      exact ⟨_, rfl, fun up => ⟨up, rfl⟩⟩
  | receives isReceiving found stepped =>
      refine ⟨nothing.1, continued ?_⟩
      rw [found]
      refine continues_step ?_ stepped
      intro same
      subst same
      cases isReceiving
  | dropsLastHandle => exact ⟨nothing.1, not_openConnection_close⟩
  | _ => exact nothing

theorem disconnectCloses_of_nothingOpen
    (nothing : ¬ state.disconnect.2.Attempting ∧ ¬ state.disconnect.2.OpenConnection) :
    DisconnectCloses build state := by
  intro after stepped later reached _ _
  obtain rfl := Option.some.inj stepped
  have nothingLater := reached.invariant
    (fun later => ¬ later.Attempting ∧ ¬ later.OpenConnection) nothing
    (fun _ _ _ _ nothing _ stepped =>
      keeps_of_transitions
        (fun state : State S R => ¬ state.Attempting ∧ ¬ state.OpenConnection)
        (fun _ _ nothing transition => transition.nothingOpen nothing) nothing stepped)
  exact nothingLater.2

/-- `disconnect` closes the connection of a `Connected` client, and leaves nothing
open where nothing was. -/
theorem Owned.disconnectCloses (owned : Owned state)
    (closable : state.IsConnected ∨ ¬ state.Attempting ∧ ¬ state.OpenConnection) :
    DisconnectCloses build state := by
  apply disconnectCloses_of_nothingOpen
  rcases closable with ⟨connected, networking⟩ | nothing
  · have notAttempting : ¬ state.Attempting := fun attempting =>
      (owned.attempted attempting).1 ⟨connected, networking⟩
    simp only [State.disconnect, networking]
    refine ⟨notAttempting, fun isOpen => ?_⟩
    exact not_openConnection_close
      (openConnection_of_continues continues_dropConnected isOpen)
  · rcases disconnect_transition build state with ⟨-, same⟩ | transition
    · rw [same]
      exact nothing
    · exact transition.nothingOpen nothing

/-! ## Clients that leave a connection behind -/

/-- How many steps the connecting task can still take once the attempt has ended. -/
def ConnectingTask.stepsLeft : ConnectingTask → Nat
  | .answered _ => 2
  | .created _ => 1
  | .attempting | .ended | .panicked => 0

/-- How many steps the connecting task and the receiving tasks can still take. -/
def State.stepsLeft (state : State S R) : Nat :=
  state.connectingTask.stepsLeft +
    match state.connection with
    | some connection => connection.stepsLeft
    | none => 0

/-- The labels of the connecting task and of the receiving tasks. -/
def Action.IsReceiving : Action S → Prop
  | .connectingTask => True
  | .receiving action => action.IsTask
  | _ => False

/-- Every step of these tasks leaves them fewer steps. -/
theorem step_stepsLeft (isReceiving : action.IsReceiving)
    (stepped : step build state action = some state') :
    state'.stepsLeft < state.stepsLeft := by
  cases action with
  | connectingTask =>
      cases resumeConnecting_transition stepped with
      | connects operation | timesOut operation => cases operation
      | meets isMeeting => cases isMeeting
      | creates answered found spawned =>
          have isTask : Receiving.Action.spawn.IsTask := trivial
          have less := Receiving.step_stepsLeft isTask spawned
          simp only [State.stepsLeft, found, answered, ConnectingTask.stepsLeft]
          omega
      | delivers created => simp [State.stepsLeft, created, ConnectingTask.stepsLeft]
      | discards created =>
          simp only [State.stepsLeft, created, ConnectingTask.stepsLeft, State.dropConnected]
          cases state.connection <;> simp [Receiving.State.stepsLeft]
      | givesUp answered | panics answered =>
          simp [State.stepsLeft, answered, ConnectingTask.stepsLeft]
  | receiving receiving =>
      simp only [step, Option.ite_none_right_eq_some] at stepped
      obtain ⟨-, steps⟩ := stepped
      obtain ⟨connection', received, rfl⟩ := Option.map_eq_some_iff.mp steps
      obtain ⟨connection, found, stepped⟩ := Option.bind_eq_some_iff.mp received
      have less := Receiving.step_stepsLeft isReceiving stepped
      simp only [State.stepsLeft, found]
      exact Nat.add_lt_add_left less _
  | _ => exact isReceiving.elim

/-- A `Disconnected` client whose connection is open. -/
structure LeftOpen (state : State S R) : Prop where
  disconnected : ∃ whoClosed, state.networking = .disconnected whoClosed
  isOpen : state.OpenConnection

theorem LeftOpen.step (leftOpen : LeftOpen state) (isReceiving : action.IsReceiving)
    (stepped : step build state action = some state') : LeftOpen state' := by
  obtain ⟨disconnected, connection, found, up⟩ := leftOpen
  cases action with
  | connectingTask =>
      cases resumeConnecting_transition stepped with
      | connects operation | timesOut operation => cases operation
      | meets isMeeting => cases isMeeting
      | creates answered found' spawned =>
          obtain rfl := Option.some.inj (found.symm.trans found')
          have isTask : Receiving.Action.spawn.IsTask := trivial
          exact ⟨disconnected, _, rfl, (step_closed_of_task isTask spawned).trans up⟩
      | discards created =>
          exact ⟨disconnected, _, congrArg (Option.map _) found, up⟩
      | delivers | givesUp | panics => exact ⟨disconnected, connection, found, up⟩
  | receiving receiving =>
      simp only [Client.step, Option.ite_none_right_eq_some] at stepped
      obtain ⟨-, steps⟩ := stepped
      obtain ⟨connection', received, rfl⟩ := Option.map_eq_some_iff.mp steps
      obtain ⟨before, foundBefore, stepped⟩ := Option.bind_eq_some_iff.mp received
      obtain rfl := Option.some.inj (found.symm.trans foundBefore)
      exact ⟨disconnected, connection', rfl,
        (step_closed_of_task isReceiving stepped).trans up⟩
  | _ => exact isReceiving.elim

/-- The accept loop runs once the connecting task has nothing more to do. -/
theorem Owned.running (owned : Owned state)
    (stuck : state.resumeConnecting build = none)
    {connection : Receiving.State (ClientEvent R)}
    (found : state.connection = some connection) (up : connection.closed = none) :
    connection.acceptTask = .running := by
  have accepting := owned.accepting connection found up
  split at accepting
  next answered =>
    simp [State.resumeConnecting, answered, found, Receiving.step, accepting] at stuck
  next => exact accepting

/-- The tasks of a client that left its connection open come to rest, and the
connection is still open. -/
theorem LeftOpen.comes_to_rest (leftOpen : LeftOpen state)
    (reachable : (system build).Reachable state) :
    ∃ rest, (system build).Reaches System.always state rest ∧
      (system build).Stuck Action.IsTask rest ∧ rest.OpenConnection := by
  have decreases (before : State S R) (action : Action S) (after : State S R)
      (isReceiving : action.IsReceiving)
      (stepped : (system build).step before action = some after) :
      after.stepsLeft < before.stepsLeft := step_stepsLeft isReceiving stepped
  obtain ⟨rest, reached, stuck⟩ :=
    System.exists_stuck Action.IsReceiving State.stepsLeft decreases state
  have leftOpenRest := reached.invariant LeftOpen leftOpen
    fun _ _ _ _ leftOpen isReceiving stepped => leftOpen.step isReceiving stepped
  obtain ⟨⟨whoClosed, disconnected⟩, isOpen⟩ := leftOpenRest
  have owned := owned_of_reachable (reachable.reaches reached)
  have notConnected : ¬ rest.IsConnected := by simp [State.IsConnected, disconnected]
  obtain ⟨none, notClosing⟩ := owned.unused notConnected (.inr isOpen)
  obtain ⟨connection, found, up⟩ := isOpen
  have running := owned.running (stuck .connectingTask trivial) found up
  refine ⟨rest, reached.always, ?_, connection, found, up⟩
  intro action isTask
  cases action with
  | connectingTask => exact stuck .connectingTask trivial
  | receiving receiving => exact stuck (.receiving receiving) isTask
  | sendingTask => simp [system, Client.step, State.resumeSending, none]
  | closingTask => simp [system, Client.step, notClosing]
  | drain => simp [system, Client.step, found, up]
  | dropLastHandle => simp [system, Client.step, State.connectionHeld, found, running]
  | _ => exact isTask.elim

/-- What `disconnect` does to a client that is not `Connected`. -/
theorem disconnect_of_not_connected (notConnected : ¬ state.IsConnected) :
    state.disconnect.1 = .withoutBarrier ∧
      (∃ whoClosed, state.disconnect.2.networking = .disconnected whoClosed) ∧
      state.disconnect.2.connectingTask = state.connectingTask ∧
      (state.OpenConnection → state.disconnect.2.OpenConnection) := by
  simp only [State.disconnect]
  split
  next connecting networking =>
    refine ⟨rfl, ⟨_, rfl⟩, ?_, ?_⟩
    · split <;> rfl
    · intro isOpen
      obtain ⟨connection, found, up⟩ := isOpen
      split
      · exact ⟨_, congrArg (Option.map _) found, up⟩
      · exact ⟨connection, found, up⟩
  next connected networking => exact absurd ⟨connected, networking⟩ notConnected
  next whoClosed networking => exact ⟨rfl, ⟨whoClosed, networking⟩, rfl, id⟩

/-- A client that disconnects while the attempt goes on, or with an open connection
that it does not know of, leaves a connection open. -/
theorem leaves_open (reachable : (system build).Reachable state)
    (notConnected : ¬ state.IsConnected)
    (mayBeOpen : state.Attempting ∨ state.OpenConnection) :
    ¬ DisconnectCloses build state := by
  intro closes
  have stepped : (system build).step state .disconnect = some state.disconnect.2 := rfl
  obtain ⟨waitedFor, disconnected, task, kept⟩ := disconnect_of_not_connected notConnected
  obtain ⟨opened, reached, leftOpen⟩ :
      ∃ opened, (system build).Reaches System.always state.disconnect.2 opened ∧
        LeftOpen opened := by
    rcases mayBeOpen with attempting | isOpen
    · have ends : (system build).step state.disconnect.2 (.endAttempt .connected) =
          some { state.disconnect.2 with
            connectingTask := .answered .connected
            connection := some .established } := if_pos (task.trans attempting)
      exact ⟨_, System.Reaches.single trivial ends, disconnected, _, rfl, rfl⟩
    · exact ⟨_, System.Reaches.refl, disconnected, kept isOpen⟩
  obtain ⟨rest, reachedRest, stuck, isOpen⟩ :=
    leftOpen.comes_to_rest ((reachable.step stepped).reaches reached)
  refine closes _ rfl rest (reached.trans reachedRest) ?_ stuck isOpen
  rw [waitedFor]
  trivial

theorem disconnectCloses_iff (reachable : (system build).Reachable state) :
    DisconnectCloses build state ↔
      state.IsConnected ∨ ¬ state.Attempting ∧ ¬ state.OpenConnection := by
  constructor
  · intro closes
    by_contra notClosable
    obtain ⟨notConnected, notNothing⟩ := not_or.mp notClosable
    have mayBeOpen := (not_and_or.mp notNothing).imp not_not.mp not_not.mp
    exact leaves_open reachable notConnected mayBeOpen closes
  · exact (owned_of_reachable reachable).disconnectCloses

/-- In every reachable state, `disconnect` leaves no open connection behind if and
only if the client is `Connected`, or has no attempt going on and no open connection. -/
theorem disconnect_closes_iff (build : Build S R) (before : State S R)
    (reachable : (system build).Reachable before) :
    DisconnectCloses build before ↔
      (∃ connected, before.networking = .connected connected) ∨
        before.connectingTask ≠ .attempting ∧ ¬ before.OpenConnection :=
  disconnectCloses_iff reachable

/-- A client whose connection is established and waits in the channel. -/
def State.inChannel : State S R :=
  { State.new with
    connectedClient := Oneshot.channel.send
      (.connected { connectedEventAlreadyPolled := false })
    connectingTask := .ended
    connection := some { Receiving.State.established with acceptTask := .running } }

theorem inChannel_reachable : (system build).Reachable .inChannel := by
  have ran : (system build).run .new [.endAttempt .connected, .connectingTask,
      .connectingTask] = some .inChannel := rfl
  exact System.reachable_of_run ran

/-- After a poll that makes the transition to `Connected`, `disconnect` closes. -/
theorem disconnect_closes_once_connected :
    DisconnectCloses booleans State.inChannel.connectIfPossible.poll := by
  have polls : (system booleans).step .inChannel .pollEventFromServer =
      some State.inChannel.connectIfPossible.poll := rfl
  exact (disconnect_closes_iff booleans _ (inChannel_reachable.step polls)).mpr
    (.inl ⟨_, rfl⟩)

/-- A client that disconnects at once leaves the connection open that the attempt
brings later, and so does one whose connection waits in the channel. -/
theorem disconnect_while_connecting_leaves_open :
    ¬ DisconnectCloses booleans .new ∧ ¬ DisconnectCloses booleans .inChannel := by
  constructor
  · refine leaves_open System.Reachable.init ?_ (.inl rfl)
    intro isConnected
    obtain ⟨connected, ⟨⟩⟩ := isConnected
  · refine leaves_open inChannel_reachable ?_ (.inr ⟨_, rfl, rfl⟩)
    intro isConnected
    obtain ⟨connected, ⟨⟩⟩ := isConnected

end Warqueen.Client
