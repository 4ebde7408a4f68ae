import Warqueen.Client.Closing
import Warqueen.Receiving.Accounting

/-!
# The connection of a client

Whatever a client does, its connection takes only steps that the receiving half of
a connection takes, so that all that holds of every run of the receiving half holds
of the connection of every client.
-/

namespace Warqueen.Client

open Concurrency Quinn Receiving Sending

variable {S R : Type} {build : Build S R} {state state' : State S R} {action : Action S}

/-! ## Where the connection is -/

/-- There is a connection once the client was built, and none after an attempt that
failed.  A client comes out of the channel with its `Connected` event still to be
polled. -/
structure Established (state : State S R) : Prop where
  owned : Owned state
  failed : ∀ outcome, state.connectingTask = .answered outcome →
    outcome ≠ .connected → state.connection = none
  created : ∀ connected, state.connectingTask = .created connected →
    connected.connectedEventAlreadyPolled = false ∧ state.connection.isSome = true
  delivered : ∀ connected, state.connectedClient.value = some (.connected connected) →
    connected.connectedEventAlreadyPolled = false ∧ state.connection.isSome = true
  timedOut : state.connectedClient.value = some .timeout →
    state.connectingTask = .ended ∧ state.connection = none
  connected : state.IsConnected → state.connection.isSome = true
  unreached : ∀ whoClosed, state.networking = .disconnected whoClosed → whoClosed ≠ .us →
    state.connectingTask = .ended ∧ state.connection = none

theorem new_established : Established (State.new : State S R) where
  owned := new_owned
  failed := by simp [State.new]
  created := by simp [State.new]
  delivered := by simp [State.new, Oneshot.channel]
  timedOut := by simp [State.new, Oneshot.channel]
  connected := by simp [State.IsConnected, State.new]
  unreached := by simp [State.new]

@[simp] theorem State.dropConnected_isSome :
    state.dropConnected.connection.isSome = state.connection.isSome :=
  Option.isSome_map ..

@[simp] theorem State.close_isSome :
    state.close.connection.isSome = state.connection.isSome :=
  Option.isSome_map ..

/-- Whether there is a value tells whether there is none. -/
theorem eq_none_iff_of_isSome {α : Type} {one other : Option α}
    (same : one.isSome = other.isSome) : one = none ↔ other = none := by
  rw [← Option.not_isSome_iff_eq_none, ← Option.not_isSome_iff_eq_none, same]

/-- A transition that has nothing to do with the connecting task keeps what there is
of a connection. -/
theorem Established.congr (established : Established state) (owned : Owned state')
    (task : state'.connectingTask = state.connectingTask)
    (connection : state'.connection.isSome = state.connection.isSome)
    (delivered : ∀ outcome, state'.connectedClient.value = some outcome →
      state.connectedClient.value = some outcome)
    (connected : state'.IsConnected → state.connection.isSome = true)
    (unreached : ∀ whoClosed, state'.networking = .disconnected whoClosed →
      whoClosed ≠ .us → state.connectingTask = .ended ∧ state.connection = none) :
    Established state' := by
  have none_iff := eq_none_iff_of_isSome connection
  constructor
  · exact owned
  · rw [task, none_iff]
    exact established.failed
  · rw [task, connection]
    exact established.created
  · intro client value
    rw [connection]
    exact established.delivered client (delivered _ value)
  · intro value
    rw [task, none_iff]
    exact established.timedOut (delivered _ value)
  · rw [connection]
    exact connected
  · rw [task, none_iff]
    exact unreached

/-- The connecting task comes to its end, with or without an outcome. -/
theorem Established.finishes (established : Established state) (owned : Owned state')
    (isOver : state'.connectingTask.isOver = true)
    (networking : state'.networking = state.networking)
    (connection : state'.connection.isSome = state.connection.isSome)
    (notOver : state.connectingTask ≠ .ended)
    (delivered : ∀ client, state'.connectedClient.value = some (.connected client) →
      client.connectedEventAlreadyPolled = false ∧ state.connection.isSome = true)
    (timedOut : state'.connectedClient.value = some .timeout →
      state'.connectingTask = .ended ∧ state.connection = none) : Established state' := by
  have none_iff := eq_none_iff_of_isSome connection
  constructor
  · exact owned
  · intro outcome answered
    rw [answered] at isOver
    cases isOver
  · intro client created
    rw [created] at isOver
    cases isOver
  · rw [connection]
    exact delivered
  · rw [none_iff]
    exact timedOut
  · intro connected
    rw [connection]
    apply established.connected
    simp only [State.IsConnected] at connected ⊢
    rwa [networking] at connected
  · intro whoClosed disconnected notUs
    rw [networking] at disconnected
    exact absurd (established.unreached whoClosed disconnected notUs).1 notOver

/-- The attempt ends, and there is a connection if it was established. -/
theorem Established.endsAttempt (established : Established state) (outcome : AttemptOutcome)
    (attempting : state.Attempting) :
    Established
      { state with
        connectingTask := .answered outcome
        connection := if outcome = .connected then some .established else none } := by
  obtain ⟨notConnected, -, empty⟩ := established.owned.attempted attempting
  constructor
  · exact established.owned.endsAttempt outcome attempting
  · intro outcome' answered failed
    obtain rfl := ConnectingTask.answered.inj answered
    exact if_neg failed
  · simp
  · simp [empty]
  · simp [empty]
  · intro connected
    exact absurd connected notConnected
  · intro whoClosed disconnected notUs
    have ended := (established.unreached whoClosed disconnected notUs).1
    rw [attempting] at ended
    cases ended

/-- The client is built, with its `Connected` event still to be polled. -/
theorem Established.creates {connection connection' : Receiving.State (ClientEvent R)}
    (established : Established state) (answered : state.connectingTask = .answered .connected)
    (found : state.connection = some connection)
    (spawned : Receiving.step (clientSide R) build.decode connection .spawn =
      some connection') :
    Established
      { state with
        connection := some connection'
        connectingTask := .created { connectedEventAlreadyPolled := false } } := by
  constructor
  · exact established.owned.creates found spawned
  · simp
  · intro connected created
    obtain rfl := ConnectingTask.created.inj created
    exact ⟨rfl, rfl⟩
  · intro connected value
    exact ⟨(established.delivered connected value).1, rfl⟩
  · intro value
    have ended := (established.timedOut value).1
    rw [answered] at ended
    cases ended
  · intro _
    rfl
  · intro whoClosed disconnected notUs
    have ended := (established.unreached whoClosed disconnected notUs).1
    rw [answered] at ended
    cases ended

/-- Every transition keeps where the connection is. -/
theorem Established.transition (established : Established state)
    (transition : Transition build state action state') : Established state' := by
  have owned := established.owned.transition transition
  have noValue (channel : Oneshot ConnectedOrTimeout) (empty : channel.value = none)
      (outcome : ConnectedOrTimeout) (value : channel.value = some outcome) :
      state.connectedClient.value = some outcome := by
    rw [empty] at value
    cases value
  cases transition with
  | connects operation networking value =>
      exact established.congr owned rfl rfl (noValue _ rfl)
        (fun _ => (established.delivered _ value).2) (by simp)
  | timesOut operation networking value =>
      exact established.congr owned rfl rfl (noValue _ rfl) (by simp [State.IsConnected])
        fun _ _ _ => established.timedOut value
  | buffers networking value =>
      exact established.congr owned rfl rfl (fun _ => id) (by simp [State.IsConnected])
        (by simp)
  | sends networking =>
      exact established.congr owned rfl rfl (fun _ => id) established.connected
        established.unreached
  | pollsConnected networking notYet =>
      exact established.congr owned rfl rfl (fun _ => id)
        (fun _ => established.connected ⟨_, networking⟩) (by simp)
  | pollsQueue networking already found =>
      exact established.congr owned rfl (by simp [found]) (fun _ => id)
        established.connected established.unreached
  | pollsFailed networking =>
      exact established.congr owned rfl rfl (fun _ => id) (by simp [State.IsConnected])
        fun _ _ _ => established.unreached _ networking (by simp)
  | abandons networking kept =>
      refine established.congr owned rfl ?_ (noValue _ rfl) (by simp [State.IsConnected])
        (by simp)
      rcases kept with rfl | rfl
      · rfl
      · exact State.dropConnected_isSome
  | closes networking =>
      refine established.congr owned rfl ?_ (fun _ => id) (by simp [State.IsConnected])
        (by simp)
      exact State.dropConnected_isSome.trans State.close_isSome
  | endsAttempt attempting => exact established.endsAttempt _ attempting
  | creates answered found spawned => exact established.creates answered found spawned
  | delivers created | discards created =>
      refine established.finishes owned rfl rfl (by simp) (by simp [created]) ?_ ?_
      · intro client value
        rcases Oneshot.send_value_cases value with same | old
        · obtain rfl := ConnectedOrTimeout.connected.inj same
          exact established.created _ created
        · exact established.delivered client old
      · intro value
        rcases Oneshot.send_value_cases value with impossible | old
        · cases impossible
        · exact ⟨rfl, (established.timedOut old).2⟩
  | givesUp answered =>
      refine established.finishes owned rfl rfl rfl (by simp [answered]) ?_ ?_
      · intro client value
        rcases Oneshot.send_value_cases value with impossible | old
        · cases impossible
        · exact established.delivered client old
      · intro _
        exact ⟨rfl, established.failed _ answered (by simp)⟩
  | panics answered =>
      refine established.finishes owned rfl rfl rfl (by simp [answered])
        established.delivered ?_
      intro value
      have ended := (established.timedOut value).1
      rw [answered] at ended
      cases ended
  | receives isReceiving found stepped =>
      exact established.congr owned rfl (by simp [found]) (fun _ => id)
        established.connected established.unreached
  | dropsLastHandle =>
      exact established.congr owned rfl State.close_isSome (fun _ => id)
        established.connected established.unreached
  | refuses | resumes | drains | meets =>
      exact established.congr owned rfl rfl (fun _ => id) established.connected
        established.unreached

theorem established_of_reachable (reachable : (system build).Reachable state) :
    Established state :=
  reachable.invariant Established new_established fun _ _ _ _ established stepped =>
    keeps_of_transitions Established
      (fun _ _ established transition => established.transition transition)
      established stepped

/-! ## Runs of the connection -/

/-- The receiving half of a client, which is as good as new before there is one. -/
def State.receivingHalf (state : State S R) : Receiving.State (ClientEvent R) :=
  state.connection.getD .established

/-- The receiving half comes to be another one. -/
def Becomes (build : Build S R) (state state' : State S R) : Prop :=
  (Receiving.system (clientSide R) build.decode).Reaches System.always
    state.receivingHalf state'.receivingHalf

theorem becomes_of_same (same : state'.connection = state.connection) :
    Becomes build state state' := by
  simp only [Becomes, State.receivingHalf]
  rw [same]
  exact System.Reaches.refl

/-- A step of the receiving half. -/
theorem becomes_of_step {connection connection' : Receiving.State (ClientEvent R)}
    {receiving : Receiving.Action} (found : state.connection = some connection)
    (stepped : Receiving.step (clientSide R) build.decode connection receiving =
      some connection')
    (found' : state'.connection = some connection') : Becomes build state state' := by
  simp only [Becomes, State.receivingHalf]
  rw [found, found']
  exact System.Reaches.single trivial stepped

/-- The application polls the queue of events. -/
theorem becomes_poll {connection : Receiving.State (ClientEvent R)}
    (found : state.connection = some connection)
    (found' : state'.connection =
      some { connection with events := connection.events.tryRecv.2 }) :
    Becomes build state state' := by
  have polls : Receiving.step (clientSide R) build.decode connection .poll =
      some { connection with events := connection.events.tryRecv.2 } := rfl
  exact becomes_of_step found polls found'

/-- The receiver of the events is dropped. -/
theorem becomes_dropConnected (build : Build S R) (state : State S R) :
    Becomes build state state.dropConnected := by
  cases found : state.connection with
  | none => exact becomes_of_same (by simp [State.dropConnected, found])
  | some connection =>
      have drops : Receiving.step (clientSide R) build.decode connection .dropReceiver =
          some { connection with events := connection.events.dropReceiver } := rfl
      exact becomes_of_step found drops (by simp [State.dropConnected, found])

/-- The connection is closed on our side, or had ended before. -/
theorem becomes_close (build : Build S R) (state : State S R) :
    Becomes build state state.close := by
  cases found : state.connection with
  | none => exact becomes_of_same (by simp [State.close, found])
  | some connection =>
      cases closed : connection.closed with
      | none =>
          have loses : Receiving.step (clientSide R) build.decode connection
              (.lose .locallyClosed) =
                some { connection with closed := some .locallyClosed } := if_pos closed
          exact becomes_of_step found loses (by simp [State.close, found, closed])
      | some cause =>
          have same : { connection with closed := some cause } = connection := by
            rw [← closed]
          exact becomes_of_same (by simp [State.close, found, closed, same])

/-- Every transition of a client is a run of its receiving half. -/
theorem Transition.becomes (owned : Owned state)
    (transition : Transition build state action state') : Becomes build state state' := by
  cases transition with
  | pollsQueue networking already found => exact becomes_poll found rfl
  | abandons networking kept =>
      rcases kept with rfl | rfl
      · exact becomes_of_same rfl
      · exact becomes_dropConnected build state
  | closes =>
      exact (becomes_close build state).trans (becomes_dropConnected build state.close)
  | endsAttempt attempting =>
      have none := (owned.attempted attempting).2.1
      simp only [Becomes, State.receivingHalf]
      rw [none]
      split <;> exact System.Reaches.refl
  | creates answered found spawned => exact becomes_of_step found spawned rfl
  | discards => exact becomes_dropConnected build state
  | receives isReceiving found stepped => exact becomes_of_step found stepped rfl
  | dropsLastHandle => exact becomes_close build state
  | _ => exact becomes_of_same rfl

/-- A client refines the receiving half of its connection. -/
def connectionSimulation (build : Build S R) :
    Simulation (system build) System.always
      (Receiving.system (clientSide R) build.decode) System.always where
  related state receiving := Owned state ∧ state.receivingHalf = receiving
  init := ⟨new_owned, rfl⟩
  step := by
    intro before receiving action after related _ stepped
    have kept := keeps_of_transitions
      (fun state => Owned state ∧ Becomes build before state)
      (fun _ _ holds transition =>
        ⟨holds.1.transition transition, holds.2.trans (transition.becomes holds.1)⟩)
      ⟨related.1, System.Reaches.refl⟩ stepped
    exact ⟨after.receivingHalf, related.2 ▸ kept.2, kept.1, rfl⟩

/-- What a client queues for its polls is accounted for by its streams and by the
cause that ended its connection. -/
theorem connection_accounted (reachable : (system build).Reachable state)
    {connection : Receiving.State (ClientEvent R)}
    (found : state.connection = some connection) :
    Accounted (clientSide R) build.decode connection := by
  obtain ⟨receiving, reached, -, rfl⟩ := (connectionSimulation build).reaches reachable
  have accounted := accounted_of_reachable reached
  rwa [State.receivingHalf, found, Option.getD_some] at accounted

end Warqueen.Client
