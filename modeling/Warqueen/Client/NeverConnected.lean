import Warqueen.Client.Connection

/-!
# Messages of a client that never connected

The messages that wait in the buffer when the client leaves `Connecting` without a
connection are answered by `disconnect`, and dropped with their result senders by the
transition that notices the timeout.  A dropped sender reads as an error, so that the
answers agree when, and only when, the timeout finds the buffer empty.
-/

namespace Warqueen.Client

open Concurrency Quinn Receiving Sending

variable {S R : Type} {build : Build S R} {state state' : State S R} {action : Action S}

/-- While there has been no connection, every handle answers that its message is
still being sent, and once `Disconnected` all answer what belongs to the cause. -/
def FailsTheSameWay (state : State S R) : Prop :=
  state.connection = none →
    match state.networking with
    | .connecting _ => ∀ call ∈ state.calls, getState call.result = .stillBeingSent
    | .connected _ => False
    | .disconnected whoClosed =>
        ∀ call ∈ state.calls, getState call.result = .result whoClosed.sendingResult

/-- An operation that notices the timeout finds the buffer empty. -/
def noticesTimeoutUnbuffered (state : State S R) (action : Action S) : Prop :=
  action.isOperation = true → state.connectedClient.value = some .timeout →
    state.pendingSentMessages = []

/-- The calls that were answered before any connection. -/
structure Answered (state : State S R) : Prop where
  paired : Paired state
  established : Established state
  answered : ∀ whoClosed, state.networking = .disconnected whoClosed →
    state.connection = none →
      ∀ call ∈ state.calls, getState call.result = .result whoClosed.sendingResult

theorem new_answered : Answered (State.new : State S R) where
  paired := new_paired
  established := new_established
  answered := by simp [State.new]

@[simp] theorem getState_send (result : SendingResult) :
    getState (Oneshot.channel.send result) = .result result := rfl

theorem Answered.failsTheSameWay (answered : Answered state) : FailsTheSameWay state := by
  intro none
  cases networking : state.networking with
  | connecting connecting =>
      intro call member
      rw [(answered.paired.buffered connecting networking).2.2.2 call member]
      rfl
  | connected connected =>
      have some := answered.established.connected ⟨connected, networking⟩
      rw [none] at some
      cases some
  | disconnected whoClosed => exact answered.answered whoClosed networking none

/-- A client without a connection has no buffer once it left `Connecting`. -/
theorem noticesTimeoutUnbuffered_of_notConnecting (action : Action S)
    (notConnecting : ∀ connecting, state.networking ≠ .connecting connecting) :
    noticesTimeoutUnbuffered state action := by
  intro _ _
  simp only [State.pendingSentMessages]
  split
  next connecting networking => exact absurd networking (notConnecting connecting)
  next => rfl
  next => rfl

theorem Answered.transition (answered : Answered state)
    (allowed : noticesTimeoutUnbuffered state action)
    (transition : Transition build state action state') : Answered state' := by
  refine ⟨answered.paired.transition transition,
    answered.established.transition transition, ?_⟩
  intro whoClosed disconnected absent
  have lost {connection : Option (Receiving.State (ClientEvent R))}
      (same : connection.isSome = state.connection.isSome) (absent : connection = none) :
      state.connection = none := (eq_none_iff_of_isSome same).mp absent
  cases transition with
  | connects | pollsConnected | buffers => cases disconnected
  | timesOut operation networking value =>
      have empty := allowed operation value
      simp only [State.pendingSentMessages, networking] at empty
      have length := congrArg List.length
        (answered.paired.buffered _ networking).2.1
      simp only [empty, List.map_nil, List.length_nil, List.length_range] at length
      simp [empty, State.settlePending, List.length_eq_zero_iff.mp length.symm]
  | refuses networking =>
      obtain rfl := ClientNetworking.disconnected.inj (networking.symm.trans disconnected)
      intro call member
      rcases List.mem_append.mp member with old | isNew
      · exact answered.answered _ networking absent call old
      · rw [List.mem_singleton.mp isNew]
        exact getState_send _
  | sends networking =>
      rw [networking] at disconnected
      cases disconnected
  | pollsFailed networking =>
      obtain rfl := ClientNetworking.disconnected.inj disconnected
      intro call member
      exact answered.answered _ networking absent call member
  | abandons networking kept =>
      obtain rfl := ClientNetworking.disconnected.inj disconnected
      obtain ⟨-, senders, -, fresh⟩ := answered.paired.buffered _ networking
      intro call member
      rw [settlePending_range _ senders] at member
      obtain ⟨before, memberBefore, rfl⟩ := List.mem_map.mp member
      rw [fresh before memberBefore]
      exact getState_send _
  | closes networking =>
      have some := answered.established.connected ⟨_, networking⟩
      have absent := lost (State.dropConnected_isSome.trans State.close_isSome) absent
      rw [absent] at some
      cases some
  | endsAttempt attempting =>
      exact answered.answered whoClosed disconnected
        (answered.established.owned.attempted attempting).2.1
  | pollsQueue | creates | receives => cases absent
  | resumes found connected =>
      rw [absent] at connected
      cases connected
  | discards =>
      exact answered.answered whoClosed disconnected (lost State.dropConnected_isSome absent)
  | dropsLastHandle =>
      exact answered.answered whoClosed disconnected (lost State.close_isSome absent)
  | _ => exact answered.answered whoClosed disconnected absent

theorem Answered.step (answered : Answered state)
    (allowed : noticesTimeoutUnbuffered state action)
    (stepped : step build state action = some state') : Answered state' :=
  keeps_of_guarded_transitions (noticesTimeoutUnbuffered · action) Answered
    (fun _ notConnecting => noticesTimeoutUnbuffered_of_notConnecting action notConnecting)
    (fun _ _ answered allowed transition => answered.transition allowed transition)
    answered allowed stepped

/-! ## Timeouts noticed with messages in the buffer -/

/-- The transition that notices the timeout. -/
theorem connectIfPossible_of_timeout {connecting : ClientNetworkingConnecting S}
    (networking : state.networking = .connecting connecting)
    (value : state.connectedClient.value = some .timeout) :
    state.connectIfPossible =
      { state with
        networking := .disconnected (.thePeerDidntEvenConnect false)
        connectedClient := state.connectedClient.dropReceiver
        calls := State.settlePending .dropSender connecting.pendingSentMessages
          state.calls } := by
  simp [State.connectIfPossible, networking, State.connected, Oneshot.tryRecv, value,
    Oneshot.dropReceiver]

/-- The result senders of a buffer that is not empty are dropped. -/
theorem Paired.dropped_answer (paired : Paired state)
    {connecting : ClientNetworkingConnecting S}
    (networking : state.networking = .connecting connecting)
    (notEmpty : connecting.pendingSentMessages ≠ []) :
    ∃ call ∈ State.settlePending .dropSender connecting.pendingSentMessages state.calls,
      getState call.result = .result .error := by
  obtain ⟨-, senders, messages, fresh⟩ := paired.buffered connecting networking
  cases calls : state.calls with
  | nil => simp [calls, notEmpty] at messages
  | cons call rest =>
      rw [calls] at senders fresh
      rw [settlePending_range _ senders, List.map_cons]
      refine ⟨_, List.mem_cons_self, ?_⟩
      rw [fresh call List.mem_cons_self]
      rfl

/-- An operation that notices the timeout with messages in the buffer makes their
handles answer an error. -/
theorem error_of_noticed {before after : State S R} (paired : Paired before)
    (established : Established before) (noticed : ¬ noticesTimeoutUnbuffered before action)
    (stepped : step build before action = some after) : ¬ FailsTheSameWay after := by
  simp only [noticesTimeoutUnbuffered, not_forall] at noticed
  obtain ⟨operation, value, notEmpty⟩ := noticed
  obtain ⟨connecting, networking, notEmpty⟩ := connecting_of_pending notEmpty
  obtain ⟨call, member, error⟩ := paired.dropped_answer networking notEmpty
  have absent := (established.timedOut value).2
  have noticedState := connectIfPossible_of_timeout networking value
  intro sameWay
  cases action with
  | sendMessageToServer message =>
      obtain rfl := Option.some.inj stepped
      simp only [noticedState, State.sendMessage, FailsTheSameWay] at sameWay
      have agrees := sameWay absent call (List.mem_append_left _ member)
      rw [error] at agrees
      cases agrees
  | pollEventFromServer =>
      obtain rfl := Option.some.inj stepped
      simp only [noticedState, State.poll, State.pollEvent, FailsTheSameWay] at sameWay
      have agrees := sameWay absent call member
      rw [error] at agrees
      cases agrees
  | _ => cases operation

/-- A client whose connection is never established fails every message the same way
exactly in the runs in which the timeout is noticed with an empty buffer. -/
theorem fails_the_same_way_iff (build : Build S R) :
    (system build).Decides noticesTimeoutUnbuffered FailsTheSameWay where
  enough := by
    intro state reached
    have answered := reached.invariant Answered new_answered
      fun _ _ _ _ answered allowed stepped => answered.step allowed stepped
    exact answered.failsTheSameWay
  needed := by
    intro before action after reachable stepped noticed
    exact ⟨after, System.Reaches.refl, error_of_noticed (paired_of_reachable reachable)
      (established_of_reachable reachable) noticed stepped⟩

/-- One message before the timeout is noticed, and one after it. -/
def sendAroundTimeout : List (Action Bool) :=
  [.sendMessageToServer true, .endAttempt (.handshakeFailed .timedOut), .connectingTask,
    .pollEventFromServer, .sendMessageToServer false]

/-- The first message is answered with an error, the second with the loss of the
peer. -/
theorem buffered_message_fails_otherwise :
    ∃ state, (system booleans).run .new sendAroundTimeout = some state ∧
      state.networking = .disconnected (.thePeerDidntEvenConnect true) ∧
      state.calls.map (fun call => getState call.result) =
        [.result .error, .result .peerClosedOrDied] ∧
      ¬ FailsTheSameWay state := by
  refine ⟨_, rfl, rfl, rfl, ?_⟩
  intro sameWay
  have agrees := sameWay rfl _ List.mem_cons_self
  cases agrees

end Warqueen.Client
