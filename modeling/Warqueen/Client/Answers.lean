import Warqueen.Client.Buffering
import Warqueen.Client.Closing

/-!
# What the handles of a client answer

The calls of a client that have a sending task answer what the task left them, in the
order of the calls.  The others, which were never started, are never answered with
`SendingResult::Sent`.
-/

namespace Warqueen.Client

open Concurrency Quinn Receiving Sending

variable {S R : Type} {build : Build S R} {state state' : State S R} {action : Action S}

/-- The calls without a task are not answered with `SendingResult::Sent`; the
connecting task is over once its client is known; and both receivers, of the channel
and of the events, are held until the client is `Disconnected`. -/
structure Decided (state : State S R) : Prop where
  paired : Paired state
  unstarted : ∀ (index : Nat) (call : Call S), state.sendings.length ≤ index →
    state.calls[index]? = some call → getState call.result ≠ .result .sent
  taskOver : state.IsConnected ∨ state.connectedClient.value.isSome = true →
    state.connectingTask.isOver = true
  channelHeld : ∀ connecting, state.networking = .connecting connecting →
    state.connectedClient.receiverHeld = true
  eventsHeld : ∀ connection, state.connection = some connection →
    (∀ whoClosed, state.networking ≠ .disconnected whoClosed) →
      connection.events.receiverHeld = true

theorem new_decided : Decided (State.new : State S R) where
  paired := new_paired
  unstarted := by simp [State.new]
  taskOver := by simp [State.new, State.IsConnected, Oneshot.channel]
  channelHeld := by simp [State.new, Oneshot.channel]
  eventsHeld := by simp [State.new]

theorem sendingResult_ne_sent (whoClosed : WhoClosed) :
    whoClosed.sendingResult ≠ .sent := by
  cases whoClosed <;> simp [WhoClosed.sendingResult]

/-- Every transition keeps the calls without a task unsent. -/
theorem Transition.unstarted (decided : Decided state)
    (transition : Transition build state action state') (index : Nat) (call : Call S)
    (later : state'.sendings.length ≤ index) (found : state'.calls[index]? = some call) :
    getState call.result ≠ .result .sent := by
  have pairedAfter := decided.paired.transition transition
  have allStarted (connected : state'.IsConnected) : False := by
    obtain ⟨connected, networking⟩ := connected
    have inBounds := (List.getElem?_eq_some_iff.mp found).1
    have length := pairedAfter.started connected networking
    omega
  cases transition with
  | connects | sends networking | pollsConnected networking | pollsQueue networking =>
      exact (allStarted ⟨_, by first | rfl | exact networking⟩).elim
  | timesOut operation networking | abandons networking =>
      obtain ⟨none, senders, -, fresh⟩ := decided.paired.buffered _ networking
      rw [settlePending_range _ senders, List.getElem?_map] at found
      obtain ⟨before, foundBefore, rfl⟩ := Option.map_eq_some_iff.mp found
      simp [fresh before (List.mem_of_getElem? foundBefore), getState, Oneshot.dropSender,
        Oneshot.send, Oneshot.channel, Oneshot.tryRecv]
  | buffers networking =>
      rcases getElem?_concat_eq_some.mp found with old | ⟨-, rfl⟩
      · exact decided.unstarted index call later old
      · simp [getState, Oneshot.channel, Oneshot.tryRecv]
  | @refuses message whoClosed networking =>
      rcases getElem?_concat_eq_some.mp found with old | ⟨-, rfl⟩
      · exact decided.unstarted index call later old
      · simpa [getState, Oneshot.send, Oneshot.channel, Oneshot.tryRecv] using
          sendingResult_ne_sent whoClosed
  | @resumes own _ sending phase _ foundSending _ _ resumed =>
      have sender := (decided.paired.carried _ _ foundSending).1
      have inBounds := (List.getElem?_eq_some_iff.mp foundSending).1
      rw [List.length_set] at later
      have different : sending.resultSender ≠ index := by omega
      simp only [List.getElem?_modify, different, if_false, id_map'] at found
      exact decided.unstarted index call later found
  | _ => exact decided.unstarted index call later found

/-- Every transition keeps the connecting task over once its client is known. -/
theorem Transition.taskOver (decided : Decided state)
    (transition : Transition build state action state')
    (known : state'.IsConnected ∨ state'.connectedClient.value.isSome = true) :
    state'.connectingTask.isOver = true := by
  cases transition with
  | connects operation networking value | timesOut operation networking value =>
      exact decided.taskOver (.inr (by simp [value]))
  | pollsConnected networking => exact decided.taskOver (.inl ⟨_, networking⟩)
  | pollsFailed | closes | buffers =>
      apply decided.taskOver
      rcases known with ⟨connected, networking⟩ | value
      · cases networking
      · exact .inr value
  | abandons =>
      rcases known with ⟨connected, networking⟩ | value
      · cases networking
      · cases value
  | endsAttempt attempting =>
      have taskOver := decided.taskOver known
      rw [attempting] at taskOver
      cases taskOver
  | creates answered =>
      have taskOver := decided.taskOver known
      rw [answered] at taskOver
      cases taskOver
  | delivers | discards | givesUp | panics => rfl
  | _ => exact decided.taskOver known

/-- Every transition that ends in `Connecting` keeps the channel. -/
theorem Transition.channelHeld (decided : Decided state)
    (transition : Transition build state action state')
    {connecting : ClientNetworkingConnecting S}
    (networking : state'.networking = .connecting connecting) :
    state'.connectedClient.receiverHeld = true := by
  have sends (channel : Oneshot ConnectedOrTimeout) (value : ConnectedOrTimeout)
      (held : channel.receiverHeld = true) : (channel.send value).receiverHeld = true := by
    simp [Oneshot.send, held]
  cases transition with
  | connects | timesOut | pollsConnected | pollsFailed | abandons | closes => cases networking
  | buffers before => exact decided.channelHeld _ before
  | delivers | discards | givesUp => exact sends _ _ (decided.channelHeld _ networking)
  | _ => exact decided.channelHeld _ networking

/-- Every transition that does not end in `Disconnected` keeps the events. -/
theorem Transition.eventsHeld (decided : Decided state)
    (transition : Transition build state action state')
    {connection : Receiving.State (ClientEvent R)}
    (found : state'.connection = some connection)
    (notDisconnected : ∀ whoClosed, state'.networking ≠ .disconnected whoClosed) :
    connection.events.receiverHeld = true := by
  cases transition with
  | connects operation networking | pollsConnected networking =>
      exact decided.eventsHeld connection found (by simp [networking])
  | buffers networking => exact decided.eventsHeld connection found (by simp [networking])
  | timesOut | abandons | closes | pollsFailed => exact absurd rfl (notDisconnected _)
  | pollsQueue networking already foundBefore =>
      obtain rfl := Option.some.inj found
      rw [Mpsc.tryRecv_receiverHeld]
      exact decided.eventsHeld _ foundBefore notDisconnected
  | endsAttempt =>
      split at found
      · obtain rfl := Option.some.inj found
        rfl
      · cases found
  | creates answered foundBefore spawned =>
      obtain rfl := Option.some.inj found
      rw [step_receiverHeld (by simp) spawned]
      exact decided.eventsHeld _ foundBefore notDisconnected
  | discards created dropped =>
      cases networking : state.networking with
      | connecting connecting =>
          rw [decided.channelHeld connecting networking] at dropped
          cases dropped
      | connected connected =>
          have taskOver := decided.taskOver (.inl ⟨connected, networking⟩)
          rw [created] at taskOver
          cases taskOver
      | disconnected whoClosed => exact absurd networking (notDisconnected whoClosed)
  | @receives receiving _ _ isReceiving foundBefore stepped =>
      obtain rfl := Option.some.inj found
      have keeps : receiving ≠ .dropReceiver := by
        intro same
        subst same
        cases isReceiving
      rw [step_receiverHeld keeps stepped]
      exact decided.eventsHeld _ foundBefore notDisconnected
  | dropsLastHandle =>
      obtain ⟨before, foundBefore, rfl⟩ := Option.map_eq_some_iff.mp found
      exact decided.eventsHeld before foundBefore notDisconnected
  | _ => exact decided.eventsHeld connection found notDisconnected

theorem Decided.transition (decided : Decided state)
    (transition : Transition build state action state') : Decided state' where
  paired := decided.paired.transition transition
  unstarted := transition.unstarted decided
  taskOver := transition.taskOver decided
  channelHeld _ := transition.channelHeld decided
  eventsHeld _ := transition.eventsHeld decided

theorem decided_of_reachable (reachable : (system build).Reachable state) :
    Decided state :=
  reachable.invariant Decided new_decided fun _ _ _ _ decided stepped =>
    keeps_of_transitions Decided
      (fun _ _ decided transition => decided.transition transition) decided stepped

/-- The calls that have a task answer what their tasks left them. -/
theorem Paired.started_calls (paired : Paired state) :
    (state.calls.take state.sendings.length).map
        (fun call => (call.message, getState call.result)) =
      state.sendings.map fun sending => (sending.message, sending.phase.answer) := by
  apply List.ext_getElem?
  intro index
  rw [List.getElem?_map, List.getElem?_map, List.getElem?_take]
  cases found : state.sendings[index]? with
  | some sending =>
      have inBounds := (List.getElem?_eq_some_iff.mp found).1
      obtain ⟨-, call, foundCall, message, result⟩ := paired.carried index sending found
      simp [inBounds, foundCall, message, result]
  | none =>
      have outOfBounds : ¬ index < state.sendings.length :=
        Nat.not_lt.mpr (List.getElem?_eq_none_iff.mp found)
      simp [outOfBounds]

/-- Of the calls that were answered with `SendingResult::Sent`, all have a task. -/
theorem Decided.sent_calls {α : Type} (decided : Decided state) (image : S → Option α) :
    (state.calls.filterMap fun call =>
        if getState call.result = .result .sent then image call.message else none) =
      state.sendings.filterMap fun sending =>
        if sending.phase.answer = .result .sent then image sending.message else none := by
  let chosen : S × SendingState → Option α := fun entry =>
    if entry.2 = .result .sent then image entry.1 else none
  have started := congrArg (List.filterMap chosen) decided.paired.started_calls
  rw [List.filterMap_map, List.filterMap_map] at started
  have others : (state.calls.drop state.sendings.length).filterMap
      (chosen ∘ fun call => (call.message, getState call.result)) = [] := by
    apply List.filterMap_eq_nil_iff.mpr
    intro call member
    obtain ⟨index, found⟩ := List.mem_iff_getElem?.mp member
    rw [List.getElem?_drop] at found
    exact if_neg (decided.unstarted _ call (Nat.le_add_right _ _) found)
  have split := congrArg (List.filterMap
    (chosen ∘ fun call => (call.message, getState call.result)))
    (List.take_append_drop state.sendings.length state.calls)
  rw [List.filterMap_append, others, List.append_nil] at split
  exact split.symm.trans started

/-- The messages that were started are the first that were given. -/
theorem Paired.started_prefix (paired : Paired state) :
    state.sendings.map (·.message) <+: state.calls.map (·.message) := by
  have started := congrArg (List.map Prod.fst) paired.started_calls
  rw [List.map_map, List.map_map] at started
  have same : (state.calls.take state.sendings.length).map (·.message) =
      state.sendings.map (·.message) := started
  rw [← same]
  exact (List.take_prefix _ _).map _

end Warqueen.Client
