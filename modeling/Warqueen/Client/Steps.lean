import Warqueen.Client.Networking
import Warqueen.Concurrency.System

/-!
# Steps of a client

`Transition` lists what a client and its tasks can do, each with what it requires
of the state and what it makes of it.  A step is a transition, or two when
`connect_if_possible` finds the outcome of the attempt first, or none.
-/

namespace Warqueen.Client

open Concurrency Quinn Receiving Sending

variable {S R : Type} {build : Build S R} {state state' : State S R} {action : Action S}

/-- The operations that begin with `connect_if_possible`. -/
def Action.isOperation : Action S → Bool
  | .sendMessageToServer _ | .pollEventFromServer => true
  | _ => false

/-- The steps of the closing task and of the handle that it meets. -/
def Action.isMeeting : Action S → Bool
  | .closingTask | .wait | .finishWaiting | .dropHandle => true
  | _ => false

/-- What can become of the closing task and its handle. -/
inductive MeetingStep (forbidHandleDrop : Bool) (before : Disconnection) :
    Disconnection → Prop where
  | closingTaskWaits (awaitsIdle : before.closingTask = none) :
      MeetingStep forbidHandleDrop before before.closingTaskWaits
  | wait (held : before.handle.holder = .application) :
      MeetingStep forbidHandleDrop before before.actuallyWaitForProperDisconnection
  | finishWaiting (waiting : before.handle.holder.ticket.isSome = true)
      (released : before.blocksThread = false) :
      MeetingStep forbidHandleDrop before (before.finishWaiting forbidHandleDrop)
  | drop (held : before.handle.holder = .application) :
      MeetingStep forbidHandleDrop before (before.drop forbidHandleDrop)

/-- What a client and its tasks can do. -/
inductive Transition (build : Build S R) (state : State S R) :
    Action S → State S R → Prop where
  | connects {action : Action S} {connecting : ClientNetworkingConnecting S}
      {connected : ClientNetworkingConnected} (operation : action.isOperation = true)
      (networking : state.networking = .connecting connecting)
      (value : state.connectedClient.value = some (.connected connected)) :
      Transition build state action
        { state with
          networking := .connected connected
          connectedClient := state.connectedClient.dropReceiver
          sendings := state.sendings ++ connecting.pendingSentMessages.map
            fun pendingMessage => sendMessageToServerWithResultSender
              pendingMessage.message pendingMessage.resultSender }
  | timesOut {action : Action S} {connecting : ClientNetworkingConnecting S}
      (operation : action.isOperation = true)
      (networking : state.networking = .connecting connecting)
      (value : state.connectedClient.value = some .timeout) :
      Transition build state action
        { state with
          networking := .disconnected (.thePeerDidntEvenConnect false)
          connectedClient := state.connectedClient.dropReceiver
          calls := State.settlePending .dropSender connecting.pendingSentMessages
            state.calls }
  | buffers {message : S} {connecting : ClientNetworkingConnecting S}
      (networking : state.networking = .connecting connecting)
      (value : state.connectedClient.value = none) :
      Transition build state (.sendMessageToServer message)
        { state with
          networking := .connecting
            { pendingSentMessages := connecting.pendingSentMessages ++
                [{ message := message, resultSender := state.calls.length }] }
          calls := state.calls ++ [{ message := message, result := .channel }] }
  | sends {message : S} {connected : ClientNetworkingConnected}
      (networking : state.networking = .connected connected) :
      Transition build state (.sendMessageToServer message)
        { state with
          sendings := state.sendings ++
            [sendMessageToServerWithResultSender message state.calls.length]
          calls := state.calls ++ [{ message := message, result := .channel }] }
  | refuses {message : S} {whoClosed : WhoClosed}
      (networking : state.networking = .disconnected whoClosed) :
      Transition build state (.sendMessageToServer message)
        { state with
          calls := state.calls ++ [{ message := message,
                                     result := Oneshot.channel.send
                                       whoClosed.sendingResult }] }
  | pollsConnected {connected : ClientNetworkingConnected}
      (networking : state.networking = .connected connected)
      (notYet : connected.connectedEventAlreadyPolled = false) :
      Transition build state .pollEventFromServer
        { state with
          networking := .connected { connectedEventAlreadyPolled := true }
          polled := state.polled ++ [.connected] }
  | pollsQueue {connected : ClientNetworkingConnected}
      {connection : Receiving.State (ClientEvent R)}
      (networking : state.networking = .connected connected)
      (already : connected.connectedEventAlreadyPolled = true)
      (found : state.connection = some connection) :
      Transition build state .pollEventFromServer
        { state with
          connection := some { connection with events := connection.events.tryRecv.2 }
          polled := state.polled ++ (connection.events.tryRecv.1.map Prod.snd).toList }
  | pollsFailed
      (networking : state.networking = .disconnected (.thePeerDidntEvenConnect false)) :
      Transition build state .pollEventFromServer
        { state with
          networking := .disconnected (.thePeerDidntEvenConnect true)
          polled := state.polled ++ [.failedToConnect] }
  | abandons {connecting : ClientNetworkingConnecting S}
      {connection : Option (Receiving.State (ClientEvent R))}
      (networking : state.networking = .connecting connecting)
      (kept : connection = state.connection ∨
        connection = state.dropConnected.connection) :
      Transition build state .disconnect
        { state with
          networking := .disconnected .us
          connectedClient := state.connectedClient.dropReceiver
          connection := connection
          calls := State.settlePending (·.send .weClosed) connecting.pendingSentMessages
            state.calls }
  | closes {connected : ClientNetworkingConnected}
      (networking : state.networking = .connected connected) :
      Transition build state .disconnect
        { state.close.dropConnected with
          networking := .disconnected .us
          disconnection := some .new }
  | endsAttempt {outcome : AttemptOutcome} (attempting : state.connectingTask = .attempting) :
      Transition build state (.endAttempt outcome)
        { state with
          connectingTask := .answered outcome
          connection := if outcome = .connected then some .established else none }
  | creates {connection connection' : Receiving.State (ClientEvent R)}
      (answered : state.connectingTask = .answered .connected)
      (found : state.connection = some connection)
      (spawned : Receiving.step (clientSide R) build.decode connection .spawn =
        some connection') :
      Transition build state .connectingTask
        { state with
          connection := some connection'
          connectingTask := .created { connectedEventAlreadyPolled := false } }
  | delivers {connected : ClientNetworkingConnected}
      (created : state.connectingTask = .created connected)
      (held : state.connectedClient.receiverHeld = true) :
      Transition build state .connectingTask
        { state with
          connectedClient := state.connectedClient.send (.connected connected)
          connectingTask := .ended }
  | discards {connected : ClientNetworkingConnected}
      (created : state.connectingTask = .created connected)
      (dropped : state.connectedClient.receiverHeld = false) :
      Transition build state .connectingTask
        { state.dropConnected with
          connectedClient := state.connectedClient.send (.connected connected)
          connectingTask := .ended }
  | givesUp
      (answered : state.connectingTask = .answered (.handshakeFailed .timedOut)) :
      Transition build state .connectingTask
        { state with
          connectedClient := state.connectedClient.send .timeout
          connectingTask := .ended }
  | panics {outcome : AttemptOutcome} (answered : state.connectingTask = .answered outcome)
      (notConnected : outcome ≠ .connected)
      (notTimedOut : outcome ≠ .handshakeFailed .timedOut) :
      Transition build state .connectingTask
        { state with
          connectedClient := state.connectedClient.dropSender
          connectingTask := .panicked }
  | resumes {index : Nat} {answer : Answer} {sending : SendingTask S}
      {phase : SendingPhase} {connection : Receiving.State (ClientEvent R)}
      (found : state.sendings[index]? = some sending)
      (connected : state.connection = some connection)
      (allowed : answer.allowed connection.closed = true)
      (resumed : sending.phase.resume build.encode sending.message answer = some phase) :
      Transition build state (.sendingTask index answer)
        { state with
          sendings := state.sendings.set index { sending with phase := phase }
          calls := state.calls.modify sending.resultSender fun call =>
            { call with result := phase.settle call.result } }
  | receives {receiving : Receiving.Action}
      {connection connection' : Receiving.State (ClientEvent R)}
      (isReceiving : isReceiving receiving = true)
      (found : state.connection = some connection)
      (stepped : Receiving.step (clientSide R) build.decode connection receiving =
        some connection') :
      Transition build state (.receiving receiving)
        { state with connection := some connection' }
  | dropsLastHandle (isOpen : state.OpenConnection)
      (unheld : state.connectionHeld = false) :
      Transition build state .dropLastHandle state.close
  | drains (ended : state.connection.any (·.closed.isSome) = true) :
      Transition build state .drain { state with drained := true }
  | meets {action : Action S} {before after : Disconnection}
      (isMeeting : action.isMeeting = true)
      (found : state.disconnection = some before)
      (meeting : MeetingStep build.forbidHandleDrop before after) :
      Transition build state action { state with disconnection := some after }

/-- `connect_if_possible` takes what is in the channel, if the client is still
`Connecting`. -/
theorem connectIfPossible_cases (build : Build S R) (state : State S R)
    (operation : action.isOperation = true) :
    (state.connectIfPossible = state ∧
        ∀ connecting, state.networking = .connecting connecting →
          state.connectedClient.value = none) ∨
      Transition build state action state.connectIfPossible ∧
        ∀ connecting, state.connectIfPossible.networking ≠ .connecting connecting := by
  simp only [State.connectIfPossible]
  split
  next connecting networking =>
    cases value : state.connectedClient.value with
    | none =>
        refine .inl ⟨?_, fun _ _ => rfl⟩
        simp [State.connected, Oneshot.tryRecv, value]
    | some outcome =>
        refine .inr ?_
        cases outcome with
        | connected connected =>
            have connects : Transition build state action _ :=
              .connects operation networking value
            simpa [State.connected, Oneshot.tryRecv, value, Oneshot.dropReceiver]
              using connects
        | timeout =>
            have timesOut : Transition build state action _ :=
              .timesOut operation networking value
            simpa [State.connected, Oneshot.tryRecv, value, Oneshot.dropReceiver]
              using timesOut
  next networking => exact .inl ⟨rfl, by simp [networking]⟩
  next networking => exact .inl ⟨rfl, by simp [networking]⟩

/-- What is left of `send_message_to_server` after `connect_if_possible`. -/
theorem sendMessage_transition (build : Build S R) (message : S)
    (nothing : ∀ connecting, state.networking = .connecting connecting →
      state.connectedClient.value = none) :
    Transition build state (.sendMessageToServer message) (state.sendMessage message) := by
  simp only [State.sendMessage]
  split
  next connecting networking => exact .buffers networking (nothing connecting networking)
  next connected networking => exact .sends networking
  next whoClosed networking => exact .refuses networking

/-- What is left of `poll_event_from_server` after `connect_if_possible`. -/
theorem poll_transition (build : Build S R) (state : State S R) :
    state.poll = state ∨ Transition build state .pollEventFromServer state.poll := by
  unfold State.poll State.pollEvent
  split
  next event after polls =>
    split at polls
    next networking =>
      obtain ⟨rfl, rfl⟩ := Prod.mk.inj polls
      exact .inl (by simp)
    next connected networking =>
      simp only [State.pollEventFromClient] at polls
      split at polls
      next already =>
        split at polls
        next connection found =>
          obtain ⟨rfl, rfl⟩ := Prod.mk.inj polls
          exact .inr (.pollsQueue networking already found)
        next =>
          obtain ⟨rfl, rfl⟩ := Prod.mk.inj polls
          exact .inl (by simp)
      next notYet =>
        obtain ⟨rfl, rfl⟩ := Prod.mk.inj polls
        exact .inr (.pollsConnected networking (Bool.eq_false_iff.mpr notYet))
    next networking =>
      obtain ⟨rfl, rfl⟩ := Prod.mk.inj polls
      exact .inr (.pollsFailed networking)
    next =>
      obtain ⟨rfl, rfl⟩ := Prod.mk.inj polls
      exact .inl (by simp)

/-- `disconnect` does nothing to a client that is `Disconnected`. -/
theorem disconnect_transition (build : Build S R) (state : State S R) :
    (∃ whoClosed, state.networking = .disconnected whoClosed) ∧
        state.disconnect.2 = state ∨
      Transition build state .disconnect state.disconnect.2 := by
  simp only [State.disconnect]
  split
  next connecting networking =>
    refine .inr ?_
    cases state.connectedClient.value.isSome with
    | false => exact .abandons networking (.inl rfl)
    | true => exact .abandons networking (.inr rfl)
  next connected networking => exact .inr (.closes networking)
  next whoClosed networking => exact .inl ⟨⟨whoClosed, networking⟩, rfl⟩

theorem resumeConnecting_transition (stepped : state.resumeConnecting build = some state') :
    Transition build state .connectingTask state' := by
  simp only [State.resumeConnecting] at stepped
  split at stepped
  next answered =>
    obtain ⟨connection', spawned, rfl⟩ := Option.map_eq_some_iff.mp stepped
    obtain ⟨connection, found, spawned⟩ := Option.bind_eq_some_iff.mp spawned
    exact .creates answered found spawned
  next connected created =>
    obtain rfl := Option.some.inj stepped
    cases held : state.connectedClient.receiverHeld with
    | false => exact .discards created held
    | true => exact .delivers created held
  next answered =>
    obtain rfl := Option.some.inj stepped
    exact .givesUp answered
  next outcome notConnected notTimedOut answered =>
    obtain rfl := Option.some.inj stepped
    exact .panics answered notConnected notTimedOut
  next => cases stepped
  next => cases stepped
  next => cases stepped

theorem resumeSending_transition {index : Nat} {answer : Answer}
    (stepped : state.resumeSending build index answer = some state') :
    Transition build state (.sendingTask index answer) state' := by
  simp only [State.resumeSending] at stepped
  split at stepped
  next sending connection found connected =>
    simp only [Option.ite_none_right_eq_some] at stepped
    obtain ⟨allowed, stepped⟩ := stepped
    obtain ⟨phase, resumed, rfl⟩ := Option.map_eq_some_iff.mp stepped
    exact .resumes found connected allowed resumed
  next => cases stepped

/-- The closing task and its handle go on if there are any and they can. -/
theorem onDisconnection_eq_some {disconnection : Option Disconnection}
    {canGoOn : Disconnection → Prop} [DecidablePred canGoOn]
    {goesOn : Disconnection → State S R}
    (stepped : (match disconnection with
      | some disconnection =>
          if canGoOn disconnection then some (goesOn disconnection) else none
      | none => none) = some state') :
    ∃ found, disconnection = some found ∧ canGoOn found ∧ goesOn found = state' := by
  cases disconnection with
  | none => cases stepped
  | some found =>
      simp only [Option.ite_none_right_eq_some, Option.some.injEq] at stepped
      exact ⟨found, rfl, stepped⟩

/-- A step is a transition, or two of an operation that finds the outcome of the
attempt and so leaves `Connecting`, or none. -/
theorem step_transitions (stepped : step build state action = some state') :
    ∃ middle, (middle = state ∨ action.isOperation = true ∧
        Transition build state action middle ∧
        ∀ connecting, middle.networking ≠ .connecting connecting) ∧
      (state' = middle ∨ Transition build middle action state') := by
  have single (transition : state' = state ∨ Transition build state action state') :
      ∃ middle, (middle = state ∨ action.isOperation = true ∧
          Transition build state action middle ∧
          ∀ connecting, middle.networking ≠ .connecting connecting) ∧
        (state' = middle ∨ Transition build middle action state') :=
    ⟨state, .inl rfl, transition⟩
  cases action with
  | sendMessageToServer message =>
      obtain rfl := Option.some.inj stepped
      have operation : (Action.sendMessageToServer message).isOperation = true := rfl
      rcases connectIfPossible_cases build state operation with
        ⟨same, nothing⟩ | ⟨connects, notConnecting⟩
      · refine single (.inr ?_)
        rw [same]
        exact sendMessage_transition build message nothing
      · refine ⟨_, .inr ⟨rfl, connects, notConnecting⟩,
          .inr (sendMessage_transition build message ?_)⟩
        intro connecting networking
        exact absurd networking (notConnecting connecting)
  | pollEventFromServer =>
      obtain rfl := Option.some.inj stepped
      have operation : (Action.pollEventFromServer : Action S).isOperation = true := rfl
      rcases connectIfPossible_cases build state operation with
        ⟨same, -⟩ | connects
      · refine single ?_
        rw [same]
        exact poll_transition build state
      · exact ⟨_, .inr ⟨rfl, connects⟩, poll_transition build _⟩
  | disconnect =>
      obtain rfl := Option.some.inj stepped
      exact single ((disconnect_transition build state).imp_left And.right)
  | endAttempt outcome =>
      simp only [step, Option.ite_none_right_eq_some, Option.some.injEq] at stepped
      obtain ⟨attempting, rfl⟩ := stepped
      exact single (.inr (.endsAttempt attempting))
  | connectingTask => exact single (.inr (resumeConnecting_transition stepped))
  | sendingTask index answer => exact single (.inr (resumeSending_transition stepped))
  | receiving receiving =>
      simp only [step, Option.ite_none_right_eq_some] at stepped
      obtain ⟨isReceiving, steps⟩ := stepped
      obtain ⟨connection', received, rfl⟩ := Option.map_eq_some_iff.mp steps
      obtain ⟨connection, found, stepped⟩ := Option.bind_eq_some_iff.mp received
      exact single (.inr (.receives isReceiving found stepped))
  | dropLastHandle =>
      simp only [step, Option.ite_none_right_eq_some, Option.some.injEq] at stepped
      obtain ⟨⟨isOpen, unheld⟩, rfl⟩ := stepped
      exact single (.inr (.dropsLastHandle isOpen unheld))
  | drain =>
      simp only [step, Option.ite_none_right_eq_some, Option.some.injEq] at stepped
      obtain ⟨⟨ended, -⟩, rfl⟩ := stepped
      exact single (.inr (.drains ended))
  | closingTask =>
      obtain ⟨disconnection, found, ⟨-, awaitsIdle⟩, rfl⟩ := onDisconnection_eq_some stepped
      exact single (.inr (.meets rfl found (.closingTaskWaits awaitsIdle)))
  | wait =>
      obtain ⟨disconnection, found, held, rfl⟩ := onDisconnection_eq_some stepped
      exact single (.inr (.meets rfl found (.wait held)))
  | finishWaiting =>
      obtain ⟨disconnection, found, ⟨waiting, released⟩, rfl⟩ :=
        onDisconnection_eq_some stepped
      exact single (.inr (.meets rfl found (.finishWaiting waiting released)))
  | dropHandle =>
      obtain ⟨disconnection, found, held, rfl⟩ := onDisconnection_eq_some stepped
      exact single (.inr (.meets rfl found (.drop held)))

/-- What every transition under a condition keeps, every step under it keeps, when
the condition is on clients that are `Connecting` only. -/
theorem keeps_of_guarded_transitions (guard : State S R → Prop) (property : State S R → Prop)
    (later : ∀ middle, (∀ connecting, middle.networking ≠ .connecting connecting) →
      guard middle)
    (preserved : ∀ before after, property before → guard before →
      Transition build before action after → property after)
    (holds : property state) (allowed : guard state)
    (stepped : step build state action = some state') : property state' := by
  obtain ⟨middle, first, second⟩ := step_transitions stepped
  have holdsMiddle : property middle ∧ guard middle := by
    rcases first with rfl | ⟨-, transition, notConnecting⟩
    · exact ⟨holds, allowed⟩
    · exact ⟨preserved state middle holds allowed transition, later middle notConnecting⟩
  rcases second with rfl | transition
  · exact holdsMiddle.1
  · exact preserved middle state' holdsMiddle.1 holdsMiddle.2 transition

/-- What every transition keeps, every step keeps. -/
theorem keeps_of_transitions (property : State S R → Prop)
    (preserved : ∀ before after, property before →
      Transition build before action after → property after)
    (holds : property state) (stepped : step build state action = some state') :
    property state' :=
  keeps_of_guarded_transitions (fun _ => True) property (fun _ _ => trivial)
    (fun before after holds _ => preserved before after holds) holds trivial stepped

/-! ## Leaving `Connecting` -/

/-- A client that left `Connecting` does not come back. -/
theorem Transition.notConnecting (transition : Transition build state action state')
    (notConnecting : ∀ connecting, state.networking ≠ .connecting connecting) :
    ∀ connecting, state'.networking ≠ .connecting connecting := by
  cases transition with
  | buffers networking => exact absurd networking (notConnecting _)
  | connects | timesOut | pollsConnected | pollsFailed | abandons | closes => simp
  | _ => exact notConnecting

theorem notConnecting_step
    (notConnecting : ∀ connecting, state.networking ≠ .connecting connecting)
    (stepped : step build state action = some state') :
    ∀ connecting, state'.networking ≠ .connecting connecting :=
  keeps_of_transitions
    (fun state : State S R => ∀ connecting, state.networking ≠ .connecting connecting)
    (fun _ _ holds transition => transition.notConnecting holds) notConnecting stepped

/-- An operation finds the outcome of the attempt when it is in the channel, so that it
leaves no client that is still `Connecting`. -/
theorem notConnecting_of_operation
    (decided : ∀ connecting, state.networking = .connecting connecting →
      state.connectedClient.value ≠ none)
    (operation : action.isOperation = true)
    (stepped : step build state action = some state') :
    ∀ connecting, state'.networking ≠ .connecting connecting := by
  have notConnecting : ∀ connecting,
      state.connectIfPossible.networking ≠ .connecting connecting := by
    rcases connectIfPossible_cases build state operation with
      ⟨same, nothing⟩ | ⟨-, notConnecting⟩
    · intro connecting isConnecting
      rw [same] at isConnecting
      exact decided connecting isConnecting (nothing connecting isConnecting)
    · exact notConnecting
  cases action with
  | sendMessageToServer message =>
      obtain rfl := Option.some.inj stepped
      refine (sendMessage_transition build message ?_).notConnecting notConnecting
      intro connecting isConnecting
      exact absurd isConnecting (notConnecting connecting)
  | pollEventFromServer =>
      obtain rfl := Option.some.inj stepped
      rcases poll_transition build state.connectIfPossible with same | transition
      · rw [same]
        exact notConnecting
      · exact transition.notConnecting notConnecting
  | _ => cases operation

end Warqueen.Client
