import Warqueen.Client.Connection
import Warqueen.Receiving.Messages

/-!
# The events that a client returns

What `poll_event_from_server` has returned so far is told by the state of the client:
nothing while it is `Connecting`, the failure if there was one, and else `Connected`
and then what was taken from the queue, in its order.  A client that disconnects
returns nothing more and refuses every message.
-/

namespace Warqueen.Client

open Concurrency Quinn Receiving Sending

variable {S R : Type} {build : Build S R} {state state' : State S R} {action : Action S}

/-- The events that the client took from the queue of its connection. -/
def State.taken (state : State S R) : List (ClientEvent R) :=
  match state.connection with
  | some connection => connection.events.taken.map Prod.snd
  | none => []

/-- The sequence of the events returned so far: none, or the failure alone, or
`Connected` and after it messages and disconnections as they were queued. -/
def FollowsProtocol (state : State S R) : Prop :=
  state.polled = [] ∨ state.polled = [.failedToConnect] ∨
    ∃ connection, state.connection = some connection ∧
      state.polled = .connected ::
        (connection.events.sent.take connection.events.received).map Prod.snd ∧
      ∀ entry ∈ connection.events.sent,
        (∃ message, entry.2 = .message message) ∨
          ∃ details, entry.2 = .disconnected details

/-- The first event that a `Connected` client returns is `Connected`, whatever is in
the queue by then. -/
def ConnectedFirst (state : State S R) : Prop :=
  ∀ connected, state.connectIfPossible.networking = .connected connected →
    state.polled = [] → state.connectIfPossible.pollEvent.1 = some .connected

/-- From the disconnection on every poll returns nothing, and every message sent is
answered with `WeClosed`, at once and for ever. -/
def SilentOnceDisconnected (build : Build S R) (before : State S R) : Prop :=
  ∀ after, step build before .disconnect = some after →
    ∀ later, (system build).Reaches System.always after later →
      later.connectIfPossible.pollEvent.1 = none ∧
      ∀ message sent, step build later (.sendMessageToServer message) = some sent →
        ∀ last, (system build).Reaches System.always sent last →
          ∃ call, last.calls[later.calls.length]? = some call ∧
            call.message = message ∧ getState call.result = .result .weClosed

/-! ## What was returned so far -/

/-- What a client in each state has returned. -/
def State.Returned (state : State S R) : Prop :=
  match state.networking with
  | .connecting _ => state.polled = [] ∧ state.taken = []
  | .connected connected =>
      if connected.connectedEventAlreadyPolled then state.polled = .connected :: state.taken
      else state.polled = [] ∧ state.taken = []
  | .disconnected .us =>
      state.polled = [] ∧ state.taken = [] ∨ state.polled = .connected :: state.taken
  | .disconnected .thePeer => False
  | .disconnected (.thePeerDidntEvenConnect alreadyPolled) =>
      state.polled = if alreadyPolled then [.failedToConnect] else []

/-- The invariant of what a client returns. -/
structure Told (state : State S R) : Prop where
  established : Established state
  bounded : ∀ connection, state.connection = some connection →
    connection.events.Bounded
  reached : .connected ∈ state.polled → state.connection.isSome = true
  returned : state.Returned

theorem new_told : Told (State.new : State S R) where
  established := new_established
  bounded := by simp [State.new]
  reached := by simp [State.new]
  returned := ⟨rfl, rfl⟩

theorem State.taken_dropConnected : state.dropConnected.taken = state.taken := by
  cases found : state.connection <;> simp [State.taken, State.dropConnected, found]

theorem State.taken_close : state.close.taken = state.taken := by
  cases found : state.connection <;> simp [State.taken, State.close, found]

theorem not_poll_of_isReceiving {receiving : Receiving.Action}
    (receives : isReceiving receiving = true) : receiving ≠ .poll := by
  intro same
  subst same
  cases receives

/-- A step of the connection other than a poll takes nothing. -/
theorem taken_of_step {connection connection' : Receiving.State (ClientEvent R)}
    {receiving : Receiving.Action} (bounded : connection.events.Bounded)
    (notPoll : receiving ≠ .poll) (found : state.connection = some connection)
    (stepped : Receiving.step (clientSide R) build.decode connection receiving =
      some connection')
    (found' : state'.connection = some connection') : state'.taken = state.taken := by
  simp only [State.taken, found, found', Receiving.step_taken notPoll bounded stepped]

theorem State.taken_of_attempting (owned : Owned state) (attempting : state.Attempting) :
    state.taken = [] := by
  simp [State.taken, (owned.attempted attempting).2.1]

/-- What was returned depends on the state of the client, on the events polled and on
those taken. -/
theorem State.Returned.congr (returned : state.Returned)
    (networking : state'.networking = state.networking)
    (polled : state'.polled = state.polled) (taken : state'.taken = state.taken) :
    state'.Returned := by
  simp only [State.Returned, networking, polled, taken]
  exact returned

/-- Every transition keeps what was returned in step with the state. -/
theorem Transition.returned (told : Told state)
    (transition : Transition build state action state') : state'.Returned := by
  have returned := told.returned
  cases transition with
  | connects operation networking value =>
      simp only [State.Returned, networking] at returned
      simp only [State.Returned, (told.established.delivered _ value).1]
      exact returned
  | timesOut operation networking =>
      simp only [State.Returned, networking] at returned
      exact returned.1
  | buffers networking =>
      simp only [State.Returned, networking] at returned
      exact returned
  | pollsConnected networking notYet =>
      simp only [State.Returned, networking, notYet] at returned
      obtain ⟨polled, taken⟩ := returned
      have taken' : State.taken { state with
          networking := .connected { connectedEventAlreadyPolled := true }
          polled := state.polled ++ [.connected] } = [] := taken
      simp only [State.Returned, if_true]
      rw [taken', polled]
      rfl
  | pollsQueue networking already found =>
      simp only [State.Returned, networking, already, if_true] at returned ⊢
      simp only [State.taken, found] at returned
      rw [returned]
      simp only [State.taken, Mpsc.tryRecv_taken, List.map_append, List.cons_append,
        Option.toList_map]
  | pollsFailed networking =>
      simp only [State.Returned, networking] at returned
      simp [State.Returned, returned]
  | abandons networking kept =>
      simp only [State.Returned, networking] at returned
      obtain ⟨polled, taken⟩ := returned
      refine .inl ⟨polled, ?_⟩
      rcases kept with rfl | rfl
      · exact taken
      · exact State.taken_dropConnected.trans taken
  | closes networking =>
      have taken : state.close.dropConnected.taken = state.taken :=
        State.taken_dropConnected.trans State.taken_close
      simp only [State.Returned, networking] at returned
      split at returned
      · exact .inr (returned.trans (congrArg (List.cons _) taken.symm))
      · exact .inl ⟨returned.1, taken.trans returned.2⟩
  | endsAttempt attempting =>
      refine returned.congr rfl rfl ?_
      rw [State.taken_of_attempting told.established.owned attempting]
      simp only [State.taken]
      split
      next connection found =>
        split at found
        · obtain rfl := Option.some.inj found
          rfl
        · cases found
      next => rfl
  | creates answered found spawned =>
      have notPoll : Receiving.Action.spawn ≠ .poll := by simp
      exact returned.congr rfl rfl
        (taken_of_step (told.bounded _ found) notPoll found spawned rfl)
  | discards created dropped => exact returned.congr rfl rfl State.taken_dropConnected
  | receives isReceiving found stepped =>
      exact returned.congr rfl rfl
        (taken_of_step (told.bounded _ found) (not_poll_of_isReceiving isReceiving)
          found stepped rfl)
  | dropsLastHandle => exact returned.congr rfl rfl State.taken_close
  | sends networking => exact returned.congr rfl rfl rfl
  | refuses networking => exact returned.congr rfl rfl rfl
  | _ => exact returned.congr rfl rfl rfl

/-- A step of the connection, if there is one, keeps the bound of its queue. -/
theorem bounded_of_map {connection : Option (Receiving.State (ClientEvent R))}
    {update : Receiving.State (ClientEvent R) → Receiving.State (ClientEvent R)}
    (kept : ∀ before, before.events.Bounded → (update before).events.Bounded)
    (bounded : ∀ before, connection = some before → before.events.Bounded)
    (after : Receiving.State (ClientEvent R)) (found : connection.map update = some after) :
    after.events.Bounded := by
  obtain ⟨before, foundBefore, rfl⟩ := Option.map_eq_some_iff.mp found
  exact kept before (bounded before foundBefore)

/-- Every transition keeps the bound of the queue. -/
theorem Transition.bounded (transition : Transition build state action state')
    (bounded : ∀ connection, state.connection = some connection →
      connection.events.Bounded) :
    ∀ connection, state'.connection = some connection →
      connection.events.Bounded := by
  have dropped : ∀ connection, state.dropConnected.connection = some connection →
      connection.events.Bounded := bounded_of_map (fun _ kept => kept) bounded
  cases transition with
  | pollsQueue networking already found =>
      intro connection same
      obtain rfl := Option.some.inj same
      exact (bounded _ found).tryRecv
  | abandons networking kept =>
      rcases kept with rfl | rfl
      · exact bounded
      · exact dropped
  | discards => exact dropped
  | closes =>
      refine bounded_of_map (fun _ kept => kept) ?_
      exact bounded_of_map (fun _ kept => kept) bounded
  | dropsLastHandle => exact bounded_of_map (fun _ kept => kept) bounded
  | endsAttempt =>
      intro connection found
      split at found
      · obtain rfl := Option.some.inj found
        exact Nat.le_refl 0
      · cases found
  | creates answered found stepped | receives isReceiving found stepped =>
      intro connection same
      obtain rfl := Option.some.inj same
      exact Receiving.step_bounded (bounded _ found) stepped
  | _ => exact bounded

/-- A client that returned `Connected` has a connection. -/
theorem Transition.reached (told : Told state)
    (transition : Transition build state action state')
    (member : .connected ∈ state'.polled) : state'.connection.isSome = true := by
  cases transition with
  | pollsConnected networking =>
      exact told.established.connected ⟨_, networking⟩
  | pollsQueue | creates | receives => rfl
  | pollsFailed =>
      apply told.reached
      simpa using member
  | abandons networking kept =>
      rcases kept with rfl | rfl
      · exact told.reached member
      · exact State.dropConnected_isSome.trans (told.reached member)
  | closes =>
      exact (State.dropConnected_isSome.trans State.close_isSome).trans (told.reached member)
  | endsAttempt attempting =>
      have none := (told.established.owned.attempted attempting).2.1
      have some := told.reached member
      rw [none] at some
      cases some
  | discards => exact State.dropConnected_isSome.trans (told.reached member)
  | dropsLastHandle => exact State.close_isSome.trans (told.reached member)
  | _ => exact told.reached member

theorem Told.transition (told : Told state)
    (transition : Transition build state action state') : Told state' where
  established := told.established.transition transition
  bounded := transition.bounded told.bounded
  reached := transition.reached told
  returned := transition.returned told

theorem told_of_reachable (reachable : (system build).Reachable state) : Told state :=
  reachable.invariant Told new_told fun _ _ _ _ told stepped =>
    keeps_of_transitions Told (fun _ _ told transition => told.transition transition)
      told stepped

/-! ## The protocol -/

/-- A client that took its events from the queue follows the protocol. -/
theorem followsProtocol_of_taken (reachable : (system build).Reachable state)
    (reached : state.connection.isSome = true)
    (polled : state.polled = .connected :: state.taken) : FollowsProtocol state := by
  obtain ⟨connection, found⟩ := Option.isSome_iff_exists.mp reached
  refine .inr (.inr ⟨connection, found, ?_, ?_⟩)
  · rw [polled, State.taken, found]
    rfl
  · intro entry queued
    obtain ⟨source, event⟩ := entry
    rcases (connection_accounted reachable found).queued_cases queued with message | lost
    · obtain ⟨-, -, message, -, -, -, rfl⟩ := message
      exact .inl ⟨message, rfl⟩
    · cases event with
      | disconnected details => exact .inr ⟨details, rfl⟩
      | connected | message | failedToConnect => cases lost

theorem followsProtocol (reachable : (system build).Reachable state) :
    FollowsProtocol state := by
  have told := told_of_reachable reachable
  have returned := told.returned
  have afterConnected (polled : state.polled = .connected :: state.taken) :
      FollowsProtocol state :=
    followsProtocol_of_taken reachable (told.reached (by simp [polled])) polled
  simp only [State.Returned] at returned
  split at returned
  next => exact .inl returned.1
  next =>
    split at returned
    · exact afterConnected returned
    · exact .inl returned.1
  next =>
    rcases returned with ⟨nothing, -⟩ | polled
    · exact .inl nothing
    · exact afterConnected polled
  next => exact returned.elim
  next alreadyPolled _ =>
    cases alreadyPolled
    · exact .inl returned
    · exact .inr (.inl returned)

/-! ## The first event -/

theorem State.connected_polled (state : State S R)
    (connecting : ClientNetworkingConnecting S) :
    (state.connected connecting).2.polled = state.polled := by
  simp only [State.connected]
  split <;> rfl

/-- `connect_if_possible` returns no event. -/
theorem State.connectIfPossible_polled (state : State S R) :
    state.connectIfPossible.polled = state.polled := by
  simp only [State.connectIfPossible]
  split
  next connecting networking =>
    have kept := state.connected_polled connecting
    split
    next found =>
      rw [found] at kept
      exact kept
    next found =>
      rw [found] at kept
      exact kept
    next found =>
      rw [found] at kept
      exact kept
  next => rfl
  next => rfl

theorem Told.connectIfPossible (build : Build S R) (told : Told state) :
    Told state.connectIfPossible := by
  have operation : (Action.pollEventFromServer : Action S).isOperation = true := rfl
  rcases connectIfPossible_cases build state operation with ⟨same, -⟩ | ⟨transition, -⟩
  · rw [same]
    exact told
  · exact told.transition transition

theorem connectedFirst (reachable : (system build).Reachable state) :
    ConnectedFirst state := by
  intro connected networking nothing
  have returned := ((told_of_reachable reachable).connectIfPossible build).returned
  simp only [State.Returned, networking, State.connectIfPossible_polled,
    nothing] at returned
  simp only [State.pollEvent, networking, State.pollEventFromClient]
  split at returned
  · cases returned
  next notYet => rw [if_neg notYet]

/-! ## After a disconnection -/

/-- A client that disconnected stays so. -/
theorem Transition.disconnected (transition : Transition build state action state')
    (disconnected : state.networking = .disconnected .us) :
    state'.networking = .disconnected .us := by
  cases transition with
  | connects operation networking | timesOut operation networking
  | buffers networking | pollsConnected networking | pollsFailed networking =>
      rw [disconnected] at networking
      cases networking
  | abandons | closes => rfl
  | _ => exact disconnected

theorem silentOnceDisconnected {before : State S R}
    (reachable : (system build).Reachable before)
    (notYet : ∀ whoClosed, before.networking ≠ .disconnected whoClosed) :
    SilentOnceDisconnected build before := by
  intro after stepped later reached
  have disconnectedAfter : after.networking = .disconnected .us := by
    obtain rfl := Option.some.inj stepped
    simp only [State.disconnect]
    split
    next => rfl
    next => rfl
    next whoClosed networking => exact absurd networking (notYet whoClosed)
  have disconnected : later.networking = .disconnected .us := by
    refine reached.invariant (fun state => state.networking = .disconnected .us)
      disconnectedAfter ?_
    intro _ _ _ _ disconnected _ stepped
    exact keeps_of_transitions (fun state => state.networking = .disconnected .us)
      (fun _ _ disconnected transition => transition.disconnected disconnected)
      disconnected stepped
  have same : later.connectIfPossible = later := by
    simp [State.connectIfPossible, disconnected]
  constructor
  · simp [same, State.pollEvent, disconnected]
  · intro message sent sends last reachedLast
    have disconnects : (system build).step before .disconnect = some after := stepped
    have paired := paired_of_reachable ((reachable.step disconnects).reaches reached)
    have answered : sent.AnsweredWith later.calls.length message .weClosed := by
      obtain rfl := Option.some.inj sends
      simp only [same, State.sendMessage, disconnected]
      exact ⟨_, getElem?_concat_eq_some.mpr (.inr ⟨rfl, rfl⟩), rfl, rfl⟩
    exact answer_stays (paired.step sends) reachedLast answered

/-- In every run the events returned are nothing, or the failure alone, or
`Connected` first and then messages and disconnections as they were queued; and a
disconnection silences the client. -/
theorem client_event_protocol (build : Build S R) :
    (∀ state, (system build).Reachable state →
        FollowsProtocol state ∧ ConnectedFirst state) ∧
      ∀ before, (system build).Reachable before →
        (∀ whoClosed, before.networking ≠ .disconnected whoClosed) →
        SilentOnceDisconnected build before := by
  constructor
  · intro state reachable
    exact ⟨followsProtocol reachable, connectedFirst reachable⟩
  · intro before reachable notYet
    exact silentOnceDisconnected reachable notYet

/-- A message is received before the client is called for the first time. -/
def receivedUnpolled : List (Action Bool) :=
  [.endAttempt .connected, .connectingTask, .connectingTask, .receiving .openStream,
    .receiving (.deliver 0 [0xc0]), .receiving (.finish 0), .receiving .acceptUni,
    .receiving (.read 0)]

/-- The client then returns `Connected` at its first poll, the message at its second, and
nothing more once it disconnected. -/
theorem client_event_protocol_once_connected :
    ∃ state once twice, (system booleans).run .new receivedUnpolled = some state ∧
      state.polled = [] ∧
      (state.connection.map fun connection => connection.events.sent) =
        some [(.reader 0, .message ())] ∧
      (system booleans).step state .pollEventFromServer = some once ∧
      once.polled = [.connected] ∧
      (system booleans).step once .pollEventFromServer = some twice ∧
      twice.polled = [.connected, .message ()] ∧
      ConnectedFirst state ∧ FollowsProtocol once ∧ FollowsProtocol twice ∧
      SilentOnceDisconnected booleans twice := by
  obtain ⟨state, once, twice, ran, unpolled, queued, polls, first, pollsAgain, second,
      networking⟩ :
      ∃ state once twice, (system booleans).run .new receivedUnpolled = some state ∧
        state.polled = [] ∧
        (state.connection.map fun connection => connection.events.sent) =
          some [(.reader 0, .message ())] ∧
        (system booleans).step state .pollEventFromServer = some once ∧
        once.polled = [.connected] ∧
        (system booleans).step once .pollEventFromServer = some twice ∧
        twice.polled = [.connected, .message ()] ∧
        twice.networking = .connected { connectedEventAlreadyPolled := true } :=
    ⟨_, _, _, rfl, rfl, rfl, rfl, rfl, rfl, rfl, rfl⟩
  have reachable := System.reachable_of_run ran
  have reachableOnce := reachable.step polls
  have reachableTwice := reachableOnce.step pollsAgain
  refine ⟨state, once, twice, ran, unpolled, queued, polls, first, pollsAgain, second,
    ((client_event_protocol booleans).1 _ reachable).2,
    ((client_event_protocol booleans).1 _ reachableOnce).1,
    ((client_event_protocol booleans).1 _ reachableTwice).1,
    (client_event_protocol booleans).2 _ reachableTwice ?_⟩
  intro whoClosed disconnected
  rw [networking] at disconnected
  cases disconnected

end Warqueen.Client
