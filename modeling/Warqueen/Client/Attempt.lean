import Warqueen.Client.Buffering

/-!
# The outcome of the connection attempt

The connecting task puts a connection or a timeout in the channel, and panics on
every other outcome.  A client whose channel is empty because the sender is gone
looks like one whose attempt is still going on: `connected` answers `None` to both.
So the outcome reaches the application exactly when the attempt succeeds or times
out.
-/

namespace Warqueen.Client

open Concurrency Quinn Receiving Sending

variable {S R : Type} {build : Build S R} {state state' : State S R} {action : Action S}
variable {outcome : AttemptOutcome}

/-- The event that tells the application how the attempt ended. -/
def AttemptOutcome.event {R : Type} : AttemptOutcome → ClientEvent R
  | .connected => .connected
  | .noEndpoint | .connectFailed _ | .handshakeFailed _ => .failedToConnect

/-- The condition that the attempt can only end with the outcome, and that the
application does not disconnect. -/
def attemptEndsWith (outcome : AttemptOutcome) (_state : State S R)
    (action : Action S) : Prop :=
  action ≠ .disconnect ∧ ∀ other, action = .endAttempt other → other = outcome

/-- The client is not kept in `Connecting` by an operation once the connecting task
is over.  No event is polled before, a poll from then on has the event of the
outcome as the first one, and no handle of a failed attempt answers
`StillBeingSent` after such a poll. -/
def OutcomeNotLost (build : Build S R) (outcome : AttemptOutcome) : Prop :=
  ∀ before, (system build).Reaches (attemptEndsWith outcome) (system build).init before →
    (before.connectingTask.isOver = false → before.polled = []) ∧
    (before.connectingTask.isOver = true →
      (∀ action after, action.isOperation = true → step build before action = some after →
        ∀ connecting, after.networking ≠ .connecting connecting) ∧
      ∀ after, step build before .pollEventFromServer = some after →
        after.polled.head? = some outcome.event ∧
        (outcome ≠ .connected →
          ∀ later, (system build).Reaches (attemptEndsWith outcome) after later →
            ∀ call ∈ later.calls, getState call.result ≠ .stillBeingSent))

/-! ## How far the attempt is -/

/-- How far the attempt with the outcome is: not decided, in the channel as a
client or as a timeout, known to the client, or lost. -/
inductive Stage (outcome : AttemptOutcome) (state : State S R) : Prop where
  | undecided {connecting : ClientNetworkingConnecting S}
      (networking : state.networking = .connecting connecting)
      (task : state.connectingTask = .attempting ∨
        state.connectingTask = .answered outcome ∨
        state.connectingTask = .created { connectedEventAlreadyPolled := false } ∧
          outcome = .connected)
      (channel : state.connectedClient = .channel) (polled : state.polled = [])
  | connectedInChannel {connecting : ClientNetworkingConnecting S}
      (networking : state.networking = .connecting connecting)
      (task : state.connectingTask = .ended) (isConnected : outcome = .connected)
      (value : state.connectedClient.value =
        some (.connected { connectedEventAlreadyPolled := false }))
      (polled : state.polled = [])
  | connected {connected : ClientNetworkingConnected}
      (networking : state.networking = .connected connected)
      (task : state.connectingTask = .ended) (isConnected : outcome = .connected)
      (polled : if connected.connectedEventAlreadyPolled then
        state.polled.head? = some .connected else state.polled = [])
  | timeoutInChannel {connecting : ClientNetworkingConnecting S}
      (networking : state.networking = .connecting connecting)
      (task : state.connectingTask = .ended)
      (timedOut : outcome = .handshakeFailed .timedOut)
      (value : state.connectedClient.value = some .timeout) (polled : state.polled = [])
  | failed {already : Bool}
      (networking : state.networking = .disconnected (.thePeerDidntEvenConnect already))
      (task : state.connectingTask = .ended)
      (timedOut : outcome = .handshakeFailed .timedOut)
      (polled : state.polled = if already then [.failedToConnect] else [])
      (none : state.sendings = [])
  | lost {connecting : ClientNetworkingConnecting S}
      (networking : state.networking = .connecting connecting)
      (task : state.connectingTask = .panicked)
      (notConnected : outcome ≠ .connected)
      (notTimedOut : outcome ≠ .handshakeFailed .timedOut)
      (value : state.connectedClient.value = none) (polled : state.polled = [])

theorem new_stage : Stage outcome (State.new : State S R) :=
  .undecided rfl (.inl rfl) rfl rfl

/-- The stage is decided by the client, the channel, the connecting task and what
the application was given. -/
theorem Stage.congr (stage : Stage outcome state)
    (networking : state'.networking = state.networking)
    (connectedClient : state'.connectedClient = state.connectedClient)
    (connectingTask : state'.connectingTask = state.connectingTask)
    (polled : state'.polled = state.polled)
    (sendings : (∃ whoClosed, state.networking = .disconnected whoClosed) →
      state.sendings = [] → state'.sendings = []) : Stage outcome state' := by
  cases stage with
  | undecided isConnecting task channel none =>
      exact .undecided (networking.trans isConnecting) (connectingTask ▸ task)
        (connectedClient.trans channel) (polled.trans none)
  | connectedInChannel isConnecting task isConnected value none =>
      exact .connectedInChannel (networking.trans isConnecting) (connectingTask.trans task)
        isConnected (connectedClient ▸ value) (polled.trans none)
  | connected isConnected task outcome events =>
      exact .connected (networking.trans isConnected) (connectingTask.trans task) outcome
        (polled ▸ events)
  | timeoutInChannel isConnecting task timedOut value none =>
      exact .timeoutInChannel (networking.trans isConnecting) (connectingTask.trans task)
        timedOut (connectedClient ▸ value) (polled.trans none)
  | failed isDisconnected task timedOut events none =>
      exact .failed (networking.trans isDisconnected) (connectingTask.trans task) timedOut
        (polled.trans events) (sendings ⟨_, isDisconnected⟩ none)
  | lost isConnecting task notConnected notTimedOut value none =>
      exact .lost (networking.trans isConnecting) (connectingTask.trans task) notConnected
        notTimedOut (connectedClient ▸ value) (polled.trans none)

/-- As long as the connecting task goes on nothing is decided. -/
theorem Stage.undecided_of_running (stage : Stage outcome state)
    (running : state.connectingTask.isOver = false) :
    (∃ connecting, state.networking = .connecting connecting) ∧
      (state.connectingTask = .attempting ∨ state.connectingTask = .answered outcome ∨
        state.connectingTask = .created { connectedEventAlreadyPolled := false } ∧
          outcome = .connected) ∧
      state.connectedClient = .channel ∧ state.polled = [] := by
  cases stage with
  | undecided networking task channel polled =>
      exact ⟨⟨_, networking⟩, task, channel, polled⟩
  | connectedInChannel _ task | connected _ task | timeoutInChannel _ task
  | failed _ task | lost _ task =>
      rw [task] at running
      cases running

/-- A `Connected` client comes of an attempt that succeeded. -/
theorem Stage.of_connected {connected : ClientNetworkingConnected}
    (stage : Stage outcome state) (networking : state.networking = .connected connected) :
    state.connectingTask = .ended ∧ outcome = .connected ∧
      if connected.connectedEventAlreadyPolled then
        state.polled.head? = some .connected
      else state.polled = [] := by
  cases stage with
  | connected networking' task isConnected polled =>
      obtain rfl := ClientNetworking.connected.inj (networking.symm.trans networking')
      exact ⟨task, isConnected, polled⟩
  | undecided networking' | connectedInChannel networking' | timeoutInChannel networking'
  | failed networking' | lost networking' =>
      have impossible := networking.symm.trans networking'
      cases impossible

/-- Every transition but a disconnection keeps the stage or goes on to the next. -/
theorem Stage.transition (paired : Paired state) (stage : Stage outcome state)
    (allowed : attemptEndsWith outcome state action)
    (transition : Transition build state action state') : Stage outcome state' := by
  have undecided {task : ConnectingTask} (isTask : state.connectingTask = task)
      (running : task.isOver = false) :=
    stage.undecided_of_running ((congrArg ConnectingTask.isOver isTask).trans running)
  cases transition with
  | connects operation networking value =>
      cases stage with
      | connectedInChannel _ task isConnected value' polled =>
          obtain rfl := ConnectedOrTimeout.connected.inj
            (Option.some.inj (value.symm.trans value'))
          exact .connected rfl task isConnected (by simpa using polled)
      | undecided _ _ channel => simp [channel] at value
      | timeoutInChannel _ _ _ value' => simp [value'] at value
      | lost _ _ _ _ value' => simp [value'] at value
      | connected networking' | failed networking' => simp [networking'] at networking
  | timesOut operation networking value =>
      cases stage with
      | timeoutInChannel _ task timedOut value' polled =>
          exact .failed rfl task timedOut polled (paired.buffered _ networking).1
      | undecided _ _ channel => simp [channel] at value
      | connectedInChannel _ _ _ value' => simp [value'] at value
      | lost _ _ _ _ value' => simp [value'] at value
      | connected networking' | failed networking' => simp [networking'] at networking
  | buffers networking value =>
      cases stage with
      | undecided _ task channel polled => exact .undecided rfl task channel polled
      | lost _ task notConnected notTimedOut value polled =>
          exact .lost rfl task notConnected notTimedOut value polled
      | connectedInChannel _ _ _ value' => simp [value'] at value
      | timeoutInChannel _ _ _ value' => simp [value'] at value
      | connected networking' | failed networking' => simp [networking'] at networking
  | pollsConnected networking notYet =>
      obtain ⟨task, isConnected, polled⟩ := stage.of_connected networking
      have none : state.polled = [] := by simpa [notYet] using polled
      exact .connected rfl task isConnected (by simp [none])
  | pollsQueue networking already found =>
      obtain ⟨task, isConnected, polled⟩ := stage.of_connected networking
      have first : state.polled.head? = some .connected := by simpa [already] using polled
      exact .connected networking task isConnected (by simp [already, first])
  | pollsFailed networking =>
      cases stage with
      | failed networking' task timedOut polled none =>
          have same := networking.symm.trans networking'
          simp only [ClientNetworking.disconnected.injEq,
            WhoClosed.thePeerDidntEvenConnect.injEq] at same
          exact .failed rfl task timedOut (by simp [polled, ← same]) none
      | undecided networking' | connectedInChannel networking' | timeoutInChannel networking'
      | connected networking' | lost networking' => simp [networking'] at networking
  | abandons | closes => exact absurd rfl allowed.1
  | endsAttempt attempting =>
      obtain rfl := allowed.2 _ rfl
      obtain ⟨⟨_, networking⟩, -, channel, polled⟩ := undecided attempting rfl
      exact .undecided networking (.inr (.inl rfl)) channel polled
  | creates answered found spawned =>
      obtain ⟨⟨_, networking⟩, task, channel, polled⟩ := undecided answered rfl
      have isConnected : outcome = .connected := by simpa [answered, eq_comm] using task
      exact .undecided networking (.inr (.inr ⟨rfl, isConnected⟩)) channel polled
  | delivers created held =>
      obtain ⟨⟨_, networking⟩, task, -, polled⟩ := undecided created rfl
      obtain ⟨rfl, isConnected⟩ : _ = _ ∧ outcome = .connected := by
        simpa [created] using task
      exact .connectedInChannel networking rfl isConnected (Oneshot.send_value held _) polled
  | discards created dropped =>
      obtain ⟨-, -, channel, -⟩ := undecided created rfl
      rw [channel] at dropped
      cases dropped
  | givesUp answered =>
      obtain ⟨⟨_, networking⟩, task, channel, polled⟩ := undecided answered rfl
      have timedOut : outcome = .handshakeFailed .timedOut := by
        simpa [answered, eq_comm] using task
      exact .timeoutInChannel networking rfl timedOut (by simp [channel, Oneshot.send]) polled
  | panics answered notConnected notTimedOut =>
      obtain ⟨⟨_, networking⟩, task, channel, polled⟩ := undecided answered rfl
      obtain rfl : _ = outcome := by simpa [answered] using task
      exact .lost networking rfl notConnected notTimedOut
        (by simp [channel, Oneshot.dropSender]) polled
  | sends networking => exact stage.congr rfl rfl rfl rfl (by simp [networking])
  | resumes => exact stage.congr rfl rfl rfl rfl (by simp)
  | refuses | receives | dropsLastHandle | drains | meets =>
      exact stage.congr rfl rfl rfl rfl fun _ => id

theorem stage_of_reaches
    (reached : (system build).Reaches (attemptEndsWith outcome) (system build).init state) :
    Paired state ∧ Stage outcome state := by
  refine reached.invariant (fun state => Paired state ∧ Stage outcome state)
    ⟨new_paired, new_stage⟩ ?_
  intro before action after _ holds allowed stepped
  refine keeps_of_transitions (fun state => Paired state ∧ Stage outcome state) ?_ holds
    stepped
  intro before after ⟨paired, stage⟩ transition
  exact ⟨paired.transition transition, stage.transition paired allowed transition⟩

/-! ## Outcomes that reach the client -/

/-- The outcomes that the connecting task puts in the channel. -/
def AttemptOutcome.Delivered (outcome : AttemptOutcome) : Prop :=
  outcome = .connected ∨ outcome = .handshakeFailed .timedOut

/-- A delivered outcome is in the channel once the connecting task is over. -/
theorem Stage.value_ne_none (stage : Stage outcome state)
    (isOver : state.connectingTask.isOver = true) (delivered : outcome.Delivered)
    {connecting : ClientNetworkingConnecting S}
    (isConnecting : state.networking = .connecting connecting) :
    state.connectedClient.value ≠ none := by
  cases stage with
  | undecided _ task =>
      rcases task with task | task | ⟨task, -⟩ <;>
        simp [task, ConnectingTask.isOver] at isOver
  | connectedInChannel _ _ _ value | timeoutInChannel _ _ _ value => simp [value]
  | connected networking | failed networking => simp [networking] at isConnecting
  | lost _ _ notConnected notTimedOut => exact (delivered.elim notConnected notTimedOut).elim

/-- A poll leaves no client that owes an event about the attempt. -/
theorem poll_owes_nothing (state : State S R) :
    state.poll.networking ≠ .connected { connectedEventAlreadyPolled := false } ∧
      state.poll.networking ≠ .disconnected (.thePeerDidntEvenConnect false) := by
  unfold State.poll State.pollEvent
  split
  next event after polls =>
    split at polls
    next networking =>
      obtain ⟨rfl, rfl⟩ := Prod.mk.inj polls
      simp [networking]
    next connected networking =>
      simp only [State.pollEventFromClient] at polls
      split at polls
      next already =>
        split at polls <;>
          (obtain ⟨rfl, rfl⟩ := Prod.mk.inj polls)
        · simp only [networking]
          constructor
          · intro impossible
            cases impossible
            cases already
          · simp
        · simp only [networking]
          constructor
          · intro impossible
            cases impossible
            cases already
          · simp
      next notYet =>
        obtain ⟨rfl, rfl⟩ := Prod.mk.inj polls
        simp
    next networking =>
      obtain ⟨rfl, rfl⟩ := Prod.mk.inj polls
      simp
    next whoClosed notFirst networking =>
      obtain ⟨rfl, rfl⟩ := Prod.mk.inj polls
      simp only [networking]
      refine ⟨by simp, ?_⟩
      intro impossible
      cases impossible
      exact notFirst rfl

/-- A client that knows the outcome and was polled has told it first. -/
theorem Stage.told (stage : Stage outcome state)
    (notConnecting : ∀ connecting, state.networking ≠ .connecting connecting)
    (notConnected : state.networking ≠ .connected { connectedEventAlreadyPolled := false })
    (notDisconnected :
      state.networking ≠ .disconnected (.thePeerDidntEvenConnect false)) :
    state.polled.head? = some outcome.event := by
  cases stage with
  | undecided networking | connectedInChannel networking | timeoutInChannel networking
  | lost networking => exact absurd networking (notConnecting _)
  | @connected connected networking _ isConnected polled =>
      obtain ⟨already⟩ := connected
      cases already with
      | false => exact absurd networking notConnected
      | true =>
          rw [isConnected]
          exact polled
  | @failed already networking _ timedOut polled =>
      cases already with
      | false => exact absurd networking notDisconnected
      | true =>
          rw [polled, timedOut]
          rfl

/-- A client whose attempt failed has answered all its calls. -/
theorem Stage.answered (paired : Paired state) (stage : Stage outcome state)
    (notConnecting : ∀ connecting, state.networking ≠ .connecting connecting)
    (notConnected : outcome ≠ .connected) :
    ∀ call ∈ state.calls, getState call.result ≠ .stillBeingSent := by
  intro call member
  cases stage with
  | undecided networking | connectedInChannel networking | timeoutInChannel networking
  | lost networking => exact absurd networking (notConnecting _)
  | connected _ _ isConnected => exact absurd isConnected notConnected
  | failed networking _ _ _ none =>
      obtain ⟨index, found⟩ := List.mem_iff_getElem?.mp member
      exact getState_ne_stillBeingSent
        (paired.settled _ networking index call (by simp [none]) found)

theorem outcomeNotLost_of_delivered (delivered : outcome.Delivered) :
    OutcomeNotLost build outcome := by
  intro before reached
  obtain ⟨paired, stage⟩ := stage_of_reaches reached
  constructor
  · intro notOver
    cases stage with
    | undecided _ _ _ polled => exact polled
    | connectedInChannel _ task | connected _ task | timeoutInChannel _ task
    | failed _ task | lost _ task => simp [task, ConnectingTask.isOver] at notOver
  · intro isOver
    have leaves (action : Action S) (after : State S R) (operation : action.isOperation = true)
        (stepped : step build before action = some after) :
        ∀ connecting, after.networking ≠ .connecting connecting :=
      notConnecting_of_operation
        (fun _ isConnecting => stage.value_ne_none isOver delivered isConnecting)
        operation stepped
    refine ⟨leaves, ?_⟩
    intro after polls
    have allowed : attemptEndsWith outcome before (.pollEventFromServer : Action S) := by
      simp [attemptEndsWith]
    have reachedAfter := reached.tail allowed polls
    have notConnecting := leaves _ after rfl polls
    constructor
    · have owes := poll_owes_nothing before.connectIfPossible
      obtain rfl := Option.some.inj polls
      exact (stage_of_reaches reachedAfter).2.told notConnecting owes.1 owes.2
    · intro notConnected later reachedLater
      obtain ⟨pairedLater, stageLater⟩ := stage_of_reaches (reachedAfter.trans reachedLater)
      have notConnectingLater := reachedLater.invariant
        (fun state => ∀ connecting, state.networking ≠ .connecting connecting) notConnecting
        (fun _ _ _ _ holds _ stepped => notConnecting_step holds stepped)
      exact stageLater.answered pairedLater notConnectingLater notConnected

/-! ## Outcomes that are lost -/

/-- A client whose connecting task panicked. -/
def State.attemptLost : State S R :=
  { State.new with
    connectedClient := Oneshot.channel.dropSender
    connectingTask := .panicked }

theorem reaches_attemptLost (lost : ¬ outcome.Delivered) :
    (system build).Reaches (attemptEndsWith outcome) (system build).init .attemptLost := by
  have ran : (system build).run .new [.endAttempt outcome, .connectingTask] =
      some .attemptLost := by
    cases outcome with
    | noEndpoint | connectFailed => rfl
    | handshakeFailed error =>
        cases error with
        | timedOut => exact absurd (.inr rfl) lost
        | _ => rfl
    | connected => exact absurd (.inl rfl) lost
  exact System.reaches_of_run (fun action =>
    action ≠ .disconnect ∧ ∀ other, action = .endAttempt other → other = outcome)
    (by simp) ran

theorem outcomeNotLost_iff : OutcomeNotLost build outcome ↔ outcome.Delivered := by
  constructor
  · intro notLost
    by_contra lost
    have kept := ((notLost .attemptLost (reaches_attemptLost lost)).2 rfl).1
      .pollEventFromServer .attemptLost rfl rfl
    exact kept _ rfl
  · exact outcomeNotLost_of_delivered

/-- The outcome of an attempt reaches the application if and only if the attempt
succeeds or times out. -/
theorem outcome_not_lost_iff (build : Build S R) (outcome : AttemptOutcome) :
    OutcomeNotLost build outcome ↔
      outcome = .connected ∨ outcome = .handshakeFailed .timedOut :=
  outcomeNotLost_iff

/-- A server that refuses the connection leaves the client `Connecting`. -/
theorem refused_attempt_lost :
    ¬ OutcomeNotLost booleans (.handshakeFailed (.connectionClosed [])) := by
  rw [outcomeNotLost_iff]
  intro delivered
  rcases delivered with impossible | impossible
  · cases impossible
  · cases impossible

end Warqueen.Client
