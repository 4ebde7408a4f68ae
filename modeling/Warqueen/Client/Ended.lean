import Warqueen.Client.Answers
import Warqueen.Client.Partners
import Warqueen.Client.Failures
import Warqueen.Concurrency.Fairness
import Warqueen.Sending.Rest

/-!
# A client whose connection has ended

Whoever ended the connection, nothing can keep its tasks busy any more: the connecting
task and the receiving tasks finish, every sending task answers its handle, and the
closing task of a client that disconnected arrives at its barrier, so that whoever
waits there goes on.  All this needs of the runtime is that it does not pass over a
task that can go on.  Only messages that a client still `Connecting` has buffered need
the application too: they wait until it sends or polls again.
-/

namespace Warqueen.Client

open Concurrency Quinn Receiving Sending

variable {S R : Type} {build : Build S R} {state state' : State S R} {action : Action S}
variable {cause : ConnectionError}

/-- The runtime passes over none of the client's tasks, nor does the endpoint over the
end of its connection. -/
structure FairToTasks (execution : Execution (system build)) : Prop where
  receiving : execution.FairTo Action.IsReceiving
  sending : ∀ index, execution.FairTo fun action =>
    ∃ answer, action = .sendingTask index answer
  drain : execution.FairTo (· = .drain)
  closing : execution.FairTo (· = .closingTask)

/-- The connecting task and the receiving tasks are over. -/
def State.Quiet (state : State S R) : Prop :=
  state.connectingTask.isOver = true ∧
    ∃ connection, state.connection = some connection ∧ connection.IsOver

/-- The sending task is over. -/
def State.HasSent (index : Nat) (state : State S R) : Prop :=
  ∃ sending, state.sendings[index]? = some sending ∧ sending.phase.IsOver

/-- The call number `index` has its answer. -/
def State.HasAnswered (index : Nat) (state : State S R) : Prop :=
  ∃ call, state.calls[index]? = some call ∧ getState call.result ≠ .stillBeingSent

/-- The calls that were made until then have their answers. -/
def AllAnswered (start later : State S R) : Prop :=
  ∀ index, index < start.calls.length → later.HasAnswered index

/-- The closing task has arrived, and nobody waits at the barrier any more. -/
def State.Released (state : State S R) : Prop :=
  ∃ disconnection, state.disconnection = some disconnection ∧
    disconnection.closingTask.isSome = true ∧ disconnection.blocksThread = false

/-- All that was going on is over: the connecting task and the receiving tasks, the
sending tasks, and the disconnection.  The calls are answered, unless the client is
still `Connecting` and they are buffered. -/
structure WoundDown (start later : State S R) : Prop where
  quiet : later.Quiet
  sending : ∀ index, index < start.sendings.length → later.HasSent index
  answered : (∀ connecting, later.networking ≠ .connecting connecting) →
    AllAnswered start later
  released : start.disconnection.isSome = true → later.Released

/-- In a fair execution a client whose connection has ended winds down, and all its
calls are answered if the application goes on sending or polling. -/
def WindsDown (build : Build S R) : Prop :=
  ∀ execution : Execution (system build), FairToTasks execution →
    ∀ place, (∃ cause, (execution.state place).closed = some cause) →
      execution.Eventually place (WoundDown (execution.state place)) ∧
        (execution.FairTo (fun action => action.isOperation = true) →
          execution.Eventually place (AllAnswered (execution.state place)))

/-! ## The connection is there and its accept loop is spawned -/

theorem exists_connection_of_closed (closed : state.closed = some cause) :
    ∃ connection, state.connection = some connection ∧ connection.closed = some cause :=
  Option.bind_eq_some_iff.mp closed

theorem receivingHalf_of_found {connection : Receiving.State (ClientEvent R)}
    (found : state.connection = some connection) : state.receivingHalf = connection := by
  simp [State.receivingHalf, found]

/-- The accept loop is spawned when the client is built, and not before. -/
def SpawnedOnce (state : State S R) : Prop :=
  ∀ connection, state.connection = some connection →
    (connection.acceptTask = .notSpawned ↔ state.connectingTask = .answered .connected)

/-- A transition that has nothing to do with the accept loop. -/
theorem SpawnedOnce.congr (spawnedOnce : SpawnedOnce state)
    (answered : state'.connectingTask = .answered .connected ↔
      state.connectingTask = .answered .connected)
    (same : ∀ after, state'.connection = some after → ∃ before,
      state.connection = some before ∧
        (after.acceptTask = .notSpawned ↔ before.acceptTask = .notSpawned)) :
    SpawnedOnce state' := by
  intro after found
  obtain ⟨before, foundBefore, acceptTask⟩ := same after found
  rw [acceptTask, spawnedOnce before foundBefore, answered]

theorem SpawnedOnce.transition (spawnedOnce : SpawnedOnce state)
    (transition : Transition build state action state') : SpawnedOnce state' := by
  have kept (after : Receiving.State (ClientEvent R)) (found : state.connection = some after) :
      ∃ before, state.connection = some before ∧
        (after.acceptTask = .notSpawned ↔ before.acceptTask = .notSpawned) :=
    ⟨after, found, Iff.rfl⟩
  have dropped (after : Receiving.State (ClientEvent R))
      (found : state.dropConnected.connection = some after) :
      ∃ before, state.connection = some before ∧
        (after.acceptTask = .notSpawned ↔ before.acceptTask = .notSpawned) := by
    obtain ⟨before, foundBefore, rfl⟩ := Option.map_eq_some_iff.mp found
    exact ⟨before, foundBefore, Iff.rfl⟩
  cases transition with
  | pollsQueue networking already found =>
      refine spawnedOnce.congr Iff.rfl ?_
      intro after found'
      obtain rfl := Option.some.inj found'
      exact ⟨_, found, Iff.rfl⟩
  | abandons networking connection =>
      refine spawnedOnce.congr Iff.rfl ?_
      rcases connection with rfl | rfl
      · exact kept
      · exact dropped
  | closes =>
      refine spawnedOnce.congr Iff.rfl ?_
      intro after found
      obtain ⟨closed, foundClosed, rfl⟩ := Option.map_eq_some_iff.mp found
      obtain ⟨before, foundBefore, rfl⟩ := Option.map_eq_some_iff.mp foundClosed
      exact ⟨before, foundBefore, Iff.rfl⟩
  | endsAttempt attempting =>
      intro connection found
      split at found
      next isConnected =>
        obtain rfl := Option.some.inj found
        simp [isConnected, Receiving.State.established]
      next => cases found
  | creates answered found spawned =>
      simp only [Receiving.step, Option.ite_none_right_eq_some, Option.some.injEq] at spawned
      obtain ⟨-, rfl⟩ := spawned
      intro connection found'
      obtain rfl := Option.some.inj found'
      simp
  | delivers created => exact spawnedOnce.congr (by simp [created]) kept
  | discards created => exact spawnedOnce.congr (by simp [created]) dropped
  | givesUp answered => exact spawnedOnce.congr (by simp [answered]) kept
  | panics answered notConnected =>
      exact spawnedOnce.congr (by simp [answered, notConnected]) kept
  | receives isReceiving found stepped =>
      refine spawnedOnce.congr Iff.rfl ?_
      intro after found'
      obtain rfl := Option.some.inj found'
      refine ⟨_, found, ?_⟩
      constructor
      · intro notSpawned
        by_contra spawned
        exact step_spawned spawned stepped notSpawned
      · intro notSpawned
        apply step_notSpawned _ notSpawned stepped
        intro same
        subst same
        cases isReceiving
  | dropsLastHandle =>
      refine spawnedOnce.congr Iff.rfl ?_
      intro after found
      obtain ⟨before, foundBefore, rfl⟩ := Option.map_eq_some_iff.mp found
      exact ⟨before, foundBefore, Iff.rfl⟩
  | _ => exact spawnedOnce.congr Iff.rfl kept

theorem spawnedOnce_of_reachable (reachable : (system build).Reachable state) :
    SpawnedOnce state :=
  reachable.invariant SpawnedOnce (by simp [SpawnedOnce, system, State.new])
    fun _ _ _ _ spawnedOnce stepped =>
      keeps_of_transitions SpawnedOnce
        (fun _ _ spawnedOnce transition => spawnedOnce.transition transition)
        spawnedOnce stepped

/-- What the steps are shown to keep: the client got where it is, and its connection
has ended. -/
structure Ended (build : Build S R) (cause : ConnectionError) (state : State S R) :
    Prop where
  reachable : (system build).Reachable state
  closed : state.closed = some cause

theorem Ended.step (ended : Ended build cause state)
    (stepped : (system build).step state action = some state') :
    Ended build cause state' where
  reachable := ended.reachable.step stepped
  closed := closed_stays (owned_of_reachable ended.reachable) ended.closed
    (System.Reaches.single trivial stepped)

theorem Ended.not_attempting (ended : Ended build cause state) : ¬ state.Attempting := by
  intro attempting
  obtain ⟨connection, found, -⟩ := exists_connection_of_closed ended.closed
  rw [((owned_of_reachable ended.reachable).attempted attempting).2.1] at found
  cases found

/-! ## A client that is still `Connecting` -/

/-- A connection belongs to an attempt that succeeded, and a client that is still
`Connecting` finds the outcome in the channel once the connecting task ended. -/
structure Offered (state : State S R) : Prop where
  succeeded : state.connection.isSome = true →
    state.connectingTask = .answered .connected ∨
      (∃ connected, state.connectingTask = .created connected) ∨
      state.connectingTask = .ended
  inChannel : ∀ connecting, state.networking = .connecting connecting →
    state.connectingTask = .ended → state.connectedClient.value ≠ none

theorem Transition.succeeded (offered : Offered state)
    (transition : Transition build state action state')
    (isSome : state'.connection.isSome = true) :
    state'.connectingTask = .answered .connected ∨
      (∃ connected, state'.connectingTask = .created connected) ∨
      state'.connectingTask = .ended := by
  cases transition with
  | pollsQueue networking already found | receives isReceiving found =>
      exact offered.succeeded (by simp [found])
  | abandons networking kept =>
      apply offered.succeeded
      rcases kept with rfl | rfl
      · exact isSome
      · simpa [State.dropConnected] using isSome
  | closes | dropsLastHandle =>
      apply offered.succeeded
      simpa [State.dropConnected, State.close] using isSome
  | @endsAttempt outcome attempting =>
      cases outcome with
      | connected => exact .inl rfl
      | noEndpoint | connectFailed | handshakeFailed => cases isSome
  | creates => exact .inr (.inl ⟨_, rfl⟩)
  | delivers | discards | givesUp => exact .inr (.inr rfl)
  | panics answered notConnected =>
      have impossible := offered.succeeded isSome
      simp [answered, notConnected] at impossible
  | _ => exact offered.succeeded isSome

theorem Transition.inChannel (decided : Decided state) (offered : Offered state)
    (transition : Transition build state action state')
    {connecting : ClientNetworkingConnecting S}
    (networking : state'.networking = .connecting connecting)
    (ended : state'.connectingTask = .ended) : state'.connectedClient.value ≠ none := by
  cases transition with
  | connects | timesOut | pollsConnected | pollsFailed | abandons | closes => cases networking
  | buffers before => exact offered.inChannel _ before ended
  | endsAttempt | creates | panics => cases ended
  | delivers created held => simp [Oneshot.send, held]
  | discards | givesUp => simp [Oneshot.send, decided.channelHeld _ networking]
  | _ => exact offered.inChannel _ networking ended

theorem offered_of_reachable (reachable : (system build).Reachable state) :
    Offered state := by
  have both := reachable.invariant (fun state => Decided state ∧ Offered state)
    ⟨new_decided, by simp [system, State.new], by simp [system, State.new]⟩ ?_
  · exact both.2
  · intro before action after _ both stepped
    refine keeps_of_transitions (fun state => Decided state ∧ Offered state) ?_ both stepped
    intro before after both transition
    exact ⟨both.1.transition transition, transition.succeeded both.2,
      fun _ => transition.inChannel both.1 both.2⟩

/-- Once the connecting task is over, a client with a connection leaves `Connecting` at
its next operation. -/
theorem Ended.notConnecting_of_operation (ended : Ended build cause state)
    (isOver : state.connectingTask.isOver = true) (operation : action.isOperation = true)
    (stepped : (system build).step state action = some state') :
    ∀ connecting, state'.networking ≠ .connecting connecting := by
  apply Client.notConnecting_of_operation _ operation stepped
  intro connecting isConnecting
  have offered := offered_of_reachable ended.reachable
  obtain ⟨connection, found, -⟩ := exists_connection_of_closed ended.closed
  apply offered.inChannel connecting isConnecting
  rcases offered.succeeded (by simp [found]) with task | ⟨connected, task⟩ | task
  · simp [task, ConnectingTask.isOver] at isOver
  · simp [task, ConnectingTask.isOver] at isOver
  · exact task

theorem calls_length_le (stepped : step build state action = some state') :
    state.calls.length ≤ state'.calls.length := by
  have lengths := congrArg List.length (step_messages stepped)
  simp only [List.length_append, List.length_map] at lengths
  omega

/-! ## The connecting task and the receiving tasks -/

/-- What the connecting task and the receiving tasks have left, in two parts. -/
theorem State.stepsLeft_of_found {connection : Receiving.State (ClientEvent R)}
    (found : state.connection = some connection) :
    state.stepsLeft = state.connectingTask.stepsLeft + connection.stepsLeft := by
  simp [State.stepsLeft, found]

/-- The connecting task gets no more to do. -/
theorem Transition.connecting_stepsLeft_le (notAttempting : ¬ state.Attempting)
    (transition : Transition build state action state') :
    state'.connectingTask.stepsLeft ≤ state.connectingTask.stepsLeft := by
  cases transition with
  | endsAttempt attempting => exact absurd attempting notAttempting
  | creates answered | delivers answered | discards answered | givesUp answered
  | panics answered => simp [answered, ConnectingTask.stepsLeft]
  | _ => exact Nat.le_refl _

/-- No transition gives these tasks more to do once the connection has ended. -/
theorem Transition.stepsLeft_le (owned : Owned state) (closed : state.closed = some cause)
    (transition : Transition build state action state') :
    state'.stepsLeft ≤ state.stepsLeft := by
  obtain ⟨connection, found, closedBefore⟩ := exists_connection_of_closed closed
  obtain ⟨connection', found', -⟩ :=
    exists_connection_of_closed (transition.closed owned closed)
  have notAttempting : ¬ state.Attempting := by
    intro attempting
    rw [(owned.attempted attempting).2.1] at found
    cases found
  have connecting := transition.connecting_stepsLeft_le notAttempting
  have becomes := transition.becomes owned
  simp only [Becomes] at becomes
  rw [receivingHalf_of_found found, receivingHalf_of_found found'] at becomes
  have receiving := reaches_stepsLeft_le closedBefore becomes
  rw [State.stepsLeft_of_found found, State.stepsLeft_of_found found']
  exact Nat.add_le_add connecting receiving

theorem step_stepsLeft_le (owned : Owned state) (closed : state.closed = some cause)
    (stepped : step build state action = some state') :
    state'.stepsLeft ≤ state.stepsLeft := by
  have kept := keeps_of_transitions (fun later : State S R =>
    Owned later ∧ later.closed = some cause ∧ later.stepsLeft ≤ state.stepsLeft) ?_
    ⟨owned, closed, Nat.le_refl _⟩ stepped
  · exact kept.2.2
  · intro before after kept transition
    exact ⟨kept.1.transition transition, transition.closed kept.1 kept.2.1,
      Nat.le_trans (transition.stepsLeft_le kept.1 kept.2.1) kept.2.2⟩

/-- A connecting task that can do nothing more is over. -/
theorem Ended.isOver_of_stuck (ended : Ended build cause state)
    (stuck : state.resumeConnecting build = none) :
    state.connectingTask.isOver = true := by
  obtain ⟨connection, found, -⟩ := exists_connection_of_closed ended.closed
  have spawned := spawnedOnce_of_reachable ended.reachable connection found
  cases task : state.connectingTask with
  | attempting => exact absurd task ended.not_attempting
  | answered outcome =>
      simp only [State.resumeConnecting, task] at stuck
      split at stuck
      next answered =>
        have notSpawned : connection.acceptTask = .notSpawned := by
          apply spawned.mpr
          rw [task, answered]
        simp [found, Receiving.step, notSpawned] at stuck
      next impossible => cases impossible
      next => cases stuck
      next => cases stuck
      next impossible => cases impossible
      next impossible => cases impossible
      next impossible => cases impossible
  | created connected => simp [State.resumeConnecting, task] at stuck
  | ended | panicked => rfl

/-- When the connecting task and the receiving tasks can do nothing more, they are
over. -/
theorem Ended.quiet_of_stuck (ended : Ended build cause state)
    (stuck : (system build).Stuck Action.IsReceiving state) : state.Quiet := by
  have taskOver := ended.isOver_of_stuck (stuck .connectingTask trivial)
  obtain ⟨connection, found, closed⟩ := exists_connection_of_closed ended.closed
  have spawned : connection.acceptTask ≠ .notSpawned := by
    intro notSpawned
    rw [(spawnedOnce_of_reachable ended.reachable connection found).mp notSpawned] at taskOver
    cases taskOver
  refine ⟨taskOver, connection, found, ?_⟩
  apply (connection_accounted ended.reachable found).isOver_of_stuck closed spawned
  intro receiving isTask
  have own := stuck (.receiving receiving) isTask
  cases receiving with
  | spawn => simp [Receiving.system, Receiving.step, spawned]
  | acceptUni | read =>
      simpa [system, Receiving.system, Client.step, isReceiving, found] using own
  | _ => exact isTask.elim

/-- Tasks that are over stay over. -/
theorem Transition.quiet (owned : Owned state) (closed : state.closed = some cause)
    (quiet : state.Quiet) (transition : Transition build state action state') :
    state'.Quiet := by
  obtain ⟨taskOver, connection, found, isOver⟩ := quiet
  obtain ⟨before, foundBefore, closedBefore⟩ := exists_connection_of_closed closed
  obtain rfl := Option.some.inj (found.symm.trans foundBefore)
  obtain ⟨connection', found', -⟩ :=
    exists_connection_of_closed (transition.closed owned closed)
  have becomes := transition.becomes owned
  simp only [Becomes] at becomes
  rw [receivingHalf_of_found found, receivingHalf_of_found found'] at becomes
  refine ⟨?_, connection', found', isOver.reaches closedBefore becomes⟩
  cases transition with
  | endsAttempt task | creates task | delivers task | discards task | givesUp task
  | panics task =>
      rw [task] at taskOver
      cases taskOver
  | _ => exact taskOver

theorem Ended.quiet_step (ended : Ended build cause state) (quiet : state.Quiet)
    (stepped : (system build).step state action = some state') : state'.Quiet := by
  have kept := keeps_of_transitions (fun later : State S R =>
    Owned later ∧ later.closed = some cause ∧ later.Quiet) ?_
    ⟨owned_of_reachable ended.reachable, ended.closed, quiet⟩ stepped
  · exact kept.2.2
  · intro before after kept transition
    exact ⟨kept.1.transition transition, transition.closed kept.1 kept.2.1,
      transition.quiet kept.1 kept.2.1 kept.2.2⟩

/-! ## The sending tasks -/

/-- What a transition does to a sending task: nothing, or one step of it. -/
theorem Transition.sending {index : Nat} {sending : SendingTask S}
    (found : state.sendings[index]? = some sending)
    (transition : Transition build state action state') :
    ∃ after, state'.sendings[index]? = some after ∧
      (after = sending ∨ ∃ answer phase,
        answer.allowed state.closed = true ∧
          sending.phase.resume build.encode sending.message answer = some phase ∧
          after = { sending with phase := phase }) := by
  have inBounds := (List.getElem?_eq_some_iff.mp found).1
  cases transition with
  | connects | sends =>
      exact ⟨sending, (List.getElem?_append_left inBounds).trans found, .inl rfl⟩
  | @resumes other answer task phase connection foundTask connected allowed resumed =>
      by_cases same : other = index
      · subst same
        obtain rfl := Option.some.inj (foundTask.symm.trans found)
        refine ⟨_, List.getElem?_set_self inBounds, .inr ⟨answer, phase, ?_, resumed, rfl⟩⟩
        simpa [State.closed, connected] using allowed
      · exact ⟨sending, (List.getElem?_set_ne same).trans found, .inl rfl⟩
  | _ => exact ⟨sending, found, .inl rfl⟩

/-- A sending task with its message, as the party's tasks are told apart. -/
def State.sendingTask (state : State S R) (index : Nat) : Option (S × SendingPhase) :=
  (state.sendings[index]?).map fun sending => (sending.message, sending.phase)

theorem State.sendingTask_eq_some {index : Nat} {message : S} {phase : SendingPhase} :
    state.sendingTask index = some (message, phase) ↔
      ∃ sending, state.sendings[index]? = some sending ∧ sending.message = message ∧
        sending.phase = phase := by
  simp [State.sendingTask, Option.map_eq_some_iff]

/-- No transition gives a sending task more to do once the connection has ended. -/
theorem Transition.sending_stepsLeft_le {index : Nat} {message : S} {phase : SendingPhase}
    (closed : state.closed = some cause)
    (found : state.sendingTask index = some (message, phase))
    (transition : Transition build state action state') :
    ∃ phase', state'.sendingTask index = some (message, phase') ∧
      phase'.stepsLeft ≤ phase.stepsLeft := by
  obtain ⟨sending, foundSending, rfl, rfl⟩ := State.sendingTask_eq_some.mp found
  obtain ⟨after, foundAfter, same | ⟨answer, phase, allowed, resumed, rfl⟩⟩ :=
    transition.sending foundSending
  · subst same
    exact ⟨_, State.sendingTask_eq_some.mpr ⟨after, foundAfter, rfl, rfl⟩, Nat.le_refl _⟩
  · rw [closed] at allowed
    exact ⟨phase, State.sendingTask_eq_some.mpr ⟨_, foundAfter, rfl, rfl⟩,
      Nat.le_of_lt (SendingPhase.resume_stepsLeft allowed resumed)⟩

/-- The sending tasks of a client. -/
def sendingTasks (build : Build S R) : SendingTasks (system build) build.encode where
  task := State.sendingTask
  closed := State.closed
  resume := .sendingTask
  closed_step := by
    intro before action after cause reachable closed stepped
    exact closed_stays (owned_of_reachable reachable) closed
      (System.Reaches.single trivial stepped)
  step_le := by
    intro before action after cause index message phase reachable closed found stepped
    have kept := keeps_of_transitions (fun later : State S R =>
      Owned later ∧ later.closed = some cause ∧ ∃ phase',
        later.sendingTask index = some (message, phase') ∧
          phase'.stepsLeft ≤ phase.stepsLeft) ?_
      ⟨owned_of_reachable reachable, closed, phase, found, Nat.le_refl _⟩ stepped
    · exact kept.2.2
    · intro middle after kept transition
      obtain ⟨owned, closed, phase', found, left⟩ := kept
      obtain ⟨phase'', foundAfter, leftAfter⟩ :=
        transition.sending_stepsLeft_le closed found
      exact ⟨owned.transition transition, transition.closed owned closed, phase'',
        foundAfter, Nat.le_trans leftAfter left⟩
  resume_lt := by
    intro before after cause index answer message phase closed found stepped
    cases resumeSending_transition stepped with
    | connects operation | timesOut operation => cases operation
    | meets isMeeting => cases isMeeting
    | resumes foundSending connected allowed resumed =>
        obtain ⟨sending, foundAlso, rfl, rfl⟩ := State.sendingTask_eq_some.mp found
        obtain rfl := Option.some.inj (foundSending.symm.trans foundAlso)
        have inBounds := (List.getElem?_eq_some_iff.mp foundSending).1
        simp only [State.closed, connected, Option.bind_some] at closed
        rw [closed] at allowed
        exact ⟨_, State.sendingTask_eq_some.mpr ⟨_, List.getElem?_set_self inBounds, rfl, rfl⟩,
          SendingPhase.resume_stepsLeft allowed resumed⟩
  not_resumed := by
    intro state cause index answer message phase closed found allowed stuck
    obtain ⟨sending, foundSending, rfl, rfl⟩ := State.sendingTask_eq_some.mp found
    obtain ⟨connection, connected, closed⟩ := exists_connection_of_closed closed
    simpa [system, step, State.resumeSending, foundSending, connected, closed, allowed]
      using stuck

/-- The call of a sending task that is over has its answer. -/
theorem Paired.hasAnswered {index : Nat} (paired : Paired state)
    (hasSent : state.HasSent index) : state.HasAnswered index := by
  obtain ⟨sending, found, isOver⟩ := hasSent
  obtain ⟨-, call, foundCall, -, result⟩ := paired.carried index sending found
  refine ⟨call, foundCall, ?_⟩
  rw [result]
  exact isOver.answered

/-- A call keeps its answer. -/
theorem Ended.hasAnswered_step {index : Nat} (ended : Ended build cause state)
    (hasAnswered : state.HasAnswered index)
    (stepped : (system build).step state action = some state') :
    state'.HasAnswered index := by
  obtain ⟨call, found, answered⟩ := hasAnswered
  cases result : getState call.result with
  | stillBeingSent => exact absurd result answered
  | result value =>
      obtain ⟨later, foundLater, -, stays⟩ :=
        answer_stays (paired_of_reachable ended.reachable)
          (System.Reaches.single trivial stepped) ⟨call, found, rfl, result⟩
      exact ⟨later, foundLater, by simp [stays]⟩

/-- A call that has no task and is not buffered has its answer. -/
theorem Paired.hasAnswered_of_no_task {index : Nat} (paired : Paired state)
    (notConnecting : ∀ connecting, state.networking ≠ .connecting connecting)
    (inBounds : index < state.calls.length) (noTask : state.sendings.length ≤ index) :
    state.HasAnswered index := by
  have found := List.getElem?_eq_getElem inBounds
  cases networking : state.networking with
  | connecting connecting => exact absurd networking (notConnecting connecting)
  | connected connected =>
      have length := paired.started connected networking
      omega
  | disconnected whoClosed =>
      have settled := paired.settled whoClosed networking index _ noTask found
      exact ⟨_, found, getState_ne_stillBeingSent settled⟩

/-! ## The end of the connection and the closing task -/

/-- What the endpoint knows of the end of the connection, it knows for good. -/
theorem Transition.drained (transition : Transition build state action state')
    (drained : state.drained = true) : state'.drained = true := by
  cases transition with
  | abandons | closes | dropsLastHandle | discards => exact drained
  | drains => rfl
  | _ => exact drained

theorem drained_step (drained : state.drained = true)
    (stepped : (system build).step state action = some state') : state'.drained = true :=
  keeps_of_transitions (fun later => later.drained = true)
    (fun _ _ drained transition => transition.drained drained) drained stepped

theorem closedOnce_of_reachable (reachable : (system build).Reachable state) :
    ClosedOnce state :=
  reachable.invariant ClosedOnce (by simp [ClosedOnce, system, State.new])
    fun _ _ _ _ closedOnce stepped =>
      keeps_of_transitions ClosedOnce
        (fun _ _ closedOnce transition => transition.closedOnce closedOnce)
        closedOnce stepped

/-- The closing task and the handle make a sound meeting. -/
def Meets (state : State S R) : Prop :=
  ∀ disconnection, state.disconnection = some disconnection → disconnection.Sound

theorem MeetingStep.sound {forbidHandleDrop : Bool} {before after : Disconnection}
    (sound : before.Sound) (meeting : MeetingStep forbidHandleDrop before after) :
    after.Sound := by
  cases meeting with
  | closingTaskWaits awaitsIdle => exact sound.closingTaskWaits awaitsIdle
  | wait held => exact sound.actuallyWait held
  | finishWaiting waiting released =>
      apply sound.finishWaiting _ released
      cases holder : before.handle.holder with
      | waiting ticket => exact ⟨ticket, rfl⟩
      | application | gone => simp [holder, Holder.ticket] at waiting
  | drop held => exact sound.drop held forbidHandleDrop

theorem Transition.meets_sound (sound : Meets state)
    (transition : Transition build state action state') : Meets state' := by
  cases transition with
  | closes =>
      intro disconnection isNew
      obtain rfl := Option.some.inj isNew
      exact Disconnection.new_sound
  | meets isMeeting found meeting =>
      intro disconnection isAfter
      obtain rfl := Option.some.inj isAfter
      exact meeting.sound (sound _ found)
  | _ => exact sound

theorem meets_of_reachable (reachable : (system build).Reachable state) : Meets state :=
  reachable.invariant Meets (by simp [Meets, system, State.new])
    fun _ _ _ _ sound stepped =>
      keeps_of_transitions Meets (fun _ _ sound transition => transition.meets_sound sound)
        sound stepped

/-- A closing task that has arrived does not arrive again, nor does any other step
of the meeting undo that. -/
theorem MeetingStep.closingTask {forbidHandleDrop : Bool} {before after : Disconnection}
    (meeting : MeetingStep forbidHandleDrop before after) :
    after.closingTask = before.closingTask ∨
      before.closingTask = none ∧ after.closingTask.isSome = true := by
  cases meeting with
  | closingTaskWaits awaitsIdle => exact .inr ⟨awaitsIdle, rfl⟩
  | wait => exact .inl rfl
  | finishWaiting => exact .inl (by simp [Disconnection.finishWaiting, Disconnection.drop])
  | drop =>
      apply Or.inl
      simp only [Disconnection.drop]
      split <;> rfl

/-- How many steps the closing task has left before it arrives. -/
def State.closingLeft (state : State S R) : Nat :=
  match state.disconnection with
  | some disconnection => if disconnection.closingTask.isSome then 0 else 1
  | none => 1

/-- A client that disconnected keeps its closing task, which never leaves the barrier. -/
theorem Transition.closingLeft_le (closedOnce : ClosedOnce state)
    (closing : state.disconnection.isSome = true)
    (transition : Transition build state action state') :
    state'.disconnection.isSome = true ∧ state'.closingLeft ≤ state.closingLeft := by
  cases transition with
  | closes networking =>
      rw [closedOnce (Option.isSome_iff_ne_none.mp closing)] at networking
      cases networking
  | meets isMeeting found meeting =>
      refine ⟨rfl, ?_⟩
      simp only [State.closingLeft, found]
      rcases meeting.closingTask with same | ⟨-, arrived⟩
      · rw [same]
      · simp [arrived]
  | _ => exact ⟨closing, Nat.le_refl _⟩

theorem closing_step (closedOnce : ClosedOnce state)
    (closing : state.disconnection.isSome = true)
    (stepped : (system build).step state action = some state') :
    state'.disconnection.isSome = true ∧ state'.closingLeft ≤ state.closingLeft := by
  have kept := keeps_of_transitions (fun later : State S R =>
    ClosedOnce later ∧ later.disconnection.isSome = true ∧
      later.closingLeft ≤ state.closingLeft) ?_
    ⟨closedOnce, closing, Nat.le_refl _⟩ stepped
  · exact kept.2
  · intro before after kept transition
    obtain ⟨closedOnce, closing, left⟩ := kept
    obtain ⟨closingAfter, leftAfter⟩ := transition.closingLeft_le closedOnce closing
    exact ⟨transition.closedOnce closedOnce, closingAfter, Nat.le_trans leftAfter left⟩

/-- Once the closing task has nothing left to do, the barrier is open. -/
theorem released_of_closingLeft (sound : Meets state)
    (closing : state.disconnection.isSome = true) (nothing : state.closingLeft = 0) :
    state.Released := by
  obtain ⟨disconnection, found⟩ := Option.isSome_iff_exists.mp closing
  have arrived : disconnection.closingTask.isSome = true := by
    simp only [State.closingLeft, found] at nothing
    split at nothing
    next arrived => exact arrived
    next => cases nothing
  refine ⟨disconnection, found, arrived, ?_⟩
  apply Bool.eq_false_iff.mpr
  intro blocks
  rw [((sound disconnection found).blocksThread_iff.mp blocks).1] at arrived
  cases arrived

/-- Once the endpoint knows of the end of the connection, the closing task has arrived
when it can do nothing more. -/
theorem Ended.closingLeft_of_stuck (ended : Ended build cause state)
    (drained : state.drained = true) (closing : state.disconnection.isSome = true)
    (stuck : (system build).Stuck (· = .closingTask) state) : state.closingLeft = 0 := by
  obtain ⟨disconnection, found⟩ := Option.isSome_iff_exists.mp closing
  have own := stuck .closingTask rfl
  have idle : state.endpointIdle = true := by
    simp only [State.endpointIdle, drained, Bool.or_true, Bool.and_true]
    apply decide_eq_true
    intro attempting
    exact ended.not_attempting attempting
  cases task : disconnection.closingTask with
  | some ticket => simp [State.closingLeft, found, task]
  | none => simp [system, Client.step, found, idle, task] at own

/-! ## Winding down -/

/-- What is kept while the closing task is on its way. -/
structure ClosingWay (build : Build S R) (cause : ConnectionError) (state : State S R) :
    Prop where
  ended : Ended build cause state
  drained : state.drained = true
  closing : state.disconnection.isSome = true

theorem ClosingWay.step (way : ClosingWay build cause state)
    (stepped : (system build).step state action = some state') :
    ClosingWay build cause state' where
  ended := way.ended.step stepped
  drained := drained_step way.drained stepped
  closing := (closing_step (closedOnce_of_reachable way.ended.reachable) way.closing
    stepped).1

section Winding

variable {execution : Execution (system build)} {place : Nat}

theorem Ended.later {point : Nat} (ended : Ended build cause (execution.state place))
    (order : place ≤ point) : Ended build cause (execution.state point) :=
  Execution.keeps (Ended build cause) (fun _ _ _ ended stepped => ended.step stepped)
    order ended

theorem eventually_quiet (fair : FairToTasks execution)
    (ended : Ended build cause (execution.state place)) :
    execution.Eventually place State.Quiet := by
  apply fair.receiving.eventually (Ended build cause) State.stepsLeft
  · intro before action after ended stepped
    exact ended.step stepped
  · intro before action after ended stepped
    constructor
    · exact step_stepsLeft_le (owned_of_reachable ended.reachable) ended.closed stepped
    · intro own
      exact step_stepsLeft own stepped
  · intro state ended stuck
    exact ended.quiet_of_stuck stuck
  · intro before action after ended quiet stepped
    exact ended.quiet_step quiet stepped
  · exact ended

theorem eventually_hasSent {index : Nat} (fair : FairToTasks execution)
    (ended : Ended build cause (execution.state place))
    (inBounds : index < (execution.state place).sendings.length) :
    execution.Eventually place (State.HasSent index) := by
  have found := List.getElem?_eq_getElem inBounds
  have carries : (sendingTasks build).Carries cause _ index (execution.state place) :=
    ⟨ended.reachable, ended.closed, _, State.sendingTask_eq_some.mpr ⟨_, found, rfl, rfl⟩⟩
  apply (SendingTasks.eventually_hasEnded (fair.sending index) carries).mono
  intro later hasEnded
  obtain ⟨phase, foundLater, isOver⟩ := hasEnded
  obtain ⟨sending, foundSending, -, rfl⟩ := State.sendingTask_eq_some.mp foundLater
  exact ⟨sending, foundSending, isOver⟩

theorem eventually_hasAnswered {index : Nat} (fair : FairToTasks execution)
    (ended : Ended build cause (execution.state place))
    (notConnecting : ∀ connecting,
      (execution.state place).networking ≠ .connecting connecting)
    (inBounds : index < (execution.state place).calls.length) :
    execution.Eventually place (State.HasAnswered index) := by
  have paired := paired_of_reachable ended.reachable
  have kept : ∀ before action after,
      Ended build cause before ∧ before.HasAnswered index →
      (system build).step before action = some after →
      Ended build cause after ∧ after.HasAnswered index := by
    intro before action after holds stepped
    exact ⟨holds.1.step stepped, holds.1.hasAnswered_step holds.2 stepped⟩
  by_cases hasTask : index < (execution.state place).sendings.length
  · have hasSent := eventually_hasSent fair ended hasTask
    have endedThen : execution.Eventually place (Ended build cause) :=
      ⟨place, Nat.le_refl place, fun _ order => ended.later order⟩
    apply (endedThen.and hasSent).mono
    intro later holds
    exact (paired_of_reachable holds.1.reachable).hasAnswered holds.2
  · have answered := paired.hasAnswered_of_no_task notConnecting inBounds
      (Nat.not_lt.mp hasTask)
    apply (Execution.Eventually.ofKept _ kept ⟨ended, answered⟩).mono
    intro later holds
    exact holds.2

theorem eventually_drained (fair : FairToTasks execution)
    (ended : Ended build cause (execution.state place)) :
    execution.Eventually place fun state => state.drained = true := by
  apply fair.drain.eventually (Ended build cause)
    fun state => if state.drained then 0 else 1
  · intro before action after ended stepped
    exact ended.step stepped
  · intro before action after _ stepped
    constructor
    · cases drained : before.drained with
      | true => simp [drained_step drained stepped]
      | false =>
          simp only [Bool.false_eq_true, if_false]
          split <;> simp
    · intro own
      subst own
      simp only [system, step, Option.ite_none_right_eq_some, Option.some.injEq] at stepped
      obtain ⟨⟨-, notYet⟩, rfl⟩ := stepped
      simp [notYet]
  · intro state ended stuck
    obtain ⟨connection, found, closed⟩ := exists_connection_of_closed ended.closed
    have own := stuck .drain rfl
    simpa [system, step, found, closed] using own
  · intro before action after _ drained stepped
    exact drained_step drained stepped
  · exact ended

theorem eventually_released (fair : FairToTasks execution)
    (ended : Ended build cause (execution.state place))
    (closing : (execution.state place).disconnection.isSome = true) :
    execution.Eventually place State.Released := by
  have started := Execution.Eventually.ofKept
    (fun state => Ended build cause state ∧ state.disconnection.isSome = true)
    (fun before action after holds stepped => ⟨holds.1.step stepped,
      (closing_step (closedOnce_of_reachable holds.1.reachable) holds.2 stepped).1⟩)
    ⟨ended, closing⟩
  apply (started.and (eventually_drained fair ended)).andThen
  intro point _ holds
  obtain ⟨⟨ended, closing⟩, drained⟩ := holds
  apply fair.closing.eventually (ClosingWay build cause) State.closingLeft
  · intro before action after way stepped
    exact way.step stepped
  · intro before action after way stepped
    constructor
    · exact (closing_step (closedOnce_of_reachable way.ended.reachable) way.closing
        stepped).2
    · intro own
      subst own
      obtain ⟨disconnection, found, ⟨-, awaitsIdle⟩, rfl⟩ := onDisconnection_eq_some stepped
      simp [State.closingLeft, found, awaitsIdle, Disconnection.closingTaskWaits]
  · intro state way stuck
    exact released_of_closingLeft (meets_of_reachable way.ended.reachable) way.closing
      (way.ended.closingLeft_of_stuck way.drained way.closing stuck)
  · intro before action after way released stepped
    obtain ⟨disconnection, found, arrived, -⟩ := released
    have after := way.step stepped
    apply released_of_closingLeft (meets_of_reachable after.ended.reachable) after.closing
    have notMore := (closing_step (closedOnce_of_reachable way.ended.reachable) way.closing
      stepped).2
    have nothing : before.closingLeft = 0 := by
      simp [State.closingLeft, found, arrived]
    omega
  · exact ⟨ended, drained, closing⟩

/-- After a place at which the client is not `Connecting`, all calls come to be
answered. -/
theorem eventually_allAnswered (fair : FairToTasks execution)
    (ended : Ended build cause (execution.state place)) {point : Nat} (order : place ≤ point)
    (notConnecting : ∀ connecting,
      (execution.state point).networking ≠ .connecting connecting) :
    execution.Eventually place (AllAnswered (execution.state place)) := by
  have endedThere := ended.later order
  have more : (execution.state place).calls.length ≤ (execution.state point).calls.length := by
    refine Execution.keeps
      (fun later : State S R => (execution.state place).calls.length ≤ later.calls.length)
      ?_ order (Nat.le_refl _)
    intro before action after fewer stepped
    exact Nat.le_trans fewer (calls_length_le stepped)
  obtain ⟨answering, order', answered⟩ := Execution.Eventually.all State.HasAnswered
    (execution.state place).calls.length fun index inBounds =>
      eventually_hasAnswered fair endedThere notConnecting
        (Nat.lt_of_lt_of_le inBounds more)
  exact ⟨answering, Nat.le_trans order order', answered⟩

/-- An application that goes on calling takes its client out of `Connecting`. -/
theorem exists_notConnecting (fair : FairToTasks execution)
    (calling : execution.FairTo fun action => action.isOperation = true)
    (ended : Ended build cause (execution.state place)) :
    ∃ point, place ≤ point ∧
      ∀ connecting, (execution.state point).networking ≠ .connecting connecting := by
  obtain ⟨point, order, quiet⟩ := eventually_quiet fair ended
  obtain ⟨later, after, stuck | ⟨action, operation, label⟩⟩ := calling point
  · -- The application can always poll.
    cases stuck .pollEventFromServer rfl
  · have endedThere := ended.later (Nat.le_trans order after)
    have stepped := execution.follows later
    rw [label] at stepped
    exact ⟨later + 1, Nat.le_succ_of_le (Nat.le_trans order after),
      endedThere.notConnecting_of_operation (quiet later after).1 operation stepped⟩

end Winding

theorem windsDown (build : Build S R) : WindsDown build := by
  intro execution fair place hasEnded
  obtain ⟨cause, closed⟩ := hasEnded
  have ended : Ended build cause (execution.state place) := ⟨execution.reachable place, closed⟩
  constructor
  · have quiet := eventually_quiet fair ended
    have sent := Execution.Eventually.all State.HasSent
      (execution.state place).sendings.length
      fun index inBounds => eventually_hasSent fair ended inBounds
    have answered : execution.Eventually place fun later =>
        (∀ connecting, later.networking ≠ .connecting connecting) →
          AllAnswered (execution.state place) later := by
      by_cases leaves : ∃ point, place ≤ point ∧
          ∀ connecting, (execution.state point).networking ≠ .connecting connecting
      · obtain ⟨point, order, notConnecting⟩ := leaves
        apply (eventually_allAnswered fair ended order notConnecting).mono
        intro later holds _
        exact holds
      · refine ⟨place, Nat.le_refl place, ?_⟩
        intro later order notConnecting
        exact absurd ⟨later, order, notConnecting⟩ leaves
    have released : execution.Eventually place fun later =>
        (execution.state place).disconnection.isSome = true → later.Released := by
      cases closing : (execution.state place).disconnection.isSome with
      | true =>
          apply (eventually_released fair ended closing).mono
          intro later holds _
          exact holds
      | false => exact quiet.mono fun later _ impossible => by cases impossible
    apply (quiet.and (sent.and (answered.and released))).mono
    intro later holds
    obtain ⟨quiet, sent, answered, released⟩ := holds
    exact ⟨quiet, sent, answered, released⟩
  · intro calling
    obtain ⟨point, order, notConnecting⟩ := exists_notConnecting fair calling ended
    exact eventually_allAnswered fair ended order notConnecting

end Warqueen.Client
