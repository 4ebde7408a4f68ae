import Warqueen.Client.Ended
import Warqueen.ClientOnServer.Failures

/-!
# The server's end of a connection that has ended

The server's end winds down as a client does: its receiving tasks finish and every
sending task answers its handle, whatever the application goes on asking for.
-/

namespace Warqueen.ClientOnServer

open Concurrency Quinn Receiving Sending

variable {S R : Type} {codec : Codec S R} {state state' : State S R} {action : Action S}
variable {cause : ConnectionError}

/-- The labels of the receiving tasks. -/
def Action.IsReceiving : Action S → Prop
  | .receiving action => action.IsTask
  | _ => False

/-- The runtime passes over none of the tasks of the server's end. -/
structure FairToTasks (execution : Execution (system codec)) : Prop where
  receiving : execution.FairTo Action.IsReceiving
  sending : ∀ index, execution.FairTo fun action =>
    ∃ answer, action = .sendingTask index answer

/-- The message number `index` is no longer being sent, and its handle says so. -/
def State.HasAnswered (index : Nat) (state : State S R) : Prop :=
  ∃ sent, state.sentMessages[index]? = some sent ∧ sent.phase.IsOver ∧
    getState sent.result ≠ .stillBeingSent

/-- All that was going on is over: the receiving tasks and the messages being sent. -/
structure WoundDown (start later : State S R) : Prop where
  receiving : later.connection.IsOver
  answered : ∀ index, index < start.sentMessages.length → later.HasAnswered index

/-- In a fair execution the server's end of a connection that has ended winds down. -/
def WindsDown (codec : Codec S R) : Prop :=
  ∀ execution : Execution (system codec), FairToTasks execution →
    ∀ place, (∃ cause, (execution.state place).connection.closed = some cause) →
      execution.Eventually place (WoundDown (execution.state place))

/-! ## The receiving tasks -/

/-- The server's end is built with its accept loop. -/
theorem spawned_of_reachable (reachable : (system codec).Reachable state) :
    state.connection.acceptTask ≠ .notSpawned := by
  refine reachable.invariant (fun state => state.connection.acceptTask ≠ .notSpawned)
    (by simp [system, State.new]) ?_
  intro before action after _ spawned stepped
  exact (step_connection stepped).invariant (fun half => half.acceptTask ≠ .notSpawned)
    spawned fun _ _ _ _ spawned _ stepped => step_spawned spawned stepped

/-- What the steps are shown to keep: the server's end got where it is, and its
connection has ended. -/
structure Ended (codec : Codec S R) (cause : ConnectionError) (state : State S R) :
    Prop where
  reachable : (system codec).Reachable state
  closed : state.connection.closed = some cause

theorem Ended.step (ended : Ended codec cause state)
    (stepped : (system codec).step state action = some state') :
    Ended codec cause state' where
  reachable := ended.reachable.step stepped
  closed := closed_stays ended.closed (System.Reaches.single trivial stepped)

/-- The steps of the receiving tasks bring them closer to their end. -/
theorem stepsLeft_lt (own : action.IsReceiving)
    (stepped : (system codec).step state action = some state') :
    state'.connection.stepsLeft < state.connection.stepsLeft := by
  cases action with
  | receiving receiving =>
      obtain ⟨connection, rfl, -, received⟩ := receiving_cases stepped
      exact step_stepsLeft own received
  | _ => exact own.elim

/-- When the receiving tasks can do nothing more, they are over. -/
theorem Ended.isOver_of_stuck (ended : Ended codec cause state)
    (stuck : (system codec).Stuck Action.IsReceiving state) : state.connection.IsOver := by
  have spawned := spawned_of_reachable ended.reachable
  apply (connection_accounted ended.reachable).isOver_of_stuck ended.closed spawned
  intro receiving isTask
  have own := stuck (.receiving receiving) isTask
  cases receiving with
  | spawn => simp [Receiving.system, Receiving.step, spawned]
  | acceptUni | read =>
      simpa [system, Receiving.system, ClientOnServer.step, Client.isReceiving] using own
  | _ => exact isTask.elim

theorem eventually_isOver {execution : Execution (system codec)} {place : Nat}
    (fair : FairToTasks execution) (ended : Ended codec cause (execution.state place)) :
    execution.Eventually place fun state => state.connection.IsOver := by
  apply fair.receiving.eventually (Ended codec cause)
    fun state => state.connection.stepsLeft
  · intro before action after ended stepped
    exact ended.step stepped
  · intro before action after ended stepped
    constructor
    · exact reaches_stepsLeft_le ended.closed (step_connection stepped)
    · intro own
      exact stepsLeft_lt own stepped
  · intro state ended stuck
    exact ended.isOver_of_stuck stuck
  · intro before action after ended isOver stepped
    exact isOver.reaches ended.closed (step_connection stepped)
  · exact ended

/-! ## The sending tasks -/

/-- A sending task with its message, as the party's tasks are told apart. -/
def State.sendingTask (state : State S R) (index : Nat) : Option (S × SendingPhase) :=
  (state.sentMessages[index]?).map fun sent => (sent.message, sent.phase)

theorem State.sendingTask_eq_some {index : Nat} {message : S} {phase : SendingPhase} :
    state.sendingTask index = some (message, phase) ↔
      ∃ sent, state.sentMessages[index]? = some sent ∧ sent.message = message ∧
        sent.phase = phase := by
  simp [State.sendingTask, Option.map_eq_some_iff]

/-- The sending tasks of the server's end. -/
def sendingTasks (codec : Codec S R) : SendingTasks (system codec) codec.encode where
  task := State.sendingTask
  closed state := state.connection.closed
  resume := .sendingTask
  closed_step := by
    intro before action after cause _ closed stepped
    exact closed_stays closed (System.Reaches.single trivial stepped)
  step_le := by
    intro before action after cause index message phase _ closed found stepped
    obtain ⟨sent, foundSent, rfl, rfl⟩ := State.sendingTask_eq_some.mp found
    have inBounds := (List.getElem?_eq_some_iff.mp foundSent).1
    have changed := step_sending stepped
    simp only [State.sendingTask]
    generalize after.sentMessages = sentMessages at changed
    cases changed with
    | unchanged => exact ⟨sent.phase, by simp [foundSent], Nat.le_refl _⟩
    | sends =>
        refine ⟨sent.phase, ?_, Nat.le_refl _⟩
        rw [List.getElem?_append_left inBounds, foundSent, Option.map_some]
    | @resumes other answer task phase foundOther allowed resumed =>
        by_cases same : other = index
        · subst same
          obtain rfl := Option.some.inj (foundOther.symm.trans foundSent)
          rw [closed] at allowed
          exact ⟨phase, by simp [inBounds],
            Nat.le_of_lt (SendingPhase.resume_stepsLeft allowed resumed)⟩
        · refine ⟨sent.phase, ?_, Nat.le_refl _⟩
          rw [List.getElem?_set_ne same, foundSent, Option.map_some]
  resume_lt := by
    intro before after cause index answer message phase closed found stepped
    obtain ⟨sent, foundSent, rfl, rfl⟩ := State.sendingTask_eq_some.mp found
    obtain ⟨task, phase, foundTask, allowed, resumed, rfl⟩ :=
      State.resumeSending_eq_some stepped
    obtain rfl := Option.some.inj (foundTask.symm.trans foundSent)
    have inBounds := (List.getElem?_eq_some_iff.mp foundSent).1
    rw [closed] at allowed
    exact ⟨phase, by simp [State.sendingTask, inBounds],
      SendingPhase.resume_stepsLeft allowed resumed⟩
  not_resumed := by
    intro state cause index answer message phase closed found allowed stuck
    obtain ⟨sent, foundSent, rfl, rfl⟩ := State.sendingTask_eq_some.mp found
    simpa [system, step, State.resumeSending, foundSent, closed, allowed] using stuck

theorem eventually_hasAnswered {execution : Execution (system codec)} {place index : Nat}
    (fair : FairToTasks execution) (ended : Ended codec cause (execution.state place))
    (inBounds : index < (execution.state place).sentMessages.length) :
    execution.Eventually place (State.HasAnswered index) := by
  have found := List.getElem?_eq_getElem inBounds
  have carries : (sendingTasks codec).Carries cause _ index (execution.state place) :=
    ⟨ended.reachable, ended.closed, _, State.sendingTask_eq_some.mpr ⟨_, found, rfl, rfl⟩⟩
  have endedThen := Execution.Eventually.ofKept (Ended codec cause)
    (fun _ _ _ ended stepped => ended.step stepped) ended
  apply (endedThen.and
    (SendingTasks.eventually_hasEnded (fair.sending index) carries)).mono
  intro later holds
  obtain ⟨endedLater, phase, foundLater, isOver⟩ := holds
  obtain ⟨sent, foundSent, -, rfl⟩ := State.sendingTask_eq_some.mp foundLater
  refine ⟨sent, foundSent, isOver, ?_⟩
  rw [settled_of_reachable endedLater.reachable sent (List.mem_of_getElem? foundSent)]
  exact isOver.answered

theorem windsDown (codec : Codec S R) : WindsDown codec := by
  intro execution fair place hasEnded
  obtain ⟨cause, closed⟩ := hasEnded
  have ended : Ended codec cause (execution.state place) :=
    ⟨execution.reachable place, closed⟩
  have answered := Execution.Eventually.all State.HasAnswered
    (execution.state place).sentMessages.length
    fun index inBounds => eventually_hasAnswered fair ended inBounds
  apply ((eventually_isOver fair ended).and answered).mono
  intro later holds
  exact ⟨holds.1, holds.2⟩

/-- On both sides all that was going on on a connection comes to its end once the
connection has ended, whoever ended it and whatever the application goes on doing: the
tasks finish, every handle answers unless its message is still buffered by a client that
is not called any more, and who waits for a disconnection goes on. -/
theorem ended_connections_wind_down (build : Client.Build S R) (codec : Codec S R) :
    Client.WindsDown build ∧ WindsDown codec :=
  ⟨Client.windsDown build, windsDown codec⟩

/-! ## A client that notices late -/

/-- A client is given a message, and its connection is lost before it is called again.
When it is, it connects to find that out, disconnects, and waits. -/
def noticedLate : List (Client.Action Bool) :=
  [.sendMessageToServer true, .endAttempt .connected, .connectingTask, .connectingTask,
    .receiving (.lose .timedOut), .pollEventFromServer, .disconnect, .wait,
    .sendingTask 0 .polled, .sendingTask 0 (.opened (.error .timedOut)),
    .receiving .acceptUni, .drain, .closingTask, .finishWaiting]

/-- After that nothing is left to do but to poll again and again, so that the execution
that does so is fair; and in it all is over and answered in the end. -/
theorem ended_connections_wind_down_unnoticed :
    ∃ execution : Execution (Client.system Client.booleans),
      Client.FairToTasks execution ∧
        execution.FairTo (fun action => action.isOperation = true) ∧
        (execution.state 5).closed = some .timedOut ∧
        (∃ connecting, (execution.state 5).networking = .connecting connecting ∧
          connecting.pendingSentMessages ≠ []) ∧
        execution.Eventually 5 (Client.WoundDown (execution.state 5)) ∧
        execution.Eventually 5 (Client.AllAnswered (execution.state 5)) := by
  obtain ⟨last, ran, task, connection, found, streams, returned, sendings, drained,
      networking, meeting, closing, arrived⟩ :
      ∃ last, (Client.system Client.booleans).run .new noticedLate = some last ∧
        last.connectingTask = .ended ∧ ∃ connection, last.connection = some connection ∧
          connection.streams = [] ∧ connection.acceptTask = .returned ∧
          last.sendings =
            [{ message := true, resultSender := 0, phase := .ended .peerClosedOrDied }] ∧
          last.drained = true ∧ last.networking = .disconnected .us ∧
          ∃ meeting, last.disconnection = some meeting ∧ meeting.closingTask = some 1 :=
    ⟨_, rfl, rfl, _, rfl, rfl, rfl, rfl, rfl, rfl, _, rfl, rfl⟩
  have stays (place : Nat) (action : Client.Action Bool)
      (idles : some .pollEventFromServer = some action) :
      (Client.system Client.booleans).step last action = some last := by
    obtain rfl := Option.some.inj idles
    apply congrArg some
    simp only [Client.State.connectIfPossible, Client.State.poll, Client.State.pollEvent,
      networking, Option.toList_none, List.append_nil]
    rw [← networking]
  let execution := Execution.ofRunThen noticedLate ran (fun _ => some .pollEventFromServer)
    stays
  have calling : execution.FairTo (fun action => action.isOperation = true) :=
    Execution.ofRunThen_fairTo (.inr fun place =>
      ⟨place, Nat.le_refl place, .pollEventFromServer, rfl, rfl⟩)
  have fair : Client.FairToTasks execution := by
    constructor
    · apply Execution.ofRunThen_fairTo
      refine .inl fun action own => ?_
      cases action with
      | connectingTask =>
          simp [Client.system, Client.step, Client.State.resumeConnecting, task]
      | receiving receiving =>
          cases receiving with
          | spawn => rfl
          | acceptUni =>
              simp [Client.system, Client.step, Client.isReceiving, found, Receiving.step,
                acceptUni, returned]
          | read =>
              simp [Client.system, Client.step, Client.isReceiving, found, Receiving.step,
                Receiving.read, streams]
          | _ => exact own.elim
      | _ => exact own.elim
    · intro index
      apply Execution.ofRunThen_fairTo
      refine .inl fun action own => ?_
      obtain ⟨answer, rfl⟩ := own
      cases index with
      | zero =>
          cases answer <;>
            simp [Client.system, Client.step, Client.State.resumeSending, sendings, found,
              SendingPhase.resume]
      | succ index =>
          simp [Client.system, Client.step, Client.State.resumeSending, sendings]
    · apply Execution.ofRunThen_fairTo
      refine .inl fun action own => ?_
      subst own
      simp [Client.system, Client.step, drained]
    · apply Execution.ofRunThen_fairTo
      refine .inl fun action own => ?_
      subst own
      simp [Client.system, Client.step, closing, arrived]
  have closed : (execution.state 5).closed = some .timedOut := rfl
  have waits : ∃ connecting, (execution.state 5).networking = .connecting connecting ∧
      connecting.pendingSentMessages ≠ [] := ⟨_, rfl, List.cons_ne_nil _ _⟩
  have windsDown := (ended_connections_wind_down Client.booleans
    { encode := Client.booleans.encode, decode := decodeUnit : Codec Bool Unit }).1
    execution fair 5 ⟨_, closed⟩
  exact ⟨execution, fair, calling, closed, waits, windsDown.1, windsDown.2 calling⟩

end Warqueen.ClientOnServer
