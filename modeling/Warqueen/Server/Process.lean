import Mathlib.Data.PNat.Defs
import Warqueen.Concurrency.System
import Warqueen.Disconnection

/-!
# A server process that disconnects its clients

All the clients of a listener share one endpoint and one runtime.  Each call of
`ClientOnServerNetworking::disconnect` closes the connection of its client and
spawns a closing task, which awaits that the whole endpoint is idle and then
waits at a barrier for the side of the handle, on a worker of the runtime that
runs nothing else meanwhile.

A task of the runtime takes a step when it has been woken and a worker is free for
it.  The threads of the application need no worker.  What the network sends and
which timers ran out comes in when the worker that holds the I/O driver of the
runtime takes it from the socket and wakes the tasks that await it.  Which worker
that is and when it does so is left open, so what still waits at the socket is no
part of the state.
-/

namespace Warqueen.Server

open Concurrency

/-- How many worker threads `async_runtime` makes. -/
def asyncRuntime (threadCount : Option ℕ+) : ℕ+ := threadCount.getD 1

/-- A connection of the endpoint: established, ended by either side, or
drained, which makes the endpoint forget it. -/
inductive ConnectionState where
  | up
  | closing
  | drained
  deriving DecidableEq, Repr

/-- Whether a task is waiting for something to happen or was woken since. -/
inductive TaskState where
  | pending
  | woken
  deriving DecidableEq, Repr

/-- A call of `disconnect` on the client of a connection. -/
structure Call extends Disconnection where
  connection : Nat
  deriving DecidableEq

/-- The process.  `incoming` connection attempts were taken from the socket and
wait for the accept loop, and `tasks` are the other tasks of the runtime, such as
those that send and receive. -/
structure Process where
  incoming : Nat
  connections : List ConnectionState
  calls : List Call
  tasks : List TaskState
  deriving DecidableEq

/-- The tasks of the runtime. -/
inductive RuntimeTask where
  | acceptLoop
  | endpointDriver (connection : Nat)
  | closingTask (call : Nat)
  | other (task : Nat)
  deriving DecidableEq, Repr

/-- The steps of the workers (`run`), of the I/O driver when it takes in what
happened on the network and to the timers (`arrive`, `lose`, `wake`), of whatever
spawns a task, and of the application. -/
inductive ProcessAction where
  | run (task : RuntimeTask)
  | arrive
  | lose (connection : Nat)
  | spawn
  | wake (task : Nat)
  | disconnect (connection : Nat)
  | wait (call : Nat)
  | finishWaiting (call : Nat)
  | dropHandle (call : Nat)
  deriving DecidableEq, Repr

/-- The labels of the runtime, which moves without the network and without the
threads of the application. -/
def ProcessAction.IsRuntime : ProcessAction → Prop
  | .run _ => True
  | _ => False

namespace Process

/-- A server that nobody connected to yet. -/
def new : Process := { incoming := 0, connections := [], calls := [], tasks := [] }

/-- What `Endpoint::wait_idle` awaits. -/
def Idle (process : Process) : Prop :=
  ∀ connection ∈ process.connections, connection = .drained

instance (process : Process) : Decidable process.Idle :=
  inferInstanceAs (Decidable (∀ connection ∈ process.connections, _))

/-- How many workers are occupied by closing tasks blocked at their barrier. -/
def occupied (process : Process) : Nat :=
  process.calls.countP fun call => call.holdsWorker

/-- The task has been woken and could take a step if a worker ran it.  The driver of a
connection that is closing counts as woken, as if its timer had run out. -/
def Woken (process : Process) : RuntimeTask → Prop
  | .acceptLoop => 0 < process.incoming
  | .endpointDriver connection => process.connections[connection]? = some .closing
  | .closingTask call =>
      process.Idle ∧ (process.calls[call]?).map (·.closingTask) = some none
  | .other task => process.tasks[task]? = some .woken

instance (process : Process) (task : RuntimeTask) : Decidable (process.Woken task) :=
  match task with
  | .acceptLoop => inferInstanceAs (Decidable (_ < _))
  | .endpointDriver _ => inferInstanceAs (Decidable (_ = _))
  | .closingTask _ => inferInstanceAs (Decidable (_ ∧ _))
  | .other _ => inferInstanceAs (Decidable (_ = _))

/-- Change what became of one call of `disconnect`. -/
def updateCall (process : Process) (call : Nat)
    (update : Disconnection → Disconnection) : Process :=
  { process with
    calls := process.calls.modify call fun call =>
      { call with toDisconnection := update call.toDisconnection } }

/-- A worker runs the task until it is pending or blocks. -/
def poll (process : Process) : RuntimeTask → Process
  | .acceptLoop =>
      { process with
        incoming := process.incoming - 1
        connections := process.connections ++ [.up] }
  | .endpointDriver connection =>
      { process with connections := process.connections.set connection .drained }
  | .closingTask call => process.updateCall call Disconnection.closingTaskWaits
  | .other task => { process with tasks := process.tasks.set task .pending }

/-- The connection ends, which it only does once. -/
def close (process : Process) (connection : Nat) : Process :=
  { process with
    connections := process.connections.modify connection fun state =>
      if state = .up then .closing else state }

/-- `ClientOnServerNetworking::disconnect`. -/
def disconnect (process : Process) (connection : Nat) : Process :=
  { process.close connection with
    calls := process.calls ++ [{ Disconnection.new with connection := connection }] }

/-- The step function of the process, on a runtime with some number of workers. -/
def step (workers : Nat) (forbidHandleDrop : Bool) (process : Process) :
    ProcessAction → Option Process
  | .run task =>
      if process.Woken task ∧ process.occupied < workers then some (process.poll task)
      else none
  | .arrive => some { process with incoming := process.incoming + 1 }
  | .lose connection =>
      if process.connections[connection]? = some .up then some (process.close connection)
      else none
  | .spawn => some { process with tasks := process.tasks ++ [.woken] }
  | .wake task =>
      if process.tasks[task]? = some .pending then
        some { process with tasks := process.tasks.set task .woken }
      else none
  | .disconnect connection =>
      if connection < process.connections.length then some (process.disconnect connection)
      else none
  | .wait call =>
      if (process.calls[call]?).map (·.handle.holder) = some .application then
        some (process.updateCall call
          Disconnection.actuallyWaitForProperDisconnection)
      else none
  | .finishWaiting call =>
      if (process.calls[call]?).any fun call =>
          call.handle.holder.ticket.isSome ∧ call.blocksThread = false then
        some (process.updateCall call (Disconnection.finishWaiting forbidHandleDrop))
      else none
  | .dropHandle call =>
      if (process.calls[call]?).map (·.handle.holder) = some .application then
        some (process.updateCall call (Disconnection.drop forbidHandleDrop))
      else none

/-- A server process as a system. -/
def system (threadCount : Option ℕ+) (forbidHandleDrop : Bool) :
    System Process ProcessAction where
  init := .new
  step := step (asyncRuntime threadCount) forbidHandleDrop

/-- A thread is blocked on the handle of the call. -/
def BlocksThread (process : Process) (call : Nat) : Prop :=
  (process.calls[call]?).any (·.blocksThread) = true

variable {workers : Nat} {forbidHandleDrop : Bool} {process process' : Process}
variable {action : ProcessAction} {index : Nat}

/-- A free worker runs a task that has been woken. -/
theorem step_run (forbidHandleDrop : Bool) {task : RuntimeTask}
    (woken : process.Woken task) (free : process.occupied < workers) :
    step workers forbidHandleDrop process (.run task) = some (process.poll task) :=
  if_pos ⟨woken, free⟩

/-! ## What a step does to the calls -/

theorem updateCall_calls (update : Disconnection → Disconnection) (other : Nat) :
    (process.updateCall index update).calls[other]? =
      (process.calls[other]?).map fun call =>
        if index = other then
          { call with toDisconnection := update call.toDisconnection }
        else call := by
  simp [updateCall, List.getElem?_modify]

/-- The part of a step that changes one call of `disconnect`, with what the step
requires of that call. -/
inductive CallStep (forbidHandleDrop : Bool) (call : Nat) (before : Disconnection) :
    ProcessAction → Disconnection → Prop where
  | closingTaskWaits (awaitsIdle : before.closingTask = none) :
      CallStep forbidHandleDrop call before (.run (.closingTask call))
        before.closingTaskWaits
  | wait (held : before.handle.holder = .application) :
      CallStep forbidHandleDrop call before (.wait call)
        before.actuallyWaitForProperDisconnection
  | finishWaiting (waiting : ∃ ticket, before.handle.holder = .waiting ticket)
      (released : before.blocksThread = false) :
      CallStep forbidHandleDrop call before (.finishWaiting call)
        (before.finishWaiting forbidHandleDrop)
  | drop (held : before.handle.holder = .application) :
      CallStep forbidHandleDrop call before (.dropHandle call)
        (before.drop forbidHandleDrop)

theorem CallStep.sound {call : Nat} {before after : Disconnection}
    (changed : CallStep forbidHandleDrop call before action after)
    (sound : before.Sound) : after.Sound := by
  cases changed with
  | closingTaskWaits awaitsIdle => exact sound.closingTaskWaits awaitsIdle
  | wait held => exact sound.actuallyWait held
  | finishWaiting waiting released =>
      exact sound.finishWaiting waiting released forbidHandleDrop
  | drop held => exact sound.drop held forbidHandleDrop

/-- A step that the process takes on one of its calls. -/
def ChangesCall (forbidHandleDrop : Bool) (process process' : Process)
    (action : ProcessAction) : Prop :=
  ∃ index call after, process.calls[index]? = some call ∧
    CallStep forbidHandleDrop index call.toDisconnection action after ∧
    process' = process.updateCall index fun _ => after

theorem changesCall_of_update {call : Call} {update : Disconnection → Disconnection}
    (found : process.calls[index]? = some call)
    (changed : CallStep forbidHandleDrop index call.toDisconnection action
      (update call.toDisconnection)) :
    ChangesCall forbidHandleDrop process (process.updateCall index update) action := by
  refine ⟨index, call, _, found, changed, ?_⟩
  obtain ⟨inBounds, rfl⟩ := List.getElem?_eq_some_iff.mp found
  simp only [updateCall, mk.injEq, true_and, and_true]
  apply List.ext_getElem?
  intro other
  simp only [List.getElem?_modify]
  by_cases equal : index = other
  · subst equal
    simp [inBounds]
  · simp [equal]

/-- A step leaves the calls as they are, adds one, or changes one. -/
theorem step_calls_cases
    (stepped : step workers forbidHandleDrop process action = some process') :
    process'.calls = process.calls ∨
      (∃ connection, action = .disconnect connection ∧
        process'.calls =
          process.calls ++ [{ Disconnection.new with connection := connection }]) ∨
      ChangesCall forbidHandleDrop process process' action := by
  cases action with
  | run task =>
      simp only [step, Option.ite_none_right_eq_some, Option.some.injEq] at stepped
      obtain ⟨⟨woken, -⟩, rfl⟩ := stepped
      cases task with
      | acceptLoop | endpointDriver | other => exact .inl rfl
      | closingTask index =>
          obtain ⟨-, awaits⟩ := woken
          obtain ⟨call, found, awaitsIdle⟩ := Option.map_eq_some_iff.mp awaits
          exact .inr (.inr (changesCall_of_update found (.closingTaskWaits awaitsIdle)))
  | arrive | spawn =>
      obtain rfl := Option.some.inj stepped
      exact .inl rfl
  | lose | wake =>
      simp only [step, Option.ite_none_right_eq_some, Option.some.injEq] at stepped
      obtain ⟨-, rfl⟩ := stepped
      exact .inl rfl
  | disconnect connection =>
      simp only [step, Option.ite_none_right_eq_some, Option.some.injEq] at stepped
      obtain ⟨-, rfl⟩ := stepped
      exact .inr (.inl ⟨connection, rfl, rfl⟩)
  | wait index =>
      simp only [step, Option.ite_none_right_eq_some, Option.some.injEq] at stepped
      obtain ⟨held, rfl⟩ := stepped
      obtain ⟨call, found, held⟩ := Option.map_eq_some_iff.mp held
      exact .inr (.inr (changesCall_of_update found (.wait held)))
  | finishWaiting index =>
      simp only [step, Option.ite_none_right_eq_some, Option.some.injEq] at stepped
      obtain ⟨finishes, rfl⟩ := stepped
      obtain ⟨call, found, waiting⟩ := (Option.any_eq_true _ _).mp finishes
      simp only [Bool.decide_and, Bool.and_eq_true, decide_eq_true_eq] at waiting
      refine .inr (.inr (changesCall_of_update found (.finishWaiting ?_ waiting.2)))
      cases holder : call.handle.holder with
      | waiting ticket => exact ⟨ticket, rfl⟩
      | application | gone => simp [holder, Holder.ticket] at waiting
  | dropHandle index =>
      simp only [step, Option.ite_none_right_eq_some, Option.some.injEq] at stepped
      obtain ⟨held, rfl⟩ := stepped
      obtain ⟨call, found, held⟩ := Option.map_eq_some_iff.mp held
      exact .inr (.inr (changesCall_of_update found (.drop held)))

/-- Every meeting of a closing task with its handle is sound. -/
def Sound (process : Process) : Prop :=
  ∀ call ∈ process.calls, call.Sound

theorem mem_updateCall {update : Disconnection → Disconnection} {call : Call}
    (member : call ∈ (process.updateCall index update).calls) :
    call ∈ process.calls ∨ ∃ before, process.calls[index]? = some before ∧
      call = { before with toDisconnection := update before.toDisconnection } := by
  obtain ⟨other, found⟩ := List.mem_iff_getElem?.mp member
  rw [updateCall_calls] at found
  obtain ⟨before, foundBefore, rfl⟩ := Option.map_eq_some_iff.mp found
  split
  next equal => exact .inr ⟨before, equal ▸ foundBefore, rfl⟩
  next => exact .inl (List.mem_of_getElem? foundBefore)

/-- Every step keeps the meetings sound. -/
theorem Sound.step (sound : process.Sound)
    (stepped : step workers forbidHandleDrop process action = some process') :
    process'.Sound := by
  intro call member
  rcases step_calls_cases stepped with same | ⟨connection, -, added⟩ |
    ⟨index, before, after, found, changed, rfl⟩
  · exact sound call (same ▸ member)
  · rw [added, List.mem_append] at member
    rcases member with old | isNew
    · exact sound call old
    · obtain rfl := List.mem_singleton.mp isNew
      exact Disconnection.new_sound
  · rcases mem_updateCall member with old | ⟨other, foundOther, rfl⟩
    · exact sound call old
    · obtain rfl : before = other := Option.some.inj (found.symm.trans foundOther)
      exact changed.sound (sound before (List.mem_of_getElem? found))

theorem sound_of_reachable {threadCount : Option ℕ+}
    (reachable : (system threadCount forbidHandleDrop).Reachable process) :
    process.Sound :=
  reachable.invariant Sound (by simp [Sound, system, new])
    fun _ _ _ _ sound stepped => sound.step stepped

end Process

end Warqueen.Server
