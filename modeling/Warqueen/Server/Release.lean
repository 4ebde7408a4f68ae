import Warqueen.Server.Process

/-!
# When a disconnection is over

`ClientOnServerNetworking::disconnect` closes one connection, but its closing
task awaits that the endpoint has no connection left, and the endpoint is shared
with all the other clients of the listener.  So a thread that waits on the
handle is released by the process alone exactly when no other connection is up
and a worker is free to run the closing task.
-/

namespace Warqueen.Server.Process

open Concurrency

variable {workers : Nat} {threadCount : Option ℕ+} {forbidHandleDrop : Bool}
variable {process process' : Process} {action : ProcessAction} {call : Nat}

/-- The condition that only tasks of the runtime move. -/
def byRuntime (_process : Process) (action : ProcessAction) : Prop := action.IsRuntime

/-- The runtime alone can bring the process to release the thread that waits on
the handle of the call. -/
def Releasable (threadCount : Option ℕ+) (forbidHandleDrop : Bool) (process : Process)
    (call : Nat) : Prop :=
  ∃ released, (system threadCount forbidHandleDrop).Reaches byRuntime process released ∧
    ¬ released.BlocksThread call

/-- The connection whose client the call disconnected is drained. -/
def Drained (process : Process) (call : Nat) : Prop :=
  ∃ disconnected, process.calls[call]? = some disconnected ∧
    process.connections[disconnected.connection]? = some .drained

/-- The endpoint has no connection that is up, and a worker is free. -/
def Releases (workers : Nat) (process : Process) : Prop :=
  .up ∉ process.connections ∧ process.occupied < workers

/-! ## Enough to be released -/

/-- The endpoint driver drains every connection that ended. -/
theorem reaches_idle (free : process.occupied < asyncRuntime threadCount)
    (noneUp : .up ∉ process.connections) :
    (system threadCount forbidHandleDrop).Reaches byRuntime process
      { process with connections := process.connections.map fun _ => .drained } := by
  refine System.Reaches.map
    (fun connections : List ConnectionState => { process with connections := connections })
    (fun _ => .drained) process.connections ?_
  intro earlier connection later split
  cases connection with
  | up => exact absurd (by simp [split]) noneUp
  | drained => exact System.Reaches.refl
  | closing =>
      let drained : List ConnectionState := earlier.map fun _ => .drained
      have stepped : (system threadCount forbidHandleDrop).step
          { process with connections := drained ++ .closing :: later }
          (.run (.endpointDriver drained.length)) =
            some { process with connections := drained ++ .drained :: later } := by
        have free' : ({ process with connections := drained ++ .closing :: later } :
            Process).occupied < asyncRuntime threadCount := free
        simp [system, step, Woken, free', poll]
      exact System.Reaches.single (by trivial) stepped

/-- A blocked thread waits for a closing task that has not arrived. -/
theorem Sound.awaitsIdle (sound : process.Sound) (blocked : process.BlocksThread call) :
    ∃ disconnected, process.calls[call]? = some disconnected ∧
      disconnected.closingTask = none := by
  obtain ⟨disconnected, found, blocks⟩ := (Option.any_eq_true _ _).mp blocked
  have isSound := sound disconnected (List.mem_of_getElem? found)
  exact ⟨disconnected, found, (isSound.blocksThread_iff.mp blocks).1⟩

/-- On an idle endpoint a free worker runs the closing task, which releases the
thread. -/
theorem Sound.closingTask_releases (sound : process.Sound) (forbidHandleDrop : Bool)
    (blocked : process.BlocksThread call) (idle : process.Idle)
    (free : process.occupied < workers) :
    ∃ released, process.step workers forbidHandleDrop (.run (.closingTask call)) =
        some released ∧ ¬ released.BlocksThread call := by
  obtain ⟨disconnected, found, awaitsIdle⟩ := sound.awaitsIdle blocked
  refine ⟨process.updateCall call Disconnection.closingTaskWaits, ?_, ?_⟩
  · simp [Process.step, Woken, idle, found, awaitsIdle, free, poll]
  · have soundCall := sound disconnected (List.mem_of_getElem? found)
    have arrived := soundCall.closingTaskWaits awaitsIdle
    have notBlocked : disconnected.closingTaskWaits.blocksThread = false := by
      rw [Bool.eq_false_iff, ne_eq, arrived.blocksThread_iff]
      simp [Disconnection.closingTaskWaits]
    simp [BlocksThread, updateCall_calls, found, notBlocked]

theorem Sound.releasable (sound : process.Sound) (forbidHandleDrop : Bool)
    (blocked : process.BlocksThread call)
    (releases : process.Releases (asyncRuntime threadCount)) :
    process.Releasable threadCount forbidHandleDrop call := by
  obtain ⟨noneUp, free⟩ := releases
  let idle : Process :=
    { process with connections := process.connections.map fun _ => .drained }
  have isIdle : idle.Idle := by simp [Idle, idle]
  have soundIdle : idle.Sound := sound
  obtain ⟨released, stepped, notBlocked⟩ :=
    soundIdle.closingTask_releases forbidHandleDrop (by exact blocked) isIdle
      (by exact free)
  have stepped' : (system threadCount forbidHandleDrop).step idle
      (.run (.closingTask call)) = some released := stepped
  exact ⟨released, (reaches_idle free noneUp).tail (by trivial) stepped', notBlocked⟩

/-! ## Needed to be released -/

/-- Without a free worker the runtime stands still. -/
theorem step_of_full (forbidHandleDrop : Bool) (full : workers ≤ process.occupied)
    (own : action.IsRuntime) :
    step workers forbidHandleDrop process action = none := by
  cases action with
  | run task => simp [step, Nat.not_lt.mpr full]
  | _ => exact own.elim

/-- While a connection is up no closing task arrives at its barrier, and the
runtime cannot end the connection. -/
theorem step_of_up {connection : Nat}
    (up : process.connections[connection]? = some .up) (own : action.IsRuntime)
    (stepped : step workers forbidHandleDrop process action = some process') :
    process'.connections[connection]? = some .up ∧ process'.calls = process.calls := by
  have notIdle : ¬ process.Idle := by
    intro idle
    have drained := idle .up (List.mem_of_getElem? up)
    cases drained
  cases action with
  | run task =>
      simp only [step, Option.ite_none_right_eq_some, Option.some.injEq] at stepped
      obtain ⟨⟨woken, -⟩, rfl⟩ := stepped
      cases task with
      | acceptLoop =>
          have inBounds := (List.getElem?_eq_some_iff.mp up).1
          exact ⟨(List.getElem?_append_left inBounds).trans up, rfl⟩
      | endpointDriver other =>
          have isClosing : process.connections[other]? = some .closing := woken
          have different : other ≠ connection := by
            intro same
            subst same
            simp [up] at isClosing
          exact ⟨(List.getElem?_set_ne different).trans up, rfl⟩
      | closingTask => exact absurd woken.1 notIdle
      | other => exact ⟨up, rfl⟩
  | _ => exact own.elim

theorem releases_of_releasable (blocked : process.BlocksThread call)
    (releasable : process.Releasable threadCount forbidHandleDrop call) :
    process.Releases (asyncRuntime threadCount) := by
  obtain ⟨released, reached, notBlocked⟩ := releasable
  constructor
  · intro up
    obtain ⟨connection, up⟩ := List.mem_iff_getElem?.mp up
    have same := reached.invariant (fun process' =>
      process'.connections[connection]? = some .up ∧ process'.calls = process.calls)
      ⟨up, rfl⟩ (by
        intro before action after _ ⟨upBefore, sameBefore⟩ own stepped
        obtain ⟨upAfter, sameAfter⟩ := step_of_up upBefore own stepped
        exact ⟨upAfter, sameAfter.trans sameBefore⟩)
    rw [BlocksThread, same.2] at notBlocked
    exact notBlocked blocked
  · by_contra full
    have same := reached.invariant (fun process' => process' = process) rfl (by
      intro before action after _ same own stepped
      subst same
      have stopped := step_of_full forbidHandleDrop (Nat.not_lt.mp full) own
      simp [system, stopped] at stepped)
    rw [same] at notBlocked
    exact notBlocked blocked

/-! ## The shutdown loop -/

/-- A server whose listener has made some clients. -/
def withClients (clients : Nat) : Process :=
  { new with connections := List.replicate clients .up }

/-- The loop that disconnects each client in turn and waits for its handle is the
only thread of the application: it waits for a handle that it holds, and makes
the next call when the thread is back from the waits of the previous ones. -/
def shutdownLoop (clients : Nat) (process : Process) : ProcessAction → Prop
  | .disconnect client =>
      client < clients ∧ client = process.calls.length ∧
        ∀ call ∈ process.calls, call.handle.holder = .gone
  | .dropHandle _ => False
  | _ => True

/-- The loop is never stuck on a client whose connection is drained while a
later client is still connected. -/
def ShutdownNeverStuck (threadCount : Option ℕ+) (forbidHandleDrop : Bool)
    (clients : Nat) : Prop :=
  ∀ process, (system threadCount forbidHandleDrop).Reaches (shutdownLoop clients)
      (withClients clients) process →
    ∀ client later, client < later → later < clients →
      process.BlocksThread client → process.Drained client →
      process.connections[later]? = some .up →
      process.Releasable threadCount forbidHandleDrop client

/-- With at least two clients the loop gets stuck on the first one. -/
theorem shutdown_stuck (threadCount : Option ℕ+) (forbidHandleDrop : Bool)
    (others : Nat) : ¬ ShutdownNeverStuck threadCount forbidHandleDrop (others + 2) := by
  intro neverStuck
  let disconnecting : Process := (withClients (others + 2)).disconnect 0
  let drained : Process := disconnecting.poll (.endpointDriver 0)
  let waiting : Process :=
    drained.updateCall 0 Disconnection.actuallyWaitForProperDisconnection
  have free : 0 < (asyncRuntime threadCount : Nat) := (asyncRuntime threadCount).pos
  have disconnects : (system threadCount forbidHandleDrop).step
      (withClients (others + 2)) (.disconnect 0) = some disconnecting := by
    simp [system, step, withClients, disconnecting]
  have drains : (system threadCount forbidHandleDrop).step disconnecting
      (.run (.endpointDriver 0)) = some drained := by
    have woken : disconnecting.Woken (.endpointDriver 0) := rfl
    have noneOccupied : disconnecting.occupied = 0 := rfl
    simp [system, step, woken, noneOccupied, free, drained]
  have waits : (system threadCount forbidHandleDrop).step drained (.wait 0) =
      some waiting := by
    simp [system, step, drained, disconnecting, disconnect, poll, withClients, new,
      close, Disconnection.new, DisconnectionHandle.withBarrier, waiting]
  have reached : (system threadCount forbidHandleDrop).Reaches (shutdownLoop (others + 2))
      (withClients (others + 2)) waiting :=
    ((System.Reaches.single (by simp [shutdownLoop, withClients, new]) disconnects).tail
      (by trivial) drains).tail (by trivial) waits
  have up : waiting.connections[1]? = some .up := rfl
  have releasable := neverStuck waiting reached 0 1 (by omega) (by omega) (by rfl)
    ⟨_, rfl, rfl⟩ up
  exact (releases_of_releasable (by rfl) releasable).1 (List.mem_of_getElem? up)

theorem shutdownNeverStuck_iff (clients : Nat) :
    ShutdownNeverStuck threadCount forbidHandleDrop clients ↔ clients ≤ 1 := by
  constructor
  · intro neverStuck
    by_contra several
    obtain ⟨others, rfl⟩ := Nat.exists_eq_add_of_le' (Nat.lt_of_not_le several)
    exact shutdown_stuck threadCount forbidHandleDrop others neverStuck
  · intro atMostOne process _ client later before inBounds
    omega

/-- A thread that waits for a client whose connection is drained can be released
by the runtime alone exactly when no other connection of the listener is up and a
worker is free; in particular the shutdown loop needs that there is no second
client. -/
theorem releasable_iff (threadCount : Option ℕ+) (forbidHandleDrop : Bool) :
    (∀ process call, (system threadCount forbidHandleDrop).Reachable process →
      process.BlocksThread call → process.Drained call →
      (process.Releasable threadCount forbidHandleDrop call ↔
        process.Releases (asyncRuntime threadCount))) ∧
    ∀ clients, ShutdownNeverStuck threadCount forbidHandleDrop clients ↔ clients ≤ 1 := by
  refine ⟨?_, shutdownNeverStuck_iff⟩
  intro process call reachable blocked drained
  constructor
  · exact releases_of_releasable blocked
  · exact (sound_of_reachable reachable).releasable forbidHandleDrop blocked

/-- A listener that was joined by some clients, of which the first is
disconnected, drained and waited for. -/
def firstClientLeaves (clients : Nat) : List ProcessAction :=
  (List.replicate clients [.arrive, .run .acceptLoop]).flatten ++
    [.disconnect 0, .run (.endpointDriver 0), .wait 0]

/-- The only client of a listener can leave. -/
theorem only_client_releasable :
    ∃ process, (system none false).run .new (firstClientLeaves 1) = some process ∧
      (process.Releasable none false 0 ↔ process.Releases 1) := by
  obtain ⟨process, ran, blocked, drained⟩ : ∃ process,
      (system none false).run .new (firstClientLeaves 1) = some process ∧
        process.BlocksThread 0 ∧ process.Drained 0 :=
    ⟨_, rfl, rfl, ⟨_, rfl, rfl⟩⟩
  exact ⟨process, ran,
    (releasable_iff none false).1 process 0 (System.reachable_of_run ran) blocked drained⟩

/-- Of two clients the first cannot leave while the second stays. -/
theorem first_of_two_not_releasable :
    ¬ ∀ process call, (system none false).Reachable process →
      process.BlocksThread call → process.Drained call →
      process.Releasable none false call := by
  intro independent
  obtain ⟨process, ran, blocked, drained, up⟩ : ∃ process,
      (system none false).run .new (firstClientLeaves 2) = some process ∧
        process.BlocksThread 0 ∧ process.Drained 0 ∧ .up ∈ process.connections :=
    ⟨_, rfl, rfl, ⟨_, rfl, rfl⟩, by decide⟩
  have releasable := independent process 0 (System.reachable_of_run ran) blocked drained
  exact (releases_of_releasable blocked releasable).1 up

end Warqueen.Server.Process
