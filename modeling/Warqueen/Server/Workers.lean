import Warqueen.Server.Release

/-!
# Workers and handles that are not waited for

A closing task whose endpoint is idle blocks a worker until its handle is waited
for.  With fewer such handles than workers some worker can always run the tasks
that have been woken; with as many of them a woken task can starve, and with one
more a thread that waits for the handles one after the other can deadlock.

Only tasks that have been woken count.  What still waits at the socket or for a
timer is taken in by the one worker that holds the I/O driver of the runtime; if
that is the worker that a closing task blocks, one handle is enough to hold it up,
however many workers there are, until something wakes another one.
-/

namespace Warqueen.Server.Process

open Concurrency

variable {workers : Nat} {threadCount : Option ℕ+} {forbidHandleDrop : Bool}
variable {process process' : Process} {action : ProcessAction} {call : Nat}

/-! ## The runs with a number of handles -/

/-- The condition that no handle is dropped instead of being waited for. -/
def keepingHandles (_process : Process) (action : ProcessAction) : Prop :=
  ∀ call, action ≠ .dropHandle call

/-- No thread waits on any handle. -/
def NoneWaiting (process : Process) : Prop :=
  ∀ call ∈ process.calls, call.handle.holder.ticket = none

/-- How many handles are not back from being waited for. -/
def unfinished (process : Process) : Nat :=
  process.calls.countP fun call => !decide (call.handle.holder = .gone)

/-- The application holds this many handles and waits on none, and the endpoint
is idle: all the connections of its clients are closed and drained. -/
structure Holds (process : Process) (handles : Nat) : Prop where
  idle : process.Idle
  noneWaiting : process.NoneWaiting
  unfinished : process.unfinished = handles

/-- The condition that the application is one thread that only waits for its
handles, one after the other. -/
def waitingOneByOne (process : Process) : ProcessAction → Prop
  | .disconnect _ | .dropHandle _ => False
  | .wait _ => process.NoneWaiting
  | _ => True

/-- The condition that no handle is waited for. -/
def withoutWait (_process : Process) : ProcessAction → Prop
  | .wait _ | .dropHandle _ => False
  | _ => True

/-- A worker can come to run the task before a handle is waited for. -/
def MayRun (threadCount : Option ℕ+) (forbidHandleDrop : Bool) (process : Process)
    (task : RuntimeTask) : Prop :=
  ∃ later, (system threadCount forbidHandleDrop).Reaches withoutWait process later ∧
    (system threadCount forbidHandleDrop).step later (.run task) ≠ none

/-- No task that has been woken starves.  What nobody took from the socket yet has woken
no task and does not count. -/
def WokenMayRun (threadCount : Option ℕ+) (forbidHandleDrop : Bool) (process : Process) :
    Prop :=
  ∀ task, process.Woken task → process.MayRun threadCount forbidHandleDrop task

/-- A thread waits on a handle and nothing else than a further wait can release
it. -/
def Deadlocks (threadCount : Option ℕ+) (forbidHandleDrop : Bool) (process : Process) :
    Prop :=
  ∃ call, process.BlocksThread call ∧
    ∀ later, (system threadCount forbidHandleDrop).Reaches withoutWait process later →
      later.BlocksThread call

/-- What holds in every run in which one thread waits for a number of handles in
any order. -/
def Throughout (threadCount : Option ℕ+) (forbidHandleDrop : Bool) (handles : Nat)
    (property : Process → Prop) : Prop :=
  ∀ held, (system threadCount forbidHandleDrop).Reaches keepingHandles .new held →
    held.Holds handles →
    ∀ process, (system threadCount forbidHandleDrop).Reaches waitingOneByOne held process →
      property process

/-! ## Counting handles -/

/-- Changing one element to one that is counted only if it was counted before. -/
theorem countP_modify_le {α : Type} (property : α → Bool) {update : α → α}
    (elements : List α) (index : Nat)
    (counted : ∀ element, elements[index]? = some element →
      property (update element) = true → property element = true) :
    (elements.modify index update).countP property ≤ elements.countP property := by
  induction elements generalizing index with
  | nil => simp
  | cons element rest inductionHypothesis =>
      cases index with
      | zero =>
          have first := counted element rfl
          simp only [List.modify_zero_cons, List.countP_cons]
          split <;> split <;> simp_all
      | succ index =>
          have fewer := inductionHypothesis index counted
          simp only [List.modify_succ_cons, List.countP_cons]
          omega

/-- Changing one element to one that is counted if it was counted before: of those
that are not counted there are no more than before. -/
theorem le_countP_modify {α : Type} (property : α → Bool) {update : α → α}
    (elements : List α) (index : Nat)
    (counted : ∀ element, elements[index]? = some element →
      property element = true → property (update element) = true) :
    elements.countP property ≤ (elements.modify index update).countP property := by
  let notCounted : α → Bool := fun element => ¬ property element
  have fewer : (elements.modify index update).countP notCounted ≤
      elements.countP notCounted := by
    apply countP_modify_le
    intro element found stillNot
    by_contra isCounted
    have stays := counted element found (by simpa [notCounted] using isCounted)
    simp [notCounted, stays] at stillNot
  have before : elements.length =
      elements.countP property + elements.countP notCounted :=
    List.length_eq_countP_add_countP property
  have after : (elements.modify index update).length =
      (elements.modify index update).countP property +
        (elements.modify index update).countP notCounted :=
    List.length_eq_countP_add_countP property
  rw [List.length_modify] at after
  omega

/-- A call that is back from being waited for stays so. -/
theorem CallStep.unfinished {before after : Disconnection}
    (changed : CallStep forbidHandleDrop call before action after)
    (isUnfinished : after.handle.holder ≠ .gone) : before.handle.holder ≠ .gone := by
  cases changed with
  | closingTaskWaits => exact isUnfinished
  | wait held | drop held => simp [held]
  | finishWaiting waiting =>
      obtain ⟨ticket, holder⟩ := waiting
      simp [holder]

theorem unfinished_step (allowed : waitingOneByOne process action)
    (stepped : step workers forbidHandleDrop process action = some process') :
    process'.unfinished ≤ process.unfinished := by
  rcases step_calls_cases stepped with same | ⟨connection, rfl, -⟩ |
    ⟨index, before, after, found, changed, rfl⟩
  · exact Nat.le_of_eq (by rw [unfinished, same, unfinished])
  · exact allowed.elim
  · refine countP_modify_le _ _ index ?_
    intro other foundOther isUnfinished
    obtain rfl : before = other := Option.some.inj (found.symm.trans foundOther)
    have kept := changed.unfinished (by simpa using isUnfinished)
    simpa using kept

/-- No handle was dropped instead of being waited for. -/
def AllWaitedFor (process : Process) : Prop :=
  ∀ call ∈ process.calls, call.handle.holder = .gone → call.handle.waitedFor = true

theorem AllWaitedFor.step (allWaitedFor : process.AllWaitedFor)
    (kept : keepingHandles process action)
    (stepped : step workers forbidHandleDrop process action = some process') :
    process'.AllWaitedFor := by
  intro call member gone
  rcases step_calls_cases stepped with same | ⟨connection, -, added⟩ |
    ⟨index, before, after, found, changed, rfl⟩
  · exact allWaitedFor call (same ▸ member) gone
  · rw [added, List.mem_append] at member
    rcases member with old | isNew
    · exact allWaitedFor call old gone
    · obtain rfl := List.mem_singleton.mp isNew
      cases gone
  · rcases mem_updateCall member with old | ⟨other, foundOther, rfl⟩
    · exact allWaitedFor call old gone
    · obtain rfl : before = other := Option.some.inj (found.symm.trans foundOther)
      cases changed with
      | closingTaskWaits => exact allWaitedFor before (List.mem_of_getElem? found) gone
      | wait => cases gone
      | finishWaiting => simp [Disconnection.finishWaiting, Disconnection.drop]
      | drop => exact absurd rfl (kept index)

/-- What is known in every run with a number of handles. -/
structure Bounded (process : Process) (handles : Nat) : Prop where
  sound : process.Sound
  allWaitedFor : process.AllWaitedFor
  unfinished : process.unfinished ≤ handles

theorem keepingHandles_of_waitingOneByOne
    (allowed : waitingOneByOne process action) : keepingHandles process action := by
  intro call same
  subst same
  exact allowed

theorem bounded_of_reaches {held : Process} {handles : Nat}
    (reachedHeld : (system threadCount forbidHandleDrop).Reaches keepingHandles .new held)
    (holds : held.Holds handles)
    (reached : (system threadCount forbidHandleDrop).Reaches waitingOneByOne held process) :
    process.Bounded handles := by
  have allWaitedFor := reachedHeld.invariant AllWaitedFor (by simp [AllWaitedFor, new])
    fun _ _ _ _ allWaitedFor kept stepped => allWaitedFor.step kept stepped
  have sound : held.Sound := sound_of_reachable reachedHeld.always
  refine reached.invariant (fun process => process.Bounded handles)
    ⟨sound, allWaitedFor, Nat.le_of_eq holds.unfinished⟩ ?_
  intro before action after _ bounded allowed stepped
  exact
    { sound := bounded.sound.step stepped
      allWaitedFor := bounded.allWaitedFor.step
        (keepingHandles_of_waitingOneByOne allowed) stepped
      unfinished := Nat.le_trans (unfinished_step allowed stepped) bounded.unfinished }

/-- Each occupied worker belongs to a handle that the application holds. -/
theorem Bounded.occupied_le {handles : Nat} (bounded : process.Bounded handles) :
    process.occupied ≤
      process.calls.countP fun call => call.handle.holder = .application := by
  apply List.countP_mono_left
  intro call member holds
  obtain ⟨-, held | ⟨gone, dropped⟩⟩ := (bounded.sound call member).holdsWorker_iff.mp holds
  · simpa using held
  · simp [bounded.allWaitedFor call member gone] at dropped

theorem countP_held_le (calls : List Call) :
    (calls.countP fun call => call.handle.holder = .application) ≤
      calls.countP fun call => !decide (call.handle.holder = .gone) := by
  apply List.countP_mono_left
  intro call _ held
  simp only [decide_eq_true_eq] at held
  simp [held]

/-- A thread that waits holds a handle that occupies no worker. -/
theorem held_lt_unfinished (blocked : process.BlocksThread call) :
    (process.calls.countP fun call => call.handle.holder = .application) <
      process.unfinished := by
  obtain ⟨waiting, found, blocks⟩ := (Option.any_eq_true _ _).mp blocked
  obtain ⟨ticket, holder⟩ : ∃ ticket, waiting.handle.holder = .waiting ticket := by
    cases holder : waiting.handle.holder with
    | waiting ticket => exact ⟨ticket, rfl⟩
    | application | gone =>
        simp [Disconnection.blocksThread, holder, Holder.ticket, Barrier.blocks] at blocks
  obtain ⟨before, after, split⟩ := List.append_of_mem (List.mem_of_getElem? found)
  have earlier := countP_held_le before
  have later := countP_held_le after
  simp only [unfinished, split, List.countP_append, List.countP_cons, holder]
  simp
  omega

/-! ## Enough workers -/

/-- A free worker runs any task that has been woken. -/
theorem wokenMayRun_of_free (free : process.occupied < asyncRuntime threadCount) :
    process.WokenMayRun threadCount forbidHandleDrop := by
  intro task woken
  refine ⟨process, System.Reaches.refl, ?_⟩
  simp [system, step, woken, free]

/-- Every connection that is up can still end. -/
theorem reaches_ended (process : Process) :
    (system threadCount forbidHandleDrop).Reaches withoutWait process
      { process with connections := process.connections.map fun state =>
          if state = .up then .closing else state } := by
  refine System.Reaches.map
    (fun connections : List ConnectionState => { process with connections := connections })
    (fun state => if state = .up then .closing else state) process.connections ?_
  intro earlier connection later _
  by_cases up : connection = .up
  · subst up
    let ended : List ConnectionState := earlier.map fun state =>
      if state = .up then .closing else state
    have stepped : (system threadCount forbidHandleDrop).step
        { process with connections := ended ++ .up :: later } (.lose ended.length) =
          some { process with connections := ended ++ .closing :: later } := by
      simp [system, step, close, List.modify_eq_take_cons_drop]
    exact System.Reaches.single (by trivial) stepped
  · rw [if_neg up]
    exact System.Reaches.refl

/-- A thread that waits is released once the endpoint is idle again, as long as
a worker is free. -/
theorem not_deadlocks (sound : process.Sound)
    (free : process.occupied < asyncRuntime threadCount) :
    ¬ process.Deadlocks threadCount forbidHandleDrop := by
  intro deadlocks
  obtain ⟨call, blocked, forever⟩ := deadlocks
  let ended : Process :=
    { process with connections := process.connections.map fun state =>
        if state = .up then .closing else state }
  have ending : (system threadCount forbidHandleDrop).Reaches withoutWait process ended :=
    reaches_ended process
  have noneUp : .up ∉ ended.connections := by
    simp only [ended, List.mem_map, not_exists, not_and]
    intro state _
    by_cases up : state = .up <;> simp [up]
  have soundEnded : ended.Sound := sound
  obtain ⟨released, reached, notBlocked⟩ :=
    soundEnded.releasable forbidHandleDrop (by exact blocked) ⟨noneUp, free⟩
  have runtimeOnly : ∀ process action, byRuntime process action →
      withoutWait process action := by
    intro process action own
    cases action <;> trivial
  exact notBlocked (forever released (ending.trans (reached.mono runtimeOnly)))

/-! ## Too few workers -/

/-- The call whose closing task has arrived, or not yet. -/
def callOf (arrived : Nat) (client : Nat) : Call :=
  { if client < arrived then Disconnection.new.closingTaskWaits else Disconnection.new with
    connection := client }

/-- A server whose clients are all disconnected and drained, with the handles all
held and the first closing tasks at their barriers. -/
def drainedServer (clients arrived : Nat) : Process :=
  { new with
    connections := List.replicate clients .drained
    calls := (List.range clients).map (callOf arrived) }

theorem drainedServer_occupied (clients arrived : Nat) :
    (drainedServer clients arrived).occupied = min arrived clients := by
  have count (clients : Nat) :
      (List.range clients).countP (fun client => (callOf arrived client).holdsWorker) =
        min arrived clients := by
    induction clients with
    | zero => simp
    | succ clients inductionHypothesis =>
        rw [List.range_succ, List.countP_append, inductionHypothesis]
        by_cases isArrived : clients < arrived
        · have holds : (callOf arrived clients).holdsWorker = true := by
            simp only [callOf, isArrived, if_true]
            decide
          simp [holds]
          omega
        · have holds : (callOf arrived clients).holdsWorker = false := by
            simp only [callOf, isArrived, if_false]
            decide
          simp [holds]
          omega
  simpa [occupied, drainedServer, Function.comp_def] using count clients

theorem drainedServer_idle (clients arrived : Nat) :
    (drainedServer clients arrived).Idle := by
  intro connection member
  exact List.eq_of_mem_replicate member

/-- One more client joins, is disconnected and drained. -/
theorem reaches_drainedServer (threadCount : Option ℕ+) (forbidHandleDrop : Bool)
    (clients : Nat) :
    (system threadCount forbidHandleDrop).Reaches keepingHandles .new
      (drainedServer clients 0) := by
  induction clients with
  | zero => exact System.Reaches.refl
  | succ clients inductionHypothesis =>
      have free : 0 < (asyncRuntime threadCount : Nat) := (asyncRuntime threadCount).pos
      let before := drainedServer clients 0
      let joined : Process :=
        { before with connections := List.replicate clients .drained ++ [.up] }
      let disconnected : Process :=
        { before with
          connections := List.replicate clients .drained ++ [.closing]
          calls := before.calls ++ [callOf 0 clients] }
      have noneOccupied : before.occupied = 0 := by simp [before, drainedServer_occupied]
      have noneOccupied' : disconnected.occupied = 0 := by
        have same := drainedServer_occupied (clients + 1) 0
        simpa [occupied, drainedServer, List.range_succ, disconnected, before] using same
      have arrives : (system threadCount forbidHandleDrop).step before .arrive =
          some { before with incoming := 1 } := rfl
      have accepts : (system threadCount forbidHandleDrop).step
          { before with incoming := 1 } (.run .acceptLoop) = some joined := by
        have notFull : ({ before with incoming := 1 } : Process).occupied <
            asyncRuntime threadCount :=
          Nat.lt_of_le_of_lt (Nat.le_of_eq noneOccupied) free
        exact step_run forbidHandleDrop (Nat.lt_succ_self 0) notFull
      have disconnects : (system threadCount forbidHandleDrop).step joined
          (.disconnect clients) = some disconnected := by
        simp [system, step, joined, disconnected, disconnect, close, callOf,
          List.modify_eq_take_cons_drop]
      have drains : (system threadCount forbidHandleDrop).step disconnected
          (.run (.endpointDriver clients)) = some (drainedServer (clients + 1) 0) := by
        have woken : disconnected.Woken (.endpointDriver clients) := by
          simp [Woken, disconnected]
        have drained : disconnected.poll (.endpointDriver clients) =
            drainedServer (clients + 1) 0 := by
          simp [poll, disconnected, before, drainedServer, List.range_succ,
            List.replicate_succ']
        rw [← drained]
        exact step_run forbidHandleDrop woken
          (Nat.lt_of_le_of_lt (Nat.le_of_eq noneOccupied') free)
      exact (((inductionHypothesis.tail (by simp [keepingHandles]) arrives).tail
        (by simp [keepingHandles]) accepts).tail (by simp [keepingHandles])
          disconnects).tail (by simp [keepingHandles]) drains

theorem drainedServer_arrives {clients arrived : Nat} (inBounds : arrived < clients) :
    (drainedServer clients arrived).updateCall arrived Disconnection.closingTaskWaits =
      drainedServer clients (arrived + 1) := by
  simp only [drainedServer, updateCall, mk.injEq, true_and, and_true]
  apply List.ext_getElem?
  intro client
  by_cases isClient : client < clients
  · rcases Nat.lt_trichotomy client arrived with before | rfl | after
    · have different : arrived ≠ client := by omega
      have before' : client < arrived + 1 := by omega
      simp [isClient, callOf, before, before', different]
    · simp [isClient, callOf]
    · have different : arrived ≠ client := by omega
      have after' : ¬ client < arrived := by omega
      have after'' : ¬ client < arrived + 1 := by omega
      simp [isClient, callOf, after', after'', different]
  · simp [isClient]

/-- The closing tasks arrive at their barriers, one worker each. -/
theorem reaches_arrived {clients arrived : Nat}
    (enough : arrived ≤ clients) (free : arrived ≤ asyncRuntime threadCount) :
    (system threadCount forbidHandleDrop).Reaches waitingOneByOne
      (drainedServer clients 0) (drainedServer clients arrived) := by
  induction arrived with
  | zero => exact System.Reaches.refl
  | succ arrived inductionHypothesis =>
      have reached := inductionHypothesis (Nat.le_of_succ_le enough) (Nat.le_of_succ_le free)
      have notFull : (drainedServer clients arrived).occupied <
          asyncRuntime threadCount := by
        rw [drainedServer_occupied]
        omega
      have woken : (drainedServer clients arrived).Woken (.closingTask arrived) := by
        refine ⟨drainedServer_idle clients arrived, ?_⟩
        simp [drainedServer, List.getElem?_range (Nat.lt_of_succ_le enough), callOf,
          Disconnection.new]
      have stepped : (system threadCount forbidHandleDrop).step
          (drainedServer clients arrived) (.run (.closingTask arrived)) =
            some (drainedServer clients (arrived + 1)) := by
        rw [← drainedServer_arrives (Nat.lt_of_succ_le enough)]
        exact step_run forbidHandleDrop woken notFull
      exact reached.tail (by trivial) stepped

/-- While all workers are occupied they stay so, until a handle is waited for. -/
theorem occupied_step (sound : process.Sound) (full : workers ≤ process.occupied)
    (allowed : withoutWait process action)
    (stepped : step workers forbidHandleDrop process action = some process') :
    workers ≤ process'.occupied := by
  refine Nat.le_trans full ?_
  rcases step_calls_cases stepped with same | ⟨connection, -, added⟩ |
    ⟨index, before, after, found, changed, rfl⟩
  · exact Nat.le_of_eq (by rw [occupied, occupied, same])
  · simp [occupied, added]
  · refine le_countP_modify _ _ index ?_
    intro other foundOther holds
    obtain rfl : before = other := Option.some.inj (found.symm.trans foundOther)
    cases changed with
    | closingTaskWaits => simp [step, Nat.not_lt.mpr full] at stepped
    | wait | drop => exact allowed.elim
    | finishWaiting waiting =>
        obtain ⟨ticket, holder⟩ := waiting
        have isSound := sound before (List.mem_of_getElem? found)
        simp [isSound.holdsWorker_iff, holder] at holds

theorem holds_drainedServer (clients : Nat) :
    (drainedServer clients 0).Holds clients := by
  refine ⟨drainedServer_idle clients 0, ?_, ?_⟩
  · simp [NoneWaiting, drainedServer, callOf, Disconnection.new,
      DisconnectionHandle.withBarrier, Holder.ticket]
  · have allHeld : (drainedServer clients 0).unfinished =
        (drainedServer clients 0).calls.length := by
      refine List.countP_eq_length.mpr ?_
      simp [drainedServer, callOf, Disconnection.new, DisconnectionHandle.withBarrier]
    simpa [drainedServer] using allHeld

theorem drainedServer_reachable (threadCount : Option ℕ+) (forbidHandleDrop : Bool)
    (clients : Nat) :
    (system threadCount forbidHandleDrop).Reachable (drainedServer clients 0) :=
  (reaches_drainedServer threadCount forbidHandleDrop clients).always

/-- As many handles as workers can starve a woken task. -/
theorem not_wokenMayRun_of_le (forbidHandleDrop : Bool) {handles : Nat}
    (few : asyncRuntime threadCount ≤ handles) :
    ∃ process, (system threadCount forbidHandleDrop).Reaches waitingOneByOne
        (drainedServer handles 0) process ∧
      ¬ process.WokenMayRun threadCount forbidHandleDrop := by
  let full := drainedServer handles (asyncRuntime threadCount)
  let spawned : Process := { full with tasks := [.woken] }
  have reached : (system threadCount forbidHandleDrop).Reaches waitingOneByOne
      (drainedServer handles 0) full := reaches_arrived few (Nat.le_refl _)
  have spawning : (system threadCount forbidHandleDrop).step full .spawn =
      some spawned := rfl
  refine ⟨spawned, reached.tail (by trivial) spawning, ?_⟩
  intro mayRun
  obtain ⟨later, reachedLater, runs⟩ := mayRun (.other 0) rfl
  have isFull : asyncRuntime threadCount ≤ spawned.occupied := by
    have occupied' : spawned.occupied = min (asyncRuntime threadCount : Nat) handles :=
      drainedServer_occupied handles _
    omega
  have reachable := ((drainedServer_reachable threadCount forbidHandleDrop
    handles).reaches reached).step spawning
  have fullLater := reachedLater.invariant
    (fun process => (asyncRuntime threadCount : Nat) ≤ process.occupied) isFull
    (by
      intro before action after reachedBefore fullBefore allowed stepped
      exact occupied_step (sound_of_reachable (reachable.reaches reachedBefore))
        fullBefore allowed stepped)
  have stopped : later.step (asyncRuntime threadCount) forbidHandleDrop (.run (.other 0)) =
      none := step_of_full forbidHandleDrop fullLater (by trivial)
  exact runs stopped

/-- A thread that waits while all workers are occupied keeps waiting. -/
theorem blocksThread_step (full : workers ≤ process.occupied)
    (blocked : process.BlocksThread call) (allowed : withoutWait process action)
    (stepped : step workers forbidHandleDrop process action = some process') :
    process'.BlocksThread call := by
  rcases step_calls_cases stepped with same | ⟨connection, -, added⟩ |
    ⟨index, before, after, found, changed, rfl⟩
  · rw [BlocksThread, same]
    exact blocked
  · obtain ⟨waiting, found, -⟩ := (Option.any_eq_true _ _).mp blocked
    have inBounds := (List.getElem?_eq_some_iff.mp found).1
    rw [BlocksThread, added, List.getElem?_append_left inBounds]
    exact blocked
  · by_cases equal : index = call
    · subst equal
      cases changed with
      | closingTaskWaits => simp [step, Nat.not_lt.mpr full] at stepped
      | wait | drop => exact allowed.elim
      | finishWaiting _ released =>
          rw [BlocksThread, found] at blocked
          simp [released] at blocked
    · simpa [BlocksThread, updateCall_calls, equal] using blocked

/-- More handles than workers can deadlock a thread that waits for them one
after the other. -/
theorem deadlocks_of_lt (forbidHandleDrop : Bool) {handles : Nat}
    (few : asyncRuntime threadCount < handles) :
    ∃ process, (system threadCount forbidHandleDrop).Reaches waitingOneByOne
        (drainedServer handles 0) process ∧
      process.Deadlocks threadCount forbidHandleDrop := by
  let workers : Nat := asyncRuntime threadCount
  let full := drainedServer handles workers
  let waiting := full.updateCall workers Disconnection.actuallyWaitForProperDisconnection
  have reached : (system threadCount forbidHandleDrop).Reaches waitingOneByOne
      (drainedServer handles 0) full := reaches_arrived (Nat.le_of_lt few) (Nat.le_refl _)
  have next : full.calls[workers]? = some (callOf workers workers) := by
    simp [full, drainedServer, workers, few]
  have notArrived : callOf workers workers =
      { Disconnection.new with connection := workers } := by
    simp [callOf]
  have waits : (system threadCount forbidHandleDrop).step full (.wait workers) =
      some waiting := by
    simp [system, step, next, notArrived, Disconnection.new,
      DisconnectionHandle.withBarrier, waiting]
  have noneWaiting : full.NoneWaiting := by
    intro call member
    obtain ⟨client, -, rfl⟩ := List.mem_map.mp member
    simp only [callOf]
    split <;> rfl
  have isFull : workers ≤ waiting.occupied := by
    have occupied' : full.occupied = min workers handles :=
      drainedServer_occupied handles workers
    have more : full.occupied ≤ waiting.occupied := by
      refine le_countP_modify _ _ workers ?_
      intro other foundOther holds
      obtain rfl : callOf workers workers = other :=
        Option.some.inj (next.symm.trans foundOther)
      rw [notArrived] at holds
      cases holds
    omega
  have blocked : waiting.BlocksThread workers := by
    simp only [BlocksThread, waiting, updateCall_calls, next, notArrived, if_true,
      Option.map_some, Option.any_some]
    exact (Disconnection.new_sound.actuallyWait rfl).blocksThread_iff.mpr ⟨rfl, 0, rfl⟩
  have reachable := ((drainedServer_reachable threadCount forbidHandleDrop
    handles).reaches reached).step waits
  refine ⟨waiting, reached.tail (by exact noneWaiting) waits, workers, blocked, ?_⟩
  intro later reachedLater
  refine (reachedLater.invariant
    (fun process => workers ≤ process.occupied ∧ process.BlocksThread workers)
    ⟨isFull, blocked⟩ ?_).2
  intro before action after reachedBefore holds allowed stepped
  obtain ⟨fullBefore, blockedBefore⟩ := holds
  have sound := sound_of_reachable (reachable.reaches reachedBefore)
  exact ⟨occupied_step sound fullBefore allowed stepped,
    blocksThread_step fullBefore blockedBefore allowed stepped⟩

/-! ## How many handles are safe -/

/-- No woken task starves exactly when there are fewer handles than workers. -/
theorem throughout_wokenMayRun_iff {handles : Nat} :
    Throughout threadCount forbidHandleDrop handles
        (fun process => process.WokenMayRun threadCount forbidHandleDrop) ↔
      handles < asyncRuntime threadCount := by
  constructor
  · intro everywhere
    by_contra few
    obtain ⟨process, reached, starves⟩ :=
      not_wokenMayRun_of_le forbidHandleDrop (Nat.le_of_not_lt few)
    exact starves (everywhere _ (reaches_drainedServer threadCount forbidHandleDrop handles)
      (holds_drainedServer handles) process reached)
  · intro enough held reachedHeld holds process reached
    have bounded := bounded_of_reaches reachedHeld holds reached
    have occupied' := Nat.le_trans bounded.occupied_le (countP_held_le process.calls)
    refine wokenMayRun_of_free (Nat.lt_of_le_of_lt ?_ enough)
    exact Nat.le_trans occupied' bounded.unfinished

/-- The thread that waits never deadlocks exactly when there are no more handles
than workers. -/
theorem throughout_not_deadlocks_iff {handles : Nat} :
    Throughout threadCount forbidHandleDrop handles
        (fun process => ¬ process.Deadlocks threadCount forbidHandleDrop) ↔
      handles ≤ asyncRuntime threadCount := by
  constructor
  · intro never
    by_contra few
    obtain ⟨process, reached, deadlocks⟩ :=
      deadlocks_of_lt forbidHandleDrop (Nat.lt_of_not_le few)
    exact never _ (reaches_drainedServer threadCount forbidHandleDrop handles)
      (holds_drainedServer handles) process reached deadlocks
  · intro enough held reachedHeld holds process reached deadlocks
    have bounded := bounded_of_reaches reachedHeld holds reached
    have ⟨call, blocked, _⟩ := deadlocks
    refine not_deadlocks bounded.sound ?_ deadlocks
    have fewer := held_lt_unfinished blocked
    have occupied' := bounded.occupied_le
    have atMost := bounded.unfinished
    omega

/-- Handles that are not waited for never keep a task that has been woken from being
run, and waiting for them one by one never deadlocks, exactly when there are fewer
handles than workers.  Any worker that is not blocked can run a woken task, which is
assumed of the runtime. -/
theorem handles_block_nothing_iff (threadCount : Option ℕ+) (forbidHandleDrop : Bool)
    (handles : Nat) :
    Throughout threadCount forbidHandleDrop handles (fun process =>
        process.WokenMayRun threadCount forbidHandleDrop ∧
          ¬ process.Deadlocks threadCount forbidHandleDrop) ↔
      handles < asyncRuntime threadCount := by
  constructor
  · intro never
    exact throughout_wokenMayRun_iff.mp fun held reachedHeld holds process reached =>
      (never held reachedHeld holds process reached).1
  · intro enough held reachedHeld holds process reached
    exact ⟨throughout_wokenMayRun_iff.mpr enough held reachedHeld holds process reached,
      throughout_not_deadlocks_iff.mpr (Nat.le_of_lt enough) held reachedHeld holds
        process reached⟩

/-- On the one worker of the default runtime, two handles waited for in some
order are a deadlock. -/
theorem two_handles_deadlock :
    ¬ Throughout none false 2 (fun process =>
      process.WokenMayRun none false ∧ ¬ process.Deadlocks none false) := by
  intro never
  have notDeadlocks : Throughout none false 2 fun process =>
      ¬ process.Deadlocks none false :=
    fun held reachedHeld holds process reached =>
      (never held reachedHeld holds process reached).2
  exact absurd (throughout_not_deadlocks_iff.mp notDeadlocks) (by decide)

end Warqueen.Server.Process
