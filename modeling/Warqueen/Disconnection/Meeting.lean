import Warqueen.Concurrency.System
import Warqueen.Disconnection

/-!
# Meetings of a closing task and a handle

One `Disconnection` as a system of its own: the closing task arrives at the barrier,
the handle ends in one of four ways, and a wait of the handle's side returns.  What
the handle's side did in a run is read off the labels of the run, and its arrivals
off the barrier.
-/

namespace Warqueen.Disconnection

open Concurrency

/-! ## How a handle ends -/

/-- What ends a `DisconnectionHandle`: one of its two methods, which do the same but
for a warning, or its drop. -/
inductive Ending where
  | waitForProperDisconnection
  | waitForProperDisconnectionWhileNotOnTheMainThread
  | drop
  | dropWhilePanicking
  deriving DecidableEq, Repr

/-- The thread that ends a handle. -/
structure Thread where
  isMainThread : Bool
  panicking : Bool
  deriving DecidableEq, Repr

/-- The method that is meant for the thread. -/
def Thread.waits (thread : Thread) : Ending :=
  if thread.isMainThread then .waitForProperDisconnection
  else .waitForProperDisconnectionWhileNotOnTheMainThread

/-- The drop of a handle on the thread. -/
def Thread.drops (thread : Thread) : Ending :=
  if thread.panicking then .dropWhilePanicking else .drop

/-- What `Drop::drop` comes to. -/
inductive DropOutcome where
  | nothing
  | panics
  | waits
  deriving DecidableEq, Repr

/-- `Drop::drop`, on a thread that is panicking or not. -/
def dropOutcome (forbidHandleDrop panicking waitedFor : Bool) : DropOutcome :=
  if waitedFor then .nothing
  else if forbidHandleDrop then
    if panicking then .nothing else .panics
  else .waits

/-- The handle goes the way of its drop. -/
def dropBy (disconnection : Disconnection) : DropOutcome → Disconnection
  | .nothing | .panics => { disconnection with handle.holder := .gone }
  | .waits => disconnection.actuallyWaitForProperDisconnection

/-- The handle ends. -/
def ends (forbidHandleDrop : Bool) (disconnection : Disconnection) :
    Ending → Disconnection
  | .waitForProperDisconnection | .waitForProperDisconnectionWhileNotOnTheMainThread =>
      disconnection.actuallyWaitForProperDisconnection
  | .drop =>
      disconnection.dropBy
        (dropOutcome forbidHandleDrop false disconnection.handle.waitedFor)
  | .dropWhilePanicking =>
      disconnection.dropBy
        (dropOutcome forbidHandleDrop true disconnection.handle.waitedFor)

/-- The handle's side arrives at the barrier when the handle ends so without having
been waited for. -/
def Ending.arrives (forbidHandleDrop : Bool) : Ending → Bool
  | .waitForProperDisconnection | .waitForProperDisconnectionWhileNotOnTheMainThread => true
  | .drop | .dropWhilePanicking => !forbidHandleDrop

/-- Whether the thread is panicking makes no difference to the barrier. -/
theorem drop_eq_dropBy (forbidHandleDrop panicking : Bool) (disconnection : Disconnection) :
    disconnection.drop forbidHandleDrop =
      disconnection.dropBy
        (dropOutcome forbidHandleDrop panicking disconnection.handle.waitedFor) := by
  unfold drop dropOutcome
  cases disconnection.handle.waitedFor <;> cases forbidHandleDrop <;> cases panicking <;> rfl

theorem ends_waits (forbidHandleDrop : Bool) (disconnection : Disconnection)
    (thread : Thread) :
    disconnection.ends forbidHandleDrop thread.waits =
      disconnection.actuallyWaitForProperDisconnection := by
  simp only [Thread.waits]
  split <;> rfl

theorem ends_drops (forbidHandleDrop : Bool) (disconnection : Disconnection)
    (thread : Thread) :
    disconnection.ends forbidHandleDrop thread.drops =
      disconnection.drop forbidHandleDrop := by
  simp only [Thread.drops]
  split
  · exact (drop_eq_dropBy forbidHandleDrop true disconnection).symm
  · exact (drop_eq_dropBy forbidHandleDrop false disconnection).symm

/-! ## The system -/

/-- The steps of a meeting. -/
inductive MeetingAction where
  | closingTaskWaits
  | ends (ending : Ending)
  | waitReturns
  deriving DecidableEq, Repr

/-- The step function of a meeting. -/
def meet (forbidHandleDrop : Bool) (disconnection : Disconnection) :
    MeetingAction → Option Disconnection
  | .closingTaskWaits =>
      if disconnection.closingTask = none then some disconnection.closingTaskWaits
      else none
  | .ends ending =>
      if disconnection.handle.holder = .application then
        some (disconnection.ends forbidHandleDrop ending)
      else none
  | .waitReturns =>
      if disconnection.handle.holder.ticket.isSome ∧
          disconnection.blocksThread = false then
        some (disconnection.finishWaiting forbidHandleDrop)
      else none

/-- A meeting as a system. -/
def meeting (forbidHandleDrop : Bool) : System Disconnection MeetingAction where
  init := .new
  step := meet forbidHandleDrop

/-! ## Arrivals -/

/-- How often the handle's side arrived at the barrier: the arrivals that are not the
closing task's. -/
def handleArrivals (disconnection : Disconnection) : Nat :=
  disconnection.barrier.arrivals - if disconnection.closingTask.isSome then 1 else 0

/-- How the handle ended in a run. -/
def endings (actions : List MeetingAction) : List Ending :=
  actions.filterMap fun
    | .ends ending => some ending
    | _ => none

@[simp] theorem endings_concat (actions : List MeetingAction) (action : MeetingAction) :
    endings (actions ++ [action]) =
      endings actions ++ endings [action] := List.filterMap_append

/-- What the labels of a run say about its last state. -/
structure Recorded (forbidHandleDrop : Bool) (actions : List MeetingAction)
    (disconnection : Disconnection) : Prop where
  sound : disconnection.Sound
  closingTask : disconnection.closingTask.isSome = true ↔ .closingTaskWaits ∈ actions
  returned : disconnection.handle.waitedFor = true →
    disconnection.closingTask.isSome = true
  endings :
    match disconnection.handle.holder with
    | .application => endings actions = []
    | .waiting _ =>
        ∃ ending, endings actions = [ending] ∧ ending.arrives forbidHandleDrop = true
    | .gone =>
        ∃ ending, endings actions = [ending] ∧
          ending.arrives forbidHandleDrop = disconnection.handle.waitedFor

variable {forbidHandleDrop : Bool} {disconnection disconnection' : Disconnection}
variable {actions : List MeetingAction} {action : MeetingAction}

theorem new_recorded (forbidHandleDrop : Bool) : Recorded forbidHandleDrop [] .new where
  sound := new_sound
  closingTask := by simp [new]
  returned := by simp [new, DisconnectionHandle.withBarrier]
  endings := rfl

theorem Sound.ends (sound : disconnection.Sound)
    (held : disconnection.handle.holder = .application) (ending : Ending) :
    (disconnection.ends forbidHandleDrop ending).Sound := by
  cases ending with
  | waitForProperDisconnection | waitForProperDisconnectionWhileNotOnTheMainThread =>
      exact sound.actuallyWait held
  | drop =>
      rw [Disconnection.ends, ← drop_eq_dropBy]
      exact sound.drop held forbidHandleDrop
  | dropWhilePanicking =>
      rw [Disconnection.ends, ← drop_eq_dropBy]
      exact sound.drop held forbidHandleDrop

/-- A handle that the application holds was not waited for. -/
theorem Sound.not_waitedFor (sound : disconnection.Sound)
    (held : disconnection.handle.holder = .application) :
    disconnection.handle.waitedFor = false := by
  have cases' := sound.2
  rw [held] at cases'
  cases closing : disconnection.closingTask <;> rw [closing] at cases'
  · exact cases'.2
  · exact cases'.2.2

/-- Where the handle is once it ended: waiting if its side arrived, and else gone. -/
theorem Sound.ends_holder (sound : disconnection.Sound) (forbidHandleDrop : Bool)
    (held : disconnection.handle.holder = .application) (ending : Ending) :
    (disconnection.ends forbidHandleDrop ending).handle.holder =
        (if ending.arrives forbidHandleDrop then
          .waiting disconnection.barrier.arrivals
        else .gone) ∧
      (disconnection.ends forbidHandleDrop ending).handle.waitedFor = false ∧
      (disconnection.ends forbidHandleDrop ending).closingTask =
        disconnection.closingTask := by
  have notWaitedFor := sound.not_waitedFor held
  cases ending <;> cases forbidHandleDrop <;>
    simp [Disconnection.ends, Ending.arrives, dropOutcome, dropBy, notWaitedFor,
      actuallyWaitForProperDisconnection]

theorem Recorded.step (recorded : Recorded forbidHandleDrop actions disconnection)
    (stepped : meet forbidHandleDrop disconnection action = some disconnection') :
    Recorded forbidHandleDrop (actions ++ [action]) disconnection' := by
  obtain ⟨sound, closingTask, returned, ended⟩ := recorded
  cases action with
  | closingTaskWaits =>
      simp only [meet, Option.ite_none_right_eq_some, Option.some.injEq] at stepped
      obtain ⟨awaitsIdle, rfl⟩ := stepped
      have same : Disconnection.endings (actions ++ [.closingTaskWaits]) =
          Disconnection.endings actions := by
        rw [endings_concat]
        exact List.append_nil _
      refine ⟨sound.closingTaskWaits awaitsIdle, ?_, ?_, ?_⟩
      · simp [Disconnection.closingTaskWaits]
      · simp [Disconnection.closingTaskWaits]
      · rw [same]
        exact ended
  | ends ending =>
      simp only [meet, Option.ite_none_right_eq_some, Option.some.injEq] at stepped
      obtain ⟨held, rfl⟩ := stepped
      obtain ⟨holder, waitedFor, same⟩ :=
        sound.ends_holder forbidHandleDrop held ending
      rw [held] at ended
      have isLast : Disconnection.endings (actions ++ [.ends ending]) = [ending] := by
        rw [endings_concat, ended]
        rfl
      refine ⟨sound.ends held ending, ?_, ?_, ?_⟩
      · simp [same, closingTask]
      · simp [waitedFor]
      · rw [holder, waitedFor]
        cases arrives : ending.arrives forbidHandleDrop
        · exact ⟨ending, isLast, arrives⟩
        · exact ⟨ending, isLast, arrives⟩
  | waitReturns =>
      simp only [meet, Option.ite_none_right_eq_some, Option.some.injEq] at stepped
      obtain ⟨⟨waiting, released⟩, rfl⟩ := stepped
      cases holder : disconnection.handle.holder with
      | application | gone => simp [holder, Holder.ticket] at waiting
      | waiting ticket =>
          rw [holder] at ended
          obtain ⟨ending, isLast, arrives⟩ := ended
          have notAlone : disconnection.closingTask ≠ none := by
            intro alone
            simp [sound.blocksThread_iff.mpr ⟨alone, ticket, holder⟩] at released
          refine ⟨sound.finishWaiting ⟨ticket, holder⟩ released forbidHandleDrop,
            ?_, ?_, ?_⟩
          · simp [finishWaiting, drop, closingTask]
          · simpa [finishWaiting, drop, Option.isSome_iff_ne_none] using notAlone
          · refine ⟨ending, ?_, ?_⟩
            · rw [endings_concat, isLast]
              rfl
            · simp [finishWaiting, drop, arrives]

theorem recorded_of_run
    (ran : (meeting forbidHandleDrop).run .new actions = some disconnection) :
    Recorded forbidHandleDrop actions disconnection :=
  System.run_history (Recorded forbidHandleDrop) (new_recorded forbidHandleDrop)
    (fun _ _ _ _ _ recorded stepped => recorded.step stepped) ran

/-! ## Partners -/

/-- The two parties of a meeting, after a run.  The handle ends at most once, its side
arrives once if it ended in a way that arrives and else never, there are no more
arrivals than the barrier is for, the closing task is blocked without its handle only
if the handle ended without an arrival, and a wait returned only after the arrival of
the closing task. -/
structure Partners (forbidHandleDrop : Bool) (actions : List MeetingAction)
    (disconnection : Disconnection) : Prop where
  endsOnce : (endings actions).length =
    if disconnection.handle.holder = .application then 0 else 1
  arrivesOnce : disconnection.handleArrivals =
    (endings actions).countP fun ending => ending.arrives forbidHandleDrop
  noneLate : disconnection.barrier.arrivals ≤ disconnection.barrier.size
  blockedAlone : disconnection.handle.holder = .gone →
    (disconnection.holdsWorker = true ↔
      .closingTaskWaits ∈ actions ∧
        ∃ ending ∈ endings actions, ending.arrives forbidHandleDrop = false)
  returned : disconnection.handle.waitedFor = true → .closingTaskWaits ∈ actions

/-- The arrivals of the handle's side are read off where the handle is. -/
theorem Sound.handleArrivals_eq (sound : disconnection.Sound) :
    disconnection.handleArrivals =
      match disconnection.handle.holder with
      | .application => 0
      | .waiting _ => 1
      | .gone => if disconnection.handle.waitedFor then 1 else 0 := by
  have cases' := sound.2
  simp only [handleArrivals]
  cases holder : disconnection.handle.holder with
  | application | waiting =>
      rw [holder] at cases'
      cases closing : disconnection.closingTask <;> rw [closing] at cases' <;>
        simp [cases']
  | gone =>
      rw [holder] at cases'
      cases closing : disconnection.closingTask with
      | none =>
          rw [closing] at cases'
          simp [cases']
      | some ticket =>
          rw [closing] at cases'
          cases waitedFor : disconnection.handle.waitedFor <;> simp [cases', waitedFor]

/-- Nobody arrives a third time. -/
theorem Sound.arrivals_le (sound : disconnection.Sound) :
    disconnection.barrier.arrivals ≤ disconnection.barrier.size := by
  obtain ⟨size, cases'⟩ := sound
  rw [size]
  cases holder : disconnection.handle.holder <;>
    cases closing : disconnection.closingTask <;> rw [holder, closing] at cases' <;>
    simp only at cases'
  case gone.some =>
    cases waitedFor : disconnection.handle.waitedFor <;> simp [cases', waitedFor]
  all_goals omega

theorem Recorded.partners (recorded : Recorded forbidHandleDrop actions disconnection) :
    Partners forbidHandleDrop actions disconnection := by
  obtain ⟨sound, closingTask, returned, ended⟩ := recorded
  have arrivals := sound.handleArrivals_eq
  have noneLate := sound.arrivals_le
  have arrived (waitedFor : disconnection.handle.waitedFor = true) :=
    closingTask.mp (returned waitedFor)
  cases holder : disconnection.handle.holder with
  | application =>
      rw [holder] at ended arrivals
      refine ⟨?_, ?_, noneLate, ?_, arrived⟩
      · simp [holder, ended]
      · simp [arrivals, ended]
      · simp [holder]
  | waiting ticket =>
      rw [holder] at ended arrivals
      obtain ⟨ending, isLast, arrives⟩ := ended
      refine ⟨?_, ?_, noneLate, ?_, arrived⟩
      · simp [holder, isLast]
      · simp [arrivals, isLast, arrives]
      · simp [holder]
  | gone =>
      rw [holder] at ended arrivals
      obtain ⟨ending, isLast, arrives⟩ := ended
      refine ⟨?_, ?_, noneLate, ?_, arrived⟩
      · simp [holder, isLast]
      · simp [arrivals, isLast, arrives]
      · intro _
        rw [sound.holdsWorker_iff, ← closingTask, isLast]
        simp [holder, arrives, Option.isSome_iff_exists]

/-- In every run of a meeting the parties find each other. -/
theorem partners_of_run
    (ran : (meeting forbidHandleDrop).run .new actions = some disconnection) :
    Partners forbidHandleDrop actions disconnection :=
  (recorded_of_run ran).partners

/-- Nothing more happens to a meeting whose handle is gone once the closing task
arrived. -/
theorem meet_of_gone (gone : disconnection.handle.holder = .gone)
    (arrived : disconnection.closingTask.isSome = true) (action : MeetingAction) :
    meet forbidHandleDrop disconnection action = none := by
  cases action with
  | closingTaskWaits => exact if_neg (Option.isSome_iff_ne_none.mp arrived)
  | ends ending => exact if_neg (by simp [gone])
  | waitReturns => exact if_neg (by simp [gone, Holder.ticket])

end Warqueen.Disconnection
