import Warqueen.Concurrency.Barrier

/-!
# Disconnection handles

Closing an established connection leaves two parties that meet at a barrier of
two: a closing task, which arrives once the endpoint is idle and occupies its
worker while it is blocked there, and the `DisconnectionHandle`, whose side
arrives when it is waited for or dropped.  `Disconnection` is one such meeting.
-/

namespace Warqueen

open Concurrency

/-- Where the handle is: in the application's hands, in the hands of a thread
that waited at the barrier with a ticket, or gone. -/
inductive Holder where
  | application
  | waiting (ticket : Nat)
  | gone
  deriving DecidableEq, Repr

/-- The ticket of the thread that waits. -/
def Holder.ticket : Holder → Option Nat
  | .waiting ticket => some ticket
  | .application | .gone => none

/-- A `DisconnectionHandle` that has a barrier. -/
structure DisconnectionHandle where
  holder : Holder
  waitedFor : Bool
  deriving DecidableEq, Repr

/-- `DisconnectionHandle::with_barrier`. -/
def DisconnectionHandle.withBarrier : DisconnectionHandle :=
  { holder := .application, waitedFor := false }

/-- A barrier with its two parties.  The closing task has no ticket while it
awaits `wait_idle`. -/
structure Disconnection where
  barrier : Barrier
  closingTask : Option Nat
  handle : DisconnectionHandle
  deriving DecidableEq

namespace Disconnection

/-- What `disconnect` leaves: a barrier of two, the closing task just spawned,
and the handle that it returns. -/
def new : Disconnection :=
  { barrier := .new 2 (by decide), closingTask := none, handle := .withBarrier }

/-- The closing task calls `barrier.wait`. -/
def closingTaskWaits (disconnection : Disconnection) : Disconnection :=
  { disconnection with
    closingTask := some disconnection.barrier.arrivals
    barrier := disconnection.barrier.wait }

/-- `actually_wait_for_proper_disconnection`, up to the return of the wait. -/
def actuallyWaitForProperDisconnection (disconnection : Disconnection) : Disconnection :=
  { disconnection with
    handle.holder := .waiting disconnection.barrier.arrivals
    barrier := disconnection.barrier.wait }

/-- `Drop::drop`.  Where the handle may not be dropped it panics, or not if the
thread is already panicking, and leaves the barrier alone either way. -/
def drop (forbidHandleDrop : Bool) (disconnection : Disconnection) : Disconnection :=
  if disconnection.handle.waitedFor ∨ forbidHandleDrop then
    { disconnection with handle.holder := .gone }
  else disconnection.actuallyWaitForProperDisconnection

/-- The wait has returned: the handle is marked as waited for, then dropped. -/
def finishWaiting (forbidHandleDrop : Bool) (disconnection : Disconnection) :
    Disconnection :=
  drop forbidHandleDrop { disconnection with handle.waitedFor := true }

/-- The closing task occupies its worker: it waits at the barrier for the side
of the handle to arrive. -/
def holdsWorker (disconnection : Disconnection) : Bool :=
  disconnection.barrier.blocks disconnection.closingTask

/-- A thread waits at the barrier for the closing task to arrive. -/
def blocksThread (disconnection : Disconnection) : Bool :=
  disconnection.barrier.blocks disconnection.handle.holder.ticket

/-! ## What a meeting looks like -/

/-- The arrivals at the barrier are those of the two parties, each at most
once. -/
def Sound (disconnection : Disconnection) : Prop :=
  disconnection.barrier.size = 2 ∧
    match disconnection.closingTask, disconnection.handle.holder with
    | none, .application =>
        disconnection.barrier.arrivals = 0 ∧ disconnection.handle.waitedFor = false
    | none, .waiting ticket => disconnection.barrier.arrivals = 1 ∧ ticket = 0
    | none, .gone =>
        disconnection.barrier.arrivals = 0 ∧ disconnection.handle.waitedFor = false
    | some ticket, .application =>
        disconnection.barrier.arrivals = 1 ∧ ticket = 0 ∧
          disconnection.handle.waitedFor = false
    | some ticket, .waiting other =>
        disconnection.barrier.arrivals = 2 ∧ ticket < 2 ∧ other < 2
    | some ticket, .gone =>
        disconnection.barrier.arrivals =
          (if disconnection.handle.waitedFor then 2 else 1) ∧ ticket < 2

variable {disconnection : Disconnection}

theorem new_sound : new.Sound := ⟨rfl, rfl, rfl⟩

theorem Sound.closingTaskWaits (sound : disconnection.Sound)
    (awaitsIdle : disconnection.closingTask = none) :
    disconnection.closingTaskWaits.Sound := by
  refine ⟨sound.1, ?_⟩
  have cases' := sound.2
  rw [awaitsIdle] at cases'
  cases holder : disconnection.handle.holder <;>
    simp_all [Disconnection.closingTaskWaits]

theorem Sound.actuallyWait (sound : disconnection.Sound)
    (held : disconnection.handle.holder = .application) :
    disconnection.actuallyWaitForProperDisconnection.Sound := by
  refine ⟨sound.1, ?_⟩
  have cases' := sound.2
  rw [held] at cases'
  cases closing : disconnection.closingTask <;>
    simp_all [actuallyWaitForProperDisconnection]

theorem Sound.drop (sound : disconnection.Sound)
    (held : disconnection.handle.holder = .application) (forbidHandleDrop : Bool) :
    (disconnection.drop forbidHandleDrop).Sound := by
  simp only [Disconnection.drop]
  split
  · refine ⟨sound.1, ?_⟩
    have cases' := sound.2
    rw [held] at cases'
    cases closing : disconnection.closingTask <;> simp_all
  · exact sound.actuallyWait held

/-- A thread is blocked exactly when it waits and the closing task has not
arrived. -/
theorem Sound.blocksThread_iff (sound : disconnection.Sound) :
    disconnection.blocksThread = true ↔
      disconnection.closingTask = none ∧
        ∃ ticket, disconnection.handle.holder = .waiting ticket := by
  obtain ⟨size, cases'⟩ := sound
  cases holder : disconnection.handle.holder with
  | application | gone => simp [blocksThread, Barrier.blocks, holder, Holder.ticket]
  | waiting ticket =>
      rw [holder] at cases'
      cases closing : disconnection.closingTask <;>
        rw [closing] at cases' <;>
        simp [blocksThread, Barrier.blocks, holder, Holder.ticket, cases',
          Barrier.released_iff_of_lt, size]

/-- A worker is occupied exactly when the closing task has arrived and the side
of the handle has not. -/
theorem Sound.holdsWorker_iff (sound : disconnection.Sound) :
    disconnection.holdsWorker = true ↔
      (∃ ticket, disconnection.closingTask = some ticket) ∧
        (disconnection.handle.holder = .application ∨
          disconnection.handle.holder = .gone ∧
            disconnection.handle.waitedFor = false) := by
  obtain ⟨size, cases'⟩ := sound
  cases closing : disconnection.closingTask with
  | none => simp [holdsWorker, Barrier.blocks, closing]
  | some ticket =>
      rw [closing] at cases'
      cases holder : disconnection.handle.holder with
      | application | waiting =>
          rw [holder] at cases'
          simp [holdsWorker, Barrier.blocks, closing, cases',
            Barrier.released_iff_of_lt, size]
      | gone =>
          rw [holder] at cases'
          cases waited : disconnection.handle.waitedFor <;>
            simp [holdsWorker, Barrier.blocks, closing, cases', waited,
              Barrier.released_iff_of_lt, size]

theorem Sound.finishWaiting (sound : disconnection.Sound)
    (waiting : ∃ ticket, disconnection.handle.holder = .waiting ticket)
    (released : disconnection.blocksThread = false) (forbidHandleDrop : Bool) :
    (disconnection.finishWaiting forbidHandleDrop).Sound := by
  have notAlone : disconnection.closingTask ≠ none := by
    intro alone
    simp [sound.blocksThread_iff.mpr ⟨alone, waiting⟩] at released
  obtain ⟨ticket, arrived⟩ := Option.ne_none_iff_exists'.mp notAlone
  obtain ⟨other, holder⟩ := waiting
  have cases' := sound.2
  rw [arrived, holder] at cases'
  refine ⟨sound.1, ?_⟩
  simp [Disconnection.finishWaiting, Disconnection.drop, arrived, cases']

end Disconnection

end Warqueen
