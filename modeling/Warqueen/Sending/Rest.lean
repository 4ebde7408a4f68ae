import Warqueen.Concurrency.Fairness
import Warqueen.Sending

/-!
# A sending task after the loss of its connection

Once the connection has ended, Quinn answers every await of `send_message` with the
cause, or with what it knew before, and no byte is written any more.  So the task has
only few steps left, and cannot stop before the last of them.
-/

namespace Warqueen.Sending

open Concurrency Quinn

variable {S : Type} {encode : S → Option (List UInt8)} {message : S}
variable {phase phase' : SendingPhase} {cause : ConnectionError}

/-- The task is over. -/
def SendingPhase.IsOver : SendingPhase → Prop
  | .ended _ | .panicked => True
  | .spawned | .opening _ | .writing _ _ | .stopping _ => False

/-- How many steps the task has left on a connection that has ended. -/
def SendingPhase.stepsLeft : SendingPhase → Nat
  | .spawned => 4
  | .opening _ => 3
  | .writing _ _ => 2
  | .stopping _ => 1
  | .ended _ | .panicked => 0

/-- Every answer leaves fewer steps. -/
theorem SendingPhase.resume_stepsLeft {answer : Answer}
    (allowed : answer.allowed (some cause) = true)
    (resumed : phase.resume encode message answer = some phase') :
    phase'.stepsLeft < phase.stepsLeft := by
  simp only [SendingPhase.resume] at resumed
  split at resumed
  next =>
    split at resumed <;> obtain rfl := Option.some.inj resumed <;>
      simp [SendingPhase.stepsLeft]
  next => cases allowed
  next =>
    obtain rfl := Option.some.inj resumed
    simp [SendingPhase.stepsLeft]
  next => cases allowed
  next =>
    obtain rfl := Option.some.inj resumed
    simp [SendingPhase.stepsLeft]
  next =>
    simp only [Option.ite_none_right_eq_some, Option.some.injEq] at resumed
    obtain ⟨-, rfl⟩ := resumed
    simp [SendingPhase.stepsLeft]
  next =>
    obtain rfl := Option.some.inj resumed
    simp [SendingPhase.stepsLeft]
  next =>
    obtain rfl := Option.some.inj resumed
    simp [SendingPhase.stepsLeft]
  next => cases resumed

/-- A task that no answer makes go on is over. -/
theorem SendingPhase.isOver_of_stuck (encode : S → Option (List UInt8)) (message : S)
    (cause : ConnectionError)
    (stuck : ∀ answer : Answer, answer.allowed (some cause) = true →
      phase.resume encode message answer = none) : phase.IsOver := by
  cases phase with
  | ended | panicked => trivial
  | spawned =>
      have polled := stuck .polled rfl
      simp only [SendingPhase.resume] at polled
      split at polled <;> cases polled
  | opening messageRaw =>
      have failed := stuck (.opened (.error cause)) (by simp [Answer.allowed])
      cases failed
  | writing stream rest =>
      have failed := stuck (.wrote (.error (.connectionLost cause))) (by simp [Answer.allowed])
      cases failed
  | stopping stream =>
      have failed := stuck (.stopped (.error (.connectionLost cause)))
        (by simp [Answer.allowed])
      cases failed

/-- A task is over exactly when it has no steps left. -/
theorem SendingPhase.isOver_iff : phase.IsOver ↔ phase.stepsLeft = 0 := by
  cases phase <;> simp [SendingPhase.IsOver, SendingPhase.stepsLeft]

/-- The handle of a task that is over has its answer. -/
theorem SendingPhase.IsOver.answered (isOver : phase.IsOver) :
    getState (phase.settle .channel) ≠ .stillBeingSent := by
  rw [getState_settle]
  cases phase with
  | ended | panicked => simp [SendingPhase.answer]
  | spawned | opening | writing | stopping => exact isOver.elim

/-! ## What is still written -/

/-- All of the message was written, and the task has not failed. -/
def SendingPhase.hasWritten : SendingPhase → Bool
  | .writing _ rest => rest.isEmpty
  | .stopping _ | .ended .sent => true
  | .spawned | .opening _ | .ended _ | .panicked => false

/-- The task has still to write a part of its message. -/
def SendingPhase.stillWriting : SendingPhase → Bool
  | .spawned | .opening _ => true
  | .writing _ rest => !rest.isEmpty
  | .stopping _ | .ended _ | .panicked => false

theorem SendingPhase.not_stillWriting (written : phase.hasWritten = true) :
    phase.stillWriting = false := by
  cases phase with
  | spawned | opening | panicked => cases written
  | writing stream rest =>
      simpa [SendingPhase.hasWritten, SendingPhase.stillWriting] using written
  | stopping | ended => rfl

/-- On a connection that has ended no task comes to have written its message. -/
theorem SendingPhase.resume_hasWritten {answer : Answer}
    (allowed : answer.allowed (some cause) = true)
    (resumed : phase.resume encode message answer = some phase')
    (written : phase'.hasWritten = true) : phase.hasWritten = true := by
  have failed (error : SendingError) :
      SendingPhase.hasWritten (.ended (.fromResult (.error error))) ≠ true := by
    have notSent := fromResult_error_ne_sent error
    cases result : SendingResult.fromResult (.error error) with
    | sent => exact absurd result notSent
    | weClosed | peerClosedOrDied | error => simp [SendingPhase.hasWritten]
  simp only [SendingPhase.resume] at resumed
  split at resumed
  next =>
    split at resumed <;>
      (obtain rfl := Option.some.inj resumed; cases written)
  next => cases allowed
  next =>
    obtain rfl := Option.some.inj resumed
    exact absurd written (failed _)
  next => cases allowed
  next =>
    obtain rfl := Option.some.inj resumed
    exact absurd written (failed _)
  next =>
    simp only [Option.ite_none_right_eq_some, Option.some.injEq] at resumed
    obtain ⟨rfl, rfl⟩ := resumed
    rfl
  next => rfl
  next => rfl
  next => cases resumed

/-! ## The sending tasks of a party -/

/-- A party with sending tasks: where each of them is, which label resumes it, and that
the party leaves them to themselves. -/
structure SendingTasks {Party Action : Type} (system : System Party Action)
    (encode : S → Option (List UInt8)) where
  task : Party → Nat → Option (S × SendingPhase)
  closed : Party → Option ConnectionError
  resume : Nat → Answer → Action
  closed_step : ∀ {before action after cause}, system.Reachable before →
    closed before = some cause → system.step before action = some after →
    closed after = some cause
  step_le : ∀ {before action after cause index message phase}, system.Reachable before →
    closed before = some cause → task before index = some (message, phase) →
    system.step before action = some after →
    ∃ phase', task after index = some (message, phase') ∧
      phase'.stepsLeft ≤ phase.stepsLeft
  resume_lt : ∀ {before after cause index answer message phase},
    closed before = some cause → task before index = some (message, phase) →
    system.step before (resume index answer) = some after →
    ∃ phase', task after index = some (message, phase') ∧
      phase'.stepsLeft < phase.stepsLeft
  not_resumed : ∀ {state cause index answer message phase},
    closed state = some cause → task state index = some (message, phase) →
    answer.allowed (some cause) = true →
    system.step state (resume index answer) = none →
    phase.resume encode message answer = none

namespace SendingTasks

variable {Party Action : Type} {system : System Party Action} {place index : Nat}
variable (tasks : SendingTasks system encode)

/-- How many steps a sending task of the party has left. -/
def stepsLeft (index : Nat) (state : Party) : Nat :=
  match tasks.task state index with
  | some (_, phase) => phase.stepsLeft
  | none => 0

/-- The sending task carries this message, and the connection has ended. -/
structure Carries (cause : ConnectionError) (message : S) (index : Nat) (state : Party) :
    Prop where
  reachable : system.Reachable state
  closed : tasks.closed state = some cause
  carried : ∃ phase, tasks.task state index = some (message, phase)

/-- The sending task that carries this message is over. -/
def HasEnded (message : S) (index : Nat) (state : Party) : Prop :=
  ∃ phase, tasks.task state index = some (message, phase) ∧ phase.IsOver

variable {tasks} {before after : Party} {action : Action}

theorem Carries.step (carries : tasks.Carries cause message index before)
    (stepped : system.step before action = some after) :
    tasks.Carries cause message index after ∧
      tasks.stepsLeft index after ≤ tasks.stepsLeft index before := by
  obtain ⟨reachable, closed, phase, found⟩ := carries
  obtain ⟨phase', foundAfter, left⟩ := tasks.step_le reachable closed found stepped
  refine ⟨⟨reachable.step stepped, tasks.closed_step reachable closed stepped, phase',
    foundAfter⟩, ?_⟩
  simpa only [stepsLeft, found, foundAfter] using left

theorem Carries.hasEnded_iff (carries : tasks.Carries cause message index before) :
    tasks.HasEnded message index before ↔ tasks.stepsLeft index before = 0 := by
  obtain ⟨phase, found⟩ := carries.carried
  simp only [HasEnded, stepsLeft, found, Option.some.injEq, Prod.mk.injEq, true_and]
  constructor
  · intro ended
    obtain ⟨same, rfl, isOver⟩ := ended
    exact SendingPhase.isOver_iff.mp isOver
  · intro nothing
    exact ⟨phase, rfl, SendingPhase.isOver_iff.mpr nothing⟩

/-- In an execution that is fair to it, every sending task comes to its end once the
connection has ended. -/
theorem eventually_hasEnded {execution : Execution system}
    (fair : execution.FairTo fun action => ∃ answer, action = tasks.resume index answer)
    (carries : tasks.Carries cause message index (execution.state place)) :
    execution.Eventually place (tasks.HasEnded message index) := by
  apply fair.eventually (tasks.Carries cause message index)
    (tasks.stepsLeft index)
  · intro before action after carries stepped
    exact (carries.step stepped).1
  · intro before action after carries stepped
    refine ⟨(carries.step stepped).2, ?_⟩
    intro own
    obtain ⟨answer, rfl⟩ := own
    obtain ⟨phase, found⟩ := carries.carried
    obtain ⟨phase', foundAfter, less⟩ := tasks.resume_lt carries.closed found stepped
    simpa only [stepsLeft, found, foundAfter] using less
  · intro state carries stuck
    obtain ⟨phase, found⟩ := carries.carried
    refine ⟨phase, found, ?_⟩
    apply SendingPhase.isOver_of_stuck encode message cause
    intro answer allowed
    exact tasks.not_resumed carries.closed found allowed (stuck _ ⟨answer, rfl⟩)
  · intro before action after carries hasEnded stepped
    obtain ⟨carriesAfter, left⟩ := carries.step stepped
    have nothing := carries.hasEnded_iff.mp hasEnded
    apply carriesAfter.hasEnded_iff.mpr
    omega
  · exact carries

end SendingTasks

end Warqueen.Sending
