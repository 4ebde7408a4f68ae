import Warqueen.Receiving.Accounting

/-!
# The receiving tasks come to rest

Each stream is accepted once and its task ends once, so that the receiving tasks
can only take so many steps before they wait for the network.
-/

namespace Warqueen.Receiving

open Concurrency Quinn

variable {R Event : Type} {side : ReceivingSide R Event}
variable {decode : List UInt8 → Option R}
variable {state state' : State Event} {action : Action}

/-- How many steps the receiving tasks can still take for a stream. -/
def ReadingTask.stepsLeft : ReadingTask → Nat
  | .notSpawned => 2
  | .reading => 1
  | .ended _ => 0

/-- How many steps the accept loop can still take without a new stream. -/
def AcceptTask.stepsLeft : AcceptTask → Nat
  | .notSpawned => 2
  | .running => 1
  | .returned | .panicked => 0

/-- How many steps the receiving tasks can still take. -/
def State.stepsLeft (state : State Event) : Nat :=
  state.acceptTask.stepsLeft +
    state.streams.foldr (fun stream steps => stream.reader.stepsLeft + steps) 0

/-- Making one element lighter makes the whole list lighter. -/
theorem foldr_modify_lt {α : Type} {weight : α → Nat} {update : α → α}
    {elements : List α} {index : Nat} {element : α}
    (found : elements[index]? = some element)
    (lighter : weight (update element) < weight element) :
    (elements.modify index update).foldr (fun element sum => weight element + sum) 0 <
      elements.foldr (fun element sum => weight element + sum) 0 := by
  induction elements generalizing index with
  | nil => cases found
  | cons first rest inductionHypothesis =>
      cases index with
      | zero =>
          obtain rfl := Option.some.inj found
          exact Nat.add_lt_add_right lighter _
      | succ index => exact Nat.add_lt_add_left (inductionHypothesis found) _

/-- Every step of a receiving task leaves it fewer steps. -/
theorem step_stepsLeft (isTask : action.IsTask)
    (stepped : step side decode state action = some state') :
    state'.stepsLeft < state.stepsLeft := by
  cases action with
  | spawn =>
      simp only [step, Option.ite_none_right_eq_some, Option.some.injEq] at stepped
      obtain ⟨notSpawned, rfl⟩ := stepped
      simp [State.stepsLeft, notSpawned, AcceptTask.stepsLeft]
  | acceptUni =>
      obtain ⟨running, ⟨index, next, rfl⟩ | ⟨error, task, -, -, ended, rfl⟩⟩ :=
        acceptUni_cases stepped
      · obtain ⟨stream, found, notSpawned⟩ := State.nextStream_eq_some next
        refine Nat.add_lt_add_left (foldr_modify_lt found ?_) _
        simp [notSpawned, ReadingTask.stepsLeft]
      · rcases ended with ⟨rfl, -⟩ | ⟨rfl, -⟩ <;>
          simp [State.stepsLeft, running, AcceptTask.stepsLeft]
  | read index =>
      obtain ⟨stream, result, found, reading, -, rfl⟩ := read_cases stepped
      refine Nat.add_lt_add_left (foldr_modify_lt found ?_) _
      simp [reading, IncomingStream.endReading, ReadingTask.stepsLeft]
  | _ => exact isTask.elim

/-- A receiving task does not end the connection. -/
theorem step_closed_of_task (isTask : action.IsTask)
    (stepped : step side decode state action = some state') :
    state'.closed = state.closed := by
  cases closed : state.closed with
  | some cause => exact (step_of_closed closed stepped).1
  | none =>
      cases closed' : state'.closed with
      | none => rfl
      | some cause =>
          obtain ⟨rfl, -⟩ := step_loses closed closed' stepped
          exact isTask.elim

/-- As long as the connection is up, the accept loop stays as it is once spawned. -/
theorem step_acceptTask (notSpawn : action ≠ .spawn) (up : state'.closed = none)
    (stepped : step side decode state action = some state') :
    state'.acceptTask = state.acceptTask := by
  cases action with
  | spawn => exact absurd rfl notSpawn
  | acceptUni =>
      obtain ⟨-, ⟨index, -, rfl⟩ | ⟨error, task, -, closed, -, rfl⟩⟩ :=
        acceptUni_cases stepped
      · rfl
      · simp [closed] at up
  | read =>
      obtain ⟨stream, result, -, -, -, rfl⟩ := read_cases stepped
      rfl
  | openStream | lose =>
      simp only [step, Option.ite_none_right_eq_some, Option.some.injEq] at stepped
      obtain ⟨-, rfl⟩ := stepped
      rfl
  | deliver | finish | resetStream =>
      obtain ⟨-, -, rfl⟩ := State.onOpenStream_eq_some.mp stepped
      rfl
  | poll | dropReceiver =>
      obtain rfl := Option.some.inj stepped
      rfl

/-- An accept loop that was spawned stays spawned. -/
theorem step_spawned (spawned : state.acceptTask ≠ .notSpawned)
    (stepped : step side decode state action = some state') :
    state'.acceptTask ≠ .notSpawned := by
  cases action with
  | spawn =>
      simp only [step, spawned, if_false] at stepped
      cases stepped
  | acceptUni =>
      obtain ⟨-, ⟨index, -, rfl⟩ | ⟨error, task, -, -, ended, rfl⟩⟩ := acceptUni_cases stepped
      · exact spawned
      · rcases ended with ⟨rfl, -⟩ | ⟨rfl, -⟩ <;> simp
  | read index =>
      obtain ⟨stream, result, -, -, -, rfl⟩ := read_cases stepped
      exact spawned
  | deliver | finish | resetStream =>
      obtain ⟨-, -, rfl⟩ := State.onOpenStream_eq_some.mp stepped
      exact spawned
  | openStream | lose | poll | dropReceiver =>
      simp only [step, Option.ite_none_right_eq_some, Option.some.injEq] at stepped
      obtain ⟨-, rfl⟩ := stepped
      exact spawned

/-- Only a spawn spawns the accept loop. -/
theorem step_notSpawned (notSpawn : action ≠ .spawn)
    (notSpawned : state.acceptTask = .notSpawned)
    (stepped : step side decode state action = some state') :
    state'.acceptTask = .notSpawned := by
  cases action with
  | spawn => exact absurd rfl notSpawn
  | acceptUni =>
      have running := (acceptUni_cases stepped).1
      simp [notSpawned] at running
  | read index =>
      obtain ⟨stream, result, -, -, -, rfl⟩ := read_cases stepped
      exact notSpawned
  | deliver | finish | resetStream =>
      obtain ⟨-, -, rfl⟩ := State.onOpenStream_eq_some.mp stepped
      exact notSpawned
  | openStream | lose | poll | dropReceiver =>
      simp only [step, Option.ite_none_right_eq_some, Option.some.injEq] at stepped
      obtain ⟨-, rfl⟩ := stepped
      exact notSpawned

/-! ## Once the connection has ended -/

/-- The accept loop and all reading tasks are over. -/
structure State.IsOver (state : State Event) : Prop where
  acceptTask : state.acceptTask = .returned ∨ state.acceptTask = .panicked
  readers : ∀ stream ∈ state.streams, ∃ result, stream.reader = .ended result

/-- On a connection that has ended no step gives the receiving tasks more to do. -/
theorem step_stepsLeft_le {cause : ConnectionError} (closed : state.closed = some cause)
    (stepped : step side decode state action = some state') :
    state'.stepsLeft ≤ state.stepsLeft := by
  cases action with
  | spawn | acceptUni | read =>
      exact Nat.le_of_lt (step_stepsLeft (by exact trivial) stepped)
  | openStream | lose => simp [step, closed] at stepped
  | deliver | finish | resetStream =>
      obtain ⟨up, -, -⟩ := State.onOpenStream_eq_some.mp stepped
      simp [closed] at up
  | poll | dropReceiver =>
      obtain rfl := Option.some.inj stepped
      exact Nat.le_refl _

theorem reaches_stepsLeft_le {cause : ConnectionError} (closed : state.closed = some cause)
    (reached : (system side decode).Reaches System.always state state') :
    state'.stepsLeft ≤ state.stepsLeft := by
  have kept := reached.invariant
    (fun later => later.closed = some cause ∧ later.stepsLeft ≤ state.stepsLeft)
    ⟨closed, Nat.le_refl _⟩ ?_
  · exact kept.2
  · intro before action after _ kept _ stepped
    exact ⟨(step_of_closed kept.1 stepped).1,
      Nat.le_trans (step_stepsLeft_le kept.1 stepped) kept.2⟩

/-- The tasks of a connection that has ended are over when they can do nothing more. -/
theorem Accounted.isOver_of_stuck {cause : ConnectionError}
    (accounted : Accounted side decode state) (closed : state.closed = some cause)
    (spawned : state.acceptTask ≠ .notSpawned)
    (stuck : (system side decode).Stuck Action.IsTask state) : state.IsOver := by
  have next := accounted.nextStream_of_stuck stuck
  constructor
  · cases task : state.acceptTask with
    | notSpawned => exact absurd task spawned
    | running =>
        have accepts := stuck .acceptUni trivial
        simp only [system, Receiving.step, Receiving.acceptUni, task, next, closed] at accepts
        split at accepts <;> cases accepts
    | returned => exact .inl rfl
    | panicked => exact .inr rfl
  · intro stream member
    obtain ⟨index, found⟩ := List.mem_iff_getElem?.mp member
    cases reader : stream.reader with
    | notSpawned => exact absurd reader (State.nextStream_eq_none.mp next index stream found)
    | reading =>
        have answered : ∃ result,
            receiveMessageRaw stream.toRecvStream state.closed = some result := by
          simp only [receiveMessageRaw, RecvStream.readToEnd, closed]
          split
          · exact ⟨_, rfl⟩
          · split <;> exact ⟨_, rfl⟩
          · split <;> exact ⟨_, rfl⟩
        obtain ⟨result, answered⟩ := answered
        have reads := stuck (.read index) trivial
        simp [system, Receiving.step, read_of_answer found reader answered] at reads
    | ended result => exact ⟨result, rfl⟩

/-- Tasks that are over stay over. -/
theorem State.IsOver.step {cause : ConnectionError} (isOver : state.IsOver)
    (closed : state.closed = some cause)
    (stepped : step side decode state action = some state') : state'.IsOver := by
  cases action with
  | spawn =>
      simp only [Receiving.step, Option.ite_none_right_eq_some] at stepped
      rcases isOver.acceptTask with task | task <;> simp [task] at stepped
  | acceptUni =>
      have running := (acceptUni_cases stepped).1
      rcases isOver.acceptTask with task | task <;> simp [task] at running
  | read index =>
      obtain ⟨stream, -, found, reading, -, -⟩ := read_cases stepped
      obtain ⟨result, ended⟩ := isOver.readers stream (List.mem_of_getElem? found)
      simp [ended] at reading
  | openStream | lose => simp [Receiving.step, closed] at stepped
  | deliver | finish | resetStream =>
      obtain ⟨up, -, -⟩ := State.onOpenStream_eq_some.mp stepped
      simp [closed] at up
  | poll | dropReceiver =>
      obtain rfl := Option.some.inj stepped
      exact ⟨isOver.acceptTask, isOver.readers⟩

theorem State.IsOver.reaches {cause : ConnectionError} (isOver : state.IsOver)
    (closed : state.closed = some cause)
    (reached : (system side decode).Reaches System.always state state') : state'.IsOver := by
  have kept := reached.invariant (fun later => later.closed = some cause ∧ later.IsOver)
    ⟨closed, isOver⟩ ?_
  · exact kept.2
  · intro before action after _ kept _ stepped
    exact ⟨(step_of_closed kept.1 stepped).1, kept.2.step kept.1 stepped⟩

end Warqueen.Receiving
