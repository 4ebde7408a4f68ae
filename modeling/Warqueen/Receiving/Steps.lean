import Warqueen.Receiving.Tasks

/-!
# Steps of the receiving tasks

One lemma for each kind of step, which says all that the step can do, and what
follows from them about the parts of the state that a step leaves alone.
-/

namespace Warqueen.Receiving

open Concurrency Quinn

variable {R Event : Type} {side : ReceivingSide R Event}
variable {decode : List UInt8 → Option R}
variable {state state' : State Event} {index : Nat}

/-! ## One lemma for each kind of step -/

/-- The event of a task that ended, if it queues one. -/
def emitted : Except Panic (Option Event) → Option Event
  | .ok event => event
  | .error _ => none

@[simp] theorem emitted_eq_some {outcome : Except Panic (Option Event)} {event : Event} :
    emitted outcome = some event ↔ outcome = .ok (some event) := by
  cases outcome <;> simp [emitted]

/-- A reading task queues a message exactly when it read the bytes of one. -/
theorem readingTaskEvent_eq_message {result : Except ReadToEndError (List UInt8)}
    {message : R} :
    readingTaskEvent side decode result = .ok (some (side.message message)) ↔
      ∃ messageRaw, result = .ok messageRaw ∧ decode messageRaw = some message := by
  cases result with
  | ok messageRaw =>
      cases decodes : decode messageRaw with
      | none => simp [readingTaskEvent, decodes]
      | some other =>
          constructor
          · intro emits
            simp only [readingTaskEvent, decodes] at emits
            obtain rfl :=
              side.message_injective (Option.some.inj (Except.ok.inj emits))
            exact ⟨messageRaw, rfl, decodes⟩
          · intro isMessage
            obtain ⟨_, ⟨rfl⟩, same⟩ := isMessage
            obtain rfl := Option.some.inj (decodes.symm.trans same)
            simp [readingTaskEvent, decodes]
  | error error =>
      refine iff_of_false ?_ (by simp)
      intro emits
      simp only [readingTaskEvent] at emits
      split at emits
      next => simp_all
      next =>
        have disconnected := side.loss_disconnected emits
        simp [side.message_not_disconnected] at disconnected
      next => cases emits

/-- A reading task that queues a disconnection was told of the loss. -/
theorem lost_of_disconnected {result : Except ReadToEndError (List UInt8)} {event : Event}
    (emits : readingTaskEvent side decode result = .ok (some event))
    (disconnected : side.isDisconnected event = true) :
    ∃ error, result = .error (.read (.connectionLost error)) ∧
      side.connectionErrorToEvent error = .ok (some event) := by
  simp only [readingTaskEvent] at emits
  split at emits
  next messageRaw =>
    split at emits
    · obtain rfl := Option.some.inj (Except.ok.inj emits)
      simp [side.message_not_disconnected] at disconnected
    · cases emits
  next error => exact ⟨error, rfl, emits⟩
  next => cases emits

namespace State

@[simp] theorem queue_closed (source : Source) (event : Option Event) :
    (state.queue source event).closed = state.closed := rfl

@[simp] theorem queue_streams (source : Source) (event : Option Event) :
    (state.queue source event).streams = state.streams := rfl

@[simp] theorem queue_acceptTask (source : Source) (event : Option Event) :
    (state.queue source event).acceptTask = state.acceptTask := rfl

@[simp] theorem queue_receiverHeld (source : Source) (event : Option Event) :
    (state.queue source event).events.receiverHeld = state.events.receiverHeld := by
  simp [queue]

@[simp] theorem queue_none (source : Source) : state.queue source none = state := rfl

/-- Queueing adds the event of the task to the history, unless the application
let go of the queue. -/
theorem queue_sent (source : Source) (event : Option Event) :
    (state.queue source event).events.sent =
      state.events.sent ++
        if state.events.receiverHeld then event.toList.map (source, ·) else [] := by
  cases event <;> simp [queue, Mpsc.sendSome_sent]

/-- Queueing leaves the history or adds the event to it. -/
theorem queue_sent_cases (source : Source) (event : Option Event) :
    (state.queue source event).events.sent = state.events.sent ∨
      ∃ value, event = some value ∧
        (state.queue source event).events.sent =
          state.events.sent ++ [(source, value)] := by
  rw [queue_sent]
  cases event with
  | none => simp
  | some value => cases state.events.receiverHeld <;> simp

@[simp] theorem updateStream_closed (update : IncomingStream → IncomingStream) :
    (state.updateStream index update).closed = state.closed := rfl

@[simp] theorem updateStream_acceptTask (update : IncomingStream → IncomingStream) :
    (state.updateStream index update).acceptTask = state.acceptTask := rfl

@[simp] theorem updateStream_events (update : IncomingStream → IncomingStream) :
    (state.updateStream index update).events = state.events := rfl

theorem updateStream_streams (update : IncomingStream → IncomingStream) (other : Nat) :
    (state.updateStream index update).streams[other]? =
      (state.streams[other]?).map fun stream =>
        if index = other then update stream else stream := by
  simp [updateStream, List.getElem?_modify]

/-- A stream after an update is the update of a stream, or another one. -/
theorem updateStream_streams_eq_some {update : IncomingStream → IncomingStream}
    {other : Nat} {stream : IncomingStream} :
    (state.updateStream index update).streams[other]? = some stream ↔
      ∃ old, state.streams[other]? = some old ∧
        stream = if index = other then update old else old := by
  rw [updateStream_streams, Option.map_eq_some_iff]
  simp only [eq_comm]

theorem nextStream_eq_some (next : state.nextStream = some index) :
    ∃ stream, state.streams[index]? = some stream ∧ stream.reader = .notSpawned := by
  obtain ⟨inBounds, holds, -⟩ := List.findIdx?_eq_some_iff_getElem.mp next
  exact ⟨state.streams[index], List.getElem?_eq_getElem inBounds, by simpa using holds⟩

theorem nextStream_eq_none :
    state.nextStream = none ↔
      ∀ (index : Nat) (stream : IncomingStream),
        state.streams[index]? = some stream → stream.reader ≠ .notSpawned := by
  simp only [nextStream, List.findIdx?_eq_none_iff, decide_eq_false_iff_not]
  constructor
  · intro every index stream found
    exact every stream (List.mem_of_getElem? found)
  · intro every stream member
    obtain ⟨index, found⟩ := List.mem_iff_getElem?.mp member
    exact every index stream found

/-- What the network does to a stream, it does while the connection is up and
the end of the stream is unknown. -/
theorem onOpenStream_eq_some {update : IncomingStream → IncomingStream} :
    state.onOpenStream index update = some state' ↔
      state.closed = none ∧
        (∃ stream, state.streams[index]? = some stream ∧ stream.ending = .open) ∧
        state' = state.updateStream index update := by
  simp only [onOpenStream]
  cases closed : state.closed with
  | some error => simp
  | none =>
      cases found : state.streams[index]? with
      | none => simp
      | some stream =>
          by_cases ending : stream.ending = .open
          · simp [ending, eq_comm]
          · simp [ending]

end State

/-- The accept loop either takes the next stream, or finds that there is none
and that the connection is lost, and ends. -/
theorem acceptUni_cases (stepped : acceptUni side state = some state') :
    state.acceptTask = .running ∧
      ((∃ index, state.nextStream = some index ∧
          state' = state.updateStream index fun stream =>
            { stream with reader := .reading }) ∨
        ∃ error task, state.nextStream = none ∧ state.closed = some error ∧
          (task = .returned ∧ (∃ event, side.connectionErrorToEvent error = .ok event) ∨
            task = .panicked ∧
              ∃ panic, side.connectionErrorToEvent error = .error panic) ∧
          state' = { state.queue .acceptLoop
              (emitted (side.connectionErrorToEvent error)) with acceptTask := task }) := by
  simp only [acceptUni] at stepped
  split at stepped
  next index running next =>
    exact ⟨running, .inl ⟨index, next, (Option.some.inj stepped).symm⟩⟩
  next error running next closed =>
    refine ⟨running, .inr ⟨error, ?_⟩⟩
    cases mapped : side.connectionErrorToEvent error with
    | ok event =>
        rw [mapped] at stepped
        exact ⟨.returned, next, closed, .inl ⟨rfl, event, rfl⟩,
          (Option.some.inj stepped).symm⟩
    | error panic =>
        rw [mapped] at stepped
        exact ⟨.panicked, next, closed, .inr ⟨rfl, panic, rfl⟩,
          (Option.some.inj stepped).symm⟩
  next => cases stepped

theorem acceptUni_of_next (running : state.acceptTask = .running)
    (next : state.nextStream = some index) :
    acceptUni side state =
      some (state.updateStream index fun stream => { stream with reader := .reading }) := by
  simp only [acceptUni]
  rw [running, next]

/-- A lost connection with no stream left ends the accept loop. -/
theorem acceptUni_of_lost (side : ReceivingSide R Event)
    (running : state.acceptTask = .running)
    (next : state.nextStream = none) {error : ConnectionError}
    (closed : state.closed = some error) :
    ∃ task, (task = .returned ∨ task = .panicked) ∧
      acceptUni side state =
        some { state.queue .acceptLoop
          (emitted (side.connectionErrorToEvent error)) with acceptTask := task } := by
  simp only [acceptUni]
  rw [running, next, closed]
  cases mapped : side.connectionErrorToEvent error with
  | ok event => exact ⟨.returned, .inl rfl, by simp only [mapped, emitted]⟩
  | error panic =>
      exact ⟨.panicked, .inr rfl, by simp [mapped, emitted, closed]⟩

/-- The stream of a reading task that ended with a result. -/
def IncomingStream.endReading (stream : IncomingStream)
    (closed : Option ConnectionError) (result : Except ReadToEndError (List UInt8)) :
    IncomingStream :=
  { stream with
    reader := .ended result
    stopped := result = .error .tooLong ∧ closed = none }

/-- A reading task that takes a step ends, with the answer of the read and the
event that belongs to it. -/
theorem read_cases (stepped : read side decode state index = some state') :
    ∃ stream result, state.streams[index]? = some stream ∧
      stream.reader = .reading ∧
      receiveMessageRaw stream.toRecvStream state.closed = some result ∧
      state' = (state.updateStream index
        fun stream => stream.endReading state.closed result).queue (.reader index)
          (emitted (readingTaskEvent side decode result)) := by
  simp only [read] at stepped
  split at stepped
  next stream found =>
    split at stepped
    next reading =>
      split at stepped
      next result answered =>
        refine ⟨stream, result, found, reading, answered, ?_⟩
        split at stepped <;> rename_i outcome <;> rw [outcome]
        all_goals exact (Option.some.inj stepped).symm
      next => cases stepped
    next => cases stepped
  next => cases stepped

/-- A reading task whose read is answered can take its step. -/
theorem read_of_answer {stream : IncomingStream}
    {result : Except ReadToEndError (List UInt8)}
    (found : state.streams[index]? = some stream) (reading : stream.reader = .reading)
    (answered : receiveMessageRaw stream.toRecvStream state.closed = some result) :
    read side decode state index =
      some ((state.updateStream index
        fun stream => stream.endReading state.closed result).queue (.reader index)
          (emitted (readingTaskEvent side decode result))) := by
  simp only [read]
  simp only [found, reading, if_true, answered]
  cases outcome : readingTaskEvent side decode result <;>
    simp [emitted, IncomingStream.endReading]

/-- A step queues nothing, or it is the step of a task that ends with the event
it queues. -/
theorem step_sent_cases {action : Action}
    (stepped : step side decode state action = some state') :
    state'.events.sent = state.events.sent ∨
      ∃ source event, state'.events.sent = state.events.sent ++ [(source, event)] ∧
        ((action = .acceptUni ∧ state.nextStream = none ∧
            ∃ cause, state.closed = some cause ∧
              side.connectionErrorToEvent cause = .ok (some event)) ∨
          ∃ index stream result, action = .read index ∧
            state.streams[index]? = some stream ∧ stream.reader = .reading ∧
            receiveMessageRaw stream.toRecvStream state.closed = some result ∧
            readingTaskEvent side decode result = .ok (some event)) := by
  cases action with
  | spawn | openStream | lose =>
      simp only [step, Option.ite_none_right_eq_some, Option.some.injEq] at stepped
      obtain ⟨-, rfl⟩ := stepped
      exact .inl rfl
  | acceptUni =>
      obtain ⟨-, ⟨index, -, rfl⟩ | ⟨cause, task, next, closed, -, rfl⟩⟩ :=
        acceptUni_cases stepped
      · exact .inl rfl
      · rcases State.queue_sent_cases .acceptLoop
            (emitted (side.connectionErrorToEvent cause)) with same | ⟨event, emits, sent⟩
        · exact .inl same
        · exact .inr ⟨.acceptLoop, event, sent,
            .inl ⟨rfl, next, cause, closed, emitted_eq_some.mp emits⟩⟩
  | read index =>
      obtain ⟨stream, result, found, reading, answered, rfl⟩ := read_cases stepped
      rcases State.queue_sent_cases (.reader index)
          (emitted (readingTaskEvent side decode result)) with same | ⟨event, emits, sent⟩
      · exact .inl same
      · exact .inr ⟨.reader index, event, sent,
          .inr ⟨index, stream, result, rfl, found, reading, answered,
            emitted_eq_some.mp emits⟩⟩
  | deliver | finish | resetStream =>
      obtain ⟨-, -, rfl⟩ := State.onOpenStream_eq_some.mp stepped
      exact .inl rfl
  | poll =>
      obtain rfl := Option.some.inj stepped
      exact .inl (Mpsc.tryRecv_sent _)
  | dropReceiver =>
      obtain rfl := Option.some.inj stepped
      exact .inl rfl

/-! ## What no step changes -/

/-- What a step can do to the queue: nothing, a send of a task, a poll, or letting go
of it. -/
inductive QueueStep (action : Action) (before after : Mpsc (Source × Event)) : Prop where
  | same (unchanged : after = before)
  | sends (entry : Source × Event) (sent : after = before.send entry)
  | polls (isPoll : action = .poll) (polled : after = before.tryRecv.2)
  | drops (isDrop : action = .dropReceiver) (dropped : after = before.dropReceiver)

theorem queueStep_of_queue (action : Action) (source : Source) (event : Option Event) :
    QueueStep action state.events (state.queue source event).events := by
  cases event with
  | none => exact .same rfl
  | some event => exact .sends (source, event) rfl

/-- What a step does to the queue. -/
theorem step_queue {action : Action}
    (stepped : step side decode state action = some state') :
    QueueStep action state.events state'.events := by
  cases action with
  | spawn | openStream | lose =>
      simp only [step, Option.ite_none_right_eq_some, Option.some.injEq] at stepped
      obtain ⟨-, rfl⟩ := stepped
      exact .same rfl
  | acceptUni =>
      obtain ⟨-, ⟨index, -, rfl⟩ | ⟨error, task, -, -, -, rfl⟩⟩ := acceptUni_cases stepped
      · exact .same rfl
      · exact queueStep_of_queue _ _ _
  | read =>
      obtain ⟨stream, result, -, -, -, rfl⟩ := read_cases stepped
      exact queueStep_of_queue _ _ _
  | deliver | finish | resetStream =>
      obtain ⟨-, -, rfl⟩ := State.onOpenStream_eq_some.mp stepped
      exact .same rfl
  | poll =>
      obtain rfl := Option.some.inj stepped
      exact .polls rfl rfl
  | dropReceiver =>
      obtain rfl := Option.some.inj stepped
      exact .drops rfl rfl

/-- Only the application lets go of the queue. -/
theorem step_receiverHeld {action : Action} (keeps : action ≠ .dropReceiver)
    (stepped : step side decode state action = some state') :
    state'.events.receiverHeld = state.events.receiverHeld := by
  cases step_queue stepped with
  | same unchanged => rw [unchanged]
  | sends entry sent => rw [sent, Mpsc.send_receiverHeld]
  | polls _ polled => rw [polled, Mpsc.tryRecv_receiverHeld]
  | drops isDrop => exact absurd isDrop keeps

/-- Nothing is queued once the application let go of the queue. -/
theorem step_of_dropped {action : Action}
    (dropped : state.events.receiverHeld = false)
    (stepped : step side decode state action = some state') :
    state'.events.receiverHeld = false ∧ state'.events.sent = state.events.sent := by
  cases step_queue stepped with
  | same unchanged => simp [unchanged, dropped]
  | sends entry sent => simp [sent, Mpsc.send, dropped]
  | polls _ polled => simp [polled, dropped]
  | drops _ dropped' => simp [dropped']

/-- Only a poll takes events from the queue. -/
theorem step_taken {action : Action} (notPoll : action ≠ .poll)
    (bounded : state.events.Bounded)
    (stepped : step side decode state action = some state') :
    state'.events.taken = state.events.taken := by
  cases step_queue stepped with
  | same unchanged => rw [unchanged]
  | sends entry sent => rw [sent, bounded.send_taken]
  | polls isPoll => exact absurd isPoll notPoll
  | drops _ dropped => rw [dropped, Mpsc.dropReceiver_taken]

/-- No step takes more than was queued. -/
theorem step_bounded {action : Action} (bounded : state.events.Bounded)
    (stepped : step side decode state action = some state') :
    state'.events.Bounded := by
  cases step_queue stepped with
  | same unchanged => exact unchanged ▸ bounded
  | sends entry sent => exact sent ▸ bounded.send entry
  | polls _ polled => exact polled ▸ bounded.tryRecv
  | drops _ dropped => exact dropped ▸ bounded

/-- Nothing is queued by a step that leaves the queue without a receiver. -/
theorem step_sent_of_dropped {action : Action}
    (dropped : state'.events.receiverHeld = false)
    (stepped : step side decode state action = some state') :
    state'.events.sent = state.events.sent := by
  by_cases drops : action = .dropReceiver
  · subst drops
    obtain rfl := Option.some.inj stepped
    rfl
  · rw [step_receiverHeld drops stepped] at dropped
    exact (step_of_dropped dropped stepped).2

/-- Only the network and the two applications end the connection. -/
theorem step_loses {action : Action} {cause : ConnectionError}
    (up : state.closed = none) (closed : state'.closed = some cause)
    (stepped : step side decode state action = some state') :
    action = .lose cause ∧ state' = { state with closed := some cause } := by
  cases action with
  | spawn | openStream =>
      simp only [step, Option.ite_none_right_eq_some, Option.some.injEq] at stepped
      obtain ⟨-, rfl⟩ := stepped
      simp [up] at closed
  | lose other =>
      simp only [step, Option.ite_none_right_eq_some, Option.some.injEq] at stepped
      obtain ⟨-, rfl⟩ := stepped
      obtain rfl : other = cause := Option.some.inj closed
      exact ⟨rfl, rfl⟩
  | acceptUni =>
      obtain ⟨-, ⟨index, -, rfl⟩ | ⟨error, task, -, -, -, rfl⟩⟩ := acceptUni_cases stepped
      · simp [up] at closed
      · simp [up] at closed
  | read =>
      obtain ⟨stream, result, -, -, -, rfl⟩ := read_cases stepped
      simp [up] at closed
  | deliver | finish | resetStream =>
      obtain ⟨-, -, rfl⟩ := State.onOpenStream_eq_some.mp stepped
      simp [up] at closed
  | poll | dropReceiver =>
      obtain rfl := Option.some.inj stepped
      simp [up] at closed

/-- What a step can do to a stream that is there: nothing that reading it could
show, or a step of the network while its end is unknown. -/
inductive StreamStep (index : Nat) (before : RecvStream) : Action → RecvStream → Prop where
  | same (action : Action) : StreamStep index before action before
  | deliver (bytes : List UInt8) (ending : before.ending = .open) :
      StreamStep index before (.deliver index bytes)
        { before with received := before.received ++ bytes }
  | finish (ending : before.ending = .open) :
      StreamStep index before (.finish index) { before with ending := .finished }
  | resetStream (code : VarInt) (ending : before.ending = .open) :
      StreamStep index before (.resetStream index code)
        { before with ending := .reset code }

theorem streamStep_onOpenStream {action : Action} {update : IncomingStream → IncomingStream}
    {changed : Nat} (stepped : state.onOpenStream changed update = some state')
    {stream : IncomingStream} (found : state.streams[index]? = some stream)
    (updated : stream.ending = .open → changed = index →
      StreamStep index stream.toRecvStream action (update stream).toRecvStream) :
    ∃ after, state'.streams[index]? = some after ∧
      StreamStep index stream.toRecvStream action after.toRecvStream := by
  obtain ⟨-, ⟨opened, foundOpened, ending⟩, rfl⟩ := State.onOpenStream_eq_some.mp stepped
  rw [State.updateStream_streams, found]
  refine ⟨_, rfl, ?_⟩
  split
  next equal =>
    subst equal
    obtain rfl : stream = opened := Option.some.inj (found.symm.trans foundOpened)
    exact updated ending rfl
  next => exact .same action

/-- The streams that are there stay there. -/
theorem step_stream {action : Action}
    (stepped : step side decode state action = some state') {stream : IncomingStream}
    (found : state.streams[index]? = some stream) :
    ∃ after, state'.streams[index]? = some after ∧
      StreamStep index stream.toRecvStream action after.toRecvStream := by
  have updated (changed : Nat) (update : IncomingStream → IncomingStream)
      (same : ∀ stream, (update stream).toRecvStream = stream.toRecvStream) :
      ∃ after, (state.updateStream changed update).streams[index]? = some after ∧
        StreamStep index stream.toRecvStream action after.toRecvStream := by
    rw [State.updateStream_streams, found]
    refine ⟨_, rfl, ?_⟩
    split
    · rw [same]
      exact .same action
    · exact .same action
  cases action with
  | spawn | lose =>
      simp only [step, Option.ite_none_right_eq_some, Option.some.injEq] at stepped
      obtain ⟨-, rfl⟩ := stepped
      exact ⟨stream, found, .same _⟩
  | openStream =>
      simp only [step, Option.ite_none_right_eq_some, Option.some.injEq] at stepped
      obtain ⟨-, rfl⟩ := stepped
      have inBounds := (List.getElem?_eq_some_iff.mp found).1
      exact ⟨stream, (List.getElem?_append_left inBounds).trans found, .same _⟩
  | acceptUni =>
      obtain ⟨-, ⟨changed, -, rfl⟩ | ⟨error, task, -, -, -, rfl⟩⟩ := acceptUni_cases stepped
      · exact updated changed _ fun _ => rfl
      · exact ⟨stream, found, .same _⟩
  | read changed =>
      obtain ⟨reading, result, -, -, -, rfl⟩ := read_cases stepped
      exact updated changed _ fun _ => rfl
  | deliver changed bytes =>
      exact streamStep_onOpenStream stepped found fun ending equal =>
        equal ▸ .deliver bytes ending
  | finish changed =>
      exact streamStep_onOpenStream stepped found fun ending equal => equal ▸ .finish ending
  | resetStream changed code =>
      exact streamStep_onOpenStream stepped found fun ending equal =>
        equal ▸ .resetStream code ending
  | poll | dropReceiver =>
      obtain rfl := Option.some.inj stepped
      exact ⟨stream, found, .same _⟩

/-- A stream that was not there has just been opened. -/
theorem step_newStream {action : Action}
    (stepped : step side decode state action = some state') {stream : IncomingStream}
    (found : state'.streams[index]? = some stream) (isNew : state.streams[index]? = none) :
    action = .openStream ∧ index = state.streams.length ∧ stream = .opened := by
  have updated (changed : Nat) (update : IncomingStream → IncomingStream)
      (found : (state.updateStream changed update).streams[index]? = some stream) :
      False := by
    simp [State.updateStream_streams, isNew] at found
  cases action with
  | spawn | lose =>
      simp only [step, Option.ite_none_right_eq_some, Option.some.injEq] at stepped
      obtain ⟨-, rfl⟩ := stepped
      simp [isNew] at found
  | openStream =>
      simp only [step, Option.ite_none_right_eq_some, Option.some.injEq] at stepped
      obtain ⟨-, rfl⟩ := stepped
      have outOfBounds := List.getElem?_eq_none_iff.mp isNew
      rw [List.getElem?_append_right outOfBounds] at found
      obtain ⟨position, rfl⟩ := List.getElem?_eq_some_iff.mp found
      simp only [List.length_singleton, Nat.lt_one_iff] at position
      exact ⟨rfl, by omega, by simp⟩
  | acceptUni =>
      obtain ⟨-, ⟨changed, -, rfl⟩ | ⟨error, task, -, -, -, rfl⟩⟩ := acceptUni_cases stepped
      · exact (updated _ _ found).elim
      · simp [isNew] at found
  | read changed =>
      obtain ⟨reading, result, -, -, -, rfl⟩ := read_cases stepped
      exact (updated _ _ found).elim
  | deliver | finish | resetStream =>
      obtain ⟨-, -, rfl⟩ := State.onOpenStream_eq_some.mp stepped
      exact (updated _ _ found).elim
  | poll | dropReceiver =>
      obtain rfl := Option.some.inj stepped
      simp [isNew] at found

/-- Once lost, the connection keeps its first cause and receives nothing more. -/
theorem step_of_closed {action : Action} {cause : ConnectionError}
    (closed : state.closed = some cause)
    (stepped : step side decode state action = some state') :
    state'.closed = some cause ∧
      state'.streams.map IncomingStream.toRecvStream =
        state.streams.map IncomingStream.toRecvStream := by
  have updated (index : Nat) (update : IncomingStream → IncomingStream)
      (same : ∀ stream, (update stream).toRecvStream = stream.toRecvStream) :
      (state.streams.modify index update).map IncomingStream.toRecvStream =
        state.streams.map IncomingStream.toRecvStream := by
    apply List.ext_getElem?
    intro other
    simp only [List.getElem?_map, List.getElem?_modify, Option.map_eq_map, Option.map_map]
    congr 1
    funext stream
    simp only [Function.comp_apply]
    split
    · exact same stream
    · rfl
  cases action with
  | spawn =>
      simp only [step, Option.ite_none_right_eq_some, Option.some.injEq] at stepped
      obtain ⟨-, rfl⟩ := stepped
      exact ⟨closed, rfl⟩
  | openStream | lose => simp [step, closed] at stepped
  | acceptUni =>
      obtain ⟨-, ⟨index, -, rfl⟩ | ⟨error, task, -, -, -, rfl⟩⟩ := acceptUni_cases stepped
      · exact ⟨closed, updated index _ fun _ => rfl⟩
      · exact ⟨closed, rfl⟩
  | read index =>
      obtain ⟨stream, result, -, -, -, rfl⟩ := read_cases stepped
      exact ⟨closed, updated index _ fun _ => rfl⟩
  | deliver | finish | resetStream =>
      obtain ⟨up, -, rfl⟩ := State.onOpenStream_eq_some.mp stepped
      simp [closed] at up
  | poll | dropReceiver =>
      obtain rfl := Option.some.inj stepped
      exact ⟨closed, rfl⟩

end Warqueen.Receiving
