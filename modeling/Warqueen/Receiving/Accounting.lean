import Warqueen.Receiving.Steps

/-!
# Which task queued which event

Every receiving task queues at most one event, and which one is decided by the
stream it read or by the cause of the loss.  `Accounted` states this for the
whole history of the queue, task by task; it holds in every reachable state,
and the results about losses, orders and deliveries are read off it.
-/

namespace Warqueen.Receiving

open Concurrency Quinn

variable {R Event : Type} {side : ReceivingSide R Event}
variable {decode : List UInt8 → Option R}
variable {state state' : State Event} {index : Nat}

/-! ## What the result of a read says about the stream -/

/-- A result of reading a stream to its end that the stream bears out. -/
def Explains (stream : RecvStream) (closed : Option ConnectionError) :
    Except ReadToEndError (List UInt8) → Prop
  | .ok bytes => stream.Complete oneGigabyteInBytes ∧ stream.received = bytes
  | .error (.read (.connectionLost error)) =>
      stream.Cut oneGigabyteInBytes ∧ closed = some error
  | .error _ => ¬ stream.Complete oneGigabyteInBytes ∧ ¬ stream.Cut oneGigabyteInBytes

theorem explains_of_receiveMessageRaw {stream : RecvStream}
    {closed : Option ConnectionError} {result : Except ReadToEndError (List UInt8)}
    (answered : receiveMessageRaw stream closed = some result) :
    Explains stream closed result := by
  simp only [receiveMessageRaw] at answered
  simp only [Explains]
  split
  · exact RecvStream.readToEnd_eq_ok.mp answered
  · exact RecvStream.readToEnd_eq_connectionLost.mp answered
  next error notLost =>
    simp only [RecvStream.readToEnd] at answered
    constructor
    · intro complete
      obtain ⟨finished, fits⟩ := complete
      simp [finished, Nat.not_lt.mpr fits] at answered
    · intro cut
      obtain ⟨unfinished, fits⟩ := cut
      cases closed with
      | none => simp [unfinished, Nat.not_lt.mpr fits] at answered
      | some lost =>
          simp [unfinished, Nat.not_lt.mpr fits] at answered
          exact notLost lost answered.symm

/-- The loss of the connection changes no result of a read given before it. -/
theorem Explains.lose {stream : RecvStream}
    {result : Except ReadToEndError (List UInt8)}
    (explained : Explains stream none result) (cause : ConnectionError) :
    Explains stream (some cause) result := by
  cases result with
  | ok bytes => exact explained
  | error error =>
      cases error with
      | tooLong => exact explained
      | read error =>
          cases error with
          | connectionLost error => exact absurd explained.2 (by simp)
          | reset | closedStream | illegalOrderedRead | zeroRttRejected =>
              exact explained

/-- A stream whose reading task, if it ended, ended with a result that the
stream bears out, and that was stopped only because it is too long. -/
structure IncomingStream.Sound (stream : IncomingStream)
    (closed : Option ConnectionError) : Prop where
  explained : ∀ result, stream.reader = .ended result →
    Explains stream.toRecvStream closed result
  stopped : stream.stopped = true → oneGigabyteInBytes < stream.received.length

theorem IncomingStream.opened_sound (closed : Option ConnectionError) :
    IncomingStream.opened.Sound closed where
  explained := by simp [opened]
  stopped := by simp [opened]

/-- The network extends and ends only streams whose end is unknown, which keeps
every result that was given while the connection is up. -/
theorem IncomingStream.Sound.extend {stream extended : IncomingStream}
    (sound : stream.Sound none) (ending : stream.ending = .open)
    (reader : extended.reader = stream.reader)
    (stopped : extended.stopped = stream.stopped)
    (grows : stream.received.length ≤ extended.received.length) :
    extended.Sound none where
  explained := by
    intro result ended
    have explained := sound.explained result (reader ▸ ended)
    simp only [Explains] at explained ⊢
    split
    · exact absurd explained.1.1 (by simp [ending])
    · exact absurd explained.2 (by simp)
    next error notLost =>
      simp only [RecvStream.not_complete_and_not_cut] at explained ⊢
      rcases explained with ⟨code, wasReset⟩ | tooLong
      · simp [ending] at wasReset
      · exact .inr (Nat.lt_of_lt_of_le tooLong grows)
  stopped := by
    intro wasStopped
    exact Nat.lt_of_lt_of_le (sound.stopped (stopped ▸ wasStopped)) grows

/-! ## The history, task by task -/

/-- The event a stream is owed: that of its reading task, once it ended. -/
def streamEvents (side : ReceivingSide R Event) (decode : List UInt8 → Option R)
    (stream : IncomingStream) : List Event :=
  match stream.reader with
  | .ended result => (emitted (readingTaskEvent side decode result)).toList
  | _ => []

/-- The event the accept loop owes for the loss of the connection. -/
def lossEvents (side : ReceivingSide R Event) (acceptTask : AcceptTask)
    (closed : Option ConnectionError) : List Event :=
  match acceptTask, closed with
  | .returned, some error => (emitted (side.connectionErrorToEvent error)).toList
  | _, _ => []

/-- The events that a task owes in a state. -/
def owed (side : ReceivingSide R Event) (decode : List UInt8 → Option R)
    (state : State Event) : Source → List Event
  | .acceptLoop => lossEvents side state.acceptTask state.closed
  | .reader index =>
      match state.streams[index]? with
      | some stream => streamEvents side decode stream
      | none => []

/-- What holds between the tasks of a connection and the history of its queue.
A task has queued exactly what it owes, or nothing because the application had
let go of the queue. -/
structure Accounted (side : ReceivingSide R Event) (decode : List UInt8 → Option R)
    (state : State Event) : Prop where
  sound : ∀ (index : Nat) (stream : IncomingStream),
    state.streams[index]? = some stream → stream.Sound state.closed
  returned : state.acceptTask = .returned → state.nextStream = none ∧
    ∃ error event, state.closed = some error ∧
      side.connectionErrorToEvent error = .ok event
  panicked : state.acceptTask = .panicked → state.nextStream = none ∧
    ∃ error panic, state.closed = some error ∧
      side.connectionErrorToEvent error = .error panic
  history : ∀ source,
    sentBy source state.events.sent = owed side decode state source ∨
      state.events.receiverHeld = false ∧ sentBy source state.events.sent = []

theorem streamEvents_of_not_ended {stream : IncomingStream}
    (notEnded : ∀ result, stream.reader ≠ .ended result) :
    streamEvents side decode stream = [] := by
  unfold streamEvents
  split
  next result ended => exact absurd ended (notEnded result)
  next => rfl

/-- An update of a stream that owes the same events afterwards leaves what
every task owes. -/
theorem owed_updateStream {update : IncomingStream → IncomingStream}
    (same : ∀ stream, state.streams[index]? = some stream →
      streamEvents side decode (update stream) = streamEvents side decode stream) :
    owed side decode (state.updateStream index update) = owed side decode state := by
  funext source
  cases source with
  | acceptLoop => rfl
  | reader other =>
      simp only [owed, State.updateStream_streams]
      cases found : state.streams[other]? with
      | none => rfl
      | some stream =>
          by_cases equal : index = other
          · subst equal
            simpa using same stream found
          · simp [equal]

/-- A step that neither queues an event nor changes what any task owes. -/
theorem Accounted.history_of_same (accounted : Accounted side decode state)
    (sent : state'.events.sent = state.events.sent)
    (held : state'.events.receiverHeld = true → state.events.receiverHeld = true)
    (same : owed side decode state' = owed side decode state) (source : Source) :
    sentBy source state'.events.sent = owed side decode state' source ∨
      state'.events.receiverHeld = false ∧ sentBy source state'.events.sent = [] := by
  rw [sent, same]
  rcases accounted.history source with exact' | ⟨dropped, nothing⟩
  · exact .inl exact'
  · refine .inr ⟨?_, nothing⟩
    cases heldAfter : state'.events.receiverHeld with
    | false => rfl
    | true => simp [held heldAfter] at dropped

/-- A step of a task that owed nothing and now owes the event it queues. -/
theorem Accounted.history_of_queue (accounted : Accounted side decode state)
    (source : Source) (event : Option Event)
    (events : state'.events = (state.queue source event).events)
    (before : owed side decode state source = [])
    (after : owed side decode state' source = event.toList)
    (others : ∀ other, other ≠ source →
      owed side decode state' other = owed side decode state other)
    (other : Source) :
    sentBy other state'.events.sent = owed side decode state' other ∨
      state'.events.receiverHeld = false ∧ sentBy other state'.events.sent = [] := by
  have held : state'.events.receiverHeld = state.events.receiverHeld := by
    rw [events, State.queue_receiverHeld]
  have sent : sentBy other state'.events.sent =
      sentBy other state.events.sent ++ sentBy other
        (if state.events.receiverHeld then event.toList.map (source, ·) else []) := by
    rw [events, State.queue_sent, sentBy_append]
  rw [held, sent]
  by_cases equal : other = source
  · subst equal
    have nothing : sentBy other state.events.sent = [] := by
      rcases accounted.history other with exact' | ⟨-, nothing⟩
      · rw [exact', before]
      · exact nothing
    rw [nothing, after]
    cases receiver : state.events.receiverHeld with
    | true => exact .inl (by simp)
    | false => exact .inr (by simp)
  · have unchanged : sentBy other
        (if state.events.receiverHeld then event.toList.map (source, ·) else []) = [] := by
      split
      · exact sentBy_tagged_ne (fun same => equal same.symm) _
      · rfl
    rw [unchanged, others other equal, List.append_nil]
    exact accounted.history other

theorem established_accounted :
    Accounted side decode (State.established : State Event) where
  sound := by simp [State.established]
  returned := by simp [State.established]
  panicked := by simp [State.established]
  history := by
    intro source
    cases source <;> simp [State.established, owed, lossEvents]

/-- The streams after an update are sound when the updated one is. -/
theorem Accounted.sound_updateStream (accounted : Accounted side decode state)
    {update : IncomingStream → IncomingStream}
    (updated : ∀ stream, state.streams[index]? = some stream →
      stream.Sound state.closed → (update stream).Sound state.closed)
    (other : Nat) (stream : IncomingStream)
    (found : (state.updateStream index update).streams[other]? = some stream) :
    stream.Sound state.closed := by
  obtain ⟨old, foundOld, rfl⟩ := State.updateStream_streams_eq_some.mp found
  by_cases equal : index = other
  · subst equal
    simpa using updated old foundOld (accounted.sound index old foundOld)
  · simpa [equal] using accounted.sound other old foundOld

/-- Only the accept loop spawns reading tasks. -/
theorem nextStream_updateStream {update : IncomingStream → IncomingStream}
    (next : state.nextStream = none)
    (spawned : ∀ stream, state.streams[index]? = some stream →
      stream.reader ≠ .notSpawned → (update stream).reader ≠ .notSpawned) :
    (state.updateStream index update).nextStream = none := by
  rw [State.nextStream_eq_none] at next ⊢
  intro other stream found
  obtain ⟨old, foundOld, rfl⟩ := State.updateStream_streams_eq_some.mp found
  by_cases equal : index = other
  · subst equal
    simpa using spawned old foundOld (next index old foundOld)
  · simpa [equal] using next other old foundOld

/-- A network step on a stream whose end is unknown. -/
theorem Accounted.onOpenStream (accounted : Accounted side decode state)
    {update : IncomingStream → IncomingStream}
    (stepped : state.onOpenStream index update = some state')
    (reader : ∀ stream, (update stream).reader = stream.reader)
    (stopped : ∀ stream, (update stream).stopped = stream.stopped)
    (grows : ∀ stream : IncomingStream,
      stream.received.length ≤ (update stream).received.length) :
    Accounted side decode state' := by
  obtain ⟨up, ⟨opened, foundOpened, ending⟩, rfl⟩ := State.onOpenStream_eq_some.mp stepped
  have same : owed side decode (state.updateStream index update) =
      owed side decode state := by
    apply owed_updateStream
    intro stream _
    simp only [streamEvents, reader stream]
  exact
    { sound := accounted.sound_updateStream fun stream found sound => by
        obtain rfl : stream = opened := Option.some.inj (found.symm.trans foundOpened)
        rw [up] at sound ⊢
        exact sound.extend ending (reader stream) (stopped stream) (grows stream)
      returned := by
        intro returned
        obtain ⟨-, error, event, closed, -⟩ := accounted.returned returned
        simp [up] at closed
      panicked := by
        intro panicked
        obtain ⟨-, error, panic, closed, -⟩ := accounted.panicked panicked
        simp [up] at closed
      history := accounted.history_of_same rfl id same }

theorem Accounted.acceptUni (accounted : Accounted side decode state)
    (stepped : acceptUni side state = some state') :
    Accounted side decode state' := by
  obtain ⟨running, ⟨index, next, rfl⟩ | ⟨error, task, next, closed, ended, rfl⟩⟩ :=
    acceptUni_cases stepped
  · obtain ⟨taken, foundTaken, notSpawned⟩ := State.nextStream_eq_some next
    have same : owed side decode (state.updateStream index fun stream =>
        { stream with reader := .reading }) = owed side decode state := by
      apply owed_updateStream
      intro stream found
      obtain rfl : stream = taken := Option.some.inj (found.symm.trans foundTaken)
      rw [streamEvents_of_not_ended (by simp), streamEvents_of_not_ended (by simp [notSpawned])]
    exact
      { sound := accounted.sound_updateStream fun stream _ sound =>
          ⟨by simp, sound.stopped⟩
        returned := by simp [running]
        panicked := by simp [running]
        history := accounted.history_of_same rfl id same }
  · exact
      { sound := accounted.sound
        returned := by
          intro same
          subst same
          obtain ⟨-, event, mapped⟩ | ⟨impossible, -⟩ := ended
          · exact ⟨next, error, event, closed, mapped⟩
          · cases impossible
        panicked := by
          intro same
          subst same
          obtain ⟨impossible, -⟩ | ⟨-, panic, mapped⟩ := ended
          · cases impossible
          · exact ⟨next, error, panic, closed, mapped⟩
        history := by
          refine accounted.history_of_queue .acceptLoop
            (emitted (side.connectionErrorToEvent error)) (by rfl) ?_ ?_ ?_
          · simp [owed, lossEvents, running]
          · obtain ⟨rfl, -⟩ | ⟨rfl, panic, mapped⟩ := ended
            · simp [owed, lossEvents, closed]
            · simp [owed, lossEvents, mapped, emitted]
          · intro other different
            cases other with
            | acceptLoop => exact absurd rfl different
            | reader index => rfl }

theorem Accounted.read (accounted : Accounted side decode state)
    (stepped : read side decode state index = some state') :
    Accounted side decode state' := by
  obtain ⟨ended, result, foundEnded, reading, answered, rfl⟩ := read_cases stepped
  have explained := explains_of_receiveMessageRaw answered
  exact
    { sound := accounted.sound_updateStream fun stream found sound => by
        obtain rfl : stream = ended := Option.some.inj (found.symm.trans foundEnded)
        refine ⟨?_, ?_⟩
        · intro other same
          obtain rfl : result = other := by simpa [IncomingStream.endReading] using same
          exact explained
        · intro stopped
          obtain ⟨rfl, -⟩ : result = .error .tooLong ∧ state.closed = none := by
            simpa [IncomingStream.endReading] using stopped
          exact RecvStream.lt_of_readToEnd_eq_tooLong answered
      returned := by
        intro returned
        obtain ⟨next, rest⟩ := accounted.returned returned
        exact ⟨nextStream_updateStream next (by simp [IncomingStream.endReading]), rest⟩
      panicked := by
        intro panicked
        obtain ⟨next, rest⟩ := accounted.panicked panicked
        exact ⟨nextStream_updateStream next (by simp [IncomingStream.endReading]), rest⟩
      history := by
        refine accounted.history_of_queue (.reader index)
          (emitted (readingTaskEvent side decode result)) (by rfl) ?_ ?_ ?_
        · simp only [owed, foundEnded]
          exact streamEvents_of_not_ended (by simp [reading])
        · simp [owed, State.updateStream_streams, foundEnded, streamEvents,
            IncomingStream.endReading]
        · intro other different
          cases other with
          | acceptLoop => rfl
          | reader other =>
              have distinct : index ≠ other := fun equal => different (equal ▸ rfl)
              simp [owed, State.updateStream_streams, distinct] }

/-- Opening a stream adds one that owes nothing. -/
theorem Accounted.openStream (accounted : Accounted side decode state)
    (up : state.closed = none) :
    Accounted side decode { state with streams := state.streams ++ [.opened] } where
  sound := by
    intro index stream found
    simp only [List.getElem?_append] at found
    split at found
    · exact accounted.sound index stream found
    · obtain rfl : IncomingStream.opened = stream := by
        simpa using (List.getElem?_eq_some_iff.mp found).2
      exact IncomingStream.opened_sound _
  returned := by
    intro returned
    obtain ⟨-, error, event, closed, -⟩ := accounted.returned returned
    simp [up] at closed
  panicked := by
    intro panicked
    obtain ⟨-, error, panic, closed, -⟩ := accounted.panicked panicked
    simp [up] at closed
  history := by
    refine accounted.history_of_same (by rfl) (by exact id) ?_
    funext source
    cases source with
    | acceptLoop => rfl
    | reader index =>
        simp only [owed]
        by_cases inBounds : index < state.streams.length
        · rw [List.getElem?_append_left inBounds]
        · have outOfBounds := Nat.le_of_not_lt inBounds
          rw [List.getElem?_eq_none outOfBounds, List.getElem?_append_right outOfBounds]
          cases index - state.streams.length <;>
            simp [streamEvents, IncomingStream.opened]

theorem Accounted.lose (accounted : Accounted side decode state)
    (up : state.closed = none) (cause : ConnectionError) :
    Accounted side decode { state with closed := some cause } where
  sound := by
    intro index stream found
    have sound := accounted.sound index stream found
    rw [up] at sound
    exact ⟨fun result ended => (sound.explained result ended).lose cause, sound.stopped⟩
  returned := by
    intro returned
    obtain ⟨-, error, event, closed, -⟩ := accounted.returned returned
    simp [up] at closed
  panicked := by
    intro panicked
    obtain ⟨-, error, panic, closed, -⟩ := accounted.panicked panicked
    simp [up] at closed
  history := by
    refine accounted.history_of_same (by rfl) (by exact id) ?_
    funext source
    cases source with
    | acceptLoop =>
        simp only [owed, lossEvents]
        cases task : state.acceptTask with
        | returned =>
            obtain ⟨-, error, event, closed, -⟩ := accounted.returned task
            simp [up] at closed
        | notSpawned | running | panicked => rfl
    | reader index => rfl

/-- Every step keeps the account between the tasks and the queue. -/
theorem Accounted.step (accounted : Accounted side decode state) {action : Action}
    (stepped : step side decode state action = some state') :
    Accounted side decode state' := by
  cases action with
  | spawn =>
      simp only [Receiving.step, Option.ite_none_right_eq_some, Option.some.injEq] at stepped
      obtain ⟨notSpawned, rfl⟩ := stepped
      exact
        { sound := accounted.sound
          returned := by simp
          panicked := by simp
          history := by
            refine accounted.history_of_same (by rfl) (by exact id) ?_
            funext source
            cases source <;> simp [owed, lossEvents, notSpawned] }
  | acceptUni => exact accounted.acceptUni stepped
  | read index => exact accounted.read stepped
  | openStream =>
      simp only [Receiving.step, Option.ite_none_right_eq_some, Option.some.injEq] at stepped
      obtain ⟨up, rfl⟩ := stepped
      exact accounted.openStream up
  | deliver index bytes =>
      exact accounted.onOpenStream stepped (fun _ => rfl) (fun _ => rfl) fun _ => by simp
  | finish index =>
      exact accounted.onOpenStream stepped (fun _ => rfl) (fun _ => rfl) fun _ => Nat.le_refl _
  | resetStream index code =>
      exact accounted.onOpenStream stepped (fun _ => rfl) (fun _ => rfl) fun _ => Nat.le_refl _
  | lose cause =>
      simp only [Receiving.step, Option.ite_none_right_eq_some, Option.some.injEq] at stepped
      obtain ⟨up, rfl⟩ := stepped
      exact accounted.lose up cause
  | poll =>
      obtain rfl := Option.some.inj stepped
      exact
        { accounted with
          history := accounted.history_of_same (by simp) (by simp) rfl }
  | dropReceiver =>
      obtain rfl := Option.some.inj stepped
      exact
        { accounted with
          history := accounted.history_of_same (by simp) (by simp) rfl }

/-- The account holds in every reachable state. -/
theorem accounted_of_reachable (reachable : (system side decode).Reachable state) :
    Accounted side decode state :=
  reachable.invariant (Accounted side decode) established_accounted
    fun _ _ _ _ accounted stepped => accounted.step stepped

/-- While the application holds the queue, every task has queued exactly what
it owes. -/
theorem Accounted.sentBy_eq (accounted : Accounted side decode state)
    (held : state.events.receiverHeld = true) (source : Source) :
    sentBy source state.events.sent = owed side decode state source := by
  rcases accounted.history source with exact' | ⟨dropped, -⟩
  · exact exact'
  · simp [held] at dropped

/-- Whatever a task has queued, it owes. -/
theorem Accounted.mem_owed (accounted : Accounted side decode state) {source : Source}
    {event : Event} (queued : (source, event) ∈ state.events.sent) :
    event ∈ owed side decode state source := by
  have mine := mem_sentBy.mpr queued
  rcases accounted.history source with exact' | ⟨-, nothing⟩
  · exact exact' ▸ mine
  · simp [nothing] at mine

/-- A queued disconnection comes from the accept loop or from the task of a
stream that the loss cut short, and the cause is one the mapping reports. -/
theorem Accounted.disconnected_cases (accounted : Accounted side decode state)
    {source : Source} {event : Event} (queued : (source, event) ∈ state.events.sent)
    (disconnected : side.isDisconnected event = true) :
    (∃ cause, state.closed = some cause ∧ reported cause = true) ∧
      (source = .acceptLoop ∨
        ∃ index stream, source = .reader index ∧
          state.streams[index]? = some stream ∧ stream.Cut oneGigabyteInBytes) := by
  have mine := accounted.mem_owed queued
  cases source with
  | acceptLoop =>
      refine ⟨?_, .inl rfl⟩
      simp only [owed, lossEvents] at mine
      split at mine
      next error returned closed =>
        exact ⟨error, closed, side.loss_reported.mp ⟨event, by simpa using mine⟩⟩
      next => cases mine
  | reader index =>
      simp only [owed] at mine
      split at mine
      next stream found =>
        simp only [streamEvents] at mine
        split at mine
        next result ended =>
          have explained := (accounted.sound index stream found).explained result ended
          have emits : readingTaskEvent side decode result = .ok (some event) := by
            simpa using mine
          obtain ⟨error, rfl, mapped⟩ := lost_of_disconnected emits disconnected
          exact ⟨⟨error, explained.2, side.loss_reported.mp ⟨event, mapped⟩⟩,
            .inr ⟨index, stream, rfl, found, explained.1⟩⟩
        next => cases mine
      next => cases mine

/-- The task of a stream that the loss cut short has not ended while the
connection is up. -/
theorem Accounted.not_ended_of_cut (accounted : Accounted side decode state)
    (up : state.closed = none) {stream : IncomingStream}
    (found : state.streams[index]? = some stream)
    (cut : stream.Cut oneGigabyteInBytes) (result : Except ReadToEndError (List UInt8)) :
    stream.reader ≠ .ended result := by
  intro ended
  have explained := (accounted.sound index stream found).explained result ended
  rw [up] at explained
  simp only [Explains] at explained
  split at explained
  · have finished := explained.1.1
    simp [cut.1] at finished
  · cases explained.2
  · exact explained.2 cut

/-- When no receiving task can take a step, the accept loop has taken every
stream. -/
theorem Accounted.nextStream_of_stuck (accounted : Accounted side decode state)
    (stuck : (system side decode).Stuck Action.IsTask state) :
    state.nextStream = none := by
  cases task : state.acceptTask with
  | notSpawned =>
      have stepped := stuck .spawn trivial
      simp [system, Receiving.step, task] at stepped
  | running =>
      cases next : state.nextStream with
      | none => rfl
      | some index =>
          have stepped := stuck .acceptUni trivial
          simp [system, Receiving.step, acceptUni_of_next task next] at stepped
  | returned => exact (accounted.returned task).1
  | panicked => exact (accounted.panicked task).1

/-- When no receiving task can take a step, every stream that the peer finished
and that fits the limit has been read. -/
theorem Accounted.ended_of_stuck (accounted : Accounted side decode state)
    (stuck : (system side decode).Stuck Action.IsTask state) {stream : IncomingStream}
    (found : state.streams[index]? = some stream)
    (complete : stream.Complete oneGigabyteInBytes) :
    stream.reader = .ended (.ok stream.received) := by
  have next := accounted.nextStream_of_stuck stuck
  cases reader : stream.reader with
  | notSpawned => exact absurd reader (State.nextStream_eq_none.mp next index stream found)
  | reading =>
      have answered : receiveMessageRaw stream.toRecvStream state.closed =
          some (.ok stream.received) := RecvStream.readToEnd_eq_ok.mpr ⟨complete, rfl⟩
      have stepped := stuck (.read index) trivial
      simp [system, Receiving.step, read_of_answer found reader answered] at stepped
  | ended result =>
      have explained := (accounted.sound index stream found).explained result reader
      simp only [Explains] at explained
      split at explained
      · rw [explained.2]
      · have finished := complete.1
        simp [explained.1.1] at finished
      · exact absurd complete explained.1

end Warqueen.Receiving
