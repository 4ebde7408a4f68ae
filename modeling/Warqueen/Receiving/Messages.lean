import Mathlib.Data.List.Nodup
import Warqueen.Receiving.Accounting

/-!
# The messages that reach the application

Each stream of the peer has a reading task of its own, and a task that panics on
what it read ends alone.  So when the receiving tasks have nothing more to do, the
messages queued are those of the good streams: fully received, within the limit and
decodable.
-/

namespace Warqueen.Receiving

open Concurrency Quinn

variable {R Event : Type} {side : ReceivingSide R Event}
variable {decode : List UInt8 → Option R}
variable {state : State Event} {index : Nat}

/-- The message of a `ClientEvent.message`. -/
def ClientEvent.payload : ClientEvent R → Option R
  | .message received => some received
  | _ => none

/-- The message of a `ClientOnServerEvent.message`. -/
def ClientOnServerEvent.payload : ClientOnServerEvent R → Option R
  | .message received => some received
  | .disconnected _ => none

/-- How the messages are read off the events of a side. -/
structure Payload (side : ReceivingSide R Event) where
  payload : Event → Option R
  message : ∀ message, payload (side.message message) = some message
  disconnected : ∀ {event}, side.isDisconnected event = true → payload event = none

/-- The payloads of the client's events. -/
def clientPayload (R : Type) : Payload (clientSide R) where
  payload := ClientEvent.payload
  message _ := rfl
  disconnected := by
    intro event isDisconnected
    cases event with
    | disconnected => rfl
    | connected | message | failedToConnect => cases isDisconnected

/-- The payloads of the server's events about a client. -/
def serverPayload (R : Type) : Payload (serverSide R) where
  payload := ClientOnServerEvent.payload
  message _ := rfl
  disconnected := by
    intro event isDisconnected
    cases event with
    | disconnected => rfl
    | message => cases isDisconnected

/-- The message of a good stream: the whole stream is there, fits the limit and
decodes. -/
def goodMessage (decode : List UInt8 → Option R) (stream : RecvStream) : Option R :=
  if stream.Complete oneGigabyteInBytes then decode stream.received else none

/-- The condition that the connection is not closed on our side. -/
def notClosedByUs (_state : State Event) (action : Action) : Prop :=
  action ≠ .lose .locallyClosed

/-- The messages queued are exactly those of the good streams, one for each, and no
stream was left unaccepted. -/
structure ExactlyGoodStreams (payload : Event → Option R) (decode : List UInt8 → Option R)
    (state : State Event) : Prop where
  queued : ((state.events.sent.map Prod.snd).filterMap payload).Perm
    (state.streams.filterMap fun stream => goodMessage decode stream.toRecvStream)
  perStream : ∀ (index : Nat) (stream : IncomingStream),
    state.streams[index]? = some stream →
      (sentBy (.reader index) state.events.sent).filterMap payload =
        (goodMessage decode stream.toRecvStream).toList
  accepted : ∀ stream ∈ state.streams, stream.reader ≠ .notSpawned

/-- In every run without a close on our side, the accept loop ends only by the loss
of the connection and after it took all the streams, and when the tasks are at rest
with the queue still held, the messages are those of the good streams. -/
def ReceivesGoodStreams (side : ReceivingSide R Event) (payload : Event → Option R)
    (decode : List UInt8 → Option R) : Prop :=
  ∀ state, (system side decode).Reaches notClosedByUs (system side decode).init state →
    (state.acceptTask = .returned ∨ state.acceptTask = .panicked →
      state.nextStream = none ∧ ∃ cause, state.closed = some cause) ∧
    (state.events.receiverHeld = true →
      (system side decode).Stuck Action.IsTask state →
        ExactlyGoodStreams payload decode state)

/-! ## What a stream contributes -/

/-- A task owes at most one event. -/
theorem owed_length_le (source : Source) : (owed side decode state source).length ≤ 1 := by
  have atMostOne (event : Option Event) : event.toList.length ≤ 1 := by
    cases event <;> simp
  cases source with
  | acceptLoop =>
      simp only [owed, lossEvents]
      split
      · exact atMostOne _
      · simp
  | reader index =>
      simp only [owed, streamEvents]
      split
      · split
        · exact atMostOne _
        · simp
      · simp

/-- A reading task contributes the message that it decoded, and nothing when it
panicked or found the connection lost. -/
theorem Payload.readingTask (reads : Payload side) (decode : List UInt8 → Option R)
    (result : Except ReadToEndError (List UInt8)) :
    (emitted (readingTaskEvent side decode result)).toList.filterMap reads.payload =
      match result with
      | .ok messageRaw => (decode messageRaw).toList
      | .error _ => [] := by
  cases event : emitted (readingTaskEvent side decode result) with
  | none =>
      cases result with
      | error error => rfl
      | ok messageRaw =>
          cases decodes : decode messageRaw with
          | none => simp [decodes]
          | some message => simp [readingTaskEvent, decodes, emitted] at event
  | some event' =>
      have emits := emitted_eq_some.mp event
      cases result with
      | ok messageRaw =>
          cases decodes : decode messageRaw with
          | none => simp [readingTaskEvent, decodes] at emits
          | some message =>
              simp only [readingTaskEvent, decodes, Except.ok.injEq,
                Option.some.injEq] at emits
              subst emits
              simp [reads.message, decodes]
      | error error =>
          have lost : side.isDisconnected event' = true := by
            simp only [readingTaskEvent] at emits
            split at emits
            next impossible => cases impossible
            next => exact side.loss_disconnected emits
            next => cases emits
          simp [reads.disconnected lost]

/-- At rest, a stream has contributed its message if it is good. -/
theorem Accounted.streamEvents_of_stuck (accounted : Accounted side decode state)
    (reads : Payload side) (stuck : (system side decode).Stuck Action.IsTask state)
    {stream : IncomingStream} (found : state.streams[index]? = some stream) :
    (streamEvents side decode stream).filterMap reads.payload =
      (goodMessage decode stream.toRecvStream).toList := by
  by_cases complete : stream.Complete oneGigabyteInBytes
  · have ended := accounted.ended_of_stuck stuck found complete
    simp only [streamEvents, ended, reads.readingTask, goodMessage, complete, if_true]
  · simp only [goodMessage, complete, if_false]
    cases reader : stream.reader with
    | notSpawned | reading => simp [streamEvents, reader]
    | ended result =>
        simp only [streamEvents, reader, reads.readingTask]
        cases result with
        | error error => rfl
        | ok messageRaw =>
            have explained := (accounted.sound index stream found).explained _ reader
            exact absurd explained.1 complete

/-- The accept loop queues no message. -/
theorem Payload.acceptLoop (reads : Payload side) (acceptTask : AcceptTask)
    (closed : Option ConnectionError) :
    (lossEvents side acceptTask closed).filterMap reads.payload = [] := by
  simp only [lossEvents]
  split
  next error =>
    cases event : emitted (side.connectionErrorToEvent error) with
    | none => rfl
    | some event' =>
        have lost := side.loss_disconnected (emitted_eq_some.mp event)
        simp [reads.disconnected lost]
  next => rfl

/-! ## What the queue holds -/

/-- A queued event is the message of a good stream, queued by its reading task, or a
disconnection. -/
theorem Accounted.queued_cases (accounted : Accounted side decode state)
    {source : Source} {event : Event} (queued : (source, event) ∈ state.events.sent) :
    (∃ index stream message, source = .reader index ∧
        state.streams[index]? = some stream ∧
        goodMessage decode stream.toRecvStream = some message ∧
        event = side.message message) ∨
      side.isDisconnected event = true := by
  have mine := accounted.mem_owed queued
  cases source with
  | acceptLoop =>
      simp only [owed, lossEvents] at mine
      split at mine
      next error _ _ =>
        have emits : side.connectionErrorToEvent error = .ok (some event) := by
          simpa using mine
        exact .inr (side.loss_disconnected emits)
      next => cases mine
  | reader index =>
      simp only [owed] at mine
      split at mine
      next stream found =>
        simp only [streamEvents] at mine
        split at mine
        next result ended =>
          have explained := (accounted.sound index stream found).explained result ended
          have emits : readingTaskEvent side decode result = .ok (some event) := by
            simpa using mine
          cases result with
          | ok messageRaw =>
              obtain ⟨complete, rfl⟩ := explained
              cases decodes : decode stream.received with
              | none => simp [readingTaskEvent, decodes] at emits
              | some message =>
                  simp only [readingTaskEvent, decodes, Except.ok.injEq,
                    Option.some.injEq] at emits
                  refine .inl ⟨index, stream, message, rfl, found, ?_, emits.symm⟩
                  simp [goodMessage, complete, decodes]
          | error error =>
              simp only [readingTaskEvent] at emits
              split at emits
              next impossible => cases impossible
              next => exact .inr (side.loss_disconnected emits)
              next => cases emits
        next => cases mine
      next => cases mine

/-- Each task has queued at most one event. -/
theorem Accounted.nodup_sources (accounted : Accounted side decode state) :
    (state.events.sent.map Prod.fst).Nodup := by
  apply List.nodup_iff_count_le_one.mpr
  intro source
  have share : (sentBy source state.events.sent).length ≤ 1 := by
    rcases accounted.history source with exact' | ⟨-, nothing⟩
    · rw [exact']
      exact owed_length_le source
    · simp [nothing]
  rw [length_sentBy] at share
  rw [List.count, List.countP_map]
  refine Nat.le_trans (Nat.le_of_eq ?_) share
  apply List.countP_congr
  intro entry _
  simp

/-- A walk over the positions of a list is a walk over the list. -/
theorem flatMap_range_length {α β : Type} {image : Nat → List β} {image' : α → List β}
    {elements : List α}
    (same : ∀ index element, elements[index]? = some element →
      image index = image' element) :
    (List.range elements.length).flatMap image = elements.flatMap image' := by
  induction elements generalizing image with
  | nil => rfl
  | cons element rest inductionHypothesis =>
      have first := same 0 element rfl
      have later : (List.range rest.length).flatMap (fun index => image (index + 1)) =
          rest.flatMap image' :=
        inductionHypothesis fun index element found => same (index + 1) element found
      rw [List.length_cons, List.range_succ_eq_map, List.flatMap_cons, List.flatMap_map,
        List.flatMap_cons, first, later]

/-- Only the accept loop and the readers of streams have queued anything. -/
theorem Accounted.covered (accounted : Accounted side decode state)
    (entry : Source × Event) (queued : entry ∈ state.events.sent) :
    entry.1 ∈ .acceptLoop :: (List.range state.streams.length).map Source.reader := by
  obtain ⟨source, event⟩ := entry
  cases source with
  | acceptLoop => exact List.mem_cons_self
  | reader index =>
      have mine := accounted.mem_owed queued
      have inBounds : index < state.streams.length := by
        by_contra outOfBounds
        simp [owed, List.getElem?_eq_none (Nat.le_of_not_lt outOfBounds)] at mine
      simp [inBounds]

/-- At rest, with the queue still held, the messages are those of the good
streams. -/
theorem Accounted.exactlyGoodStreams (accounted : Accounted side decode state)
    (reads : Payload side) (held : state.events.receiverHeld = true)
    (stuck : (system side decode).Stuck Action.IsTask state) :
    ExactlyGoodStreams reads.payload decode state := by
  have perStream : ∀ (index : Nat) (stream : IncomingStream),
      state.streams[index]? = some stream →
        (sentBy (.reader index) state.events.sent).filterMap reads.payload =
          (goodMessage decode stream.toRecvStream).toList := by
    intro index stream found
    rw [accounted.sentBy_eq held, owed, found]
    exact accounted.streamEvents_of_stuck reads stuck found
  constructor
  · have nodup : (Source.acceptLoop ::
        (List.range state.streams.length).map Source.reader).Nodup := by
      apply List.nodup_cons.mpr
      constructor
      · simp
      · exact List.Nodup.map (fun _ _ same => Source.reader.inj same) List.nodup_range
    have shares := (perm_flatMap_sentBy nodup accounted.covered).filterMap reads.payload
    have acceptLoop :
        (sentBy .acceptLoop state.events.sent).filterMap reads.payload = [] := by
      rw [accounted.sentBy_eq held, owed]
      exact reads.acceptLoop _ _
    rw [List.filterMap_flatMap, List.flatMap_cons, acceptLoop, List.nil_append,
      List.flatMap_map, flatMap_range_length perStream,
      ← List.filterMap_eq_flatMap_toList] at shares
    exact shares
  · exact perStream
  · intro stream member
    obtain ⟨index, found⟩ := List.mem_iff_getElem?.mp member
    exact State.nextStream_eq_none.mp (accounted.nextStream_of_stuck stuck) index stream found

theorem receivesGoodStreams (reads : Payload side) :
    ReceivesGoodStreams side reads.payload decode := by
  intro state reached
  have accounted := accounted_of_reachable reached.always
  constructor
  · intro ended
    rcases ended with returned | panicked
    · obtain ⟨next, error, event, closed, -⟩ := accounted.returned returned
      exact ⟨next, error, closed⟩
    · obtain ⟨next, error, panic, closed, -⟩ := accounted.panicked panicked
      exact ⟨next, error, closed⟩
  · exact accounted.exactlyGoodStreams reads

/-- On both sides the messages queued are exactly those of the good streams, for
every set of streams with any contents, every loss that is not our own close and
every interleaving. -/
theorem messages_are_good_streams {R : Type} (decode : List UInt8 → Option R) :
    ReceivesGoodStreams (clientSide R) ClientEvent.payload decode ∧
      ReceivesGoodStreams (serverSide R) ClientOnServerEvent.payload decode :=
  ⟨receivesGoodStreams (clientPayload R), receivesGoodStreams (serverPayload R)⟩

/-- The peer opens three streams, of which the first has a message, the second something
that is none, and the third is cut by the loss of the connection. -/
def threeStreams : List Action :=
  [.spawn, .openStream, .openStream, .openStream, .deliver 0 [0xc0], .finish 0,
    .deliver 1 [0xc1], .finish 1, .deliver 2 [0xc0], .acceptUni, .acceptUni, .acceptUni,
    .lose .timedOut, .read 2, .read 1, .read 0, .acceptUni]

/-- The message is queued among the events of the loss, and nothing else comes of the
streams. -/
theorem messages_are_good_streams_of_three :
    ∃ state, (system (serverSide Unit) decodeUnit).run .established threeStreams =
        some state ∧
      (system (serverSide Unit) decodeUnit).Stuck Action.IsTask state ∧
      state.events.sent = [(.reader 2, .disconnected .timeout), (.reader 0, .message ()),
        (.acceptLoop, .disconnected .timeout)] ∧
      ExactlyGoodStreams ClientOnServerEvent.payload decodeUnit state := by
  obtain ⟨state, ran, sent, held, returned, streams⟩ :
      ∃ state, (system (serverSide Unit) decodeUnit).run .established threeStreams =
          some state ∧
        state.events.sent = [(.reader 2, .disconnected .timeout), (.reader 0, .message ()),
          (.acceptLoop, .disconnected .timeout)] ∧
        state.events.receiverHeld = true ∧ state.acceptTask = .returned ∧
        state.streams.map (·.reader) =
          [.ended (.ok [0xc0]), .ended (.ok [0xc1]),
            .ended (.error (.read (.connectionLost .timedOut)))] :=
    ⟨_, rfl, rfl, rfl, rfl, rfl⟩
  have stuck : (system (serverSide Unit) decodeUnit).Stuck Action.IsTask state := by
    intro action own
    cases action with
    | spawn => simp [system, step, returned]
    | acceptUni => simp [system, step, acceptUni, returned]
    | read index =>
        have notReading : ∀ stream, state.streams[index]? = some stream →
            stream.reader ≠ .reading := by
          intro stream found reading
          have member : stream.reader ∈ state.streams.map (·.reader) :=
            List.mem_map.mpr ⟨stream, List.mem_of_getElem? found, rfl⟩
          simp [streams, reading] at member
        simp only [system, step, Receiving.read]
        cases found : state.streams[index]? with
        | none => rfl
        | some stream => exact if_neg (notReading stream found)
    | _ => exact own.elim
  have reached :=
    System.reaches_of_run (· ≠ .lose .locallyClosed) (by simp [threeStreams]) ran
  exact ⟨state, ran, stuck, sent,
    ((messages_are_good_streams decodeUnit).2 state reached).2 held stuck⟩

end Warqueen.Receiving
