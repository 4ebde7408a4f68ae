import Warqueen.Receiving.Accounting

/-!
# Reporting the loss of the connection

The accept loop and every reading task that finds the connection lost report it
through the same mapping and independently of each other.  Three questions are
settled here for every run: whether the loss is reported at all, how often, and
whether messages can still be queued after it.

The task steps that finish the work of a lost connection can be taken in any
order.  `reaches_acceptAll` is the part of such a schedule that every answer
needs: the accept loop takes all the streams that are left.
-/

namespace Warqueen.Receiving

open Concurrency Quinn

variable {R Event : Type} {side : ReceivingSide R Event}
variable {decode : List UInt8 → Option R}
variable {state state' : State Event} {index : Nat}

/-! ## Schedules of the receiving tasks -/

/-- The condition that only the receiving tasks move. -/
def byTasks (_state : State Event) (action : Action) : Prop := action.IsTask

/-- What the accept loop does to a stream it takes. -/
def IncomingStream.accept (stream : IncomingStream) : IncomingStream :=
  if stream.reader = .notSpawned then { stream with reader := .reading } else stream

/-- The state after the accept loop took every stream. -/
def State.acceptAll (state : State Event) : State Event :=
  { state with streams := state.streams.map IncomingStream.accept }

@[simp] theorem IncomingStream.accept_toRecvStream (stream : IncomingStream) :
    stream.accept.toRecvStream = stream.toRecvStream := by
  simp only [accept]
  split <;> rfl

theorem IncomingStream.accept_reader_ne (stream : IncomingStream) :
    stream.accept.reader ≠ .notSpawned := by
  simp only [accept]
  split <;> simp_all

/-- A stream whose reading task has not ended is being read once accepted. -/
theorem IncomingStream.accept_reader {stream : IncomingStream}
    (notEnded : ∀ result, stream.reader ≠ .ended result) :
    stream.accept.reader = .reading := by
  simp only [accept]
  cases reader : stream.reader with
  | notSpawned => simp
  | reading => simp [reader]
  | ended result => exact absurd reader (notEnded result)

theorem IncomingStream.accept_of_spawned {stream : IncomingStream}
    (spawned : stream.reader ≠ .notSpawned) : stream.accept = stream := by
  simp [accept, spawned]

theorem State.acceptAll_nextStream : state.acceptAll.nextStream = none := by
  rw [State.nextStream_eq_none]
  intro index stream found
  obtain ⟨old, -, rfl⟩ := by
    simpa only [State.acceptAll, List.getElem?_map, Option.map_eq_some_iff] using found
  exact old.accept_reader_ne

/-- The accept loop takes the first stream that has no reading task yet. -/
theorem acceptUni_append (running : state.acceptTask = .running)
    (taken rest : List IncomingStream) (stream : IncomingStream)
    (spawned : ∀ stream ∈ taken, stream.reader ≠ .notSpawned)
    (fresh : stream.reader = .notSpawned) :
    acceptUni side { state with streams := taken ++ stream :: rest } =
      some { state with streams := taken ++ stream.accept :: rest } := by
  have next : ({ state with streams := taken ++ stream :: rest } : State Event).nextStream =
      some taken.length := by
    have none' : taken.findIdx? (fun stream => stream.reader = .notSpawned) = none := by
      simpa [List.findIdx?_eq_none_iff] using spawned
    simp [State.nextStream, List.findIdx?_append, none', List.findIdx?_cons, fresh]
  refine (acceptUni_of_next (by exact running) next).trans ?_
  simp [State.updateStream, IncomingStream.accept, fresh, List.modify_eq_take_cons_drop]

/-- A running accept loop can take all the streams. -/
theorem reaches_acceptAll_of_running (running : state.acceptTask = .running) :
    (system side decode).Reaches byTasks state state.acceptAll := by
  refine System.Reaches.map
    (fun streams : List IncomingStream => { state with streams := streams })
    IncomingStream.accept state.streams ?_
  intro earlier stream later _
  by_cases fresh : stream.reader = .notSpawned
  · have spawned : ∀ stream ∈ earlier.map IncomingStream.accept,
        stream.reader ≠ .notSpawned := by
      intro taken member
      obtain ⟨stream, -, rfl⟩ := List.mem_map.mp member
      exact stream.accept_reader_ne
    have stepped : (system side decode).step
        { state with streams := earlier.map IncomingStream.accept ++ stream :: later }
        .acceptUni =
          some { state with
            streams := earlier.map IncomingStream.accept ++ stream.accept :: later } :=
      acceptUni_append running _ later stream spawned fresh
    exact System.Reaches.single (by trivial) stepped
  · rw [IncomingStream.accept_of_spawned fresh]
    exact System.Reaches.refl

/-- An accept loop that has not ended can take all the streams before anything
else happens. -/
theorem reaches_acceptAll
    (notEnded : state.acceptTask = .notSpawned ∨ state.acceptTask = .running) :
    (system side decode).Reaches byTasks state
      { state.acceptAll with acceptTask := .running } := by
  have running : ({ state with acceptTask := .running } : State Event).acceptTask =
      .running := rfl
  have accepted : (system side decode).Reaches byTasks
      { state with acceptTask := .running }
      { state.acceptAll with acceptTask := .running } :=
    reaches_acceptAll_of_running running
  obtain notSpawned | running := notEnded
  · have spawned : (system side decode).step state .spawn =
        some { state with acceptTask := .running } := by
      simp [system, step, notSpawned]
    exact (System.Reaches.single trivial spawned).trans accepted
  · rw [← running] at accepted ⊢
    exact accepted

/-- While the connection is up the accept loop has not ended. -/
theorem Accounted.notEnded_of_up (accounted : Accounted side decode state)
    (up : state.closed = none) :
    state.acceptTask = .notSpawned ∨ state.acceptTask = .running := by
  cases task : state.acceptTask with
  | notSpawned => exact .inl rfl
  | running => exact .inr rfl
  | returned =>
      obtain ⟨-, error, event, closed, -⟩ := accounted.returned task
      simp [up] at closed
  | panicked =>
      obtain ⟨-, error, panic, closed, -⟩ := accounted.panicked task
      simp [up] at closed

/-- A reading task that has not ended can be brought to read its stream, with
nothing else changed than the tasks of other streams spawned. -/
theorem Accounted.reaches_reading (accounted : Accounted side decode state)
    {stream : IncomingStream} (found : state.streams[index]? = some stream)
    (notEnded : ∀ result, stream.reader ≠ .ended result) :
    ∃ after reading, (system side decode).Reaches byTasks state after ∧
      after.closed = state.closed ∧ after.events = state.events ∧
      after.streams[index]? = some reading ∧ reading.reader = .reading ∧
      reading.toRecvStream = stream.toRecvStream := by
  cases reader : stream.reader with
  | ended result => exact absurd reader (notEnded result)
  | reading => exact ⟨state, stream, .refl, rfl, rfl, found, reader, rfl⟩
  | notSpawned =>
      have someLeft : state.nextStream ≠ none := fun none' =>
        State.nextStream_eq_none.mp none' index stream found reader
      have running : state.acceptTask = .notSpawned ∨ state.acceptTask = .running := by
        cases task : state.acceptTask with
        | notSpawned => exact .inl rfl
        | running => exact .inr rfl
        | returned => exact absurd (accounted.returned task).1 someLeft
        | panicked => exact absurd (accounted.panicked task).1 someLeft
      refine ⟨_, stream.accept, reaches_acceptAll running, rfl, rfl, ?_,
        IncomingStream.accept_reader notEnded, stream.accept_toRecvStream⟩
      simp [State.acceptAll, found]

/-! ## Whether the loss is reported -/

/-- Every receiving task of the connection has ended, by returning or by a
panic. -/
def State.TasksEnded (state : State Event) : Prop :=
  (state.acceptTask = .returned ∨ state.acceptTask = .panicked) ∧
    ∀ stream ∈ state.streams, stream.reader ≠ .reading

/-- The history of the queue holds a disconnection. -/
def ReportsLoss (side : ReceivingSide R Event) (state : State Event) : Prop :=
  ∃ entry ∈ state.events.sent, side.isDisconnected entry.2 = true

/-- Whether the application may let go of the queue during a run. -/
def keepingReceiver (mayDrop : Bool) (_state : State Event) (action : Action) : Prop :=
  action = .dropReceiver → mayDrop = true

/-- A connection that ended for this cause never ends all its receiving tasks
without having queued a disconnection. -/
def NoSilentLoss (side : ReceivingSide R Event) (decode : List UInt8 → Option R)
    (mayDrop : Bool) (cause : ConnectionError) : Prop :=
  ∀ state, (system side decode).Reaches (keepingReceiver mayDrop)
      (system side decode).init state →
    state.closed = some cause → state.TasksEnded → ReportsLoss side state

theorem receiverHeld_of_keeping
    (reached : (system side decode).Reaches (keepingReceiver false)
      (system side decode).init state) :
    state.events.receiverHeld = true := by
  refine reached.invariant (fun state => state.events.receiverHeld = true) rfl ?_
  intro before action after _ held allowed stepped
  rw [step_receiverHeld (fun drops => by simpa using allowed drops) stepped]
  exact held

/-- When the receiving tasks have ended with the queue still held, the accept
loop has queued the event for the cause, if there is one. -/
theorem Accounted.reportsLoss (accounted : Accounted side decode state)
    (held : state.events.receiverHeld = true) (ended : state.TasksEnded)
    {cause : ConnectionError} (closed : state.closed = some cause)
    (isReported : reported cause = true) : ReportsLoss side state := by
  obtain ⟨event, mapped⟩ := side.loss_reported.mpr isReported
  have returned : state.acceptTask = .returned := by
    rcases ended.1 with returned | panicked
    · exact returned
    · obtain ⟨-, error, panic, closed', mapped'⟩ := accounted.panicked panicked
      obtain rfl : cause = error := by simpa [closed] using closed'
      simp [mapped] at mapped'
  have queued : event ∈ sentBy .acceptLoop state.events.sent := by
    rw [accounted.sentBy_eq held]
    simp [owed, lossEvents, returned, closed, mapped]
  exact ⟨(.acceptLoop, event), mem_sentBy.mp queued, side.loss_disconnected mapped⟩

/-- From a connection that received no stream, a run in which nothing but the
loss happens: the accept loop finds it and ends. -/
theorem reaches_loss (side : ReceivingSide R Event) (decode : List UInt8 → Option R)
    (mayDrop : Bool) (cause : ConnectionError) (state : State Event)
    (up : state.closed = none)
    (noStream : state.streams = []) (notSpawned : state.acceptTask = .notSpawned) :
    ∃ after, (system side decode).Reaches (keepingReceiver mayDrop) state after ∧
      after.closed = some cause ∧ after.TasksEnded ∧
      after.events.sent =
        (state.queue .acceptLoop
          (emitted (side.connectionErrorToEvent cause))).events.sent := by
  let lost : State Event := { state with closed := some cause }
  let running : State Event := { lost with acceptTask := .running }
  have losing : (system side decode).step state (.lose cause) = some lost := by
    simp [system, step, up, lost]
  have spawning : (system side decode).step lost .spawn = some running := by
    simp [system, step, notSpawned, lost, running]
  have next : running.nextStream = none := by
    simp [State.nextStream, running, lost, noStream]
  obtain ⟨task, ended, stepped⟩ :=
    acceptUni_of_lost side (by rfl : running.acceptTask = .running) next
      (by rfl : running.closed = some cause)
  have accepting : (system side decode).step running .acceptUni = some _ := stepped
  have reached : (system side decode).Reaches (keepingReceiver mayDrop) state _ :=
    ((System.Reaches.single (by simp [keepingReceiver]) losing).tail
      (by simp [keepingReceiver]) spawning).tail (by simp [keepingReceiver]) accepting
  refine ⟨_, reached, rfl, ⟨ended, ?_⟩, rfl⟩
  simp [running, lost, noStream]

/-- The loss is always reported exactly for the causes that the mapping turns
into an event, in runs that keep the queue. -/
theorem noSilentLoss_iff (mayDrop : Bool) (cause : ConnectionError) :
    NoSilentLoss side decode mayDrop cause ↔
      reported cause = true ∧ mayDrop = false := by
  constructor
  · intro noSilentLoss
    constructor
    · obtain ⟨state, reached, closed, ended, sent⟩ :=
        reaches_loss side decode mayDrop cause .established rfl rfl rfl
      obtain ⟨entry, queued, -⟩ := noSilentLoss state reached closed ended
      rw [sent, State.queue_sent] at queued
      obtain ⟨event, emits, -⟩ : ∃ event,
          event ∈ (emitted (side.connectionErrorToEvent cause)).toList ∧
            (Source.acceptLoop, event) = entry := by
        simpa [State.established] using queued
      exact side.loss_reported.mp ⟨event, by simpa using emits⟩
    · cases mayDrop with
      | false => rfl
      | true =>
          let dropped : State Event :=
            { closed := none, streams := [], acceptTask := .notSpawned,
              events := Mpsc.channel.dropReceiver }
          have dropping : (system side decode).step (system side decode).init
              .dropReceiver = some dropped := rfl
          obtain ⟨state, reached, closed, ended, sent⟩ :=
            reaches_loss side decode true cause dropped rfl rfl rfl
          obtain ⟨entry, queued, -⟩ := noSilentLoss state
            ((System.Reaches.single (fun _ => rfl) dropping).trans reached) closed ended
          simp [sent, State.queue_sent, dropped] at queued
  · intro condition state reached closed ended
    obtain ⟨isReported, rfl⟩ := condition
    exact (accounted_of_reachable reached.always).reportsLoss
      (receiverHeld_of_keeping reached) ended closed isReported

/-- On both sides the loss is always reported exactly when its cause is a remote
close or a timeout and the application keeps the queue. -/
theorem loss_reported_iff {R : Type} (decode : List UInt8 → Option R) (mayDrop : Bool)
    (cause : ConnectionError) :
    (NoSilentLoss (clientSide R) decode mayDrop cause ↔
        reported cause = true ∧ mayDrop = false) ∧
      (NoSilentLoss (serverSide R) decode mayDrop cause ↔
        reported cause = true ∧ mayDrop = false) :=
  ⟨noSilentLoss_iff mayDrop cause, noSilentLoss_iff mayDrop cause⟩

/-- A cause that makes the accept loop panic ends a connection without any stream
in silence. -/
theorem silent_of_panic (side : ReceivingSide R Event) (decode : List UInt8 → Option R)
    {cause : ConnectionError} {panic : Panic}
    (panics : side.connectionErrorToEvent cause = .error panic) :
    ¬ NoSilentLoss side decode false cause := by
  intro noSilentLoss
  have ran : (system side decode).run .established [.spawn, .lose cause, .acceptUni] =
      some { closed := some cause, streams := [], acceptTask := .panicked,
             events := .channel } := by
    simp [System.run, system, step, State.established, acceptUni, State.nextStream, panics]
  have reached := System.reaches_of_run
    (fun action => action = .dropReceiver → false = true) (by simp) ran
  obtain ⟨entry, queued, -⟩ := noSilentLoss _ reached rfl ⟨.inr rfl, by simp⟩
  cases queued

/-- A stateless reset makes the accept loop panic on both sides, and no
disconnection is ever queued. -/
theorem stateless_reset_is_silent :
    ¬ NoSilentLoss (clientSide Unit) decodeUnit false .reset ∧
      ¬ NoSilentLoss (serverSide Unit) decodeUnit false .reset :=
  ⟨silent_of_panic _ _ rfl, silent_of_panic _ _ rfl⟩

/-! ## How often the loss is reported -/

/-- How many disconnections were ever queued. -/
def disconnections (side : ReceivingSide R Event) (state : State Event) : Nat :=
  state.events.sent.countP fun entry => side.isDisconnected entry.2

/-- Some stream of the peer misses data: its reading, begun or not, is in
progress. -/
def State.HasCutStream (state : State Event) : Prop :=
  ∃ stream ∈ state.streams, stream.toRecvStream.Cut oneGigabyteInBytes

theorem hasCutStream_congr
    (same : state'.streams.map IncomingStream.toRecvStream =
      state.streams.map IncomingStream.toRecvStream) :
    state'.HasCutStream ↔ state.HasCutStream := by
  have viaMap (state : State Event) : state.HasCutStream ↔
      ∃ stream ∈ state.streams.map IncomingStream.toRecvStream,
        stream.Cut oneGigabyteInBytes := by
    simp [State.HasCutStream]
  rw [viaMap, viaMap, same]

theorem Accounted.disconnections_eq_zero (accounted : Accounted side decode state)
    (unreported : ∀ cause, state.closed = some cause → reported cause = false) :
    disconnections side state = 0 := by
  simp only [disconnections, List.countP_eq_zero]
  intro ⟨source, event⟩ queued disconnected
  obtain ⟨⟨cause, closed, isReported⟩, -⟩ :=
    accounted.disconnected_cases queued disconnected
  simp [unreported cause closed] at isReported

/-- When no stream is cut, only the accept loop reports the loss. -/
theorem Accounted.disconnections_le_one (accounted : Accounted side decode state)
    (uncut : ¬ state.HasCutStream) : disconnections side state ≤ 1 := by
  have fromAccept : disconnections side state ≤
      (sentBy .acceptLoop state.events.sent).length := by
    rw [length_sentBy]
    apply List.countP_mono_left
    intro ⟨source, event⟩ queued disconnected
    obtain ⟨-, acceptLoop | ⟨index, stream, -, found, cut⟩⟩ :=
      accounted.disconnected_cases queued disconnected
    · simp [acceptLoop]
    · exact absurd ⟨stream, List.mem_of_getElem? found, cut⟩ uncut
  have atMostOne : (lossEvents side state.acceptTask state.closed).length ≤ 1 := by
    simp only [lossEvents]
    split
    · cases emitted (side.connectionErrorToEvent _) <;> simp
    · simp
  rcases accounted.history .acceptLoop with exact' | ⟨-, nothing⟩
  · rw [exact'] at fromAccept
    exact Nat.le_trans fromAccept atMostOne
  · rw [nothing] at fromAccept
    exact Nat.le_trans fromAccept (Nat.zero_le 1)

/-- From a state that just lost the connection while a stream is cut, the task
of that stream and the accept loop both report it. -/
theorem reaches_two_disconnections (accounted : Accounted side decode state)
    (up : state.closed = none) (held : state.events.receiverHeld = true)
    {cause : ConnectionError} (isReported : reported cause = true)
    (hasCut : state.HasCutStream) :
    ∃ after, (system side decode).Reaches byTasks
        { state with closed := some cause } after ∧
      2 ≤ disconnections side after := by
  obtain ⟨stream, member, cut⟩ := hasCut
  obtain ⟨index, found⟩ := List.mem_iff_getElem?.mp member
  obtain ⟨event, mapped⟩ := side.loss_reported.mpr isReported
  have disconnected := side.loss_disconnected mapped
  let lost : State Event := { state with closed := some cause }
  let accepted : State Event := { lost.acceptAll with acceptTask := .running }
  have accepting : (system side decode).Reaches byTasks lost accepted :=
    reaches_acceptAll (accounted.notEnded_of_up up)
  have foundAccepted : accepted.streams[index]? = some stream.accept := by
    simp [accepted, State.acceptAll, lost, found]
  have reading : stream.accept.reader = .reading :=
    IncomingStream.accept_reader (accounted.not_ended_of_cut up found cut)
  have answered : receiveMessageRaw stream.accept.toRecvStream accepted.closed =
      some (.error (.read (.connectionLost cause))) := by
    rw [IncomingStream.accept_toRecvStream]
    exact RecvStream.readToEnd_eq_connectionLost.mpr ⟨cut, rfl⟩
  let read : State Event := (accepted.updateStream index fun stream =>
    stream.endReading accepted.closed (.error (.read (.connectionLost cause)))).queue
      (.reader index) (some event)
  have readingStep : (system side decode).step accepted (.read index) = some read := by
    refine (read_of_answer foundAccepted reading answered).trans ?_
    simp [readingTaskEvent, mapped, emitted, read]
  have next : read.nextStream = none :=
    nextStream_updateStream (by exact lost.acceptAll_nextStream) fun _ _ _ => by
      simp [IncomingStream.endReading]
  obtain ⟨task, -, stepped⟩ := acceptUni_of_lost side
    (by rfl : read.acceptTask = .running) next (by rfl : read.closed = some cause)
  have acceptStep : (system side decode).step read .acceptUni = some _ := stepped
  have reached : (system side decode).Reaches byTasks lost _ :=
    (accepting.tail (by trivial) readingStep).tail (by trivial) acceptStep
  refine ⟨_, reached, ?_⟩
  have readSent : read.events.sent = state.events.sent ++ [(.reader index, event)] := by
    simp [read, State.queue_sent, accepted, lost, State.acceptAll, held]
  have readHeld : read.events.receiverHeld = true := by
    simp [read, accepted, lost, State.acceptAll, held]
  simp [disconnections, State.queue_sent, readSent, readHeld, mapped, emitted,
    List.countP_append, disconnected]

/-- The condition that the loss of the connection finds no stream cut, unless
its cause is not reported or the application had let go of the queue. -/
def losingUncut (state : State Event) (action : Action) : Prop :=
  ∀ cause, action = .lose cause → reported cause = true →
    state.events.receiverHeld = true → ¬ state.HasCutStream

/-- What is known of the state once the connection is lost under the condition. -/
def LostUncut (state : State Event) : Prop :=
  ∀ cause, state.closed = some cause → reported cause = true →
    state.events.receiverHeld = true → ¬ state.HasCutStream

theorem lostUncut_step (uncut : LostUncut state) {action : Action}
    (allowed : losingUncut state action)
    (stepped : step side decode state action = some state') : LostUncut state' := by
  intro cause closed' isReported held'
  have held : state.events.receiverHeld = true := by
    by_contra dropped
    simp [(step_of_dropped (Bool.eq_false_iff.mpr dropped) stepped).1] at held'
  cases closed : state.closed with
  | some earlier =>
      obtain ⟨same, streams⟩ := step_of_closed closed stepped
      obtain rfl : earlier = cause := by simpa [same] using closed'
      rw [hasCutStream_congr streams]
      exact uncut earlier closed isReported held
  | none =>
      obtain ⟨rfl, rfl⟩ := step_loses closed closed' stepped
      exact allowed cause rfl isReported held

theorem Accounted.disconnections_le_one_of_held (accounted : Accounted side decode state)
    (uncut : LostUncut state) (held : state.events.receiverHeld = true) :
    disconnections side state ≤ 1 := by
  by_cases unreported : ∀ cause, state.closed = some cause → reported cause = false
  · rw [accounted.disconnections_eq_zero unreported]
    exact Nat.zero_le 1
  · simp only [not_forall, Bool.not_eq_false] at unreported
    obtain ⟨cause, closed, isReported⟩ := unreported
    exact accounted.disconnections_le_one (uncut cause closed isReported held)

/-- On either side a connection is reported lost at most once in the runs that
lose it while no stream is cut, and every other loss can be reported twice. -/
theorem losingUncut_decides :
    (system side decode).Decides losingUncut
      fun state => disconnections side state ≤ 1 where
  enough := by
    intro state reached
    refine (reached.invariant
      (fun state => Accounted side decode state ∧ LostUncut state ∧
        disconnections side state ≤ 1) ⟨established_accounted, ?_, ?_⟩ ?_).2.2
    · simp [LostUncut, system, State.established]
    · simp [disconnections, system, State.established]
    · intro before action after _ holds allowed stepped
      obtain ⟨accounted, uncut, atMostOnce⟩ := holds
      have accountedAfter := accounted.step stepped
      have uncutAfter := lostUncut_step uncut allowed stepped
      refine ⟨accountedAfter, uncutAfter, ?_⟩
      cases held : after.events.receiverHeld with
      | true => exact accountedAfter.disconnections_le_one_of_held uncutAfter held
      | false =>
          rw [disconnections, step_sent_of_dropped held stepped]
          exact atMostOnce
  needed := by
    intro before action after reachable stepped fails
    simp only [losingUncut, Classical.not_forall, not_not] at fails
    obtain ⟨cause, rfl, isReported, held, hasCut⟩ := fails
    simp only [system, step, Option.ite_none_right_eq_some, Option.some.injEq] at stepped
    obtain ⟨up, rfl⟩ := stepped
    obtain ⟨state, reached, twice⟩ := reaches_two_disconnections
      (accounted_of_reachable reachable) up held isReported hasCut
    exact ⟨state, reached.always, by omega⟩

/-- On both sides, whether a loss is reported at most once is decided by what
the peer still had in flight when the connection was lost. -/
theorem loss_reported_once {R : Type} (decode : List UInt8 → Option R) :
    (system (clientSide R) decode).Decides losingUncut
        (fun state => disconnections (clientSide R) state ≤ 1) ∧
      (system (serverSide R) decode).Decides losingUncut
        (fun state => disconnections (serverSide R) state ≤ 1) :=
  ⟨losingUncut_decides, losingUncut_decides⟩

/-- The peer opened one stream, sent one byte of it and then timed out: the
reading task and the accept loop report the timeout one after the other. -/
def timeoutMidMessage : List Action :=
  [.spawn, .openStream, .deliver 0 [0x92], .acceptUni, .lose .timedOut, .read 0, .acceptUni]

/-- A timeout in the middle of one message is reported twice on both sides. -/
theorem timeout_mid_message_reported_twice :
    ¬ (∀ state, (system (clientSide Unit) decodeUnit).Reachable state →
        disconnections (clientSide Unit) state ≤ 1) ∧
      ¬ (∀ state, (system (serverSide Unit) decodeUnit).Reachable state →
        disconnections (serverSide Unit) state ≤ 1) := by
  constructor
  · intro atMostOnce
    obtain ⟨state, ran, twice⟩ : ∃ state,
        (system (clientSide Unit) decodeUnit).run .established timeoutMidMessage =
            some state ∧ disconnections (clientSide Unit) state = 2 :=
      ⟨_, rfl, rfl⟩
    have once := atMostOnce state (System.reachable_of_run ran)
    omega
  · intro atMostOnce
    obtain ⟨state, ran, twice⟩ : ∃ state,
        (system (serverSide Unit) decodeUnit).run .established timeoutMidMessage =
            some state ∧ disconnections (serverSide Unit) state = 2 :=
      ⟨_, rfl, rfl⟩
    have once := atMostOnce state (System.reachable_of_run ran)
    omega

end Warqueen.Receiving
