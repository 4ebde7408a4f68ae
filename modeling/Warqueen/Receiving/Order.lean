import Warqueen.Receiving.Loss

/-!
# The order of messages and the loss

The accept loop and the reading tasks push into one queue independently, so the
place of the disconnection among the messages depends on how the tasks are
scheduled.  Messages come first in exactly the runs whose tasks report the loss
last: a single report before some readable stream was read can be completed to
a run that queues a message after a disconnection.
-/

namespace Warqueen.Receiving

open Concurrency Quinn

variable {R Event : Type} {side : ReceivingSide R Event}
variable {decode : List UInt8 → Option R}
variable {state state' : State Event} {index : Nat} {action : Action}

/-- No message was queued after a disconnection. -/
def MessagesFirst (side : ReceivingSide R Event)
    (history : List (Source × Event)) : Prop :=
  history.Pairwise fun earlier later =>
    side.isDisconnected earlier.2 = true → ∀ message, later.2 ≠ side.message message

/-- The whole stream is there, fits the limit and decodes: its reading task,
once it runs, queues a message. -/
def Readable (decode : List UInt8 → Option R) (stream : RecvStream) : Prop :=
  stream.Complete oneGigabyteInBytes ∧ ∃ message, decode stream.received = some message

/-- Every readable stream has been read. -/
def State.AllRead (decode : List UInt8 → Option R) (state : State Event) : Prop :=
  ∀ (index : Nat) (stream : IncomingStream), state.streams[index]? = some stream →
    Readable decode stream.toRecvStream → ∃ result, stream.reader = .ended result

/-- The step of a receiving task that finds the connection lost for a cause
that its side reports. -/
def ReportsCause (state : State Event) : Action → Prop
  | .acceptUni =>
      state.nextStream = none ∧
        ∃ cause, state.closed = some cause ∧ reported cause = true
  | .read index =>
      (∃ stream, state.streams[index]? = some stream ∧
        stream.Cut oneGigabyteInBytes) ∧
        ∃ cause, state.closed = some cause ∧ reported cause = true
  | _ => False

/-- The condition that the loss is reported only when every readable stream has
been read, as long as the application holds the queue. -/
def reportingLast (decode : List UInt8 → Option R) (state : State Event)
    (action : Action) : Prop :=
  ReportsCause state action → state.events.receiverHeld = true → state.AllRead decode

/-! ## Reporting last keeps the messages first -/

/-- Once a disconnection is queued the connection is lost, and under the
condition nothing is left to be read. -/
def LossIsLast (side : ReceivingSide R Event) (decode : List UInt8 → Option R)
    (state : State Event) : Prop :=
  ReportsLoss side state →
    (∃ cause, state.closed = some cause) ∧ state.AllRead decode

/-- A reading task that queues a message read a readable stream. -/
theorem readable_of_message {stream : RecvStream} {closed : Option ConnectionError}
    {result : Except ReadToEndError (List UInt8)}
    (answered : receiveMessageRaw stream closed = some result) {message : R}
    (emits : readingTaskEvent side decode result = .ok (some (side.message message))) :
    Readable decode stream := by
  obtain ⟨messageRaw, rfl, decodes⟩ := readingTaskEvent_eq_message.mp emits
  obtain ⟨complete, rfl⟩ := RecvStream.readToEnd_eq_ok.mp answered
  exact ⟨complete, message, decodes⟩

/-- A reading task that queues a disconnection read a stream that the loss cut
short. -/
theorem reportsCause_of_disconnected {stream : IncomingStream}
    {result : Except ReadToEndError (List UInt8)}
    (found : state.streams[index]? = some stream)
    (answered : receiveMessageRaw stream.toRecvStream state.closed = some result)
    {event : Event} (emits : readingTaskEvent side decode result = .ok (some event))
    (disconnected : side.isDisconnected event = true) :
    ReportsCause state (.read index) := by
  obtain ⟨error, rfl, mapped⟩ := lost_of_disconnected emits disconnected
  obtain ⟨cut, closed⟩ := RecvStream.readToEnd_eq_connectionLost.mp answered
  exact ⟨⟨stream, found, cut⟩, error, closed, side.loss_reported.mp ⟨event, mapped⟩⟩

/-- Reading tasks that were spawned or ended leave nothing more to be read. -/
theorem allRead_updateStream {update : IncomingStream → IncomingStream}
    (allRead : state.AllRead decode)
    (same : ∀ stream, (update stream).toRecvStream = stream.toRecvStream)
    (ended : ∀ stream result, state.streams[index]? = some stream →
      stream.reader = .ended result → ∃ result, (update stream).reader = .ended result) :
    (state.updateStream index update).AllRead decode := by
  intro other stream found readable
  obtain ⟨old, foundOld, rfl⟩ := State.updateStream_streams_eq_some.mp found
  by_cases equal : index = other
  · subst equal
    simp only [if_true] at readable ⊢
    rw [same] at readable
    obtain ⟨result, wasEnded⟩ := allRead index old foundOld readable
    exact ended old result foundOld wasEnded
  · simp only [equal, if_false] at readable ⊢
    exact allRead other old foundOld readable

/-- After the loss every step keeps what has been read. -/
theorem allRead_step {cause : ConnectionError} (closed : state.closed = some cause)
    (stepped : step side decode state action = some state')
    (allRead : state.AllRead decode) : state'.AllRead decode := by
  cases action with
  | spawn =>
      simp only [step, Option.ite_none_right_eq_some, Option.some.injEq] at stepped
      obtain ⟨-, rfl⟩ := stepped
      exact allRead
  | openStream | lose => simp [step, closed] at stepped
  | acceptUni =>
      obtain ⟨-, ⟨index, next, rfl⟩ | ⟨error, task, -, -, -, rfl⟩⟩ := acceptUni_cases stepped
      · refine allRead_updateStream allRead (fun _ => rfl) ?_
        intro stream result found ended
        obtain ⟨fresh, foundFresh, notSpawned⟩ := State.nextStream_eq_some next
        obtain rfl : stream = fresh := Option.some.inj (found.symm.trans foundFresh)
        simp [notSpawned] at ended
      · exact allRead
  | read index =>
      obtain ⟨stream, result, -, -, -, rfl⟩ := read_cases stepped
      exact allRead_updateStream allRead (fun _ => rfl) fun _ _ _ _ => ⟨result, rfl⟩
  | deliver | finish | resetStream =>
      obtain ⟨up, -, rfl⟩ := State.onOpenStream_eq_some.mp stepped
      simp [closed] at up
  | poll | dropReceiver =>
      obtain rfl := Option.some.inj stepped
      exact allRead

/-- The step lemma of the invariant: a step that reports the loss finds every
readable stream read, and every other step leaves the history as it is or adds
a message to it. -/
theorem lossIsLast_step (last : LossIsLast side decode state)
    (allowed : reportingLast decode state action)
    (stepped : step side decode state action = some state') :
    LossIsLast side decode state' := by
  have kept (cause : ConnectionError) (closed : state.closed = some cause)
      (allRead : state.AllRead decode) :
      (∃ cause, state'.closed = some cause) ∧ state'.AllRead decode :=
    ⟨⟨cause, (step_of_closed closed stepped).1⟩, allRead_step closed stepped allRead⟩
  intro reported
  obtain ⟨entry, queued, disconnected⟩ := reported
  by_cases old : entry ∈ state.events.sent
  · obtain ⟨⟨cause, closed⟩, allRead⟩ := last ⟨entry, old, disconnected⟩
    exact kept cause closed allRead
  · have held : state.events.receiverHeld = true := by
      by_contra dropped
      have same := (step_of_dropped (Bool.eq_false_iff.mpr dropped) stepped).2
      exact old (same ▸ queued)
    rcases step_sent_cases stepped with same | ⟨source, event, sent, reason⟩
    · exact absurd (same ▸ queued) old
    · obtain rfl : entry = (source, event) := by
        rw [sent, List.mem_append] at queued
        simpa using queued.resolve_left old
      obtain ⟨rfl, next, cause, closed, mapped⟩ |
        ⟨index, stream, result, rfl, found, -, answered, emits⟩ := reason
      · exact kept cause closed
          (allowed ⟨next, cause, closed, side.loss_reported.mp ⟨event, mapped⟩⟩ held)
      · have reports := reportsCause_of_disconnected found answered emits disconnected
        have ⟨_, cause, closed, _⟩ := reports
        exact kept cause closed (allowed reports held)

/-- The step lemma of the order: a message is only queued while some readable
stream is not read yet, and then no disconnection was queued before. -/
theorem messagesFirst_step (first : MessagesFirst side state.events.sent)
    (last : LossIsLast side decode state)
    (stepped : step side decode state action = some state') :
    MessagesFirst side state'.events.sent := by
  rcases step_sent_cases stepped with same | ⟨source, event, sent, reason⟩
  · rw [same]
    exact first
  · rw [sent]
    refine List.pairwise_append.mpr ⟨first, by simp, ?_⟩
    intro earlier queued later isLast disconnected message isMessage
    obtain rfl : later = (source, event) := by simpa using isLast
    obtain rfl : event = side.message message := isMessage
    obtain ⟨-, -, cause, -, mapped⟩ |
      ⟨index, stream, result, -, found, reading, answered, emits⟩ := reason
    · have disconnected' := side.loss_disconnected mapped
      simp [side.message_not_disconnected] at disconnected'
    · obtain ⟨-, allRead⟩ := last ⟨earlier, queued, disconnected⟩
      obtain ⟨ended, isEnded⟩ :=
        allRead index stream found (readable_of_message answered emits)
      simp [reading] at isEnded

/-- In every run whose tasks report the loss last, messages come first. -/
theorem messagesFirst_of_reportingLast
    (reached : (system side decode).Reaches (reportingLast decode)
      (system side decode).init state) :
    MessagesFirst side state.events.sent := by
  refine (reached.invariant
    (fun state => MessagesFirst side state.events.sent ∧ LossIsLast side decode state)
    ⟨?_, ?_⟩ ?_).1
  · exact List.Pairwise.nil
  · intro reported
    obtain ⟨entry, queued, -⟩ := reported
    cases queued
  · intro before action after _ ⟨first, last⟩ allowed stepped
    exact ⟨messagesFirst_step first last stepped, lossIsLast_step last allowed stepped⟩

/-! ## Reporting earlier can put a message last -/

/-- A task that reports a cause its side maps to an event queues a
disconnection while the application holds the queue. -/
theorem reportsLoss_of_reportsCause (reports : ReportsCause state action)
    (stepped : step side decode state action = some state')
    (held : state'.events.receiverHeld = true) : ReportsLoss side state' := by
  have queued (source : Source) (event : Event)
      (sent : (state.queue source (some event)).events.sent = state'.events.sent)
      (heldBefore : state.events.receiverHeld = true)
      (disconnected : side.isDisconnected event = true) : ReportsLoss side state' := by
    refine ⟨(source, event), ?_, disconnected⟩
    simp [← sent, State.queue_sent, heldBefore]
  cases action with
  | acceptUni =>
      obtain ⟨next, cause, closed, isReported⟩ := reports
      obtain ⟨event, mapped⟩ := side.loss_reported.mpr isReported
      obtain ⟨-, ⟨index, some', -⟩ | ⟨error, task, -, closed', -, rfl⟩⟩ :=
        acceptUni_cases stepped
      · simp [next] at some'
      · obtain rfl : cause = error := by simpa [closed] using closed'
        refine queued .acceptLoop event ?_ ?_ (side.loss_disconnected mapped)
        · simp [mapped, emitted]
        · simpa using held
  | read index =>
      obtain ⟨⟨stream, found, cut⟩, cause, closed, isReported⟩ := reports
      obtain ⟨event, mapped⟩ := side.loss_reported.mpr isReported
      obtain ⟨other, result, foundOther, -, answered, rfl⟩ := read_cases stepped
      obtain rfl : stream = other := Option.some.inj (found.symm.trans foundOther)
      have lost : receiveMessageRaw stream.toRecvStream state.closed =
          some (.error (.read (.connectionLost cause))) :=
        RecvStream.readToEnd_eq_connectionLost.mpr ⟨cut, closed⟩
      obtain rfl : result = _ := Option.some.inj (answered.symm.trans lost)
      refine queued (.reader index) event ?_ ?_ (side.loss_disconnected mapped)
      · simp [readingTaskEvent, mapped, emitted, State.queue_sent]
      · simpa using held
  | _ => exact reports.elim

/-- A step that reports the loss leaves every complete stream to its task. -/
theorem reportsCause_streams (reports : ReportsCause state action)
    (stepped : step side decode state action = some state') {stream : IncomingStream}
    (found : state.streams[index]? = some stream)
    (complete : stream.Complete oneGigabyteInBytes) :
    state'.streams[index]? = some stream := by
  cases action with
  | acceptUni =>
      obtain ⟨-, ⟨index, some', -⟩ | ⟨error, task, -, -, -, rfl⟩⟩ := acceptUni_cases stepped
      · simp [reports.1] at some'
      · exact found
  | read other =>
      obtain ⟨⟨cutStream, foundCut, cut⟩, -⟩ := reports
      obtain ⟨_, result, -, -, -, rfl⟩ := read_cases stepped
      have distinct : other ≠ index := by
        intro same
        subst same
        obtain rfl : cutStream = stream := Option.some.inj (foundCut.symm.trans found)
        simp [RecvStream.Complete, cut.1] at complete
      simp [State.updateStream_streams, distinct, found]
  | _ => exact reports.elim

/-- A readable stream that is read after a disconnection was queued puts its
message after it. -/
theorem Accounted.reaches_message_last (accounted : Accounted side decode state)
    (held : state.events.receiverHeld = true) (lossReported : ReportsLoss side state)
    {stream : IncomingStream} (found : state.streams[index]? = some stream)
    (readable : Readable decode stream.toRecvStream)
    (notEnded : ∀ result, stream.reader ≠ .ended result) :
    ∃ after, (system side decode).Reaches byTasks state after ∧
      ¬ MessagesFirst side after.events.sent := by
  obtain ⟨before, reading, reached, -, events, foundReading, isReading, same⟩ :=
    accounted.reaches_reading found notEnded
  obtain ⟨complete, message, decodes⟩ := readable
  have answered : receiveMessageRaw reading.toRecvStream before.closed =
      some (.ok stream.received) := by
    rw [same]
    exact RecvStream.readToEnd_eq_ok.mpr ⟨complete, rfl⟩
  have readingStep : (system side decode).step before (.read index) = some _ :=
    read_of_answer foundReading isReading answered
  refine ⟨_, reached.tail (by trivial) readingStep, ?_⟩
  intro first
  obtain ⟨entry, queued, disconnected⟩ := lossReported
  have sent : ((before.updateStream index fun stream' =>
      stream'.endReading before.closed (.ok stream.received)).queue (.reader index)
        (emitted (readingTaskEvent side decode (.ok stream.received)))).events.sent =
      state.events.sent ++ [(.reader index, side.message message)] := by
    simp [State.queue_sent, events, held, readingTaskEvent, decodes, emitted]
  rw [sent] at first
  exact (List.pairwise_append.mp first).2.2 entry queued _ (List.mem_singleton.mpr rfl)
    disconnected message rfl

/-- The loss is reported by a step that does not let go of the queue. -/
theorem receiverHeld_of_reportsCause (reports : ReportsCause state action)
    (stepped : step side decode state action = some state') :
    state'.events.receiverHeld = state.events.receiverHeld := by
  refine step_receiverHeld ?_ stepped
  intro same
  subst same
  exact reports

/-- On either side messages come first in the runs whose tasks report the loss
last, and every earlier report can be completed to a run in which a message
follows it. -/
theorem reportingLast_decides :
    (system side decode).Decides (reportingLast decode)
      fun state => MessagesFirst side state.events.sent where
  enough _ reached := messagesFirst_of_reportingLast reached
  needed := by
    intro before action after reachable stepped early
    simp only [reportingLast, Classical.not_imp] at early
    obtain ⟨reports, held, notAllRead⟩ := early
    simp only [State.AllRead, not_forall, not_exists] at notAllRead
    obtain ⟨index, stream, found, readable, notEnded⟩ := notAllRead
    have heldAfter : after.events.receiverHeld = true :=
      (receiverHeld_of_reportsCause reports stepped).trans held
    have accounted := accounted_of_reachable (reachable.step stepped)
    obtain ⟨state, reached, messageLast⟩ := accounted.reaches_message_last heldAfter
      (reportsLoss_of_reportsCause reports stepped heldAfter)
      (reportsCause_streams reports stepped found readable.1) readable notEnded
    exact ⟨state, reached.always, messageLast⟩

/-- On both sides, whether messages come before the disconnection is decided by
what is still to be read when a task reports the loss. -/
theorem messages_before_loss {R : Type} (decode : List UInt8 → Option R) :
    (system (clientSide R) decode).Decides (reportingLast decode)
        (fun state => MessagesFirst (clientSide R) state.events.sent) ∧
      (system (serverSide R) decode).Decides (reportingLast decode)
        (fun state => MessagesFirst (serverSide R) state.events.sent) :=
  ⟨reportingLast_decides, reportingLast_decides⟩

/-- The peer sends one whole message and closes, and the accept loop, which has
spawned the reading task, is scheduled again before it. -/
def messageThenClose : List Action :=
  [.spawn, .openStream, .deliver 0 [0xc0], .finish 0, .acceptUni,
    .lose (.applicationClosed []), .acceptUni, .read 0]

/-- A peer that sends its last message and then closes can have the message
queued after the disconnection, on both sides. -/
theorem last_message_after_close :
    ¬ (∀ state, (system (clientSide Unit) decodeUnit).Reachable state →
        MessagesFirst (clientSide Unit) state.events.sent) ∧
      ¬ (∀ state, (system (serverSide Unit) decodeUnit).Reachable state →
        MessagesFirst (serverSide Unit) state.events.sent) := by
  constructor
  · intro first
    obtain ⟨state, ran, sent⟩ : ∃ state,
        (system (clientSide Unit) decodeUnit).run .established messageThenClose =
            some state ∧
          state.events.sent =
            [(.acceptLoop, .disconnected .none), (.reader 0, .message ())] :=
      ⟨_, rfl, rfl⟩
    have ordered := first state (System.reachable_of_run ran)
    rw [sent] at ordered
    exact List.rel_of_pairwise_cons ordered (List.mem_singleton.mpr rfl) rfl () rfl
  · intro first
    obtain ⟨state, ran, sent⟩ : ∃ state,
        (system (serverSide Unit) decodeUnit).run .established messageThenClose =
            some state ∧
          state.events.sent =
            [(.acceptLoop, .disconnected .none), (.reader 0, .message ())] :=
      ⟨_, rfl, rfl⟩
    have ordered := first state (System.reachable_of_run ran)
    rw [sent] at ordered
    exact List.rel_of_pairwise_cons ordered (List.mem_singleton.mpr rfl) rfl () rfl

end Warqueen.Receiving
