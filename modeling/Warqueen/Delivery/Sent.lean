import Mathlib.Data.Nat.SuccPred
import Warqueen.Delivery.Linked

/-!
# What `SendingResult::Sent` is worth

A sending task answers `SendingResult::Sent` when the peer's endpoint has all the
data, and also when the peer's reading task gave up and stopped the stream.  So
the answer means that the message is delivered for the messages that the peer
can read, and for no others that fit in what flow control lets through.
-/

namespace Warqueen.Delivery

open Concurrency Quinn Receiving Sending

variable {S R Event : Type} {side : ReceivingSide R Event} {wire : Wire S R}
variable {state state' : State S Event} {index : Nat} {mayDrop : Bool}

/-- The condition that the peer does not disconnect itself, and lets go of its
queue only if it may. -/
def peerStays (mayDrop : Bool) (_state : State S Event) (action : Action S) : Prop :=
  action ≠ .peer (.lose .locallyClosed) ∧ (action = .peer .dropReceiver → mayDrop = true)

/-- The peer has queued exactly one event for the message: the task that read the
stream of the message, which is of no other message, has queued it. -/
def Delivered (side : ReceivingSide R Event) (wire : Wire S R) (state : State S Event)
    (index : Nat) : Prop :=
  ∃ sending stream, state.sendings[index]? = some sending ∧
    sending.stream = some stream ∧
    (∀ other sending', state.sendings[other]? = some sending' →
      sending'.stream = some stream → other = index) ∧
    sentBy (.reader stream) state.peer.events.sent =
      [side.message (wire.toPeer sending.message)]

/-- The peer gave up reading the message: the task that read its stream ended
with an error. -/
def GaveUp (state : State S Event) (index : Nat) : Prop :=
  ∃ sending stream incoming error, state.sendings[index]? = some sending ∧
    sending.stream = some stream ∧ state.peer.streams[stream]? = some incoming ∧
    incoming.reader = .ended (.error error)

/-- Whenever the handle of a sent message answers `SendingResult::Sent`, the peer
never gives up reading the message, and the message is delivered in all later
states in which the peer's receiving tasks can do nothing more. -/
def SentMeansDelivered (side : ReceivingSide R Event) (wire : Wire S R) (mayDrop : Bool)
    (message : S) : Prop :=
  ∀ state, (system side wire).Reaches (peerStays mayDrop) (system side wire).init state →
    ∀ (index : Nat) (sending : OutgoingMessage S),
      state.sendings[index]? = some sending → sending.message = message →
      getState sending.result = .result .sent →
      ∀ later, (system side wire).Reaches (peerStays mayDrop) state later →
        ¬ GaveUp later index ∧
          ((Receiving.system side wire.decode).Stuck Receiving.Action.IsTask later.peer →
            Delivered side wire later index)

/-- The peer can read the message: it fits the limit of `receive_message_raw`,
decodes to what the peer should make of it, and the peer keeps its queue.
Messages that cannot be encoded, or that flow control never lets through, are
left out. -/
def Deliverable (wire : Wire S R) (mayDrop : Bool) (message : S) : Prop :=
  ∀ messageRaw, wire.encode message = some messageRaw →
    messageRaw.length ≤ wire.window + oneGigabyteInBytes →
    messageRaw.length ≤ oneGigabyteInBytes ∧
      wire.decode messageRaw = some (wire.toPeer message) ∧ mayDrop = false

/-! ## Messages that the peer can read -/

/-- A handle answers `SendingResult::Sent` only when the task ended with it. -/
theorem Linked.ended_of_sent (linked : Linked wire state) {sending : OutgoingMessage S}
    (found : state.sendings[index]? = some sending)
    (answers : getState sending.result = .result .sent) :
    sending.phase = .ended .sent := by
  rw [linked.result index sending found] at answers
  cases phase : sending.phase with
  | ended result =>
      rw [phase] at answers
      simp only [SendingPhase.settle, getState, Oneshot.tryRecv,
        Oneshot.send_value Oneshot.channel_receiverHeld, SendingState.result.injEq] at answers
      rw [answers]
  | spawned | opening | writing | stopping | panicked =>
      rw [phase] at answers
      cases answers

/-- A sending task that ended stays as it is. -/
theorem step_ended {sending : OutgoingMessage S} {action : Action S}
    (found : state.sendings[index]? = some sending) {result : SendingResult}
    (ended : sending.phase = .ended result)
    (stepped : step side wire state action = some state') :
    state'.sendings[index]? = some sending := by
  cases action with
  | send message =>
      obtain rfl := Option.some.inj stepped
      have inBounds := (List.getElem?_eq_some_iff.mp found).1
      exact (List.getElem?_append_left inBounds).trans found
  | resume other answer =>
      obtain ⟨resumed, phase, outgoing, foundResumed, step', rfl⟩ := resume_cases stepped
      have different : other ≠ index := by
        intro same
        subst same
        obtain rfl := Option.some.inj (found.symm.trans foundResumed)
        have inProgress := step'.inProgress
        rw [ended] at inProgress
        cases inProgress
      simp [different, found]
  | lose cause =>
      simp only [step, Option.ite_none_right_eq_some, Option.some.injEq] at stepped
      obtain ⟨-, rfl⟩ := stepped
      exact found
  | peer action =>
      obtain ⟨peer, rfl, -, -⟩ := peer_cases stepped
      exact found

theorem receiverHeld_of_peerStays
    (reached : (system side wire).Reaches (peerStays false) (system side wire).init state) :
    state.peer.events.receiverHeld = true := by
  refine reached.invariant (fun state => state.peer.events.receiverHeld = true) rfl ?_
  intro before action after _ held allowed stepped
  cases action with
  | send message =>
      obtain rfl := Option.some.inj stepped
      exact held
  | resume index answer =>
      obtain ⟨sending, phase, outgoing, -, -, rfl⟩ := resume_cases stepped
      exact held
  | lose cause =>
      simp only [system, step, Option.ite_none_right_eq_some, Option.some.injEq] at stepped
      obtain ⟨-, rfl⟩ := stepped
      exact held
  | peer action =>
      obtain ⟨peer, rfl, -, stepped⟩ := peer_cases stepped
      have keeps : action ≠ .dropReceiver := by
        intro same
        subst same
        simpa using allowed.2 rfl
      exact (step_receiverHeld keeps stepped).trans held

/-- The peer has received all of a message whose task ended with
`SendingResult::Sent`, if it can read it. -/
theorem Linked.complete (linked : Linked wire state) {sending : OutgoingMessage S}
    (found : state.sendings[index]? = some sending)
    (ended : sending.phase = .ended .sent)
    (deliverable : Deliverable wire mayDrop sending.message) :
    ∃ stream incoming, sending.stream = some stream ∧
      state.peer.streams[stream]? = some incoming ∧
      incoming.Complete oneGigabyteInBytes ∧
      wire.decode incoming.received = some (wire.toPeer sending.message) ∧
      mayDrop = false := by
  have carried := linked.sending index sending found
  simp only [OutgoingMessage.Linked, ended] at carried
  obtain ⟨stream, isStream, ⟨written, foundWritten, encoded⟩, received⟩ := carried
  rw [List.append_nil] at encoded
  obtain ⟨fits, decodes, keeps⟩ := deliverable written.written encoded
    (linked.windowed stream written foundWritten)
  obtain ⟨incoming, foundIncoming, finished⟩ : FullyReceived state.peer.streams stream := by
    refine received.resolve_right ?_
    intro stopped
    obtain ⟨tooLong, foundTooLong, longer⟩ := stopped
    obtain rfl := Option.some.inj (foundWritten.symm.trans foundTooLong)
    omega
  have whole : incoming.received = written.written := by
    obtain ⟨other, foundOther, -, complete⟩ := linked.received stream incoming foundIncoming
    obtain rfl := Option.some.inj (foundWritten.symm.trans foundOther)
    exact (complete finished).2
  rw [← whole] at fits decodes
  exact ⟨stream, incoming, isStream, foundIncoming, ⟨finished, fits⟩, decodes, keeps⟩

/-- The peer does not give up reading such a message. -/
theorem Linked.not_gaveUp (linked : Linked wire state)
    (accounted : Accounted side wire.decode state.peer)
    {sending : OutgoingMessage S} (found : state.sendings[index]? = some sending)
    (ended : sending.phase = .ended .sent)
    (deliverable : Deliverable wire mayDrop sending.message) : ¬ GaveUp state index := by
  intro gaveUp
  obtain ⟨sending', stream', incoming', error, found', isStream', foundIncoming',
    failed⟩ := gaveUp
  obtain ⟨stream, incoming, isStream, foundIncoming, complete, -⟩ :=
    linked.complete found ended deliverable
  obtain rfl := Option.some.inj (found.symm.trans found')
  obtain rfl := Option.some.inj (isStream.symm.trans isStream')
  obtain rfl := Option.some.inj (foundIncoming.symm.trans foundIncoming')
  have explained := (accounted.sound stream incoming foundIncoming).explained _ failed
  simp only [Explains] at explained
  split at explained
  next impossible => cases impossible
  next lost _ =>
    have cut := explained.1.1
    rw [complete.1] at cut
    cases cut
  next => exact explained.1 complete

/-- The message is delivered once the receiving tasks are done. -/
theorem Linked.delivered (linked : Linked wire state)
    (accounted : Accounted side wire.decode state.peer)
    (held : mayDrop = false → state.peer.events.receiverHeld = true)
    {sending : OutgoingMessage S} (found : state.sendings[index]? = some sending)
    (ended : sending.phase = .ended .sent)
    (deliverable : Deliverable wire mayDrop sending.message)
    (stuck : (Receiving.system side wire.decode).Stuck Receiving.Action.IsTask state.peer) :
    Delivered side wire state index := by
  obtain ⟨stream, incoming, isStream, foundIncoming, complete, decodes, keeps⟩ :=
    linked.complete found ended deliverable
  have read := accounted.ended_of_stuck stuck foundIncoming complete
  refine ⟨sending, stream, found, isStream, ?_, ?_⟩
  · intro other sending' foundOther isOther
    exact linked.distinct other index sending' sending stream foundOther found isOther isStream
  · rw [accounted.sentBy_eq (held keeps)]
    simp [owed, foundIncoming, streamEvents, read, readingTaskEvent, decodes, emitted]

theorem sentMeansDelivered_of_deliverable {message : S}
    (deliverable : Deliverable wire mayDrop message) :
    SentMeansDelivered side wire mayDrop message := by
  intro state reached index sending found same answers later reachedLater
  subst same
  have ended := (linked_of_reachable reached.always).ended_of_sent found answers
  have foundLater := reachedLater.invariant
    (fun later => later.sendings[index]? = some sending) found
    (fun before action after _ foundBefore _ stepped => step_ended foundBefore ended stepped)
  have reachedAll := reached.trans reachedLater
  have linked := linked_of_reachable reachedAll.always
  have accounted := accounted_of_reachable (peer_reachable reachedAll.always)
  constructor
  · exact linked.not_gaveUp accounted foundLater ended deliverable
  · refine linked.delivered accounted ?_ foundLater ended deliverable
    intro same
    subst same
    exact receiverHeld_of_peerStays reachedAll

/-! ## Messages that the peer cannot read -/

section Undeliverable

variable {message : S} {messageRaw : List UInt8}

/-- One message is being sent and some of its bytes are written, received and
read. -/
def inTransit (mayDrop : Bool) (message : S) (messageRaw : List UInt8) (bytes : Nat) :
    State S Event :=
  { closed := none
    sendings := [{ message := message, phase := .writing 0 (messageRaw.drop bytes),
                   stream := some 0, result := .channel }]
    outgoing := [{ written := messageRaw.take bytes, finished := false }]
    peer :=
      { closed := none
        streams := [{ received := messageRaw.take bytes, ending := .open,
                      reader := .reading, stopped := false }]
        acceptTask := .running
        events := if mayDrop then Mpsc.channel.dropReceiver else .channel } }

/-- The task has opened its stream and the peer's task waits for the bytes. -/
theorem reaches_inTransit_zero (mayDrop : Bool)
    (encoded : wire.encode message = some messageRaw) :
    (system side wire).Reaches (peerStays mayDrop) (system side wire).init
      (inTransit mayDrop message messageRaw 0) := by
  let events : Mpsc (Source × Event) :=
    if mayDrop then Mpsc.channel.dropReceiver else .channel
  let listening : State S Event :=
    { closed := none, sendings := [], outgoing := [],
      peer := { closed := none, streams := [], acceptTask := .notSpawned, events := events } }
  have dropping : (system side wire).Reaches (peerStays mayDrop) (system side wire).init
      listening := by
    cases mayDrop with
    | false => exact System.Reaches.refl
    | true =>
        have stepped : (system side wire).step (system side wire).init
            (.peer .dropReceiver) = some listening := rfl
        exact System.Reaches.single (by simp [peerStays]) stepped
  have sending : (system side wire).run listening
      [.send message, .resume 0 .polled, .resume 0 (.opened (.ok 0)), .peer .spawn,
        .peer .openStream, .peer .acceptUni] =
      some (inTransit mayDrop message messageRaw 0) := by
    simp [System.run, system, step, resume, listening, OutgoingMessage.start, Answer.allowed,
      State.answers, SendingPhase.resume, encoded, OutgoingMessage.advance,
      SendingPhase.settle, State.transmit, State.transports, Receiving.step, acceptUni,
      State.nextStream, IncomingStream.opened, State.updateStream, inTransit, events]
  refine dropping.trans ((System.reaches_of_run (fun action =>
    action ≠ .peer (.lose .locallyClosed) ∧ action ≠ .peer .dropReceiver) (by simp)
    sending).mono ?_)
  intro state action allowed
  exact ⟨allowed.1, fun drops => absurd drops allowed.2⟩

/-- One more byte is written within the window, and delivered. -/
theorem inTransit_succ (mayDrop : Bool) {bytes : Nat} (more : bytes < messageRaw.length)
    (credited : messageRaw.length ≤ wire.window + oneGigabyteInBytes) :
    (system side wire).run (inTransit mayDrop message messageRaw bytes)
        [.resume 0 (.wrote (.ok 1)), .peer (.deliver 0 ((messageRaw.drop bytes).take 1))] =
      some (inTransit mayDrop message messageRaw (bytes + 1)) := by
  have length : min bytes messageRaw.length = bytes := by omega
  have credit : bytes < wire.window + min bytes oneGigabyteInBytes := by
    have positive := wire.window_pos
    omega
  have left : 1 ≤ messageRaw.length - bytes := by omega
  have grown : messageRaw.take bytes ++ (messageRaw.drop bytes).take 1 =
      messageRaw.take (bytes + 1) := List.take_add.symm
  have byte : (messageRaw.take (bytes + 1)).drop bytes = (messageRaw.drop bytes).take 1 := by
    rw [List.drop_take, Nat.add_sub_cancel_left]
  let before : State S Event := inTransit mayDrop message messageRaw bytes
  let after : State S Event := inTransit mayDrop message messageRaw (bytes + 1)
  let written : State S Event := { after with peer := before.peer }
  have writes : (system side wire).step before (.resume 0 (.wrote (.ok 1))) =
      some written := by
    simp [system, step, resume, inTransit, Answer.allowed, State.answers, State.readByPeer,
      SendingPhase.resume, OutgoingMessage.advance, SendingPhase.settle, State.transmit,
      before, after, written, length, credit, left, grown]
  have delivers : (system side wire).step written
      (.peer (.deliver 0 ((messageRaw.drop bytes).take 1))) = some after := by
    simp [system, step, inTransit, State.transports, Receiving.step, State.onOpenStream,
      State.updateStream, before, after, written, length, byte, grown]
  simp [System.run, writes, delivers, before, after]

/-- All the bytes of the message are written and delivered. -/
theorem reaches_inTransit (mayDrop : Bool)
    (encoded : wire.encode message = some messageRaw)
    (credited : messageRaw.length ≤ wire.window + oneGigabyteInBytes) {bytes : Nat}
    (bounded : bytes ≤ messageRaw.length) :
    (system side wire).Reaches (peerStays mayDrop) (system side wire).init
      (inTransit mayDrop message messageRaw bytes) := by
  induction bytes with
  | zero => exact reaches_inTransit_zero mayDrop encoded
  | succ bytes inductionHypothesis =>
      refine (inductionHypothesis (Nat.le_of_succ_le bounded)).trans ?_
      refine (System.reaches_of_run (fun action =>
        action ≠ .peer (.lose .locallyClosed) ∧ action ≠ .peer .dropReceiver) (by simp)
        (inTransit_succ mayDrop bounded credited)).mono ?_
      intro state action allowed
      exact ⟨allowed.1, fun drops => absurd drops allowed.2⟩

/-- What the peer's reading task makes of the whole message. -/
def readWhole (messageRaw : List UInt8) : Except ReadToEndError (List UInt8) :=
  if oneGigabyteInBytes < messageRaw.length then .error .tooLong else .ok messageRaw

/-- The peer has received the whole message and is about to read it. -/
def peerBeforeReading (mayDrop : Bool) (messageRaw : List UInt8) : Receiving.State Event :=
  { closed := none
    streams := [{ received := messageRaw, ending := .finished, reader := .reading,
                  stopped := false }]
    acceptTask := .running
    events := if mayDrop then Mpsc.channel.dropReceiver else .channel }

/-- The message is answered with `SendingResult::Sent` once the peer has received
and read it. -/
def answered (side : ReceivingSide R Event) (wire : Wire S R) (mayDrop : Bool)
    (message : S) (messageRaw : List UInt8) : State S Event :=
  { closed := none
    sendings := [{ message := message, phase := .ended .sent, stream := some 0,
                   result := Oneshot.channel.send .sent }]
    outgoing := [{ written := messageRaw, finished := true }]
    peer := ((peerBeforeReading mayDrop messageRaw).updateStream 0 fun stream =>
      stream.endReading none (readWhole messageRaw)).queue (.reader 0)
        (emitted (readingTaskEvent side wire.decode (readWhole messageRaw))) }

theorem reaches_answered (mayDrop : Bool)
    (encoded : wire.encode message = some messageRaw)
    (credited : messageRaw.length ≤ wire.window + oneGigabyteInBytes) :
    (system side wire).Reaches (peerStays mayDrop) (system side wire).init
      (answered side wire mayDrop message messageRaw) := by
  have transit : (system side wire).Reaches (peerStays mayDrop) (system side wire).init
      (inTransit mayDrop message messageRaw messageRaw.length) :=
    reaches_inTransit mayDrop encoded credited (Nat.le_refl _)
  let received : State S Event :=
    { closed := none
      sendings := [{ message := message, phase := .stopping 0, stream := some 0,
                     result := .channel }]
      outgoing := [{ written := messageRaw, finished := true }]
      peer := peerBeforeReading mayDrop messageRaw }
  let read : State S Event :=
    { received with peer := (answered side wire mayDrop message messageRaw).peer }
  have finishing : (system side wire).run
      (inTransit mayDrop message messageRaw messageRaw.length)
      [.resume 0 .finished, .peer (.finish 0)] = some received := by
    simp [System.run, system, step, resume, inTransit, Answer.allowed, State.answers,
      SendingPhase.resume, OutgoingMessage.advance, SendingPhase.settle, State.transmit,
      State.transports, Receiving.step, State.onOpenStream, State.updateStream, received,
      peerBeforeReading]
  have answers : receiveMessageRaw { received := messageRaw, ending := .finished } none =
      some (readWhole messageRaw) := by
    simp only [receiveMessageRaw, RecvStream.readToEnd, readWhole]
    split <;> rfl
  have reading : (system side wire).step received (.peer (.read 0)) = some read := by
    have foundStream :
        (peerBeforeReading mayDrop messageRaw : Receiving.State Event).streams[0]? =
        some { received := messageRaw, ending := .finished, reader := .reading,
               stopped := false } := rfl
    have steps : Receiving.read side wire.decode (peerBeforeReading mayDrop messageRaw) 0 =
        some (answered side wire mayDrop message messageRaw).peer :=
      read_of_answer foundStream rfl answers
    simp [system, step, State.transports, Receiving.step, steps, read, received]
  have stopping : (system side wire).step read (.resume 0 (.stopped (.ok none))) =
      some (answered side wire mayDrop message messageRaw) := by
    simp [system, step, resume, read, received, Answer.allowed, State.answers, answered,
      SendingPhase.resume, SendingResult.fromResult, OutgoingMessage.advance,
      SendingPhase.settle, State.transmit, peerBeforeReading, State.updateStream,
      IncomingStream.endReading]
  have finished := System.reaches_of_run (fun action =>
    action ≠ .peer (.lose .locallyClosed) ∧ action ≠ .peer .dropReceiver) (by simp) finishing
  refine ((transit.trans (finished.mono ?_)).tail ?_ reading).tail ?_ stopping
  · intro state action allowed
    exact ⟨allowed.1, fun drops => absurd drops allowed.2⟩
  · simp [peerStays]
  · simp [peerStays]

/-- The receiving tasks have nothing more to do: the only stream is read. -/
theorem answered_stuck (mayDrop : Bool) :
    (Receiving.system side wire.decode).Stuck Receiving.Action.IsTask
      (answered side wire mayDrop message messageRaw).peer := by
  intro action own
  cases action with
  | spawn => simp [Receiving.system, Receiving.step, answered, peerBeforeReading]
  | acceptUni =>
      simp [Receiving.system, Receiving.step, acceptUni, answered, peerBeforeReading,
        State.nextStream, State.updateStream, IncomingStream.endReading]
  | read index =>
      cases index <;>
        simp [Receiving.system, Receiving.step, Receiving.read, answered, peerBeforeReading,
          State.updateStream, IncomingStream.endReading]
  | _ => exact own.elim

/-- A message answered with `SendingResult::Sent` in this way is delivered only
if the peer can read it. -/
theorem deliverable_of_answered
    (delivered : Delivered side wire (answered side wire mayDrop message messageRaw) 0) :
    messageRaw.length ≤ oneGigabyteInBytes ∧
      wire.decode messageRaw = some (wire.toPeer message) ∧ mayDrop = false := by
  obtain ⟨sending, stream, found, isStream, -, queued⟩ := delivered
  obtain rfl := Option.some.inj found
  obtain rfl := Option.some.inj isStream
  change sentBy (.reader 0) (State.queue _ _ _).events.sent = _ at queued
  rw [State.queue_sent, State.updateStream_events] at queued
  cases mayDrop with
  | true => simp [peerBeforeReading, Mpsc.dropReceiver, Mpsc.channel] at queued
  | false =>
      have emits : emitted (readingTaskEvent side wire.decode (readWhole messageRaw)) =
          some (side.message (wire.toPeer message)) := by
        cases event : emitted (readingTaskEvent side wire.decode (readWhole messageRaw)) <;>
          simp_all [peerBeforeReading, sentBy]
      obtain ⟨read, whole, decodes⟩ :=
        readingTaskEvent_eq_message.mp (emitted_eq_some.mp emits)
      simp only [readWhole] at whole
      split at whole
      next => cases whole
      next fits =>
        obtain rfl := Except.ok.inj whole
        exact ⟨Nat.not_lt.mp fits, decodes, rfl⟩

theorem sentMeansDelivered_iff {message : S} :
    SentMeansDelivered side wire mayDrop message ↔ Deliverable wire mayDrop message := by
  constructor
  · intro sentMeansDelivered messageRaw encoded credited
    have delivered := sentMeansDelivered _ (reaches_answered mayDrop encoded credited)
      0 _ rfl rfl rfl _ System.Reaches.refl
    exact deliverable_of_answered (delivered.2 (answered_stuck mayDrop))
  · exact sentMeansDelivered_of_deliverable

end Undeliverable

/-- On both sides and for every message, `SendingResult::Sent` means that the
message is delivered if and only if the peer can read it. -/
theorem sent_means_delivered_iff (S R : Type) (wire : Wire S R) (mayDrop : Bool)
    (message : S) :
    (SentMeansDelivered (clientSide R) wire mayDrop message ↔
        Deliverable wire mayDrop message) ∧
      (SentMeansDelivered (serverSide R) wire mayDrop message ↔
        Deliverable wire mayDrop message) :=
  ⟨sentMeansDelivered_iff, sentMeansDelivered_iff⟩

/-- The header of a long byte string in MessagePack: the marker of `bin 32` and
the length in four bytes. -/
def binHeader (length : Nat) : List UInt8 :=
  [0xc6, UInt8.ofNat (length / 16777216), UInt8.ofNat (length / 65536),
    UInt8.ofNat (length / 256), UInt8.ofNat length]

/-- MessagePack of byte strings in the form that long ones have. -/
def bytesWire : Wire (List UInt8) (List UInt8) where
  encode bytes :=
    if bytes.length < 4294967296 then some (binHeader bytes.length ++ bytes) else none
  decode
    | 0xc6 :: first :: second :: third :: fourth :: bytes =>
        let length := first.toNat * 16777216 + second.toNat * 65536 +
          third.toNat * 256 + fourth.toNat
        if length ≤ bytes.length then some (bytes.take length) else none
    | _ => none
  toPeer := id
  window := 1250000
  window_pos := by decide

/-- A byte string of a gigabyte is too long once it has its header. -/
theorem not_deliverable_of_gigabyte {bytes : List UInt8}
    (gigabyte : bytes.length = oneGigabyteInBytes) : ¬ Deliverable bytesWire false bytes := by
  intro deliverable
  have encoded : bytesWire.encode bytes = some (binHeader bytes.length ++ bytes) :=
    if_pos (by rw [gigabyte]; decide)
  have length : (binHeader bytes.length ++ bytes).length = oneGigabyteInBytes + 5 := by
    simp [binHeader, gigabyte]
  have window : 5 ≤ bytesWire.window := by decide
  have fits := (deliverable _ encoded (by omega)).1
  omega

/-- A byte string of a gigabyte is answered with `SendingResult::Sent` although
the peer gives up reading it, in either direction. -/
theorem gigabyte_sent_not_delivered :
    ¬ SentMeansDelivered (serverSide (List UInt8)) bytesWire false
        (List.replicate oneGigabyteInBytes 0) ∧
      ¬ SentMeansDelivered (clientSide (List UInt8)) bytesWire false
        (List.replicate oneGigabyteInBytes 0) := by
  have undeliverable := not_deliverable_of_gigabyte
    (List.length_replicate : (List.replicate oneGigabyteInBytes (0 : UInt8)).length = _)
  exact ⟨fun sent => undeliverable (sentMeansDelivered_iff.mp sent),
    fun sent => undeliverable (sentMeansDelivered_iff.mp sent)⟩

end Warqueen.Delivery
