import Warqueen.Concurrency.Traces
import Warqueen.Delivery.Sent
import Warqueen.Delivery.Origins
import Warqueen.Receiving.Loss

/-!
# A direction is an unordered channel

What the two applications can see of a direction, the messages that the one gives and
the messages that the other polls, is what an unordered channel shows: no message is
polled that was not given, or more often than it was given, and nothing else can be
relied upon.  Not even an application that gives a message only after all the earlier
ones that the peer can read were answered with `SendingResult::Sent` has any say in the
order.
-/

namespace Warqueen.Delivery

open Concurrency Quinn Receiving Sending

variable {S R Event : Type} {side : ReceivingSide R Event} {wire : Wire S R}
variable {state state' : State S Event}

/-- What is seen of a step: a message is given, or it is polled. -/
def observation (reads : Payload side) (state : State S Event) :
    Action S → Option (Exchange S R)
  | .send message => some (.give message)
  | .peer .poll =>
      ((state.peer.events.tryRecv.1.map Prod.snd).bind reads.payload).map .take
  | _ => none

/-- The messages given so far that the peer can read have been answered with
`SendingResult::Sent`.  The others are not waited for: they may never be. -/
def AllSent (wire : Wire S R) (state : State S Event) : Prop :=
  ∀ sending ∈ state.sendings, (wire.transfer sending.message).isSome = true →
    getState sending.result = .result .sent

/-- The condition that messages are only given and polled in such states. -/
def patiently (wire : Wire S R) (state : State S Event) : Action S → Prop
  | .send _ | .peer .poll => AllSent wire state
  | _ => True

/-- The messages that were polled. -/
def State.polledMessages (reads : Payload side) (state : State S Event) : List R :=
  (state.peer.events.taken.map Prod.snd).filterMap reads.payload

/-- What the peer should make of the messages that were given. -/
def State.transfers (wire : Wire S R) (state : State S Event) : List R :=
  state.sendings.filterMap fun sending => wire.transfer sending.message

/-- The messages given, those polled and those in transit add up. -/
structure InTransit (reads : Payload side) (wire : Wire S R) (state : State S Event)
    (inTransit : Multiset R) : Prop where
  reachable : (system side wire).Reachable state
  bounded : state.peer.events.Bounded
  sum : (state.polledMessages reads : Multiset R) + inTransit = state.transfers wire

/-- Polled messages were queued, and so they were given. -/
theorem polledMessages_subperm (reads : Payload side)
    (reachable : (system side wire).Reachable state) :
    (state.polledMessages reads).Subperm (state.transfers wire) := by
  have queued : (state.polledMessages reads).Sublist (state.queuedMessages reads) :=
    ((List.take_sublist _ _).map _).filterMap _
  exact queued.subperm.trans (queuedMessages_subperm reads reachable)

/-- A step that nothing is seen of gives nothing and polls nothing. -/
theorem step_unseen {action : Action S} (notSend : ∀ message, action ≠ .send message)
    (notPoll : action ≠ .peer .poll) (bounded : state.peer.events.Bounded)
    (stepped : step side wire state action = some state') :
    state'.transfers wire = state.transfers wire ∧
      state'.peer.events.taken = state.peer.events.taken ∧
      state'.peer.events.Bounded := by
  cases action with
  | send message => exact absurd rfl (notSend message)
  | resume index answer =>
      obtain ⟨sending, phase, outgoing, found, -, rfl⟩ := resume_cases stepped
      refine ⟨?_, rfl, bounded⟩
      have messages := congrArg (List.filterMap wire.transfer)
        (map_set_of_same found (sending.advance_message phase))
      rw [List.filterMap_map, List.filterMap_map] at messages
      exact messages
  | lose cause =>
      simp only [step, Option.ite_none_right_eq_some, Option.some.injEq] at stepped
      obtain ⟨-, rfl⟩ := stepped
      exact ⟨rfl, rfl, bounded⟩
  | peer action =>
      obtain ⟨peer, rfl, -, stepped⟩ := peer_cases stepped
      have notPoll' : action ≠ .poll := fun same => notPoll (congrArg Action.peer same)
      exact ⟨rfl, step_taken notPoll' bounded stepped, step_bounded bounded stepped⟩

/-- What is not seen leaves in transit what is in transit. -/
theorem InTransit.unseen {reads : Payload side} {inTransit : Multiset R} {action : Action S}
    (before : InTransit reads wire state inTransit)
    (notSend : ∀ message, action ≠ .send message) (notPoll : action ≠ .peer .poll)
    (stepped : (system side wire).step state action = some state') :
    InTransit reads wire state' inTransit := by
  obtain ⟨transfers, taken, bounded⟩ := step_unseen notSend notPoll before.bounded stepped
  refine ⟨before.reachable.step stepped, bounded, ?_⟩
  rw [transfers, State.polledMessages, taken]
  exact before.sum

/-- A message that is given is in transit, as far as it can be transferred. -/
theorem InTransit.gives {reads : Payload side} {inTransit : Multiset R}
    (before : InTransit reads wire state inTransit) (message : S)
    (stepped : (system side wire).step state (.send message) = some state') :
    InTransit reads wire state' (inTransit + (wire.transfer message).toList) := by
  have reachable := before.reachable.step stepped
  obtain rfl := Option.some.inj stepped
  refine ⟨reachable, before.bounded, ?_⟩
  have transfers : State.transfers wire
      { state with sendings := state.sendings ++ [.start message] } =
        state.transfers wire ++ (wire.transfer message).toList := by
    rw [State.transfers, List.filterMap_append]
    cases transferred : wire.transfer message <;>
      simp [State.transfers, OutgoingMessage.start, transferred]
  rw [transfers, ← Multiset.coe_add, ← before.sum, Multiset.add_assoc]
  rfl

/-- A poll takes a message that is in transit, or none. -/
theorem InTransit.polls {reads : Payload side} {inTransit : Multiset R}
    (before : InTransit reads wire state inTransit)
    (stepped : (system side wire).step state (.peer .poll) = some state') :
    ∃ inTransit', Shows (unordered wire.transfer) (fun _ exchange => some exchange)
      System.always inTransit (observation reads state (.peer .poll)).toList inTransit' ∧
        InTransit reads wire state' inTransit' := by
  have reachable := before.reachable.step stepped
  obtain rfl := Option.some.inj stepped
  have bounded := before.bounded.tryRecv
  have polled : State.polledMessages reads
      { state with
        peer := { state.peer with events := state.peer.events.tryRecv.2 } } =
        state.polledMessages reads ++
          ((state.peer.events.tryRecv.1.map Prod.snd).bind reads.payload).toList := by
    rw [State.polledMessages, Mpsc.tryRecv_taken, List.map_append, List.filterMap_append]
    cases state.peer.events.tryRecv.1 with
    | none => rfl
    | some entry =>
        cases payload : reads.payload entry.2 <;>
          simp [State.polledMessages, payload]
  have within := polledMessages_subperm reads reachable
  rw [polled] at within
  simp only [observation]
  cases message : (state.peer.events.tryRecv.1.map Prod.snd).bind reads.payload with
  | none =>
      rw [message] at polled
      refine ⟨inTransit, .refl _, reachable, bounded, ?_⟩
      rw [polled, Option.toList_none, List.append_nil]
      exact before.sum
  | some message' =>
      rw [message] at polled within
      have atMost : ((state.polledMessages reads ++ [message'] : List R) : Multiset R) ≤
          state.transfers wire := within
      rw [← before.sum, ← Multiset.coe_add] at atMost
      have among : message' ∈ inTransit := Multiset.mem_of_le
        (Multiset.le_of_add_le_add_left atMost) (Multiset.mem_singleton_self message')
      classical
      have takes : (unordered wire.transfer).step inTransit (.take message') =
          some (inTransit.erase message') := by
        simp [unordered, among]
      refine ⟨inTransit.erase message', Shows.single trivial takes, reachable, bounded, ?_⟩
      rw [polled, ← Multiset.coe_add, Multiset.add_assoc]
      have rest : (([message'] : List R) : Multiset R) + inTransit.erase message' =
          inTransit := Multiset.cons_erase among
      rw [Option.toList_some, rest]
      exact before.sum

/-- The message that a reading task which was spawned has still to queue. -/
def unread (wire : Wire S R) (incoming : IncomingStream) : Option R :=
  if incoming.reader = .reading then goodMessage wire.decode incoming.toRecvStream else none

/-- Every message that was given is answered, and those in transit are received and
wait for their reading tasks; the queue is polled to its end. -/
structure Ready (wire : Wire S R) (state : State S Event) (inTransit : Multiset R) :
    Prop where
  up : state.closed = none
  peerUp : state.peer.closed = none
  running : state.peer.acceptTask = .running
  held : state.peer.events.receiverHeld = true
  polled : state.peer.events.received = state.peer.events.sent.length
  opened : state.peer.streams.length = state.outgoing.length
  spawned : ∀ incoming ∈ state.peer.streams, incoming.reader ≠ .notSpawned
  waiting : (state.peer.streams.filterMap (unread wire) : Multiset R) = inTransit
  allSent : AllSent wire state

/-- The condition of the steps between what is seen. -/
def betweenSeen (reads : Payload side) (wire : Wire S R) (state : State S Event)
    (action : Action S) : Prop :=
  patiently wire state action ∧ observation reads state action = none

theorem modify_concat {α : Type} (elements : List α) (last : α) (update : α → α) {index : Nat}
    (isLast : index = elements.length) :
    (elements ++ [last]).modify index update = elements ++ [update last] := by
  subst isLast
  simp [List.modify_eq_take_cons_drop]

/-- A message is being sent on a stream of its own, beside all that was there before. -/
def sendingOn (state : State S Event) (message : S) (phase : SendingPhase)
    (outgoing : OutgoingStream) (incoming : IncomingStream) : State S Event :=
  { state with
    sendings := state.sendings ++
      [{ message := message, phase := phase, stream := some state.outgoing.length,
         result := phase.settle .channel }]
    outgoing := state.outgoing ++ [outgoing]
    peer := { state.peer with streams := state.peer.streams ++ [incoming] } }

/-- A stream that is being read. -/
def readStream (received : List UInt8) (ending : StreamEnd) : IncomingStream :=
  { received := received, ending := ending, reader := .reading, stopped := false }

section Transmission

variable {inTransit : Multiset R} {message : S} {messageRaw : List UInt8}

/-- The task opens a stream, and the peer spawns the task that reads it. -/
theorem Ready.opens (ready : Ready wire state inTransit) (message : S)
    (encoded : wire.encode message = some messageRaw) :
    (system side wire).run { state with sendings := state.sendings ++ [.start message] }
        [.resume state.sendings.length .polled,
          .resume state.sendings.length (.opened (.ok state.outgoing.length)),
          .peer .openStream, .peer .acceptUni] =
      some (sendingOn state message (.writing state.outgoing.length messageRaw)
        { written := [], finished := false } (readStream [] .open)) := by
  have accepts : acceptUni side
      { state.peer with streams := state.peer.streams ++ [.opened] } =
        some { state.peer with streams := state.peer.streams ++ [readStream [] .open] } :=
    acceptUni_append ready.running state.peer.streams [] .opened ready.spawned rfl
  simp only [ready.peerUp] at accepts
  simp [System.run, system, step, resume, OutgoingMessage.start, Answer.allowed, ready.up,
    State.answers, SendingPhase.resume, encoded, OutgoingMessage.advance,
    SendingPhase.settle, State.transmit, State.transports, ready.opened, Receiving.step,
    ready.peerUp, accepts, sendingOn]

/-- One more byte is written, within the window, and received. -/
theorem Ready.carries (ready : Ready wire state inTransit) (message : S)
    (fits : messageRaw.length ≤ oneGigabyteInBytes) {bytes : Nat}
    (more : bytes < messageRaw.length) :
    (system side wire).run
        (sendingOn state message
          (.writing state.outgoing.length (messageRaw.drop bytes))
          { written := messageRaw.take bytes, finished := false }
          (readStream (messageRaw.take bytes) .open))
        [.resume state.sendings.length (.wrote (.ok 1)),
          .peer (.deliver state.outgoing.length ((messageRaw.drop bytes).take 1))] =
      some
        (sendingOn state message
          (.writing state.outgoing.length (messageRaw.drop (bytes + 1)))
          { written := messageRaw.take (bytes + 1), finished := false }
          (readStream (messageRaw.take (bytes + 1)) .open)) := by
  have length : min bytes messageRaw.length = bytes := by omega
  have credit : bytes < wire.window + min bytes oneGigabyteInBytes := by
    have positive := wire.window_pos
    omega
  have left : 1 ≤ messageRaw.length - bytes := by omega
  have grown : messageRaw.take bytes ++ (messageRaw.drop bytes).take 1 =
      messageRaw.take (bytes + 1) := List.take_add.symm
  have byte : (messageRaw.take (bytes + 1)).drop bytes = (messageRaw.drop bytes).take 1 := by
    rw [List.drop_take, Nat.add_sub_cancel_left]
  have isLast := ready.opened
  simp [System.run, system, step, resume, sendingOn, readStream, Answer.allowed, ready.up,
    State.answers, State.readByPeer, SendingPhase.resume, OutgoingMessage.advance,
    SendingPhase.settle, State.transmit, State.transports, Receiving.step,
    State.onOpenStream, State.updateStream, ready.peerUp, ← isLast, length, credit, left,
    grown, byte, modify_concat]

/-- The stream is finished, and the task is told that the peer has all of it. -/
theorem Ready.finishes (ready : Ready wire state inTransit) (message : S)
    (messageRaw : List UInt8) :
    (system side wire).run
        (sendingOn state message (.writing state.outgoing.length [])
          { written := messageRaw, finished := false } (readStream messageRaw .open))
        [.resume state.sendings.length .finished, .peer (.finish state.outgoing.length),
          .resume state.sendings.length (.stopped (.ok none))] =
      some
        (sendingOn state message (.ended .sent)
          { written := messageRaw, finished := true } (readStream messageRaw .finished)) := by
  have isLast := ready.opened
  simp [System.run, system, step, resume, sendingOn, readStream, Answer.allowed, ready.up,
    State.answers, SendingPhase.resume, SendingResult.fromResult, OutgoingMessage.advance,
    SendingPhase.settle, State.transmit, State.transports, Receiving.step,
    State.onOpenStream, State.updateStream, ready.peerUp, ← isLast, modify_concat]

/-- Nothing is seen of these steps, and each of them is patient. -/
theorem betweenSeen_of_mem (reads : Payload side) (wire : Wire S R) {actions : List (Action S)}
    (unseen : ∀ action ∈ actions, (∀ message, action ≠ .send message) ∧
      action ≠ .peer .poll) {start : State S Event}
    (ran : (system side wire).run start actions = some state) :
    (system side wire).Reaches (betweenSeen reads wire) start state := by
  refine (System.reaches_of_run (fun action =>
    (∀ message, action ≠ .send message) ∧ action ≠ .peer .poll) unseen ran).mono ?_
  intro before action allowed
  obtain ⟨notSend, notPoll⟩ := allowed
  cases action with
  | send message => exact absurd rfl (notSend message)
  | resume | lose => exact ⟨trivial, rfl⟩
  | peer action =>
      cases action with
      | poll => exact absurd rfl notPoll
      | _ => exact ⟨trivial, rfl⟩

/-- From the message that was given to its answer. -/
theorem Ready.answers (ready : Ready wire state inTransit) (reads : Payload side)
    (message : S) (encoded : wire.encode message = some messageRaw)
    (fits : messageRaw.length ≤ oneGigabyteInBytes) :
    (system side wire).Reaches (betweenSeen reads wire)
      { state with sendings := state.sendings ++ [.start message] }
      (sendingOn state message (.ended .sent)
        { written := messageRaw, finished := true } (readStream messageRaw .finished)) := by
  have carried : ∀ bytes, bytes ≤ messageRaw.length →
      (system side wire).Reaches (betweenSeen reads wire)
        { state with sendings := state.sendings ++ [.start message] }
        (sendingOn state message (.writing state.outgoing.length (messageRaw.drop bytes))
          { written := messageRaw.take bytes, finished := false }
          (readStream (messageRaw.take bytes) .open)) := by
    intro bytes
    induction bytes with
    | zero =>
        intro _
        exact betweenSeen_of_mem reads wire (by simp) (ready.opens message encoded)
    | succ bytes inductionHypothesis =>
        intro bounded
        exact (inductionHypothesis (Nat.le_of_succ_le bounded)).trans
          (betweenSeen_of_mem reads wire (by simp) (ready.carries message fits bounded))
  have whole := carried messageRaw.length (Nat.le_refl _)
  rw [List.drop_length, List.take_length] at whole
  exact whole.trans
    (betweenSeen_of_mem reads wire (by simp) (ready.finishes message messageRaw))

/-- A message that was answered waits at the peer. -/
theorem Ready.received (ready : Ready wire state inTransit) (message : S)
    (encoded : wire.encode message = some messageRaw)
    (fits : messageRaw.length ≤ oneGigabyteInBytes) :
    Ready wire
      (sendingOn state message (.ended .sent)
        { written := messageRaw, finished := true } (readStream messageRaw .finished))
      (inTransit + (wire.transfer message).toList) where
  up := ready.up
  peerUp := ready.peerUp
  running := ready.running
  held := ready.held
  polled := ready.polled
  opened := by simp [sendingOn, ready.opened]
  spawned := by
    intro incoming member
    rcases List.mem_append.mp member with old | isNew
    · exact ready.spawned incoming old
    · rw [List.mem_singleton.mp isNew]
      simp [readStream]
  waiting := by
    have isUnread : unread wire (readStream messageRaw .finished) = wire.transfer message := by
      simp [unread, readStream, goodMessage, RecvStream.Complete, Wire.transfer, encoded, fits]
    rw [← ready.waiting, Multiset.coe_add, sendingOn, List.filterMap_append,
      List.filterMap_cons, isUnread]
    cases wire.transfer message <;> rfl
  allSent := by
    intro sending member isSome
    rcases List.mem_append.mp member with old | isNew
    · exact ready.allSent sending old isSome
    · rw [List.mem_singleton.mp isNew, getState_settle]
      rfl

end Transmission

section Seen

variable {reads : Payload side} {inTransit : Multiset R}

/-- Whatever is given can be answered and wait at the peer before anything else is
seen. -/
theorem Ready.gives (ready : Ready wire state inTransit) (reads : Payload side)
    (message : S) :
    ∃ state', Shows (system side wire) (observation (S := S) reads) (patiently wire) state
        [.give message] state' ∧
      Ready wire state' (inTransit + (wire.transfer message).toList) := by
  have sends : (system side wire).step state (.send message) =
      some { state with sendings := state.sendings ++ [.start message] } := rfl
  have patient : patiently wire state (.send message) := ready.allSent
  have given : Shows (system side wire) (observation (S := S) reads) (patiently wire) state
      [.give message] { state with sendings := state.sendings ++ [.start message] } :=
    Shows.single patient sends
  cases transferred : wire.transfer message with
  | none =>
      refine ⟨_, given, ?_⟩
      have same : inTransit + ((none : Option R).toList : Multiset R) = inTransit :=
        Multiset.add_zero inTransit
      rw [same]
      refine { ready with allSent := ?_ }
      intro sending member isSome
      rcases List.mem_append.mp member with old | isNew
      · exact ready.allSent sending old isSome
      · rw [List.mem_singleton.mp isNew, OutgoingMessage.start, transferred] at isSome
        cases isSome
  | some received =>
      obtain ⟨messageRaw, encoded, decodes⟩ := Option.bind_eq_some_iff.mp transferred
      simp only [Option.ite_none_right_eq_some] at decodes
      refine ⟨_, given.trans (shows_of_reaches (ready.answers reads message encoded decodes.1)),
        ?_⟩
      rw [← transferred]
      exact ready.received message encoded decodes.1

/-- Whatever is in transit can be read and polled next. -/
theorem Ready.takes (ready : Ready wire state inTransit) (reads : Payload side)
    {message : R} (among : message ∈ inTransit) :
    ∃ state' inTransit', Shows (system side wire) (observation (S := S) reads)
        (patiently wire) state [.take message] state' ∧
      inTransit = message ::ₘ inTransit' ∧ Ready wire state' inTransit' := by
  rw [← ready.waiting, Multiset.mem_coe, List.mem_filterMap] at among
  obtain ⟨incoming, member, isUnread⟩ := among
  obtain ⟨index, found⟩ := List.mem_iff_getElem?.mp member
  have good := isUnread
  simp only [unread, Option.ite_none_right_eq_some, goodMessage] at good
  obtain ⟨reading, complete, decodes⟩ := good
  have answered : receiveMessageRaw incoming.toRecvStream state.peer.closed =
      some (.ok incoming.received) := RecvStream.readToEnd_eq_ok.mpr ⟨complete, rfl⟩
  let events : Mpsc (Source × Event) :=
    { state.peer.events with
      sent := state.peer.events.sent ++ [(.reader index, side.message message)] }
  let streams : List IncomingStream := state.peer.streams.modify index
    fun stream => stream.endReading state.peer.closed (.ok incoming.received)
  let waits : State S Event :=
    { state with peer := { state.peer with streams := streams, events := events } }
  let taken : State S Event :=
    { state with
      peer :=
        { state.peer with
          streams := streams
          events := { events with received := events.received + 1 } } }
  have received : events.tryRecv =
      (some (.reader index, side.message message),
        { events with received := events.received + 1 }) := by
    simp [Mpsc.tryRecv, events, ready.polled]
  have reads' : (system side wire).step state (.peer (.read index)) = some waits := by
    simp [system, step, State.transports, Receiving.step, read_of_answer found reading answered,
      readingTaskEvent, decodes, emitted, Receiving.State.queue, Mpsc.sendSome, Mpsc.send,
      ready.held, Receiving.State.updateStream, waits, streams, events]
  have polls : (system side wire).step waits (.peer .poll) = some taken := by
    simp [system, step, State.transports, Receiving.step, waits, taken, received]
  have seen : observation (S := S) reads waits (.peer .poll) = some (.take message) := by
    simp [observation, waits, received, reads.message]
  have patient : patiently wire waits (.peer .poll) := ready.allSent
  have shown : Shows (system side wire) (observation (S := S) reads) (patiently wire) state
      [.take message] taken := by
    have read : Shows (system side wire) (observation (S := S) reads) (patiently wire) state
        [] waits := Shows.single (by trivial) reads'
    have polled := read.tail patient polls
    rw [seen] at polled
    exact polled
  refine ⟨taken, (streams.filterMap (unread wire) : List R), shown, ?_, ?_⟩
  · rw [← ready.waiting, Multiset.cons_coe, Multiset.coe_eq_coe]
    exact perm_filterMap_modify found isUnread (by simp [unread, IncomingStream.endReading])
  · exact
      { up := ready.up
        peerUp := ready.peerUp
        running := ready.running
        held := ready.held
        polled := by simp [taken, events, ready.polled]
        opened := by simp [taken, streams, ready.opened]
        spawned := by
          intro stream member
          obtain ⟨other, foundOther⟩ := List.mem_iff_getElem?.mp member
          simp only [taken, streams, List.getElem?_modify] at foundOther
          obtain ⟨before, foundBefore, rfl⟩ := Option.map_eq_some_iff.mp foundOther
          split
          next => simp [IncomingStream.endReading]
          next => exact ready.spawned before (List.mem_of_getElem? foundBefore)
        waiting := rfl
        allSent := ready.allSent }

end Seen

end Warqueen.Delivery
