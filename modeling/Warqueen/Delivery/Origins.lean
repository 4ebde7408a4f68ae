import Warqueen.Concurrency.Bag
import Warqueen.Delivery.Linked
import Warqueen.Receiving.Messages

/-!
# Where the messages of the peer come from

Each stream was opened by one sending task and carries its message only.  So the
messages that the peer queues, in whatever order, are among those that were sent,
each at most as often as it was sent.
-/

namespace Warqueen.Delivery

open Concurrency Quinn Receiving Sending

variable {S R Event : Type} {side : ReceivingSide R Event} {wire : Wire S R}
variable {state state' : State S Event} {index : Nat}

/-- What the peer makes of a message that reaches it whole, if it can be encoded,
fits the limit and can be decoded. -/
def Wire.transfer (wire : Wire S R) (message : S) : Option R :=
  (wire.encode message).bind fun messageRaw =>
    if messageRaw.length ≤ oneGigabyteInBytes then wire.decode messageRaw else none

/-- The stream carries the message of the task that opened it, or a part of it until
it is finished. -/
def Origin (wire : Wire S R) (sendings : List (OutgoingMessage S)) (stream : Nat)
    (outgoing : OutgoingStream) : Prop :=
  ∃ (index : Nat) (sending : OutgoingMessage S) (messageRaw : List UInt8),
    sendings[index]? = some sending ∧ sending.stream = some stream ∧
    wire.encode sending.message = some messageRaw ∧ outgoing.written <+: messageRaw ∧
    (outgoing.finished = true → outgoing.written = messageRaw)

/-- Every stream has its origin. -/
def Originated (wire : Wire S R) (state : State S Event) : Prop :=
  ∀ (stream : Nat) (outgoing : OutgoingStream), state.outgoing[stream]? = some outgoing →
    Origin wire state.sendings stream outgoing

/-- A task that goes on keeps the stream that it has. -/
theorem OutgoingMessage.advance_stream {sending : OutgoingMessage S} {stream : Nat}
    (phase : SendingPhase) (isStream : sending.stream = some stream)
    (kept : ∀ other rest, phase = .writing other rest → other = stream) :
    (sending.advance phase).stream = some stream := by
  cases phase with
  | writing other rest =>
      obtain rfl := kept other rest rfl
      rfl
  | spawned | opening | stopping | ended | panicked => exact isStream

/-- The origin of a stream stays its origin when a task goes on. -/
theorem Origin.advance {sendings : List (OutgoingMessage S)} {stream : Nat}
    {outgoing : OutgoingStream} (origin : Origin wire sendings stream outgoing)
    {mine : OutgoingMessage S} (foundMine : sendings[index]? = some mine)
    (phase : SendingPhase)
    (kept : mine.stream = some stream →
      (mine.advance phase).stream = some stream) :
    Origin wire (sendings.set index (mine.advance phase)) stream outgoing := by
  obtain ⟨owner, sending, messageRaw, found, isStream, encoded, carried⟩ := origin
  have inBounds := (List.getElem?_eq_some_iff.mp foundMine).1
  by_cases same : index = owner
  · subst same
    obtain rfl := Option.some.inj (foundMine.symm.trans found)
    exact ⟨index, mine.advance phase, messageRaw, List.getElem?_set_self inBounds,
      kept isStream, encoded, carried⟩
  · exact ⟨owner, sending, messageRaw, (List.getElem?_set_ne same).trans found, isStream,
      encoded, carried⟩

/-- Every step of a sending task keeps the origins, and gives a new stream its own. -/
theorem Originated.resume (originated : Originated wire state) (linked : Linked wire state)
    {answer : Answer} (stepped : resume wire state index answer = some state') :
    Originated wire state' := by
  obtain ⟨mine, phase, outgoing, foundMine, step', rfl⟩ := resume_cases stepped
  have linkedMine := linked.sending index mine foundMine
  have inBounds := (List.getElem?_eq_some_iff.mp foundMine).1
  have advanced : (state.sendings.set index (mine.advance phase))[index]? =
      some (mine.advance phase) := List.getElem?_set_self inBounds
  intro stream written foundWritten
  change outgoing[stream]? = some written at foundWritten
  change Origin wire (state.sendings.set index (mine.advance phase)) stream written
  cases step' with
  | encodes | panics | acknowledged | stoppedByPeer | fails =>
      exact (originated stream written foundWritten).advance foundMine _ id
  | opens opening =>
      simp only [OutgoingMessage.Linked, opening] at linkedMine
      rw [List.getElem?_append] at foundWritten
      split at foundWritten
      next old =>
        apply (originated stream written foundWritten).advance foundMine
        intro isMine
        rw [linkedMine.1] at isMine
        cases isMine
      next isNew =>
        obtain ⟨first, rfl⟩ := List.getElem?_eq_some_iff.mp foundWritten
        have last : state.outgoing.length = stream := by
          rw [List.length_singleton] at first
          omega
        subst last
        refine ⟨index, _, _, advanced, rfl, linkedMine.2, ?_, ?_⟩
        · simp
        · simp
  | writes writing =>
      simp only [OutgoingMessage.Linked, writing] at linkedMine
      obtain ⟨isStream, ⟨before, found, encoded⟩, unfinished, foundUnfinished, notFinished⟩ :=
        linkedMine
      obtain rfl := Option.some.inj (found.symm.trans foundUnfinished)
      rw [List.getElem?_modify] at foundWritten
      split at foundWritten
      next same =>
        subst same
        obtain rfl : _ = written := by simpa [found] using foundWritten
        refine ⟨index, _, _, advanced, rfl, encoded, ?_, ?_⟩
        · exact (List.prefix_append_right_inj _).mpr (List.take_prefix _ _)
        · intro finished
          simp [notFinished] at finished
      next different =>
        apply (originated stream written (by simpa using foundWritten)).advance foundMine
        intro isMine
        exact absurd (Option.some.inj (isStream.symm.trans isMine)) different
  | finishes writing =>
      simp only [OutgoingMessage.Linked, writing] at linkedMine
      obtain ⟨isStream, ⟨before, found, encoded⟩, -⟩ := linkedMine
      rw [List.getElem?_modify] at foundWritten
      split at foundWritten
      next same =>
        subst same
        obtain rfl : _ = written := by simpa [found] using foundWritten
        rw [List.append_nil] at encoded
        exact ⟨index, _, _, advanced, isStream, encoded, List.prefix_rfl, fun _ => rfl⟩
      next different =>
        exact (originated stream written (by simpa using foundWritten)).advance foundMine _ id

theorem originated_of_reachable (reachable : (system side wire).Reachable state) :
    Originated wire state := by
  refine reachable.invariant (Originated wire) (by simp [Originated, system, State.established])
    ?_
  intro before action after reachableBefore originated stepped
  cases action with
  | send message =>
      obtain rfl := Option.some.inj stepped
      intro stream outgoing found
      obtain ⟨owner, sending, messageRaw, foundOwner, carried⟩ :=
        originated stream outgoing found
      have inBounds := (List.getElem?_eq_some_iff.mp foundOwner).1
      exact ⟨owner, sending, messageRaw,
        (List.getElem?_append_left inBounds).trans foundOwner, carried⟩
  | resume index answer => exact originated.resume (linked_of_reachable reachableBefore) stepped
  | lose cause =>
      simp only [system, step, Option.ite_none_right_eq_some, Option.some.injEq] at stepped
      obtain ⟨-, rfl⟩ := stepped
      exact originated
  | peer action =>
      obtain ⟨peer, rfl, -, -⟩ := peer_cases stepped
      exact originated

/-- A stream that the peer has read to its end carries a whole message. -/
theorem Originated.transfers (originated : Originated wire state) (linked : Linked wire state)
    {stream : Nat} {incoming : IncomingStream} {received : R}
    (found : state.peer.streams[stream]? = some incoming)
    (good : goodMessage wire.decode incoming.toRecvStream = some received) :
    ∃ (index : Nat) (sending : OutgoingMessage S) (outgoing : OutgoingStream),
      state.sendings[index]? = some sending ∧ sending.stream = some stream ∧
      state.outgoing[stream]? = some outgoing ∧ outgoing.finished = true ∧
      wire.transfer sending.message = some received := by
  simp only [goodMessage, Option.ite_none_right_eq_some] at good
  obtain ⟨⟨finished, fits⟩, decodes⟩ := good
  obtain ⟨outgoing, foundOutgoing, -, whole⟩ := linked.received stream incoming found
  obtain ⟨ended, same⟩ := whole finished
  obtain ⟨index, sending, messageRaw, foundSending, isStream, encoded, -, complete⟩ :=
    originated stream outgoing foundOutgoing
  rw [same, complete ended] at fits decodes
  exact ⟨index, sending, outgoing, foundSending, isStream, foundOutgoing, ended,
    by simp [Wire.transfer, encoded, fits, decodes]⟩

/-- The messages in the order in which the peer queued them. -/
def State.queuedMessages (reads : Payload side) (state : State S Event) : List R :=
  (state.peer.events.sent.map Prod.snd).filterMap reads.payload

/-- The peer queues messages of finished streams only, and each of them at most once. -/
theorem queuedMessages_subperm_of {α : Type} {elements : List α} {image : α → Option R}
    (reads : Payload side) (reachable : (system side wire).Reachable state)
    (finished : ∀ (index : Nat) (sending : OutgoingMessage S) (stream : Nat)
      (outgoing : OutgoingStream) (received : R), state.sendings[index]? = some sending →
      sending.stream = some stream → state.outgoing[stream]? = some outgoing →
      outgoing.finished = true → wire.transfer sending.message = some received →
      ∃ element, elements[index]? = some element ∧ image element = some received) :
    (state.queuedMessages reads).Subperm (elements.filterMap image) := by
  have linked := linked_of_reachable reachable
  have accounted := accounted_of_reachable (peer_reachable reachable)
  have originated := originated_of_reachable reachable
  rw [State.queuedMessages, List.filterMap_map]
  apply subperm_of_origins fun place origin =>
    ∃ (stream : Nat) (event : Event) (sending : OutgoingMessage S),
      state.peer.events.sent[place]? = some (.reader stream, event) ∧
        state.sendings[origin]? = some sending ∧ sending.stream = some stream
  · intro place entry received found isMessage
    obtain ⟨source, event⟩ := entry
    rcases accounted.queued_cases (List.mem_of_getElem? found) with
      ⟨stream, incoming, message, rfl, foundStream, good, rfl⟩ | disconnected
    · obtain rfl : message = received := by simpa [reads.message] using isMessage
      obtain ⟨origin, sending, outgoing, foundSending, isStream, foundOutgoing, ended,
        transferred⟩ := originated.transfers linked foundStream good
      obtain ⟨element, foundElement, isImage⟩ := finished origin sending stream outgoing message
        foundSending isStream foundOutgoing ended transferred
      exact ⟨origin, element, foundElement, isImage, stream, _, sending, found,
        foundSending, isStream⟩
    · simp [reads.disconnected disconnected] at isMessage
  · intro first second origin ofFirst ofSecond
    obtain ⟨stream, event, sending, foundFirst, foundSending, isStream⟩ := ofFirst
    obtain ⟨stream', event', sending', foundSecond, foundSending', isStream'⟩ := ofSecond
    obtain rfl := Option.some.inj (foundSending.symm.trans foundSending')
    obtain rfl := Option.some.inj (isStream.symm.trans isStream')
    have nodup := accounted.nodup_sources
    have sourceFirst : (state.peer.events.sent.map Prod.fst)[first]? =
        some (.reader stream) := by simp [foundFirst]
    have sourceSecond : (state.peer.events.sent.map Prod.fst)[second]? =
        some (.reader stream) := by simp [foundSecond]
    have inBounds := (List.getElem?_eq_some_iff.mp sourceFirst).1
    exact (List.getElem?_inj inBounds nodup).mp (sourceFirst.trans sourceSecond.symm)

/-- The peer queues no message that was not sent, and none more often than it was
sent. -/
theorem queuedMessages_subperm (reads : Payload side)
    (reachable : (system side wire).Reachable state) :
    (state.queuedMessages reads).Subperm
      (state.sendings.filterMap fun sending => wire.transfer sending.message) :=
  queuedMessages_subperm_of reads reachable
    fun _ sending _ _ _ found _ _ _ transferred => ⟨sending, found, transferred⟩

end Warqueen.Delivery
