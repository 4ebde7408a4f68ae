import Warqueen.Delivery.Linked

/-!
# How sending tasks end

While the connection is up a sending task ends in only three ways: it panics on a
message that cannot be encoded, it fails because the peer found the message too long
and stopped the stream, or it ends with `SendingResult::Sent`.  A task that waits for
the peer's acknowledgement has finished its stream.
-/

namespace Warqueen.Delivery

open Concurrency Quinn Receiving Sending

variable {S R Event : Type} {side : ReceivingSide R Event} {wire : Wire S R}
variable {state state' : State S Event} {index : Nat}

/-! ## The streams of the peer -/

/-- No stream of the peer is reset, and a reading task that gave up while the
connection was up has asked to stop its stream. -/
structure Unbroken (peer : Receiving.State Event) : Prop where
  notReset : ∀ (index : Nat) (incoming : IncomingStream) (code : VarInt),
    peer.streams[index]? = some incoming → incoming.ending ≠ .reset code
  stopped : peer.closed = none → ∀ (index : Nat) (incoming : IncomingStream)
    (error : ReadToEndError), peer.streams[index]? = some incoming →
    incoming.reader = .ended (.error error) → incoming.stopped = true

theorem established_unbroken :
    Unbroken (Receiving.State.established : Receiving.State Event) where
  notReset := by simp [Receiving.State.established]
  stopped := by simp [Receiving.State.established]

/-- While the connection is up, a read of a stream that was not reset fails only
because there is too much. -/
theorem tooLong_of_receiveMessageRaw {incoming : RecvStream} {error : ReadToEndError}
    (notReset : ∀ code, incoming.ending ≠ .reset code)
    (answered : receiveMessageRaw incoming none = some (.error error)) :
    error = .tooLong := by
  simp only [receiveMessageRaw, RecvStream.readToEnd] at answered
  split at answered
  next code wasReset => exact absurd wasReset (notReset code)
  next =>
    split at answered
    · simpa using answered.symm
    · simp at answered
  next =>
    split at answered
    · simpa using answered.symm
    · simp at answered

/-- An update of one stream that keeps what there is to know of it. -/
theorem Unbroken.updateStream {peer : Receiving.State Event} (unbroken : Unbroken peer)
    {update : IncomingStream → IncomingStream}
    (notReset : ∀ incoming, peer.streams[index]? = some incoming → ∀ code,
      (update incoming).ending ≠ .reset code)
    (stopped : peer.closed = none → ∀ incoming error, peer.streams[index]? = some incoming →
      (update incoming).reader = .ended (.error error) →
      (update incoming).stopped = true) :
    Unbroken (peer.updateStream index update) := by
  constructor
  · intro other incoming code found
    obtain ⟨before, foundBefore, rfl⟩ := State.updateStream_streams_eq_some.mp found
    split
    next same =>
      subst same
      exact notReset before foundBefore code
    next => exact unbroken.notReset other before code foundBefore
  · intro up other incoming error found
    obtain ⟨before, foundBefore, rfl⟩ := State.updateStream_streams_eq_some.mp found
    split
    next same =>
      subst same
      exact stopped up before error foundBefore
    next => exact unbroken.stopped up other before error foundBefore

/-- Only the streams and the cause of the end matter. -/
theorem Unbroken.congr {peer peer' : Receiving.State Event} (unbroken : Unbroken peer)
    (streams : peer'.streams = peer.streams)
    (up : peer'.closed = none → peer.closed = none) : Unbroken peer' := by
  constructor
  · rw [streams]
    exact unbroken.notReset
  · intro isUp
    rw [streams]
    exact unbroken.stopped (up isUp)

/-- Every step of the peer, and of a network that resets no stream, keeps this. -/
theorem Unbroken.step {peer peer' : Receiving.State Event} (unbroken : Unbroken peer)
    {action : Receiving.Action} (transported : state.transports action = true)
    (stepped : Receiving.step side wire.decode peer action = some peer') :
    Unbroken peer' := by
  cases action with
  | spawn =>
      simp only [Receiving.step, Option.ite_none_right_eq_some, Option.some.injEq] at stepped
      obtain ⟨-, rfl⟩ := stepped
      exact unbroken.congr rfl id
  | lose =>
      simp only [Receiving.step, Option.ite_none_right_eq_some, Option.some.injEq] at stepped
      obtain ⟨-, rfl⟩ := stepped
      exact unbroken.congr rfl (by simp)
  | poll | dropReceiver =>
      obtain rfl := Option.some.inj stepped
      exact unbroken.congr rfl id
  | openStream =>
      simp only [Receiving.step, Option.ite_none_right_eq_some, Option.some.injEq] at stepped
      obtain ⟨-, rfl⟩ := stepped
      have cases' (other : Nat) (incoming : IncomingStream)
          (found : (peer.streams ++ [.opened])[other]? = some incoming) :
          peer.streams[other]? = some incoming ∨ incoming = .opened := by
        rw [List.getElem?_append] at found
        split at found
        · exact .inl found
        · obtain ⟨inBounds, rfl⟩ := List.getElem?_eq_some_iff.mp found
          exact .inr (by simp)
      constructor
      · intro other incoming code found
        obtain old | rfl := cases' other incoming found
        · exact unbroken.notReset other incoming code old
        · simp [IncomingStream.opened]
      · intro up other incoming error found
        obtain old | rfl := cases' other incoming found
        · exact unbroken.stopped up other incoming error old
        · simp [IncomingStream.opened]
  | acceptUni =>
      obtain ⟨-, ⟨next, -, rfl⟩ | ⟨error, task, -, -, -, rfl⟩⟩ := acceptUni_cases stepped
      · apply unbroken.updateStream
        · intro incoming found code
          exact unbroken.notReset next incoming code found
        · intro _ incoming error _ ended
          cases ended
      · exact unbroken.congr rfl id
  | read reader =>
      obtain ⟨incoming, result, found, -, answered, rfl⟩ := read_cases stepped
      refine Unbroken.congr (unbroken.updateStream ?_ ?_) rfl id
      · intro incoming found code
        exact unbroken.notReset reader incoming code found
      · intro up incoming' error foundIncoming ended
        obtain rfl := Option.some.inj (found.symm.trans foundIncoming)
        obtain rfl : result = .error error := by
          simpa [IncomingStream.endReading] using ended
        rw [up] at answered
        obtain rfl := tooLong_of_receiveMessageRaw
          (unbroken.notReset reader incoming · found) answered
        simp [IncomingStream.endReading, up]
  | deliver reader =>
      obtain ⟨-, -, rfl⟩ := State.onOpenStream_eq_some.mp stepped
      apply unbroken.updateStream
      · intro incoming found code
        exact unbroken.notReset reader incoming code found
      · intro up incoming error found
        exact unbroken.stopped up reader incoming error found
  | finish reader =>
      obtain ⟨-, -, rfl⟩ := State.onOpenStream_eq_some.mp stepped
      apply unbroken.updateStream
      · intro incoming found code
        simp
      · intro up incoming error found
        exact unbroken.stopped up reader incoming error found
  | resetStream => simp [State.transports] at transported

theorem unbroken_of_reachable (reachable : (system side wire).Reachable state) :
    Unbroken state.peer := by
  refine reachable.invariant (fun state => Unbroken state.peer) established_unbroken ?_
  intro before action after _ unbroken stepped
  cases action with
  | send message =>
      obtain rfl := Option.some.inj stepped
      exact unbroken
  | resume index answer =>
      obtain ⟨sending, phase, outgoing, -, -, rfl⟩ := resume_cases stepped
      exact unbroken
  | lose cause =>
      simp only [system, Delivery.step, Option.ite_none_right_eq_some,
        Option.some.injEq] at stepped
      obtain ⟨-, rfl⟩ := stepped
      exact unbroken
  | peer action =>
      obtain ⟨peer, rfl, transported, stepped⟩ := peer_cases stepped
      exact unbroken.step transported stepped

/-! ## The sending tasks -/

/-- The sending side has finished the stream. -/
def Finished (outgoing : List OutgoingStream) (stream : Nat) : Prop :=
  ∃ written, outgoing[stream]? = some written ∧ written.finished = true

/-- What the end of a sending task, or its last await, says about its message. -/
def OutgoingMessage.Truthful (wire : Wire S R) (closed : Option ConnectionError)
    (outgoing : List OutgoingStream) (sending : OutgoingMessage S) : Prop :=
  match sending.phase with
  | .stopping stream => Finished outgoing stream
  | .ended .sent => True
  | .ended _ => closed = none → ∃ messageRaw,
      wire.encode sending.message = some messageRaw ∧
        oneGigabyteInBytes < messageRaw.length
  | .panicked => wire.encode sending.message = none
  | .spawned | .opening _ | .writing _ _ => True

/-- A failure that names a connection error is not answered while the connection is
up. -/
theorem not_lost_of_up {answer : Answer} {closed : Option ConnectionError}
    (allowed : answer.allowed closed = true) (up : closed = none) :
    (∀ error, answer ≠ .opened (.error error)) ∧
      (∀ error, answer = .wrote (.error error) → ∃ code, error = .stopped code) ∧
      ∀ error, answer ≠ .stopped (.error error) := by
  subst up
  refine ⟨?_, ?_, ?_⟩
  · intro error same
    subst same
    simp [Answer.allowed] at allowed
  · intro error same
    subst same
    cases error with
    | stopped code => exact ⟨code, rfl⟩
    | connectionLost | closedStream | zeroRttRejected => simp [Answer.allowed] at allowed
  · intro error same
    subst same
    cases error <;> simp [Answer.allowed] at allowed

/-- Where an answer leaves the task, it tells the truth. -/
theorem truthful_of_resume {sending : OutgoingMessage S} {phase : SendingPhase}
    {answer : Answer} (linked : sending.Linked wire state.outgoing state.peer.streams)
    (received : ∀ (stream : Nat) (incoming : IncomingStream),
      state.peer.streams[stream]? = some incoming →
      ∃ written, state.outgoing[stream]? = some written ∧
        Received written incoming.toRecvStream)
    (tooLong : ∀ (stream : Nat) (incoming : IncomingStream),
      state.peer.streams[stream]? = some incoming → incoming.stopped = true →
      oneGigabyteInBytes < incoming.received.length)
    (allowed : answer.allowed state.closed = true)
    (answered : state.answers wire sending.phase answer = true)
    (resumed : sending.phase.resume wire.encode sending.message answer = some phase) :
    (sending.advance phase).Truthful wire state.closed
      (state.transmit sending.phase answer) := by
  have fails (result : SendingResult)
      (why : state.closed = none → ∃ messageRaw,
        wire.encode sending.message = some messageRaw ∧
          oneGigabyteInBytes < messageRaw.length) :
      (sending.advance (.ended result)).Truthful wire state.closed
        (state.transmit sending.phase answer) := by
    cases result with
    | sent => trivial
    | weClosed | peerClosedOrDied | error => exact why
  simp only [SendingPhase.resume] at resumed
  split at resumed
  next spawned =>
    split at resumed
    next messageRaw encoded =>
      obtain rfl := Option.some.inj resumed
      trivial
    next notEncoded =>
      obtain rfl := Option.some.inj resumed
      exact notEncoded
  next =>
    obtain rfl := Option.some.inj resumed
    trivial
  next =>
    obtain rfl := Option.some.inj resumed
    apply fails
    intro up
    exact absurd rfl ((not_lost_of_up allowed up).1 _)
  next =>
    simp only [Option.ite_none_right_eq_some, Option.some.injEq] at resumed
    obtain ⟨-, rfl⟩ := resumed
    trivial
  next stream rest error writing =>
    obtain rfl := Option.some.inj resumed
    apply fails
    intro up
    obtain ⟨code, rfl⟩ := (not_lost_of_up allowed up).2.1 _ rfl
    simp only [OutgoingMessage.Linked, writing] at linked
    simp only [State.answers, writing] at answered
    obtain ⟨-, ⟨written, found, encoded⟩, -⟩ := linked
    obtain ⟨incoming, foundIncoming, stopped⟩ := (Option.any_eq_true _ _).mp answered
    obtain ⟨written', found', isPrefix, -⟩ := received stream incoming foundIncoming
    obtain rfl := Option.some.inj (found.symm.trans found')
    refine ⟨_, encoded, ?_⟩
    calc oneGigabyteInBytes < incoming.received.length :=
          tooLong stream incoming foundIncoming stopped
      _ ≤ written.written.length := isPrefix.length_le
      _ ≤ (written.written ++ rest).length := by simp
  next stream rest writing =>
    simp only [Option.ite_none_right_eq_some, Option.some.injEq] at resumed
    obtain ⟨-, rfl⟩ := resumed
    simp only [OutgoingMessage.Linked, writing] at linked
    obtain ⟨-, ⟨written, found, -⟩, -⟩ := linked
    simp only [State.transmit, writing]
    exact ⟨_, getElem?_modify_of_found found _, rfl⟩
  next =>
    obtain rfl := Option.some.inj resumed
    trivial
  next =>
    obtain rfl := Option.some.inj resumed
    apply fails
    intro up
    exact absurd rfl ((not_lost_of_up allowed up).2.2 _)
  next => cases resumed

/-- A finished stream stays finished. -/
theorem SendingStep.finished_stays {sending : OutgoingMessage S} {phase : SendingPhase}
    {outgoing : List OutgoingStream}
    (step' : SendingStep wire state sending phase outgoing) {stream : Nat}
    (finished : Finished state.outgoing stream) : Finished outgoing stream := by
  obtain ⟨before, found, isFinished⟩ := finished
  cases step' with
  | encodes | panics | acknowledged | stoppedByPeer | fails => exact ⟨before, found, isFinished⟩
  | opens =>
      have inBounds := (List.getElem?_eq_some_iff.mp found).1
      exact ⟨before, (List.getElem?_append_left inBounds).trans found, isFinished⟩
  | writes | finishes =>
      simp only [Finished, List.getElem?_modify, found]
      refine ⟨_, rfl, ?_⟩
      split <;> simp [isFinished]

/-- What a task has told stays true when streams are finished and the connection is
lost. -/
theorem OutgoingMessage.Truthful.congr {closed closed' : Option ConnectionError}
    {outgoing outgoing' : List OutgoingStream} {sending : OutgoingMessage S}
    (truthful : sending.Truthful wire closed outgoing)
    (up : closed' = none → closed = none)
    (stays : ∀ stream, Finished outgoing stream → Finished outgoing' stream) :
    sending.Truthful wire closed' outgoing' := by
  simp only [OutgoingMessage.Truthful] at truthful ⊢
  split at truthful
  · exact stays _ truthful
  · trivial
  · intro isUp
    exact truthful (up isUp)
  · exact truthful
  · trivial
  · trivial
  · trivial

/-- All sending tasks tell the truth. -/
def AllTruthful (wire : Wire S R) (state : State S Event) : Prop :=
  ∀ (index : Nat) (sending : OutgoingMessage S), state.sendings[index]? = some sending →
    sending.Truthful wire state.closed state.outgoing

theorem AllTruthful.resume (all : AllTruthful wire state) (linked : Linked wire state)
    (accounted : Accounted side wire.decode state.peer) {answer : Answer}
    (stepped : resume wire state index answer = some state') : AllTruthful wire state' := by
  obtain ⟨mine, phase, foundMine, allowed, answered, resumed, rfl⟩ := resume_eq_some stepped
  have linkedMine := linked.sending index mine foundMine
  have inBounds := (List.getElem?_eq_some_iff.mp foundMine).1
  intro other sending found
  by_cases same : index = other
  · subst same
    obtain rfl : mine.advance phase = sending := by simpa [inBounds] using found
    exact truthful_of_resume linkedMine linked.received
      (fun stream incoming foundIncoming =>
        (accounted.sound stream incoming foundIncoming).stopped) allowed answered resumed
  · have old : state.sendings[other]? = some sending := by simpa [same] using found
    exact (all other sending old).congr id
      fun stream => (sendingStep_of_resume answered resumed).finished_stays

theorem allTruthful_of_reachable (reachable : (system side wire).Reachable state) :
    AllTruthful wire state := by
  refine reachable.invariant (AllTruthful wire)
    (by simp [AllTruthful, system, State.established]) ?_
  intro before action after reachableBefore all stepped
  cases action with
  | send message =>
      obtain rfl := Option.some.inj stepped
      intro other sending found
      rw [List.getElem?_append] at found
      split at found
      · exact all other sending found
      · obtain ⟨inBounds, rfl⟩ := List.getElem?_eq_some_iff.mp found
        simp [OutgoingMessage.start, OutgoingMessage.Truthful]
  | resume index answer =>
      exact all.resume (linked_of_reachable reachableBefore)
        (accounted_of_reachable (peer_reachable reachableBefore)) stepped
  | lose cause =>
      simp only [system, Delivery.step, Option.ite_none_right_eq_some,
        Option.some.injEq] at stepped
      obtain ⟨-, rfl⟩ := stepped
      intro other sending found
      exact (all other sending found).congr (by simp) fun _ => id
  | peer action =>
      obtain ⟨peer, rfl, -, -⟩ := peer_cases stepped
      exact all

end Warqueen.Delivery
