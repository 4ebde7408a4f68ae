import Warqueen.Delivery.Outcomes

/-!
# Who can bring a message further

A message passes through many hands: the sending task and the network write and deliver
its stream, the accept loop has to take all earlier streams before it, and the reading
task frees the window that the sending task waits for.  While the connection is up there
is at each moment one of them who can bring the message further, until its task is over
and its stream is read.
-/

namespace Warqueen.Delivery

open Concurrency Quinn Receiving Sending

variable {S R Event : Type} {side : ReceivingSide R Event} {wire : Wire S R}
variable {state state' : State S Event} {action : Action S} {index stream : Nat}

/-! ## Who takes the steps -/

/-- Those on whom a message on its way depends: its task, the network, which tells the
peer of new streams and delivers each stream, the receiving tasks, and the application
that polls. -/
inductive Party where
  | sendingTask (index : Nat)
  | newStreams
  | network (stream : Nat)
  | acceptTask
  | readingTask (stream : Nat)
  | application
  deriving DecidableEq, Repr

/-- Who takes the step, as long as it does something. -/
def Action.party : Action S → Option Party
  | .resume index _ => some (.sendingTask index)
  | .peer .openStream => some .newStreams
  | .peer (.deliver _ []) => none
  | .peer (.deliver stream (_ :: _)) | .peer (.finish stream) => some (.network stream)
  | .peer .spawn | .peer .acceptUni => some .acceptTask
  | .peer (.read stream) => some (.readingTask stream)
  | .peer .poll => some .application
  | .send _ | .lose _ | .peer (.resetStream _ _) | .peer (.lose _)
  | .peer .dropReceiver => none

/-! ## Where a message is -/

/-- Where a message is: the phase of its task, and its stream on both sides. -/
structure Situation where
  phase : Option SendingPhase
  outgoing : Option OutgoingStream
  incoming : Option IncomingStream

/-- The situation of the message whose task has opened the stream. -/
def State.situation (state : State S Event) (index stream : Nat) : Situation where
  phase := (state.sendings[index]?).map (·.phase)
  outgoing := state.outgoing[stream]?
  incoming := state.peer.streams[stream]?

/-! ## Who can bring it further -/

/-- The network has something to do for the stream. -/
def Situation.awaitsNetwork (situation : Situation) (incoming : IncomingStream) : Bool :=
  incoming.ending = .open ∧
    ((situation.outgoing).any fun outgoing =>
      incoming.received.length < outgoing.written.length ∨ outgoing.finished = true)

/-- The task of the message is over. -/
def Situation.isOver (situation : Situation) : Bool :=
  match situation.phase with
  | some (.ended _) | some .panicked => true
  | _ => false

/-- Who can bring the message further: whoever makes its stream known to the peer, the
accept loop, the network, the reading task once the stream can be read to its end or is
too long, and otherwise its own task. -/
def Situation.helper (index stream : Nat) (situation : Situation) : Party :=
  match situation.incoming with
  | none => .newStreams
  | some incoming =>
      if incoming.reader = .notSpawned then .acceptTask
      else if situation.awaitsNetwork incoming then .network stream
      else if incoming.reader = .reading ∧
          (situation.isOver ∨ oneGigabyteInBytes < incoming.received.length) then
        .readingTask stream
      else .sendingTask index

/-- The helper and why it is the one. -/
inductive Helps (index stream : Nat) (situation : Situation) : Party → Prop where
  | tells (unknown : situation.incoming = none) : Helps index stream situation .newStreams
  | accepts {incoming : IncomingStream} (found : situation.incoming = some incoming)
      (notSpawned : incoming.reader = .notSpawned) :
      Helps index stream situation .acceptTask
  | delivers {incoming : IncomingStream} (found : situation.incoming = some incoming)
      (awaits : situation.awaitsNetwork incoming = true) :
      Helps index stream situation (.network stream)
  | reads {incoming : IncomingStream} (found : situation.incoming = some incoming)
      (quiet : situation.awaitsNetwork incoming = false)
      (reading : incoming.reader = .reading)
      (ready : situation.isOver = true ∨ oneGigabyteInBytes < incoming.received.length) :
      Helps index stream situation (.readingTask stream)
  | goesOn {incoming : IncomingStream} (found : situation.incoming = some incoming)
      (spawned : incoming.reader ≠ .notSpawned)
      (quiet : situation.awaitsNetwork incoming = false)
      (notReady : incoming.reader = .reading → situation.isOver = false ∧
        incoming.received.length ≤ oneGigabyteInBytes) :
      Helps index stream situation (.sendingTask index)

theorem helps_helper (index stream : Nat) (situation : Situation) :
    Helps index stream situation (situation.helper index stream) := by
  simp only [Situation.helper]
  split
  next unknown => exact .tells unknown
  next incoming found =>
    split
    next notSpawned => exact .accepts found notSpawned
    next spawned =>
      split
      next awaits => exact .delivers found awaits
      next quiet =>
        rw [Bool.not_eq_true] at quiet
        split
        next ready => exact .reads found quiet ready.1 ready.2
        next notReady =>
          refine .goesOn found spawned quiet ?_
          intro reading
          have neither := not_or.mp fun either => notReady ⟨reading, either⟩
          exact ⟨Bool.not_eq_true _ ▸ neither.1, Nat.not_lt.mp neither.2⟩

/-- A party that is not the one to help. -/
theorem ne_helper {party : Party} {situation : Situation}
    (not : ¬ Helps index stream situation party) :
    some party ≠ some (situation.helper index stream) := by
  intro same
  obtain rfl := Option.some.inj same
  exact not (helps_helper index stream situation)

/-- The network and the reading tasks help only with their own streams. -/
theorem ne_helper_of_other {party : Party} {situation : Situation} {other : Nat}
    (notMine : other ≠ stream)
    (isOther : party = .network other ∨ party = .readingTask other) :
    some party ≠ some (situation.helper index stream) := by
  apply ne_helper
  intro helps
  rcases isOther with rfl | rfl
  · cases helps
    exact notMine rfl
  · cases helps
    exact notMine rfl

/-! ## The helper is ready -/

/-- The task of the message is over, and its stream is read if the peer has it whole. -/
def Situation.Done (situation : Situation) : Prop :=
  situation.isOver = true ∧ ∀ incoming, situation.incoming = some incoming →
    incoming.ending = .finished → ∃ result, incoming.reader = .ended result

/-- None of the party's steps is enabled. -/
def Idle (side : ReceivingSide R Event) (wire : Wire S R) (party : Party)
    (state : State S Event) : Prop :=
  (system side wire).Stuck (fun action => action.party = some party) state

/-- The network is not idle as long as the peer does not know a stream. -/
theorem not_idle_of_unknown (peerUp : state.peer.closed = none)
    (opened : stream < state.outgoing.length)
    (unknown : state.peer.streams[stream]? = none) : ¬ Idle side wire .newStreams state := by
  intro idle
  have order := List.getElem?_eq_none_iff.mp unknown
  have fewer : state.peer.streams.length < state.outgoing.length := by omega
  have stuck := idle (.peer .openStream) rfl
  simp [system, step, State.transports, fewer, Receiving.step, peerUp] at stuck

/-- The accept loop is not idle as long as a stream waits for it. -/
theorem not_idle_of_notSpawned (peerUp : state.peer.closed = none)
    (accounted : Accounted side wire.decode state.peer) {incoming : IncomingStream}
    (found : state.peer.streams[stream]? = some incoming)
    (notSpawned : incoming.reader = .notSpawned) : ¬ Idle side wire .acceptTask state := by
  intro idle
  cases task : state.peer.acceptTask with
  | notSpawned =>
      have stuck := idle (.peer .spawn) rfl
      simp [system, step, State.transports, Receiving.step, task] at stuck
  | running =>
      cases next : state.peer.nextStream with
      | none => exact State.nextStream_eq_none.mp next stream incoming found notSpawned
      | some position =>
          have stuck := idle (.peer .acceptUni) rfl
          simp [system, step, State.transports, Receiving.step,
            acceptUni_of_next task next] at stuck
  | returned =>
      obtain ⟨-, error, -, closed, -⟩ := accounted.returned task
      simp [peerUp] at closed
  | panicked =>
      obtain ⟨-, error, -, closed, -⟩ := accounted.panicked task
      simp [peerUp] at closed

/-- The network is not idle as long as it has something to do for a stream. -/
theorem not_idle_of_awaits (peerUp : state.peer.closed = none)
    (linked : Linked wire state) {incoming : IncomingStream}
    (found : state.peer.streams[stream]? = some incoming)
    (awaits : (state.situation index stream).awaitsNetwork incoming = true) :
    ¬ Idle side wire (.network stream) state := by
  intro idle
  obtain ⟨outgoing, foundOutgoing, ⟨undelivered, split⟩, -⟩ :=
    linked.received stream incoming found
  simp only [Situation.awaitsNetwork, State.situation, foundOutgoing, Option.any_some,
    decide_eq_true_eq] at awaits
  obtain ⟨isOpen, awaits⟩ := awaits
  cases undelivered with
  | cons byte undelivered =>
      have stuck := idle (.peer (.deliver stream (byte :: undelivered))) rfl
      simp [system, step, State.transports, foundOutgoing, found, ← split, Receiving.step,
        State.onOpenStream, peerUp, isOpen] at stuck
  | nil =>
      rw [List.append_nil] at split
      have finished : outgoing.finished = true := by
        rcases awaits with unread | finished
        · simp [split] at unread
        · exact finished
      have stuck := idle (.peer (.finish stream)) rfl
      simp [system, step, State.transports, foundOutgoing, found, finished, split,
        Receiving.step, State.onOpenStream, peerUp, isOpen] at stuck

/-- The reading task is not idle when its stream is whole or too long. -/
theorem not_idle_of_reading {incoming : IncomingStream}
    (found : state.peer.streams[stream]? = some incoming)
    (reading : incoming.reader = .reading)
    (ready : incoming.ending = .finished ∨
      oneGigabyteInBytes < incoming.received.length) :
    ¬ Idle side wire (.readingTask stream) state := by
  intro idle
  obtain ⟨result, answered⟩ : ∃ result,
      receiveMessageRaw incoming.toRecvStream state.peer.closed = some result := by
    simp only [receiveMessageRaw, RecvStream.readToEnd]
    cases ending : incoming.ending with
    | reset code => exact ⟨_, rfl⟩
    | finished =>
        simp only []
        split <;> exact ⟨_, rfl⟩
    | «open» =>
        have tooLong : oneGigabyteInBytes < incoming.received.length := by
          rcases ready with finished | tooLong
          · simp [ending] at finished
          · exact tooLong
        simp [tooLong]
  have stuck := idle (.peer (.read stream)) rfl
  simp [system, step, State.transports, Receiving.step,
    read_of_answer found reading answered] at stuck

/-- A sending task is not idle while an answer to it can come. -/
theorem not_resumed_of_idle (up : state.closed = none) {sending : OutgoingMessage S}
    (found : state.sendings[index]? = some sending)
    (idle : Idle side wire (.sendingTask index) state) (answer : Answer)
    (allowed : answer.allowed none = true)
    (answered : state.answers wire sending.phase answer = true) :
    sending.phase.resume wire.encode sending.message answer = none := by
  have stuck := idle (.resume index answer) rfl
  simpa only [system, step, resume, found, up, allowed, answered, and_self, if_true,
    Option.map_eq_none_iff] using stuck

/-- A sending task that has no stream yet is not idle. -/
theorem not_idle_of_unopened (up : state.closed = none) {sending : OutgoingMessage S}
    (found : state.sendings[index]? = some sending)
    (unopened : sending.phase = .spawned ∨ ∃ messageRaw, sending.phase = .opening messageRaw) :
    ¬ Idle side wire (.sendingTask index) state := by
  intro idle
  rcases unopened with spawned | ⟨messageRaw, opening⟩
  · have stuck := not_resumed_of_idle up found idle .polled rfl (by simp [State.answers])
    rw [spawned] at stuck
    simp only [SendingPhase.resume] at stuck
    split at stuck <;> cases stuck
  · have stuck := not_resumed_of_idle up found idle (.opened (.ok state.outgoing.length)) rfl
      (by simp [State.answers])
    rw [opening] at stuck
    cases stuck

/-- A sending task whose bytes have all been read, or whose stream has been stopped, is
not idle. -/
theorem not_idle_of_writing (up : state.closed = none) {sending : OutgoingMessage S}
    (found : state.sendings[index]? = some sending) {rest : List UInt8}
    (writing : sending.phase = .writing stream rest) {outgoing : OutgoingStream}
    {incoming : IncomingStream} (foundOutgoing : state.outgoing[stream]? = some outgoing)
    (foundIncoming : state.peer.streams[stream]? = some incoming)
    (spawned : incoming.reader ≠ .notSpawned)
    (delivered : incoming.received = outgoing.written)
    (notTooLong : incoming.stopped = true ∨
      incoming.received.length ≤ oneGigabyteInBytes) :
    ¬ Idle side wire (.sendingTask index) state := by
  intro idle
  cases rest with
  | nil =>
      have stuck := not_resumed_of_idle up found idle .finished rfl (by simp [State.answers])
      rw [writing] at stuck
      cases stuck
  | cons byte rest =>
      rcases notTooLong with stopped | fits
      · have stuck := not_resumed_of_idle up found idle (.wrote (.error (.stopped 0))) rfl
          (by simp [State.answers, writing, foundIncoming, stopped])
        rw [writing] at stuck
        cases stuck
      · have positive := wire.window_pos
        have credit : outgoing.written.length + 1 ≤
            wire.window + state.readByPeer stream := by
          simp only [State.readByPeer, foundIncoming, spawned, if_false]
          rw [Nat.min_eq_left fits, delivered]
          omega
        have stuck := not_resumed_of_idle up found idle (.wrote (.ok 1)) rfl
          (by simpa [State.answers, writing, foundOutgoing] using credit)
        rw [writing] at stuck
        simp [SendingPhase.resume] at stuck

/-- A sending task whose stream the peer has whole is not idle. -/
theorem not_idle_of_stopping (up : state.closed = none) {sending : OutgoingMessage S}
    (found : state.sendings[index]? = some sending)
    (stopping : sending.phase = .stopping stream) {incoming : IncomingStream}
    (foundIncoming : state.peer.streams[stream]? = some incoming)
    (finished : incoming.ending = .finished) :
    ¬ Idle side wire (.sendingTask index) state := by
  intro idle
  have stuck := not_resumed_of_idle up found idle (.stopped (.ok none)) rfl
    (by simp [State.answers, stopping, foundIncoming, finished])
  rw [stopping] at stuck
  cases stuck

/-- A reading task that gave up on a stream that is not whole has stopped it. -/
theorem stopped_of_ended (peerUp : state.peer.closed = none)
    (accounted : Accounted side wire.decode state.peer) (unbroken : Unbroken state.peer)
    {incoming : IncomingStream} (found : state.peer.streams[stream]? = some incoming)
    (isOpen : incoming.ending = .open) {result : Except ReadToEndError (List UInt8)}
    (ended : incoming.reader = .ended result) : incoming.stopped = true := by
  cases result with
  | error error => exact unbroken.stopped peerUp stream incoming error found ended
  | ok bytes =>
      have explained := (accounted.sound stream incoming found).explained _ ended
      have finished := explained.1.1
      rw [isOpen] at finished
      cases finished

/-- While the connection is up, the task of a message whose stream neither the peer nor
the network has to do with for now goes on, unless the message is done. -/
theorem not_idle_of_goesOn (reachable : (system side wire).Reachable state)
    (up : state.closed = none) (peerUp : state.peer.closed = none)
    {sending : OutgoingMessage S} (found : state.sendings[index]? = some sending)
    (isStream : sending.stream = some stream) {incoming : IncomingStream}
    (foundIncoming : state.peer.streams[stream]? = some incoming)
    (spawned : incoming.reader ≠ .notSpawned)
    (quiet : (state.situation index stream).awaitsNetwork incoming = false)
    (notReady : incoming.reader = .reading →
      (state.situation index stream).isOver = false ∧
        incoming.received.length ≤ oneGigabyteInBytes)
    (notDone : ¬ (state.situation index stream).Done) :
    ¬ Idle side wire (.sendingTask index) state := by
  have linked := linked_of_reachable reachable
  have accounted := accounted_of_reachable (peer_reachable reachable)
  have unbroken := unbroken_of_reachable reachable
  have linkedMine := linked.sending index sending found
  have truthful := allTruthful_of_reachable reachable index sending found
  obtain ⟨outgoing, foundOutgoing, isPrefix, whole⟩ :=
    linked.received stream incoming foundIncoming
  simp only [Situation.awaitsNetwork, State.situation, foundOutgoing, Option.any_some,
    decide_eq_false_iff_not, not_and, not_or, Bool.not_eq_true] at quiet
  have notOver (isOver : (state.situation index stream).isOver = true) : False := by
    apply notDone
    refine ⟨isOver, ?_⟩
    intro incoming' found' finished
    obtain rfl := Option.some.inj (foundIncoming.symm.trans found')
    cases reader : incoming.reader with
    | notSpawned => exact absurd reader spawned
    | reading => simp [(notReady reader).1] at isOver
    | ended result => exact ⟨result, rfl⟩
  cases phase : sending.phase with
  | spawned | opening => simp [OutgoingMessage.Linked, phase, isStream] at linkedMine
  | ended | panicked =>
      exact (notOver (by simp [Situation.isOver, State.situation, found, phase])).elim
  | writing other rest =>
      simp only [OutgoingMessage.Linked, phase] at linkedMine
      obtain ⟨isOther, -, unfinished, foundUnfinished, notFinished⟩ := linkedMine
      obtain rfl := Option.some.inj (isStream.symm.trans isOther)
      obtain rfl := Option.some.inj (foundOutgoing.symm.trans foundUnfinished)
      have isOpen : incoming.ending = .open := by
        cases ending : incoming.ending with
        | «open» => rfl
        | finished => simp [(whole ending).1] at notFinished
        | reset code => exact absurd ending (unbroken.notReset _ _ code foundIncoming)
      have delivered : incoming.received = outgoing.written :=
        isPrefix.eq_of_length_le (Nat.not_lt.mp (quiet isOpen).1)
      apply not_idle_of_writing up found phase foundOutgoing foundIncoming spawned delivered
      cases reader : incoming.reader with
      | notSpawned => exact absurd reader spawned
      | reading => exact .inr (notReady reader).2
      | ended result =>
          exact .inl (stopped_of_ended peerUp accounted unbroken foundIncoming isOpen reader)
  | stopping other =>
      simp only [OutgoingMessage.Linked, phase] at linkedMine
      obtain rfl := Option.some.inj (isStream.symm.trans linkedMine.1)
      simp only [OutgoingMessage.Truthful, phase] at truthful
      obtain ⟨written, foundWritten, isFinished⟩ := truthful
      obtain rfl := Option.some.inj (foundOutgoing.symm.trans foundWritten)
      apply not_idle_of_stopping up found phase foundIncoming
      cases ending : incoming.ending with
      | finished => rfl
      | «open» => simp [(quiet ending).2] at isFinished
      | reset code => exact absurd ending (unbroken.notReset _ _ code foundIncoming)

/-- While the connection is up, the helper of a message that is not done has something to
do. -/
theorem not_idle_of_helps (reachable : (system side wire).Reachable state)
    (up : state.closed = none) (peerUp : state.peer.closed = none)
    {sending : OutgoingMessage S} (found : state.sendings[index]? = some sending)
    (isStream : sending.stream = some stream)
    (notDone : ¬ (state.situation index stream).Done) :
    ¬ Idle side wire ((state.situation index stream).helper index stream) state := by
  have linked := linked_of_reachable reachable
  have accounted := accounted_of_reachable (peer_reachable reachable)
  have unbroken := unbroken_of_reachable reachable
  have opened := linked.opened index sending stream found isStream
  have helps := helps_helper index stream (state.situation index stream)
  generalize (state.situation index stream).helper index stream = helper at helps ⊢
  cases helps with
  | tells unknown => exact not_idle_of_unknown peerUp opened unknown
  | accepts foundIncoming notSpawned =>
      exact not_idle_of_notSpawned peerUp accounted foundIncoming notSpawned
  | delivers foundIncoming awaits =>
      exact not_idle_of_awaits peerUp linked foundIncoming awaits
  | @reads incoming foundIncoming quiet reading ready =>
      apply not_idle_of_reading foundIncoming reading
      rcases ready with isOver | tooLong
      · left
        by_contra notFinished
        apply notDone
        refine ⟨isOver, ?_⟩
        intro incoming' found' finished
        obtain rfl := Option.some.inj (foundIncoming.symm.trans found')
        exact absurd finished notFinished
      · exact .inr tooLong
  | goesOn foundIncoming spawned quiet notReady =>
      exact not_idle_of_goesOn reachable up peerUp found isStream foundIncoming spawned quiet
        notReady notDone

end Warqueen.Delivery
