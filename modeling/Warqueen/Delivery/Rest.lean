import Warqueen.Delivery.Helpers
import Warqueen.Delivery.Origins
import Warqueen.Delivery.Sent
import Warqueen.Receiving.Rest

/-!
# A direction comes to rest

Left alone on a connection that stays up, the sending tasks, the network and the
receiving tasks can only take so many steps.  When none of them can take another,
every message that the peer can read has been answered with `SendingResult::Sent` and
is in the peer's queue exactly as often as it was sent.
-/

namespace Warqueen.Delivery

open Concurrency Quinn Receiving Sending

variable {S R Event : Type} {side : ReceivingSide R Event} {wire : Wire S R}
variable {state state' : State S Event} {index : Nat}

/-- The steps of the sending tasks, of the network, as long as it does something, and
of the receiving tasks. -/
def Action.IsOwn : Action S → Prop
  | .resume _ _ | .peer .openStream | .peer (.finish _) => True
  | .peer (.deliver _ bytes) => bytes ≠ []
  | .peer action => action.IsTask
  | .send _ | .lose _ => False

/-- The steps of the parties are these, and the polls of the application. -/
theorem isOwn_of_party {action : Action S} {party : Party}
    (isParty : action.party = some party) :
    party ≠ .application ∧ action.IsOwn ∨
      party = .application ∧ action = .peer .poll := by
  cases action with
  | send | lose => cases isParty
  | resume =>
      obtain rfl := Option.some.inj isParty
      exact .inl ⟨by simp, trivial⟩
  | peer label =>
      cases label with
      | spawn | acceptUni | read | openStream | finish =>
          obtain rfl := Option.some.inj isParty
          exact .inl ⟨by simp, trivial⟩
      | deliver stream bytes =>
          cases bytes with
          | nil => cases isParty
          | cons byte bytes =>
              obtain rfl := Option.some.inj isParty
              exact .inl ⟨by simp, List.cons_ne_nil byte bytes⟩
      | poll => exact .inr ⟨(Option.some.inj isParty).symm, rfl⟩
      | resetStream | lose | dropReceiver => cases isParty

/-! ## How many steps are left -/

/-- How many steps a sending task has left, with those that the network needs for the
bytes that are still to be written. -/
def OutgoingMessage.stepsLeft (wire : Wire S R) (sending : OutgoingMessage S) : Nat :=
  match sending.phase with
  | .spawned => 2 * ((wire.encode sending.message).map List.length).getD 0 + 8
  | .opening messageRaw => 2 * messageRaw.length + 7
  | .writing _ rest => 2 * rest.length + 2
  | .stopping _ => 1
  | .ended _ | .panicked => 0

/-- How many steps the network and a reading task have left for a stream when all its
bytes are there. -/
def incomingLeft (incoming : IncomingStream) : Nat :=
  (if incoming.ending = .open then 1 else 0) + incoming.reader.stepsLeft

/-- How many steps the network and the reading tasks have left for the streams as they
are written. -/
def streamsLeft : List OutgoingStream → List IncomingStream → Nat
  | [], [] => 0
  | [], incoming :: rest => incomingLeft incoming + streamsLeft [] rest
  | outgoing :: later, [] => outgoing.written.length + 4 + streamsLeft later []
  | outgoing :: later, incoming :: rest =>
      (outgoing.written.length - incoming.received.length) + incomingLeft incoming +
        streamsLeft later rest

/-- How many steps a direction has left. -/
def State.stepsLeft (wire : Wire S R) (state : State S Event) : Nat :=
  state.sendings.foldr (fun sending steps => sending.stepsLeft wire + steps) 0 +
    state.peer.acceptTask.stepsLeft + streamsLeft state.outgoing state.peer.streams

/-- A new stream needs four steps more. -/
theorem streamsLeft_concat (outgoing : List OutgoingStream) (streams : List IncomingStream) :
    streamsLeft (outgoing ++ [{ written := [], finished := false }]) streams ≤
      streamsLeft outgoing streams + 4 := by
  induction outgoing generalizing streams with
  | nil =>
      cases streams with
      | nil => simp [streamsLeft]
      | cons incoming rest => simp [streamsLeft]
  | cons first later inductionHypothesis =>
      cases streams with
      | nil =>
          have rest := inductionHypothesis []
          simp only [List.cons_append, streamsLeft]
          omega
      | cons incoming streams =>
          have rest := inductionHypothesis streams
          simp only [List.cons_append, streamsLeft]
          omega

/-- An update of a stream that adds at most so many bytes needs at most so many steps
more. -/
theorem streamsLeft_modify {update : OutgoingStream → OutgoingStream} {more : Nat}
    (grows : ∀ stream, (update stream).written.length ≤ stream.written.length + more)
    (outgoing : List OutgoingStream) (stream : Nat) (streams : List IncomingStream) :
    streamsLeft (outgoing.modify stream update) streams ≤
      streamsLeft outgoing streams + more := by
  induction outgoing generalizing stream streams with
  | nil => simp
  | cons first later inductionHypothesis =>
      have longer := grows first
      cases stream with
      | zero =>
          cases streams with
          | nil =>
              simp only [List.modify_zero_cons, streamsLeft]
              omega
          | cons incoming streams =>
              simp only [List.modify_zero_cons, streamsLeft]
              omega
      | succ stream =>
          cases streams with
          | nil =>
              have rest := inductionHypothesis stream []
              simp only [List.modify_succ_cons, streamsLeft]
              omega
          | cons incoming streams =>
              have rest := inductionHypothesis stream streams
              simp only [List.modify_succ_cons, streamsLeft]
              omega

/-- The network opens a stream that was written. -/
theorem streamsLeft_openStream {outgoing : List OutgoingStream}
    {streams : List IncomingStream} (unopened : streams.length < outgoing.length) :
    streamsLeft outgoing (streams ++ [.opened]) < streamsLeft outgoing streams := by
  induction streams generalizing outgoing with
  | nil =>
      cases outgoing with
      | nil => cases unopened
      | cons first later =>
          simp [streamsLeft, incomingLeft, IncomingStream.opened, ReadingTask.stepsLeft]
  | cons incoming streams inductionHypothesis =>
      cases outgoing with
      | nil => cases unopened
      | cons first later =>
          have rest := inductionHypothesis (Nat.lt_of_succ_lt_succ unopened)
          simp only [List.cons_append, streamsLeft]
          omega

/-- A stream of the peer that needs fewer steps. -/
theorem streamsLeft_update {outgoing : List OutgoingStream} {streams : List IncomingStream}
    {update : IncomingStream → IncomingStream} {incoming : IncomingStream}
    (found : streams[index]? = some incoming)
    (received : incoming.received.length ≤ (update incoming).received.length)
    (fewer : incomingLeft (update incoming) < incomingLeft incoming ∨
      incomingLeft (update incoming) ≤ incomingLeft incoming ∧
        ∃ written, outgoing[index]? = some written ∧
          incoming.received.length < written.written.length ∧
          incoming.received.length < (update incoming).received.length) :
    streamsLeft outgoing (streams.modify index update) < streamsLeft outgoing streams := by
  induction streams generalizing outgoing index with
  | nil => cases found
  | cons first streams inductionHypothesis =>
      cases index with
      | zero =>
          obtain rfl := Option.some.inj found
          cases outgoing with
          | nil =>
              simp only [List.modify_zero_cons, streamsLeft]
              rcases fewer with fewer | ⟨-, written, none, -⟩
              · omega
              · cases none
          | cons written later =>
              simp only [List.modify_zero_cons, streamsLeft]
              rcases fewer with fewer | ⟨notMore, written', found', unread, reads⟩
              · omega
              · obtain rfl := Option.some.inj found'
                omega
      | succ index =>
          cases outgoing with
          | nil =>
              have rest : streamsLeft [] (streams.modify index update) <
                  streamsLeft [] streams := by
                apply inductionHypothesis found
                rcases fewer with fewer | ⟨-, written, none, -⟩
                · exact .inl fewer
                · cases none
              simp only [List.modify_succ_cons, streamsLeft]
              omega
          | cons written later =>
              have rest : streamsLeft later (streams.modify index update) <
                  streamsLeft later streams := inductionHypothesis found fewer
              simp only [List.modify_succ_cons, streamsLeft]
              omega

/-- What replacing one element does to the sum of the weights. -/
theorem foldr_set {α : Type} (weight : α → Nat) {elements : List α} {element : α}
    (found : elements[index]? = some element) (replacement : α) :
    (elements.set index replacement).foldr (fun element sum => weight element + sum) 0 +
        weight element =
      elements.foldr (fun element sum => weight element + sum) 0 + weight replacement := by
  induction elements generalizing index with
  | nil => cases found
  | cons first rest inductionHypothesis =>
      cases index with
      | zero =>
          obtain rfl := Option.some.inj found
          simp only [List.set_cons_zero, List.foldr_cons]
          omega
      | succ index =>
          have later := inductionHypothesis found
          simp only [List.set_cons_succ, List.foldr_cons]
          omega

/-- A step of a sending task leaves fewer steps, those for the bytes it wrote
included. -/
theorem resume_stepsLeft {answer : Answer}
    (stepped : resume wire state index answer = some state') :
    state'.stepsLeft wire < state.stepsLeft wire := by
  obtain ⟨sending, phase, found, -, answered, resumed, rfl⟩ := resume_eq_some stepped
  have sum := foldr_set (OutgoingMessage.stepsLeft wire) found (sending.advance phase)
  have fewer : (sending.advance phase).stepsLeft wire +
      streamsLeft (state.transmit sending.phase answer) state.peer.streams <
        sending.stepsLeft wire + streamsLeft state.outgoing state.peer.streams := by
    simp only [SendingPhase.resume] at resumed
    split at resumed
    next spawned =>
      simp only [State.transmit]
      split at resumed
      next messageRaw encoded =>
        obtain rfl := Option.some.inj resumed
        simp only [OutgoingMessage.stepsLeft, OutgoingMessage.advance_phase, spawned, encoded,
          Option.map_some, Option.getD_some]
        omega
      next =>
        obtain rfl := Option.some.inj resumed
        simp only [OutgoingMessage.stepsLeft, OutgoingMessage.advance_phase, spawned]
        omega
    next messageRaw stream opening =>
      obtain rfl := Option.some.inj resumed
      have longer := streamsLeft_concat state.outgoing state.peer.streams
      simp only [State.transmit, OutgoingMessage.stepsLeft, OutgoingMessage.advance_phase,
        opening]
      omega
    next messageRaw error opening =>
      obtain rfl := Option.some.inj resumed
      simp only [State.transmit, OutgoingMessage.stepsLeft, OutgoingMessage.advance_phase,
        opening]
      omega
    next stream rest written writing =>
      simp only [Option.ite_none_right_eq_some, Option.some.injEq] at resumed
      obtain ⟨⟨nonempty, bounded⟩, rfl⟩ := resumed
      have longer : streamsLeft (state.outgoing.modify stream fun outgoing =>
          { outgoing with written := outgoing.written ++ rest.take written })
          state.peer.streams ≤ streamsLeft state.outgoing state.peer.streams + written := by
        apply streamsLeft_modify
        intro outgoing
        simp only [List.length_append, List.length_take]
        omega
      simp only [State.transmit, OutgoingMessage.stepsLeft, OutgoingMessage.advance_phase,
        writing, List.length_drop]
      omega
    next stream rest error writing =>
      obtain rfl := Option.some.inj resumed
      simp only [State.transmit, OutgoingMessage.stepsLeft, OutgoingMessage.advance_phase,
        writing]
      omega
    next stream rest writing =>
      simp only [Option.ite_none_right_eq_some, Option.some.injEq] at resumed
      obtain ⟨rfl, rfl⟩ := resumed
      have longer : streamsLeft (state.outgoing.modify stream fun outgoing =>
          { outgoing with finished := true }) state.peer.streams ≤
            streamsLeft state.outgoing state.peer.streams + 0 :=
        streamsLeft_modify (fun _ => Nat.le_refl _) _ _ _
      simp only [State.transmit, OutgoingMessage.stepsLeft, OutgoingMessage.advance_phase,
        writing, List.length_nil]
      omega
    next stream code stopping =>
      obtain rfl := Option.some.inj resumed
      simp only [State.transmit, OutgoingMessage.stepsLeft, OutgoingMessage.advance_phase,
        stopping]
      omega
    next stream error stopping =>
      obtain rfl := Option.some.inj resumed
      simp only [State.transmit, OutgoingMessage.stepsLeft, OutgoingMessage.advance_phase,
        stopping]
      omega
    next => cases resumed
  simp only [State.stepsLeft]
  omega

/-- A step of the network or of a receiving task leaves fewer steps. -/
theorem peer_stepsLeft {peer : Receiving.State Event} {action : Receiving.Action}
    (own : (Action.peer action : Action S).IsOwn)
    (transported : state.transports action = true)
    (stepped : Receiving.step side wire.decode state.peer action = some peer) :
    peer.acceptTask.stepsLeft + streamsLeft state.outgoing peer.streams <
      state.peer.acceptTask.stepsLeft + streamsLeft state.outgoing state.peer.streams := by
  cases action with
  | spawn =>
      simp only [Receiving.step, Option.ite_none_right_eq_some, Option.some.injEq] at stepped
      obtain ⟨notSpawned, rfl⟩ := stepped
      simp [notSpawned, AcceptTask.stepsLeft]
  | acceptUni =>
      obtain ⟨running, ⟨next, isNext, rfl⟩ | ⟨error, task, -, -, ended, rfl⟩⟩ :=
        acceptUni_cases stepped
      · obtain ⟨incoming, found, notSpawned⟩ := State.nextStream_eq_some isNext
        apply Nat.add_lt_add_left
        refine streamsLeft_update found (Nat.le_refl _) (.inl ?_)
        simp [incomingLeft, notSpawned, ReadingTask.stepsLeft]
      · apply Nat.add_lt_add_right
        rcases ended with ⟨rfl, -⟩ | ⟨rfl, -⟩ <;> simp [running, AcceptTask.stepsLeft]
  | read reader =>
      obtain ⟨incoming, result, found, reading, -, rfl⟩ := read_cases stepped
      apply Nat.add_lt_add_left
      refine streamsLeft_update found (Nat.le_refl _) (.inl ?_)
      simp [incomingLeft, IncomingStream.endReading, reading, ReadingTask.stepsLeft]
  | openStream =>
      simp only [Receiving.step, Option.ite_none_right_eq_some, Option.some.injEq] at stepped
      obtain ⟨-, rfl⟩ := stepped
      apply Nat.add_lt_add_left
      apply streamsLeft_openStream
      simpa [State.transports] using transported
  | deliver reader bytes =>
      obtain ⟨-, ⟨incoming, found, -⟩, rfl⟩ := State.onOpenStream_eq_some.mp stepped
      simp only [State.transports, found, Option.any_some] at transported
      obtain ⟨outgoing, foundOutgoing, isPrefix⟩ := (Option.any_eq_true _ _).mp transported
      have nonempty : 0 < bytes.length := List.length_pos_of_ne_nil own
      have bounded := (List.isPrefixOf_iff_prefix.mp isPrefix).length_le
      rw [List.length_drop] at bounded
      apply Nat.add_lt_add_left
      refine streamsLeft_update found (by simp) (.inr ⟨Nat.le_refl _, outgoing,
        foundOutgoing, ?_, ?_⟩)
      · omega
      · simpa using nonempty
  | finish reader =>
      obtain ⟨-, ⟨incoming, found, isOpen⟩, rfl⟩ := State.onOpenStream_eq_some.mp stepped
      apply Nat.add_lt_add_left
      refine streamsLeft_update found (Nat.le_refl _) (.inl ?_)
      simp [incomingLeft, isOpen]
  | resetStream | lose | poll | dropReceiver => exact own.elim

theorem step_stepsLeft {action : Action S} (own : action.IsOwn)
    (stepped : step side wire state action = some state') :
    state'.stepsLeft wire < state.stepsLeft wire := by
  cases action with
  | send | lose => exact own.elim
  | resume index answer => exact resume_stepsLeft stepped
  | peer action =>
      obtain ⟨peer, rfl, transported, stepped⟩ := peer_cases stepped
      have fewer := peer_stepsLeft own transported stepped
      simp only [State.stepsLeft]
      omega

/-! ## At rest -/

/-- Nothing that a direction does on its own is left to do, and the connection is up on
both sides. -/
structure AtRest (side : ReceivingSide R Event) (wire : Wire S R) (state : State S Event) :
    Prop where
  stuck : (system side wire).Stuck Action.IsOwn state
  up : state.closed = none
  peerUp : state.peer.closed = none

/-- A step of the peer that the network transports is not enabled at rest. -/
theorem AtRest.peer_stuck (atRest : AtRest side wire state) (action : Receiving.Action)
    (own : (Action.peer action : Action S).IsOwn)
    (transported : state.transports action = true) :
    Receiving.step side wire.decode state.peer action = none := by
  have stuck := atRest.stuck (.peer action) own
  simpa only [system, step, transported, if_true, Option.map_eq_none_iff] using stuck

/-- The receiving tasks are at rest too. -/
theorem AtRest.receiving_stuck (atRest : AtRest side wire state) :
    (Receiving.system side wire.decode).Stuck Receiving.Action.IsTask state.peer := by
  intro action isTask
  have own : (Action.peer action : Action S).IsOwn := by
    cases action <;> first | exact isTask | exact isTask.elim
  apply atRest.peer_stuck action own
  cases action with
  | spawn | acceptUni | read => rfl
  | openStream | deliver | finish | resetStream | lose | poll | dropReceiver =>
      exact isTask.elim

/-- None of those who can help a message is at work any more. -/
theorem AtRest.idle (atRest : AtRest side wire state) {party : Party}
    (notApplication : party ≠ .application) : Idle side wire party state := by
  intro action isParty
  rcases isOwn_of_party isParty with ⟨-, own⟩ | ⟨isApplication, -⟩
  · exact atRest.stuck action own
  · exact absurd isApplication notApplication

/-- At rest a message whose task has its stream is done. -/
theorem AtRest.done (atRest : AtRest side wire state)
    (reachable : (system side wire).Reachable state) {sending : OutgoingMessage S}
    (found : state.sendings[index]? = some sending) {stream : Nat}
    (isStream : sending.stream = some stream) : (state.situation index stream).Done := by
  by_contra notDone
  apply not_idle_of_helps reachable atRest.up atRest.peerUp found isStream notDone
  apply atRest.idle
  intro same
  have helps := helps_helper index stream (state.situation index stream)
  rw [same] at helps
  cases helps

/-- At rest every sending task is over. -/
theorem AtRest.isOver (atRest : AtRest side wire state)
    (reachable : (system side wire).Reachable state) {sending : OutgoingMessage S}
    (found : state.sendings[index]? = some sending) :
    sending.phase = .panicked ∨ ∃ result, sending.phase = .ended result := by
  have linkedMine := (linked_of_reachable reachable).sending index sending found
  have idle : Idle side wire (.sendingTask index) state := atRest.idle (by simp)
  cases phase : sending.phase with
  | panicked => exact .inl rfl
  | ended result => exact .inr ⟨result, rfl⟩
  | spawned => exact absurd idle (not_idle_of_unopened atRest.up found (.inl phase))
  | opening messageRaw =>
      exact absurd idle (not_idle_of_unopened atRest.up found (.inr ⟨messageRaw, phase⟩))
  | writing | stopping =>
      simp only [OutgoingMessage.Linked, phase] at linkedMine
      have isOver := (atRest.done reachable found linkedMine.1).1
      simp [Situation.isOver, State.situation, found, phase] at isOver

/-- Of a message that the peer can read and that was answered with
`SendingResult::Sent`, the peer has received the whole stream. -/
theorem Linked.received_of_sent (linked : Linked wire state) {sending : OutgoingMessage S}
    (found : state.sendings[index]? = some sending) (ended : sending.phase = .ended .sent)
    {received : R} (transferred : wire.transfer sending.message = some received) :
    ∃ stream incoming, sending.stream = some stream ∧
      state.peer.streams[stream]? = some incoming ∧
      goodMessage wire.decode incoming.toRecvStream = some received := by
  obtain ⟨messageRaw, encoded, decodes⟩ := Option.bind_eq_some_iff.mp transferred
  simp only [Option.ite_none_right_eq_some] at decodes
  obtain ⟨fits, decodes⟩ := decodes
  have linkedMine := linked.sending index sending found
  simp only [OutgoingMessage.Linked, ended] at linkedMine
  obtain ⟨stream, isStream, ⟨written, foundWritten, encoded'⟩, reached⟩ := linkedMine
  rw [List.append_nil] at encoded'
  obtain rfl := Option.some.inj (encoded.symm.trans encoded')
  obtain ⟨incoming, foundIncoming, finished⟩ : FullyReceived state.peer.streams stream := by
    apply reached.resolve_right
    intro tooLong
    obtain ⟨written', found', longer⟩ := tooLong
    obtain rfl := Option.some.inj (foundWritten.symm.trans found')
    omega
  obtain ⟨written', found', -, whole⟩ := linked.received stream incoming foundIncoming
  obtain rfl := Option.some.inj (foundWritten.symm.trans found')
  refine ⟨stream, incoming, isStream, foundIncoming, ?_⟩
  simp [goodMessage, RecvStream.Complete, finished, (whole finished).2, fits, decodes]

/-- While the connection is up, a task that is over has sent its message, if the peer can
read it. -/
theorem sent_of_over (reachable : (system side wire).Reachable state)
    (up : state.closed = none) {sending : OutgoingMessage S}
    (found : state.sendings[index]? = some sending)
    (isOver : sending.phase = .panicked ∨ ∃ result, sending.phase = .ended result)
    {received : R} (transferred : wire.transfer sending.message = some received) :
    sending.phase = .ended .sent := by
  have truthful := allTruthful_of_reachable reachable index sending found
  obtain ⟨messageRaw, encoded, decodes⟩ := Option.bind_eq_some_iff.mp transferred
  simp only [Option.ite_none_right_eq_some] at decodes
  obtain ⟨fits, -⟩ := decodes
  rcases isOver with panicked | ⟨result, ended⟩
  · simp only [OutgoingMessage.Truthful, panicked, encoded] at truthful
    cases truthful
  · cases result with
    | sent => exact ended
    | weClosed | peerClosedOrDied | error =>
        simp only [OutgoingMessage.Truthful, ended, encoded] at truthful
        obtain ⟨other, same, tooLong⟩ := truthful up
        obtain rfl := Option.some.inj same
        omega

/-- At rest a message that the peer can read has been answered with
`SendingResult::Sent`. -/
theorem AtRest.sent (atRest : AtRest side wire state)
    (reachable : (system side wire).Reachable state) {sending : OutgoingMessage S}
    (found : state.sendings[index]? = some sending) {received : R}
    (transferred : wire.transfer sending.message = some received) :
    sending.phase = .ended .sent :=
  sent_of_over reachable atRest.up found (atRest.isOver reachable found) transferred

/-- The peer has received the whole stream of a message and read it. -/
def ReadByPeer (wire : Wire S R) (streams : List IncomingStream)
    (sending : OutgoingMessage S) (received : R) : Prop :=
  ∃ stream incoming, sending.stream = some stream ∧ streams[stream]? = some incoming ∧
    goodMessage wire.decode incoming.toRecvStream = some received ∧
    incoming.reader = .ended (.ok incoming.received)

/-- While the queue is held, the messages whose streams the peer has read are in the
queue, each as often as it was sent. -/
theorem subperm_queuedMessages_of_read (reads : Payload side)
    (reachable : (system side wire).Reachable state)
    (held : state.peer.events.receiverHeld = true) {image : OutgoingMessage S → Option R}
    (count : Nat)
    (read : ∀ (index : Nat) (sending : OutgoingMessage S) (received : R), index < count →
      state.sendings[index]? = some sending → image sending = some received →
      ReadByPeer wire state.peer.streams sending received) :
    ((state.sendings.take count).filterMap image).Subperm (state.queuedMessages reads) := by
  have linked := linked_of_reachable reachable
  have accounted := accounted_of_reachable (peer_reachable reachable)
  rw [State.queuedMessages, List.filterMap_map]
  apply subperm_of_origins fun sender place =>
    ∃ (stream : Nat) (event : Event) (sending : OutgoingMessage S),
      state.sendings[sender]? = some sending ∧ sending.stream = some stream ∧
        state.peer.events.sent[place]? = some (.reader stream, event)
  · intro sender sending received foundTaken isImage
    rw [List.getElem?_take, Option.ite_none_right_eq_some] at foundTaken
    obtain ⟨below, found⟩ := foundTaken
    obtain ⟨stream, incoming, isStream, foundIncoming, good, ended⟩ :=
      read sender sending received below found isImage
    have message : side.message received ∈
        sentBy (.reader stream) state.peer.events.sent := by
      simp only [goodMessage, Option.ite_none_right_eq_some] at good
      rw [accounted.sentBy_eq held]
      simp [owed, foundIncoming, streamEvents, ended, readingTaskEvent, good.2, emitted]
    obtain ⟨place, foundPlace⟩ := List.mem_iff_getElem?.mp (mem_sentBy.mp message)
    exact ⟨place, _, foundPlace, reads.message received, stream, _, sending, found, isStream,
      foundPlace⟩
  · intro first second place ofFirst ofSecond
    obtain ⟨stream, event, sending, foundFirst, isStream, foundPlace⟩ := ofFirst
    obtain ⟨stream', event', sending', foundSecond, isStream', foundPlace'⟩ := ofSecond
    obtain ⟨same, -⟩ := Prod.mk.inj (Option.some.inj (foundPlace.symm.trans foundPlace'))
    obtain rfl := Source.reader.inj same
    exact linked.distinct first second sending sending' stream foundFirst foundSecond
      isStream isStream'

/-- When the receiving tasks are at rest and the queue is held, the messages whose
streams the peer has received are in the queue, each as often as it was sent. -/
theorem subperm_queuedMessages (reads : Payload side)
    (reachable : (system side wire).Reachable state)
    (stuck : (Receiving.system side wire.decode).Stuck Receiving.Action.IsTask state.peer)
    (held : state.peer.events.receiverHeld = true) {image : OutgoingMessage S → Option R}
    (arrived : ∀ (index : Nat) (sending : OutgoingMessage S) (received : R),
      state.sendings[index]? = some sending → image sending = some received →
      ∃ stream incoming, sending.stream = some stream ∧
        state.peer.streams[stream]? = some incoming ∧
        goodMessage wire.decode incoming.toRecvStream = some received) :
    (state.sendings.filterMap image).Subperm (state.queuedMessages reads) := by
  have accounted := accounted_of_reachable (peer_reachable reachable)
  have every : ((state.sendings.take state.sendings.length).filterMap image).Subperm
      (state.queuedMessages reads) := by
    apply subperm_queuedMessages_of_read reads reachable held
    intro index sending received _ found isImage
    obtain ⟨stream, incoming, isStream, foundIncoming, good⟩ :=
      arrived index sending received found isImage
    have complete := (Option.ite_none_right_eq_some.mp good).1
    exact ⟨stream, incoming, isStream, foundIncoming, good,
      accounted.ended_of_stuck stuck foundIncoming complete⟩
  rwa [List.take_length] at every

/-- What the peer makes of a message that was answered with `SendingResult::Sent`. -/
def OutgoingMessage.transferIfSent (wire : Wire S R) (sending : OutgoingMessage S) :
    Option R :=
  if getState sending.result = .result .sent then wire.transfer sending.message else none

/-- Whatever became of the connection, the messages that were answered with
`SendingResult::Sent` are in the peer's queue once its receiving tasks are at rest, each
as often as it was so answered. -/
theorem sent_subperm (reads : Payload side) (reachable : (system side wire).Reachable state)
    (stuck : (Receiving.system side wire.decode).Stuck Receiving.Action.IsTask state.peer)
    (held : state.peer.events.receiverHeld = true) :
    (state.sendings.filterMap (OutgoingMessage.transferIfSent wire)).Subperm
      (state.queuedMessages reads) := by
  have linked := linked_of_reachable reachable
  apply subperm_queuedMessages reads reachable stuck held
  intro index sending received found isImage
  simp only [OutgoingMessage.transferIfSent, Option.ite_none_right_eq_some] at isImage
  obtain ⟨answered, transferred⟩ := isImage
  exact linked.received_of_sent found (linked.ended_of_sent found answered) transferred

/-- When a direction is at rest, every handle has its answer, which is
`SendingResult::Sent` for the messages that the peer can read, and the peer has queued
these messages and no others, each as often as it was sent. -/
structure AllDelivered (reads : Payload side) (wire : Wire S R) (state : State S Event) :
    Prop where
  answered : ∀ sending ∈ state.sendings, getState sending.result ≠ .stillBeingSent
  sent : ∀ sending ∈ state.sendings, (wire.transfer sending.message).isSome = true →
    getState sending.result = .result .sent
  queued : (state.queuedMessages reads).Perm
    (state.sendings.filterMap fun sending => wire.transfer sending.message)

theorem AtRest.allDelivered (atRest : AtRest side wire state) (reads : Payload side)
    (reachable : (system side wire).Reachable state)
    (held : state.peer.events.receiverHeld = true) : AllDelivered reads wire state := by
  have linked := linked_of_reachable reachable
  constructor
  · intro sending member
    obtain ⟨index, found⟩ := List.mem_iff_getElem?.mp member
    rw [linked.result index sending found, getState_settle]
    rcases atRest.isOver reachable found with panicked | ⟨result, ended⟩
    · simp [panicked, SendingPhase.answer]
    · simp [ended, SendingPhase.answer]
  · intro sending member isSome
    obtain ⟨index, found⟩ := List.mem_iff_getElem?.mp member
    obtain ⟨received, transferred⟩ := Option.isSome_iff_exists.mp isSome
    rw [linked.result index sending found, getState_settle,
      atRest.sent reachable found transferred]
    rfl
  · apply (queuedMessages_subperm reads reachable).antisymm
    apply subperm_queuedMessages reads reachable atRest.receiving_stuck held
    intro index sending received found transferred
    exact linked.received_of_sent found (atRest.sent reachable found transferred) transferred

end Warqueen.Delivery
