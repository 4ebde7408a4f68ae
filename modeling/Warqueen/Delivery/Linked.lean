import Warqueen.Delivery.Parties

/-!
# What the two sides know of each other

`Linked` ties the phases of the sending tasks, the streams they write and the
streams the peer receives: every task writes its own stream, the bytes written so
far are a prefix of its message, the peer has received a prefix of them, and a
task that ended with `SendingResult::Sent` has written its whole message to a
stream that the peer has received to its end or found too long.
-/

namespace Warqueen.Delivery

open Concurrency Quinn Receiving Sending

variable {S R Event : Type} {side : ReceivingSide R Event} {wire : Wire S R}
variable {state state' : State S Event} {index : Nat}

/-! ## One lemma for each kind of step -/

/-- A step of a sending task: the answer it is resumed with, the phase it goes to,
and the streams afterwards. -/
inductive SendingStep (wire : Wire S R) (state : State S Event) (sending : OutgoingMessage S) :
    SendingPhase → List OutgoingStream → Prop where
  | encodes {messageRaw : List UInt8} (spawned : sending.phase = .spawned)
      (encoded : wire.encode sending.message = some messageRaw) :
      SendingStep wire state sending (.opening messageRaw) state.outgoing
  | panics (spawned : sending.phase = .spawned) :
      SendingStep wire state sending .panicked state.outgoing
  | opens {messageRaw : List UInt8} (opening : sending.phase = .opening messageRaw) :
      SendingStep wire state sending (.writing state.outgoing.length messageRaw)
        (state.outgoing ++ [{ written := [], finished := false }])
  | writes {stream written : Nat} {rest : List UInt8}
      (writing : sending.phase = .writing stream rest)
      (credited : ∀ outgoing, state.outgoing[stream]? = some outgoing →
        (outgoing.written ++ rest.take written).length ≤
          wire.window + oneGigabyteInBytes) :
      SendingStep wire state sending (.writing stream (rest.drop written))
        (state.outgoing.modify stream fun outgoing =>
          { outgoing with written := outgoing.written ++ rest.take written })
  | finishes {stream : Nat} (writing : sending.phase = .writing stream []) :
      SendingStep wire state sending (.stopping stream)
        (state.outgoing.modify stream fun outgoing => { outgoing with finished := true })
  | acknowledged {stream : Nat} {incoming : IncomingStream}
      (stopping : sending.phase = .stopping stream)
      (found : state.peer.streams[stream]? = some incoming)
      (finished : incoming.ending = .finished) :
      SendingStep wire state sending (.ended .sent) state.outgoing
  | stoppedByPeer {stream : Nat} {incoming : IncomingStream}
      (stopping : sending.phase = .stopping stream)
      (found : state.peer.streams[stream]? = some incoming)
      (stopped : incoming.stopped = true) :
      SendingStep wire state sending (.ended .sent) state.outgoing
  | fails {result : SendingResult}
      (inProgress : sending.phase.settle .channel = .channel) (notSent : result ≠ .sent) :
      SendingStep wire state sending (.ended result) state.outgoing

theorem State.readByPeer_le (state : State S Event) (stream : Nat) :
    state.readByPeer stream ≤ oneGigabyteInBytes := by
  simp only [readByPeer]
  split
  · split
    · exact Nat.zero_le _
    · exact Nat.min_le_right _ _
  · exact Nat.zero_le _

/-- A sending task that an answer resumes takes one of the steps. -/
theorem sendingStep_of_resume {sending : OutgoingMessage S} {phase : SendingPhase}
    {answer : Answer} (answered : state.answers wire sending.phase answer = true)
    (resumed : sending.phase.resume wire.encode sending.message answer = some phase) :
    SendingStep wire state sending phase (state.transmit sending.phase answer) := by
  simp only [SendingPhase.resume] at resumed
  split at resumed
  next spawned =>
    simp only [State.transmit]
    split at resumed
    next messageRaw encoded =>
      obtain rfl := Option.some.inj resumed
      exact .encodes spawned encoded
    next =>
      obtain rfl := Option.some.inj resumed
      exact .panics spawned
  next messageRaw stream opening =>
    obtain rfl := Option.some.inj resumed
    obtain rfl : stream = state.outgoing.length := by
      simpa [State.answers] using answered
    simpa only [State.transmit] using .opens opening
  next messageRaw error opening =>
    obtain rfl := Option.some.inj resumed
    simp only [State.transmit]
    exact .fails (by rw [opening]; rfl) (fromResult_error_ne_sent _)
  next stream rest written writing =>
    simp only [Option.ite_none_right_eq_some, Option.some.injEq] at resumed
    obtain ⟨⟨-, bounded⟩, rfl⟩ := resumed
    simp only [State.answers, writing] at answered
    simp only [State.transmit, writing]
    refine .writes writing ?_
    intro outgoing found
    have credited : outgoing.written.length + written ≤
        wire.window + state.readByPeer stream := by
      simpa [found] using answered
    have read := state.readByPeer_le stream
    simp only [List.length_append, List.length_take]
    omega
  next stream rest error writing =>
    obtain rfl := Option.some.inj resumed
    simp only [State.transmit]
    exact .fails (by rw [writing]; rfl) (fromResult_error_ne_sent _)
  next stream rest writing =>
    simp only [Option.ite_none_right_eq_some, Option.some.injEq] at resumed
    obtain ⟨rfl, rfl⟩ := resumed
    simp only [State.transmit, writing]
    exact .finishes writing
  next stream code stopping =>
    obtain rfl := Option.some.inj resumed
    simp only [State.transmit]
    cases code with
    | none =>
        simp only [State.answers, stopping] at answered
        obtain ⟨incoming, found, finished⟩ := (Option.any_eq_true _ _).mp answered
        exact .acknowledged stopping found (by simpa using finished)
    | some code =>
        simp only [State.answers, stopping] at answered
        obtain ⟨incoming, found, stopped⟩ := (Option.any_eq_true _ _).mp answered
        exact .stoppedByPeer stopping found stopped
  next stream error stopping =>
    obtain rfl := Option.some.inj resumed
    simp only [State.transmit]
    exact .fails (by rw [stopping]; rfl) (fromResult_error_ne_sent _)
  next => cases resumed

/-- What a step of a sending task requires and does. -/
theorem resume_eq_some {answer : Answer}
    (stepped : resume wire state index answer = some state') :
    ∃ sending phase, state.sendings[index]? = some sending ∧
      answer.allowed state.closed = true ∧
      state.answers wire sending.phase answer = true ∧
      sending.phase.resume wire.encode sending.message answer = some phase ∧
      { state with
        sendings := state.sendings.set index (sending.advance phase)
        outgoing := state.transmit sending.phase answer } = state' := by
  simp only [resume] at stepped
  split at stepped
  next sending found =>
    simp only [Option.ite_none_right_eq_some] at stepped
    obtain ⟨⟨allowed, answered⟩, resumes⟩ := stepped
    obtain ⟨phase, resumed, same⟩ := Option.map_eq_some_iff.mp resumes
    exact ⟨sending, phase, found, allowed, answered, resumed, same⟩
  next => cases stepped

/-- What a step of a sending task does to the state. -/
theorem resume_cases {answer : Answer}
    (stepped : resume wire state index answer = some state') :
    ∃ sending phase outgoing, state.sendings[index]? = some sending ∧
      SendingStep wire state sending phase outgoing ∧
      state' = { state with
        sendings := state.sendings.set index (sending.advance phase)
        outgoing := outgoing } := by
  obtain ⟨sending, phase, found, -, answered, resumed, rfl⟩ := resume_eq_some stepped
  exact ⟨sending, phase, _, found, sendingStep_of_resume answered resumed, rfl⟩

/-- What a step of the network or of the peer does to the state. -/
theorem peer_cases {label : Receiving.Action}
    (stepped : step side wire state (.peer label) = some state') :
    ∃ peer, state' = { state with peer := peer } ∧ state.transports label = true ∧
      Receiving.step side wire.decode state.peer label = some peer := by
  simp only [step, Option.ite_none_right_eq_some] at stepped
  obtain ⟨transported, steps⟩ := stepped
  obtain ⟨peer, stepped, rfl⟩ := Option.map_eq_some_iff.mp steps
  exact ⟨peer, rfl, transported, stepped⟩

/-! ## The invariant -/

/-- The stream carries the encoded message, or what the task has written of it. -/
def Carries (wire : Wire S R) (outgoing : List OutgoingStream) (message : S)
    (stream : Nat) (rest : List UInt8) : Prop :=
  ∃ written, outgoing[stream]? = some written ∧
    wire.encode message = some (written.written ++ rest)

/-- The peer has received the stream to its end. -/
def FullyReceived (streams : List IncomingStream) (stream : Nat) : Prop :=
  ∃ incoming, streams[stream]? = some incoming ∧ incoming.ending = .finished

/-- What the phase of a sending task says about its stream. -/
def OutgoingMessage.Linked (wire : Wire S R) (outgoing : List OutgoingStream)
    (streams : List IncomingStream) (sending : OutgoingMessage S) : Prop :=
  match sending.phase with
  | .spawned => sending.stream = none
  | .opening messageRaw =>
      sending.stream = none ∧ wire.encode sending.message = some messageRaw
  | .writing stream rest =>
      sending.stream = some stream ∧ Carries wire outgoing sending.message stream rest ∧
        ∃ written, outgoing[stream]? = some written ∧ written.finished = false
  | .stopping stream =>
      sending.stream = some stream ∧ Carries wire outgoing sending.message stream []
  | .ended .sent =>
      ∃ stream, sending.stream = some stream ∧
        Carries wire outgoing sending.message stream [] ∧
        (FullyReceived streams stream ∨
          ∃ written, outgoing[stream]? = some written ∧
            oneGigabyteInBytes < written.written.length)
  | .ended _ | .panicked => True

/-- What the peer has received is a prefix of what was written, and all of it
once it is finished. -/
def Received (outgoing : OutgoingStream) (incoming : RecvStream) : Prop :=
  incoming.received <+: outgoing.written ∧
    (incoming.ending = .finished →
      outgoing.finished = true ∧ incoming.received = outgoing.written)

/-- What the two sides know of each other. -/
structure Linked (wire : Wire S R) (state : State S Event) : Prop where
  sending : ∀ (index : Nat) (sending : OutgoingMessage S),
    state.sendings[index]? = some sending →
    sending.Linked wire state.outgoing state.peer.streams
  result : ∀ (index : Nat) (sending : OutgoingMessage S),
    state.sendings[index]? = some sending →
    sending.result = sending.phase.settle .channel
  opened : ∀ (index : Nat) (sending : OutgoingMessage S) (stream : Nat),
    state.sendings[index]? = some sending → sending.stream = some stream →
    stream < state.outgoing.length
  distinct : ∀ (first second : Nat) (one other : OutgoingMessage S) (stream : Nat),
    state.sendings[first]? = some one → state.sendings[second]? = some other →
    one.stream = some stream → other.stream = some stream → first = second
  windowed : ∀ (stream : Nat) (outgoing : OutgoingStream),
    state.outgoing[stream]? = some outgoing →
    outgoing.written.length ≤ wire.window + oneGigabyteInBytes
  received : ∀ (stream : Nat) (incoming : IncomingStream),
    state.peer.streams[stream]? = some incoming →
    ∃ outgoing, state.outgoing[stream]? = some outgoing ∧
      Received outgoing incoming.toRecvStream

theorem established_linked : Linked wire (State.established : State S Event) where
  sending := by simp [State.established]
  result := by simp [State.established]
  opened := by simp [State.established]
  distinct := by simp [State.established]
  windowed := by simp [State.established]
  received := by simp [State.established, Receiving.State.established]

/-- A sending task is not concerned by steps that leave its stream alone. -/
theorem OutgoingMessage.Linked.congr {outgoing outgoing' : List OutgoingStream}
    {streams streams' : List IncomingStream} {sending : OutgoingMessage S}
    (linked : sending.Linked wire outgoing streams)
    (same : ∀ stream, sending.stream = some stream →
      outgoing'[stream]? = outgoing[stream]?)
    (kept : ∀ stream, FullyReceived streams stream → FullyReceived streams' stream) :
    sending.Linked wire outgoing' streams' := by
  simp only [OutgoingMessage.Linked, Carries] at linked ⊢
  split at linked
  · exact linked
  · exact linked
  next stream rest writing =>
    rw [same stream linked.1]
    exact linked
  next stream stopping =>
    rw [same stream linked.1]
    exact linked
  next =>
    obtain ⟨stream, isStream, carries, done⟩ := linked
    refine ⟨stream, isStream, ?_, ?_⟩
    · rw [same stream isStream]
      exact carries
    · rw [same stream isStream]
      exact done.imp_left (kept stream)
  · trivial
  · trivial

/-! ## Steps of the sending side -/

section SendingSide

theorem getElem?_modify_of_found {α : Type} {elements : List α} {element : α}
    (found : elements[index]? = some element) (update : α → α) :
    (elements.modify index update)[index]? = some (update element) := by
  simp [found]

variable {sending : OutgoingMessage S} {phase : SendingPhase}
variable {outgoing : List OutgoingStream}

/-- A sending task changes no stream but its own. -/
theorem SendingStep.same (step' : SendingStep wire state sending phase outgoing)
    (linked : sending.Linked wire state.outgoing state.peer.streams) {stream : Nat}
    (opened : stream < state.outgoing.length)
    (notMine : sending.stream ≠ some stream) :
    outgoing[stream]? = state.outgoing[stream]? := by
  cases step' with
  | encodes | panics | acknowledged | stoppedByPeer | fails => rfl
  | opens => exact List.getElem?_append_left opened
  | writes writing | finishes writing =>
      simp only [OutgoingMessage.Linked, writing] at linked
      have different : ∀ own, sending.stream = some own → own ≠ stream := by
        intro own isOwn same
        subst same
        exact notMine isOwn
      simp [different _ linked.1]

/-- A sending task has opened its stream itself, and it keeps it. -/
theorem SendingStep.stream (step' : SendingStep wire state sending phase outgoing)
    (linked : sending.Linked wire state.outgoing state.peer.streams) {stream : Nat}
    (isStream : (sending.advance phase).stream = some stream) :
    sending.stream = some stream ∨
      stream = state.outgoing.length ∧ outgoing.length = stream + 1 := by
  cases step' with
  | encodes | panics | finishes | acknowledged | stoppedByPeer | fails =>
      exact .inl isStream
  | opens =>
      obtain rfl : state.outgoing.length = stream := by
        simpa [OutgoingMessage.advance] using isStream
      exact .inr ⟨rfl, by simp⟩
  | writes writing =>
      simp only [OutgoingMessage.Linked, writing] at linked
      left
      rw [linked.1]
      simpa [OutgoingMessage.advance] using isStream

/-- The task was in progress, so its result had not been sent. -/
theorem SendingStep.inProgress (step' : SendingStep wire state sending phase outgoing) :
    sending.phase.settle .channel = .channel := by
  cases step' with
  | encodes phaseEq | panics phaseEq | opens phaseEq | writes phaseEq | finishes phaseEq
  | acknowledged phaseEq | stoppedByPeer phaseEq =>
      rw [phaseEq]
      rfl
  | fails inProgress => exact inProgress

theorem SendingStep.length_le (step' : SendingStep wire state sending phase outgoing) :
    state.outgoing.length ≤ outgoing.length := by
  cases step' <;> simp

/-- The streams stay in bounds of the window. -/
theorem SendingStep.windowed (step' : SendingStep wire state sending phase outgoing)
    (windowed : ∀ (stream : Nat) (written : OutgoingStream),
      state.outgoing[stream]? = some written →
      written.written.length ≤ wire.window + oneGigabyteInBytes)
    (stream : Nat) (written : OutgoingStream) (found : outgoing[stream]? = some written) :
    written.written.length ≤ wire.window + oneGigabyteInBytes := by
  cases step' with
  | encodes | panics | acknowledged | stoppedByPeer | fails =>
      exact windowed stream written found
  | opens =>
      rw [List.getElem?_append] at found
      split at found
      · exact windowed stream written found
      · obtain ⟨-, rfl⟩ := List.getElem?_eq_some_iff.mp found
        simp
  | writes writing credited =>
      rw [List.getElem?_modify] at found
      obtain ⟨before, foundBefore, rfl⟩ := Option.map_eq_some_iff.mp found
      split
      next equal =>
        subst equal
        exact credited before foundBefore
      next => exact windowed stream before foundBefore
  | finishes =>
      rw [List.getElem?_modify] at found
      obtain ⟨before, foundBefore, rfl⟩ := Option.map_eq_some_iff.mp found
      have bounded := windowed stream before foundBefore
      split <;> exact bounded

/-- Writing more and finishing leave what the peer has received a prefix, since a
stream is not written once it is finished. -/
theorem SendingStep.received (step' : SendingStep wire state sending phase outgoing)
    (linked : sending.Linked wire state.outgoing state.peer.streams) {stream : Nat}
    {incoming : RecvStream}
    (received : ∃ written, state.outgoing[stream]? = some written ∧
      Received written incoming) :
    ∃ written, outgoing[stream]? = some written ∧ Received written incoming := by
  obtain ⟨before, foundBefore, isPrefix, finished⟩ := received
  have inBounds := (List.getElem?_eq_some_iff.mp foundBefore).1
  by_cases mine : sending.stream = some stream
  · cases step' with
    | encodes | panics | acknowledged | stoppedByPeer | fails =>
        exact ⟨before, foundBefore, isPrefix, finished⟩
    | opens =>
        exact ⟨before, (List.getElem?_append_left inBounds).trans foundBefore,
          isPrefix, finished⟩
    | writes writing =>
        simp only [OutgoingMessage.Linked, writing] at linked
        obtain ⟨isStream, -, unfinished, foundUnfinished, notFinished⟩ := linked
        obtain rfl := Option.some.inj (isStream.symm.trans mine)
        obtain rfl := Option.some.inj (foundBefore.symm.trans foundUnfinished)
        refine ⟨_, getElem?_modify_of_found foundBefore _, ?_, ?_⟩
        · exact isPrefix.trans (List.prefix_append _ _)
        · intro ended
          simp [(finished ended).1] at notFinished
    | finishes writing =>
        simp only [OutgoingMessage.Linked, writing] at linked
        obtain rfl := Option.some.inj (linked.1.symm.trans mine)
        refine ⟨_, getElem?_modify_of_found foundBefore _, isPrefix, ?_⟩
        intro ended
        exact ⟨rfl, (finished ended).2⟩
  · refine ⟨before, ?_, isPrefix, finished⟩
    rw [step'.same linked inBounds mine]
    exact foundBefore

/-- A task that the peer's endpoint answers has its whole message in the stream,
which the peer has received to its end or found too long. -/
theorem SendingStep.linked (step' : SendingStep wire state sending phase outgoing)
    (linked : sending.Linked wire state.outgoing state.peer.streams)
    (received : ∀ (stream : Nat) (incoming : IncomingStream),
      state.peer.streams[stream]? = some incoming →
      ∃ written, state.outgoing[stream]? = some written ∧
        Received written incoming.toRecvStream)
    (tooLong : ∀ (stream : Nat) (incoming : IncomingStream),
      state.peer.streams[stream]? = some incoming → incoming.stopped = true →
      oneGigabyteInBytes < incoming.received.length) :
    (sending.advance phase).Linked wire outgoing state.peer.streams := by
  cases step' with
  | encodes spawned encoded =>
      simp only [OutgoingMessage.Linked, spawned] at linked
      exact ⟨linked, encoded⟩
  | panics => trivial
  | opens opening =>
      simp only [OutgoingMessage.Linked, opening] at linked
      exact ⟨rfl, ⟨_, List.getElem?_concat_length, linked.2⟩,
        ⟨_, List.getElem?_concat_length, rfl⟩⟩
  | writes writing =>
      simp only [OutgoingMessage.Linked, writing] at linked
      obtain ⟨isStream, ⟨before, found, encoded⟩, unfinished, foundUnfinished, notFinished⟩ :=
        linked
      obtain rfl := Option.some.inj (found.symm.trans foundUnfinished)
      have modified := getElem?_modify_of_found found
      refine ⟨rfl, ⟨_, modified _, ?_⟩, _, modified _, notFinished⟩
      simpa using encoded
  | finishes writing =>
      simp only [OutgoingMessage.Linked, writing] at linked
      obtain ⟨isStream, ⟨before, found, encoded⟩, -⟩ := linked
      exact ⟨isStream, _, getElem?_modify_of_found found _, encoded⟩
  | acknowledged stopping found finished =>
      simp only [OutgoingMessage.Linked, stopping] at linked
      exact ⟨_, linked.1, linked.2, .inl ⟨_, found, finished⟩⟩
  | stoppedByPeer stopping found stopped =>
      simp only [OutgoingMessage.Linked, stopping] at linked
      obtain ⟨written, foundWritten, isPrefix, -⟩ := received _ _ found
      have longer := Nat.lt_of_lt_of_le (tooLong _ _ found stopped) isPrefix.length_le
      exact ⟨_, linked.1, linked.2, .inr ⟨written, foundWritten, longer⟩⟩
  | @fails result inProgress notSent =>
      cases result with
      | sent => exact absurd rfl notSent
      | weClosed | peerClosedOrDied | error => trivial

end SendingSide

/-- Every step of a sending task keeps what the two sides know of each other. -/
theorem Linked.resume (linked : Linked wire state)
    (accounted : Accounted side wire.decode state.peer) {answer : Answer}
    (stepped : resume wire state index answer = some state') : Linked wire state' := by
  obtain ⟨mine, phase, outgoing, foundMine, step', rfl⟩ := resume_cases stepped
  have linkedMine := linked.sending index mine foundMine
  have inBounds := (List.getElem?_eq_some_iff.mp foundMine).1
  -- after the step a message is either mine, advanced, or another one, as it was
  have cases' (other : Nat) (sending : OutgoingMessage S)
      (found : (state.sendings.set index (mine.advance phase))[other]? = some sending) :
      index = other ∧ sending = mine.advance phase ∨
        index ≠ other ∧ state.sendings[other]? = some sending := by
    by_cases equal : index = other
    · subst equal
      exact .inl ⟨rfl, by simpa [inBounds, eq_comm] using found⟩
    · exact .inr ⟨equal, by simpa [equal] using found⟩
  have notShared (other : Nat) (sending : OutgoingMessage S) (stream : Nat)
      (different : index ≠ other) (found : state.sendings[other]? = some sending)
      (isStream : sending.stream = some stream) : mine.stream ≠ some stream := by
    intro isMine
    exact different (linked.distinct index other mine sending stream foundMine found
      isMine isStream)
  exact
    { sending := by
        intro other sending found
        obtain ⟨-, rfl⟩ | ⟨different, foundOther⟩ := cases' other sending found
        · exact step'.linked linkedMine linked.received fun stream incoming foundIncoming =>
            (accounted.sound stream incoming foundIncoming).stopped
        · refine (linked.sending other sending foundOther).congr ?_ fun _ received => received
          intro stream isStream
          exact step'.same linkedMine
            (linked.opened other sending stream foundOther isStream)
            (notShared other sending stream different foundOther isStream)
      result := by
        intro other sending found
        obtain ⟨-, rfl⟩ | ⟨-, foundOther⟩ := cases' other sending found
        · rw [mine.advance_result, linked.result index mine foundMine, step'.inProgress,
            mine.advance_phase]
        · exact linked.result other sending foundOther
      opened := by
        intro other sending stream found isStream
        obtain ⟨-, rfl⟩ | ⟨-, foundOther⟩ := cases' other sending found
        · rcases step'.stream linkedMine isStream with isMine | ⟨-, longer⟩
          · exact Nat.lt_of_lt_of_le (linked.opened index mine stream foundMine isMine)
              step'.length_le
          · exact longer ▸ Nat.lt_succ_self stream
        · exact Nat.lt_of_lt_of_le (linked.opened other sending stream foundOther isStream)
            step'.length_le
      distinct := by
        intro first second one other stream foundOne foundOther isOne isOther
        have notMine (position : Nat) (sending : OutgoingMessage S)
            (different : index ≠ position)
            (found : state.sendings[position]? = some sending)
            (isStream : sending.stream = some stream)
            (isMine : (mine.advance phase).stream = some stream) : False := by
          rcases step'.stream linkedMine isMine with old | ⟨isNew, -⟩
          · exact notShared position sending stream different found isStream old
          · exact absurd (linked.opened position sending stream found isStream)
              (isNew ▸ Nat.lt_irrefl _)
        obtain ⟨rfl, rfl⟩ | ⟨differentOne, foundOne⟩ := cases' first one foundOne
        · obtain ⟨rfl, -⟩ | ⟨different, foundOther⟩ := cases' second other foundOther
          · rfl
          · exact (notMine second other different foundOther isOther isOne).elim
        · obtain ⟨rfl, rfl⟩ | ⟨-, foundOther⟩ := cases' second other foundOther
          · exact (notMine first one differentOne foundOne isOne isOther).elim
          · exact linked.distinct first second one other stream foundOne foundOther
              isOne isOther
      windowed := step'.windowed linked.windowed
      received := fun stream incoming found =>
        step'.received linkedMine (linked.received stream incoming found) }

/-! ## Steps of the peer -/

section Peer

variable {peer : Receiving.State Event} {action : Receiving.Action}

/-- A stream received to its end stays so. -/
theorem fullyReceived_step
    (stepped : Receiving.step side wire.decode state.peer action = some peer)
    {stream : Nat} (received : FullyReceived state.peer.streams stream) :
    FullyReceived peer.streams stream := by
  obtain ⟨incoming, found, finished⟩ := received
  obtain ⟨after, foundAfter, streamStep⟩ := step_stream stepped found
  refine ⟨after, foundAfter, ?_⟩
  generalize after.toRecvStream = received at streamStep ⊢
  cases streamStep with
  | same => exact finished
  | deliver _ ending | finish ending | resetStream _ ending =>
      simp [finished] at ending

/-- What the network does keeps what the peer has received a prefix of what was
written. -/
theorem Received.transported {stream : Nat} {outgoing : OutgoingStream}
    {incoming : IncomingStream} {after : RecvStream}
    (received : Received outgoing incoming.toRecvStream)
    (found : state.outgoing[stream]? = some outgoing)
    (foundIncoming : state.peer.streams[stream]? = some incoming)
    (streamStep : StreamStep stream incoming.toRecvStream action after)
    (transported : state.transports action = true) : Received outgoing after := by
  obtain ⟨isPrefix, finished⟩ := received
  cases streamStep with
  | same => exact ⟨isPrefix, finished⟩
  | deliver bytes ending =>
      simp only [State.transports, found, foundIncoming, Option.any_some,
        List.isPrefixOf_iff_prefix] at transported
      refine ⟨?_, fun isFinished => by simp [ending] at isFinished⟩
      obtain ⟨rest, split⟩ := isPrefix
      rw [← split, List.drop_left] at transported
      rw [← split]
      exact (List.prefix_append_right_inj _).mpr transported
  | finish ending =>
      simp only [State.transports, found, foundIncoming, Option.any_some, Bool.decide_and,
        Bool.decide_eq_true, Bool.and_eq_true, decide_eq_true_eq] at transported
      exact ⟨isPrefix, fun _ => transported⟩
  | resetStream => simp [State.transports] at transported

/-- Every step of the peer or of the network keeps what the two sides know of
each other. -/
theorem Linked.peerStep (linked : Linked wire state)
    (transported : state.transports action = true)
    (stepped : Receiving.step side wire.decode state.peer action = some peer) :
    Linked wire { state with peer := peer } where
  sending := fun index sending found =>
    (linked.sending index sending found).congr (fun _ _ => rfl)
      fun _ received => fullyReceived_step stepped received
  result := linked.result
  opened := linked.opened
  distinct := linked.distinct
  windowed := linked.windowed
  received := by
    intro stream incoming found
    cases foundBefore : state.peer.streams[stream]? with
    | some before =>
        obtain ⟨outgoing, foundOutgoing, received⟩ := linked.received stream before foundBefore
        obtain ⟨after, foundAfter, streamStep⟩ := step_stream stepped foundBefore
        obtain rfl : incoming = after := Option.some.inj (found.symm.trans foundAfter)
        exact ⟨outgoing, foundOutgoing,
          received.transported foundOutgoing foundBefore streamStep transported⟩
    | none =>
        obtain ⟨rfl, rfl, rfl⟩ := step_newStream stepped found foundBefore
        have inBounds : state.peer.streams.length < state.outgoing.length := by
          simpa [State.transports] using transported
        refine ⟨_, List.getElem?_eq_getElem inBounds, List.nil_prefix, ?_⟩
        intro finished
        cases finished

end Peer

/-! ## The invariant holds -/

/-- The peer of a connection is a receiving half, whatever the sending side does. -/
def peerSimulation (side : ReceivingSide R Event) (wire : Wire S R) :
    Simulation (system side wire) System.always
      (Receiving.system side wire.decode) System.always where
  related state peer := state.peer = peer
  init := rfl
  step := by
    intro before peer action after related _ stepped
    cases action with
    | send message =>
        obtain rfl := Option.some.inj stepped
        exact ⟨peer, System.Reaches.refl, related⟩
    | resume index answer =>
        obtain ⟨sending, phase, outgoing, -, -, rfl⟩ := resume_cases stepped
        exact ⟨peer, System.Reaches.refl, related⟩
    | lose cause =>
        simp only [system, Delivery.step, Option.ite_none_right_eq_some,
          Option.some.injEq] at stepped
        obtain ⟨-, rfl⟩ := stepped
        exact ⟨peer, System.Reaches.refl, related⟩
    | peer action =>
        obtain ⟨peer', rfl, -, stepped⟩ := peer_cases stepped
        exact ⟨peer', System.Reaches.single trivial (related ▸ stepped), rfl⟩

theorem peer_reachable (reachable : (system side wire).Reachable state) :
    (Receiving.system side wire.decode).Reachable state.peer := by
  obtain ⟨peer, reached, rfl⟩ := (peerSimulation side wire).reaches reachable
  exact reached

theorem Linked.send (linked : Linked wire state) (message : S) :
    Linked wire { state with sendings := state.sendings ++ [.start message] } := by
  have cases' (index : Nat) (sending : OutgoingMessage S)
      (found : (state.sendings ++ [.start message])[index]? = some sending) :
      state.sendings[index]? = some sending ∨ sending = .start message := by
    rw [List.getElem?_append] at found
    split at found
    · exact .inl found
    · obtain ⟨inBounds, rfl⟩ := List.getElem?_eq_some_iff.mp found
      exact .inr (by simp)
  exact
    { sending := by
        intro index sending found
        obtain old | rfl := cases' index sending found
        · exact linked.sending index sending old
        · rfl
      result := by
        intro index sending found
        obtain old | rfl := cases' index sending found
        · exact linked.result index sending old
        · rfl
      opened := by
        intro index sending stream found isStream
        obtain old | rfl := cases' index sending found
        · exact linked.opened index sending stream old isStream
        · cases isStream
      distinct := by
        intro first second one other stream foundOne foundOther isOne isOther
        obtain oldOne | rfl := cases' first one foundOne
        · obtain oldOther | rfl := cases' second other foundOther
          · exact linked.distinct first second one other stream oldOne oldOther isOne isOther
          · cases isOther
        · cases isOne
      windowed := linked.windowed
      received := linked.received }

theorem linked_of_reachable (reachable : (system side wire).Reachable state) :
    Linked wire state := by
  refine reachable.invariant (Linked wire) established_linked ?_
  intro before action after reachableBefore linked stepped
  cases action with
  | send message =>
      obtain rfl := Option.some.inj stepped
      exact linked.send message
  | resume index answer =>
      exact linked.resume (accounted_of_reachable (peer_reachable reachableBefore)) stepped
  | lose cause =>
      simp only [system, step, Option.ite_none_right_eq_some, Option.some.injEq] at stepped
      obtain ⟨-, rfl⟩ := stepped
      exact { linked with }
  | peer action =>
      obtain ⟨peer, rfl, transported, stepped⟩ := peer_cases stepped
      exact linked.peerStep transported stepped

end Warqueen.Delivery
