import Warqueen.Delivery.Progress
import Warqueen.Delivery.Unordered
import Warqueen.Sending.Rest

/-!
# Every message arrives

A course of a direction is any sequence of its states in which each state reaches the
next and nobody on whom a message depends is passed over for ever.  As long as the
connection stays up in it and the application holds its queue, whatever has been given by
some time is answered and polled some time later.
-/

namespace Warqueen.Delivery

open Concurrency Quinn Receiving Sending

variable {S R Event : Type} {side : ReceivingSide R Event} {wire : Wire S R}
variable {state state' : State S Event} {action : Action S} {index stream : Nat}

/-! ## What stays -/

/-- A message stays what it is, its task keeps its stream, and a task that is over stays
so. -/
theorem step_sending (linked : Linked wire state) {sending : OutgoingMessage S}
    (found : state.sendings[index]? = some sending)
    (stepped : step side wire state action = some state') :
    ∃ after, state'.sendings[index]? = some after ∧ after.message = sending.message ∧
      (∀ stream, sending.stream = some stream → after.stream = some stream) ∧
      (sending.phase.IsOver → after = sending) := by
  have inBounds := (List.getElem?_eq_some_iff.mp found).1
  cases action with
  | send message =>
      obtain rfl := Option.some.inj stepped
      exact ⟨sending, (List.getElem?_append_left inBounds).trans found, rfl, fun _ => id,
        fun _ => rfl⟩
  | resume other answer =>
      obtain ⟨mine, phase, outgoing, foundMine, step', rfl⟩ := resume_cases stepped
      by_cases isMine : other = index
      · subst isMine
        obtain rfl := Option.some.inj (found.symm.trans foundMine)
        have linkedMine := linked.sending other sending found
        refine ⟨sending.advance phase, List.getElem?_set_self inBounds, rfl, ?_, ?_⟩
        · intro stream isStream
          apply OutgoingMessage.advance_stream phase isStream
          intro writes rest writing
          subst writing
          cases step' with
          | opens opening => simp [OutgoingMessage.Linked, opening, isStream] at linkedMine
          | writes writing =>
              simp only [OutgoingMessage.Linked, writing] at linkedMine
              exact Option.some.inj (linkedMine.1.symm.trans isStream)
        · intro isOver
          have inProgress := step'.inProgress
          cases ended : sending.phase with
          | ended | panicked => simp [ended, SendingPhase.settle, Oneshot.channel,
              Oneshot.send, Oneshot.dropSender] at inProgress
          | spawned | opening | writing | stopping =>
              simp [ended, SendingPhase.IsOver] at isOver
      · exact ⟨sending, (List.getElem?_set_ne isMine).trans found, rfl, fun _ => id,
          fun _ => rfl⟩
  | lose cause =>
      simp only [step, Option.ite_none_right_eq_some, Option.some.injEq] at stepped
      obtain ⟨-, rfl⟩ := stepped
      exact ⟨sending, found, rfl, fun _ => id, fun _ => rfl⟩
  | peer label =>
      obtain ⟨peer, rfl, -, -⟩ := peer_cases stepped
      exact ⟨sending, found, rfl, fun _ => id, fun _ => rfl⟩

/-- A stream that is whole and read stays as it is. -/
theorem step_whole {peer peer' : Receiving.State Event} {label : Receiving.Action}
    {incoming : IncomingStream} (found : peer.streams[stream]? = some incoming)
    (finished : incoming.ending = .finished) {result : Except ReadToEndError (List UInt8)}
    (ended : incoming.reader = .ended result)
    (stepped : Receiving.step side wire.decode peer label = some peer') :
    peer'.streams[stream]? = some incoming := by
  have untouched {other : Nat} {update : IncomingStream → IncomingStream}
      (different : other ≠ stream) :
      (peer.updateStream other update).streams[stream]? = some incoming := by
    simp [State.updateStream_streams, different, found]
  cases label with
  | acceptUni =>
      obtain ⟨-, ⟨next, isNext, rfl⟩ | ⟨error, task, -, -, -, rfl⟩⟩ := acceptUni_cases stepped
      · obtain ⟨waiting, foundWaiting, notSpawned⟩ := State.nextStream_eq_some isNext
        apply untouched
        intro same
        subst same
        obtain rfl := Option.some.inj (found.symm.trans foundWaiting)
        simp [ended] at notSpawned
      · exact found
  | read reader =>
      obtain ⟨read, result, foundRead, reading, -, rfl⟩ := read_cases stepped
      apply untouched
      intro same
      subst same
      obtain rfl := Option.some.inj (found.symm.trans foundRead)
      simp [ended] at reading
  | deliver other | finish other | resetStream other =>
      obtain ⟨-, ⟨touched, foundTouched, isOpen⟩, rfl⟩ :=
        State.onOpenStream_eq_some.mp stepped
      apply untouched
      intro same
      subst same
      obtain rfl := Option.some.inj (found.symm.trans foundTouched)
      simp [finished] at isOpen
  | openStream =>
      simp only [Receiving.step, Option.ite_none_right_eq_some, Option.some.injEq] at stepped
      obtain ⟨-, rfl⟩ := stepped
      exact (List.getElem?_append_left (List.getElem?_eq_some_iff.mp found).1).trans found
  | spawn | lose | poll | dropReceiver =>
      simp only [Receiving.step, Option.ite_none_right_eq_some, Option.some.injEq] at stepped
      obtain ⟨-, rfl⟩ := stepped
      exact found

/-! ## Arrived -/

/-- The task of the message is over, and what the peer can read of it has been answered
with `SendingResult::Sent` and read. -/
def State.Arrived (wire : Wire S R) (index : Nat) (state : State S Event) : Prop :=
  ∃ sending, state.sendings[index]? = some sending ∧ sending.phase.IsOver ∧
    ∀ received, wire.transfer sending.message = some received →
      sending.phase = .ended .sent ∧ ReadByPeer wire state.peer.streams sending received

theorem ReadByPeer.step {sending : OutgoingMessage S} {received : R}
    (read : ReadByPeer wire state.peer.streams sending received)
    (stepped : step side wire state action = some state') :
    ReadByPeer wire state'.peer.streams sending received := by
  obtain ⟨stream, incoming, isStream, found, good, ended⟩ := read
  refine ⟨stream, incoming, isStream, ?_, good, ended⟩
  have finished := (Option.ite_none_right_eq_some.mp good).1.1
  cases action with
  | send | lose =>
      simp only [Delivery.step, Option.ite_none_right_eq_some, Option.some.injEq] at stepped
      obtain ⟨-, rfl⟩ := stepped
      exact found
  | resume other answer =>
      obtain ⟨mine, phase, outgoing, -, -, rfl⟩ := resume_cases stepped
      exact found
  | peer label =>
      obtain ⟨peer, rfl, -, stepped⟩ := peer_cases stepped
      exact step_whole found finished ended stepped

/-- What has arrived stays there. -/
theorem State.Arrived.step (arrived : state.Arrived wire index) (linked : Linked wire state)
    (stepped : Delivery.step side wire state action = some state') :
    state'.Arrived wire index := by
  obtain ⟨sending, found, isOver, read⟩ := arrived
  obtain ⟨after, foundAfter, -, -, same⟩ := step_sending linked found stepped
  obtain rfl := same isOver
  exact ⟨after, foundAfter, isOver, fun received transferred =>
    ⟨(read received transferred).1, (read received transferred).2.step stepped⟩⟩

theorem State.Arrived.reaches (arrived : state.Arrived wire index)
    (reachable : (system side wire).Reachable state)
    (reached : (system side wire).Reaches System.always state state') :
    state'.Arrived wire index := by
  refine reached.invariant (State.Arrived wire index) arrived ?_
  intro before action after reachedBefore arrived _ stepped
  exact arrived.step (linked_of_reachable (reachable.reaches reachedBefore)) stepped

theorem arrived_of_over (reachable : (system side wire).Reachable state)
    (up : state.closed = none) {sending : OutgoingMessage S}
    (found : state.sendings[index]? = some sending) (isOver : sending.phase.IsOver)
    (read : ∀ stream incoming, sending.stream = some stream →
      state.peer.streams[stream]? = some incoming → incoming.ending = .finished →
      ∃ result, incoming.reader = .ended result) :
    state.Arrived wire index := by
  have linked := linked_of_reachable reachable
  have accounted := accounted_of_reachable (peer_reachable reachable)
  refine ⟨sending, found, isOver, ?_⟩
  intro received transferred
  have cases' : sending.phase = .panicked ∨ ∃ result, sending.phase = .ended result := by
    cases phase : sending.phase with
    | ended result => exact .inr ⟨result, rfl⟩
    | panicked => exact .inl rfl
    | spawned | opening | writing | stopping => simp [phase, SendingPhase.IsOver] at isOver
  have sent := sent_of_over reachable up found cases' transferred
  obtain ⟨stream, incoming, isStream, foundIncoming, good⟩ :=
    linked.received_of_sent found sent transferred
  have complete := (Option.ite_none_right_eq_some.mp good).1
  obtain ⟨result, ended⟩ := read stream incoming isStream foundIncoming complete.1
  have explained := (accounted.sound stream incoming foundIncoming).explained result ended
  refine ⟨sent, stream, incoming, isStream, foundIncoming, good, ?_⟩
  simp only [Explains] at explained
  split at explained
  · rw [ended, explained.2]
  · have finished := complete.1
    simp [explained.1.1] at finished
  · exact absurd complete explained.1

/-! ## Courses -/

/-- The party takes a step, which leads to the same direction as it is seen from
outside. -/
def Acts (side : ReceivingSide R Event) (wire : Wire S R) (party : Party)
    (before after : State S Event) : Prop :=
  ∃ action middle, action.party = some party ∧
    step side wire before action = some middle ∧ middle.forgetStreams = after.forgetStreams

/-- A sequence of states of a direction in which no party is passed over. -/
structure Course (side : ReceivingSide R Event) (wire : Wire S R) where
  state : Nat → State S Event
  begins : (system side wire).Reachable (state 0)
  follows : ∀ place,
    (system side wire).Reaches System.always (state place) (state (place + 1))
  fair : NoneIsPassedOver state (Idle side wire) (Acts side wire)

namespace Course

variable (course : Course side wire) {place later : Nat}

theorem reaches (order : place ≤ later) :
    (system side wire).Reaches System.always (course.state place) (course.state later) := by
  induction order with
  | refl => exact System.Reaches.refl
  | step _ inductionHypothesis => exact inductionHypothesis.trans (course.follows _)

theorem reachable (place : Nat) : (system side wire).Reachable (course.state place) :=
  course.begins.reaches (course.reaches (Nat.zero_le place))

/-- From this place on, the connection is up on both sides. -/
def UpFrom (place : Nat) : Prop :=
  ∀ later, place ≤ later →
    (course.state later).closed = none ∧ (course.state later).peer.closed = none

end Course

/-- None of the party's steps is enabled, as the direction is seen from outside. -/
def IdleOutside (side : ReceivingSide R Event) (wire : Wire S R) (party : Party)
    (state : State S Event) : Prop :=
  (outside side wire).Stuck (fun action => action.party = some party) state

/-- The party takes a step, as the direction is seen from outside. -/
def ActsOutside (side : ReceivingSide R Event) (wire : Wire S R) (party : Party)
    (before after : State S Event) : Prop :=
  ∃ action, action.party = some party ∧ (outside side wire).step before action = some after

/-- What is seen of a direction from outside, when nobody is passed over, is a course. -/
theorem exists_course (seen : Nat → State S Event)
    (reachable : (system side wire).Reachable state)
    (begins : seen 0 = state.forgetStreams)
    (follows : ∀ place,
      (outside side wire).Reaches System.always (seen place) (seen (place + 1)))
    (fair : NoneIsPassedOver seen (IdleOutside side wire) (ActsOutside side wire)) :
    ∃ course : Course side wire, ∀ place, seen place = (course.state place).forgetStreams := by
  have always (place : Nat) : (outside side wire).Reaches (fun _ _ => True)
      (seen place) (seen (place + 1)) := (follows place).mono fun _ _ _ => trivial
  obtain ⟨spec, same, holds⟩ :=
    (outsideSimulation side wire fun _ => True).exists_sequence always begins
  have isSeen (place : Nat) : seen place = (spec place).forgetStreams := (holds place).1
  refine ⟨⟨spec, same ▸ reachable, fun place => (holds place).2.always, ?_⟩, isSeen⟩
  intro party place
  obtain ⟨later, order, turn⟩ := fair party place
  refine ⟨later, order, ?_⟩
  rw [isSeen later, isSeen (later + 1)] at turn
  rcases turn with idle | ⟨action, isParty, stepped⟩
  · left
    intro action isParty
    have stuck := idle action isParty
    simp only [outside, step_forgetStreams, Option.map_eq_none_iff] at stuck
    exact stuck
  · right
    simp only [outside, step_forgetStreams] at stepped
    obtain ⟨middle, steps, forgotten⟩ := Option.map_eq_some_iff.mp stepped
    exact ⟨action, middle, isParty, steps, forgotten⟩

/-! ## A message gets its stream -/

/-- How many steps a sending task takes until it has its stream. -/
def openingsLeft : SendingPhase → Nat
  | .spawned => 2
  | .opening _ => 1
  | .writing _ _ | .stopping _ | .ended _ | .panicked => 0

/-- How many steps the task of the message takes until it has its stream. -/
def State.openingsLeft (state : State S Event) (index : Nat) : Nat :=
  ((state.sendings[index]?).map (Delivery.openingsLeft ·.phase)).getD 0

theorem resume_openingsLeft {message : S} {phase phase' : SendingPhase} {answer : Answer}
    (resumed : phase.resume wire.encode message answer = some phase') :
    openingsLeft phase' ≤ openingsLeft phase ∧
      (0 < openingsLeft phase → openingsLeft phase' < openingsLeft phase) := by
  simp only [SendingPhase.resume] at resumed
  split at resumed
  next =>
    split at resumed <;> obtain rfl := Option.some.inj resumed <;> simp [openingsLeft]
  next =>
    obtain rfl := Option.some.inj resumed
    simp [openingsLeft]
  next =>
    obtain rfl := Option.some.inj resumed
    simp [openingsLeft]
  next =>
    simp only [Option.ite_none_right_eq_some, Option.some.injEq] at resumed
    obtain ⟨-, rfl⟩ := resumed
    simp [openingsLeft]
  next =>
    obtain rfl := Option.some.inj resumed
    simp [openingsLeft]
  next =>
    simp only [Option.ite_none_right_eq_some, Option.some.injEq] at resumed
    obtain ⟨-, rfl⟩ := resumed
    simp [openingsLeft]
  next =>
    obtain rfl := Option.some.inj resumed
    simp [openingsLeft]
  next =>
    obtain rfl := Option.some.inj resumed
    simp [openingsLeft]
  next => cases resumed

/-- No step makes the opening of a stream take longer, and those of its task make it take
less. -/
theorem step_openingsLeft {sending : OutgoingMessage S}
    (found : state.sendings[index]? = some sending)
    (stepped : step side wire state action = some state') :
    state'.openingsLeft index ≤ state.openingsLeft index ∧
      (action.party = some (.sendingTask index) → 0 < state.openingsLeft index →
        state'.openingsLeft index < state.openingsLeft index) := by
  have inBounds := (List.getElem?_eq_some_iff.mp found).1
  cases action with
  | send message =>
      obtain rfl := Option.some.inj stepped
      refine ⟨?_, fun impossible => by cases impossible⟩
      simp only [State.openingsLeft, List.getElem?_append_left inBounds, Nat.le_refl]
  | resume other answer =>
      obtain ⟨mine, phase, foundMine, -, -, resumed, rfl⟩ := resume_eq_some stepped
      by_cases isMine : other = index
      · subst isMine
        obtain ⟨notMore, fewer⟩ := resume_openingsLeft resumed
        simp only [State.openingsLeft, List.getElem?_set_self inBounds, foundMine,
          Option.map_some, Option.getD_some, OutgoingMessage.advance_phase]
        exact ⟨notMore, fun _ => fewer⟩
      · simp only [State.openingsLeft, List.getElem?_set_ne isMine, Action.party,
          Option.some.injEq, Party.sendingTask.injEq, isMine, Nat.le_refl, false_implies,
          and_self]
  | lose cause =>
      simp only [step, Option.ite_none_right_eq_some, Option.some.injEq] at stepped
      obtain ⟨-, rfl⟩ := stepped
      exact ⟨Nat.le_refl _, fun impossible => by cases impossible⟩
  | peer label =>
      obtain ⟨peer, rfl, -, -⟩ := peer_cases stepped
      have notTask : (Action.peer label : Action S).party ≠ some (.sendingTask index) := by
        cases label with
        | deliver stream bytes => cases bytes <;> simp [Action.party]
        | _ => simp [Action.party]
      exact ⟨Nat.le_refl _, fun isTask => absurd isTask notTask⟩

/-- What becomes of a message in a run. -/
theorem reaches_sending (reachable : (system side wire).Reachable state)
    {sending : OutgoingMessage S} (found : state.sendings[index]? = some sending)
    (reached : (system side wire).Reaches System.always state state') :
    ∃ after, state'.sendings[index]? = some after ∧ after.message = sending.message ∧
      ∀ stream, sending.stream = some stream → after.stream = some stream := by
  refine reached.invariant (fun later => ∃ after, later.sendings[index]? = some after ∧
    after.message = sending.message ∧
    ∀ stream, sending.stream = some stream → after.stream = some stream)
    ⟨sending, found, rfl, fun _ => id⟩ ?_
  intro before action after reachedBefore ⟨middle, foundMiddle, message, kept⟩ _ stepped
  obtain ⟨last, foundLast, message', kept', -⟩ := step_sending
    (linked_of_reachable (reachable.reaches reachedBefore)) foundMiddle stepped
  exact ⟨last, foundLast, message'.trans message, fun stream isStream =>
    kept' stream (kept stream isStream)⟩

theorem reaches_openingsLeft (reachable : (system side wire).Reachable state)
    {sending : OutgoingMessage S} (found : state.sendings[index]? = some sending)
    (reached : (system side wire).Reaches System.always state state') :
    state'.openingsLeft index ≤ state.openingsLeft index := by
  refine reached.invariant
    (fun later => later.openingsLeft index ≤ state.openingsLeft index) (Nat.le_refl _) ?_
  intro before action after reachedBefore notMore _ stepped
  obtain ⟨sending', found', -, -⟩ := reaches_sending reachable found reachedBefore
  exact Nat.le_trans (step_openingsLeft found' stepped).1 notMore

theorem openingsLeft_forgetStreams :
    state.forgetStreams.openingsLeft index = state.openingsLeft index := by
  simp only [State.openingsLeft, State.forgetStreams, List.getElem?_map, Option.map_map]
  rfl

/-- A task that has no stream yet. -/
theorem unopened_of_openingsLeft {sending : OutgoingMessage S}
    (found : state.sendings[index]? = some sending) (left : state.openingsLeft index ≠ 0) :
    sending.phase = .spawned ∨ ∃ messageRaw, sending.phase = .opening messageRaw := by
  simp only [State.openingsLeft, found, Option.map_some, Option.getD_some] at left
  cases phase : sending.phase with
  | spawned => exact .inl rfl
  | opening messageRaw => exact .inr ⟨messageRaw, rfl⟩
  | writing | stopping | ended | panicked => simp [phase, openingsLeft] at left

namespace Course

variable (course : Course side wire) {place later : Nat}

/-- The task of every message comes to have a stream, or is over before. -/
theorem exists_opened (upFrom : course.UpFrom place) {sending : OutgoingMessage S}
    (found : (course.state place).sendings[index]? = some sending) :
    ∃ later, place ≤ later ∧ (course.state later).openingsLeft index = 0 := by
  have helped (later : Nat) (order : place ≤ later) :
      (course.state later).openingsLeft index = 0 ∨
        Helped (Idle side wire) (Acts side wire) (State.openingsLeft · index)
          (State.openingsLeft · index) (fun _ => .sendingTask index) (course.state later)
          (course.state (later + 1)) := by
    by_cases none : (course.state later).openingsLeft index = 0
    · exact .inl none
    · right
      have reachable := course.reachable later
      obtain ⟨after, foundAfter, -, -⟩ :=
        reaches_sending (course.reachable place) found (course.reaches order)
      apply helped_of_le
      · exact reaches_openingsLeft reachable foundAfter (course.follows later)
      · intro ⟨action, middle, isTask, stepped, seen⟩
        have fewer := (step_openingsLeft foundAfter stepped).2 isTask (Nat.pos_of_ne_zero none)
        rw [← openingsLeft_forgetStreams, seen, openingsLeft_forgetStreams] at fewer
        exact fewer
      · exact not_idle_of_unopened (upFrom later order).1 foundAfter
          (unopened_of_openingsLeft foundAfter none)
  exact exists_of_helped (fun state => state.openingsLeft index = 0) course.fair helped

end Course

/-! ## A message with a stream gets through -/

/-- A connection that is up after a step was up before it. -/
theorem step_wasUp (stepped : step side wire state action = some state')
    (up : state'.closed = none) (peerUp : state'.peer.closed = none) :
    state.closed = none ∧ state.peer.closed = none := by
  cases action with
  | send message =>
      obtain rfl := Option.some.inj stepped
      exact ⟨up, peerUp⟩
  | resume other answer =>
      obtain ⟨mine, phase, outgoing, -, -, rfl⟩ := resume_cases stepped
      exact ⟨up, peerUp⟩
  | lose cause =>
      simp only [step, Option.ite_none_right_eq_some, Option.some.injEq] at stepped
      obtain ⟨-, rfl⟩ := stepped
      cases up
  | peer label =>
      obtain ⟨peer, rfl, -, stepped⟩ := peer_cases stepped
      refine ⟨up, ?_⟩
      cases closed : state.peer.closed with
      | none => rfl
      | some cause =>
          have stays := (step_of_closed closed stepped).1
          cases stays.symm.trans peerUp

/-- No run sets a message back, as long as the connection stays up. -/
theorem reaches_settles (reachable : (system side wire).Reachable state)
    {sending : OutgoingMessage S} (found : state.sendings[index]? = some sending)
    (isStream : sending.stream = some stream)
    (reached : (system side wire).Reaches System.always state state')
    (up : state'.closed = none) (peerUp : state'.peer.closed = none) :
    state'.wayLeft index stream < state.wayLeft index stream ∨
      state'.wayLeft index stream ≤ state.wayLeft index stream ∧
        state'.situation index stream = state.situation index stream := by
  refine reached.invariant (fun later => later.closed = none → later.peer.closed = none →
    later.wayLeft index stream < state.wayLeft index stream ∨
      later.wayLeft index stream ≤ state.wayLeft index stream ∧
        later.situation index stream = state.situation index stream)
    (fun _ _ => .inr ⟨Nat.le_refl _, rfl⟩) ?_ up peerUp
  intro before action after reachedBefore settled _ stepped upAfter peerUpAfter
  obtain ⟨sending', found', -, kept⟩ := reaches_sending reachable found reachedBefore
  obtain ⟨upBefore, peerUpBefore⟩ := step_wasUp stepped upAfter peerUpAfter
  have settles := step_settles (linked_of_reachable (reachable.reaches reachedBefore)) found'
    (kept stream isStream) upAfter peerUpAfter stepped
  rcases settled upBefore peerUpBefore with less | ⟨notMore, same⟩
  · rcases settles with less' | ⟨notMore', -, -⟩
    · exact .inl (Nat.lt_trans less' less)
    · exact .inl (Nat.lt_of_le_of_lt notMore' less)
  · rcases settles with less' | ⟨notMore', same', -⟩
    · exact .inl (Nat.lt_of_lt_of_le less' notMore)
    · exact .inr ⟨Nat.le_trans notMore' notMore, same'.trans same⟩

theorem situation_forgetStreams :
    state.forgetStreams.situation index stream = state.situation index stream := by
  simp only [State.situation, State.forgetStreams, List.getElem?_map, Option.map_map]
  rfl

theorem wayLeft_forgetStreams :
    state.forgetStreams.wayLeft index stream = state.wayLeft index stream := by
  simp only [State.wayLeft, situation_forgetStreams]
  rfl

namespace Course

variable (course : Course side wire) {place later : Nat}

/-- A message that has its stream is done some time. -/
theorem exists_done (upFrom : course.UpFrom place) {sending : OutgoingMessage S}
    (found : (course.state place).sendings[index]? = some sending)
    (isStream : sending.stream = some stream) :
    ∃ later, place ≤ later ∧ ((course.state later).situation index stream).Done := by
  have helped (later : Nat) (order : place ≤ later) :
      ((course.state later).situation index stream).Done ∨
        Helped (Idle side wire) (Acts side wire) (State.wayLeft · index stream)
          (State.situation · index stream) (Situation.helper index stream)
          (course.state later) (course.state (later + 1)) := by
    by_cases done : ((course.state later).situation index stream).Done
    · exact .inl done
    · right
      have reachable := course.reachable later
      obtain ⟨after, foundAfter, -, kept⟩ :=
        reaches_sending (course.reachable place) found (course.reaches order)
      have keeps := kept stream isStream
      obtain ⟨up, peerUp⟩ := upFrom later order
      obtain ⟨upNext, peerUpNext⟩ := upFrom (later + 1) (Nat.le_succ_of_le order)
      constructor
      · exact reaches_settles reachable foundAfter keeps (course.follows later) upNext
          peerUpNext
      · intro ⟨action, middle, isHelper, stepped, seen⟩
        have upMiddle : middle.closed = none :=
          (congrArg State.closed seen).trans upNext
        have peerUpMiddle : middle.peer.closed = none :=
          (congrArg (fun state : State S Event => state.peer.closed) seen).trans peerUpNext
        rcases step_settles (linked_of_reachable reachable) foundAfter keeps upMiddle
          peerUpMiddle stepped with less | ⟨-, -, notHelper⟩
        · rw [← wayLeft_forgetStreams, seen, wayLeft_forgetStreams] at less
          exact less
        · exact absurd isHelper notHelper
      · exact not_idle_of_helps reachable up peerUp foundAfter keeps done
  exact exists_of_helped (fun state => (state.situation index stream).Done) course.fair helped

/-- Every message arrives some time. -/
theorem exists_arrived (upFrom : course.UpFrom place) {sending : OutgoingMessage S}
    (found : (course.state place).sendings[index]? = some sending) :
    ∃ later, place ≤ later ∧ (course.state later).Arrived wire index := by
  obtain ⟨point, order, opened⟩ := course.exists_opened upFrom found
  have reachable := course.reachable point
  obtain ⟨after, foundAfter, -, -⟩ :=
    reaches_sending (course.reachable place) found (course.reaches order)
  have upFromPoint : course.UpFrom point :=
    fun later after => upFrom later (Nat.le_trans order after)
  have linkedMine := (linked_of_reachable reachable).sending index after foundAfter
  -- A task that is over without a stream has nothing to deliver.
  cases isStream : after.stream with
  | none =>
      refine ⟨point, order, arrived_of_over reachable (upFrom point order).1 foundAfter ?_ ?_⟩
      · cases phase : after.phase with
        | spawned | opening =>
            simp [State.openingsLeft, foundAfter, phase, openingsLeft] at opened
        | writing | stopping => simp [OutgoingMessage.Linked, phase, isStream] at linkedMine
        | ended | panicked => trivial
      · intro stream incoming impossible
        simp [isStream] at impossible
  | some stream =>
      obtain ⟨later, order', done⟩ := course.exists_done upFromPoint foundAfter isStream
      obtain ⟨last, foundLast, -, kept⟩ :=
        reaches_sending reachable foundAfter (course.reaches order')
      refine ⟨later, Nat.le_trans order order', arrived_of_over (course.reachable later)
        (upFromPoint later order').1 foundLast ?_ ?_⟩
      · have isOver := done.1
        simp only [Situation.isOver, State.situation, foundLast, Option.map_some] at isOver
        cases phase : last.phase with
        | spawned | opening | writing | stopping => simp [phase] at isOver
        | ended | panicked => trivial
      · intro other incoming isOther foundIncoming finished
        obtain rfl := Option.some.inj ((kept stream isStream).symm.trans isOther)
        exact done.2 incoming foundIncoming finished

/-- All the messages given by some time have arrived some time later. -/
theorem exists_all_arrived (upFrom : course.UpFrom place) :
    ∃ later, place ≤ later ∧ ∀ index, index < (course.state place).sendings.length →
      (course.state later).Arrived wire index := by
  apply exists_all course.state (fun index state => state.Arrived wire index)
  · intro index point arrived
    exact arrived.reaches (course.reachable point) (course.follows point)
  · intro index below
    exact course.exists_arrived upFrom (List.getElem?_eq_getElem below)

end Course

/-! ## What has arrived is polled -/

/-- The queue goes on: nothing that was sent or taken is undone. -/
def GoesOn (before after : Mpsc (Source × Event)) : Prop :=
  before.sent <+: after.sent ∧ before.received ≤ after.received

theorem goesOn_of_queueStep {before after : Mpsc (Source × Event)} {label : Receiving.Action}
    (stepped : QueueStep label before after) : GoesOn before after := by
  cases stepped with
  | same unchanged =>
      subst unchanged
      exact ⟨List.prefix_rfl, Nat.le_refl _⟩
  | sends entry sent =>
      subst sent
      simp only [GoesOn, Mpsc.send]
      split
      · exact ⟨List.prefix_append _ _, Nat.le_refl _⟩
      · exact ⟨List.prefix_rfl, Nat.le_refl _⟩
  | polls isPoll polled =>
      subst polled
      simp only [GoesOn, Mpsc.tryRecv]
      split
      · exact ⟨List.prefix_rfl, Nat.le_succ _⟩
      · exact ⟨List.prefix_rfl, Nat.le_refl _⟩
  | drops isDrop dropped =>
      subst dropped
      exact ⟨List.prefix_rfl, Nat.le_refl _⟩

theorem step_goesOn (stepped : step side wire state action = some state') :
    GoesOn state.peer.events state'.peer.events := by
  have same : GoesOn state.peer.events state.peer.events :=
    ⟨List.prefix_rfl, Nat.le_refl _⟩
  cases action with
  | send | lose =>
      simp only [step, Option.ite_none_right_eq_some, Option.some.injEq] at stepped
      obtain ⟨-, rfl⟩ := stepped
      exact same
  | resume other answer =>
      obtain ⟨mine, phase, outgoing, -, -, rfl⟩ := resume_cases stepped
      exact same
  | peer label =>
      obtain ⟨peer, rfl, -, stepped⟩ := peer_cases stepped
      exact goesOn_of_queueStep (step_queue stepped)

theorem reaches_goesOn (reached : (system side wire).Reaches System.always state state') :
    GoesOn state.peer.events state'.peer.events := by
  refine reached.invariant (fun later => GoesOn state.peer.events later.peer.events)
    ⟨List.prefix_rfl, Nat.le_refl _⟩ ?_
  intro before action after _ goesOn _ stepped
  have goesOn' := step_goesOn stepped
  exact ⟨goesOn.1.trans goesOn'.1, Nat.le_trans goesOn.2 goesOn'.2⟩

/-- A poll takes an event that there is. -/
theorem received_of_poll (isPoll : action.party = some .application)
    (more : state.peer.events.received < state.peer.events.sent.length)
    (stepped : step side wire state action = some state') :
    state'.peer.events.received = state.peer.events.received + 1 := by
  obtain ⟨impossible, -⟩ | ⟨-, rfl⟩ := isOwn_of_party isPoll
  · exact absurd rfl impossible
  obtain ⟨peer, rfl, -, polled⟩ := peer_cases stepped
  obtain rfl := Option.some.inj polled
  simp [Mpsc.tryRecv, List.getElem?_eq_getElem more]

/-- What has become of the messages that were given by some time: their handles have their
answers, `SendingResult::Sent` for those that the peer can read, and the application has
polled these, each as often as it was given. -/
structure GotThrough (reads : Payload side) (wire : Wire S R) (start later : State S Event) :
    Prop where
  answered : ∀ (index : Nat) (sending : OutgoingMessage S),
    start.sendings[index]? = some sending → ∃ after, later.sendings[index]? = some after ∧
      getState after.result ≠ .stillBeingSent ∧
      ((wire.transfer sending.message).isSome = true →
        getState after.result = .result .sent)
  polled : (start.transfers wire).Subperm (later.polledMessages reads)

/-- The records of the streams do not matter to it. -/
theorem GotThrough.forgetStreams {reads : Payload side} {start later : State S Event}
    (gotThrough : GotThrough reads wire start later) :
    GotThrough reads wire start.forgetStreams later.forgetStreams := by
  constructor
  · intro index sending found
    simp only [State.forgetStreams, List.getElem?_map] at found ⊢
    obtain ⟨original, foundOriginal, rfl⟩ := Option.map_eq_some_iff.mp found
    obtain ⟨after, foundAfter, answered⟩ := gotThrough.answered index original foundOriginal
    exact ⟨after.forgetStream, by rw [foundAfter, Option.map_some], answered⟩
  · simp only [State.transfers, State.forgetStreams, List.filterMap_map]
    exact gotThrough.polled

/-- The handle of a message that arrived has its answer. -/
theorem State.Arrived.answered (arrived : state.Arrived wire index)
    (linked : Linked wire state) : ∃ sending, state.sendings[index]? = some sending ∧
      getState sending.result ≠ .stillBeingSent ∧
      ((wire.transfer sending.message).isSome = true →
        getState sending.result = .result .sent) := by
  obtain ⟨sending, found, isOver, read⟩ := arrived
  refine ⟨sending, found, ?_, ?_⟩
  · rw [linked.result index sending found, getState_settle]
    cases phase : sending.phase with
    | spawned | opening | writing | stopping => simp [phase, SendingPhase.IsOver] at isOver
    | ended | panicked => simp [SendingPhase.answer]
  · intro readable
    obtain ⟨received, transferred⟩ := Option.isSome_iff_exists.mp readable
    rw [linked.result index sending found, getState_settle, (read received transferred).1]
    rfl

/-- The messages given earlier are the first of those given later. -/
theorem reaches_messages (reachable : (system side wire).Reachable state)
    (reached : (system side wire).Reaches System.always state state') :
    (state'.sendings.take state.sendings.length).map (·.message) =
      state.sendings.map (·.message) := by
  apply List.ext_getElem?
  intro index
  rw [List.getElem?_map, List.getElem?_map, List.getElem?_take]
  cases found : state.sendings[index]? with
  | none =>
      have outOfBounds := List.getElem?_eq_none_iff.mp found
      simp [Nat.not_lt.mpr outOfBounds]
  | some sending =>
      obtain ⟨after, foundAfter, message, -⟩ := reaches_sending reachable found reached
      simp [(List.getElem?_eq_some_iff.mp found).1, foundAfter, message]

namespace Course

variable (course : Course side wire) {place later : Nat}

/-- So many events are polled some time if there are as many. -/
theorem exists_polled (count : Nat)
    (enough : count ≤ (course.state place).peer.events.sent.length) :
    ∃ later, place ≤ later ∧ count ≤ (course.state later).peer.events.received := by
  have helped (later : Nat) (order : place ≤ later) :
      count ≤ (course.state later).peer.events.received ∨
        Helped (Idle side wire) (Acts side wire)
          (fun state => count - state.peer.events.received)
          (fun state => count - state.peer.events.received) (fun _ => .application)
          (course.state later) (course.state (later + 1)) := by
    by_cases polled : count ≤ (course.state later).peer.events.received
    · exact .inl polled
    · right
      have goesOn := reaches_goesOn (course.reaches order)
      have goesOn' := reaches_goesOn (course.follows later)
      have more := Nat.lt_of_lt_of_le (Nat.lt_of_not_le polled)
        (Nat.le_trans enough goesOn.1.length_le)
      apply helped_of_le
      · exact Nat.sub_le_sub_left goesOn'.2 count
      · intro ⟨action, middle, isPoll, stepped, seen⟩
        have taken := received_of_poll isPoll more stepped
        have same := congrArg (fun state : State S Event => state.peer.events) seen
        change middle.peer.events = (course.state (later + 1)).peer.events at same
        rw [same] at taken
        simp only [taken]
        omega
      · intro idle
        have stuck := idle (.peer .poll) rfl
        simp [system, step, State.transports, Receiving.step] at stuck
  exact exists_of_helped (fun state => count ≤ state.peer.events.received) course.fair helped

/-- Whatever has been given by some time has got through some time later, and for good. -/
theorem exists_gotThrough (reads : Payload side) (upFrom : course.UpFrom place)
    (held : ∀ later, place ≤ later →
      (course.state later).peer.events.receiverHeld = true) :
    ∃ point, place ≤ point ∧ ∀ later, point ≤ later →
      GotThrough reads wire (course.state place) (course.state later) := by
  obtain ⟨middle, order, arrived⟩ := course.exists_all_arrived upFrom
  have reachable := course.reachable middle
  have messages := reaches_messages (course.reachable place) (course.reaches order)
  have queued : ((course.state place).transfers wire).Subperm
      ((course.state middle).queuedMessages reads) := by
    have same : (course.state place).transfers wire =
        ((course.state middle).sendings.take (course.state place).sendings.length).filterMap
          fun sending => wire.transfer sending.message := by
      have images := congrArg (List.filterMap wire.transfer) messages
      simp only [List.filterMap_map] at images
      exact images.symm
    rw [same]
    apply subperm_queuedMessages_of_read reads reachable (held middle order)
    intro index sending received below found transferred
    obtain ⟨sending', found', -, read⟩ := arrived index below
    obtain rfl := Option.some.inj (found.symm.trans found')
    exact (read received transferred).2
  obtain ⟨point, order', polled⟩ := course.exists_polled _ (Nat.le_refl
    (course.state middle).peer.events.sent.length)
  refine ⟨point, Nat.le_trans order order', ?_⟩
  intro later after
  have reached := course.reaches (Nat.le_trans order' after)
  constructor
  · intro index sending found
    have arrivedLater := (arrived index (List.getElem?_eq_some_iff.mp found).1).reaches
      reachable reached
    obtain ⟨after', foundAfter, answered, sent⟩ :=
      arrivedLater.answered (linked_of_reachable (course.reachable later))
    obtain ⟨last, foundLast, message, -⟩ := reaches_sending (course.reachable place) found
      ((course.reaches order).trans reached)
    obtain rfl := Option.some.inj (foundAfter.symm.trans foundLast)
    rw [message] at sent
    exact ⟨after', foundAfter, answered, sent⟩
  · have goesOn := reaches_goesOn reached
    have goesOn' := reaches_goesOn (course.reaches after)
    have taken : (course.state middle).peer.events.sent <+:
        (course.state later).peer.events.taken :=
      List.prefix_take_iff.mpr ⟨goesOn.1, Nat.le_trans polled goesOn'.2⟩
    exact queued.trans ((taken.sublist.map Prod.snd).filterMap reads.payload).subperm

end Course

end Warqueen.Delivery
