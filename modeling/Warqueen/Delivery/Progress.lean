import Warqueen.Concurrency.Progress
import Warqueen.Delivery.Outside

/-!
# Messages get through

No step sets a message back, and each step of the one who can help it brings it further.
So as long as none of them is passed over for ever and the connection stays up, every
message gets through, however many others are sent meanwhile.
-/

namespace Warqueen.Delivery

open Concurrency Quinn Receiving Sending

variable {S R Event : Type} {side : ReceivingSide R Event} {wire : Wire S R}
variable {state state' : State S Event} {action : Action S} {index stream : Nat}

/-! ## How far a message has come -/

/-- How many steps a sending task that has its stream can still take, with those that
the network needs for the bytes that are still to be written. -/
def phaseLeft : SendingPhase → Nat
  | .writing _ rest => 2 * rest.length + 2
  | .stopping _ => 1
  | .spawned | .opening _ | .ended _ | .panicked => 0

/-- How many bytes of a stream are written and not delivered. -/
def Situation.undelivered (situation : Situation) : Nat :=
  ((situation.outgoing).map (·.written.length)).getD 0 -
    ((situation.incoming).map (·.received.length)).getD 0

/-- How many steps a situation takes. -/
def Situation.stepsLeft (situation : Situation) : Nat :=
  ((situation.phase).map phaseLeft).getD 0 + situation.undelivered +
    ((situation.incoming).map incomingLeft).getD 3

/-- How many steps it takes until so many streams are opened and accepted. -/
def unaccepted : Nat → List IncomingStream → Nat
  | 0, _ => 0
  | count + 1, [] => 2 + unaccepted count []
  | count + 1, incoming :: rest =>
      (if incoming.reader = .notSpawned then 1 else 0) + unaccepted count rest

/-- How many steps a message has left until it is read and its task is over, those
included that must be taken for the earlier streams. -/
def State.wayLeft (state : State S Event) (index stream : Nat) : Nat :=
  (state.situation index stream).stepsLeft + state.peer.acceptTask.stepsLeft +
    unaccepted (stream + 1) state.peer.streams

/-- A new stream is one that is needed, or it is none of those. -/
theorem unaccepted_concat (count : Nat) (streams : List IncomingStream) :
    unaccepted count (streams ++ [.opened]) < unaccepted count streams ∨
      count ≤ streams.length ∧
        unaccepted count (streams ++ [.opened]) = unaccepted count streams := by
  induction streams generalizing count with
  | nil =>
      cases count with
      | zero => exact .inr ⟨Nat.le_refl 0, rfl⟩
      | succ count =>
          left
          simp [unaccepted, IncomingStream.opened]
  | cons first rest inductionHypothesis =>
      cases count with
      | zero => exact .inr ⟨Nat.zero_le _, rfl⟩
      | succ count =>
          simp only [List.cons_append, unaccepted, List.length_cons]
          rcases inductionHypothesis count with fewer | ⟨order, same⟩
          · left
            omega
          · right
            omega

/-- An update of a stream that does not take back its acceptance. -/
theorem unaccepted_modify {update : IncomingStream → IncomingStream} {changed : Nat}
    {streams : List IncomingStream} {incoming : IncomingStream}
    (found : streams[changed]? = some incoming)
    (stays : (update incoming).reader = .notSpawned → incoming.reader = .notSpawned)
    (count : Nat) :
    unaccepted count (streams.modify changed update) ≤ unaccepted count streams ∧
      (changed < count → incoming.reader = .notSpawned →
        (update incoming).reader ≠ .notSpawned →
          unaccepted count (streams.modify changed update) < unaccepted count streams) := by
  induction streams generalizing changed count with
  | nil => cases found
  | cons first rest inductionHypothesis =>
      cases count with
      | zero => exact ⟨Nat.le_refl 0, fun impossible => by cases impossible⟩
      | succ count =>
          cases changed with
          | zero =>
              obtain rfl := Option.some.inj found
              simp only [List.modify_zero_cons, unaccepted]
              constructor
              · split
                next notSpawned => simp [stays notSpawned]
                next => omega
              · intro _ notSpawned spawned
                simp [notSpawned, spawned]
          | succ changed =>
              have later := inductionHypothesis found count
              simp only [List.modify_succ_cons, unaccepted]
              constructor
              · exact Nat.add_le_add_left later.1 _
              · intro order notSpawned spawned
                exact Nat.add_lt_add_left
                  (later.2 (Nat.lt_of_succ_lt_succ order) notSpawned spawned) _

/-- A step that does not set the message back, and that brings it further if it is one
of its helper's. -/
def Settles (index stream : Nat) (before after : State S Event) (action : Action S) :
    Prop :=
  after.wayLeft index stream < before.wayLeft index stream ∨
    after.wayLeft index stream ≤ before.wayLeft index stream ∧
      after.situation index stream = before.situation index stream ∧
      action.party ≠ some ((before.situation index stream).helper index stream)

/-! ## No step sets it back -/

/-- A step that changes nothing that matters to the message. -/
theorem settles_of_same (situation : state'.situation index stream =
      state.situation index stream)
    (acceptTask : state'.peer.acceptTask = state.peer.acceptTask)
    (streams : unaccepted (stream + 1) state'.peer.streams ≤
      unaccepted (stream + 1) state.peer.streams)
    (notHelper : action.party ≠
      some ((state.situation index stream).helper index stream)) :
    Settles index stream state state' action := by
  refine .inr ⟨?_, situation, notHelper⟩
  simp only [State.wayLeft, situation, acceptTask]
  omega

/-- A step of the peer that changes one stream. -/
theorem settles_updateStream {peer : Receiving.State Event} {label : Receiving.Action}
    {update : IncomingStream → IncomingStream} {changed : Nat} {incoming : IncomingStream}
    (found : state.peer.streams[changed]? = some incoming)
    (stays : (update incoming).reader = .notSpawned → incoming.reader = .notSpawned)
    (streams : peer.streams = state.peer.streams.modify changed update)
    (acceptTask : peer.acceptTask = state.peer.acceptTask)
    (mine : changed = stream → ∀ outgoing, state.outgoing[stream]? = some outgoing →
      outgoing.written.length - (update incoming).received.length +
          incomingLeft (update incoming) <
        outgoing.written.length - incoming.received.length + incomingLeft incoming)
    (opened : stream < state.outgoing.length)
    (other : changed ≠ stream →
      (Action.peer label : Action S).party ≠
          some ((state.situation index stream).helper index stream) ∨
        changed < stream ∧ incoming.reader = .notSpawned ∧
          (update incoming).reader ≠ .notSpawned) :
    Settles index stream state { state with peer := peer } (.peer label) := by
  obtain ⟨notMore, fewer⟩ := unaccepted_modify found stays (stream + 1)
  by_cases isMine : changed = stream
  · subst isMine
    have foundOutgoing := List.getElem?_eq_getElem opened
    have nearer := mine rfl _ foundOutgoing
    left
    simp only [State.wayLeft, State.situation, Situation.stepsLeft, Situation.undelivered,
      streams, acceptTask, found, foundOutgoing, List.getElem?_modify_eq, Option.map_some,
      Option.map_eq_map, Option.getD_some]
    omega
  · have same : State.situation { state with peer := peer } index stream =
        state.situation index stream := by
      simp [State.situation, streams, isMine]
    rcases other isMine with notHelper | ⟨earlier, notSpawned, spawned⟩
    · exact settles_of_same same acceptTask (streams ▸ notMore) notHelper
    · left
      have accepted := fewer (Nat.lt_succ_of_lt earlier) notSpawned spawned
      simp only [State.wayLeft, same, acceptTask, streams]
      omega

/-- The network tells the peer of a new stream. -/
theorem settles_openStream {peer : Receiving.State Event}
    (streams : peer.streams = state.peer.streams ++ [.opened])
    (acceptTask : peer.acceptTask = state.peer.acceptTask) :
    Settles index stream state { state with peer := peer } (.peer .openStream) := by
  rcases unaccepted_concat (stream + 1) state.peer.streams with fewer | ⟨known, same⟩
  · have notMore : (State.situation { state with peer := peer } index stream).stepsLeft ≤
        (state.situation index stream).stepsLeft := by
      simp only [State.situation, Situation.stepsLeft, Situation.undelivered, streams]
      rcases Nat.lt_trichotomy stream state.peer.streams.length with known | new | later
      · simp only [List.getElem?_append_left known, Nat.le_refl]
      · subst new
        simp [incomingLeft, IncomingStream.opened, ReadingTask.stepsLeft]
      · have unknown := List.getElem?_eq_none_iff.mpr (Nat.le_of_lt later)
        have stillUnknown : (state.peer.streams ++ [.opened])[stream]? = none := by
          simpa using Nat.succ_le_of_lt later
        simp [unknown, stillUnknown]
    left
    simp only [State.wayLeft, streams, acceptTask]
    omega
  · refine settles_of_same ?_ acceptTask (by simp only [streams, same, Nat.le_refl]) ?_
    · simp only [State.situation, streams, List.getElem?_append_left known]
    · apply ne_helper
      intro helps
      cases helps with
      | tells unknown =>
          have outOfBounds := List.getElem?_eq_none_iff.mp unknown
          omega

/-- The accept loop takes the first stream that waits for it. -/
theorem nextStream_le {peer : Receiving.State Event} {next : Nat}
    (isNext : peer.nextStream = some next) {incoming : IncomingStream}
    (found : peer.streams[stream]? = some incoming)
    (notSpawned : incoming.reader = .notSpawned) : next ≤ stream := by
  obtain ⟨inBounds, -, earlier⟩ := List.findIdx?_eq_some_iff_getElem.mp isNext
  by_contra later
  obtain ⟨position, rfl⟩ := List.getElem?_eq_some_iff.mp found
  have spawned := earlier stream (Nat.lt_of_not_le later)
  simp [notSpawned] at spawned

/-- A step of the peer settles, as long as the connection stays up. -/
theorem peer_settles {peer : Receiving.State Event} {label : Receiving.Action}
    (opened : stream < state.outgoing.length) (transported : state.transports label = true)
    (stepped : Receiving.step side wire.decode state.peer label = some peer)
    (up : peer.closed = none) :
    Settles index stream state { state with peer := peer } (.peer label) := by
  cases label with
  | spawn =>
      simp only [Receiving.step, Option.ite_none_right_eq_some, Option.some.injEq] at stepped
      obtain ⟨notSpawned, rfl⟩ := stepped
      left
      simp [State.wayLeft, State.situation, notSpawned, AcceptTask.stepsLeft]
  | acceptUni =>
      obtain ⟨-, ⟨next, isNext, rfl⟩ | ⟨error, task, -, closed, -, rfl⟩⟩ :=
        acceptUni_cases stepped
      · obtain ⟨incoming, found, notSpawned⟩ := State.nextStream_eq_some isNext
        refine settles_updateStream found (by simp) rfl rfl ?_ opened ?_
        · intro _ outgoing _
          simp [incomingLeft, notSpawned, ReadingTask.stepsLeft]
        · intro notMine
          by_cases earlier : next < stream
          · exact .inr ⟨earlier, notSpawned, by simp⟩
          · left
            apply ne_helper
            intro helps
            cases helps with
            | accepts foundWaiting waits =>
                have order := nextStream_le isNext foundWaiting waits
                omega
      · simp [closed] at up
  | read reader =>
      obtain ⟨incoming, result, found, reading, -, rfl⟩ := read_cases stepped
      refine settles_updateStream found ?_ rfl rfl ?_ opened ?_
      · simp [IncomingStream.endReading]
      · intro _ outgoing _
        simp [incomingLeft, IncomingStream.endReading, reading, ReadingTask.stepsLeft]
      · exact fun notMine => .inl (ne_helper_of_other notMine (.inr rfl))
  | openStream =>
      simp only [Receiving.step, Option.ite_none_right_eq_some, Option.some.injEq] at stepped
      obtain ⟨-, rfl⟩ := stepped
      exact settles_openStream rfl rfl
  | deliver reader bytes =>
      obtain ⟨-, ⟨incoming, found, -⟩, rfl⟩ := State.onOpenStream_eq_some.mp stepped
      cases bytes with
      | nil =>
          have nothing : (fun stream : IncomingStream =>
              { stream with received := stream.received ++ [] }) = id := by
            funext stream
            rw [List.append_nil]
            rfl
          rw [nothing, Receiving.State.updateStream, List.modify_id]
          exact settles_of_same rfl rfl (Nat.le_refl _) (by simp [Action.party])
      | cons byte bytes =>
          refine settles_updateStream found id rfl rfl ?_ opened ?_
          · intro isMine outgoing foundOutgoing
            subst isMine
            simp only [State.transports, found, foundOutgoing, Option.any_some] at transported
            have bounded := (List.isPrefixOf_iff_prefix.mp transported).length_le
            simp only [List.length_drop, List.length_cons] at bounded
            simp only [incomingLeft, List.length_append, List.length_cons]
            omega
          · exact fun notMine => .inl (ne_helper_of_other notMine (.inl rfl))
  | finish reader =>
      obtain ⟨-, ⟨incoming, found, isOpen⟩, rfl⟩ := State.onOpenStream_eq_some.mp stepped
      refine settles_updateStream found id rfl rfl ?_ opened ?_
      · intro _ outgoing _
        simp [incomingLeft, isOpen]
      · exact fun notMine => .inl (ne_helper_of_other notMine (.inl rfl))
  | resetStream reader code => cases transported
  | lose cause =>
      simp only [Receiving.step, Option.ite_none_right_eq_some, Option.some.injEq] at stepped
      obtain ⟨-, rfl⟩ := stepped
      cases up
  | poll =>
      obtain rfl := Option.some.inj stepped
      refine settles_of_same rfl rfl (Nat.le_refl _) (ne_helper ?_)
      intro helps
      cases helps
  | dropReceiver =>
      obtain rfl := Option.some.inj stepped
      exact settles_of_same rfl rfl (Nat.le_refl _) (by simp [Action.party])

/-- A sending task that goes on brings its own message further. -/
theorem own_resume_settles (linked : Linked wire state) {sending : OutgoingMessage S}
    (found : state.sendings[index]? = some sending)
    (isStream : sending.stream = some stream) {answer : Answer} {phase : SendingPhase}
    (resumed : sending.phase.resume wire.encode sending.message answer = some phase)
    (received : Nat) :
    phaseLeft phase + ((((state.transmit sending.phase answer)[stream]?).map
        (·.written.length)).getD 0 - received) <
      phaseLeft sending.phase +
        (((state.outgoing[stream]?).map (·.written.length)).getD 0 - received) := by
  have linkedMine := linked.sending index sending found
  simp only [SendingPhase.resume] at resumed
  split at resumed
  next spawned => simp [OutgoingMessage.Linked, spawned, isStream] at linkedMine
  next opening => simp [OutgoingMessage.Linked, opening, isStream] at linkedMine
  next opening => simp [OutgoingMessage.Linked, opening, isStream] at linkedMine
  next other rest written writing =>
    simp only [OutgoingMessage.Linked, writing] at linkedMine
    obtain ⟨isOther, ⟨outgoing, foundOutgoing, -⟩, -⟩ := linkedMine
    obtain rfl := Option.some.inj (isStream.symm.trans isOther)
    simp only [Option.ite_none_right_eq_some, Option.some.injEq] at resumed
    obtain ⟨⟨nonempty, bounded⟩, rfl⟩ := resumed
    simp only [State.transmit, writing, phaseLeft, List.getElem?_modify_eq, foundOutgoing,
      Option.map_some, Option.map_eq_map, Option.getD_some, List.length_append,
      List.length_take, List.length_drop]
    omega
  next other rest error writing =>
    obtain rfl := Option.some.inj resumed
    simp only [State.transmit, writing, phaseLeft]
    omega
  next other rest writing =>
    simp only [OutgoingMessage.Linked, writing] at linkedMine
    obtain ⟨isOther, ⟨outgoing, foundOutgoing, -⟩, -⟩ := linkedMine
    obtain rfl := Option.some.inj (isStream.symm.trans isOther)
    simp only [Option.ite_none_right_eq_some, Option.some.injEq] at resumed
    obtain ⟨rfl, rfl⟩ := resumed
    simp [State.transmit, writing, phaseLeft, foundOutgoing]
  next other code stopping =>
    obtain rfl := Option.some.inj resumed
    simp only [State.transmit, stopping, phaseLeft]
    omega
  next other error stopping =>
    obtain rfl := Option.some.inj resumed
    simp only [State.transmit, stopping, phaseLeft]
    omega
  next => cases resumed

/-- A step of a sending task settles. -/
theorem resume_settles (linked : Linked wire state) {sending : OutgoingMessage S}
    (found : state.sendings[index]? = some sending)
    (isStream : sending.stream = some stream) {other : Nat} {answer : Answer}
    (stepped : resume wire state other answer = some state') :
    Settles index stream state state' (.resume other answer) := by
  obtain ⟨resumed, phase, foundResumed, -, answered, resumes, rfl⟩ := resume_eq_some stepped
  have inBounds := (List.getElem?_eq_some_iff.mp found).1
  by_cases isMine : other = index
  · subst isMine
    obtain rfl := Option.some.inj (found.symm.trans foundResumed)
    have nearer := own_resume_settles linked found isStream resumes
      (((state.peer.streams[stream]?).map (·.received.length)).getD 0)
    left
    simp only [State.wayLeft, State.situation, Situation.stepsLeft, Situation.undelivered,
      found, List.getElem?_set_self inBounds, Option.map_some, Option.getD_some,
      OutgoingMessage.advance_phase]
    omega
  · have notMine : resumed.stream ≠ some stream := by
      intro isAlso
      exact isMine (linked.distinct other index resumed sending stream foundResumed found
        isAlso isStream)
    have same := (sendingStep_of_resume answered resumes).same
      (linked.sending other resumed foundResumed)
      (linked.opened index sending stream found isStream) notMine
    refine settles_of_same ?_ rfl (Nat.le_refl _) (ne_helper ?_)
    · simp only [State.situation, same, List.getElem?_set_ne isMine]
    · intro helps
      cases helps
      exact isMine rfl

/-- Every step settles, as long as the connection stays up. -/
theorem step_settles (linked : Linked wire state) {sending : OutgoingMessage S}
    (found : state.sendings[index]? = some sending)
    (isStream : sending.stream = some stream) (up : state'.closed = none)
    (peerUp : state'.peer.closed = none)
    (stepped : step side wire state action = some state') :
    Settles index stream state state' action := by
  cases action with
  | send message =>
      obtain rfl := Option.some.inj stepped
      have inBounds := (List.getElem?_eq_some_iff.mp found).1
      refine settles_of_same ?_ rfl (Nat.le_refl _) (by simp [Action.party])
      simp only [State.situation, List.getElem?_append_left inBounds]
  | resume other answer => exact resume_settles linked found isStream stepped
  | lose cause =>
      simp only [step, Option.ite_none_right_eq_some, Option.some.injEq] at stepped
      obtain ⟨-, rfl⟩ := stepped
      cases up
  | peer label =>
      obtain ⟨peer, rfl, transported, stepped⟩ := peer_cases stepped
      exact peer_settles (linked.opened index sending stream found isStream) transported
        stepped peerUp

end Warqueen.Delivery
