import Warqueen.Client.Events
import Warqueen.Client.Failures
import Warqueen.ClientOnServer.Networking
import Warqueen.Receiving.Loss

/-!
# Our own close is no loss

Whoever closes the connection first is the cause that every task finds, and a task
that finds our own close queues nothing.  The server goes on polling its queue after
`disconnect`, and gets the messages of the streams that had been received by then.
-/

namespace Warqueen.ClientOnServer

open Concurrency Quinn Receiving Sending

variable {S R : Type} {codec : Codec S R} {state state' : State S R} {action : Action S}

/-- On the server, once `disconnect` ended the connection no disconnection is queued or
was polled, and what is polled from then on are messages of good streams; each stream
is polled at most once. -/
def ServerReportsNoLoss (codec : Codec S R) : Prop :=
  ∀ before after later, (system codec).Reachable before →
    before.connection.closed = none → step codec before .disconnect = some after →
    (system codec).Reaches System.always after later →
      disconnections (serverSide R) later.connection = 0 ∧
      (∀ event ∈ later.polled, (serverSide R).isDisconnected event = false) ∧
      (later.connection.events.taken.map Prod.fst).Nodup ∧
      ∃ polled, later.connection.events.taken = after.connection.events.taken ++ polled ∧
        later.polled = after.polled ++ polled.map Prod.snd ∧
        ∀ entry ∈ polled, ∃ index stream message,
          entry = (.reader index, .message message) ∧
            later.connection.streams[index]? = some stream ∧
            goodMessage codec.decode stream.toRecvStream = some message

/-- At the client, once `disconnect` ended the connection no disconnection is queued or
was polled. -/
def ClientReportsNoLoss (build : Client.Build S R) : Prop :=
  ∀ before after later, (Client.system build).Reachable before →
    (∃ connection, before.connection = some connection ∧ connection.closed = none) →
    Client.step build before .disconnect = some after →
    (∃ connection, after.connection = some connection ∧
      connection.closed = some .locallyClosed) →
    (Client.system build).Reaches System.always after later →
      (∀ connection, later.connection = some connection →
        disconnections (clientSide R) connection = 0) ∧
      ∀ event ∈ later.polled, (clientSide R).isDisconnected event = false

/-! ## What the server polls -/

/-- What was polled since some state is what was taken from the queue since. -/
structure PolledSince (start state : State S R) : Prop where
  bounded : state.connection.events.Bounded
  polled : ∃ entries,
    state.connection.events.taken = start.connection.events.taken ++ entries ∧
      state.polled = start.polled ++ entries.map Prod.snd

theorem PolledSince.refl (bounded : state.connection.events.Bounded) :
    PolledSince state state :=
  ⟨bounded, [], by simp, by simp⟩

/-- A step that is no poll. -/
theorem PolledSince.same {start : State S R} (since : PolledSince start state)
    (bounded : state'.connection.events.Bounded)
    (taken : state'.connection.events.taken = state.connection.events.taken)
    (polled : state'.polled = state.polled) : PolledSince start state' := by
  obtain ⟨entries, takenSince, polledSince⟩ := since.polled
  exact ⟨bounded, entries, taken.trans takenSince, polled.trans polledSince⟩

theorem PolledSince.step {start : State S R} (since : PolledSince start state)
    (stepped : step codec state action = some state') : PolledSince start state' := by
  cases action with
  | sendMessageToClient | disconnect | drop =>
      simp only [ClientOnServer.step, Option.ite_none_right_eq_some,
        Option.some.injEq] at stepped
      obtain ⟨-, rfl⟩ := stepped
      exact since.same since.bounded rfl rfl
  | pollEventFromClient =>
      simp only [ClientOnServer.step, Option.ite_none_right_eq_some,
        Option.some.injEq] at stepped
      obtain ⟨-, rfl⟩ := stepped
      obtain ⟨entries, taken, polled⟩ := since.polled
      refine ⟨since.bounded.tryRecv,
        entries ++ state.connection.events.tryRecv.1.toList, ?_, ?_⟩
      · simp only [State.pollEventFromClient, Mpsc.tryRecv_taken, taken, List.append_assoc]
      · simp only [State.pollEventFromClient, polled, List.map_append, List.append_assoc,
          Option.toList_map]
  | sendingTask index answer =>
      obtain ⟨-, -, -, -, -, rfl⟩ := State.resumeSending_eq_some stepped
      exact since.same since.bounded rfl rfl
  | receiving receiving =>
      obtain ⟨connection, rfl, isReceiving, received⟩ := receiving_cases stepped
      have notPoll := Client.not_poll_of_isReceiving isReceiving
      exact since.same (step_bounded since.bounded received)
        (step_taken notPoll since.bounded received) rfl

theorem polledSince {start : State S R} (bounded : start.connection.events.Bounded)
    (reached : (system codec).Reaches System.always start state) :
    PolledSince start state :=
  reached.invariant (PolledSince start) (.refl bounded)
    fun _ _ _ _ since _ stepped => since.step stepped

/-- All that was polled was taken from the queue. -/
theorem polled_of_reachable (reachable : (system codec).Reachable state) :
    state.connection.events.Bounded ∧
      state.polled = state.connection.events.taken.map Prod.snd := by
  have bounded : (State.new : State S R).connection.events.Bounded := Nat.le_refl 0
  have since : PolledSince State.new state := polledSince bounded reachable
  obtain ⟨entries, taken, polled⟩ := since.polled
  exact ⟨since.bounded, by rw [taken, polled]; rfl⟩

/-! ## No loss -/

/-- Our own close is no cause that is reported. -/
theorem disconnections_of_locallyClosed {Event : Type} {side : ReceivingSide R Event}
    {decode : List UInt8 → Option R} {connection : Receiving.State Event}
    (accounted : Accounted side decode connection)
    (closed : connection.closed = some .locallyClosed) :
    disconnections side connection = 0 := by
  apply accounted.disconnections_eq_zero
  intro cause closed'
  obtain rfl := Option.some.inj (closed.symm.trans closed')
  rfl

/-- A queue without a disconnection has none. -/
theorem not_disconnected_of_mem {Event : Type} {side : ReceivingSide R Event}
    {connection : Receiving.State Event} (none : disconnections side connection = 0)
    {entry : Source × Event} (member : entry ∈ connection.events.sent) :
    side.isDisconnected entry.2 = false := by
  simp only [disconnections, List.countP_eq_zero] at none
  exact Bool.eq_false_iff.mpr (none entry member)

theorem serverReportsNoLoss (codec : Codec S R) : ServerReportsNoLoss codec := by
  intro before after later reachable up stepped reached
  have disconnects : (system codec).step before .disconnect = some after := stepped
  have reachableAfter := reachable.step disconnects
  have reachableLater := reachableAfter.reaches reached
  have accounted := connection_accounted reachableLater
  have closed : later.connection.closed = some .locallyClosed := by
    apply closed_stays _ reached
    simp only [step, Option.ite_none_right_eq_some, Option.some.injEq] at stepped
    obtain ⟨-, rfl⟩ := stepped
    simp [State.disconnect, up]
  have none := disconnections_of_locallyClosed accounted closed
  have takenSent : ∀ entry ∈ later.connection.events.taken,
      entry ∈ later.connection.events.sent := fun _ member => List.mem_of_mem_take member
  refine ⟨none, ?_, ?_, ?_⟩
  · intro event member
    rw [(polled_of_reachable reachableLater).2] at member
    obtain ⟨entry, taken, rfl⟩ := List.mem_map.mp member
    exact not_disconnected_of_mem none (takenSent entry taken)
  · have prefixed := (List.take_sublist later.connection.events.received
      later.connection.events.sent).map Prod.fst
    exact prefixed.nodup accounted.nodup_sources
  · obtain ⟨polled, taken, polledSince⟩ :=
      (polledSince (polled_of_reachable reachableAfter).1 reached).polled
    refine ⟨polled, taken, polledSince, ?_⟩
    intro entry member
    have queued : entry ∈ later.connection.events.sent := by
      apply takenSent
      rw [taken]
      exact List.mem_append_right _ member
    obtain ⟨source, event⟩ := entry
    rcases accounted.queued_cases queued with message | lost
    · obtain ⟨index, stream, message, rfl, found, good, rfl⟩ := message
      exact ⟨index, stream, message, rfl, found, good⟩
    · rw [not_disconnected_of_mem none queued] at lost
      cases lost

theorem clientReportsNoLoss (build : Client.Build S R) : ClientReportsNoLoss build := by
  intro before after later reachable _ stepped closed reached
  have disconnects : (Client.system build).step before .disconnect = some after := stepped
  have reachableAfter := reachable.step disconnects
  have reachableLater := reachableAfter.reaches reached
  obtain ⟨connectionAfter, foundAfter, closed⟩ := closed
  have closedAfter : after.closed = some .locallyClosed := by
    simp [Client.State.closed, foundAfter, closed]
  have closedLater :=
    Client.closed_stays (Client.owned_of_reachable reachableAfter) closedAfter reached
  have none : ∀ connection, later.connection = some connection →
      disconnections (clientSide R) connection = 0 := by
    intro connection found
    apply disconnections_of_locallyClosed (Client.connection_accounted reachableLater found)
    simpa [Client.State.closed, found] using closedLater
  refine ⟨none, ?_⟩
  intro event member
  rcases Client.followsProtocol reachableLater with nothing | failed | connected
  · rw [nothing] at member
    cases member
  · rw [failed] at member
    obtain rfl := List.mem_singleton.mp member
    rfl
  · obtain ⟨connection, found, polled, -⟩ := connected
    rw [polled] at member
    rcases List.mem_cons.mp member with rfl | taken
    · rfl
    · obtain ⟨entry, isTaken, rfl⟩ := List.mem_map.mp taken
      exact not_disconnected_of_mem (none connection found) (List.mem_of_mem_take isTaken)

/-- On both sides our own close is not reported as a loss, whatever the peer, the
network and the tasks still do. -/
theorem own_close_is_not_reported {S R : Type} (codec : Codec S R)
    (build : Client.Build S R) : ServerReportsNoLoss codec ∧ ClientReportsNoLoss build :=
  ⟨serverReportsNoLoss codec, clientReportsNoLoss build⟩

/-! ## A server that polls after its own close -/

/-- MessagePack of the unit value. -/
def unitCodec : Codec Bool Unit where
  encode := Client.booleans.encode
  decode := decodeUnit

/-- Two streams were received when the server closes, one with a message, and one of
which nothing came. -/
def receiveThenDisconnect : List (Action Bool) :=
  [.receiving .openStream, .receiving .openStream, .receiving (.deliver 0 [0xc0]),
    .receiving (.finish 0), .receiving .acceptUni]

/-- What happens after the close: both streams are read, and the queue is polled. -/
def pollAfterDisconnect : List (Action Bool) :=
  [.receiving .acceptUni, .receiving (.read 1), .receiving (.read 0),
    .receiving .acceptUni, .pollEventFromClient, .pollEventFromClient]

/-- The message is polled after the close, and nothing else. -/
theorem own_close_is_not_reported_while_receiving :
    ∃ before after later,
      (system unitCodec).run .new receiveThenDisconnect = some before ∧
        step unitCodec before .disconnect = some after ∧
        (system unitCodec).run after pollAfterDisconnect = some later ∧
        later.polled = [.message ()] ∧
        disconnections (serverSide Unit) later.connection = 0 := by
  obtain ⟨before, ran, up, after, disconnects, later, ranLater, polled⟩ :
      ∃ before, (system unitCodec).run .new receiveThenDisconnect = some before ∧
        before.connection.closed = none ∧
        ∃ after, step unitCodec before .disconnect = some after ∧
        ∃ later, (system unitCodec).run after pollAfterDisconnect = some later ∧
          later.polled = [.message ()] :=
    ⟨_, rfl, rfl, _, rfl, _, rfl, rfl⟩
  have reached := System.reaches_of_run (fun _ => True) (fun _ _ => trivial) ranLater
  exact ⟨before, after, later, ran, disconnects, ranLater, polled,
    ((own_close_is_not_reported unitCodec Client.booleans).1 before after later
      (System.reachable_of_run ran) up disconnects reached).1⟩

end Warqueen.ClientOnServer
