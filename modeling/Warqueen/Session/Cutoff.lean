import Warqueen.Delivery.Cutoff
import Warqueen.Session.Exchange

/-!
# What is lost when the connection ends

If the sending of a message was not finished when the connection ended for its end, the
other end never gets it, and its handle never says that it was sent.  What may still
arrive is what had been written to the last byte by then.
-/

namespace Warqueen.Session

open Concurrency Quinn Receiving Sending Delivery

variable {S S' R R' : Type} {build : Build S S' R R'}
variable {start state later : State S S' R R'} {cause : ConnectionError}

/-- What the server can still make of a message of the client. -/
def mayReachServer (build : Build S S' R R') (sending : Client.SendingTask S) : Option S' :=
  if sending.phase.stillWriting then none else build.clientToServer.transfer sending.message

/-- What the client can still make of a message of the server's end. -/
def mayReachClient (build : Build S S' R R') (sent : ClientOnServer.SentMessage R') :
    Option R :=
  if sent.phase.stillWriting then none else build.serverToClient.transfer sent.message

/-- Once the connection has ended at the client, the server's application polls nothing
but what the client had written by then, and no handle of the client answers
`SendingResult::Sent` for anything else. -/
structure ClientCutOff (build : Build S S' R R') (start later : State S S' R R') : Prop where
  polled : later.polledByServer.Subperm
    (start.client.sendings.filterMap (mayReachServer build))
  sent : ∀ (index : Nat) (call : Client.Call S), later.client.calls[index]? = some call →
    getState call.result = .result .sent → ∃ sending, start.client.sendings[index]? =
      some sending ∧ sending.message = call.message ∧ sending.phase.stillWriting = false

/-- Once the connection has ended at the server's end, the client's application polls
nothing but what the server's end had written by then, and no handle of the server's
answers `SendingResult::Sent` for anything else. -/
structure ServerCutOff (build : Build S S' R R') (start later : State S S' R R') : Prop where
  polled : later.polledByClient.Subperm
    (start.sentMessages.filterMap (mayReachClient build))
  sent : ∀ (index : Nat) (sent : ClientOnServer.SentMessage R'),
    later.sentMessages[index]? = some sent → getState sent.result = .result .sent →
    ∃ before, start.sentMessages[index]? = some before ∧ before.message = sent.message ∧
      before.phase.stillWriting = false

/-! ## From the directions -/

/-- A phase whose handle answers `SendingResult::Sent`. -/
theorem ended_of_answer {phase : SendingPhase}
    (answer : getState (phase.settle .channel) = .result .sent) : phase = .ended .sent := by
  rw [getState_settle] at answer
  cases phase with
  | ended result => simpa [SendingPhase.answer] using answer
  | spawned | opening | writing | stopping | panicked => cases answer

/-- What is sent in the end had been written when the connection ended, also without the
records of the streams. -/
theorem writtenBefore_of_seen {M M' Event : Type} {side : ReceivingSide M' Event}
    {wire : Wire M M'} {direction direction' : Delivery.State M Event}
    (reachable : (Delivery.system side wire).Reachable direction)
    (closed : direction.closed = some cause)
    (reached : (Delivery.system side wire).Reaches System.always direction direction')
    {index : Nat} {seen : OutgoingMessage M}
    (found : direction'.forgetStreams.sendings[index]? = some seen)
    (sent : seen.phase = .ended .sent) :
    ∃ before, direction.forgetStreams.sendings[index]? = some before ∧
      before.message = seen.message ∧ before.phase.stillWriting = false := by
  simp only [Delivery.State.forgetStreams, List.getElem?_map] at found ⊢
  obtain ⟨sending, foundSending, rfl⟩ := Option.map_eq_some_iff.mp found
  obtain ⟨before, foundBefore, message, written⟩ :=
    writtenBefore_of_sent reachable closed reached foundSending sent
  exact ⟨before.forgetStream, by rw [foundBefore, Option.map_some], message, written⟩

theorem transferIfWritten_forgetStreams {M M' Event : Type} (wire : Wire M M')
    (direction : Delivery.State M Event) :
    direction.forgetStreams.sendings.filterMap (OutgoingMessage.transferIfWritten wire) =
      direction.sendings.filterMap (OutgoingMessage.transferIfWritten wire) := by
  simp only [Delivery.State.forgetStreams, List.filterMap_map]
  rfl

theorem clientCutOff (reachable : (system build).Reachable start)
    (closed : start.client.closed = some cause)
    (reached : (system build).Reaches System.always start later) :
    ClientCutOff build start later := by
  have reachableLater := reachable.reaches reached
  have decided := Client.decided_of_reachable (client_reachable reachableLater)
  obtain ⟨⟨direction, reachableDirection, same⟩, directionServer, -, sameServer⟩ :=
    exists_directions reachable
  obtain ⟨⟨direction', reachedDirection, same'⟩, -⟩ := continue_directions
    (Client.owned_of_reachable (client_reachable reachable)) reached same sameServer
  have closedDirection : direction.closed = some cause := by
    have closedSeen := congrArg Delivery.State.closed same
    simp only [State.fromClient, Client.State.closed_receivingHalf, closed] at closedSeen
    exact closedSeen.symm
  constructor
  · have within := queuedMessages_subperm_written (serverPayload S') reachableDirection
      closedDirection reachedDirection
    have sendings : start.client.sendings.filterMap (mayReachServer build) =
        start.fromClient.sendings.filterMap
          (OutgoingMessage.transferIfWritten build.clientToServer) := by
      simp only [State.fromClient, List.filterMap_map]
      rfl
    rw [sendings, same, transferIfWritten_forgetStreams]
    have queued : later.queuedAtServer = direction'.queuedMessages (serverPayload S') := by
      rw [State.queuedAtServer, same']
      rfl
    exact (polledByServer_sublist reachableLater).subperm.trans (queued ▸ within)
  · intro index call found answer
    have inBounds : index < later.client.sendings.length := by
      by_contra outOfBounds
      exact decided.unstarted index call (Nat.not_lt.mp outOfBounds) found answer
    obtain ⟨-, call', found', message, result⟩ :=
      decided.paired.carried index _ (List.getElem?_eq_getElem inBounds)
    obtain rfl := Option.some.inj (found.symm.trans found')
    rw [result] at answer
    have seen : direction'.forgetStreams.sendings[index]? =
        some (State.ofSendingTask later.client.sendings[index]) := by
      simp [← same', State.fromClient, inBounds]
    obtain ⟨before, foundBefore, sameMessage, written⟩ := writtenBefore_of_seen
      reachableDirection closedDirection reachedDirection seen (ended_of_answer answer)
    rw [← same] at foundBefore
    simp only [State.fromClient, List.getElem?_map] at foundBefore
    obtain ⟨sending, foundSending, rfl⟩ := Option.map_eq_some_iff.mp foundBefore
    exact ⟨sending, foundSending, sameMessage.trans message.symm, written⟩

theorem serverCutOff (reachable : (system build).Reachable start)
    (closed : start.serverHalf.closed = some cause)
    (reached : (system build).Reaches System.always start later) :
    ServerCutOff build start later := by
  have reachableLater := reachable.reaches reached
  obtain ⟨⟨directionClient, -, sameClient⟩, direction, reachableDirection, same⟩ :=
    exists_directions reachable
  obtain ⟨-, direction', reachedDirection, same'⟩ := continue_directions
    (Client.owned_of_reachable (client_reachable reachable)) reached sameClient same
  have closedDirection : direction.closed = some cause := by
    have closedSeen := congrArg Delivery.State.closed same
    simp only [State.fromServer, closed] at closedSeen
    exact closedSeen.symm
  constructor
  · have within := queuedMessages_subperm_written (clientPayload R) reachableDirection
      closedDirection reachedDirection
    have sendings : start.sentMessages.filterMap (mayReachClient build) =
        start.fromServer.sendings.filterMap
          (OutgoingMessage.transferIfWritten build.serverToClient) := by
      simp only [State.fromServer, List.filterMap_map]
      rfl
    rw [sendings, same, transferIfWritten_forgetStreams]
    have queued : later.queuedAtClient = direction'.queuedMessages (clientPayload R) := by
      rw [State.queuedAtClient, same']
      rfl
    exact (polledByClient_sublist reachableLater).subperm.trans (queued ▸ within)
  · intro index sent found answer
    have settled : sent.result = sent.phase.settle .channel := by
      cases foundServer : later.server with
      | none => simp [State.sentMessages, foundServer] at found
      | some server =>
          simp only [State.sentMessages, foundServer, Option.map_some, Option.getD_some]
            at found
          exact ClientOnServer.settled_of_reachable
            (server_reachable reachableLater foundServer) sent (List.mem_of_getElem? found)
    rw [settled] at answer
    have seen : direction'.forgetStreams.sendings[index]? =
        some (State.ofSentMessage sent) := by
      rw [← same']
      simp only [State.fromServer, List.getElem?_map]
      exact congrArg (Option.map State.ofSentMessage) found
    obtain ⟨before, foundBefore, sameMessage, written⟩ := writtenBefore_of_seen
      reachableDirection closedDirection reachedDirection seen (ended_of_answer answer)
    rw [← same] at foundBefore
    simp only [State.fromServer, List.getElem?_map] at foundBefore
    obtain ⟨mine, foundMine, rfl⟩ := Option.map_eq_some_iff.mp foundBefore
    exact ⟨mine, foundMine, sameMessage, written⟩

/-- Whoever ends the connection, and whatever the two applications, the peer and the
network do from then on: a message that was not written when the connection ended for
the end that sends it is lost, and is never said to be sent. -/
theorem unfinished_messages_are_lost (build : Build S S' R R') (start later : State S S' R R')
    (reachable : (system build).Reachable start)
    (reached : (system build).Reaches System.always start later) :
    ((∃ cause, start.client.closed = some cause) → ClientCutOff build start later) ∧
      ((∃ cause, start.serverHalf.closed = some cause) → ServerCutOff build start later) := by
  constructor
  · intro hasEnded
    obtain ⟨cause, closed⟩ := hasEnded
    exact clientCutOff reachable closed reached
  · intro hasEnded
    obtain ⟨cause, closed⟩ := hasEnded
    exact serverCutOff reachable closed reached

/-- The client gives a second message, writes nothing of it, and disconnects. -/
def leaveInHaste : List (Action Bool Bool) :=
  [.client (.sendMessageToServer false), .client (.sendingTask 1 .polled),
    .client .disconnect]

/-- What happens after that: the task of the second message fails, and the server polls
what there is. -/
def afterHaste : List (Action Bool Bool) :=
  [.client (.sendingTask 1 (.opened (.error .locallyClosed))),
    .server (.receiving (.lose (.applicationClosed []))), .server (.receiving .acceptUni),
    .server .pollEventFromClient]

theorem unfinished_messages_are_lost_in_haste :
    ∃ start later, (system booleans).run .new
        (greetEachOther ++ crossTheNetwork ++ leaveInHaste) = some start ∧
      (system booleans).run start afterHaste = some later ∧
      start.client.sendings.filterMap (mayReachServer booleans) = [true] ∧
      later.polledByServer = [true] ∧ ClientCutOff booleans start later := by
  obtain ⟨start, ran, closed, written, later, ranLater, polled⟩ :
      ∃ start, (system booleans).run .new
          (greetEachOther ++ crossTheNetwork ++ leaveInHaste) = some start ∧
        start.client.closed = some .locallyClosed ∧
        start.client.sendings.filterMap (mayReachServer booleans) = [true] ∧
        ∃ later, (system booleans).run start afterHaste = some later ∧
          later.polledByServer = [true] :=
    ⟨_, rfl, rfl, rfl, _, rfl, rfl⟩
  have reached := System.reaches_of_run (fun _ => True) (fun _ _ => trivial) ranLater
  exact ⟨start, later, ran, ranLater, written, polled,
    (unfinished_messages_are_lost booleans start later (System.reachable_of_run ran)
      reached.always).1 ⟨_, closed⟩⟩

end Warqueen.Session
