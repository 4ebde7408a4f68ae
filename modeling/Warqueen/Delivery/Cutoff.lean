import Warqueen.Delivery.Origins
import Warqueen.Delivery.Outcomes
import Warqueen.Sending.Rest

/-!
# What can still arrive

Once the connection has ended for the sending side, nothing more is written.  What was
not written to its last byte by then never arrives, and no handle ever says that it was
sent, whatever the peer and the network still do with what is on its way.
-/

namespace Warqueen.Delivery

open Concurrency Quinn Receiving Sending

variable {S R Event : Type} {side : ReceivingSide R Event} {wire : Wire S R}
variable {start state state' : State S Event} {index : Nat} {cause : ConnectionError}

/-- What an answer does to the streams of a connection that has ended: nothing, or the
end of a stream that was written to its last byte. -/
theorem transmit_of_lost (state : State S Event) {phase phase' : SendingPhase}
    {message : S} {answer : Answer} (allowed : answer.allowed (some cause) = true)
    (resumed : phase.resume wire.encode message answer = some phase') :
    (∀ stream rest, phase' ≠ .writing stream rest) ∧
      (state.transmit phase answer = state.outgoing ∨
        ∃ stream, phase = .writing stream [] ∧
          state.transmit phase answer = state.outgoing.modify stream fun outgoing =>
            { outgoing with finished := true }) := by
  simp only [SendingPhase.resume] at resumed
  split at resumed
  next =>
    split at resumed <;>
      (obtain rfl := Option.some.inj resumed; exact ⟨by simp, .inl rfl⟩)
  next => cases allowed
  next =>
    obtain rfl := Option.some.inj resumed
    exact ⟨by simp, .inl rfl⟩
  next => cases allowed
  next =>
    obtain rfl := Option.some.inj resumed
    exact ⟨by simp, .inl rfl⟩
  next stream rest =>
    simp only [Option.ite_none_right_eq_some, Option.some.injEq] at resumed
    obtain ⟨rfl, rfl⟩ := resumed
    exact ⟨by simp, .inr ⟨stream, rfl, rfl⟩⟩
  next =>
    obtain rfl := Option.some.inj resumed
    exact ⟨by simp, .inl rfl⟩
  next =>
    obtain rfl := Option.some.inj resumed
    exact ⟨by simp, .inl rfl⟩
  next => cases resumed

/-- The task that had this number at the start carries this message, and had written all
of it or was over. -/
def WrittenBefore (start : State S Event) (index : Nat) (message : S) : Prop :=
  ∃ sending, start.sendings[index]? = some sending ∧ sending.message = message ∧
    sending.phase.stillWriting = false

/-- Once the connection has ended, whatever is or may be sent was written before, and so
was every stream that is finished. -/
structure CutOff (wire : Wire S R) (cause : ConnectionError) (start state : State S Event) :
    Prop where
  closed : state.closed = some cause
  linked : Linked wire state
  written : ∀ (index : Nat) (sending : OutgoingMessage S),
    state.sendings[index]? = some sending → sending.phase.hasWritten = true →
    WrittenBefore start index sending.message
  finished : ∀ (index : Nat) (sending : OutgoingMessage S) (stream : Nat)
    (outgoing : OutgoingStream), state.sendings[index]? = some sending →
    sending.stream = some stream → state.outgoing[stream]? = some outgoing →
    outgoing.finished = true → WrittenBefore start index sending.message

theorem CutOff.refl (linked : Linked wire start) (closed : start.closed = some cause) :
    CutOff wire cause start start where
  closed := closed
  linked := linked
  written index sending found written :=
    ⟨sending, found, rfl, SendingPhase.not_stillWriting written⟩
  finished := by
    intro index sending stream outgoing found isStream foundOutgoing finished
    refine ⟨sending, found, rfl, ?_⟩
    have linkedSending := linked.sending index sending found
    cases phase : sending.phase with
    | spawned =>
        simp only [OutgoingMessage.Linked, phase] at linkedSending
        rw [linkedSending] at isStream
        cases isStream
    | opening messageRaw =>
        simp only [OutgoingMessage.Linked, phase] at linkedSending
        rw [linkedSending.1] at isStream
        cases isStream
    | writing other rest =>
        simp only [OutgoingMessage.Linked, phase] at linkedSending
        obtain ⟨isOther, -, written, foundWritten, unfinished⟩ := linkedSending
        obtain rfl := Option.some.inj (isOther.symm.trans isStream)
        obtain rfl := Option.some.inj (foundWritten.symm.trans foundOutgoing)
        rw [unfinished] at finished
        cases finished
    | stopping | ended | panicked => rfl

/-- A step of a sending task brings nothing new on its way. -/
theorem CutOff.resume {answer : Answer} (cutOff : CutOff wire cause start state)
    (linkedAfter : Linked wire state')
    (stepped : resume wire state index answer = some state') :
    CutOff wire cause start state' := by
  obtain ⟨mine, phase, foundMine, allowed, answered, resumed, rfl⟩ := resume_eq_some stepped
  rw [cutOff.closed] at allowed
  obtain ⟨notWriting, transmitted⟩ := transmit_of_lost state allowed resumed
  have inBounds := (List.getElem?_eq_some_iff.mp foundMine).1
  -- A task that goes on keeps its stream, so that its message is the same after as before.
  have before (other : Nat) (sending : OutgoingMessage S)
      (found : (state.sendings.set index (mine.advance phase))[other]? = some sending) :
      ∃ old, state.sendings[other]? = some old ∧ old.message = sending.message ∧
        old.stream = sending.stream ∧
        (sending.phase.hasWritten = true → old.phase.hasWritten = true) := by
    by_cases same : index = other
    · subst same
      obtain rfl := Option.some.inj ((List.getElem?_set_self inBounds).symm.trans found)
      refine ⟨mine, foundMine, rfl, ?_, SendingPhase.resume_hasWritten allowed resumed⟩
      cases phase with
      | writing stream rest => exact absurd rfl (notWriting stream rest)
      | spawned | opening | stopping | ended | panicked => rfl
    · rw [List.getElem?_set_ne same] at found
      exact ⟨sending, found, rfl, rfl, id⟩
  refine ⟨cutOff.closed, linkedAfter, ?_, ?_⟩
  · intro other sending found written
    obtain ⟨old, foundOld, message, -, wrote⟩ := before other sending found
    rw [← message]
    exact cutOff.written other old foundOld (wrote written)
  · intro other sending stream outgoing found isStream foundOutgoing finished
    obtain ⟨old, foundOld, message, oldStream, -⟩ := before other sending found
    rw [← message]
    rw [← oldStream] at isStream
    simp only at foundOutgoing
    rcases transmitted with same | ⟨finishing, writing, same⟩
    · rw [same] at foundOutgoing
      exact cutOff.finished other old stream outgoing foundOld isStream foundOutgoing finished
    · rw [same, List.getElem?_modify] at foundOutgoing
      by_cases isFinishing : finishing = stream
      · subst isFinishing
        have linkedMine := cutOff.linked.sending index mine foundMine
        simp only [OutgoingMessage.Linked, writing] at linkedMine
        obtain rfl := cutOff.linked.distinct index other mine old finishing foundMine foundOld
          linkedMine.1 isStream
        obtain rfl := Option.some.inj (foundMine.symm.trans foundOld)
        apply cutOff.written index mine foundMine
        rw [writing]
        rfl
      · simp only [isFinishing, if_false] at foundOutgoing
        exact cutOff.finished other old stream outgoing foundOld isStream
          (by simpa using foundOutgoing) finished

theorem CutOff.step {action : Action S} (cutOff : CutOff wire cause start state)
    (reachable : (system side wire).Reachable state)
    (stepped : step side wire state action = some state') :
    CutOff wire cause start state' := by
  have steps : (system side wire).step state action = some state' := stepped
  have linkedAfter := linked_of_reachable (reachable.step steps)
  cases action with
  | send message =>
      obtain rfl := Option.some.inj stepped
      have old (other : Nat) (sending : OutgoingMessage S)
          (found : (state.sendings ++ [.start message])[other]? = some sending) :
          state.sendings[other]? = some sending ∨ sending = .start message := by
        rw [List.getElem?_append] at found
        split at found
        next => exact .inl found
        next => exact .inr (List.mem_singleton.mp (List.mem_of_getElem? found))
      refine ⟨cutOff.closed, linkedAfter, ?_, ?_⟩
      · intro other sending found written
        rcases old other sending found with found | rfl
        · exact cutOff.written other sending found written
        · cases written
      · intro other sending stream outgoing found isStream
        rcases old other sending found with found | rfl
        · exact cutOff.finished other sending stream outgoing found isStream
        · cases isStream
  | resume other answer => exact cutOff.resume linkedAfter stepped
  | lose other =>
      simp [Delivery.step, cutOff.closed] at stepped
  | peer receiving =>
      simp only [Delivery.step, Option.ite_none_right_eq_some] at stepped
      obtain ⟨-, received⟩ := stepped
      obtain ⟨peer, -, rfl⟩ := Option.map_eq_some_iff.mp received
      exact ⟨cutOff.closed, linkedAfter, cutOff.written, cutOff.finished⟩

/-- What the steps keep of a connection that has ended for the sending side. -/
theorem cutOff_of_reaches (reachable : (system side wire).Reachable start)
    (closed : start.closed = some cause)
    (reached : (system side wire).Reaches System.always start state) :
    CutOff wire cause start state := by
  refine reached.invariant (CutOff wire cause start)
    (.refl (linked_of_reachable reachable) closed) ?_
  intro before action after reachedBefore cutOff _ stepped
  exact cutOff.step (reachable.reaches reachedBefore) stepped

/-- What the peer makes of a message that may still arrive. -/
def OutgoingMessage.transferIfWritten (wire : Wire S R) (sending : OutgoingMessage S) :
    Option R :=
  if sending.phase.stillWriting then none else wire.transfer sending.message

/-- The peer never queues more than had been written when the connection ended. -/
theorem queuedMessages_subperm_written (reads : Payload side)
    (reachable : (system side wire).Reachable start) (closed : start.closed = some cause)
    (reached : (system side wire).Reaches System.always start state) :
    (state.queuedMessages reads).Subperm
      (start.sendings.filterMap (OutgoingMessage.transferIfWritten wire)) := by
  have cutOff := cutOff_of_reaches reachable closed reached
  apply queuedMessages_subperm_of reads (reachable.reaches reached)
  intro index sending stream outgoing received found isStream foundOutgoing finished
    transferred
  obtain ⟨before, foundBefore, message, written⟩ :=
    cutOff.finished index sending stream outgoing found isStream foundOutgoing finished
  exact ⟨before, foundBefore, by
    simp [OutgoingMessage.transferIfWritten, written, message, transferred]⟩

/-- No handle answers `SendingResult::Sent` for a message that had not been written when
the connection ended. -/
theorem writtenBefore_of_sent (reachable : (system side wire).Reachable start)
    (closed : start.closed = some cause)
    (reached : (system side wire).Reaches System.always start state)
    {sending : OutgoingMessage S} (found : state.sendings[index]? = some sending)
    (sent : sending.phase = .ended .sent) : WrittenBefore start index sending.message := by
  apply (cutOff_of_reaches reachable closed reached).written index sending found
  rw [sent]
  rfl

end Warqueen.Delivery
