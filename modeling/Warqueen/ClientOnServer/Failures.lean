import Warqueen.Client.Failures
import Warqueen.ClientOnServer.Networking

/-!
# Who closed, as both sides tell it

The server asks Quinn for every message, before and after `disconnect`, so that what
it tells about a connection that is gone is always true.  A client does so as long as
it is `Connected`.
-/

namespace Warqueen.ClientOnServer

open Concurrency Quinn Receiving Sending

variable {S R : Type} {codec : Codec S R} {state state' : State S R} {action : Action S}

/-- What Quinn answered to a sending task in the step. -/
def Action.answered : Action S → Option Answer
  | .sendingTask _ answer => some answer
  | _ => none

/-- A client on the server as a side that sends. -/
def sender (codec : Codec S R) : Sender (State S R) (Action S) where
  system := system codec
  answers state := state.sentMessages.map fun sent => getState sent.result
  closed state := state.connection.closed
  answered := Action.answered

/-- Each channel has what its sending task left in it. -/
def Settled (state : State S R) : Prop :=
  ∀ sent ∈ state.sentMessages, sent.result = sent.phase.settle .channel

/-- What a step does to the messages being sent. -/
inductive SendingStep (codec : Codec S R) (state : State S R) :
    Action S → List (SentMessage S) → Prop where
  | unchanged {action : Action S} : SendingStep codec state action state.sentMessages
  | sends {message : S} :
      SendingStep codec state (.sendMessageToClient message)
        (state.sentMessages ++ [{ message := message, phase := .spawned,
                                  result := .channel }])
  | resumes {index : Nat} {answer : Answer} {sent : SentMessage S} {phase : SendingPhase}
      (found : state.sentMessages[index]? = some sent)
      (allowed : answer.allowed state.connection.closed = true)
      (resumed : sent.phase.resume codec.encode sent.message answer = some phase) :
      SendingStep codec state (.sendingTask index answer)
        (state.sentMessages.set index
          { sent with phase := phase, result := phase.settle sent.result })

theorem step_sending (stepped : step codec state action = some state') :
    SendingStep codec state action state'.sentMessages := by
  cases action with
  | sendMessageToClient message =>
      simp only [step, Option.ite_none_right_eq_some, Option.some.injEq] at stepped
      obtain ⟨-, rfl⟩ := stepped
      exact .sends
  | pollEventFromClient | disconnect | drop =>
      simp only [step, Option.ite_none_right_eq_some, Option.some.injEq] at stepped
      obtain ⟨-, rfl⟩ := stepped
      exact .unchanged
  | sendingTask index answer =>
      obtain ⟨sent, phase, found, allowed, resumed, rfl⟩ :=
        State.resumeSending_eq_some stepped
      exact .resumes found allowed resumed
  | receiving receiving =>
      obtain ⟨connection, rfl, -, -⟩ := receiving_cases stepped
      exact .unchanged

/-- A sending task does not end the connection. -/
theorem connection_of_sendingTask {index : Nat} {answer : Answer}
    (stepped : step codec state (.sendingTask index answer) = some state') :
    state'.connection = state.connection := by
  obtain ⟨-, -, -, -, -, rfl⟩ := State.resumeSending_eq_some stepped
  rfl

theorem Settled.step (settled : Settled state)
    (stepped : step codec state action = some state') : Settled state' := by
  intro sent member
  have changed := step_sending stepped
  generalize state'.sentMessages = sentMessages at changed member
  cases changed with
  | unchanged => exact settled sent member
  | sends =>
      rcases List.mem_append.mp member with old | isNew
      · exact settled sent old
      · rw [List.mem_singleton.mp isNew]
        rfl
  | resumes found allowed resumed =>
      rcases List.mem_or_eq_of_mem_set member with old | rfl
      · exact settled sent old
      · rw [settled _ (List.mem_of_getElem? found),
          SendingPhase.settle_of_resume resumed]

theorem settled_of_reachable (reachable : (system codec).Reachable state) :
    Settled state :=
  reachable.invariant Settled (by simp [Settled, system, State.new])
    fun _ _ _ _ settled stepped => settled.step stepped

/-- The answer of a message, as a side that sends has it. -/
theorem answers_eq_some {index : Nat} {answer : SendingState} :
    ((sender codec).answers state)[index]? = some answer ↔
      ∃ sent, state.sentMessages[index]? = some sent ∧ getState sent.result = answer := by
  simp [sender, List.getElem?_map]

/-- A task that can go on has not answered. -/
theorem stillBeingSent_of_resume {sent : SentMessage S} {answer : Answer}
    {phase : SendingPhase} (settled : sent.result = sent.phase.settle .channel)
    (resumed : sent.phase.resume codec.encode sent.message answer = some phase) :
    getState sent.result = .stillBeingSent := by
  rw [settled, SendingPhase.settle_of_resume resumed]
  rfl

/-- Results stay as they are. -/
theorem answers_step (settled : Settled state)
    (stepped : step codec state action = some state') {index : Nat} {answer : SendingState}
    (answered : ((sender codec).answers state)[index]? = some answer)
    (failed : answer.hasFailed = true) :
    ((sender codec).answers state')[index]? = some answer := by
  obtain ⟨sent, found, rfl⟩ := answers_eq_some.mp answered
  apply answers_eq_some.mpr
  have changed := step_sending stepped
  generalize state'.sentMessages = sentMessages at changed
  cases changed with
  | unchanged => exact ⟨sent, found, rfl⟩
  | sends =>
      have inBounds := (List.getElem?_eq_some_iff.mp found).1
      exact ⟨sent, by rw [List.getElem?_append_left inBounds, found], rfl⟩
  | @resumes other _ _ _ foundOther allowed resumed =>
      by_cases same : other = index
      · subst same
        obtain rfl := Option.some.inj (found.symm.trans foundOther)
        rw [stillBeingSent_of_resume (settled _ (List.mem_of_getElem? found)) resumed]
          at failed
        cases failed
      · exact ⟨sent, by rw [List.getElem?_set_ne same, found], rfl⟩

/-- What fails in a step because the connection is gone is answered by the cause. -/
theorem truthful_of_step {before after : State S R} {call : Nat} {cause : ConnectionError}
    {answer : SendingState} (settled : Settled before)
    (stepped : step codec before action = some after)
    (fails : (sender codec).FailsAsGone before action after call cause)
    (answered : ((sender codec).answers after)[call]? = some answer)
    (failed : answer.hasFailed = true) : Truthful cause answer := by
  obtain ⟨sent, found, rfl⟩ := answers_eq_some.mp answered
  have notBefore (old : before.sentMessages[call]? = some sent) : False :=
    fails.notBefore ⟨_, answers_eq_some.mpr ⟨sent, old, rfl⟩, failed⟩
  have changed := step_sending stepped
  generalize after.sentMessages = sentMessages at changed found
  cases changed with
  | unchanged => exact (notBefore found).elim
  | sends =>
      rcases Client.getElem?_concat_eq_some.mp found with old | ⟨-, rfl⟩
      · exact (notBefore old).elim
      · cases failed
  | @resumes index answer sentBefore phase foundBefore allowed resumed =>
      by_cases same : index = call
      · subst same
        have inBounds := (List.getElem?_eq_some_iff.mp foundBefore).1
        rw [List.getElem?_set_self inBounds] at found
        obtain rfl := Option.some.inj found
        have gone : after.connection.closed = some cause := fails.gone
        rw [connection_of_sendingTask stepped] at gone
        rw [gone] at allowed
        have ended := SendingPhase.resume_of_isLoss resumed (fails.isLoss _ rfl) allowed
        have fresh := settled _ (List.mem_of_getElem? foundBefore)
        rw [SendingPhase.settle_of_resume resumed] at fresh
        simp only [fresh, getState_settle, ended, SendingPhase.answer]
        exact truthful_fromConnectionError cause
      · rw [List.getElem?_set_ne same] at found
        exact (notBefore found).elim

/-- Every step of a client on the server tells the truth. -/
theorem tellsTruthIn {before : State S R} (reachable : (system codec).Reachable before) :
    (sender codec).TellsTruthIn before action := by
  apply Sender.tellsTruthIn_of_stays
  · intro after cause call answer reachableAfter closed found failed last reached
    refine ⟨closed_stays closed reached, ?_⟩
    have kept := reached.invariant
      (fun state => Settled state ∧ ((sender codec).answers state)[call]? = some answer)
      ⟨settled_of_reachable reachableAfter, found⟩ fun _ _ _ _ kept _ stepped =>
        ⟨kept.1.step stepped, answers_step kept.1 stepped kept.2 failed⟩
    exact kept.2
  · exact reachable
  · intro after stepped call cause fails answer answered failed
    exact truthful_of_step (settled_of_reachable reachable) stepped fails answered failed

/-! ## Both sides -/

/-- On the server every failure because the connection is gone is told truthfully, in
every run; at the client in exactly the runs in which it gives an answer of its own
about a connection that is gone only after our own close. -/
theorem failures_are_truthful_iff {S R : Type} (codec : Codec S R)
    (build : Client.Build S R) :
    (∀ actions, (sender codec).TellsTruth actions) ∧
      ∀ actions, (Client.sender build).TellsTruth actions ↔
        (Client.system build).EveryStep Client.answersOurClose actions := by
  constructor
  · intro actions earlier action later before _ ran
    exact tellsTruthIn (System.reachable_of_run ran)
  · intro actions
    exact System.everyStep_congr
      (fun _ _ reachable => Client.tellsTruthIn_iff reachable) actions

/-- The server closes, and the client disconnects in reaction and then sends. -/
def sendAfterClose : List (Client.Action Bool) :=
  [.endAttempt .connected, .connectingTask, .connectingTask, .pollEventFromServer,
    .receiving (.lose (.applicationClosed [])), .receiving .acceptUni,
    .pollEventFromServer, .disconnect, .sendMessageToServer true]

/-- The client says that it closed, after it was told that the server did. -/
theorem reaction_told_otherwise :
    ∃ state, (Client.system Client.booleans).run .new sendAfterClose = some state ∧
      state.polled = [.connected, .disconnected .none] ∧
      state.closed = some (.applicationClosed []) ∧
      state.calls.map (fun call => getState call.result) = [.result .weClosed] ∧
      ¬ (Client.sender Client.booleans).TellsTruth sendAfterClose := by
  refine ⟨_, rfl, rfl, rfl, rfl, ?_⟩
  intro tellsTruth
  obtain ⟨before, ran, disconnected, closed⟩ :
      ∃ before, (Client.system Client.booleans).run .new (sendAfterClose.take 8) =
          some before ∧
        before.networking = .disconnected .us ∧
        before.closed = some (.applicationClosed []) := ⟨_, rfl, rfl, rfl⟩
  have established := Client.established_of_reachable (System.reachable_of_run ran)
  exact Client.untruthful_refusal established disconnected closed (by decide)
    (tellsTruth _ _ [] before rfl ran)

end Warqueen.ClientOnServer
