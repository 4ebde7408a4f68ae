import Warqueen.Client.Connection
import Warqueen.Sending.Failures

/-!
# Who closed, as a client tells it

A client that is `Connected` asks Quinn for every message, and Quinn knows what ended
the connection first.  A client that called `disconnect` answers `WeClosed` itself,
also when the peer, a reset or a timeout had ended the connection before, and then
the answer is not true.
-/

namespace Warqueen.Client

open Concurrency Quinn Receiving Sending

variable {S R : Type} {build : Build S R} {state state' : State S R} {action : Action S}

/-- The first cause that ended the connection. -/
def State.closed (state : State S R) : Option ConnectionError :=
  state.connection.bind (·.closed)

/-- What Quinn answered to a sending task in the step. -/
def Action.answered : Action S → Option Answer
  | .sendingTask _ answer => some answer
  | _ => none

/-- A client as a side that sends. -/
def sender (build : Build S R) : Sender (State S R) (Action S) where
  system := system build
  answers state := state.calls.map fun call => getState call.result
  closed := State.closed
  answered := Action.answered

/-- A connection that has ended was ended by our own close when a message is given
to the `Disconnected` client, or when `disconnect` answers buffered messages. -/
def answersOurClose (state : State S R) (action : Action S) : Prop :=
  ∀ cause, state.closed = some cause →
    (match action with
      | .sendMessageToServer _ => ∃ whoClosed, state.networking = .disconnected whoClosed
      | .disconnect => state.pendingSentMessages ≠ []
      | _ => False) →
    cause = .locallyClosed

/-! ## What ended the connection stays -/

theorem State.closed_receivingHalf (state : State S R) :
    state.receivingHalf.closed = state.closed := by
  simp only [State.receivingHalf, State.closed]
  cases state.connection <;> rfl

theorem State.dropConnected_closed (state : State S R) :
    state.dropConnected.closed = state.closed := by
  cases found : state.connection <;> simp [State.closed, State.dropConnected, found]

/-- The cause that ended the connection first stays. -/
theorem Transition.closed {cause : ConnectionError} (owned : Owned state)
    (closed : state.closed = some cause)
    (transition : Transition build state action state') : state'.closed = some cause := by
  rw [← State.closed_receivingHalf] at closed ⊢
  exact (transition.becomes owned).invariant (fun half => half.closed = some cause) closed
    fun _ _ _ _ closed _ stepped => (step_of_closed closed stepped).1

theorem closed_stays {before after : State S R} {cause : ConnectionError}
    (owned : Owned before) (closed : before.closed = some cause)
    (reached : (system build).Reaches System.always before after) :
    after.closed = some cause := by
  have kept := reached.invariant (fun state => Owned state ∧ state.closed = some cause)
    ⟨owned, closed⟩ fun _ _ _ _ kept _ stepped =>
      keeps_of_transitions (fun state => Owned state ∧ state.closed = some cause)
        (fun _ _ kept transition =>
          ⟨kept.1.transition transition, transition.closed kept.1 kept.2⟩)
        kept stepped
  exact kept.2

/-! ## What fails in a transition -/

/-- A call that has failed. -/
def State.CallFailed (state : State S R) (index : Nat) (result : SendingResult) : Prop :=
  ∃ call, state.calls[index]? = some call ∧ getState call.result = .result result ∧
    result ≠ .sent

/-- How a call comes to fail. -/
inductive Failing (build : Build S R) (state : State S R) (index : Nat)
    (result : SendingResult) : Action S → Prop where
  | timedOut {action : Action S} (operation : action.isOperation = true)
      (absent : state.connection = none) : Failing build state index result action
  | refused {message : S} {whoClosed : WhoClosed}
      (networking : state.networking = .disconnected whoClosed)
      (result_eq : result = whoClosed.sendingResult) :
      Failing build state index result (.sendMessageToServer message)
  | abandoned (buffered : state.pendingSentMessages ≠ []) (result_eq : result = .weClosed) :
      Failing build state index result .disconnect
  | resumed {sending : SendingTask S} {phase : SendingPhase} {answer : Answer}
      (allowed : answer.allowed state.closed = true)
      (resumes : sending.phase.resume build.encode sending.message answer = some phase)
      (result_eq : getState (phase.settle .channel) = .result result) :
      Failing build state index result (.sendingTask index answer)

/-- A failure that a transition adds. -/
theorem Transition.failing {index : Nat} {result : SendingResult} (paired : Paired state)
    (established : Established state)
    (transition : Transition build state action state')
    (failed : state'.CallFailed index result) :
    state.CallFailed index result ∨ Failing build state index result action := by
  obtain ⟨call, found, answer, notSent⟩ := failed
  have added {isNew : Call S} (found : (state.calls ++ [isNew])[index]? = some call) :
      state.CallFailed index result ∨ isNew = call := by
    rcases getElem?_concat_eq_some.mp found with old | ⟨-, same⟩
    · exact .inl ⟨call, old, answer, notSent⟩
    · exact .inr same
  cases transition with
  | buffers | sends =>
      rcases added found with old | rfl
      · exact .inl old
      · cases answer
  | refuses networking =>
      rcases added found with old | rfl
      · exact .inl old
      · obtain rfl := SendingState.result.inj answer
        exact .inr (.refused networking rfl)
  | timesOut operation networking value =>
      exact .inr (.timedOut operation (established.timedOut value).2)
  | abandons networking =>
      obtain ⟨-, senders, messages, fresh⟩ := paired.buffered _ networking
      rw [settlePending_range _ senders, List.getElem?_map] at found
      obtain ⟨before, foundBefore, rfl⟩ := Option.map_eq_some_iff.mp found
      rw [fresh before (List.mem_of_getElem? foundBefore)] at answer
      obtain rfl := SendingState.result.inj answer
      refine .inr (.abandoned ?_ rfl)
      intro empty
      simp only [State.pendingSentMessages, networking] at empty
      rw [empty] at messages
      rw [List.map_eq_nil_iff.mp messages.symm] at foundBefore
      cases foundBefore
  | resumes foundSending connected allowed resumed =>
      obtain ⟨own, call', foundCall, -, ofTask⟩ := paired.carried _ _ foundSending
      simp only [own, List.getElem?_modify] at found
      split at found
      next same =>
        subst same
        rw [foundCall] at found
        obtain rfl := Option.some.inj found
        simp only at answer
        rw [ofTask, SendingPhase.settle_of_resume resumed] at answer
        refine .inr (.resumed ?_ resumed answer)
        simpa [State.closed, connected] using allowed
      next =>
        rw [id_map'] at found
        exact .inl ⟨call, found, answer, notSent⟩
  | _ => exact .inl ⟨call, found, answer, notSent⟩

/-- Neither the operations nor the failures of a transition end the connection. -/
theorem Transition.closed_of_operation (transition : Transition build state action state')
    (operation : action.isOperation = true) : state'.closed = state.closed := by
  cases transition with
  | pollsQueue networking already found => simp [State.closed, found]
  | abandons | closes | endsAttempt | creates | delivers | discards | givesUp | panics
  | resumes | receives | dropsLastHandle | drains => cases operation
  | meets isMeeting => cases action <;> cases operation <;> cases isMeeting
  | _ => rfl

theorem Transition.closed_of_failing {index : Nat} {result : SendingResult}
    (failing : Failing build state index result action)
    (transition : Transition build state action state') : state'.closed = state.closed := by
  cases failing with
  | timedOut operation => exact transition.closed_of_operation operation
  | refused => exact transition.closed_of_operation rfl
  | abandoned buffered =>
      cases transition with
      | abandons networking kept =>
          rcases kept with rfl | rfl
          · rfl
          · exact state.dropConnected_closed
      | closes networking => simp [State.pendingSentMessages, networking] at buffered
      | connects operation | timesOut operation => cases operation
      | meets isMeeting => cases isMeeting
  | resumed =>
      cases transition with
      | resumes => rfl
      | connects operation | timesOut operation => cases operation
      | meets isMeeting => cases isMeeting

/-- What fails because the connection is gone is told truthfully, if an answer of the
client's own is given after our own close. -/
theorem Failing.truthful {index : Nat} {result : SendingResult} {cause : ConnectionError}
    (established : Established state)
    (failing : Failing build state index result action)
    (allowed : answersOurClose state action) (closed : state.closed = some cause)
    (isLoss : ∀ answer, action.answered = some answer → answer.isLoss = true) :
    Truthful cause (.result result) := by
  have connected : state.connection ≠ none := by
    intro absent
    simp [State.closed, absent] at closed
  cases failing with
  | timedOut operation absent => exact absurd absent connected
  | refused networking result_eq =>
      have ours := allowed cause closed ⟨_, networking⟩
      subst result_eq
      rename_i whoClosed
      cases whoClosed with
      | us => exact truthful_weClosed_iff.mpr ours
      | thePeer | thePeerDidntEvenConnect =>
          exact absurd (established.unreached _ networking (by simp)).2 connected
  | abandoned buffered result_eq =>
      have ours := allowed cause closed buffered
      subst result_eq
      exact truthful_weClosed_iff.mpr ours
  | resumed answered resumes result_eq =>
      rw [closed] at answered
      rw [SendingPhase.resume_of_isLoss resumes (isLoss _ rfl) answered] at result_eq
      obtain rfl := SendingState.result.inj result_eq
      exact truthful_fromConnectionError cause

/-! ## What fails in a step -/

/-- The condition is on clients that are not `Connecting` too, but an operation keeps
what it is about. -/
theorem answersOurClose_of_operation (operation : action.isOperation = true)
    (transition : Transition build state action state')
    (established : Established state)
    (allowed : answersOurClose state action) : answersOurClose state' action := by
  intro cause closed called
  rw [transition.closed_of_operation operation] at closed
  cases action with
  | sendMessageToServer message =>
      obtain ⟨whoClosed, disconnected⟩ := called
      cases transition with
      | timesOut operation networking value =>
          simp [State.closed, (established.timedOut value).2] at closed
      | refuses networking => exact allowed cause closed ⟨_, networking⟩
      | connects | buffers => cases disconnected
      | sends networking =>
          rw [networking] at disconnected
          cases disconnected
      | meets isMeeting => cases isMeeting
  | disconnect => cases operation
  | _ => exact called.elim

/-- What fails in a step because the connection is gone is told truthfully, if an
answer of the client's own is given after our own close. -/
theorem truthful_of_step {before after : State S R} (paired : Paired before)
    (established : Established before) (allowed : answersOurClose before action)
    (stepped : step build before action = some after)
    (isLoss : ∀ answer, action.answered = some answer → answer.isLoss = true)
    {index : Nat} {result : SendingResult} {cause : ConnectionError}
    (closed : after.closed = some cause) (failed : after.CallFailed index result) :
    before.CallFailed index result ∨ Truthful cause (.result result) := by
  obtain ⟨middle, first, second⟩ := step_transitions stepped
  rcases first with rfl | ⟨operation, transition, -⟩
  · rcases second with rfl | transition
    · exact .inl failed
    · refine (transition.failing paired established failed).imp_right ?_
      intro failing
      rw [transition.closed_of_failing failing] at closed
      exact failing.truthful established allowed closed isLoss
  · have establishedMiddle := established.transition transition
    have allowedMiddle := answersOurClose_of_operation operation transition established allowed
    have closedMiddle : middle.closed = some cause := by
      rcases second with rfl | later
      · exact closed
      · rwa [later.closed_of_operation operation] at closed
    have closedBefore := closedMiddle
    rw [transition.closed_of_operation operation] at closedBefore
    have failedMiddle : middle.CallFailed index result ∨
        Truthful cause (.result result) := by
      rcases second with rfl | later
      · exact .inl failed
      · refine (later.failing (paired.transition transition) establishedMiddle
          failed).imp_right ?_
        intro failing
        exact failing.truthful establishedMiddle allowedMiddle closedMiddle isLoss
    rcases failedMiddle with failedMiddle | truthful
    · refine (transition.failing paired established failedMiddle).imp_right ?_
      intro failing
      exact failing.truthful established allowed closedBefore isLoss
    · exact .inr truthful

/-- The answer of a call, as a side that sends has it. -/
theorem answers_eq_some {index : Nat} {answer : SendingState} :
    ((sender build).answers state)[index]? = some answer ↔
      ∃ call, state.calls[index]? = some call ∧ getState call.result = answer := by
  simp [sender, List.getElem?_map]

/-- A failure is a result other than success. -/
theorem exists_result_of_hasFailed {answer : SendingState} (failed : answer.hasFailed = true) :
    ∃ result, answer = .result result ∧ result ≠ .sent := by
  cases answer with
  | stillBeingSent => cases failed
  | result result =>
      refine ⟨result, rfl, ?_⟩
      intro sent
      subst sent
      cases failed

theorem hasFailed_of_callFailed {index : Nat} {result : SendingResult}
    (failed : state.CallFailed index result) : (sender build).HasFailed state index := by
  obtain ⟨call, found, answer, notSent⟩ := failed
  refine ⟨.result result, answers_eq_some.mpr ⟨call, found, answer⟩, ?_⟩
  cases result with
  | sent => exact absurd rfl notSent
  | weClosed | peerClosedOrDied | error => rfl

/-- A step under the condition tells the truth. -/
theorem tellsTruthIn {before : State S R} (reachable : (system build).Reachable before)
    (allowed : answersOurClose before action) :
    (sender build).TellsTruthIn before action := by
  apply Sender.tellsTruthIn_of_stays
  · intro after cause call answer reachableAfter closed found failed last reached
    obtain ⟨ofCall, foundCall, rfl⟩ := answers_eq_some.mp found
    obtain ⟨result, answer, -⟩ := exists_result_of_hasFailed failed
    refine ⟨closed_stays (owned_of_reachable reachableAfter) closed reached, ?_⟩
    obtain ⟨kept, foundKept, -, answerKept⟩ :=
      answer_stays (paired_of_reachable reachableAfter) reached ⟨_, foundCall, rfl, answer⟩
    exact answers_eq_some.mpr ⟨kept, foundKept, answerKept.trans answer.symm⟩
  · exact reachable
  · intro after stepped call cause fails answer found failed
    obtain ⟨ofCall, foundCall, rfl⟩ := answers_eq_some.mp found
    obtain ⟨result, answer, notSent⟩ := exists_result_of_hasFailed failed
    rcases truthful_of_step (paired_of_reachable reachable)
      (established_of_reachable reachable) allowed stepped fails.isLoss fails.gone
      ⟨ofCall, foundCall, answer, notSent⟩ with already | truthful
    · exact absurd (hasFailed_of_callFailed already) fails.notBefore
    · rw [answer]
      exact truthful

/-! ## Answers that are not true -/

/-- A call that comes to answer `WeClosed` in a step that keeps another cause. -/
theorem not_tellsTruthIn {before after : State S R} {cause : ConnectionError} (call : Nat)
    (stepped : step build before action = some after)
    (notBefore : ¬ (sender build).HasFailed before call)
    (answered : ((sender build).answers after)[call]? = some (.result .weClosed))
    (closed : after.closed = some cause) (notTask : action.answered = none)
    (notOurs : cause ≠ .locallyClosed) : ¬ (sender build).TellsTruthIn before action := by
  intro tellsTruth
  have fails : (sender build).FailsAsGone before action after call cause := by
    refine ⟨notBefore, ⟨_, answered, rfl⟩, closed, ?_⟩
    intro answer sendingTask
    have impossible := notTask.symm.trans sendingTask
    cases impossible
  obtain ⟨-, answer, found, truthful⟩ :=
    tellsTruth after stepped call cause fails after System.Reaches.refl
  obtain rfl := Option.some.inj (answered.symm.trans found)
  exact notOurs (truthful_weClosed_iff.mp truthful)

/-- A message given to a client that disconnected after another end of the connection. -/
theorem untruthful_refusal {before : State S R} {message : S} {whoClosed : WhoClosed}
    {cause : ConnectionError} (established : Established before)
    (disconnected : before.networking = .disconnected whoClosed)
    (closed : before.closed = some cause) (notOurs : cause ≠ .locallyClosed) :
    ¬ (sender build).TellsTruthIn before (.sendMessageToServer message) := by
  have same : before.connectIfPossible = before := by
    simp [State.connectIfPossible, disconnected]
  have isUs : whoClosed = .us := by
    by_contra notUs
    have absent := (established.unreached whoClosed disconnected notUs).2
    simp [State.closed, absent] at closed
  subst isUs
  have stepped : step build before (.sendMessageToServer message) =
      some (before.sendMessage message) := by
    simp only [step, same]
  refine not_tellsTruthIn before.calls.length stepped ?_ ?_ ?_ rfl notOurs
  · intro failed
    obtain ⟨answer, found, -⟩ := failed
    obtain ⟨call, foundCall, -⟩ := answers_eq_some.mp found
    simp at foundCall
  · apply answers_eq_some.mpr
    simp only [State.sendMessage, disconnected]
    exact ⟨_, getElem?_concat_eq_some.mpr (.inr ⟨rfl, rfl⟩), rfl⟩
  · simp only [State.sendMessage, disconnected]
    exact closed

/-- Buffered messages of a client whose connection ended before it came out of the
channel. -/
theorem untruthful_abandonment {before : State S R} {cause : ConnectionError}
    (paired : Paired before) (buffered : before.pendingSentMessages ≠ [])
    (closed : before.closed = some cause) (notOurs : cause ≠ .locallyClosed) :
    ¬ (sender build).TellsTruthIn before .disconnect := by
  obtain ⟨connecting, networking, notEmpty⟩ := connecting_of_pending buffered
  obtain ⟨-, senders, messages, fresh⟩ := paired.buffered connecting networking
  have stepped : step build before .disconnect = some before.disconnect.2 := rfl
  have calls : before.disconnect.2.calls =
      before.calls.map fun call => { call with result := call.result.send .weClosed } := by
    simp only [State.disconnect, networking]
    exact settlePending_range _ senders
  have closedAfter : before.disconnect.2.closed = some cause := by
    simp only [State.disconnect, networking]
    split
    · exact before.dropConnected_closed.trans closed
    · exact closed
  cases given : before.calls with
  | nil =>
      rw [given] at messages
      exact absurd (List.map_eq_nil_iff.mp messages) notEmpty
  | cons first rest =>
      have isFresh := fresh first (by simp [given])
      refine not_tellsTruthIn 0 stepped ?_ ?_ closedAfter rfl notOurs
      · intro failed
        obtain ⟨answer, found, failed⟩ := failed
        obtain ⟨call, foundCall, rfl⟩ := answers_eq_some.mp found
        obtain rfl : first = call := by simpa [given] using foundCall
        rw [isFresh] at failed
        cases failed
      · apply answers_eq_some.mpr
        rw [calls, given]
        refine ⟨_, rfl, ?_⟩
        simp only [isFresh]
        rfl

/-- A step tells the truth if and only if it is under the condition. -/
theorem tellsTruthIn_iff {before : State S R}
    (reachable : (system build).Reachable before) :
    (sender build).TellsTruthIn before action ↔ answersOurClose before action := by
  constructor
  · intro tellsTruth cause closed called
    by_contra notOurs
    cases action with
    | sendMessageToServer message =>
        obtain ⟨whoClosed, disconnected⟩ := called
        exact untruthful_refusal (established_of_reachable reachable) disconnected closed
          notOurs tellsTruth
    | disconnect =>
        exact untruthful_abandonment (paired_of_reachable reachable) called closed notOurs
          tellsTruth
    | _ => exact called.elim
  · exact tellsTruthIn reachable

end Warqueen.Client
