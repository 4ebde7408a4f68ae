import Warqueen.Client.Steps

/-!
# Messages sent before the connection

A message given to a client that is still `Connecting` waits in a buffer with the
sender of its result, and the transition to `Connected` starts a sending task for
each buffered message.  `Paired` says who carries what in every state; it follows
that the buffer cannot be seen from outside.
-/

namespace Warqueen.Client

open Concurrency Quinn Receiving Sending

variable {S R : Type} {build : Build S R} {state state' : State S R} {action : Action S}

/-- The messages that wait in the buffer. -/
def State.pendingSentMessages (state : State S R) : List (PendingMessage S) :=
  match state.networking with
  | .connecting connecting => connecting.pendingSentMessages
  | .connected _ | .disconnected _ => []

/-- Only a client that is `Connecting` has messages that wait. -/
theorem connecting_of_pending (pending : state.pendingSentMessages ≠ []) :
    ∃ connecting, state.networking = .connecting connecting ∧
      connecting.pendingSentMessages ≠ [] := by
  simp only [State.pendingSentMessages] at pending
  split at pending
  next connecting networking => exact ⟨connecting, networking, pending⟩
  next => exact absurd rfl pending
  next => exact absurd rfl pending

/-! ## Which task carries which message -/

/-- The sending task number `index` carries the message of that call, and the
channel of the call has what the task left in it.  While `Connecting` all calls
wait in the buffer, once `Connected` each has its task, and those that a
`Disconnected` client never started are answered. -/
structure Paired (state : State S R) : Prop where
  carried : ∀ (index : Nat) (sending : SendingTask S),
    state.sendings[index]? = some sending → sending.resultSender = index ∧
      ∃ call, state.calls[index]? = some call ∧ call.message = sending.message ∧
        call.result = sending.phase.settle .channel
  buffered : ∀ connecting, state.networking = .connecting connecting →
    state.sendings = [] ∧
      connecting.pendingSentMessages.map (·.resultSender) =
        List.range state.calls.length ∧
      connecting.pendingSentMessages.map (·.message) = state.calls.map (·.message) ∧
      ∀ call ∈ state.calls, call.result = .channel
  started : ∀ connected, state.networking = .connected connected →
    state.sendings.length = state.calls.length
  settled : ∀ whoClosed, state.networking = .disconnected whoClosed →
    ∀ (index : Nat) (call : Call S), state.sendings.length ≤ index →
      state.calls[index]? = some call → call.result.senderHeld = false

theorem new_paired : Paired (State.new : State S R) where
  carried := by simp [State.new]
  buffered := by
    intro connecting networking
    obtain rfl := ClientNetworking.connecting.inj networking
    simp [State.new]
  started := by simp [State.new]
  settled := by simp [State.new]

/-- Lists with the same images have related elements at the same places. -/
theorem exists_of_map_eq_map {α β γ : Type} {image : α → γ} {image' : β → γ}
    {elements : List α} {elements' : List β}
    (same : elements.map image = elements'.map image') {index : Nat} {element : α}
    (found : elements[index]? = some element) :
    ∃ element', elements'[index]? = some element' ∧ image' element' = image element := by
  have foundImage : (elements'.map image')[index]? = some (image element) := by
    rw [← same, List.getElem?_map, found, Option.map_some]
  rw [List.getElem?_map] at foundImage
  exact Option.map_eq_some_iff.mp foundImage

/-- The elements of a list with one more are the old ones and the new one. -/
theorem getElem?_concat_eq_some {α : Type} {elements : List α} {last element : α}
    {index : Nat} :
    (elements ++ [last])[index]? = some element ↔
      elements[index]? = some element ∨ index = elements.length ∧ last = element := by
  rcases Nat.lt_trichotomy index elements.length with lt | rfl | gt
  · rw [List.getElem?_append_left lt]
    simp [Nat.ne_of_lt lt]
  · simp
  · have outOfBounds : (elements ++ [last]).length ≤ index := by
      rw [List.length_append, List.length_singleton]
      exact gt
    rw [List.getElem?_eq_none outOfBounds, List.getElem?_eq_none (Nat.le_of_lt gt)]
    simp [Nat.ne_of_gt gt]

/-- Settling the messages of all calls settles every call. -/
theorem settlePending_range (settle : Oneshot SendingResult → Oneshot SendingResult)
    {pendingSentMessages : List (PendingMessage S)} {calls : List (Call S)}
    (all : pendingSentMessages.map (·.resultSender) = List.range calls.length) :
    State.settlePending settle pendingSentMessages calls =
      calls.map fun call => { call with result := settle call.result } := by
  let settleCall : Call S → Call S := fun call => { call with result := settle call.result }
  have first (count index : Nat) :
      ((List.range count).foldl (fun calls resultSender =>
        calls.modify resultSender settleCall) calls)[index]? =
        (calls[index]?).map (if index < count then settleCall else id) := by
    induction count with
    | zero => simp
    | succ count inductionHypothesis =>
        rw [List.range_succ, List.foldl_append, List.foldl_cons, List.foldl_nil,
          List.getElem?_modify, inductionHypothesis]
        cases calls[index]? with
        | none => rfl
        | some call =>
            rcases Nat.lt_trichotomy index count with lt | rfl | gt
            · simp [lt, Nat.lt_succ_of_lt lt, Nat.ne_of_gt lt]
            · simp
            · simp [Nat.not_lt_of_gt gt, Nat.ne_of_lt gt, Nat.not_lt.mpr gt]
  have every : State.settlePending settle pendingSentMessages calls =
      (List.range calls.length).foldl (fun calls resultSender =>
        calls.modify resultSender settleCall) calls := by
    rw [← all, List.foldl_map]
    rfl
  rw [every]
  apply List.ext_getElem?
  intro index
  rw [first, List.getElem?_map]
  by_cases inBounds : index < calls.length
  · simp [inBounds, settleCall]
  · simp [inBounds]

/-- A sending task that goes on changes the answer to its own call only. -/
theorem Paired.resumes (paired : Paired state) {index : Nat} {sending : SendingTask S}
    (found : state.sendings[index]? = some sending) {answer : Answer}
    {phase : SendingPhase}
    (resumed : sending.phase.resume build.encode sending.message answer = some phase) :
    Paired
      { state with
        sendings := state.sendings.set index { sending with phase := phase }
        calls := state.calls.modify sending.resultSender fun call =>
          { call with result := phase.settle call.result } } := by
  obtain ⟨own, call, foundCall, message, result⟩ := paired.carried index sending found
  have inBounds := (List.getElem?_eq_some_iff.mp found).1
  refine ⟨?_, ?_, ?_, ?_⟩
  · intro other sending' found'
    simp only [List.getElem?_modify, own]
    by_cases same : index = other
    · subst same
      simp only [List.getElem?_set_self inBounds, Option.some.injEq] at found'
      subst found'
      have settled : phase.settle call.result = phase.settle .channel := by
        rw [result, SendingPhase.settle_of_resume resumed]
      exact ⟨own, { call with result := phase.settle call.result },
        by simp [foundCall], message, settled⟩
    · simp only [List.getElem?_set_ne same] at found'
      obtain ⟨own', call', foundCall', carried⟩ := paired.carried other sending' found'
      exact ⟨own', call', by simp [same, foundCall'], carried⟩
  · intro connecting networking
    rw [(paired.buffered connecting networking).1] at found
    cases found
  · intro connected networking
    simpa using paired.started connected networking
  · intro whoClosed networking other call' later foundCall'
    rw [List.length_set] at later
    have different : index ≠ other := Nat.ne_of_lt (Nat.lt_of_lt_of_le inBounds later)
    simp only [own, List.getElem?_modify, different, if_false, id_map'] at foundCall'
    exact paired.settled whoClosed networking other call' later foundCall'

/-- Every transition keeps the pairing. -/
theorem Paired.transition (paired : Paired state)
    (transition : Transition build state action state') : Paired state' := by
  cases transition with
  | connects operation networking value =>
      obtain ⟨none, senders, messages, fresh⟩ := paired.buffered _ networking
      refine ⟨?_, by simp, ?_, by simp⟩
      · intro index sending found
        simp only [none, List.nil_append, List.getElem?_map, Option.map_eq_some_iff] at found
        obtain ⟨pendingMessage, found, rfl⟩ := found
        have sender : (List.range state.calls.length)[index]? =
            some pendingMessage.resultSender := by
          rw [← senders, List.getElem?_map, found, Option.map_some]
        obtain ⟨inBounds, sender⟩ := List.getElem?_eq_some_iff.mp sender
        rw [List.getElem_range] at sender
        obtain ⟨call, foundCall, message⟩ := exists_of_map_eq_map messages found
        exact ⟨sender.symm, call, foundCall, message,
          fresh call (List.mem_of_getElem? foundCall)⟩
      · intro connected _
        have length := congrArg List.length senders
        simpa [none] using length
  | timesOut operation networking value =>
      obtain ⟨none, senders, -, -⟩ := paired.buffered _ networking
      refine ⟨by simp [none], by simp, by simp, ?_⟩
      intro whoClosed _ index call _ foundCall
      rw [settlePending_range _ senders, List.getElem?_map] at foundCall
      obtain ⟨before, -, rfl⟩ := Option.map_eq_some_iff.mp foundCall
      rfl
  | abandons networking kept =>
      obtain ⟨none, senders, -, -⟩ := paired.buffered _ networking
      refine ⟨by simp [none], by simp, by simp, ?_⟩
      intro whoClosed _ index call _ foundCall
      rw [settlePending_range _ senders, List.getElem?_map] at foundCall
      obtain ⟨before, -, rfl⟩ := Option.map_eq_some_iff.mp foundCall
      exact Oneshot.send_senderHeld _ _
  | buffers networking value =>
      obtain ⟨none, senders, messages, fresh⟩ := paired.buffered _ networking
      refine ⟨by simp [none], ?_, by simp, by simp⟩
      intro connecting networking'
      obtain rfl := ClientNetworking.connecting.inj networking'
      refine ⟨none, by simp [senders, List.range_succ], by simp [messages], ?_⟩
      intro call member
      rcases List.mem_append.mp member with old | isNew
      · exact fresh call old
      · rw [List.mem_singleton.mp isNew]
  | sends networking =>
      have length := paired.started _ networking
      refine ⟨?_, by simp [networking], by simp [length], by simp [networking]⟩
      intro index sending found
      rcases getElem?_concat_eq_some.mp found with old | ⟨rfl, rfl⟩
      · obtain ⟨own, call, foundCall, carried⟩ := paired.carried index sending old
        exact ⟨own, call, getElem?_concat_eq_some.mpr (.inl foundCall), carried⟩
      · exact ⟨length.symm, _, getElem?_concat_eq_some.mpr (.inr ⟨length, rfl⟩), rfl, rfl⟩
  | refuses networking =>
      refine ⟨?_, by simp [networking], by simp [networking], ?_⟩
      · intro index sending found
        obtain ⟨own, call, foundCall, carried⟩ := paired.carried index sending found
        exact ⟨own, call, getElem?_concat_eq_some.mpr (.inl foundCall), carried⟩
      · intro whoClosed networking' index call later foundCall
        rcases getElem?_concat_eq_some.mp foundCall with old | ⟨-, rfl⟩
        · exact paired.settled whoClosed networking' index call later old
        · exact Oneshot.send_senderHeld _ _
  | pollsConnected networking notYet =>
      exact ⟨paired.carried, by simp, fun _ _ => paired.started _ networking, by simp⟩
  | pollsFailed networking =>
      exact ⟨paired.carried, by simp, by simp, fun _ _ => paired.settled _ networking⟩
  | closes networking =>
      refine ⟨paired.carried, by simp, by simp, ?_⟩
      intro whoClosed _ index call later foundCall
      have inBounds := (List.getElem?_eq_some_iff.mp foundCall).1
      have length := paired.started _ networking
      simp only [State.dropConnected, State.close] at later inBounds
      omega
  | resumes found connected allowed resumed => exact paired.resumes found resumed
  | pollsQueue | endsAttempt | creates | delivers | discards | givesUp | panics | receives
  | dropsLastHandle | drains | meets =>
      exact ⟨paired.carried, paired.buffered, paired.started, paired.settled⟩

theorem Paired.step (paired : Paired state) (stepped : step build state action = some state') :
    Paired state' :=
  keeps_of_transitions Paired
    (fun _ _ paired transition => paired.transition transition) paired stepped

theorem paired_of_reachable (reachable : (system build).Reachable state) : Paired state :=
  reachable.invariant Paired new_paired fun _ _ _ _ paired stepped => paired.step stepped

/-- A task that can go on has not answered. -/
theorem SendingTask.stillBeingSent_of_resume {sending : SendingTask S} {answer : Answer}
    {phase : SendingPhase}
    (resumed : sending.phase.resume build.encode sending.message answer = some phase) :
    getState (sending.phase.settle .channel) = .stillBeingSent := by
  rw [SendingPhase.settle_of_resume resumed]
  rfl

/-- The call has this answer, which is a result. -/
def State.AnsweredWith (state : State S R) (index : Nat) (message : S)
    (result : SendingResult) : Prop :=
  ∃ call, state.calls[index]? = some call ∧ call.message = message ∧
    getState call.result = .result result

/-- Results stay as they are. -/
theorem Transition.answer_stays (paired : Paired state) {index : Nat} {message : S}
    {result : SendingResult} (answered : state.AnsweredWith index message result)
    (transition : Transition build state action state') :
    state'.AnsweredWith index message result := by
  obtain ⟨call, found, ofCall, answer⟩ := answered
  cases transition with
  | buffers | sends | refuses =>
      exact ⟨call, getElem?_concat_eq_some.mpr (.inl found), ofCall, answer⟩
  | timesOut operation networking | abandons networking =>
      obtain ⟨-, -, -, fresh⟩ := paired.buffered _ networking
      rw [fresh call (List.mem_of_getElem? found)] at answer
      cases answer
  | resumes foundSending connected allowed resumed =>
      obtain ⟨own, call', foundCall, -, ofTask⟩ := paired.carried _ _ foundSending
      refine ⟨call, ?_, ofCall, answer⟩
      simp only [own, List.getElem?_modify, found]
      split
      next same =>
        subst same
        obtain rfl := Option.some.inj (found.symm.trans foundCall)
        rw [ofTask, SendingTask.stillBeingSent_of_resume resumed] at answer
        cases answer
      next => rfl
  | _ => exact ⟨call, found, ofCall, answer⟩

theorem answer_stays {before after : State S R} (paired : Paired before)
    (reached : (system build).Reaches System.always before after) {index : Nat}
    {message : S} {result : SendingResult}
    (answered : before.AnsweredWith index message result) :
    after.AnsweredWith index message result := by
  have kept := reached.invariant
    (fun state => Paired state ∧ state.AnsweredWith index message result)
    ⟨paired, answered⟩ fun _ _ _ _ kept _ stepped =>
      keeps_of_transitions
        (fun state => Paired state ∧ state.AnsweredWith index message result)
        (fun _ _ kept transition =>
          ⟨kept.1.transition transition, transition.answer_stays kept.1 kept.2⟩)
        kept stepped
  exact kept.2

/-- The sending tasks of a `Connected` client and the calls correspond. -/
theorem Paired.map_eq {α : Type} (paired : Paired state)
    {connected : ClientNetworkingConnected}
    (networking : state.networking = .connected connected)
    {ofCall : Call S → α} {ofSending : SendingTask S → α}
    (same : ∀ call sending, call.message = sending.message →
      call.result = sending.phase.settle .channel → ofCall call = ofSending sending) :
    state.calls.map ofCall = state.sendings.map ofSending := by
  apply List.ext_getElem?
  intro index
  rw [List.getElem?_map, List.getElem?_map]
  cases found : state.sendings[index]? with
  | some sending =>
      obtain ⟨-, call, foundCall, message, result⟩ := paired.carried index sending found
      simp [foundCall, same call sending message result]
  | none =>
      rw [List.getElem?_eq_none_iff, paired.started connected networking,
        ← List.getElem?_eq_none_iff] at found
      simp [found]

/-- The tasks of a `Connected` client send their results to the calls in order. -/
theorem Paired.resultSenders (paired : Paired state)
    {connected : ClientNetworkingConnected}
    (networking : state.networking = .connected connected) :
    state.sendings.map (·.resultSender) = List.range state.calls.length := by
  rw [← paired.started connected networking]
  apply List.ext_getElem?
  intro index
  rw [List.getElem?_map]
  cases found : state.sendings[index]? with
  | some sending =>
      have inBounds := (List.getElem?_eq_some_iff.mp found).1
      simp [(paired.carried index sending found).1, inBounds]
  | none => simpa using found

/-! ## The calls of a run -/

/-- The messages that the application gave in a run. -/
def messagesGiven (actions : List (Action S)) : List S :=
  actions.filterMap fun
    | .sendMessageToServer message => some message
    | _ => none

/-- An update that an image does not show is not shown by the image of the list. -/
theorem map_modify_of_same {α β : Type} {image : α → β} {update : α → α}
    (same : ∀ element, image (update element) = image element) (elements : List α)
    (index : Nat) : (elements.modify index update).map image = elements.map image := by
  apply List.ext_getElem?
  intro other
  rw [List.getElem?_map, List.getElem?_map, List.getElem?_modify]
  by_cases equal : index = other
  · cases elements[other]? <;> simp [equal, same]
  · simp [equal]

/-- Settling keeps the messages of the calls. -/
theorem settlePending_messages (settle : Oneshot SendingResult → Oneshot SendingResult)
    (pendingSentMessages : List (PendingMessage S)) (calls : List (Call S)) :
    (State.settlePending settle pendingSentMessages calls).map (·.message) =
      calls.map (·.message) := by
  induction pendingSentMessages generalizing calls with
  | nil => rfl
  | cons pendingMessage rest inductionHypothesis =>
      apply (inductionHypothesis _).trans
      apply map_modify_of_same
      intro call
      rfl

/-- Only a call of `send_message_to_server` adds a call. -/
theorem Transition.messages (transition : Transition build state action state')
    (notSend : ∀ message, action ≠ .sendMessageToServer message) :
    state'.calls.map (·.message) = state.calls.map (·.message) := by
  cases transition with
  | timesOut => exact settlePending_messages .dropSender _ _
  | abandons => exact settlePending_messages (·.send .weClosed) _ _
  | resumes =>
      apply map_modify_of_same
      intro call
      rfl
  | buffers | sends | refuses => exact absurd rfl (notSend _)
  | _ => rfl

/-- Each step adds to the calls what the application gave. -/
theorem step_messages (stepped : step build state action = some state') :
    state'.calls.map (·.message) =
      state.calls.map (·.message) ++ messagesGiven [action] := by
  have others (notSend : ∀ message, action ≠ .sendMessageToServer message) :
      state'.calls.map (·.message) = state.calls.map (·.message) := by
    refine keeps_of_transitions
      (fun after => after.calls.map (·.message) = state.calls.map (·.message)) ?_ rfl stepped
    intro before after same transition
    exact (transition.messages notSend).trans same
  cases action with
  | sendMessageToServer message =>
      obtain rfl := Option.some.inj stepped
      have connects : state.connectIfPossible.calls.map (·.message) =
          state.calls.map (·.message) := by
        have operation : (Action.pollEventFromServer : Action S).isOperation = true := rfl
        rcases connectIfPossible_cases build state operation with
          ⟨same, -⟩ | ⟨transition, -⟩
        · rw [same]
        · exact transition.messages (by simp)
      rw [← connects]
      simp only [State.sendMessage]
      split <;> simp [messagesGiven]
  | _ => simpa [messagesGiven] using others (by simp)

/-- The calls of a run have its messages in order. -/
theorem messages_of_run {start : State S R} (none : start.calls = [])
    {actions : List (Action S)} (ran : (system build).run start actions = some state) :
    state.calls.map (·.message) = messagesGiven actions := by
  refine System.run_history
    (fun actions (state : State S R) =>
      state.calls.map (·.message) = messagesGiven actions) ?_ ?_ ran
  · simp [none, messagesGiven]
  · intro actions before action after _ same stepped
    rw [step_messages stepped, same]
    exact List.filterMap_append.symm

/-- Every step of a run keeps the pairing. -/
theorem paired_of_run {start : State S R} (paired : Paired start)
    {actions : List (Action S)} (ran : (system build).run start actions = some state) :
    Paired state :=
  System.run_history (fun _ state => Paired state) paired
    (fun _ _ _ _ _ paired stepped => paired.step stepped) ran

/-- A `Connected` client has started what the application gave, in order. -/
theorem Paired.started_of_run {start : State S R} (paired : Paired start)
    (none : start.calls = []) {actions : List (Action S)}
    (ran : (system build).run start actions = some state)
    {connected : ClientNetworkingConnected}
    (networking : state.networking = .connected connected) :
    state.sendings.map (·.message) = messagesGiven actions ∧
      state.sendings.map (·.resultSender) = List.range (messagesGiven actions).length := by
  have pairedAfter := paired_of_run paired ran
  have messages := messages_of_run none ran
  constructor
  · rw [← messages]
    exact (pairedAfter.map_eq networking fun _ _ message _ => message).symm
  · rw [pairedAfter.resultSenders networking, ← messages, List.length_map]

/-! ## A client that is connected from the start -/

/-- A client whose connection is established and known to be at the start. -/
def State.connectedFromStart : State S R :=
  { State.new with
    networking := .connected { connectedEventAlreadyPolled := false }
    connectedClient := Oneshot.channel.dropSender.dropReceiver
    connectingTask := .ended
    connection := some { Receiving.State.established with acceptTask := .running } }

theorem connectedFromStart_paired : Paired (State.connectedFromStart : State S R) where
  carried := by simp [State.connectedFromStart, State.new]
  buffered := by simp [State.connectedFromStart]
  started := by simp [State.connectedFromStart, State.new]
  settled := by simp [State.connectedFromStart]

/-- A `Connected` client stays so until it disconnects. -/
theorem Transition.connected (transition : Transition build state action state')
    (notDisconnect : action ≠ .disconnect)
    (connected : ∃ connected, state.networking = .connected connected) :
    ∃ connected, state'.networking = .connected connected := by
  obtain ⟨connected, isConnected⟩ := connected
  cases transition with
  | connects | pollsConnected => exact ⟨_, rfl⟩
  | timesOut operation networking | buffers networking =>
      rw [isConnected] at networking
      cases networking
  | pollsFailed networking =>
      rw [isConnected] at networking
      cases networking
  | abandons | closes => exact absurd rfl notDisconnect
  | _ => exact ⟨connected, isConnected⟩

/-- The same operations on a client that is connected from the start. -/
theorem exists_run_connectedFromStart (build : Build S R) (actions : List (Action S)) :
    ∃ state, (system build).run .connectedFromStart
        (actions.filter Action.isOperation) = some state ∧
      ∃ connected, state.networking = .connected connected := by
  have enabled (before : State S R) (action : Action S)
      (operation : action.isOperation = true) :
      ∃ after, (system build).step before action = some after := by
    cases action with
    | sendMessageToServer | pollEventFromServer => exact ⟨_, rfl⟩
    | _ => cases operation
  obtain ⟨state, ran⟩ := System.exists_run .connectedFromStart
    (fun action => action.isOperation = true) enabled (actions.filter Action.isOperation)
    (by simp)
  have reached := System.reaches_of_run (fun action => action ≠ .disconnect)
    (by
      intro action member same
      subst same
      simp [Action.isOperation] at member) ran
  refine ⟨state, ran, reached.invariant
    (fun state => ∃ connected, state.networking = .connected connected) ⟨_, rfl⟩ ?_⟩
  intro before action after _ connected notDisconnect stepped
  exact keeps_of_transitions
    (fun state => ∃ connected, state.networking = .connected connected)
    (fun _ _ connected transition => transition.connected notDisconnect connected)
    connected stepped

/-- The messages of a run do not depend on what is not an operation. -/
theorem messagesGiven_operations (actions : List (Action S)) :
    messagesGiven (actions.filter Action.isOperation) =
      messagesGiven actions := by
  simp only [messagesGiven]
  rw [List.filterMap_filter]
  congr 1
  funext action
  cases action <;> simp [Action.isOperation]

/-! ## The buffer cannot be seen -/

/-- In the state after a run, no task was started while `Connecting`; once
`Connected` the buffer is empty, the tasks carry the given messages in order, each
handle answers the result of the task of its own call, and the tasks are those of
a client that is connected from the start. -/
structure InvisiblyBuffered (build : Build S R) (actions : List (Action S))
    (state : State S R) : Prop where
  calls : state.calls.map (·.message) = messagesGiven actions
  noneStarted : ∀ connecting, state.networking = .connecting connecting →
    state.sendings = []
  asGiven : ∀ connected, state.networking = .connected connected →
    state.sendings.map (·.message) = messagesGiven actions
  bufferEmpty : ∀ connected, state.networking = .connected connected →
    state.pendingSentMessages = []
  ownHandle : ∀ connected, state.networking = .connected connected →
    state.calls.map (fun call => getState call.result) =
      state.sendings.map fun sending => sending.phase.answer
  asIfConnected : ∀ connected, state.networking = .connected connected →
    ∃ fromStart : State S R, (system build).run .connectedFromStart
        (actions.filter Action.isOperation) = some fromStart ∧
      fromStart.sendings.map (fun sending => (sending.message, sending.resultSender)) =
        state.sendings.map fun sending => (sending.message, sending.resultSender)

/-- In every run, whenever the connection becomes established, the buffer cannot
be seen. -/
theorem buffering_is_invisible (build : Build S R) (actions : List (Action S))
    (state : State S R) (ran : (system build).run .new actions = some state) :
    InvisiblyBuffered build actions state := by
  have paired := paired_of_run new_paired ran
  refine ⟨messages_of_run rfl ran, ?_, ?_, ?_, ?_, ?_⟩
  · intro connecting networking
    exact (paired.buffered connecting networking).1
  · intro connected networking
    exact (new_paired.started_of_run rfl ran networking).1
  · intro connected networking
    simp [State.pendingSentMessages, networking]
  · intro connected networking
    refine paired.map_eq networking ?_
    intro call sending _ result
    rw [result, getState_settle]
  · intro connected networking
    obtain ⟨fromStart, ranFromStart, other, networkingFromStart⟩ :=
      exists_run_connectedFromStart build actions
    refine ⟨fromStart, ranFromStart, ?_⟩
    obtain ⟨messages, resultSenders⟩ := new_paired.started_of_run rfl ran networking
    obtain ⟨messages', resultSenders'⟩ := connectedFromStart_paired.started_of_run rfl
      ranFromStart networkingFromStart
    rw [messagesGiven_operations] at messages' resultSenders'
    rw [← List.zip_map', ← List.zip_map', messages, messages', resultSenders,
      resultSenders']

/-- MessagePack of booleans, sent to a server that answers with the unit value. -/
def booleans : Build Bool Unit where
  encode message := some [if message then 0xc3 else 0xc2]
  decode := decodeUnit
  forbidHandleDrop := false

/-- Two messages, of which the second makes the transition to `Connected`. -/
def sendAroundConnection : List (Action Bool) :=
  [.sendMessageToServer true, .endAttempt .connected, .pollEventFromServer,
    .connectingTask, .connectingTask, .sendMessageToServer false,
    .sendingTask 0 .polled, .sendingTask 0 (.opened (.ok 0))]

theorem buffering_is_invisible_around_connection :
    ∃ state, (system booleans).run .new sendAroundConnection = some state ∧
      state.networking = .connected { connectedEventAlreadyPolled := false } ∧
      InvisiblyBuffered booleans sendAroundConnection state :=
  ⟨_, rfl, rfl, buffering_is_invisible booleans sendAroundConnection _ rfl⟩

end Warqueen.Client
