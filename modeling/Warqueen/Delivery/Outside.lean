import Warqueen.Delivery.Rest

/-!
# A direction from outside

Which stream a sending task opened is a record for the proofs: the task itself only
knows the stream while it uses it, and no step looks at the record.  A direction whose
messages have forgotten their streams takes the same steps.
-/

namespace Warqueen.Delivery

open Concurrency Quinn Receiving Sending

variable {S R Event : Type} {side : ReceivingSide R Event} {wire : Wire S R}
variable {state state' : State S Event}

/-- The message without the record of its stream. -/
def OutgoingMessage.forgetStream (sending : OutgoingMessage S) : OutgoingMessage S :=
  { sending with stream := none }

/-- The direction without the records of the streams. -/
def State.forgetStreams (state : State S Event) : State S Event :=
  { state with sendings := state.sendings.map OutgoingMessage.forgetStream }

/-- A direction as it is seen from outside. -/
def outside (side : ReceivingSide R Event) (wire : Wire S R) :
    System (State S Event) (Action S) where
  init := .established
  step state action := (step side wire state action).map State.forgetStreams

@[simp] theorem forgetStream_forgetStream (sending : OutgoingMessage S) :
    sending.forgetStream.forgetStream = sending.forgetStream := rfl

@[simp] theorem forgetStreams_forgetStreams (state : State S Event) :
    state.forgetStreams.forgetStreams = state.forgetStreams := by
  simp [State.forgetStreams]

/-- Forgetting the streams before a step or after it is the same. -/
theorem step_forgetStreams (action : Action S) :
    (step side wire state.forgetStreams action).map State.forgetStreams =
      (step side wire state action).map State.forgetStreams := by
  cases action with
  | send message => simp [step, State.forgetStreams]
  | resume index answer =>
      simp only [step, resume, State.forgetStreams, List.getElem?_map]
      cases found : state.sendings[index]? with
      | none => rfl
      | some sending =>
          simp only [Option.map_some]
          change Option.map _ (if answer.allowed state.closed = true ∧
              state.answers wire sending.phase answer = true then
            (sending.phase.resume wire.encode sending.message answer).map _ else none) = _
          split
          · cases sending.phase.resume wire.encode sending.message answer with
            | none => rfl
            | some phase =>
                simp only [Option.map_some, Option.some.injEq, State.forgetStreams, List.map_set,
                  List.map_map]
                rfl
          · rfl
  | lose cause =>
      simp only [step, State.forgetStreams]
      split
      next up => simp [up, State.forgetStreams]
      next lost => simp [lost]
  | peer action =>
      simp only [step]
      change Option.map _ (if state.transports action = true then
        (Receiving.step side wire.decode state.peer action).map _ else none) = _
      split
      · cases Receiving.step side wire.decode state.peer action with
        | none => rfl
        | some peer => simp [State.forgetStreams]
      · rfl

/-! ## Its steps -/

section Seen

variable (side : ReceivingSide R Event) (wire : Wire S R)
variable (seen : state.forgetStreams = state)

include seen

theorem outside_sends {allowed : Action S → Prop} (messages : List S)
    (sends : ∀ message ∈ messages, allowed (.send message)) :
    (outside side wire).Reaches (fun _ action => allowed action) state
      { state with sendings := state.sendings ++ messages.map .start } := by
  have forgotten : state.sendings.map OutgoingMessage.forgetStream = state.sendings :=
    congrArg State.sendings seen
  induction messages using List.reverseRecOn with
  | nil =>
      rw [List.map_nil, List.append_nil]
      exact System.Reaches.refl
  | append_singleton messages last inductionHypothesis =>
      have earlier := inductionHypothesis fun message member => sends message (by simp [member])
      apply earlier.tail (sends last (by simp))
      have started : messages.map (OutgoingMessage.forgetStream ∘ OutgoingMessage.start) =
          messages.map .start := rfl
      simp [outside, step, State.forgetStreams, forgotten, started]
      rfl

theorem outside_lose (up : state.closed = none) (cause : ConnectionError) :
    (outside side wire).step state (.lose cause) =
      some { state with closed := some cause } := by
  have forgotten : state.sendings.map OutgoingMessage.forgetStream = state.sendings :=
    congrArg State.sendings seen
  simp [outside, step, up, State.forgetStreams, forgotten]

theorem outside_peer {action : Receiving.Action} {peer : Receiving.State Event}
    (transported : state.transports action = true)
    (stepped : Receiving.step side wire.decode state.peer action = some peer) :
    (outside side wire).step state (.peer action) = some { state with peer := peer } := by
  have forgotten : state.sendings.map OutgoingMessage.forgetStream = state.sendings :=
    congrArg State.sendings seen
  simp [outside, step, transported, stepped, State.forgetStreams, forgotten]

theorem outside_resume {index : Nat} {answer : Answer} {sending : OutgoingMessage S}
    {phase : SendingPhase} (found : state.sendings[index]? = some sending)
    (allowed : answer.allowed state.closed = true)
    (answered : state.answers wire sending.phase answer = true)
    (resumed : sending.phase.resume wire.encode sending.message answer = some phase) :
    (outside side wire).step state (.resume index answer) =
      some
        { state with
          sendings := state.sendings.set index (sending.advance phase).forgetStream
          outgoing := state.transmit sending.phase answer } := by
  have forgotten : state.sendings.map OutgoingMessage.forgetStream = state.sendings :=
    congrArg State.sendings seen
  simp [outside, step, resume, found, allowed, answered, resumed, State.forgetStreams,
    List.map_set, forgotten]

/-- A run of the peer that needs nothing of the network. -/
theorem outside_peer_run {peer : Receiving.State Event} {allowed : Receiving.Action → Prop}
    (quiet : ∀ (state : State S Event) action, allowed action →
      state.transports action = true)
    (ran : (Receiving.system side wire.decode).Reaches (fun _ action => allowed action)
      state.peer peer) :
    (outside side wire).Reaches
      (fun _ action => ∃ label, action = .peer label ∧ allowed label) state
      { state with peer := peer } := by
  have seenWith (peer : Receiving.State Event) :
      ({ state with peer := peer } : State S Event).forgetStreams =
        { state with peer := peer } :=
    congrArg (fun state : State S Event => { state with peer := peer }) seen
  induction ran with
  | refl => exact System.Reaches.refl
  | tail _ stepped inductionHypothesis =>
      obtain ⟨action, isAllowed, stepped⟩ := stepped
      exact inductionHypothesis.tail ⟨action, rfl, isAllowed⟩
        (outside_peer side wire (seenWith _) (quiet _ action isAllowed) stepped)

end Seen

/-- What is seen from outside is a direction without the records of its streams. -/
def outsideSimulation (side : ReceivingSide R Event) (wire : Wire S R)
    (guard : Action S → Prop) :
    Simulation (outside side wire) (fun _ action => guard action)
      (system side wire) (fun _ action => guard action) where
  related seen state := seen = state.forgetStreams
  init := rfl
  step := by
    intro seen state action after related allowed stepped
    subst related
    have same : (step side wire state action).map State.forgetStreams = some after := by
      rw [← step_forgetStreams]
      exact stepped
    obtain ⟨state', stepped', rfl⟩ := Option.map_eq_some_iff.mp same
    have steps : (system side wire).step state action = some state' := stepped'
    exact ⟨state', System.Reaches.single allowed steps, rfl⟩

/-- The records do not change how many steps are left. -/
theorem stepsLeft_forgetStreams :
    state.forgetStreams.stepsLeft wire = state.stepsLeft wire := by
  simp only [State.stepsLeft, State.forgetStreams, List.foldr_map]
  rfl

theorem outside_stepsLeft {action : Action S} (own : action.IsOwn)
    (stepped : (outside side wire).step state action = some state') :
    state'.stepsLeft wire < state.stepsLeft wire := by
  obtain ⟨after, steps, rfl⟩ := Option.map_eq_some_iff.mp stepped
  rw [stepsLeft_forgetStreams]
  exact step_stepsLeft own steps

/-- A direction is at rest when it is so from outside. -/
theorem stuck_of_outside (stuck : (outside side wire).Stuck Action.IsOwn state.forgetStreams) :
    (system side wire).Stuck Action.IsOwn state := by
  intro action own
  have stepped := stuck action own
  simp only [outside, step_forgetStreams, Option.map_eq_none_iff] at stepped
  exact stepped

/-- What has been delivered does not depend on the records. -/
theorem AllDelivered.forgetStreams {reads : Payload side}
    (delivered : AllDelivered reads wire state) :
    AllDelivered reads wire state.forgetStreams := by
  constructor
  · intro sending member
    obtain ⟨original, among, rfl⟩ := List.mem_map.mp member
    exact delivered.answered original among
  · intro sending member isSome
    obtain ⟨original, among, rfl⟩ := List.mem_map.mp member
    exact delivered.sent original among isSome
  · simp only [State.forgetStreams, List.filterMap_map]
    exact delivered.queued

end Warqueen.Delivery
