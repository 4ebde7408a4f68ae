import Warqueen.Client.Events
import Warqueen.Server.Partners

/-!
# The meetings of both sides

A client has at most one closing task, that of the `disconnect` that found it
`Connected`, and a server process has any number of them.  On both sides the parties
of a meeting find each other, unless a handle is dropped where that is forbidden.
-/

namespace Warqueen.Client

open Concurrency Disconnection Quinn Receiving Sending

variable {S R : Type} {build : Build S R} {state state' : State S R} {action : Action S}

/-- What a label says about the meeting, whose handle ends on this thread. -/
def meetingAction (thread : Thread) : Action S → Option MeetingAction
  | .closingTask => some .closingTaskWaits
  | .wait => some (.ends thread.waits)
  | .dropHandle => some (.ends thread.drops)
  | .finishWaiting => some .waitReturns
  | _ => none

/-- What the labels of a run say about the meeting. -/
def meetingActions (thread : Thread) (actions : List (Action S)) : List MeetingAction :=
  actions.filterMap (meetingAction thread)

/-- A client with a closing task disconnected. -/
def ClosedOnce (state : State S R) : Prop :=
  state.disconnection ≠ none → state.networking = .disconnected .us

theorem Transition.closedOnce (closedOnce : ClosedOnce state)
    (transition : Transition build state action state') : ClosedOnce state' := by
  intro closing
  cases transition with
  | closes => rfl
  | meets isMeeting found =>
      apply closedOnce
      simp [found]
  | abandons => rfl
  | connects operation networking | timesOut operation networking
  | buffers networking | pollsConnected networking | pollsFailed networking =>
      rw [closedOnce closing] at networking
      cases networking
  | _ => exact closedOnce closing

/-- The disconnection is as it was, or the first. -/
def KeepsDisconnection (before state : State S R) : Prop :=
  ClosedOnce state ∧ (state.disconnection = before.disconnection ∨
    before.disconnection = none ∧ state.disconnection = some .new)

theorem Transition.keepsDisconnection {before : State S R}
    (keeps : KeepsDisconnection before state) (notMeeting : action.isMeeting = false)
    (transition : Transition build state action state') :
    KeepsDisconnection before state' := by
  refine ⟨transition.closedOnce keeps.1, ?_⟩
  cases transition with
  | closes networking =>
      have none : state.disconnection = none := by
        by_contra closing
        rw [keeps.1 closing] at networking
        cases networking
      rcases keeps.2 with same | ⟨-, isNew⟩
      · exact .inr ⟨same.symm.trans none, rfl⟩
      · rw [none] at isNew
        cases isNew
  | meets isMeeting =>
      rw [notMeeting] at isMeeting
      cases isMeeting
  | _ => exact keeps.2

/-- A step of the meeting is one of the system of its own. -/
theorem step_meeting (thread : Thread) (isMeeting : action.isMeeting = true)
    (stepped : step build state action = some state') :
    ∃ disconnection disconnection' label, state.disconnection = some disconnection ∧
      state'.disconnection = some disconnection' ∧
      meetingAction thread action = some label ∧
      meet build.forbidHandleDrop disconnection label = some disconnection' := by
  cases action with
  | closingTask =>
      obtain ⟨disconnection, found, ⟨-, awaitsIdle⟩, rfl⟩ := onDisconnection_eq_some stepped
      exact ⟨disconnection, _, _, found, rfl, rfl, if_pos awaitsIdle⟩
  | wait =>
      obtain ⟨disconnection, found, held, rfl⟩ := onDisconnection_eq_some stepped
      refine ⟨disconnection, _, _, found, rfl, rfl, ?_⟩
      rw [← ends_waits build.forbidHandleDrop disconnection thread]
      exact if_pos held
  | finishWaiting =>
      obtain ⟨disconnection, found, released, rfl⟩ := onDisconnection_eq_some stepped
      exact ⟨disconnection, _, _, found, rfl, rfl, if_pos released⟩
  | dropHandle =>
      obtain ⟨disconnection, found, held, rfl⟩ := onDisconnection_eq_some stepped
      refine ⟨disconnection, _, _, found, rfl, rfl, ?_⟩
      rw [← ends_drops build.forbidHandleDrop disconnection thread]
      exact if_pos held
  | _ => cases isMeeting

/-- A run of the client is a run of its meeting. -/
theorem run_meeting (thread : Thread) {actions : List (Action S)}
    (ran : (system build).run .new actions = some state) :
    ClosedOnce state ∧
      match state.disconnection with
      | some disconnection => (meeting build.forbidHandleDrop).run .new
          (meetingActions thread actions) = some disconnection
      | none => meetingActions thread actions = [] := by
  refine System.run_history (fun actions (state : State S R) =>
    ClosedOnce state ∧
      match state.disconnection with
      | some disconnection => (meeting build.forbidHandleDrop).run .new
          (meetingActions thread actions) = some disconnection
      | none => meetingActions thread actions = []) ⟨by simp [ClosedOnce, State.new], rfl⟩
    ?_ ran
  intro actions before action after _ simulated stepped
  obtain ⟨closedOnce, simulated⟩ := simulated
  have split : meetingActions thread (actions ++ [action]) =
      meetingActions thread actions ++ meetingActions thread [action] :=
    List.filterMap_append
  rw [split]
  refine ⟨keeps_of_transitions ClosedOnce
    (fun _ _ closedOnce transition => transition.closedOnce closedOnce)
    closedOnce stepped, ?_⟩
  cases isMeeting : action.isMeeting with
  | true =>
      obtain ⟨disconnection, disconnection', label, found, found', labelled, continues⟩ :=
        step_meeting thread isMeeting stepped
      have single : meetingActions thread [action] = [label] := by
        simp [meetingActions, labelled]
      rw [found] at simulated
      rw [found', System.run_append, simulated, single]
      exact (System.run_singleton _ _).trans continues
  | false =>
      have nothing : meetingActions thread [action] = [] := by
        cases action <;> first | rfl | cases isMeeting
      have keeps := keeps_of_transitions (KeepsDisconnection before)
        (fun _ _ keeps transition => transition.keepsDisconnection keeps isMeeting)
        ⟨closedOnce, .inl rfl⟩ stepped
      rw [nothing, List.append_nil]
      rcases keeps.2 with same | ⟨none, isNew⟩
      · rw [same]
        exact simulated
      · rw [none] at simulated
        simp only at simulated
        rw [isNew, simulated]
        rfl

/-- In every run the parties of the disconnection find each other, and a wait returned
only after the endpoint was idle and the closing task went on. -/
def PartnersMeet (build : Build S R) : Prop :=
  ∀ (thread : Thread) actions state, (system build).run .new actions = some state →
    ∀ disconnection, state.disconnection = some disconnection →
      Partners build.forbidHandleDrop (meetingActions thread actions) disconnection ∧
      (disconnection.handle.waitedFor = true →
        ∃ earlier later before, actions = earlier ++ .closingTask :: later ∧
          (system build).run .new earlier = some before ∧ before.endpointIdle = true)

theorem partnersMeet (build : Build S R) : PartnersMeet build := by
  intro thread actions state ran disconnection found
  have simulated := (run_meeting thread ran).2
  rw [found] at simulated
  have partners := partners_of_run simulated
  refine ⟨partners, ?_⟩
  intro waitedFor
  obtain ⟨action, member, label⟩ := List.mem_filterMap.mp (partners.returned waitedFor)
  have isClosing : action = .closingTask := by
    simp only [meetingAction] at label
    split at label <;> simp_all
  subst isClosing
  obtain ⟨earlier, later, before, after, split, ranBefore, stepped⟩ :=
    System.exists_step_of_mem ran member
  obtain ⟨-, -, ⟨idle, -⟩, -⟩ := onDisconnection_eq_some stepped
  exact ⟨earlier, later, before, split, ranBefore, idle⟩

/-! ## Both sides -/

/-- On both sides and in every run the two parties of a disconnection find each other:
the handle's side arrives once, unless the handle was dropped where that is forbidden,
nobody arrives at a released barrier, and a wait returns only after `wait_idle`. -/
theorem disconnections_find_partners {S R : Type} (threadCount : Option ℕ+)
    (forbidHandleDrop : Bool) (build : Build S R) :
    Server.Process.PartnersMeet threadCount forbidHandleDrop ∧ PartnersMeet build :=
  ⟨Server.Process.partnersMeet threadCount forbidHandleDrop, partnersMeet build⟩

/-- A handle that is dropped on the main thread where that is forbidden. -/
def dropForbidden : List Server.ProcessAction :=
  [.arrive, .run .acceptLoop, .disconnect 0, .run (.endpointDriver 0), .dropHandle 0,
    .run (.closingTask 0)]

/-- Its side never arrives, and the closing task is blocked for good on the only
worker. -/
theorem dropped_handle_never_arrives :
    ∃ process call, (Server.Process.system none true).run .new dropForbidden =
        some process ∧
      process.calls[0]? = some call ∧ call.handle.holder = .gone ∧
      Server.asyncRuntime none = 1 ∧
      ∀ later, (Server.Process.system none true).Reaches System.always process later →
        ∃ call', later.calls[0]? = some call' ∧ call'.handleArrivals = 0 ∧
          call'.holdsWorker = true := by
  obtain ⟨process, ran, call, found, gone, arrived, noArrival, holdsWorker⟩ :
      ∃ process, (Server.Process.system none true).run .new dropForbidden =
          some process ∧
        ∃ call, process.calls[0]? = some call ∧ call.handle.holder = .gone ∧
          call.closingTask.isSome = true ∧ call.handleArrivals = 0 ∧
          call.holdsWorker = true :=
    ⟨_, rfl, _, rfl, rfl, rfl, rfl, by decide⟩
  refine ⟨process, call, ran, found, gone, rfl, ?_⟩
  intro later reached
  obtain ⟨call', found', same⟩ := Server.Process.call_stays found gone arrived reached
  exact ⟨call', found', by rw [same, noArrival], by rw [same, holdsWorker]⟩

end Warqueen.Client
