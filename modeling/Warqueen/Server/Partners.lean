import Warqueen.Disconnection.Meeting
import Warqueen.Server.Process

/-!
# The meetings of a server process

Every call of `disconnect` is a meeting of its own: what a run of the process does to
one call is a run of that meeting, whatever happens to the other calls meanwhile.
-/

namespace Warqueen.Server.Process

open Concurrency Disconnection

variable {workers : Nat} {threadCount : Option ℕ+} {forbidHandleDrop : Bool}
variable {process process' : Process} {action : ProcessAction} {index : Nat}
variable {threads : Nat → Thread}

/-- What a label says about the meeting of a call, whose handle ends on this thread. -/
def meetingAction (threads : Nat → Thread) (call : Nat) :
    ProcessAction → Option MeetingAction
  | .run (.closingTask other) => if other = call then some .closingTaskWaits else none
  | .wait other => if other = call then some (.ends (threads other).waits) else none
  | .dropHandle other => if other = call then some (.ends (threads other).drops) else none
  | .finishWaiting other => if other = call then some .waitReturns else none
  | _ => none

/-- What the labels of a run say about the meeting of a call. -/
def meetingActions (threads : Nat → Thread) (call : Nat) (actions : List ProcessAction) :
    List MeetingAction :=
  actions.filterMap (meetingAction threads call)

/-- What one step does to one call is a run of its meeting, of one step or none. -/
structure StepsCall (forbidHandleDrop : Bool) (threads : Nat → Thread)
    (action : ProcessAction) (index : Nat) (process process' : Process) : Prop where
  old : ∀ call, process.calls[index]? = some call →
    ∃ call', process'.calls[index]? = some call' ∧
      (meeting forbidHandleDrop).run call.toDisconnection
          (meetingActions threads index [action]) = some call'.toDisconnection
  isNew : process.calls[index]? = none →
    meetingActions threads index [action] = [] ∧
      ∀ call, process'.calls[index]? = some call → call.toDisconnection = .new

theorem stepsCall_of_same (calls : process'.calls = process.calls)
    (nothing : meetingAction threads index action = none) :
    StepsCall forbidHandleDrop threads action index process process' := by
  have none : meetingActions threads index [action] = [] := by
    simp [meetingActions, nothing]
  constructor
  · intro call found
    exact ⟨call, by rw [calls, found], by rw [none]; rfl⟩
  · intro absent
    refine ⟨none, ?_⟩
    intro call found
    rw [calls, absent] at found
    cases found

/-- A step on one call. -/
theorem stepsCall_of_update {other : Nat} {update : Disconnection → Disconnection}
    {label : MeetingAction}
    (labelled : ∀ call, meetingAction threads call action =
      if other = call then some label else none)
    (isCall : ∃ call, process.calls[other]? = some call)
    (stepped : ∀ call, process.calls[other]? = some call →
      meet forbidHandleDrop call.toDisconnection label =
        some (update call.toDisconnection)) (index : Nat) :
    StepsCall forbidHandleDrop threads action index process
      (process.updateCall other update) := by
  by_cases same : other = index
  · subst same
    have isLabel : meetingActions threads other [action] = [label] := by
      simp [meetingActions, labelled]
    constructor
    · intro call found
      refine ⟨{ call with toDisconnection := update call.toDisconnection }, ?_, ?_⟩
      · simp [updateCall_calls, found]
      · rw [isLabel, System.run_singleton]
        exact stepped call found
    · intro absent
      obtain ⟨call, found⟩ := isCall
      rw [absent] at found
      cases found
  · have none : meetingActions threads index [action] = [] := by
      simp [meetingActions, labelled, same]
    constructor
    · intro call found
      refine ⟨call, by simp [updateCall_calls, found, same], ?_⟩
      rw [none]
      rfl
    · intro absent
      refine ⟨none, ?_⟩
      intro call found
      simp [updateCall_calls, absent] at found

theorem stepsCall (threads : Nat → Thread)
    (stepped : step workers forbidHandleDrop process action = some process')
    (index : Nat) : StepsCall forbidHandleDrop threads action index process process' := by
  cases action with
  | run task =>
      simp only [step, Option.ite_none_right_eq_some, Option.some.injEq] at stepped
      obtain ⟨⟨woken, -⟩, rfl⟩ := stepped
      cases task with
      | acceptLoop | endpointDriver | other => exact stepsCall_of_same rfl rfl
      | closingTask other =>
          obtain ⟨call, found, awaitsIdle⟩ := Option.map_eq_some_iff.mp woken.2
          refine stepsCall_of_update (fun _ => rfl) ⟨call, found⟩ ?_ index
          intro call' found'
          obtain rfl := Option.some.inj (found.symm.trans found')
          exact if_pos awaitsIdle
  | arrive | spawn =>
      obtain rfl := Option.some.inj stepped
      exact stepsCall_of_same rfl rfl
  | lose | wake =>
      simp only [step, Option.ite_none_right_eq_some, Option.some.injEq] at stepped
      obtain ⟨-, rfl⟩ := stepped
      exact stepsCall_of_same rfl rfl
  | disconnect connection =>
      simp only [step, Option.ite_none_right_eq_some, Option.some.injEq] at stepped
      obtain ⟨-, rfl⟩ := stepped
      constructor
      · intro call found
        have inBounds := (List.getElem?_eq_some_iff.mp found).1
        refine ⟨call, ?_, rfl⟩
        exact (List.getElem?_append_left inBounds).trans found
      · intro absent
        refine ⟨rfl, ?_⟩
        intro call found
        have outOfBounds := List.getElem?_eq_none_iff.mp absent
        have last := (List.getElem?_append_right outOfBounds).symm.trans found
        rw [List.getElem?_singleton] at last
        split at last
        · obtain rfl := Option.some.inj last
          rfl
        · cases last
  | wait other =>
      simp only [step, Option.ite_none_right_eq_some, Option.some.injEq] at stepped
      obtain ⟨held, rfl⟩ := stepped
      obtain ⟨call, found, held⟩ := Option.map_eq_some_iff.mp held
      refine stepsCall_of_update (fun _ => rfl) ⟨call, found⟩ ?_ index
      intro call' found'
      obtain rfl := Option.some.inj (found.symm.trans found')
      rw [← ends_waits forbidHandleDrop call.toDisconnection (threads other)]
      exact if_pos held
  | finishWaiting other =>
      simp only [step, Option.ite_none_right_eq_some, Option.some.injEq] at stepped
      obtain ⟨finishes, rfl⟩ := stepped
      obtain ⟨call, found, waiting⟩ := (Option.any_eq_true _ _).mp finishes
      refine stepsCall_of_update (fun _ => rfl) ⟨call, found⟩ ?_ index
      intro call' found'
      obtain rfl := Option.some.inj (found.symm.trans found')
      exact if_pos (by simpa using waiting)
  | dropHandle other =>
      simp only [step, Option.ite_none_right_eq_some, Option.some.injEq] at stepped
      obtain ⟨held, rfl⟩ := stepped
      obtain ⟨call, found, held⟩ := Option.map_eq_some_iff.mp held
      refine stepsCall_of_update (fun _ => rfl) ⟨call, found⟩ ?_ index
      intro call' found'
      obtain rfl := Option.some.inj (found.symm.trans found')
      rw [← ends_drops forbidHandleDrop call.toDisconnection (threads other)]
      exact if_pos held

/-- A run of the process is a run of the meeting of each call. -/
theorem run_meeting (threads : Nat → Thread) {actions : List ProcessAction}
    (ran : (system threadCount forbidHandleDrop).run .new actions = some process)
    (index : Nat) :
    match process.calls[index]? with
    | some call => (meeting forbidHandleDrop).run .new
        (meetingActions threads index actions) = some call.toDisconnection
    | none => meetingActions threads index actions = [] := by
  refine System.run_history (fun actions process =>
    match process.calls[index]? with
    | some call => (meeting forbidHandleDrop).run .new
        (meetingActions threads index actions) = some call.toDisconnection
    | none => meetingActions threads index actions = []) rfl ?_ ran
  intro actions before action after _ simulated stepped
  obtain ⟨old, isNew⟩ := stepsCall threads stepped index
  have split : meetingActions threads index (actions ++ [action]) =
      meetingActions threads index actions ++ meetingActions threads index [action] :=
    List.filterMap_append
  rw [split]
  cases found : before.calls[index]? with
  | some call =>
      rw [found] at simulated
      obtain ⟨call', found', continues⟩ := old call found
      rw [found', System.run_append, simulated]
      exact continues
  | none =>
      rw [found] at simulated
      obtain ⟨nothing, fresh⟩ := isNew found
      simp only at simulated
      rw [simulated, nothing]
      cases found' : after.calls[index]? with
      | none => rfl
      | some call => exact congrArg some (fresh call found').symm

/-- A call whose handle is gone stays as it is once its closing task arrived. -/
theorem call_stays {call : Call} (found : process.calls[index]? = some call)
    (gone : call.handle.holder = .gone) (arrived : call.closingTask.isSome = true)
    {later : Process}
    (reached : (system threadCount forbidHandleDrop).Reaches System.always process later) :
    ∃ call', later.calls[index]? = some call' ∧
      call'.toDisconnection = call.toDisconnection := by
  refine reached.invariant (fun later => ∃ call', later.calls[index]? = some call' ∧
    call'.toDisconnection = call.toDisconnection) ⟨call, found, rfl⟩ ?_
  intro before action after _ same _ stepped
  obtain ⟨before', foundBefore, same⟩ := same
  let threads : Nat → Thread := fun _ => { isMainThread := true, panicking := false }
  obtain ⟨after', foundAfter, ran⟩ :=
    (stepsCall threads stepped index).old before' foundBefore
  refine ⟨after', foundAfter, ?_⟩
  rw [same] at ran
  cases label : meetingAction threads index action with
  | none =>
      simp only [meetingActions, List.filterMap_cons, label, List.filterMap_nil] at ran
      exact (Option.some.inj ran).symm
  | some meetingAction =>
      simp only [meetingActions, List.filterMap_cons, label, List.filterMap_nil,
        System.run_singleton] at ran
      have impossible := (meet_of_gone gone arrived meetingAction).symm.trans ran
      cases impossible

/-- A closing task arrives when the endpoint is idle. -/
theorem idle_of_closingTaskWaits {actions : List ProcessAction}
    (ran : (system threadCount forbidHandleDrop).run .new actions = some process)
    (arrived : .closingTaskWaits ∈ meetingActions threads index actions) :
    ∃ earlier later before, actions = earlier ++ .run (.closingTask index) :: later ∧
      (system threadCount forbidHandleDrop).run .new earlier = some before ∧
      before.Idle := by
  obtain ⟨action, member, label⟩ := List.mem_filterMap.mp arrived
  have isClosing : action = .run (.closingTask index) := by
    simp only [meetingAction] at label
    split at label <;> simp_all
  subst isClosing
  obtain ⟨earlier, later, before, after, split, ranBefore, stepped⟩ :=
    System.exists_step_of_mem ran member
  simp only [system, step, Option.ite_none_right_eq_some] at stepped
  exact ⟨earlier, later, before, split, ranBefore, stepped.1.1.1⟩

/-- In every run the parties of every call of `disconnect` find each other, and a wait
returned only after the endpoint was idle and the closing task went on. -/
def PartnersMeet (threadCount : Option ℕ+) (forbidHandleDrop : Bool) : Prop :=
  ∀ (threads : Nat → Thread) actions process,
    (system threadCount forbidHandleDrop).run .new actions = some process →
    ∀ index call, process.calls[index]? = some call →
      Partners forbidHandleDrop (meetingActions threads index actions)
        call.toDisconnection ∧
      (call.handle.waitedFor = true →
        ∃ earlier later before, actions = earlier ++ .run (.closingTask index) :: later ∧
          (system threadCount forbidHandleDrop).run .new earlier = some before ∧
          before.Idle)

theorem partnersMeet (threadCount : Option ℕ+) (forbidHandleDrop : Bool) :
    PartnersMeet threadCount forbidHandleDrop := by
  intro threads actions process ran index call found
  have simulated := run_meeting threads ran index
  rw [found] at simulated
  have partners := partners_of_run simulated
  refine ⟨partners, ?_⟩
  intro waitedFor
  exact idle_of_closingTaskWaits ran (partners.returned waitedFor)

end Warqueen.Server.Process
