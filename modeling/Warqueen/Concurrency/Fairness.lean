import Warqueen.Concurrency.System

/-!
# Fair executions

A run is finite and says nothing about what must happen.  An execution goes on
forever, with places at which nothing happens, and it is fair to a group of labels
when it does not pass over them as long as one of them is enabled.

`FairTo.eventually` is the only rule that needs fairness: labels that use up a
measure, which no other label fills again, come to be disabled.  What holds from
some place on is closed under conjunctions, so that the fates of several tasks are
proved one at a time.
-/

namespace Warqueen.Concurrency

universe u v w

variable {State : Type u} {Action : Type v}

/-- An execution from the initial state.  Nothing happens at a place without a label. -/
structure Execution (system : System State Action) where
  state : Nat → State
  label : Nat → Option Action
  begins : state 0 = system.init
  follows : ∀ place, match label place with
    | some action => system.step (state place) action = some (state (place + 1))
    | none => state (place + 1) = state place

namespace Execution

variable {system : System State Action} (execution : Execution system)

/-- After every place one of the labels is taken, or none of them is enabled. -/
def FairTo (own : Action → Prop) : Prop :=
  ∀ place, ∃ later, place ≤ later ∧
    (system.Stuck own (execution.state later) ∨
      ∃ action, own action ∧ execution.label later = some action)

/-- From some later place on, the property holds. -/
def Eventually (place : Nat) (property : State → Prop) : Prop :=
  ∃ point, place ≤ point ∧ ∀ later, point ≤ later → property (execution.state later)

variable {execution} {place later : Nat} {goal goal' : State → Prop}

/-- What every step keeps is kept from one place to the next. -/
theorem keeps_next (property : State → Prop)
    (kept : ∀ before action after, property before →
      system.step before action = some after → property after)
    (holds : property (execution.state place)) : property (execution.state (place + 1)) := by
  have follows := execution.follows place
  cases label : execution.label place with
  | none =>
      rw [label] at follows
      rw [follows]
      exact holds
  | some action =>
      rw [label] at follows
      exact kept _ action _ holds follows

/-- What every step keeps holds at all later places. -/
theorem keeps (property : State → Prop)
    (kept : ∀ before action after, property before →
      system.step before action = some after → property after)
    (order : place ≤ later) (holds : property (execution.state place)) :
    property (execution.state later) := by
  induction order with
  | refl => exact holds
  | step _ inductionHypothesis => exact keeps_next property kept inductionHypothesis

theorem reaches (order : place ≤ later) :
    system.Reaches System.always (execution.state place) (execution.state later) :=
  keeps (system.Reaches System.always (execution.state place))
    (fun _ _ _ reached stepped => reached.tail trivial stepped) order System.Reaches.refl

theorem reachable (execution : Execution system) (place : Nat) :
    system.Reachable (execution.state place) := by
  have reached := execution.reaches (Nat.zero_le place)
  rw [execution.begins] at reached
  exact reached

/-! ## What holds from some place on -/

theorem Eventually.mono (eventually : execution.Eventually place goal)
    (weaker : ∀ state, goal state → goal' state) : execution.Eventually place goal' := by
  obtain ⟨point, order, holds⟩ := eventually
  exact ⟨point, order, fun later after => weaker _ (holds later after)⟩

/-- What every step keeps holds from now on. -/
theorem Eventually.ofKept (property : State → Prop)
    (kept : ∀ before action after, property before →
      system.step before action = some after → property after)
    (holds : property (execution.state place)) : execution.Eventually place property :=
  ⟨place, Nat.le_refl place, fun _ order => keeps property kept order holds⟩

theorem Eventually.and (first : execution.Eventually place goal)
    (second : execution.Eventually place goal') :
    execution.Eventually place fun state => goal state ∧ goal' state := by
  obtain ⟨point, order, holds⟩ := first
  obtain ⟨point', order', holds'⟩ := second
  refine ⟨max point point', Nat.le_trans order (Nat.le_max_left _ _), ?_⟩
  intro later after
  exact ⟨holds later (Nat.le_trans (Nat.le_max_left _ _) after),
    holds' later (Nat.le_trans (Nat.le_max_right _ _) after)⟩

/-- What comes to hold of each of finitely many comes to hold of all of them. -/
theorem Eventually.all (goals : Nat → State → Prop) (count : Nat)
    (each : ∀ index, index < count → execution.Eventually place (goals index)) :
    execution.Eventually place fun state => ∀ index, index < count → goals index state := by
  induction count with
  | zero => exact ⟨place, Nat.le_refl place, fun _ _ index impossible => by cases impossible⟩
  | succ count inductionHypothesis =>
      have earlier := inductionHypothesis fun index below =>
        each index (Nat.lt_succ_of_lt below)
      have last := each count (Nat.lt_succ_self count)
      apply (earlier.and last).mono
      intro state holds index below
      rcases Nat.lt_succ_iff_lt_or_eq.mp below with before | rfl
      · exact holds.1 index before
      · exact holds.2

/-- What comes to hold after something that comes to hold. -/
theorem Eventually.andThen (first : execution.Eventually place goal)
    (next : ∀ point, place ≤ point → goal (execution.state point) →
      execution.Eventually point goal') : execution.Eventually place goal' := by
  obtain ⟨point, order, holds⟩ := first
  obtain ⟨point', order', holds'⟩ := next point order (holds point (Nat.le_refl point))
  exact ⟨point', Nat.le_trans order order', holds'⟩

/-! ## What fairness brings about -/

/-- Labels that use up a measure come to be disabled in an execution that is fair to
them. -/
theorem FairTo.exists_stuck {own : Action → Prop} (fair : execution.FairTo own)
    (property : State → Prop) (measure : State → Nat)
    (kept : ∀ before action after, property before →
      system.step before action = some after → property after)
    (uses : ∀ before action after, property before →
      system.step before action = some after →
        measure after ≤ measure before ∧ (own action → measure after < measure before))
    (holds : property (execution.state place)) :
    ∃ later, place ≤ later ∧ system.Stuck own (execution.state later) := by
  induction left : measure (execution.state place) using Nat.strongRecOn
    generalizing place with
  | ind left' inductionHypothesis =>
      obtain ⟨later, order, stuck | ⟨action, isOwn, label⟩⟩ := fair place
      · exact ⟨later, order, stuck⟩
      · have follows := execution.follows later
        rw [label] at follows
        have holdsLater := keeps property kept order holds
        have notMore : property (execution.state later) ∧
            measure (execution.state later) ≤ measure (execution.state place) := by
          refine keeps (fun state =>
            property state ∧ measure state ≤ measure (execution.state place)) ?_ order
            ⟨holds, Nat.le_refl _⟩
          intro before action after bounded stepped
          exact ⟨kept before action after bounded.1 stepped,
            Nat.le_trans (uses before action after bounded.1 stepped).1 bounded.2⟩
        have less := (uses _ action _ holdsLater follows).2 isOwn
        obtain ⟨point, after, stuck⟩ := inductionHypothesis _
          (left ▸ Nat.lt_of_lt_of_le less notMore.2) (kept _ action _ holdsLater follows) rfl
        exact ⟨point, Nat.le_trans order (Nat.le_trans (Nat.le_succ later) after), stuck⟩

/-- The rule of progress: when labels use up a measure, which no other label fills
again, a fair execution comes to where they are disabled, and what holds there and is
kept holds from then on. -/
theorem FairTo.eventually {own : Action → Prop} (fair : execution.FairTo own)
    (property : State → Prop) (measure : State → Nat)
    (kept : ∀ before action after, property before →
      system.step before action = some after → property after)
    (uses : ∀ before action after, property before →
      system.step before action = some after →
        measure after ≤ measure before ∧ (own action → measure after < measure before))
    (achieved : ∀ state, property state → system.Stuck own state → goal state)
    (stays : ∀ before action after, property before → goal before →
      system.step before action = some after → goal after)
    (holds : property (execution.state place)) : execution.Eventually place goal := by
  obtain ⟨point, order, stuck⟩ := fair.exists_stuck property measure kept uses holds
  have holdsThere := keeps property kept order holds
  have both : ∀ before action after, property before ∧ goal before →
      system.step before action = some after → property after ∧ goal after := by
    intro before action after holds stepped
    exact ⟨kept before action after holds.1 stepped,
      stays before action after holds.1 holds.2 stepped⟩
  refine ⟨point, order, ?_⟩
  intro later after
  exact (keeps _ both after ⟨holdsThere, achieved _ holdsThere stuck⟩).2

/-! ## Runs as executions -/

/-- A run, after which nothing happens any more. -/
def ofRun (actions : List Action) {last : State}
    (ran : system.run system.init actions = some last) : Execution system where
  state place := (system.run system.init (actions.take place)).getD last
  label place := actions[place]?
  begins := rfl
  follows := by
    intro place
    cases found : actions[place]? with
    | none =>
        have outOfBounds := List.getElem?_eq_none_iff.mp found
        simp only [List.take_of_length_le outOfBounds,
          List.take_of_length_le (Nat.le_succ_of_le outOfBounds)]
    | some action =>
        obtain ⟨inBounds, isAction⟩ := List.getElem?_eq_some_iff.mp found
        have split : actions.take (place + 1) ++ actions.drop (place + 1) = actions :=
          List.take_append_drop _ _
        rw [← split, System.run_append] at ran
        obtain ⟨after, ranAfter, -⟩ := Option.bind_eq_some_iff.mp ran
        have ranNext := ranAfter
        rw [List.take_succ_eq_append_getElem inBounds, isAction] at ranNext
        obtain ⟨before, ranBefore, stepped⟩ := System.run_concat_eq_some.mp ranNext
        simp only [ranBefore, ranAfter, Option.getD_some]
        exact stepped

theorem ofRun_state_of_le {actions : List Action} {last : State}
    (ran : system.run system.init actions = some last) (order : actions.length ≤ place) :
    (ofRun actions ran).state place = last := by
  simp [ofRun, List.take_of_length_le order, ran]

/-- A run, after which only labels are taken that leave its last state as it is. -/
def ofRunThen (actions : List Action) {last : State}
    (ran : system.run system.init actions = some last) (idling : Nat → Option Action)
    (stays : ∀ place action, idling place = some action →
      system.step last action = some last) : Execution system where
  state := (ofRun actions ran).state
  label place := (actions[place]?).or (idling place)
  begins := rfl
  follows := by
    intro place
    have follows := (ofRun actions ran).follows place
    cases found : actions[place]? with
    | some action => simpa only [ofRun, found, Option.or] using follows
    | none =>
        have order := List.getElem?_eq_none_iff.mp found
        rw [ofRun_state_of_le ran order, ofRun_state_of_le ran (Nat.le_succ_of_le order)]
        simp only [Option.or]
        cases idles : idling place with
        | none => trivial
        | some action => exact stays place action idles

/-- Such an execution is fair to the labels that are disabled in the last state of the
run, and to those that come back again and again. -/
theorem ofRunThen_fairTo {own : Action → Prop} {actions : List Action} {last : State}
    {ran : system.run system.init actions = some last} {idling : Nat → Option Action}
    {stays : ∀ place action, idling place = some action → system.step last action = some last}
    (fair : system.Stuck own last ∨
      ∀ place, ∃ later, place ≤ later ∧ ∃ action, own action ∧ idling later = some action) :
    (ofRunThen actions ran idling stays).FairTo own := by
  intro place
  rcases fair with stuck | comesBack
  · refine ⟨max place actions.length, Nat.le_max_left _ _, .inl ?_⟩
    change system.Stuck own ((ofRun actions ran).state _)
    rw [ofRun_state_of_le ran (Nat.le_max_right _ _)]
    exact stuck
  · obtain ⟨later, order, action, isOwn, idles⟩ := comesBack (max place actions.length)
    have outOfBounds := List.getElem?_eq_none_iff.mpr
      (Nat.le_trans (Nat.le_max_right place actions.length) order)
    refine ⟨later, Nat.le_trans (Nat.le_max_left _ _) order, .inr ⟨action, isOwn, ?_⟩⟩
    simp only [ofRunThen, outOfBounds, Option.or, idles]

end Execution

end Warqueen.Concurrency
