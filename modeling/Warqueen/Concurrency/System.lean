import Mathlib.Data.List.Induction
import Mathlib.Logic.Relation

/-!
# Labelled transition systems

A concurrent program is a state together with a partial step function: the
label of a step says which party moves and what its environment answers, so a
label resolves every nondeterministic choice and a run is a list of labels.

The rules below are the only inductions over runs that a development needs:
an invariant that every step keeps holds in every reachable state, a relation
between a run's labels and its last state can be built label by label, and a
simulation carries reachable states from one system to another.
-/

namespace Warqueen.Concurrency

universe u v w x

/-- A system is an initial state and a step function that is `none` where the
label is not enabled. -/
structure System (State : Type u) (Action : Type v) where
  init : State
  step : State → Action → Option State

namespace System

variable {State : Type u} {Action : Type v} (system : System State Action)

/-- One step whose label satisfies a condition on the state before it. -/
def Step (guard : State → Action → Prop) (before after : State) : Prop :=
  ∃ action, guard before action ∧ system.step before action = some after

/-- Runs all of whose steps satisfy a condition on the state before them. -/
def Reaches (guard : State → Action → Prop) : State → State → Prop :=
  Relation.ReflTransGen (system.Step guard)

/-- The condition that every step satisfies. -/
def always (_state : State) (_action : Action) : Prop := True

/-- States reached from the initial one by an unconditional run. -/
def Reachable (state : State) : Prop :=
  system.Reaches always system.init state

/-- None of the given labels is enabled. -/
def Stuck (own : Action → Prop) (state : State) : Prop :=
  ∀ action, own action → system.step state action = none

/-- Execute a list of labels, stopping at the first one that is not enabled. -/
def run (state : State) (actions : List Action) : Option State :=
  actions.foldlM system.step state

variable {system} {guard guard' : State → Action → Prop}
variable {start before after state : State} {action : Action}

theorem Reaches.refl : system.Reaches guard state state :=
  Relation.ReflTransGen.refl

theorem Reaches.trans (first : system.Reaches guard start before)
    (second : system.Reaches guard before after) :
    system.Reaches guard start after :=
  Relation.ReflTransGen.trans first second

/-- Extend a run by one more step. -/
theorem Reaches.tail (reached : system.Reaches guard start before)
    (allowed : guard before action)
    (stepped : system.step before action = some after) :
    system.Reaches guard start after :=
  Relation.ReflTransGen.tail reached ⟨action, allowed, stepped⟩

/-- A run of one step. -/
theorem Reaches.single (allowed : guard before action)
    (stepped : system.step before action = some after) :
    system.Reaches guard before after :=
  Reaches.refl.tail allowed stepped

/-- Weaken the condition on the steps of a run. -/
theorem Reaches.mono (weaker : ∀ state action, guard state action → guard' state action)
    (reached : system.Reaches guard start state) :
    system.Reaches guard' start state := by
  refine Relation.ReflTransGen.mono ?_ _ _ reached
  intro before after ⟨action, allowed, stepped⟩
  exact ⟨action, weaker before action allowed, stepped⟩

theorem Reaches.always (reached : system.Reaches guard start state) :
    system.Reaches System.always start state :=
  reached.mono fun _ _ _ => trivial

theorem Reachable.init : system.Reachable system.init := Reaches.refl

theorem Reachable.step (reachable : system.Reachable before)
    (stepped : system.step before action = some after) :
    system.Reachable after :=
  Reaches.tail reachable trivial stepped

theorem Reachable.reaches (reachable : system.Reachable before)
    (reached : system.Reaches guard before after) :
    system.Reachable after :=
  Reaches.trans reachable reached.always

/-- A system that can change any item of a list, once it has changed the earlier
ones, can change them all. -/
theorem Reaches.map {Item : Type w} (place : List Item → State) (change : Item → Item)
    (items : List Item)
    (each : ∀ earlier item later, items = earlier ++ item :: later →
      system.Reaches guard (place (earlier.map change ++ item :: later))
        (place (earlier.map change ++ change item :: later))) :
    system.Reaches guard (place items) (place (items.map change)) := by
  have onward : ∀ later earlier, items = earlier ++ later →
      system.Reaches guard (place (earlier.map change ++ later))
        (place (items.map change)) := by
    intro later
    induction later with
    | nil =>
        intro earlier split
        rw [split, List.append_nil, List.append_nil]
        exact Reaches.refl
    | cons item later inductionHypothesis =>
        intro earlier split
        have changed := each earlier item later split
        have rest := inductionHypothesis (earlier ++ [item]) (by simp [split])
        simp only [List.map_append, List.map_cons, List.map_nil, List.append_assoc,
          List.singleton_append] at rest
        exact changed.trans rest
  exact onward items [] rfl

/-! ## Invariants -/

/-- The invariant rule: a property that every allowed step keeps is kept by
every run of allowed steps. -/
theorem Reaches.invariant (property : State → Prop)
    (reached : system.Reaches guard start state) (initially : property start)
    (preserved : ∀ before action after, system.Reaches guard start before →
      property before → guard before action →
      system.step before action = some after → property after) :
    property state := by
  induction reached with
  | refl => exact initially
  | tail reached stepped inductionHypothesis =>
      obtain ⟨action, allowed, stepped⟩ := stepped
      exact preserved _ action _ reached inductionHypothesis allowed stepped

/-- The invariant rule for the states reachable from the initial one. -/
theorem Reachable.invariant (property : State → Prop)
    (reachable : system.Reachable state) (initially : property system.init)
    (preserved : ∀ before action after, system.Reachable before →
      property before → system.step before action = some after →
      property after) :
    property state :=
  Reaches.invariant property reachable initially
    fun before action after reached holds _ stepped =>
      preserved before action after reached holds stepped

/-- A condition on the steps decides a property of runs: every run whose steps
meet it keeps the property, and a single step that fails it can be completed to
a run that breaks the property. -/
structure Decides (system : System State Action) (guard : State → Action → Prop)
    (property : State → Prop) : Prop where
  enough : ∀ state, system.Reaches guard system.init state → property state
  needed : ∀ before action after, system.Reachable before →
    system.step before action = some after → ¬ guard before action →
    ∃ state, system.Reaches always after state ∧ ¬ property state

/-! ## Coming to rest -/

/-- Labels each of which makes a measure smaller can be taken until none of them is
enabled. -/
theorem exists_stuck (own : Action → Prop) (measure : State → Nat)
    (decreases : ∀ before action after, own action →
      system.step before action = some after → measure after < measure before)
    (start : State) :
    ∃ rest, system.Reaches (fun _ action => own action) start rest ∧
      system.Stuck own rest := by
  induction left : measure start using Nat.strongRecOn generalizing start with
  | ind left' inductionHypothesis =>
      by_cases stuck : system.Stuck own start
      · exact ⟨start, Reaches.refl, stuck⟩
      · simp only [Stuck, not_forall] at stuck
        obtain ⟨action, isOwn, enabled⟩ := stuck
        obtain ⟨after, stepped⟩ := Option.ne_none_iff_exists'.mp enabled
        have less := decreases start action after isOwn stepped
        obtain ⟨rest, reached, stuck⟩ :=
          inductionHypothesis (measure after) (left ▸ less) after rfl
        exact ⟨rest, (Reaches.single isOwn stepped).trans reached, stuck⟩

/-! ## Runs as lists of labels -/

theorem run_concat_eq_some {actions : List Action} :
    system.run state (actions ++ [action]) = some after ↔
      ∃ before, system.run state actions = some before ∧
        system.step before action = some after := by
  simp [run, Option.bind_eq_some_iff]

theorem run_singleton (start : State) (action : Action) :
    system.run start [action] = system.step start action := by
  simp [run]

/-- A run of two lists of labels is a run of the one and then of the other. -/
theorem run_append (start : State) (first second : List Action) :
    system.run start (first ++ second) =
      (system.run start first).bind fun middle => system.run middle second := by
  simp only [run, List.foldlM_append, Option.bind_eq_bind]

/-- A label of a run was enabled when its turn came. -/
theorem exists_step_of_mem {actions : List Action}
    (ran : system.run start actions = some state) (member : action ∈ actions) :
    ∃ earlier later before after, actions = earlier ++ action :: later ∧
      system.run start earlier = some before ∧ system.step before action = some after := by
  obtain ⟨earlier, later, rfl⟩ := List.append_of_mem member
  rw [run_append] at ran
  obtain ⟨before, ranBefore, rest⟩ := Option.bind_eq_some_iff.mp ran
  rw [← List.singleton_append, run_append, run_singleton] at rest
  obtain ⟨after, stepped, -⟩ := Option.bind_eq_some_iff.mp rest
  exact ⟨earlier, later, before, after, rfl, ranBefore, stepped⟩

/-- A run whose labels all satisfy a condition reaches its last state. -/
theorem reaches_of_run (allowed : Action → Prop) {actions : List Action}
    (every : ∀ action ∈ actions, allowed action)
    (ran : system.run start actions = some state) :
    system.Reaches (fun _ action => allowed action) start state := by
  induction actions using List.reverseRecOn generalizing state with
  | nil =>
      obtain rfl : start = state := Option.some.inj ran
      exact Reaches.refl
  | append_singleton actions last inductionHypothesis =>
      obtain ⟨before, ranBefore, stepped⟩ := run_concat_eq_some.mp ran
      have reached := inductionHypothesis
        (fun action member => every action (by simp [member])) ranBefore
      exact reached.tail (every last (by simp)) stepped

/-- A run of labels each of which makes a measure smaller is no longer than it. -/
theorem length_le_of_run (own : Action → Prop) (measure : State → Nat)
    (decreases : ∀ before action after, own action →
      system.step before action = some after → measure after < measure before)
    {actions : List Action} (every : ∀ action ∈ actions, own action)
    (ran : system.run start actions = some state) :
    actions.length + measure state ≤ measure start := by
  induction actions using List.reverseRecOn generalizing state with
  | nil =>
      obtain rfl : start = state := Option.some.inj ran
      simp
  | append_singleton actions last inductionHypothesis =>
      obtain ⟨before, ranBefore, stepped⟩ := run_concat_eq_some.mp ran
      have earlier := inductionHypothesis
        (fun action member => every action (by simp [member])) ranBefore
      have less := decreases before last state (every last (by simp)) stepped
      rw [List.length_append, List.length_singleton]
      omega

theorem reachable_of_run {actions : List Action}
    (ran : system.run system.init actions = some state) :
    system.Reachable state :=
  (reaches_of_run (fun _ => True) (fun _ _ => trivial) ran).always

/-- Labels that are enabled in every state make a run. -/
theorem exists_run (start : State) (allowed : Action → Prop)
    (enabled : ∀ before action, allowed action →
      ∃ after, system.step before action = some after)
    (actions : List Action) (every : ∀ action ∈ actions, allowed action) :
    ∃ state, system.run start actions = some state := by
  induction actions using List.reverseRecOn with
  | nil => exact ⟨start, rfl⟩
  | append_singleton actions last inductionHypothesis =>
      obtain ⟨before, ran⟩ :=
        inductionHypothesis fun action member => every action (by simp [member])
      obtain ⟨after, stepped⟩ := enabled before last (every last (by simp))
      exact ⟨after, run_concat_eq_some.mpr ⟨before, ran, stepped⟩⟩

/-- Every step of the run with these labels satisfies a condition on the state before
it. -/
def EveryStep (system : System State Action) (guard : State → Action → Prop)
    (actions : List Action) : Prop :=
  ∀ earlier action later before, actions = earlier ++ action :: later →
    system.run system.init earlier = some before → guard before action

/-- Conditions that agree on reachable states are satisfied by the same runs. -/
theorem everyStep_congr
    (agree : ∀ before action, system.Reachable before →
      (guard before action ↔ guard' before action)) (actions : List Action) :
    system.EveryStep guard actions ↔ system.EveryStep guard' actions := by
  constructor
  · intro every earlier action later before split ran
    exact (agree before action (reachable_of_run ran)).mp
      (every earlier action later before split ran)
  · intro every earlier action later before split ran
    exact (agree before action (reachable_of_run ran)).mpr
      (every earlier action later before split ran)

/-- The history rule: a relation between the labels of a run and its last state
holds when it holds of the empty run and survives one more label. -/
theorem run_history (property : List Action → State → Prop)
    (initially : property [] start)
    (preserved : ∀ actions before action after,
      system.run start actions = some before → property actions before →
      system.step before action = some after → property (actions ++ [action]) after)
    {actions : List Action} (ran : system.run start actions = some state) :
    property actions state := by
  induction actions using List.reverseRecOn generalizing state with
  | nil =>
      obtain rfl : start = state := Option.some.inj ran
      exact initially
  | append_singleton actions last inductionHypothesis =>
      obtain ⟨before, ranBefore, stepped⟩ := run_concat_eq_some.mp ran
      exact preserved actions before last state ranBefore
        (inductionHypothesis ranBefore) stepped

end System

/-! ## Simulation -/

/-- A forward simulation: every allowed step of the concrete system is answered
by a run, possibly empty, of the abstract one. -/
structure Simulation {State : Type u} {Action : Type v} {Spec : Type w} {Label : Type x}
    (concrete : System State Action) (guard : State → Action → Prop)
    (abstract : System Spec Label) (guard' : Spec → Label → Prop) where
  related : State → Spec → Prop
  init : related concrete.init abstract.init
  step : ∀ {before spec action after}, related before spec → guard before action →
    concrete.step before action = some after →
    ∃ spec', abstract.Reaches guard' spec spec' ∧ related after spec'

/-- A run from a state that is related to an abstract one is answered by a run from the
abstract one. -/
theorem Simulation.continues {State : Type u} {Action : Type v} {Spec : Type w}
    {Label : Type x} {concrete : System State Action} {guard : State → Action → Prop}
    {abstract : System Spec Label} {guard' : Spec → Label → Prop}
    (simulation : Simulation concrete guard abstract guard') {state later : State}
    {spec : Spec} (related : simulation.related state spec)
    (reached : concrete.Reaches guard state later) :
    ∃ spec', abstract.Reaches guard' spec spec' ∧ simulation.related later spec' := by
  refine reached.invariant
    (fun later => ∃ spec',
      abstract.Reaches guard' spec spec' ∧ simulation.related later spec')
    ⟨spec, System.Reaches.refl, related⟩ ?_
  intro before action after _ ⟨spec', reachedSpec, relatedBefore⟩ allowed stepped
  obtain ⟨next, reachedNext, relatedNext⟩ :=
    simulation.step relatedBefore allowed stepped
  exact ⟨next, reachedSpec.trans reachedNext, relatedNext⟩

/-- Every state the concrete system reaches is related to one the abstract
system reaches. -/
theorem Simulation.reaches {State : Type u} {Action : Type v} {Spec : Type w}
    {Label : Type x} {concrete : System State Action} {guard : State → Action → Prop}
    {abstract : System Spec Label} {guard' : Spec → Label → Prop}
    (simulation : Simulation concrete guard abstract guard') {state : State}
    (reached : concrete.Reaches guard concrete.init state) :
    ∃ spec, abstract.Reaches guard' abstract.init spec ∧
      simulation.related state spec :=
  simulation.continues simulation.init reached

end Warqueen.Concurrency
