import Mathlib.Data.Multiset.AddSub
import Mathlib.Data.Set.Basic
import Warqueen.Concurrency.System

/-!
# What is seen of a system

Some steps of a system can be seen from outside, and show something that may depend on
the state.  The traces of a system are what its runs show.  A simulation that answers
each step by a run that shows the same carries the traces of one system to another, so
two such simulations, one in each direction, make two systems the same from outside.
-/

namespace Warqueen.Concurrency

universe u v w x y

section Shows

variable {State : Type u} {Action : Type v} {Seen : Type w}
variable (system : System State Action) (observe : State → Action → Option Seen)
variable (guard : State → Action → Prop)

/-- Runs of allowed steps, with what they show. -/
inductive Shows : State → List Seen → State → Prop where
  | refl (state : State) : Shows state [] state
  | tail {start before after : State} {trace : List Seen} {action : Action}
      (shown : Shows start trace before) (allowed : guard before action)
      (stepped : system.step before action = some after) :
      Shows start (trace ++ (observe before action).toList) after

variable {system observe guard} {guard' : State → Action → Prop}
variable {start before after : State} {trace later : List Seen}

theorem Shows.trans (first : Shows system observe guard start trace before)
    (second : Shows system observe guard before later after) :
    Shows system observe guard start (trace ++ later) after := by
  induction second with
  | refl =>
      rw [List.append_nil]
      exact first
  | tail _ allowed stepped inductionHypothesis =>
      rw [← List.append_assoc]
      exact inductionHypothesis.tail allowed stepped

/-- A run of one step. -/
theorem Shows.single {action : Action} (allowed : guard before action)
    (stepped : system.step before action = some after) :
    Shows system observe guard before (observe before action).toList after :=
  (Shows.refl before).tail allowed stepped

/-- A run of steps that show nothing. -/
theorem shows_of_reaches
    (reached : system.Reaches
      (fun state action => guard state action ∧ observe state action = none) start after) :
    Shows system observe guard start [] after := by
  induction reached with
  | refl => exact .refl start
  | tail _ stepped inductionHypothesis =>
      obtain ⟨action, ⟨allowed, hidden⟩, steps⟩ := stepped
      have longer := inductionHypothesis.tail allowed steps
      rw [hidden] at longer
      exact longer

end Shows

/-- What happens at the ends of a channel: a message is given at the one end, or taken
at the other. -/
inductive Exchange (S : Type u) (R : Type v) where
  | give (message : S)
  | take (message : R)

/-- A channel without order: what is given is in transit, as far as it can be
transferred, and what is in transit can be taken, in any order and once. -/
noncomputable def unordered {S : Type u} {R : Type v} (transfer : S → Option R) :
    System (Multiset R) (Exchange S R) where
  init := 0
  step inTransit
    | .give message => some (inTransit + (transfer message).toList)
    | .take message =>
        open Classical in
        if message ∈ inTransit then some (inTransit.erase message) else none

end Warqueen.Concurrency
