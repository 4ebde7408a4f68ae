import Warqueen.Concurrency.Fairness

/-!
# Progress of parties that wait for each other

A piece of work that goes through many hands is done although none of its parties can do
it alone: in each situation there is one that can act, and what it does brings the work
closer to its end.  The rule is about sequences of states, whatever happens between one
and the next, so that a simulation carries its premises from one system to another.
-/

namespace Warqueen.Concurrency

universe u v w x

section Helped

variable {State : Type u} {Party : Type v} {Situation : Type w}

/-- No party is passed over for ever: after every place it acts or has nothing to do. -/
def NoneIsPassedOver (state : Nat → State) (idle : Party → State → Prop)
    (acts : Party → State → State → Prop) : Prop :=
  ∀ party place, ∃ later, place ≤ later ∧
    (idle party (state later) ∨ acts party (state later) (state (later + 1)))

variable (idle : Party → State → Prop) (acts : Party → State → State → Prop)
variable (measure : State → Nat) (situation : State → Situation)
variable (helper : Situation → Party)

/-- From one state to the next the work is never set back, and its situation stays unless
it comes closer to its end, to which an act of the helper brings it closer. -/
structure Helped (before after : State) : Prop where
  settles : measure after < measure before ∨
    measure after ≤ measure before ∧ situation after = situation before
  acting : acts (helper (situation before)) before after → measure after < measure before
  ready : ¬ idle (helper (situation before)) before

variable {idle acts measure situation helper} {state : Nat → State} {place : Nat}

/-- Work that one party does alone. -/
theorem helped_of_le {party : Party} {before after : State}
    (notMore : measure after ≤ measure before)
    (acting : acts party before after → measure after < measure before)
    (ready : ¬ idle party before) :
    Helped idle acts measure measure (fun _ => party) before after where
  settles := (Nat.lt_or_eq_of_le notMore).imp id fun same => ⟨notMore, same⟩
  acting := acting
  ready := ready

/-- The rule of helpful parties: work that is helped as long as it is not done is done
some time. -/
theorem exists_of_helped (goal : State → Prop) (fair : NoneIsPassedOver state idle acts)
    (helped : ∀ later, place ≤ later → goal (state later) ∨
      Helped idle acts measure situation helper (state later) (state (later + 1))) :
    ∃ later, place ≤ later ∧ goal (state later) := by
  induction left : measure (state place) using Nat.strongRecOn generalizing place with
  | ind left' inductionHypothesis =>
      have closer (later : Nat) (order : place ≤ later)
          (less : measure (state later) < measure (state place)) :
          ∃ later, place ≤ later ∧ goal (state later) := by
        obtain ⟨point, after, done⟩ := inductionHypothesis _ (left ▸ less)
          (fun further order' => helped further (Nat.le_trans order order')) rfl
        exact ⟨point, Nat.le_trans order after, done⟩
      obtain ⟨later, order, turn⟩ := fair (helper (situation (state place))) place
      -- Until its turn comes, the situation in which it is the helper lasts.
      have lasts : (∃ later, place ≤ later ∧ goal (state later)) ∨
          measure (state later) ≤ measure (state place) ∧
            situation (state later) = situation (state place) := by
        clear turn
        induction order with
        | refl => exact .inr ⟨Nat.le_refl _, rfl⟩
        | @step later order lasts =>
            rcases lasts with done | ⟨notMore, same⟩
            · exact .inl done
            · rcases helped later order with done | helps
              · exact .inl ⟨later, order, done⟩
              · rcases helps.settles with less | ⟨notMore', same'⟩
                · exact .inl (closer (later + 1) (Nat.le_succ_of_le order)
                    (Nat.lt_of_lt_of_le less notMore))
                · exact .inr ⟨Nat.le_trans notMore' notMore, same'.trans same⟩
      rcases lasts with done | ⟨notMore, same⟩
      · exact done
      · rcases helped later order with done | helps
        · exact ⟨later, order, done⟩
        · rw [← same] at turn
          rcases turn with isIdle | acted
          · exact absurd isIdle helps.ready
          · exact closer (later + 1) (Nat.le_succ_of_le order)
              (Nat.lt_of_lt_of_le (helps.acting acted) notMore)

/-- Finitely many pieces of work that stay done are all done some time. -/
theorem exists_all (state : Nat → State) (goals : Nat → State → Prop)
    (stays : ∀ index place, goals index (state place) → goals index (state (place + 1)))
    (count : Nat)
    (each : ∀ index, index < count → ∃ later, place ≤ later ∧ goals index (state later)) :
    ∃ later, place ≤ later ∧ ∀ index, index < count → goals index (state later) := by
  have stay {index before after : Nat} (order : before ≤ after)
      (done : goals index (state before)) : goals index (state after) := by
    induction order with
    | refl => exact done
    | step _ inductionHypothesis => exact stays index _ inductionHypothesis
  induction count with
  | zero => exact ⟨place, Nat.le_refl place, fun index impossible => by cases impossible⟩
  | succ count inductionHypothesis =>
      obtain ⟨point, order, earlier⟩ := inductionHypothesis fun index below =>
        each index (Nat.lt_succ_of_lt below)
      obtain ⟨point', order', last⟩ := each count (Nat.lt_succ_self count)
      refine ⟨max point point', Nat.le_trans order (Nat.le_max_left _ _), ?_⟩
      intro index below
      rcases Nat.lt_succ_iff_lt_or_eq.mp below with before | rfl
      · exact stay (Nat.le_max_left _ _) (earlier index before)
      · exact stay (Nat.le_max_right _ _) last

end Helped

/-! ## Sequences of states of a simulated system -/

/-- A simulation carries a sequence of states, each of which reaches the next. -/
theorem Simulation.exists_sequence {State : Type u} {Action : Type v} {Spec : Type w}
    {Label : Type x} {concrete : System State Action} {guard : State → Action → Prop}
    {abstract : System Spec Label} {guard' : Spec → Label → Prop}
    (simulation : Simulation concrete guard abstract guard') {state : Nat → State}
    (follows : ∀ place, concrete.Reaches guard (state place) (state (place + 1)))
    {start : Spec} (begins : simulation.related (state 0) start) :
    ∃ spec : Nat → Spec, spec 0 = start ∧ ∀ place,
      simulation.related (state place) (spec place) ∧
        abstract.Reaches guard' (spec place) (spec (place + 1)) := by
  have continues (place : Nat) (spec : { spec // simulation.related (state place) spec }) :=
    simulation.continues spec.property (follows place)
  choose next reaches related using continues
  let sequence (place : Nat) : { spec // simulation.related (state place) spec } :=
    Nat.rec ⟨start, begins⟩ (fun place spec => ⟨next place spec, related place spec⟩) place
  exact ⟨fun place => (sequence place).val, rfl, fun place =>
    ⟨(sequence place).property, reaches place (sequence place)⟩⟩

end Warqueen.Concurrency
