import Mathlib.Data.Nat.Basic

/-!
# Barriers

A barrier for a fixed number of parties.  Whoever arrives is given the number of
the arrivals before it as a ticket, and is blocked until the round that the
ticket belongs to is complete.  The barrier can be used again: the arrival after
a complete round opens the next one.
-/

namespace Warqueen.Concurrency

/-- A barrier and how many times it was waited on. -/
structure Barrier where
  size : Nat
  arrivals : Nat
  size_pos : 0 < size
  deriving DecidableEq

namespace Barrier

/-- A new barrier for the given number of parties. -/
def new (size : Nat) (size_pos : 0 < size) : Barrier :=
  { size := size, arrivals := 0, size_pos := size_pos }

/-- Arrive at the barrier.  The ticket of the arrival is `barrier.arrivals`. -/
def wait (barrier : Barrier) : Barrier :=
  { barrier with arrivals := barrier.arrivals + 1 }

/-- The round of the ticket is complete, so its holder is not blocked. -/
def Released (barrier : Barrier) (ticket : Nat) : Prop :=
  (ticket / barrier.size + 1) * barrier.size ≤ barrier.arrivals

instance (barrier : Barrier) (ticket : Nat) : Decidable (barrier.Released ticket) :=
  inferInstanceAs (Decidable (_ ≤ _))

/-- A party is blocked: it has arrived, with this ticket, and its round is not
complete. -/
def blocks (barrier : Barrier) : Option Nat → Bool
  | some ticket => ¬ barrier.Released ticket
  | none => false

variable {barrier : Barrier} {ticket : Nat}

@[simp] theorem wait_arrivals (barrier : Barrier) :
    barrier.wait.arrivals = barrier.arrivals + 1 := rfl

/-- The parties of the first round are released when all of them have arrived. -/
theorem released_iff_of_lt (firstRound : ticket < barrier.size) :
    barrier.Released ticket ↔ barrier.size ≤ barrier.arrivals := by
  simp [Released, Nat.div_eq_of_lt firstRound]

end Barrier

end Warqueen.Concurrency
