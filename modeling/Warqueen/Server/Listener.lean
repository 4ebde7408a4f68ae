import Mathlib.Data.Nat.Find
import Warqueen.Concurrency.Channel
import Warqueen.Concurrency.System
import Warqueen.Quinn

/-!
# The accept loop of the listener

`ServerListenerNetworking::new` spawns one task that takes the incoming
connection attempts one after the other, waits for the handshake of each, and
queues the client for `poll_client`.  It unwraps the outcome of the handshake, so
an attempt that fails ends the loop.

A run is given the whole sequence of attempts with the outcome of each of their
handshakes; when the attempts arrive, and how the task, the application and the
network interleave, is left open.  A client is named by the position of the
attempt that it comes from.
-/

namespace Warqueen.Server

open Concurrency Quinn

/-- What awaiting an incoming connection attempt yields: the connection, which
needs no name of its own, or the error that ended the handshake. -/
abbrev Handshake := Except ConnectionError Unit

/-- The attempt becomes a connection. -/
def Handshake.succeeds : Handshake → Bool
  | .ok _ => true
  | .error _ => false

/-- What ended the accept task: an attempt it unwrapped, or a client that it
could not queue because the listener was dropped. -/
inductive AcceptPanic where
  | handshake (error : ConnectionError)
  | send
  deriving DecidableEq, Repr

/-- The accept task.  `notOpened` lasts until the task that opens the endpoint
has run; if opening it fails the accept task is never spawned. -/
inductive AcceptTask where
  | notOpened
  | neverSpawned
  | accepting
  | handshaking (attempt : Nat)
  | panicked (panic : AcceptPanic)
  deriving DecidableEq, Repr

/-- A listener.  `arrived` attempts have been handed to the endpoint, and
`Endpoint::accept` has yielded the first `yielded` of them. -/
structure Listener where
  arrived : Nat
  yielded : Nat
  acceptTask : AcceptTask
  clients : Mpsc Nat
  deriving DecidableEq, Repr

/-- The steps of the listener's tasks (`openEndpoint`, `accept`, `handshake`),
of the network (`arrive`) and of the application. -/
inductive ListenerAction where
  | openEndpoint (succeeds : Bool)
  | arrive
  | accept
  | handshake
  | pollClient
  | drop
  deriving DecidableEq, Repr

/-- The labels of the accept task. -/
def ListenerAction.IsAcceptTask : ListenerAction → Prop
  | .accept | .handshake => True
  | _ => False

namespace Listener

/-- A listener just created. -/
def new : Listener :=
  { arrived := 0, yielded := 0, acceptTask := .notOpened, clients := .channel }

/-- The endpoint is open: the accept task holds it, or a client that it made. -/
def endpointHeld (listener : Listener) : Bool :=
  match listener.acceptTask with
  | .notOpened | .neverSpawned => false
  | .accepting | .handshaking _ => true
  | .panicked _ => !listener.clients.sent.isEmpty

/-- The outcome of the handshake that the accept task awaits is unwrapped, and
the client is queued, which is unwrapped too. -/
def finishHandshake (listener : Listener) (attempt : Nat) : Handshake → Listener
  | .ok _ =>
      if listener.clients.receiverHeld then
        { listener with
          acceptTask := .accepting
          clients := listener.clients.send attempt }
      else { listener with acceptTask := .panicked .send }
  | .error error => { listener with acceptTask := .panicked (.handshake error) }

/-- The step function of the listener. -/
def step (attempts : List Handshake) (listener : Listener) :
    ListenerAction → Option Listener
  | .openEndpoint succeeds =>
      if listener.acceptTask = .notOpened then
        some { listener with
          acceptTask := if succeeds then .accepting else .neverSpawned }
      else none
  | .arrive =>
      if listener.endpointHeld ∧ listener.arrived < attempts.length then
        some { listener with arrived := listener.arrived + 1 }
      else none
  | .accept =>
      if listener.acceptTask = .accepting ∧ listener.yielded < listener.arrived then
        some { listener with
          yielded := listener.yielded + 1
          acceptTask := .handshaking listener.yielded }
      else none
  | .handshake =>
      match listener.acceptTask with
      | .handshaking attempt =>
          (attempts[attempt]?).map (listener.finishHandshake attempt)
      | _ => none
  | .pollClient => some { listener with clients := listener.clients.tryRecv.2 }
  | .drop => some { listener with clients := listener.clients.dropReceiver }

/-- A listener and the attempts that are made on it, as a system. -/
def system (attempts : List Handshake) : System Listener ListenerAction where
  init := .new
  step := step attempts

/-! ## Which clients are queued -/

/-- The clients of the first attempts whose handshake succeeds. -/
def succeeded (attempts : List Handshake) (first : Nat) : List Nat :=
  (List.range first).filter fun attempt =>
    (attempts[attempt]?).any Handshake.succeeds

/-- Every attempt that was made has been dealt with: all of them arrived, and the
accept task of the listener, which is still held, can do nothing more. -/
def Settled (attempts : List Handshake) (listener : Listener) : Prop :=
  listener.clients.receiverHeld = true ∧ listener.arrived = attempts.length ∧
    (system attempts).Stuck ListenerAction.IsAcceptTask listener

/-- Once everything is dealt with, the clients queued are those of the attempts
whose handshake succeeded, each once. -/
def Resilient (attempts : List Handshake) : Prop :=
  ∀ listener, (system attempts).Reachable listener → listener.Settled attempts →
    listener.clients.sent.Perm (succeeded attempts attempts.length)

/-- No attempt that succeeds comes after one that fails. -/
def FailuresLast (attempts : List Handshake) : Prop :=
  attempts.Pairwise fun earlier later =>
    later.succeeds = true → earlier.succeeds = true

/-- What the accept task has done so far, at each of its phases. -/
def Served (attempts : List Handshake) (listener : Listener) : Prop :=
  match listener.acceptTask with
  | .notOpened | .neverSpawned => listener.yielded = 0 ∧ listener.clients.sent = []
  | .accepting => listener.clients.sent = succeeded attempts listener.yielded
  | .handshaking attempt =>
      listener.yielded = attempt + 1 ∧
        listener.clients.sent = succeeded attempts attempt
  | .panicked (.handshake error) =>
      ∃ attempt, attempts[attempt]? = some (.error error) ∧
        listener.clients.sent = succeeded attempts attempt
  | .panicked .send => listener.clients.receiverHeld = false

/-- The invariant of the accept loop. -/
structure Invariant (attempts : List Handshake) (listener : Listener) : Prop where
  yielded : listener.yielded ≤ listener.arrived
  arrived : listener.arrived ≤ attempts.length
  opened : listener.acceptTask = .notOpened ∨ listener.acceptTask = .neverSpawned →
    listener.arrived = 0
  served : listener.Served attempts

variable {attempts : List Handshake} {listener listener' : Listener}

@[simp] theorem succeeded_zero : succeeded attempts 0 = [] := rfl

theorem succeeded_succ (first : Nat) :
    succeeded attempts (first + 1) =
      succeeded attempts first ++
        if (attempts[first]?).any Handshake.succeeds then [first] else [] := by
  simp only [succeeded, List.range_succ, List.filter_append, List.filter_singleton,
    Bool.cond_eq_ite]

theorem mem_succeeded {first attempt : Nat} :
    attempt ∈ succeeded attempts first ↔
      attempt < first ∧ (attempts[attempt]?).any Handshake.succeeds = true := by
  simp [succeeded]

theorem FailuresLast.fails_after (failuresLast : FailuresLast attempts)
    {failed later : Nat} {error : ConnectionError}
    (isFailed : attempts[failed]? = some (.error error)) (after : failed ≤ later) :
    (attempts[later]?).any Handshake.succeeds = false := by
  cases found : attempts[later]? with
  | none => rfl
  | some outcome =>
      rcases Nat.eq_or_lt_of_le after with rfl | before
      · obtain rfl := Option.some.inj (found.symm.trans isFailed)
        rfl
      · obtain ⟨inBounds, atLater⟩ := List.getElem?_eq_some_iff.mp found
        obtain ⟨_, atFailed⟩ := List.getElem?_eq_some_iff.mp isFailed
        have ordered := List.pairwise_iff_getElem.mp failuresLast failed later
          (Nat.lt_trans before inBounds) inBounds before
        rw [atLater, atFailed] at ordered
        cases outcome with
        | ok connection => exact absurd (ordered rfl) (by simp [Handshake.succeeds])
        | error => rfl

/-- After a failure nothing more succeeds, so the clients queued before it are
all there ever are. -/
theorem succeeded_eq_of_failuresLast (failuresLast : FailuresLast attempts)
    {failed first : Nat} {error : ConnectionError}
    (isFailed : attempts[failed]? = some (.error error)) (after : failed ≤ first) :
    succeeded attempts first = succeeded attempts failed := by
  induction first with
  | zero =>
      obtain rfl := Nat.le_zero.mp after
      rfl
  | succ first inductionHypothesis =>
      rcases Nat.eq_or_lt_of_le after with rfl | before
      · rfl
      · have bounded := Nat.le_of_lt_succ before
        rw [succeeded_succ, failuresLast.fails_after isFailed bounded]
        simpa using inductionHypothesis bounded

/-- The accept task's own step: the client of a handshake that succeeded is
queued, a handshake that failed ends the task. -/
theorem Invariant.finishHandshake (invariant : Invariant attempts listener)
    {attempt : Nat} {outcome : Handshake}
    (handshaking : listener.acceptTask = .handshaking attempt)
    (found : attempts[attempt]? = some outcome) :
    Invariant attempts (listener.finishHandshake attempt outcome) := by
  have served := invariant.served
  simp only [Served, handshaking] at served
  obtain ⟨yielded, sent⟩ := served
  cases outcome with
  | error error =>
      exact
        { yielded := invariant.yielded
          arrived := invariant.arrived
          opened := by simp [Listener.finishHandshake]
          served := ⟨attempt, found, sent⟩ }
  | ok connection =>
      cases held : listener.clients.receiverHeld with
      | false =>
          simp only [Listener.finishHandshake, held]
          exact
            { yielded := invariant.yielded
              arrived := invariant.arrived
              opened := by simp
              served := held }
      | true =>
          simp only [Listener.finishHandshake, held, if_true]
          refine
            { yielded := invariant.yielded
              arrived := invariant.arrived
              opened := by simp
              served := ?_ }
          have queued : (listener.clients.send attempt).sent =
              listener.clients.sent ++ [attempt] := by
            simp [Mpsc.send, held]
          simp [Served, yielded, queued, sent, succeeded_succ, found, Handshake.succeeds]

/-- Every step keeps the invariant of the accept loop. -/
theorem Invariant.step (invariant : Invariant attempts listener)
    {action : ListenerAction}
    (stepped : listener.step attempts action = some listener') :
    Invariant attempts listener' := by
  have served := invariant.served
  cases action with
  | openEndpoint succeeds =>
      simp only [Listener.step, Option.ite_none_right_eq_some, Option.some.injEq] at stepped
      obtain ⟨notOpened, rfl⟩ := stepped
      have nothing := invariant.opened (.inl notOpened)
      simp only [Served, notOpened] at served
      exact
        { yielded := invariant.yielded
          arrived := invariant.arrived
          opened := fun _ => nothing
          served := by
            cases succeeds
            · exact served
            · simpa [Served, served.1] using served.2 }
  | arrive =>
      simp only [Listener.step, Option.ite_none_right_eq_some, Option.some.injEq] at stepped
      obtain ⟨⟨held, more⟩, rfl⟩ := stepped
      exact
        { yielded := Nat.le_succ_of_le invariant.yielded
          arrived := more
          opened := by
            intro notOpen
            have closed : listener.acceptTask = .notOpened ∨
                listener.acceptTask = .neverSpawned := notOpen
            rcases closed with closed | closed <;> simp [endpointHeld, closed] at held
          served := served }
  | accept =>
      simp only [Listener.step, Option.ite_none_right_eq_some, Option.some.injEq] at stepped
      obtain ⟨⟨accepting, more⟩, rfl⟩ := stepped
      simp only [Served, accepting] at served
      exact
        { yielded := more
          arrived := invariant.arrived
          opened := by simp
          served := ⟨rfl, served⟩ }
  | handshake =>
      simp only [Listener.step] at stepped
      split at stepped
      next attempt handshaking =>
        obtain ⟨outcome, found, rfl⟩ := Option.map_eq_some_iff.mp stepped
        exact invariant.finishHandshake handshaking found
      next => cases stepped
  | pollClient =>
      obtain rfl := Option.some.inj stepped
      exact
        { invariant with
          served := by simpa [Served] using served }
  | drop =>
      obtain rfl := Option.some.inj stepped
      refine { invariant with served := ?_ }
      simp only [Served] at served ⊢
      split <;> simp_all

theorem invariant_of_reachable (reachable : (system attempts).Reachable listener) :
    Invariant attempts listener :=
  reachable.invariant (Invariant attempts)
    { yielded := Nat.le_refl 0
      arrived := Nat.zero_le _
      opened := fun _ => rfl
      served := ⟨rfl, rfl⟩ }
    fun _ _ _ _ invariant stepped => invariant.step stepped

/-- An accept task that can do nothing more has nothing to accept, or has
panicked. -/
theorem Settled.acceptTask (settled : listener.Settled attempts)
    (invariant : Invariant attempts listener) :
    (attempts = [] ∨ listener.acceptTask = .accepting ∧
        listener.yielded = attempts.length) ∨
      ∃ panic, listener.acceptTask = .panicked panic := by
  obtain ⟨-, arrived, stuck⟩ := settled
  cases task : listener.acceptTask with
  | notOpened =>
      have nothing := invariant.opened (.inl task)
      exact .inl (.inl (List.length_eq_zero_iff.mp (arrived.symm.trans nothing)))
  | neverSpawned =>
      have nothing := invariant.opened (.inr task)
      exact .inl (.inl (List.length_eq_zero_iff.mp (arrived.symm.trans nothing)))
  | accepting =>
      refine .inl (.inr ⟨rfl, ?_⟩)
      have noMore : ¬ listener.yielded < listener.arrived := by
        intro more
        have stepped := stuck .accept trivial
        simp [system, step, task, more] at stepped
      have := invariant.yielded
      omega
  | handshaking attempt =>
      have served := invariant.served
      simp only [Served, task] at served
      have inBounds : attempt < attempts.length := by
        have := invariant.yielded
        omega
      have stepped := stuck .handshake trivial
      simp [system, step, task, inBounds] at stepped
  | panicked panic => exact .inr ⟨panic, rfl⟩

/-- A listener is resilient on the sequences whose failures all come last. -/
theorem resilient_of_failuresLast (failuresLast : FailuresLast attempts) :
    Resilient attempts := by
  intro listener reachable settled
  have invariant := invariant_of_reachable reachable
  have served := invariant.served
  obtain (rfl | ⟨accepting, yielded⟩) | ⟨panic, panicked⟩ := settled.acceptTask invariant
  · suffices listener.clients.sent = [] by simp [this]
    have nothing : listener.yielded = 0 :=
      Nat.le_zero.mp (Nat.le_trans invariant.yielded invariant.arrived)
    simp only [Served] at served
    split at served
    · exact served.2
    · exact served.2
    · simpa [nothing] using served
    · simp [nothing] at served
    · simp at served
    · simp [settled.1] at served
  · simp only [Served, accepting, yielded] at served
    rw [served]
  · cases panic with
    | send =>
        simp only [Served, panicked] at served
        simp [settled.1] at served
    | handshake error =>
        simp only [Served, panicked] at served
        obtain ⟨failed, isFailed, sent⟩ := served
        have inBounds := (List.getElem?_eq_some_iff.mp isFailed).1
        rw [sent, succeeded_eq_of_failuresLast failuresLast isFailed (Nat.le_of_lt inBounds)]

/-! ## A failure before a success -/

/-- All the attempts of the sequence arrive before the first of them is
accepted. -/
theorem reaches_allArrived (attempts : List Handshake) :
    (system attempts).Reachable
      { new with arrived := attempts.length, acceptTask := .accepting } := by
  have arrive (arrived : Nat) (bounded : arrived ≤ attempts.length) :
      (system attempts).Reachable
        { new with arrived := arrived, acceptTask := .accepting } := by
    induction arrived with
    | zero =>
        have opening : (system attempts).step (system attempts).init (.openEndpoint true) =
            some { new with acceptTask := .accepting } := rfl
        exact System.Reachable.init.step opening
    | succ arrived inductionHypothesis =>
        have arriving : (system attempts).step
            { new with arrived := arrived, acceptTask := .accepting } .arrive =
              some { new with arrived := arrived + 1, acceptTask := .accepting } := by
          simp [system, step, endpointHeld, Nat.lt_of_succ_le bounded]
        exact (inductionHypothesis (Nat.le_of_succ_le bounded)).step arriving
  exact arrive attempts.length (Nat.le_refl _)

/-- A listener whose attempts have all arrived and that is ready for the next one
after the first ones, which it has queued. -/
def readyAfter (attempts : List Handshake) (first : Nat) : Listener :=
  { arrived := attempts.length
    yielded := first
    acceptTask := .accepting
    clients := { sent := succeeded attempts first, received := 0, receiverHeld := true } }

/-- The accept task takes the next attempt. -/
theorem readyAfter_accept {first : Nat} (inBounds : first < attempts.length) :
    (system attempts).step (readyAfter attempts first) .accept =
      some { readyAfter attempts first with
        yielded := first + 1, acceptTask := .handshaking first } := by
  simp [system, step, readyAfter, inBounds]

/-- While the attempts succeed, the accept task gets through them. -/
theorem reaches_readyAfter {first : Nat} (bounded : first ≤ attempts.length)
    (allSucceed : ∀ attempt, attempt < first →
      (attempts[attempt]?).any Handshake.succeeds = true) :
    (system attempts).Reachable (readyAfter attempts first) := by
  induction first with
  | zero => exact reaches_allArrived attempts
  | succ first inductionHypothesis =>
      have ready := inductionHypothesis (Nat.le_of_succ_le bounded)
        fun attempt before => allSucceed attempt (Nat.lt_succ_of_lt before)
      have succeeds := allSucceed first (Nat.lt_succ_self first)
      obtain ⟨outcome, found, isOk⟩ := (Option.any_eq_true _ _).mp succeeds
      have finishing : (system attempts).step
          { readyAfter attempts first with
            yielded := first + 1, acceptTask := .handshaking first } .handshake =
            some (readyAfter attempts (first + 1)) := by
        cases outcome with
        | error error => simp [Handshake.succeeds] at isOk
        | ok connection =>
            simp [system, step, found, finishHandshake, readyAfter, Mpsc.send,
              succeeded_succ, Handshake.succeeds]
      exact (ready.step (readyAfter_accept bounded)).step finishing

/-- A sequence that is not all failures last has a first failure, and a success
after it. -/
theorem exists_first_failure (mixed : ¬ FailuresLast attempts) :
    ∃ (failed : Nat) (error : ConnectionError) (later : Nat),
      attempts[failed]? = some (.error error) ∧ failed < later ∧
      (attempts[later]?).any Handshake.succeeds = true ∧
      ∀ attempt : Nat, attempt < failed →
        (attempts[attempt]?).any Handshake.succeeds = true := by
  simp only [FailuresLast, List.pairwise_iff_getElem, not_forall] at mixed
  obtain ⟨earlier, later, inBounds, inBoundsLater, before, succeeds, fails⟩ := mixed
  have failsAt : (attempts[earlier]?).any Handshake.succeeds = false := by
    simpa [List.getElem?_eq_getElem inBounds] using fails
  have someFails : ∃ attempt : Nat,
      (attempts[attempt]?).any Handshake.succeeds = false := ⟨earlier, failsAt⟩
  have firstFails := Nat.find_spec someFails
  have first := Nat.find_min' someFails failsAt
  have firstInBounds := Nat.lt_of_le_of_lt first inBounds
  cases found : attempts[Nat.find someFails] with
  | ok connection =>
      simp [List.getElem?_eq_getElem firstInBounds, found, Handshake.succeeds] at firstFails
  | error error =>
      refine ⟨Nat.find someFails, error, later,
        (List.getElem?_eq_getElem firstInBounds).trans (congrArg some found),
        Nat.lt_of_le_of_lt first before, ?_, ?_⟩
      · simpa [List.getElem?_eq_getElem inBoundsLater] using succeeds
      · intro attempt earlier
        simpa using Nat.find_min someFails earlier

/-- A listener is resilient on no other sequence: the first failure ends the
accept task, and the success after it is never queued. -/
theorem failuresLast_of_resilient (resilient : Resilient attempts) :
    FailuresLast attempts := by
  by_contra mixed
  obtain ⟨failed, error, later, isFailed, after, succeeds, before⟩ :=
    exists_first_failure mixed
  obtain ⟨inBounds, -⟩ := List.getElem?_eq_some_iff.mp isFailed
  let deaf : Listener :=
    { readyAfter attempts failed with
      yielded := failed + 1, acceptTask := .panicked (.handshake error) }
  have panicking : (system attempts).step
      { readyAfter attempts failed with
        yielded := failed + 1, acceptTask := .handshaking failed } .handshake =
        some deaf := by
    simp [system, step, isFailed, finishHandshake, deaf]
  have reachable : (system attempts).Reachable deaf :=
    ((reaches_readyAfter (Nat.le_of_lt inBounds) before).step
      (readyAfter_accept inBounds)).step panicking
  have settled : deaf.Settled attempts := by
    refine ⟨rfl, rfl, ?_⟩
    intro action own
    cases action <;> first | exact own.elim | simp [system, step, deaf]
  have queued : later ∈ succeeded attempts failed := by
    have inBoundsLater : later < attempts.length := by
      obtain ⟨outcome, found, -⟩ := (Option.any_eq_true _ _).mp succeeds
      exact (List.getElem?_eq_some_iff.mp found).1
    have wanted := mem_succeeded.mpr ⟨inBoundsLater, succeeds⟩
    exact (resilient deaf reachable settled).mem_iff.mpr wanted
  exact Nat.lt_asymm after (mem_succeeded.mp queued).1

/-- The listener queues exactly the clients that connected, whatever the order of
events, exactly on the sequences of attempts in which no success comes after a
failure. -/
theorem resilient_iff_failuresLast (attempts : List Handshake) :
    Resilient attempts ↔ FailuresLast attempts :=
  ⟨failuresLast_of_resilient, resilient_of_failuresLast⟩

/-- A peer that gives up during its handshake, then one that connects. -/
theorem deaf_after_failed_handshake :
    ¬ Resilient [.error .timedOut, .ok ()] := by
  intro resilient
  have ran : (system [.error .timedOut, .ok ()]).run .new
      [.openEndpoint true, .arrive, .arrive, .accept, .handshake] =
        some { arrived := 2, yielded := 1, acceptTask := .panicked (.handshake .timedOut),
               clients := .channel } := rfl
  have queued := resilient _ (System.reachable_of_run ran) ⟨rfl, rfl, by
    intro action own
    cases action <;> first | exact own.elim | rfl⟩
  exact absurd queued.length_eq (by decide)

end Listener

end Warqueen.Server
