import Warqueen.Serving.Parties

/-!
# The clients of a server do not mix

Every client that a server's application polls is the server's end of one attempt, and
the two ends of an attempt are the two ends of a connection by themselves: whatever
holds of these holds of every client of a server, whatever the other clients, the
accept task and the application do.
-/

namespace Warqueen.Serving

open Concurrency Quinn Receiving Sending Server Session

variable {S S' R R' : Type} {attempts : List Handshake} {build : Build S S' R R'}
variable {state state' : State S S' R R'} {action : Action S R'} {attempt : Nat}
variable {session session' : Session.State S S' R R'}

/-! ## The parts of a server -/

/-- The listener of a server is a listener. -/
theorem listener_reachable (reachable : (system attempts build).Reachable state) :
    (Listener.system attempts).Reachable state.listener := by
  refine reachable.invariant
    (fun state => (Listener.system attempts).Reachable state.listener)
    System.Reachable.init ?_
  intro before action after _ reached stepped
  rcases (stepped_of_step stepped).listener with ⟨-, same⟩ | ⟨acting, -, steps⟩
  · rw [same]
    exact reached
  · exact reached.step steps

/-- There are two ends for every attempt. -/
theorem sessions_length (reachable : (system attempts build).Reachable state) :
    state.sessions.length = attempts.length := by
  refine reachable.invariant (fun state => state.sessions.length = attempts.length)
    (by simp [system, State.new]) ?_
  intro before action after _ same stepped
  exact (stepped_of_step stepped).length.trans same

/-- The session of an attempt was there before a step, which changed it. -/
theorem Stepped.before (stepped : Stepped attempts build state action state')
    (found : state'.sessions[attempt]? = some session') :
    ∃ session, state.sessions[attempt]? = some session ∧
      AttemptStep attempts build state attempt session action session' := by
  have inBounds := (List.getElem?_eq_some_iff.mp found).1
  rw [stepped.length] at inBounds
  have foundBefore := List.getElem?_eq_getElem inBounds
  obtain ⟨after, foundAfter, changed⟩ := stepped.sessions attempt _ foundBefore
  obtain rfl := Option.some.inj (foundAfter.symm.trans found)
  exact ⟨_, foundBefore, changed⟩

/-- The two ends of an attempt are the two ends of a connection. -/
theorem session_reachable (reachable : (system attempts build).Reachable state)
    (found : state.sessions[attempt]? = some session) :
    (Session.system build).Reachable session := by
  refine reachable.invariant
    (fun state => ∀ attempt session, state.sessions[attempt]? = some session →
      (Session.system build).Reachable session) ?_ ?_ attempt session found
  · intro attempt session found
    simp only [system, State.new, List.getElem?_map, Option.map_eq_some_iff] at found
    obtain ⟨-, -, rfl⟩ := found
    exact System.Reachable.init
  · intro before action after _ holds stepped attempt session found
    obtain ⟨old, foundOld, changed⟩ := (stepped_of_step stepped).before found
    exact (holds attempt old foundOld).reaches changed.reaches

/-! ## Which clients there are -/

theorem prefix_succeeded {first later : Nat} (order : first ≤ later) :
    Listener.succeeded attempts first <+: Listener.succeeded attempts later := by
  induction order with
  | refl => exact List.prefix_rfl
  | step _ inductionHypothesis =>
      rw [Listener.succeeded_succ]
      exact inductionHypothesis.trans (List.prefix_append _ _)

theorem succeeded_increasing (first : Nat) :
    (Listener.succeeded attempts first).Pairwise (· < ·) :=
  List.Pairwise.filter _ List.pairwise_lt_range

/-- What a step of a listener does to the queue of its clients. -/
inductive QueueStep (attempts : List Handshake) (listener : Listener) :
    ListenerAction → Mpsc Nat → Prop where
  | same {action : ListenerAction} (notPolling : action ≠ .pollClient)
      (notDropping : action ≠ .drop)
      (notServing : ∀ attempt, action = .handshake →
        listener.acceptTask = .handshaking attempt →
          (attempts[attempt]?).any Handshake.succeeds = true →
            listener.clients.receiverHeld = false) :
      QueueStep attempts listener action listener.clients
  | queued {attempt : Nat} (handshaking : listener.acceptTask = .handshaking attempt)
      (succeeds : (attempts[attempt]?).any Handshake.succeeds = true)
      (held : listener.clients.receiverHeld = true) :
      QueueStep attempts listener .handshake (listener.clients.send attempt)
  | polled : QueueStep attempts listener .pollClient listener.clients.tryRecv.2
  | dropped : QueueStep attempts listener .drop listener.clients.dropReceiver

theorem queueStep_of_step {listener listener' : Listener} {acting : ListenerAction}
    (stepped : listener.step attempts acting = some listener') :
    QueueStep attempts listener acting listener'.clients := by
  cases acting with
  | openEndpoint | arrive | accept =>
      simp only [Listener.step, Option.ite_none_right_eq_some, Option.some.injEq] at stepped
      obtain ⟨-, rfl⟩ := stepped
      exact .same (by simp) (by simp) (by simp)
  | handshake =>
      simp only [Listener.step] at stepped
      split at stepped
      next attempt handshaking =>
        obtain ⟨outcome, found, rfl⟩ := Option.map_eq_some_iff.mp stepped
        cases outcome with
        | error =>
            refine .same (by simp) (by simp) ?_
            intro other _ isOther succeeds
            obtain rfl := AcceptTask.handshaking.inj (handshaking.symm.trans isOther)
            simp [found, Handshake.succeeds] at succeeds
        | ok =>
            have succeeds : (attempts[attempt]?).any Handshake.succeeds = true := by
              simp [found, Handshake.succeeds]
            cases held : listener.clients.receiverHeld with
            | true =>
                simp only [Listener.finishHandshake, held, if_true]
                exact .queued handshaking succeeds held
            | false =>
                simp only [Listener.finishHandshake, held, Bool.false_eq_true, if_false]
                exact .same (by simp) (by simp) fun _ _ _ _ => held
      next => cases stepped
  | pollClient =>
      obtain rfl := Option.some.inj stepped
      exact .polled
  | drop =>
      obtain rfl := Option.some.inj stepped
      exact .dropped

/-- The accept task takes the attempts in order, and each once. -/
theorem yielded_step {listener listener' : Listener} {acting : ListenerAction}
    (stepped : listener.step attempts acting = some listener') :
    listener.yielded ≤ listener'.yielded := by
  cases acting with
  | openEndpoint | arrive | accept =>
      simp only [Listener.step, Option.ite_none_right_eq_some, Option.some.injEq] at stepped
      obtain ⟨-, rfl⟩ := stepped
      simp
  | handshake =>
      simp only [Listener.step] at stepped
      split at stepped
      · obtain ⟨outcome, -, rfl⟩ := Option.map_eq_some_iff.mp stepped
        cases outcome with
        | error => exact Nat.le_refl _
        | ok =>
            simp only [Listener.finishHandshake]
            split <;> exact Nat.le_refl _
      · cases stepped
  | pollClient | drop =>
      obtain rfl := Option.some.inj stepped
      exact Nat.le_refl _

/-- The clients that were queued are those of the first attempts that succeeded. -/
theorem prefix_queued {listener : Listener}
    (reachable : (Listener.system attempts).Reachable listener) :
    listener.clients.sent <+: Listener.succeeded attempts listener.yielded := by
  refine reachable.invariant (fun listener =>
    listener.clients.sent <+: Listener.succeeded attempts listener.yielded)
    List.nil_prefix ?_
  intro before action after reachable queued stepped
  have later := yielded_step stepped
  have grown := queued.trans (prefix_succeeded later)
  have served := (Listener.invariant_of_reachable reachable).served
  have changed := queueStep_of_step stepped
  generalize after.clients = clients at changed ⊢
  cases changed with
  | same => exact grown
  | @queued attempt handshaking succeeds held =>
      simp only [Listener.Served, handshaking] at served
      have queuedNow : (before.clients.send attempt).sent =
          Listener.succeeded attempts (attempt + 1) := by
        simp [Mpsc.send, held, served.2, Listener.succeeded_succ, succeeds]
      rw [queuedNow]
      exact prefix_succeeded (served.1 ▸ later)
  | polled => simpa using grown
  | dropped => exact grown

/-- The queue of a listener hands out what it was given. -/
theorem queue_bounded {listener : Listener}
    (reachable : (Listener.system attempts).Reachable listener) :
    listener.clients.Bounded := by
  refine reachable.invariant (fun listener => listener.clients.Bounded)
    (Nat.le_refl 0) ?_
  intro before action after _ bounded stepped
  have changed := queueStep_of_step stepped
  generalize after.clients = clients at changed ⊢
  cases changed with
  | same | dropped => exact bounded
  | queued => exact bounded.send _
  | polled => exact bounded.tryRecv

/-- A client that was polled stays polled, and one that was queued stays queued. -/
theorem queueStep_mem {listener : Listener} {acting : ListenerAction} {clients : Mpsc Nat}
    (bounded : listener.clients.Bounded)
    (changed : QueueStep attempts listener acting clients) :
    (∀ client ∈ listener.clients.taken, client ∈ clients.taken) ∧
      (∀ client ∈ listener.clients.sent, client ∈ clients.sent) ∧
      (clients.receiverHeld = true → listener.clients.receiverHeld = true) := by
  cases changed with
  | same => exact ⟨fun _ => id, fun _ => id, id⟩
  | queued _ _ held =>
      rw [bounded.send_taken]
      refine ⟨fun _ => id, ?_, fun _ => held⟩
      intro client member
      simp [Mpsc.send, held, member]
  | polled =>
      rw [Mpsc.tryRecv_taken, Mpsc.tryRecv_sent]
      exact ⟨fun _ => List.mem_append_left _, fun _ => id, by simp⟩
  | dropped => exact ⟨fun _ => id, fun _ => id, by simp⟩

/-! ## Who has the server's ends -/

/-- The application has done nothing with the server's end of an attempt. -/
def Untouched (session : Session.State S S' R R') : Prop :=
  ∀ server, session.server = some server → server.polled = [] ∧ server.sentMessages = []

/-- The server's end of an attempt is dropped, if there is one. -/
def Abandoned (session : Session.State S S' R R') : Prop :=
  ∀ server, session.server = some server → server.held = false

/-- Nothing but its application touches the server's end of a connection. -/
theorem Untouched.step {acting : Session.Action S R'} (untouched : Untouched session)
    (noCall : ∀ call, acting = .server call → isCall call = true → call = .drop)
    (stepped : Session.step build session acting = some session') : Untouched session' := by
  intro server' found'
  cases Session.sessionStep_of_step stepped with
  | client stepped => exact untouched server' (stepped.server ▸ found')
  | newClientOnServer =>
      obtain rfl := Option.some.inj found'
      exact ⟨rfl, rfl⟩
  | @server call server _ found stepped =>
      obtain ⟨-, server'', found'', stepped⟩ := stepped.server
      obtain rfl := Option.some.inj (found''.symm.trans found')
      obtain ⟨polled, messages⟩ := untouched server found
      cases call with
      | sendMessageToClient | pollEventFromClient | disconnect =>
          cases noCall _ rfl rfl
      | drop =>
          simp only [ClientOnServer.system, ClientOnServer.step, Option.ite_none_right_eq_some,
            Option.some.injEq] at stepped
          obtain ⟨-, rfl⟩ := stepped
          exact ⟨polled, messages⟩
      | sendingTask index answer =>
          obtain ⟨sent, phase, foundSent, -⟩ :=
            ClientOnServer.State.resumeSending_eq_some stepped
          simp [messages] at foundSent
      | receiving receiving =>
          obtain ⟨connection, rfl, -, -⟩ := ClientOnServer.receiving_cases stepped
          exact ⟨polled, messages⟩

/-- A dropped server's end stays dropped. -/
theorem Abandoned.step {acting : Session.Action S R'} (abandoned : Abandoned session)
    (notNew : acting ≠ .newClientOnServer)
    (stepped : Session.step build session acting = some session') : Abandoned session' := by
  intro server' found'
  cases Session.sessionStep_of_step stepped with
  | client stepped => exact abandoned server' (stepped.server ▸ found')
  | newClientOnServer => exact absurd rfl notNew
  | @server call server _ found stepped =>
      obtain ⟨-, server'', found'', stepped⟩ := stepped.server
      obtain rfl := Option.some.inj (found''.symm.trans found')
      have dropped := abandoned server found
      cases call with
      | sendMessageToClient | pollEventFromClient | disconnect | drop =>
          simp [ClientOnServer.system, ClientOnServer.step, dropped] at stepped
      | sendingTask index answer =>
          obtain ⟨sent, phase, -, -, -, rfl⟩ :=
            ClientOnServer.State.resumeSending_eq_some stepped
          exact dropped
      | receiving receiving =>
          obtain ⟨connection, rfl, -, -⟩ := ClientOnServer.receiving_cases stepped
          exact dropped

/-- The accept task builds a server's end, which is the listener's to hold. -/
theorem serve_eq_some {listenerHeld : Bool}
    (serves : serve build listenerHeld session = some session') :
    Untouched session' ∧ session'.server.isSome = true ∧
      (listenerHeld = false → Abandoned session') := by
  obtain ⟨newSession, builds, serves⟩ := Option.bind_eq_some_iff.mp serves
  simp only [Session.step, Option.ite_none_right_eq_some, Option.some.injEq] at builds
  obtain ⟨-, rfl⟩ := builds
  cases listenerHeld with
  | true =>
      obtain rfl := Option.some.inj serves
      refine ⟨?_, rfl, by simp⟩
      intro server found
      obtain rfl := Option.some.inj found
      exact ⟨rfl, rfl⟩
  | false =>
      obtain rfl := Option.some.inj serves
      refine ⟨?_, rfl, fun _ => ?_⟩
      · intro server found
        obtain rfl := Option.some.inj found
        exact ⟨rfl, rfl⟩
      · intro server found
        obtain rfl := Option.some.inj found
        rfl

/-- A client that is dropped is abandoned. -/
theorem dropClient_abandoned : Abandoned (dropClient build session) := by
  intro server found
  cases before : session.server with
  | none => simp [dropClient, Session.step, before] at found
  | some old =>
      cases held : old.held with
      | false =>
          simp [dropClient, Session.step, before, Session.stepServer, ClientOnServer.step,
            held] at found
          exact found ▸ held
      | true =>
          simp [dropClient, Session.step, before, Session.stepServer, ClientOnServer.step,
            held] at found
          exact found ▸ rfl

theorem dropClient_untouched (untouched : Untouched session) :
    Untouched (dropClient build session) := by
  simp only [dropClient]
  cases drops : Session.step build session (.server .drop) with
  | none => exact untouched
  | some dropped =>
      refine untouched.step ?_ drops
      intro call isCall _
      exact (Session.Action.server.inj isCall).symm

/-- A server's end stays, and only its construction makes one. -/
theorem isSome_server_step {acting : Session.Action S R'}
    (notNew : acting ≠ .newClientOnServer)
    (stepped : Session.step build session acting = some session') :
    session'.server.isSome = session.server.isSome := by
  cases Session.sessionStep_of_step stepped with
  | client stepped => rw [stepped.server]
  | newClientOnServer => exact absurd rfl notNew
  | server found stepped =>
      obtain ⟨-, server', found', -⟩ := stepped.server
      rw [found, found']
      rfl

theorem dropClient_isSome_server :
    (dropClient build session).server.isSome = session.server.isSome := by
  simp only [dropClient]
  cases drops : Session.step build session (.server .drop) with
  | none => rfl
  | some dropped => exact isSome_server_step (by simp) drops

/-- The application has the clients that it polled, the listener, as long as it is held,
has those that wait in its queue, and nobody has any other. -/
structure Owned (state : State S S' R R') : Prop where
  untouched : ∀ (attempt : Nat) session, state.sessions[attempt]? = some session →
    attempt ∉ state.polledClients → Untouched session
  abandoned : state.listener.clients.receiverHeld = false →
    ∀ (attempt : Nat) session, state.sessions[attempt]? = some session →
      attempt ∉ state.polledClients → Abandoned session
  present : ∀ (attempt : Nat) session, state.sessions[attempt]? = some session →
    attempt ∈ state.listener.clients.sent → session.server.isSome = true
  queued : state.listener.clients.receiverHeld = true →
    ∀ (attempt : Nat) session, state.sessions[attempt]? = some session →
      session.server.isSome = true → attempt ∈ state.listener.clients.sent

/-- The queue of the clients changes with a step of the listener. -/
theorem Stepped.queue (stepped : Stepped attempts build state action state') :
    (∃ attempt acting, action = .session attempt acting) ∧
        state'.listener.clients = state.listener.clients ∨
      ∃ acting, action = .listener acting ∧
        QueueStep attempts state.listener acting state'.listener.clients := by
  rcases stepped.listener with ⟨isSession, same⟩ | ⟨acting, isListener, steps⟩
  · exact .inl ⟨isSession, by rw [same]⟩
  · exact .inr ⟨acting, isListener, queueStep_of_step steps⟩

/-- Clients that were polled or queued before a step were it after. -/
theorem Stepped.clients (stepped : Stepped attempts build state action state')
    (bounded : state.listener.clients.Bounded) :
    (∀ client ∈ state.polledClients, client ∈ state'.polledClients) ∧
      (∀ client ∈ state.listener.clients.sent, client ∈ state'.listener.clients.sent) ∧
      (state'.listener.clients.receiverHeld = true →
        state.listener.clients.receiverHeld = true) := by
  rcases stepped.queue with ⟨-, same⟩ | ⟨acting, -, changed⟩
  · simp only [State.polledClients, same]
    exact ⟨fun _ => id, fun _ => id, id⟩
  · exact queueStep_mem bounded changed

/-- The application calls no client that it did not poll. -/
theorem State.allows_notCall {acting : Session.Action S R'}
    (allowed : state.allows attempt acting = true)
    (notPolled : attempt ∉ state.polledClients) (call : ClientOnServer.Action R')
    (isServer : acting = .server call) : isCall call = false := by
  subst isServer
  simp only [State.allows, Bool.or_eq_true, Bool.not_eq_true', List.contains_iff_mem]
    at allowed
  exact allowed.resolve_right notPolled

theorem State.allows_notNew {acting : Session.Action S R'}
    (allowed : state.allows attempt acting = true) : acting ≠ .newClientOnServer := by
  intro isNew
  subst isNew
  cases allowed

/-- Whoever was queued was polled, or waits. -/
theorem mem_waitingClients (queued : attempt ∈ state.listener.clients.sent)
    (notPolled : attempt ∉ state.polledClients) : attempt ∈ state.waitingClients := by
  have split := List.take_append_drop state.listener.clients.received
    state.listener.clients.sent
  rw [← split, List.mem_append] at queued
  exact queued.resolve_left notPolled

theorem Owned.untouched_step (owned : Owned state)
    (stepped : Stepped attempts build state action state')
    (bounded : state.listener.clients.Bounded)
    (found : state'.sessions[attempt]? = some session')
    (notPolled : attempt ∉ state'.polledClients) : Untouched session' := by
  obtain ⟨session, foundBefore, changed⟩ := stepped.before found
  have notBefore : attempt ∉ state.polledClients :=
    fun polled => notPolled ((stepped.clients bounded).1 attempt polled)
  have before := owned.untouched attempt session foundBefore notBefore
  cases changed with
  | same => exact before
  | served _ _ serves => exact (serve_eq_some serves).1
  | dropped => exact dropClient_untouched before
  | own allowed steps =>
      refine before.step ?_ steps
      intro call isServer isCall
      rw [State.allows_notCall allowed notBefore call isServer] at isCall
      cases isCall

theorem Owned.abandoned_step (owned : Owned state)
    (stepped : Stepped attempts build state action state')
    (bounded : state.listener.clients.Bounded)
    (gone : state'.listener.clients.receiverHeld = false)
    (found : state'.sessions[attempt]? = some session')
    (notPolled : attempt ∉ state'.polledClients) : Abandoned session' := by
  obtain ⟨session, foundBefore, changed⟩ := stepped.before found
  have notBefore : attempt ∉ state.polledClients :=
    fun polled => notPolled ((stepped.clients bounded).1 attempt polled)
  cases held : state.listener.clients.receiverHeld with
  | false =>
      have before := owned.abandoned held attempt session foundBefore notBefore
      cases changed with
      | same => exact before
      | served _ _ serves => exact (serve_eq_some serves).2.2 held
      | dropped => exact dropClient_abandoned
      | own allowed steps => exact before.step (State.allows_notNew allowed) steps
  | true =>
      -- The step drops the listener, and with it the clients that wait in its queue.
      have isDrop : action = .listener .drop := by
        rcases stepped.queue with ⟨-, same⟩ | ⟨acting, rfl, queue⟩
        · rw [same, held] at gone
          cases gone
        · generalize state'.listener.clients = clients at queue gone
          cases queue with
          | dropped => rfl
          | same | polled => simp [held] at gone
          | queued => simp [Mpsc.send, held] at gone
      subst isDrop
      cases changed with
      | same notWaiting =>
          intro server hasServer
          have queued := owned.queued held attempt _ foundBefore (by simp [hasServer])
          exact absurd (mem_waitingClients queued notBefore) notWaiting
      | dropped => exact dropClient_abandoned

theorem Owned.present_step (owned : Owned state)
    (stepped : Stepped attempts build state action state')
    (found : state'.sessions[attempt]? = some session')
    (queued : attempt ∈ state'.listener.clients.sent) : session'.server.isSome = true := by
  obtain ⟨session, foundBefore, changed⟩ := stepped.before found
  by_cases queuedBefore : attempt ∈ state.listener.clients.sent
  · have before := owned.present attempt session foundBefore queuedBefore
    cases changed with
    | same => exact before
    | served _ _ serves => exact (serve_eq_some serves).2.1
    | dropped => rw [dropClient_isSome_server, before]
    | own allowed steps => rw [isSome_server_step (State.allows_notNew allowed) steps, before]
  · rcases stepped.queue with ⟨-, same⟩ | ⟨acting, rfl, queue⟩
    · exact absurd (same ▸ queued) queuedBefore
    · generalize state'.listener.clients = clients at queue queued
      cases queue with
      | same => exact absurd queued queuedBefore
      | dropped => exact absurd queued queuedBefore
      | polled => exact absurd (by simpa using queued) queuedBefore
      | @queued newest handshaking succeeds held =>
          simp only [Mpsc.send, held, if_true, List.mem_append, List.mem_singleton] at queued
          obtain rfl := queued.resolve_left queuedBefore
          cases changed with
          | same notServed => exact absurd ⟨handshaking, succeeds⟩ notServed
          | served _ _ serves => exact (serve_eq_some serves).2.1

theorem Owned.queued_step (owned : Owned state)
    (stepped : Stepped attempts build state action state')
    (bounded : state.listener.clients.Bounded)
    (held : state'.listener.clients.receiverHeld = true)
    (found : state'.sessions[attempt]? = some session')
    (isSome : session'.server.isSome = true) : attempt ∈ state'.listener.clients.sent := by
  obtain ⟨session, foundBefore, changed⟩ := stepped.before found
  obtain ⟨-, grows, heldBefore⟩ := stepped.clients bounded
  have before := owned.queued (heldBefore held) attempt session foundBefore
  cases changed with
  | same => exact grows attempt (before isSome)
  | dropped => exact grows attempt (before (dropClient_isSome_server ▸ isSome))
  | own allowed steps =>
      rw [isSome_server_step (State.allows_notNew allowed) steps] at isSome
      exact grows attempt (before isSome)
  | served handshaking succeeds serves =>
      rcases stepped.queue with ⟨⟨_, _, isSession⟩, -⟩ | ⟨acting, isListener, queue⟩
      · cases isSession
      · obtain rfl := Action.listener.inj isListener
        generalize state'.listener.clients = clients at queue held ⊢
        cases queue with
        | same _ _ notServing =>
            rw [notServing attempt rfl handshaking succeeds] at held
            cases held
        | queued isTask _ heldBefore =>
            obtain rfl := AcceptTask.handshaking.inj (handshaking.symm.trans isTask)
            simp [Mpsc.send, heldBefore]

/-- In every reachable state of a server it is settled who has its ends. -/
theorem owned_of_reachable (reachable : (system attempts build).Reachable state) :
    Owned state := by
  refine reachable.invariant Owned ?_ ?_
  · have nothing : ∀ (attempt : Nat) session,
        (State.new attempts : State S S' R R').sessions[attempt]? = some session →
          session.server = none := by
      intro attempt session found
      simp only [State.new, List.getElem?_map, Option.map_eq_some_iff] at found
      obtain ⟨-, -, rfl⟩ := found
      rfl
    constructor
    · intro attempt session found _ server hasServer
      simp [nothing attempt session found] at hasServer
    · intro gone
      cases gone
    · intro attempt session found queued
      cases queued
    · intro _ attempt session found isSome
      simp [nothing attempt session found] at isSome
  · intro before action after reached owned stepped
    have parts := stepped_of_step stepped
    have bounded := queue_bounded (listener_reachable reached)
    constructor
    · intro attempt session found notPolled
      exact owned.untouched_step parts bounded found notPolled
    · intro gone attempt session found notPolled
      exact owned.abandoned_step parts bounded gone found notPolled
    · intro attempt session found queued
      exact owned.present_step parts found queued
    · intro held attempt session found isSome
      exact owned.queued_step parts bounded held found isSome

/-- The clients that were polled are those of the first attempts that succeeded. -/
theorem prefix_polledClients (reachable : (system attempts build).Reachable state) :
    state.polledClients <+: Listener.succeeded attempts state.listener.yielded :=
  (List.take_prefix _ _).trans (prefix_queued (listener_reachable reachable))

/-- The clients are polled in the order of their attempts, and each once. -/
theorem polledClients_increasing (reachable : (system attempts build).Reachable state) :
    state.polledClients.Pairwise (· < ·) :=
  (succeeded_increasing _).sublist (prefix_polledClients reachable).sublist

/-! ## What the applications exchange -/

/-- What the server should make of the messages that a client's application gave. -/
def givenByClient (build : Build S S' R R') (session : Session.State S S' R R') : List S' :=
  session.client.calls.filterMap fun call => build.clientToServer.transfer call.message

/-- What a client should make of the messages that the server's application gave it. -/
def givenByServer (build : Build S S' R R') (session : Session.State S S' R R') : List R :=
  session.sentMessages.filterMap fun sent => build.serverToClient.transfer sent.message

/-- The server's application polls from the end of an attempt what the client of that
attempt was given. -/
theorem polledByServer_subperm (reachable : (Session.system build).Reachable session) :
    session.polledByServer.Subperm (givenByClient build session) := by
  have paired := Client.paired_of_reachable (Session.client_reachable reachable)
  have started := paired.started_prefix.sublist.filterMap build.clientToServer.transfer
  rw [List.filterMap_map, List.filterMap_map] at started
  exact ((Session.polledByServer_sublist reachable).subperm.trans
    (Session.queuedAtServer_subperm reachable)).trans started.subperm

theorem polledByClient_subperm (reachable : (Session.system build).Reachable session) :
    session.polledByClient.Subperm (givenByServer build session) :=
  (Session.polledByClient_sublist reachable).subperm.trans
    (Session.queuedAtClient_subperm reachable)

/-- The clients of a server do not mix.  The clients that the application polled are those
of the first attempts that succeeded, each once and in their order.  The two ends of an
attempt exchange what their own applications gave.  With a client that it did not poll,
the application has nothing to do, and no such client outlives the listener. -/
structure DoNotMix (attempts : List Handshake) (build : Build S S' R R')
    (state : State S S' R R') : Prop where
  inOrder : state.polledClients <+:
    Listener.succeeded attempts state.listener.yielded
  once : state.polledClients.Pairwise (· < ·)
  served : ∀ attempt ∈ state.polledClients, ∃ session server,
    state.sessions[attempt]? = some session ∧ session.server = some server
  alone : ∀ (attempt : Nat) session, state.sessions[attempt]? = some session →
    (Session.system build).Reachable session
  atServer : ∀ (attempt : Nat) session, state.sessions[attempt]? = some session →
    session.polledByServer.Subperm (givenByClient build session)
  atClient : ∀ (attempt : Nat) session, state.sessions[attempt]? = some session →
    session.polledByClient.Subperm (givenByServer build session)
  notPolled : ∀ (attempt : Nat) session, state.sessions[attempt]? = some session →
    attempt ∉ state.polledClients →
      session.polledByServer = [] ∧ session.sentMessages = [] ∧ session.polledByClient = []
  abandoned : state.listener.clients.receiverHeld = false →
    ∀ (attempt : Nat) session server, state.sessions[attempt]? = some session →
      attempt ∉ state.polledClients → session.server = some server → server.held = false

/-- In every reachable state of a server, whatever its attempts and their handshakes, the
clients, the network, the tasks and the application do. -/
theorem clients_do_not_mix (attempts : List Handshake) (build : Build S S' R R')
    (state : State S S' R R') (reachable : (system attempts build).Reachable state) :
    DoNotMix attempts build state := by
  have owned := owned_of_reachable reachable
  have inOrder := prefix_polledClients reachable
  constructor
  · exact inOrder
  · exact polledClients_increasing reachable
  · intro attempt polled
    have succeeds := Listener.mem_succeeded.mp (inOrder.subset polled)
    have inBounds : attempt < state.sessions.length := by
      obtain ⟨outcome, found, -⟩ := (Option.any_eq_true _ _).mp succeeds.2
      rw [sessions_length reachable]
      exact (List.getElem?_eq_some_iff.mp found).1
    have found := List.getElem?_eq_getElem inBounds
    have isSome := owned.present attempt _ found ((List.take_prefix _ _).subset polled)
    obtain ⟨server, hasServer⟩ := Option.isSome_iff_exists.mp isSome
    exact ⟨_, server, found, hasServer⟩
  · intro attempt session found
    exact session_reachable reachable found
  · intro attempt session found
    exact polledByServer_subperm (session_reachable reachable found)
  · intro attempt session found
    exact polledByClient_subperm (session_reachable reachable found)
  · intro attempt session found notPolled
    have untouched := owned.untouched attempt session found notPolled
    have given := polledByClient_subperm (session_reachable reachable found)
    cases hasServer : session.server with
    | none =>
        simp only [givenByServer, Session.State.sentMessages, hasServer] at given
        exact ⟨by simp [Session.State.polledByServer, hasServer],
          by simp [Session.State.sentMessages, hasServer], List.subperm_nil.mp given⟩
    | some server =>
        obtain ⟨polled, messages⟩ := untouched server hasServer
        simp only [givenByServer, Session.State.sentMessages, hasServer, Option.map_some,
          Option.getD_some, messages] at given
        exact ⟨by simp [Session.State.polledByServer, hasServer, polled],
          by simp [Session.State.sentMessages, hasServer, messages],
          List.subperm_nil.mp given⟩
  · intro gone attempt session server found notPolled hasServer
    exact owned.abandoned gone attempt session found notPolled server hasServer

/-- A client is given a message while it connects. -/
def connects (attempt : Nat) (message : Bool) : List (Action Bool Bool) :=
  [.session attempt (.client (.sendMessageToServer message)),
    .session attempt (.client (.endAttempt .connected)),
    .session attempt (.client .connectingTask), .session attempt (.client .connectingTask),
    .session attempt (.client .pollEventFromServer)]

/-- The message of a client is sent and received. -/
def isHeard (attempt : Nat) (byte : UInt8) : List (Action Bool Bool) :=
  [.session attempt (.client (.sendingTask 0 .polled)),
    .session attempt (.client (.sendingTask 0 (.opened (.ok 0)))),
    .session attempt (.client (.sendingTask 0 (.wrote (.ok 1)))),
    .session attempt (.client (.sendingTask 0 .finished)),
    .session attempt (.server (.receiving .openStream)),
    .session attempt (.server (.receiving (.deliver 0 [byte]))),
    .session attempt (.server (.receiving (.finish 0))),
    .session attempt (.server (.receiving .acceptUni)),
    .session attempt (.server (.receiving (.read 0)))]

/-- Two attempts that succeed, and one that fails. -/
def twoOfThree : List Handshake := [.ok (), .ok (), .error .timedOut]

/-- Two clients are accepted, the second of which is heard before the first, and an
attempt that fails comes after them. -/
def twoClients : List (Action Bool Bool) :=
  [.listener (.openEndpoint true), .listener .arrive, .listener .arrive, .listener .arrive] ++
    connects 0 true ++ connects 1 false ++
    [.listener .accept, .listener .handshake, .listener .accept, .listener .handshake,
      .listener .accept, .listener .handshake, .listener .pollClient, .listener .pollClient] ++
    isHeard 1 0xc2 ++ isHeard 0 0xc3 ++
    [.session 1 (.server .pollEventFromClient), .session 0 (.server .pollEventFromClient)]

theorem two_clients_do_not_mix :
    ∃ state, (system twoOfThree booleans).run (.new twoOfThree) twoClients = some state ∧
      state.listener.acceptTask = .panicked (.handshake .timedOut) ∧
      state.polledClients = [0, 1] ∧
      state.sessions.map (·.polledByServer) = [[true], [false], []] ∧
      DoNotMix twoOfThree booleans state := by
  obtain ⟨state, ran, panicked, polled, heard⟩ :
      ∃ state, (system twoOfThree booleans).run (.new twoOfThree) twoClients = some state ∧
        state.listener.acceptTask = .panicked (.handshake .timedOut) ∧
        state.polledClients = [0, 1] ∧
        state.sessions.map (·.polledByServer) = [[true], [false], []] :=
    ⟨_, rfl, rfl, rfl, rfl⟩
  exact ⟨state, ran, panicked, polled, heard,
    clients_do_not_mix twoOfThree booleans state (System.reachable_of_run ran)⟩

end Warqueen.Serving
