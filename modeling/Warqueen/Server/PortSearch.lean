import Mathlib.Data.UInt
import Mathlib.Order.Nat

/-!
# The port of a server

`ServerListenerNetworking::new` hands `UdpSocket::bind` an iterator of addresses, and
`bind` tries one after the other until one works.  The iterator of a desired port
begins with that port, goes on with the port that follows, and never ends.

Which addresses can be bound is the business of the host: it is a function from
addresses to sockets and errors.
-/

namespace Warqueen.Server

/-! ## Binding to the first address that works -/

section Bind

variable {Addresses Address Error Socket : Type}
variable (next : Addresses → Option Address × Addresses)
variable (bindTo : Address → Except Error Socket)

/-- `UdpSocket::bind`, with the addresses that it tried: the socket of the first that
works, or the last error when the iterator ends.  It is `none` when that takes more
than the given number of rounds. -/
def bind (rounds : Nat) (lastError : Option Error) (addresses : Addresses) :
    Option (List Address × Except (Option Error) Socket) :=
  match rounds with
  | 0 => none
  | rounds + 1 =>
      match next addresses with
      | (none, _) => some ([], .error lastError)
      | (some address, addresses) =>
          match bindTo address with
          | .ok socket => some ([address], .ok socket)
          | .error error =>
              (bind rounds (some error) addresses).map fun (tried, result) =>
                (address :: tried, result)

/-- The iterator yields this address after so many others. -/
def Yields (addresses : Addresses) (yielded : Nat → Address) : Prop :=
  ∃ iterators : Nat → Addresses, iterators 0 = addresses ∧
    ∀ index, next (iterators index) = (some (yielded index), iterators (index + 1))

variable {next bindTo}

/-- The iterator without its first address. -/
theorem Yields.tail {addresses : Addresses} {yielded : Nat → Address}
    (yields : Yields next addresses yielded) :
    ∃ rest, next addresses = (some (yielded 0), rest) ∧
      Yields next rest fun index => yielded (index + 1) := by
  obtain ⟨iterators, rfl, each⟩ := yields
  exact ⟨iterators 1, each 0, fun index => iterators (index + 1), rfl,
    fun index => each (index + 1)⟩

/-- The search ends at the first address that works. -/
theorem bind_of_first {yielded : Nat → Address} {first : Nat} {socket : Socket}
    (works : bindTo (yielded first) = .ok socket)
    (earlier : ∀ index, index < first → ∃ error, bindTo (yielded index) = .error error)
    {addresses : Addresses} (yields : Yields next addresses yielded) {rounds : Nat}
    (enough : first < rounds) (lastError : Option Error) :
    bind next bindTo rounds lastError addresses =
      some ((List.range (first + 1)).map yielded, .ok socket) := by
  induction first generalizing yielded addresses rounds lastError with
  | zero =>
      obtain ⟨rest, isNext, -⟩ := yields.tail
      cases rounds with
      | zero => cases enough
      | succ rounds => simp [bind, isNext, works]
  | succ first inductionHypothesis =>
      obtain ⟨rest, isNext, yieldsRest⟩ := yields.tail
      obtain ⟨error, fails⟩ := earlier 0 (Nat.succ_pos first)
      cases rounds with
      | zero => cases enough
      | succ rounds =>
          have searched := inductionHypothesis works
            (fun index before => earlier (index + 1) (Nat.succ_lt_succ before))
            yieldsRest (Nat.lt_of_succ_lt_succ enough) (some error)
          have split : (List.range (first + 1 + 1)).map yielded =
              yielded 0 :: (List.range (first + 1)).map fun index => yielded (index + 1) := by
            rw [List.range_succ_eq_map, List.map_cons, List.map_map]
            rfl
          simp only [bind, isNext, fails, searched, Option.map_some, split]

/-- The search of an iterator that never ends does not end either if no address
works. -/
theorem bind_of_none {yielded : Nat → Address}
    (none : ∀ index, ∃ error, bindTo (yielded index) = .error error)
    {addresses : Addresses} (yields : Yields next addresses yielded) (rounds : Nat)
    (lastError : Option Error) :
    bind next bindTo rounds lastError addresses = Option.none := by
  induction rounds generalizing yielded addresses lastError with
  | zero => rfl
  | succ rounds inductionHypothesis =>
      obtain ⟨rest, isNext, yieldsRest⟩ := yields.tail
      obtain ⟨error, fails⟩ := none 0
      have searched := inductionHypothesis (fun index => none (index + 1)) yieldsRest
        (some error)
      simp only [bind, isNext, fails, searched, Option.map_none]

end Bind

/-! ## The addresses that a server tries -/

/-- An IP address. -/
inductive IpAddr where
  | v4 (bits : BitVec 32)
  | v6 (bits : BitVec 128)
  deriving DecidableEq, Repr

/-- `Ipv4Addr::UNSPECIFIED`. -/
def IpAddr.unspecified : IpAddr := .v4 0

/-- A socket address. -/
structure SocketAddr where
  ipAddr : IpAddr
  port : UInt16
  deriving DecidableEq, Repr

/-- The iterator of a desired port. -/
structure SocketAddrsToTry where
  ipAddr : IpAddr
  nextPort : UInt16
  deriving DecidableEq, Repr

/-- `SocketAddrsToTry::next`. -/
def SocketAddrsToTry.next (addressesToTry : SocketAddrsToTry) :
    Option SocketAddr × SocketAddrsToTry :=
  (some { ipAddr := addressesToTry.ipAddr, port := addressesToTry.nextPort },
    { addressesToTry with nextPort := addressesToTry.nextPort + 1 })

/-- The iterator of a single address. -/
def nextOfOne (address : Option SocketAddr) : Option SocketAddr × Option SocketAddr :=
  (address, none)

/-- `PORT_UNSPECIFIED`. -/
def portUnspecified : UInt16 := 0

variable {Error Socket : Type} (bindTo : SocketAddr → Except Error Socket)

/-- The socket of `ServerListenerNetworking::new`, before the unwrap. -/
def newSocket (desiredPort : Option UInt16) (address : Option IpAddr) (rounds : Nat) :
    Option (List SocketAddr × Except (Option Error) Socket) :=
  match desiredPort with
  | some desiredPort =>
      bind SocketAddrsToTry.next bindTo rounds none
        { ipAddr := address.getD .unspecified, nextPort := desiredPort }
  | none =>
      bind nextOfOne bindTo rounds none
        (some { ipAddr := address.getD .unspecified, port := portUnspecified })

/-! ## Where the search ends -/

/-- The address with the port that comes so many ports after the desired one, and
after the last port the first. -/
def addressAfter (ipAddr : IpAddr) (desiredPort : UInt16) (index : Nat) : SocketAddr :=
  { ipAddr := ipAddr, port := desiredPort + UInt16.ofNat index }

/-- The search makes at most 65536 attempts, at the desired port and those that follow
in order, and ends with the socket of the first that works, or with an error when none
works. -/
def SearchEnds (desiredPort : UInt16) (address : Option IpAddr) : Prop :=
  let attempt := addressAfter (address.getD .unspecified) desiredPort
  ∃ enough tried result,
    (∀ rounds, enough ≤ rounds →
      newSocket bindTo (some desiredPort) address rounds = some (tried, result)) ∧
    tried.length ≤ 65536 ∧
    tried = (List.range tried.length).map attempt ∧
    match result with
    | .ok socket => ∃ first, tried.length = first + 1 ∧
        bindTo (attempt first) = .ok socket ∧
        ∀ index, index < first → ∃ error, bindTo (attempt index) = .error error
    | .error _lastError => ∀ index, ∃ error, bindTo (attempt index) = .error error

theorem addressAfter_succ (ipAddr : IpAddr) (desiredPort : UInt16) (index : Nat) :
    addressAfter ipAddr desiredPort (index + 1) =
      { ipAddr := ipAddr, port := (addressAfter ipAddr desiredPort index).port + 1 } := by
  simp only [addressAfter, UInt16.ofNat_add, UInt16.add_assoc]
  rfl

/-- Every port comes within the first 65536. -/
theorem exists_addressAfter (ipAddr : IpAddr) (desiredPort port : UInt16) :
    ∃ index, index < 65536 ∧
      addressAfter ipAddr desiredPort index = { ipAddr := ipAddr, port := port } := by
  refine ⟨(port - desiredPort).toNat, (port - desiredPort).toNat_lt, ?_⟩
  simp [addressAfter]

/-- The iterator yields the ports in order. -/
theorem yields_addressAfter (ipAddr : IpAddr) (desiredPort : UInt16) :
    Yields SocketAddrsToTry.next { ipAddr := ipAddr, nextPort := desiredPort }
      (addressAfter ipAddr desiredPort) := by
  refine ⟨fun index =>
    { ipAddr := ipAddr, nextPort := (addressAfter ipAddr desiredPort index).port }, ?_, ?_⟩
  · simp [addressAfter]
  · intro index
    simp only [addressAfter_succ]
    rfl

variable {bindTo} {desiredPort : UInt16} {address : Option IpAddr}

/-- When no port can be bound the search goes round for ever. -/
theorem newSocket_of_none
    (none : ∀ port, ∃ error,
      bindTo { ipAddr := address.getD .unspecified, port := port } = .error error)
    (rounds : Nat) : newSocket bindTo (some desiredPort) address rounds = Option.none :=
  bind_of_none (fun _ => none _) (yields_addressAfter _ desiredPort) rounds Option.none

/-- When some port can be bound the search ends at the first. -/
theorem searchEnds_of_works {port : UInt16} {socket : Socket}
    (works : bindTo { ipAddr := address.getD .unspecified, port := port } = .ok socket) :
    SearchEnds bindTo desiredPort address := by
  classical
  let attempt := addressAfter (address.getD .unspecified) desiredPort
  obtain ⟨index, inBounds, isPort⟩ :=
    exists_addressAfter (address.getD .unspecified) desiredPort port
  have found : ∃ index, ∃ socket, bindTo (attempt index) = .ok socket :=
    ⟨index, socket, (congrArg bindTo isPort).trans works⟩
  obtain ⟨firstSocket, firstWorks⟩ := Nat.find_spec found
  have earlier : ∀ index, index < Nat.find found →
      ∃ error, bindTo (attempt index) = .error error := by
    intro index before
    have fails := Nat.find_min found before
    cases result : bindTo (attempt index) with
    | error error => exact ⟨error, rfl⟩
    | ok socket => exact absurd ⟨socket, result⟩ fails
  have least : Nat.find found ≤ index :=
    Nat.find_min' found ⟨socket, (congrArg bindTo isPort).trans works⟩
  refine ⟨Nat.find found + 1, (List.range (Nat.find found + 1)).map attempt,
    .ok firstSocket, ?_, ?_, ?_, ?_⟩
  · intro rounds enough
    exact bind_of_first firstWorks earlier (yields_addressAfter _ desiredPort) enough
      Option.none
  · rw [List.length_map, List.length_range]
    omega
  · rw [List.length_map, List.length_range]
  · refine ⟨Nat.find found, ?_, firstWorks, earlier⟩
    rw [List.length_map, List.length_range]

/-- The search ends, and is right, if and only if some port of the address can be
bound. -/
theorem port_search_ends_iff {Error Socket : Type}
    (bindTo : SocketAddr → Except Error Socket) (desiredPort : UInt16)
    (address : Option IpAddr) :
    SearchEnds bindTo desiredPort address ↔
      ∃ port socket,
        bindTo { ipAddr := address.getD .unspecified, port := port } = .ok socket := by
  constructor
  · intro ends
    by_contra noneWorks
    have none : ∀ port, ∃ error,
        bindTo { ipAddr := address.getD .unspecified, port := port } = .error error := by
      intro port
      cases result : bindTo { ipAddr := address.getD .unspecified, port := port } with
      | error error => exact ⟨error, rfl⟩
      | ok socket => exact absurd ⟨port, socket, result⟩ noneWorks
    obtain ⟨enough, tried, result, searched, -⟩ := ends
    have impossible := (newSocket_of_none none enough).symm.trans
      (searched enough (Nat.le_refl enough))
    cases impossible
  · intro works
    obtain ⟨port, socket, works⟩ := works
    exact searchEnds_of_works works

/-- A host to which the address does not belong: every bind fails. -/
def foreignAddress (_address : SocketAddr) : Except Unit Unit := .error ()

/-- With a desired port the search does not end, and without one it ends with the
error. -/
theorem port_search_of_foreign_address :
    ¬ SearchEnds foreignAddress 21001 (some (.v4 0x01020304)) ∧
      (∀ rounds, newSocket foreignAddress (some 21001) (some (.v4 0x01020304)) rounds =
        none) ∧
      newSocket foreignAddress none (some (.v4 0x01020304)) 2 =
        some ([{ ipAddr := .v4 0x01020304, port := 0 }], .error (some ())) := by
  have never (rounds : Nat) :
      newSocket foreignAddress (some 21001) (some (.v4 0x01020304)) rounds = none :=
    newSocket_of_none (fun _ => ⟨(), rfl⟩) rounds
  refine ⟨?_, never, rfl⟩
  intro ends
  obtain ⟨enough, tried, result, searched, -⟩ := ends
  have impossible := (never enough).symm.trans (searched enough (Nat.le_refl enough))
  cases impossible

end Warqueen.Server
