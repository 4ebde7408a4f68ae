import Mathlib.Data.List.Basic
import Mathlib.Tactic.ByContra

/-!
# What the crate sees of Quinn

The error types that Quinn's connections and streams answer with, and the two
stream operations whose answer depends on more than the connection: reading a
stream to its end, and asking a sent stream whether the peer is done with it.

Everything here is Quinn's documented behaviour.  Bytes arrive in order because
streams are reliable; what the network does to them, and when the connection
ends, is decided by the labels of the systems that use these definitions.
-/

namespace Warqueen.Quinn

/-- Error codes of the application. -/
abbrev VarInt := Nat

/-- Why a connection ended.  The reasons carried by the two kinds of remote
close are kept although the crate never looks at them. -/
inductive ConnectionError where
  | versionMismatch
  | transportError (code : Nat)
  | connectionClosed (reason : List UInt8)
  | applicationClosed (reason : List UInt8)
  | reset
  | timedOut
  | locallyClosed
  | cidsExhausted
  deriving DecidableEq, Repr

/-- Why a connection attempt could not even start. -/
inductive ConnectError where
  | endpointStopping
  | cidsExhausted
  | invalidServerName (name : String)
  | invalidRemoteAddress (address : String)
  | noDefaultClientConfig
  | unsupportedVersion
  deriving DecidableEq, Repr

/-- Why a read failed. -/
inductive ReadError where
  | reset (code : VarInt)
  | connectionLost (error : ConnectionError)
  | closedStream
  | illegalOrderedRead
  | zeroRttRejected
  deriving DecidableEq, Repr

/-- Why reading a stream to its end failed. -/
inductive ReadToEndError where
  | read (error : ReadError)
  | tooLong
  deriving DecidableEq, Repr

/-- Why a write failed. -/
inductive WriteError where
  | stopped (code : VarInt)
  | connectionLost (error : ConnectionError)
  | closedStream
  | zeroRttRejected
  deriving DecidableEq, Repr

/-- Why waiting for the peer to be done with a stream failed. -/
inductive StoppedError where
  | connectionLost (error : ConnectionError)
  | zeroRttRejected
  deriving DecidableEq, Repr

/-- What the receiving endpoint knows of the end of a stream. -/
inductive StreamEnd where
  | open
  | finished
  | reset (code : VarInt)
  deriving DecidableEq, Repr

/-- A stream as the receiving endpoint has it: the bytes received so far and
whether its end is known.  `finished` means that all of it has been received. -/
structure RecvStream where
  received : List UInt8
  ending : StreamEnd
  deriving DecidableEq, Repr

namespace RecvStream

/-- One poll of reading the stream to its end, `none` when it stays pending.
Received data is read before the loss of the connection is looked at. -/
def readToEnd (stream : RecvStream) (closed : Option ConnectionError) (limit : Nat) :
    Option (Except ReadToEndError (List UInt8)) :=
  match stream.ending with
  | .reset code => some (.error (.read (.reset code)))
  | .finished =>
      if limit < stream.received.length then some (.error .tooLong)
      else some (.ok stream.received)
  | .open =>
      if limit < stream.received.length then some (.error .tooLong)
      else closed.map fun error => .error (.read (.connectionLost error))

/-- The whole stream is there and fits the limit. -/
def Complete (stream : RecvStream) (limit : Nat) : Prop :=
  stream.ending = .finished ∧ stream.received.length ≤ limit

/-- The stream misses data and what is there fits the limit: reading it can
only end by the loss of the connection. -/
def Cut (stream : RecvStream) (limit : Nat) : Prop :=
  stream.ending = .open ∧ stream.received.length ≤ limit

instance (stream : RecvStream) (limit : Nat) : Decidable (stream.Complete limit) :=
  inferInstanceAs (Decidable (_ ∧ _))

instance (stream : RecvStream) (limit : Nat) : Decidable (stream.Cut limit) :=
  inferInstanceAs (Decidable (_ ∧ _))

/-- A stream is complete, cut, reset or too long. -/
theorem not_complete_and_not_cut {stream : RecvStream} {limit : Nat} :
    (¬ stream.Complete limit ∧ ¬ stream.Cut limit) ↔
      (∃ code, stream.ending = .reset code) ∨ limit < stream.received.length := by
  simp only [Complete, Cut]
  cases ending : stream.ending with
  | «open» => simp
  | finished => simp
  | reset code => simp

theorem readToEnd_eq_ok {stream : RecvStream} {closed : Option ConnectionError}
    {limit : Nat} {bytes : List UInt8} :
    stream.readToEnd closed limit = some (.ok bytes) ↔
      stream.Complete limit ∧ stream.received = bytes := by
  simp only [readToEnd, Complete]
  cases ending : stream.ending with
  | «open» =>
      by_cases fits : limit < stream.received.length <;> simp [fits]
  | finished =>
      by_cases fits : limit < stream.received.length
      · simp [fits, Nat.not_le.mpr fits]
      · simp [fits, Nat.not_lt.mp fits]
  | reset code => simp

theorem readToEnd_eq_connectionLost {stream : RecvStream}
    {closed : Option ConnectionError} {limit : Nat} {error : ConnectionError} :
    stream.readToEnd closed limit = some (.error (.read (.connectionLost error))) ↔
      stream.Cut limit ∧ closed = some error := by
  simp only [readToEnd, Cut]
  cases ending : stream.ending with
  | «open» =>
      by_cases fits : limit < stream.received.length
      · simp [fits, Nat.not_le.mpr fits]
      · simp [fits, Nat.not_lt.mp fits]
  | finished =>
      by_cases fits : limit < stream.received.length <;> simp [fits]
  | reset code => simp

theorem lt_of_readToEnd_eq_tooLong {stream : RecvStream}
    {closed : Option ConnectionError} {limit : Nat}
    (answered : stream.readToEnd closed limit = some (.error .tooLong)) :
    limit < stream.received.length := by
  by_contra fits
  simp only [readToEnd] at answered
  cases ending : stream.ending <;> simp [ending, fits] at answered

end RecvStream

end Warqueen.Quinn
