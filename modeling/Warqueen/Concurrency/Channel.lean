import Mathlib.Data.List.Basic

/-!
# Channels

The two channels a small asynchronous program is built from: a oneshot channel
that carries one value and reports whether its sender is gone, and an unbounded
queue of many senders and one receiver.

A queue remembers everything its `send` ever accepted, so that the order of the
values, and not only the ones still waiting, can be spoken about.  When the
values are tagged with the party that sent them, `sentBy` is one party's share.
-/

namespace Warqueen.Concurrency

universe u v

/-- A oneshot channel.  `senderHeld` and `receiverHeld` say which half still
exists; sending consumes the sender. -/
structure Oneshot (α : Type u) where
  value : Option α
  senderHeld : Bool
  receiverHeld : Bool
  deriving DecidableEq, Repr

/-- Why `tryRecv` has no value: the sender may still send, or it never will. -/
inductive TryRecvError where
  | empty
  | closed
  deriving DecidableEq, Repr

namespace Oneshot

variable {α : Type u}

/-- A new channel with both halves held and no value. -/
def channel : Oneshot α := { value := none, senderHeld := true, receiverHeld := true }

/-- Send the value and consume the sender.  The value is dropped when the
receiver is gone. -/
def send (channel : Oneshot α) (value : α) : Oneshot α :=
  if channel.receiverHeld then
    { channel with value := some value, senderHeld := false }
  else
    { channel with senderHeld := false }

/-- Drop the sender without sending. -/
def dropSender (channel : Oneshot α) : Oneshot α :=
  { channel with senderHeld := false }

/-- Drop the receiver and the value that waits in the channel. -/
def dropReceiver (channel : Oneshot α) : Oneshot α :=
  { channel with value := none, receiverHeld := false }

/-- Take the value if it is there. -/
def tryRecv (channel : Oneshot α) : Except TryRecvError α × Oneshot α :=
  match channel.value with
  | some value => (.ok value, { channel with value := none })
  | none => (.error (if channel.senderHeld then .empty else .closed), channel)

@[simp] theorem channel_value : (channel : Oneshot α).value = none := rfl

@[simp] theorem channel_receiverHeld : (channel : Oneshot α).receiverHeld = true := rfl

@[simp] theorem send_senderHeld (channel : Oneshot α) (value : α) :
    (channel.send value).senderHeld = false := by
  simp only [send]
  split <;> rfl

theorem send_value {channel : Oneshot α} (held : channel.receiverHeld = true)
    (value : α) : (channel.send value).value = some value := by
  simp [send, held]

/-- What is in the channel after sending was sent, or was there before. -/
theorem send_value_cases {channel : Oneshot α} {value found : α}
    (isThere : (channel.send value).value = some found) :
    value = found ∨ channel.value = some found := by
  simp only [send] at isThere
  split at isThere
  · exact .inl (Option.some.inj isThere)
  · exact .inr isThere

end Oneshot

/-- A queue of many senders and one receiver.  `sent` is everything accepted so
far, oldest first, and the receiver has taken the first `received` of it. -/
structure Mpsc (α : Type u) where
  sent : List α
  received : Nat
  receiverHeld : Bool
  deriving DecidableEq, Repr

namespace Mpsc

variable {α : Type u}

/-- A new queue. -/
def channel : Mpsc α := { sent := [], received := 0, receiverHeld := true }

/-- Send a value, which fails without effect when the receiver is gone. -/
def send (queue : Mpsc α) (value : α) : Mpsc α :=
  if queue.receiverHeld then { queue with sent := queue.sent ++ [value] } else queue

/-- Send the value if there is one. -/
def sendSome (queue : Mpsc α) : Option α → Mpsc α
  | some value => queue.send value
  | none => queue

/-- Take the oldest value not taken yet. -/
def tryRecv (queue : Mpsc α) : Option α × Mpsc α :=
  match queue.sent[queue.received]? with
  | some value => (some value, { queue with received := queue.received + 1 })
  | none => (none, queue)

/-- Drop the receiver. -/
def dropReceiver (queue : Mpsc α) : Mpsc α := { queue with receiverHeld := false }

@[simp] theorem channel_sent : (channel : Mpsc α).sent = [] := rfl

@[simp] theorem channel_receiverHeld : (channel : Mpsc α).receiverHeld = true := rfl

@[simp] theorem send_receiverHeld (queue : Mpsc α) (value : α) :
    (queue.send value).receiverHeld = queue.receiverHeld := by
  simp only [send]
  split <;> rfl

@[simp] theorem sendSome_receiverHeld (queue : Mpsc α) (value : Option α) :
    (queue.sendSome value).receiverHeld = queue.receiverHeld := by
  cases value <;> simp [sendSome]

/-- What a send adds to the history: the value, unless the receiver is gone. -/
theorem sendSome_sent (queue : Mpsc α) (value : Option α) :
    (queue.sendSome value).sent =
      queue.sent ++ if queue.receiverHeld then value.toList else [] := by
  cases value with
  | none => simp [sendSome]
  | some value =>
      simp only [sendSome, send]
      split <;> simp

@[simp] theorem tryRecv_sent (queue : Mpsc α) : queue.tryRecv.2.sent = queue.sent := by
  simp only [tryRecv]
  split <;> rfl

@[simp] theorem tryRecv_receiverHeld (queue : Mpsc α) :
    queue.tryRecv.2.receiverHeld = queue.receiverHeld := by
  simp only [tryRecv]
  split <;> rfl

/-- What the receiver has taken, oldest first. -/
def taken (queue : Mpsc α) : List α := queue.sent.take queue.received

/-- The receiver has taken no more than what was sent. -/
def Bounded (queue : Mpsc α) : Prop := queue.received ≤ queue.sent.length

/-- What a receive takes is the next value, if there is one. -/
theorem tryRecv_taken (queue : Mpsc α) :
    queue.tryRecv.2.taken = queue.taken ++ queue.tryRecv.1.toList := by
  simp only [tryRecv, taken]
  split
  next value found =>
    obtain ⟨inBounds, rfl⟩ := List.getElem?_eq_some_iff.mp found
    exact (List.take_append_getElem inBounds).symm
  next => simp

@[simp] theorem dropReceiver_taken (queue : Mpsc α) :
    queue.dropReceiver.taken = queue.taken := rfl

theorem Bounded.send_taken {queue : Mpsc α} (bounded : queue.Bounded) (value : α) :
    (queue.send value).taken = queue.taken := by
  simp only [send, taken]
  split
  · exact List.take_append_of_le_length bounded
  · rfl

theorem Bounded.send {queue : Mpsc α} (bounded : queue.Bounded) (value : α) :
    (queue.send value).Bounded := by
  simp only [Bounded] at bounded ⊢
  simp only [Mpsc.send]
  split
  · exact Nat.le_trans bounded (by simp)
  · exact bounded

theorem Bounded.tryRecv {queue : Mpsc α} (bounded : queue.Bounded) :
    queue.tryRecv.2.Bounded := by
  simp only [Bounded] at bounded ⊢
  simp only [Mpsc.tryRecv]
  split
  next value found => exact (List.getElem?_eq_some_iff.mp found).1
  next => exact bounded

@[simp] theorem dropReceiver_sent (queue : Mpsc α) :
    queue.dropReceiver.sent = queue.sent := rfl

@[simp] theorem dropReceiver_receiverHeld (queue : Mpsc α) :
    queue.dropReceiver.receiverHeld = false := rfl

end Mpsc

/-! ## Histories tagged with the sending party -/

section SentBy

variable {Party : Type u} {α : Type v} [DecidableEq Party]

/-- The values of one party in a tagged history, in order. -/
def sentBy (party : Party) (history : List (Party × α)) : List α :=
  (history.filter fun entry => entry.1 = party).map Prod.snd

@[simp] theorem sentBy_nil (party : Party) :
    sentBy party ([] : List (Party × α)) = [] := rfl

@[simp] theorem sentBy_append (party : Party) (first second : List (Party × α)) :
    sentBy party (first ++ second) = sentBy party first ++ sentBy party second := by
  simp [sentBy]

@[simp] theorem sentBy_tagged (party : Party) (values : List α) :
    sentBy party (values.map fun value => (party, value)) = values := by
  simp [sentBy, List.filter_map, Function.comp_def]

theorem sentBy_tagged_ne {party other : Party} (different : other ≠ party)
    (values : List α) :
    sentBy party (values.map fun value => (other, value)) = [] := by
  simp [sentBy, different]

theorem length_sentBy (party : Party) (history : List (Party × α)) :
    (sentBy party history).length = history.countP fun entry => entry.1 = party := by
  simp [sentBy, List.countP_eq_length_filter]

theorem mem_sentBy {party : Party} {history : List (Party × α)} {value : α} :
    value ∈ sentBy party history ↔ (party, value) ∈ history := by
  simp [sentBy]

/-- The values of one party are not among those of the others. -/
theorem sentBy_filter_ne {party other : Party} (different : other ≠ party)
    (history : List (Party × α)) :
    sentBy other (history.filter fun entry => !decide (entry.1 = party)) =
      sentBy other history := by
  simp only [sentBy, List.filter_filter]
  apply congrArg (List.map Prod.snd)
  apply List.filter_congr
  intro entry _
  by_cases isOther : entry.1 = other
  · simp [isOther, different]
  · simp [isOther]

/-- A history is the shares of its parties put together in some order. -/
theorem perm_flatMap_sentBy {parties : List Party} (nodup : parties.Nodup)
    {history : List (Party × α)} (covered : ∀ entry ∈ history, entry.1 ∈ parties) :
    (history.map Prod.snd).Perm (parties.flatMap fun party => sentBy party history) := by
  induction parties generalizing history with
  | nil =>
      cases history with
      | nil => exact .refl _
      | cons entry rest => exact absurd (covered entry List.mem_cons_self) List.not_mem_nil
  | cons party rest inductionHypothesis =>
      obtain ⟨fresh, nodupRest⟩ := List.nodup_cons.mp nodup
      let others := history.filter fun entry => !decide (entry.1 = party)
      have coveredRest : ∀ entry ∈ others, entry.1 ∈ rest := by
        intro entry member
        obtain ⟨member, isOther⟩ := List.mem_filter.mp member
        rcases List.mem_cons.mp (covered entry member) with same | inRest
        · simp [same] at isOther
        · exact inRest
      have shares : (rest.flatMap fun other => sentBy other others) =
          rest.flatMap fun other => sentBy other history := by
        apply List.flatMap_congr
        intro other member
        have different : other ≠ party := by
          intro same
          exact fresh (same ▸ member)
        exact sentBy_filter_ne different history
      have split := (List.filter_append_perm (fun entry => decide (entry.1 = party))
        history).symm.map Prod.snd
      rw [List.map_append] at split
      rw [List.flatMap_cons, ← shares]
      exact split.trans ((inductionHypothesis nodupRest coveredRest).append_left _)

end SentBy

end Warqueen.Concurrency
