import Warqueen.Cloneless.Shapes

/-!
# Cloneless sendings on the wire

`send_message` encodes a message with rmp_serde and writes the bytes on a stream of its
own, and the receiving task decodes all that it read from the stream.  rmp_serde puts
together what it wrote of the parts of a message, and `serialize_some` writes just what
its argument does; how it reads is left open.
-/

namespace Warqueen.Cloneless

open DataModel ClonelessSending

/-- rmp_serde: what it writes of a message and its parts, the bytes that come of it or an
error, and what it reads from bytes when it is asked for something. -/
structure RmpSerde (Written : Type) where
  serializer : Serializer Written
  finish : Written → Option (List UInt8)
  read : Request → List UInt8 → Option Data

namespace RmpSerde

variable {Written α β : Type} (rmp : RmpSerde Written)

/-- `encode::to_vec`, which `send_message` unwraps into the `message_raw` it sends. -/
def toVec (serde : Serde α) (message : α) : Option (List UInt8) :=
  rmp.finish (rmp.serializer.write (serde.serialize message))

/-- `decode::from_slice`, which the receiving task unwraps into the message it sends to
the receiving queue. -/
def fromSlice (serde : Serde α) (messageRaw : List UInt8) : Option α :=
  (rmp.read serde.request messageRaw).bind serde.build

variable {rmp} {whole : Serde α} {plain : Serde β} {strip : α → β} {wrap : β → α}

theorem toVec_of_agrees (agrees : Agrees rmp.serializer whole plain strip wrap)
    (message : α) : rmp.toVec whole message = rmp.toVec plain (strip message) :=
  congrArg rmp.finish (agrees.write message)

theorem fromSlice_of_agrees (agrees : Agrees rmp.serializer whole plain strip wrap)
    (messageRaw : List UInt8) :
    rmp.fromSlice whole messageRaw = (rmp.fromSlice plain messageRaw).map wrap := by
  rw [fromSlice, agrees.request, fromSlice]
  cases rmp.read plain.request messageRaw with
  | none => rfl
  | some data => exact agrees.build data

/-! ## The content of any type -/

variable {T C : Type}

/-- rmp_serde as a format, which fails to read what it failed to write. -/
def format (rmp : RmpSerde Written) : Format Written where
  write := rmp.serializer.write
  read request written := (rmp.finish written).bind (rmp.read request)

theorem decode_encode (serde : Serde α) (message : α) :
    rmp.format.decode serde (rmp.format.encode serde message) =
      (rmp.toVec serde message).bind (rmp.fromSlice serde) :=
  Option.bind_assoc (rmp.toVec serde message) (rmp.read serde.request) serde.build

/-- Whatever the type of the content is, and however its `Serialize` and `Deserialize`
were made: what rmp_serde brings back by itself it also brings back, owned, when it was
sent clonelessly. -/
theorem comes_back (someIsContent : ∀ written, rmp.serializer.some written = written)
    {content : Serde T} {sending : ClonelessSending T C}
    (comesBack : (rmp.toVec content sending.content).bind (rmp.fromSlice content) =
      some sending.content) :
    (rmp.toVec (serde content) sending).bind (rmp.fromSlice (serde content)) =
      some (.owned sending.content : ClonelessSending T C) := by
  have through : ReadsThroughSome rmp.format :=
    readsThroughSome_of_someIsContent someIsContent rmp.format.read
  rw [← decode_encode] at comesBack ⊢
  exact comesBackOwned_of_readsThroughSome through comesBack

end RmpSerde

/-! ## Messages with cloneless sendings inside -/

/-- Cloneless sendings cannot be told from their contents on the wire.  The bytes are
those of the plain message; reading them is reading the plain message and putting an owned
sending around each content, and fails exactly when that does; so when the plain message
comes back, the receiver gets owned sendings of all that was sent, and extracting their
contents does not panic. -/
theorem cloneless_is_invisible {Written : Type} (rmp : RmpSerde Written)
    (someIsContent : ∀ written, rmp.serializer.some written = written) (shape : Shape) :
    (∀ message : shape.Message,
      rmp.toVec shape.serde message =
        rmp.toVec shape.plain.serde (shape.strip message)) ∧
      (∀ messageRaw, rmp.fromSlice shape.serde messageRaw =
        (rmp.fromSlice shape.plain.serde messageRaw).map shape.wrap) ∧
      ∀ (message : shape.Message) (messageRaw : List UInt8),
        rmp.toVec shape.plain.serde (shape.strip message) = some messageRaw →
          rmp.fromSlice shape.plain.serde messageRaw = some (shape.strip message) →
            rmp.toVec shape.serde message = some messageRaw ∧
              rmp.fromSlice shape.serde messageRaw =
                some (shape.wrap (shape.strip message)) ∧
              shape.intoOwned (shape.wrap (shape.strip message)) =
                some (shape.strip message) := by
  have agrees := shape.agrees someIsContent
  refine ⟨RmpSerde.toVec_of_agrees agrees, RmpSerde.fromSlice_of_agrees agrees, ?_⟩
  intro message messageRaw written read
  refine ⟨?_, ?_, shape.intoOwned_wrap (shape.strip message)⟩
  · rw [RmpSerde.toVec_of_agrees agrees, written]
  · rw [RmpSerde.fromSlice_of_agrees agrees, read, Option.map_some]

/-! ## A part of MessagePack -/

namespace MessagePack

/-- An array of less than sixteen elements. -/
def fixarray (elements : List (Option (List UInt8))) : Option (List UInt8) :=
  (elements.mapM id).bind fun elements =>
    if elements.length < 16 then some (.ofNat (0x90 + elements.length) :: elements.flatten)
    else none

/-- How booleans, small numbers, options, and short sequences and structs are written, and
nothing else. -/
def serializer : Serializer (Option (List UInt8)) where
  primitive
    | .bool, value => some [if value then 0xc3 else 0xc2]
    | .integer false 8, value =>
        if value.toNat < 0x80 then some [.ofNat value.toNat] else none
    | _, _ => none
  none := some [0xc0]
  some written := written
  seq elements := fixarray elements
  map _ := none
  struct
    | .tuple, _, fields | .named, _, fields => fixarray (fields.map Prod.snd)
    | _, _, _ => none
  variant _ _ _ _ _ := none

/-- The number of elements of such an array. -/
def readFixarray : List UInt8 → Option (Nat × List UInt8)
  | header :: rest =>
      if 0x90 ≤ header ∧ header < 0xa0 then some (header.toNat - 0x90, rest) else none
  | [] => none

/-- Reading one after the other. -/
def readMany (readOne : List UInt8 → Option (Data × List UInt8)) :
    Nat → List UInt8 → Option (List Data × List UInt8)
  | 0, bytes => some ([], bytes)
  | count + 1, bytes => do
      let (first, bytes) ← readOne bytes
      let (rest, bytes) ← readMany readOne count bytes
      return (first :: rest, bytes)

mutual

/-- How they are read. -/
def readData : Request → List UInt8 → Option (Data × List UInt8)
  | .primitive .bool, byte :: bytes =>
      if byte = 0xc2 then some (.primitive .bool false, bytes)
      else if byte = 0xc3 then some (.primitive .bool true, bytes)
      else none
  | .primitive (.integer false 8), byte :: bytes =>
      if byte < 0x80 then some (.primitive (.integer false 8) byte.toBitVec, bytes)
      else none
  | .option _, 0xc0 :: bytes => some (.none, bytes)
  | .option content, bytes => do
      let (data, bytes) ← readData content bytes
      return (.some data, bytes)
  | .seq element, bytes => do
      let (count, bytes) ← readFixarray bytes
      let (elements, bytes) ← readMany (readData element) count bytes
      return (.seq elements, bytes)
  | .struct style name fields, bytes => do
      let (count, bytes) ← readFixarray bytes
      if (style = .tuple ∨ style = .named) ∧ count = fields.length then
        let (data, bytes) ← readFields fields bytes
        return (.struct style name data, bytes)
      else none
  | _, _ => none

def readFields : List (String × Request) → List UInt8 →
    Option (List (String × Data) × List UInt8)
  | [], bytes => some ([], bytes)
  | (name, request) :: rest, bytes => do
      let (data, bytes) ← readData request bytes
      let (fields, bytes) ← readFields rest bytes
      return ((name, data) :: fields, bytes)

end

end MessagePack

/-- rmp_serde as far as that part of MessagePack goes. -/
def messagePack : RmpSerde (Option (List UInt8)) where
  serializer := MessagePack.serializer
  finish := id
  read request bytes := (MessagePack.readData request bytes).map Prod.fst

/-- A `bool` that is viewed comes back in MessagePack, unlike in a format that keeps the
values of the data model. -/
example : (messagePack.toVec (serde (.primitive .bool))
      (.view () (fun _ => true) : ClonelessSending Bool Unit)).bind
        (messagePack.fromSlice (serde (.primitive .bool))) =
    some (.owned true : ClonelessSending Bool Unit) :=
  RmpSerde.comes_back (fun _ => rfl) rfl

/-- Lots of data: a struct with a vector of bytes. -/
def lotsOfData : Shape :=
  .struct .named "LotsOfData" (.cons "wow_big_vec" (.seq (.primitive (.integer false 8))) .nil)

/-- A message with lots of data from inside of what an `Arc` holds, and maybe another
cloneless sending, of an option. -/
def lotsOfDataMessage : Shape :=
  .struct .tuple "Message"
    (.cons "0" (.cloneless (Bool × lotsOfData.Message) lotsOfData)
      (.cons "1" (.option (.cloneless Unit (.option (.primitive .bool)))) .nil))

/-- Three bytes. -/
def wowBigVec : lotsOfData.Message := (([3, 5, 8] : List (BitVec 8)), ())

/-- The lots of data are viewed and what comes with them is owned, and both arrive as
owned. -/
theorem lots_of_data_arrives :
    messagePack.toVec lotsOfDataMessage.serde
        (.view (true, wowBigVec) Prod.snd, some (.owned (some true)), ()) =
      some [0x92, 0x91, 0x93, 3, 5, 8, 0xc3] ∧
    messagePack.fromSlice lotsOfDataMessage.serde [0x92, 0x91, 0x93, 3, 5, 8, 0xc3] =
      some (.owned wowBigVec, some (.owned (some true)), ()) ∧
    lotsOfDataMessage.intoOwned (.owned wowBigVec, some (.owned (some true)), ()) =
      some (wowBigVec, some (some true), ()) :=
  (cloneless_is_invisible messagePack (fun _ => rfl) lotsOfDataMessage).2.2
    (.view (true, wowBigVec) Prod.snd, some (.owned (some true)), ())
    [0x92, 0x91, 0x93, 3, 5, 8, 0xc3] rfl rfl

end Warqueen.Cloneless
