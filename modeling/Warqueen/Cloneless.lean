import Warqueen.DataModel

/-!
# Clonelessly sent content

`ClonelessSending` stands in a message for a `T` that the sender may keep inside an
`Arc<C>`: it is written from there, and whoever receives the message owns what it reads.

Its `Serialize` goes through `serialize_some` and its `Deserialize` reads a bare `T`, so
the two are made for formats that write the content of an option and nothing else.  Here
is what they are worth in any other.
-/

namespace Warqueen.Cloneless

open DataModel

variable {Out T C : Type}

/-- Either a `T`, or a view of the `T` that a `C` in an `Arc` completes to. -/
inductive ClonelessSending (T C : Type) where
  | owned (content : T)
  | view (arc : C) (complete : C → T)

namespace ClonelessSending

/-- The `T` that it allows to access. -/
def content : ClonelessSending T C → T
  | .owned content => content
  | .view arc complete => complete arc

/-- `ClonelessSending::into_owned`, which panics on a view. -/
def intoOwned : ClonelessSending T C → Option T
  | .owned content => some content
  | .view _ _ => none

/-- Its `Serialize` and its `Deserialize`, over those of the `T`. -/
def serde (content : Serde T) : Serde (ClonelessSending T C) where
  serialize
    | .owned value => .some (content.serialize value)
    | .view arc complete => .some (content.serialize (complete arc))
  request := content.request
  build data := (content.build data).map .owned

theorem serialize_eq (content : Serde T) (sending : ClonelessSending T C) :
    (serde content).serialize sending = .some (content.serialize sending.content) := by
  cases sending <;> rfl

end ClonelessSending

open ClonelessSending

/-! ## Formats and options -/

/-- The format reads through options: whatever it gives for what it wrote of `data` when
it is asked for something, it also gives for what it wrote of `Some(data)`. -/
def ReadsThroughSome (format : Format Out) : Prop :=
  ∀ (request : Request) (data answer : Data),
    format.read request (format.write data) = some answer →
      format.read request (format.write (.some data)) = some answer

/-- A cloneless sending that was written and read again is an owned one, with the content
that was sent. -/
def ComesBackOwned (format : Format Out) (content : Serde T)
    (sending : ClonelessSending T C) : Prop :=
  format.decode (serde content) (format.encode (serde content) sending) =
    some (.owned sending.content : ClonelessSending T C)

/-- A value of the data model is not the same as being given it in an option. -/
theorem some_ne (data : Data) : Data.some data ≠ data := by
  intro same
  have sizes := congrArg sizeOf same
  simp at sizes

/-- Reading a cloneless sending is reading its content. -/
theorem decode_serde (format : Format Out) (content : Serde T) (out : Out) :
    format.decode (serde content : Serde (ClonelessSending T C)) out =
      (format.decode content out).map .owned := by
  simp only [Format.decode, serde]
  cases format.read content.request out <;> rfl

/-- It comes back exactly when the format, asked for the content, reads it from what it
writes for an option with the content. -/
theorem comesBackOwned_iff (format : Format Out) (content : Serde T)
    (sending : ClonelessSending T C) :
    ComesBackOwned format content sending ↔
      format.decode content (format.encode (.option content) (some sending.content)) =
        some sending.content := by
  have written : format.encode (serde content) sending =
      format.encode (.option content) (some sending.content) :=
    congrArg format.write (serialize_eq content sending)
  have injective : Function.Injective (owned : T → ClonelessSending T C) := by
    intro first second same
    cases same
    rfl
  rw [ComesBackOwned, decode_serde, written]
  exact (Option.map_injective injective).eq_iff' rfl

/-- In a format that writes nothing of an option, whatever comes back by itself also
comes back when it was sent clonelessly. -/
theorem comesBackOwned_of_readsThroughSome {format : Format Out}
    (through : ReadsThroughSome format) {content : Serde T}
    {sending : ClonelessSending T C}
    (roundTrips : format.RoundTrips content sending.content) :
    ComesBackOwned format content sending := by
  rw [comesBackOwned_iff]
  simp only [Format.RoundTrips, Format.decode, Format.encode, Option.bind_eq_some_iff]
    at roundTrips
  cases roundTrips with
  | intro answer found =>
      have answered := through _ _ _ found.1
      simp only [Format.decode, Format.encode, Serde.option, answered, Option.bind_some,
        found.2]

/-- A serializer that writes for an option just what it writes for the content makes such
a format, however it is read. -/
theorem readsThroughSome_of_someIsContent {serializer : Serializer Out}
    (someIsContent : ∀ written, serializer.some written = written)
    (read : Request → Out → Option Data) :
    ReadsThroughSome ⟨serializer.write, read⟩ := by
  intro request data answer found
  simp only [Serializer.write, someIsContent]
  exact found

/-- Something that is written as the given value of the data model, asks for what it is
told to, and takes one answer only. -/
def exactly (data : Data) (request : Request) (accepts : Data → Bool) : Serde Unit where
  serialize _ := data
  request := request
  build answer := if accepts answer then some () else none

open Classical in
/-- Conversely, whichever option the format does not read through, there is a type that
only comes back by itself. -/
theorem readsThroughSome_of_comesBackOwned {format : Format Out}
    (comesBack : ∀ (content : Serde Unit) (sending : ClonelessSending Unit Unit),
      format.RoundTrips content sending.content → ComesBackOwned format content sending) :
    ReadsThroughSome format := by
  intro request data answer found
  let content : Serde Unit := exactly data request fun given => decide (given = answer)
  have roundTrips : format.RoundTrips content () := by
    simp [content, exactly, Format.RoundTrips, Format.decode, Format.encode, found]
  have owned := (comesBackOwned_iff format content (.owned ())).mp
    (comesBack content (.owned ()) roundTrips)
  simp only [Format.decode, Format.encode, Serde.option, Option.bind_eq_some_iff] at owned
  cases owned with
  | intro given found =>
      have same : given = answer := by
        by_contra different
        have rejected := found.2
        simp [content, exactly, different] at rejected
      rw [← same]
      exact found.1

/-! ## Which contents come back -/

/-- The format that keeps the values of the data model as they are. -/
def untouched : Format Data where
  write data := data
  read _ data := some data

/-- In any format, a cloneless sending comes back exactly when the format reads the
content from what it writes for an option with it; that follows from the content coming
back by itself exactly if the format reads through options.  What the serializer is handed
is never what the content hands it. -/
theorem cloneless_comes_back_iff (format : Format Out) :
    (∀ {T C : Type} (content : Serde T) (sending : ClonelessSending T C),
        ComesBackOwned format content sending ↔
          format.decode content (format.encode (.option content) (some sending.content)) =
            some sending.content) ∧
      ((∀ {T C : Type} (content : Serde T) (sending : ClonelessSending T C),
          format.RoundTrips content sending.content →
            ComesBackOwned format content sending) ↔ ReadsThroughSome format) ∧
      ∀ {T C : Type} (content : Serde T) (sending : ClonelessSending T C),
        (serde content).serialize sending ≠ content.serialize sending.content := by
  refine ⟨comesBackOwned_iff format, ?_, ?_⟩
  · constructor
    · intro comesBack
      apply readsThroughSome_of_comesBackOwned
      intro content sending roundTrips
      exact comesBack content sending roundTrips
    · intro through T C content sending roundTrips
      exact comesBackOwned_of_readsThroughSome through roundTrips
  · intro T C content sending
    rw [serialize_eq]
    exact some_ne (content.serialize sending.content)

/-- A `bool` comes back by itself when its value of the data model is kept as it is, and
does not when it was sent clonelessly, owned or viewed. -/
theorem cloneless_bool_does_not_come_back :
    untouched.RoundTrips (.primitive .bool) true ∧
      ¬ ComesBackOwned untouched (.primitive .bool)
          (.owned true : ClonelessSending Bool Unit) ∧
      ¬ ComesBackOwned untouched (.primitive .bool)
          (.view () (fun _ => true) : ClonelessSending Bool Unit) ∧
      (serde (.primitive .bool)).serialize (.owned true : ClonelessSending Bool Unit) ≠
        (Serde.primitive .bool).serialize true := by
  refine ⟨rfl, ?_, ?_, some_ne _⟩
  · intro comesBack
    cases comesBack
  · intro comesBack
    cases comesBack

end Warqueen.Cloneless
