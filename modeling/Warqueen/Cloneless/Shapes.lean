import Warqueen.Cloneless
import Warqueen.DataModel.Agreement

/-!
# Messages with clonelessly sent parts

A message is put together from primitive types, options, sequences, maps, structs and
enums, with a cloneless sending anywhere in it, also inside of what another one sends.
The plain message is the one with the contents in the places of the sendings.  In
rmp_serde, which writes nothing of an option but its content, the two are the same to the
wire: they are written alike, and what is read as one is what is read as the other, with
an owned sending around each content.
-/

namespace Warqueen.Cloneless

open DataModel

/-! ## Shapes -/

mutual

/-- What a message type is made of.  A cloneless sending comes with the `C` that its
`Arc` holds. -/
inductive Shape : Type 1 where
  | primitive (kind : Primitive)
  | option (content : Shape)
  | seq (element : Shape)
  | map (key value : Shape)
  | struct (style : Style) (name : String) (fields : Fields)
  | enum (name : String) (variants : Variants)
  | cloneless (C : Type) (content : Shape)

/-- The fields of a struct or of an enum variant. -/
inductive Fields : Type 1 where
  | nil
  | cons (name : String) (first : Shape) (rest : Fields)

/-- The variants of an enum. -/
inductive Variants : Type 1 where
  | nil
  | cons (style : Style) (name : String) (fields : Fields) (rest : Variants)

end

mutual

/-- The messages of a shape. -/
@[reducible] def Shape.Message : Shape → Type
  | .primitive kind => kind.Value
  | .option content => Option content.Message
  | .seq element => List element.Message
  | .map key value => List (key.Message × value.Message)
  | .struct _ _ fields => fields.Message
  | .enum _ variants => variants.Message
  | .cloneless C content => ClonelessSending content.Message C

@[reducible] def Fields.Message : Fields → Type
  | .nil => Unit
  | .cons _ first rest => first.Message × rest.Message

@[reducible] def Variants.Message : Variants → Type
  | .nil => Empty
  | .cons _ _ fields rest => fields.Message ⊕ rest.Message

end

mutual

/-- What a message type does. -/
def Shape.serde : (shape : Shape) → Serde shape.Message
  | .primitive kind => .primitive kind
  | .option content => .option content.serde
  | .seq element => .seq element.serde
  | .map key value => .map key.serde value.serde
  | .struct style name fields => .struct style name fields.serde
  | .enum name variants => .enum name variants.serde
  | .cloneless _ content => ClonelessSending.serde content.serde

def Fields.serde : (fields : Fields) → FieldsSerde fields.Message
  | .nil => Serde.noFields
  | .cons name first rest => Serde.field name first.serde rest.serde

def Variants.serde : (variants : Variants) → VariantsSerde variants.Message
  | .nil => Serde.noVariants
  | .cons style name fields rest => Serde.variant style name fields.serde rest.serde

end

mutual

/-- The shape with the plain content in the place of each cloneless sending. -/
def Shape.plain : Shape → Shape
  | .primitive kind => .primitive kind
  | .option content => .option content.plain
  | .seq element => .seq element.plain
  | .map key value => .map key.plain value.plain
  | .struct style name fields => .struct style name fields.plain
  | .enum name variants => .enum name variants.plain
  | .cloneless _ content => content.plain

def Fields.plain : Fields → Fields
  | .nil => .nil
  | .cons name first rest => .cons name first.plain rest.plain

def Variants.plain : Variants → Variants
  | .nil => .nil
  | .cons style name fields rest => .cons style name fields.plain rest.plain

end

/-! ## Taking the sendings off and putting them on -/

mutual

/-- The same message with the content in the place of each cloneless sending, owned or
viewed. -/
def Shape.strip : (shape : Shape) → shape.Message → shape.plain.Message
  | .primitive _ => id
  | .option content => Option.map content.strip
  | .seq element => List.map element.strip
  | .map key value => List.map (Prod.map key.strip value.strip)
  | .struct _ _ fields => fields.strip
  | .enum _ variants => variants.strip
  | .cloneless _ content => fun sending => content.strip sending.content

def Fields.strip : (fields : Fields) → fields.Message → fields.plain.Message
  | .nil => id
  | .cons _ first rest => Prod.map first.strip rest.strip

def Variants.strip : (variants : Variants) → variants.Message → variants.plain.Message
  | .nil => id
  | .cons _ _ fields rest => Sum.map fields.strip rest.strip

end

mutual

/-- The message with an owned cloneless sending around each content. -/
def Shape.wrap : (shape : Shape) → shape.plain.Message → shape.Message
  | .primitive _ => id
  | .option content => Option.map content.wrap
  | .seq element => List.map element.wrap
  | .map key value => List.map (Prod.map key.wrap value.wrap)
  | .struct _ _ fields => fields.wrap
  | .enum _ variants => variants.wrap
  | .cloneless _ content => fun value => .owned (content.wrap value)

def Fields.wrap : (fields : Fields) → fields.plain.Message → fields.Message
  | .nil => id
  | .cons _ first rest => Prod.map first.wrap rest.wrap

def Variants.wrap : (variants : Variants) → variants.plain.Message → variants.Message
  | .nil => id
  | .cons _ _ fields rest => Sum.map fields.wrap rest.wrap

end

mutual

/-- Extracting the content of every cloneless sending with `into_owned`, from the outside
in, which panics where one is a view. -/
def Shape.intoOwned : (shape : Shape) → shape.Message → Option shape.plain.Message
  | .primitive _ => some
  | .option content => fun
      | some value => (content.intoOwned value).map some
      | none => some none
  | .seq element => List.mapM element.intoOwned
  | .map key value => List.mapM fun entry =>
      (key.intoOwned entry.1).bind fun key => (value.intoOwned entry.2).map fun value =>
        (key, value)
  | .struct _ _ fields => fields.intoOwned
  | .enum _ variants => variants.intoOwned
  | .cloneless _ content => fun sending => sending.intoOwned.bind content.intoOwned

def Fields.intoOwned : (fields : Fields) → fields.Message → Option fields.plain.Message
  | .nil => some
  | .cons _ first rest => fun message =>
      (first.intoOwned message.1).bind fun value => (rest.intoOwned message.2).map
        fun values => (value, values)

def Variants.intoOwned : (variants : Variants) → variants.Message →
    Option variants.plain.Message
  | .nil => some
  | .cons _ _ fields rest => fun
      | .inl message => (fields.intoOwned message).map .inl
      | .inr message => (rest.intoOwned message).map .inr

end

/-- Going through a list with something that gives each element back. -/
theorem mapM_wrapped {α β : Type} {unwrap : β → Option α} {wrap : α → β}
    (inverse : ∀ value, unwrap (wrap value) = some value) (values : List α) :
    (values.map wrap).mapM unwrap = some values := by
  induction values with
  | nil => rfl
  | cons value rest ih =>
      rw [List.map_cons, List.mapM_cons, inverse, ih]
      rfl

mutual

/-- From a wrapped message every content can be extracted. -/
theorem Shape.intoOwned_wrap : (shape : Shape) → (message : shape.plain.Message) →
    shape.intoOwned (shape.wrap message) = some message
  | .primitive _, _ => rfl
  | .option _, none => rfl
  | .option content, some value => by
      simp only [Shape.wrap, Option.map_some, Shape.intoOwned,
        content.intoOwned_wrap value]
      rfl
  | .seq element, values => mapM_wrapped element.intoOwned_wrap values
  | .map key value, entries => by
      apply mapM_wrapped
      intro entry
      simp only [Prod.map, key.intoOwned_wrap entry.1, value.intoOwned_wrap entry.2]
      rfl
  | .struct _ _ fields, message => fields.intoOwned_wrap message
  | .enum _ variants, message => variants.intoOwned_wrap message
  | .cloneless _ content, value => content.intoOwned_wrap value

theorem Fields.intoOwned_wrap : (fields : Fields) → (message : fields.plain.Message) →
    fields.intoOwned (fields.wrap message) = some message
  | .nil, _ => rfl
  | .cons _ first rest, (value, values) => by
      simp only [Fields.wrap, Prod.map_apply, Fields.intoOwned,
        first.intoOwned_wrap value, rest.intoOwned_wrap values]
      rfl

theorem Variants.intoOwned_wrap : (variants : Variants) →
    (message : variants.plain.Message) →
    variants.intoOwned (variants.wrap message) = some message
  | .nil, _ => rfl
  | .cons _ _ fields _, .inl message =>
      congrArg (Option.map Sum.inl) (fields.intoOwned_wrap message)
  | .cons _ _ _ rest, .inr message =>
      congrArg (Option.map Sum.inr) (rest.intoOwned_wrap message)

end

/-! ## The same to a format -/

variable {Out : Type} {serializer : Serializer Out}

/-- A cloneless sending agrees with its content when nothing is written of an option. -/
theorem agrees_cloneless {α β : Type} {whole : Serde α} {plain : Serde β}
    {strip : α → β} {wrap : β → α} (C : Type)
    (someIsContent : ∀ written, serializer.some written = written)
    (content : Agrees serializer whole plain strip wrap) :
    Agrees serializer (ClonelessSending.serde whole : Serde (ClonelessSending α C)) plain
      (fun sending => strip sending.content) (fun value => .owned (wrap value)) where
  write sending := by
    rw [ClonelessSending.serialize_eq, Serializer.write, someIsContent, content.write]
  request := content.request
  build data := by
    simp only [ClonelessSending.serde, content.build, Option.map_map]
    rfl

mutual

/-- When nothing is written of an option, a message type agrees with the plain one. -/
theorem Shape.agrees (someIsContent : ∀ written, serializer.some written = written) :
    (shape : Shape) →
      Agrees serializer shape.serde shape.plain.serde shape.strip shape.wrap
  | .primitive kind => Agrees.refl serializer (.primitive kind)
  | .option content => (content.agrees someIsContent).option
  | .seq element => (element.agrees someIsContent).seq
  | .map key value => (key.agrees someIsContent).map (value.agrees someIsContent)
  | .struct style name fields => (fields.agrees someIsContent).struct style name
  | .enum name variants => (variants.agrees someIsContent).enum name
  | .cloneless C content =>
      agrees_cloneless C someIsContent (content.agrees someIsContent)

theorem Fields.agrees (someIsContent : ∀ written, serializer.some written = written) :
    (fields : Fields) →
      FieldsAgree serializer fields.serde fields.plain.serde fields.strip fields.wrap
  | .nil => FieldsAgree.noFields serializer
  | .cons name first rest =>
      (rest.agrees someIsContent).field name (first.agrees someIsContent)

theorem Variants.agrees (someIsContent : ∀ written, serializer.some written = written) :
    (variants : Variants) →
      VariantsAgree serializer variants.serde variants.plain.serde variants.strip
        variants.wrap
  | .nil => VariantsAgree.noVariants serializer
  | .cons style name fields rest =>
      (rest.agrees someIsContent).variant style name (fields.agrees someIsContent)

end

end Warqueen.Cloneless
