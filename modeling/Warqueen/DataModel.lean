import Mathlib.Data.List.Basic

/-!
# Serde's data model

Between a type and a format stands the data model: a type says what it is made of by
handing a serializer a value of the data model, and asks a deserializer for what it is
made of, which answers with a value of the data model that the type's visitors build
from.  What a type does on both sides is its `Serde`, and there is a combinator for
each way in which types are put together.
-/

namespace Warqueen.DataModel

/-! ## Data -/

/-- The primitive types.  Floating point numbers are the bits they are made of. -/
inductive Primitive where
  | bool
  | integer (signed : Bool) (bits : Nat)
  | float (bits : Nat)
  | char
  | string
  | bytes
  | unit
  deriving DecidableEq, Repr

/-- The values of a primitive type. -/
@[reducible] def Primitive.Value : Primitive → Type
  | .bool => Bool
  | .integer _ bits | .float bits => BitVec bits
  | .char => Char
  | .string => String
  | .bytes => List UInt8
  | .unit => Unit

/-- How the fields of a struct or of an enum variant are declared: there are none, one
without a name, several without names, or some with names. -/
inductive Style where
  | unit
  | newtype
  | tuple
  | named
  deriving DecidableEq, Repr

/-- A value of the data model. -/
inductive Data where
  | primitive (kind : Primitive) (value : kind.Value)
  | none
  | some (content : Data)
  | seq (elements : List Data)
  | map (entries : List (Data × Data))
  | struct (style : Style) (name : String) (fields : List (String × Data))
  | variant (style : Style) (name : String) (index : Nat) (variant : String)
      (fields : List (String × Data))

/-- What a type asks a deserializer for. -/
inductive Request where
  | primitive (kind : Primitive)
  | option (content : Request)
  | seq (element : Request)
  | map (key value : Request)
  | struct (style : Style) (name : String) (fields : List (String × Request))
  | enum (name : String) (variants : List (Style × String × List (String × Request)))

/-! ## Formats -/

/-- A serializer that writes what is composed by putting together what it wrote of the
parts.  The methods for each style of struct and variant are one method here. -/
structure Serializer (Out : Type) where
  primitive : (kind : Primitive) → kind.Value → Out
  none : Out
  some : Out → Out
  seq : List Out → Out
  map : List (Out × Out) → Out
  struct : Style → String → List (String × Out) → Out
  variant : Style → String → Nat → String → List (String × Out) → Out

namespace Serializer

variable {Out : Type}

mutual

/-- What the serializer writes of a value of the data model. -/
def write (serializer : Serializer Out) : Data → Out
  | .primitive kind value => serializer.primitive kind value
  | .none => serializer.none
  | .some content => serializer.some (serializer.write content)
  | .seq elements => serializer.seq (serializer.writeAll elements)
  | .map entries => serializer.map (serializer.writeEntries entries)
  | .struct style name fields => serializer.struct style name (serializer.writeFields fields)
  | .variant style name index variant fields =>
      serializer.variant style name index variant (serializer.writeFields fields)

/-- What it writes of the elements of a sequence. -/
def writeAll (serializer : Serializer Out) : List Data → List Out
  | [] => []
  | element :: rest => serializer.write element :: serializer.writeAll rest

/-- What it writes of the entries of a map. -/
def writeEntries (serializer : Serializer Out) : List (Data × Data) → List (Out × Out)
  | [] => []
  | (key, value) :: rest =>
      (serializer.write key, serializer.write value) :: serializer.writeEntries rest

/-- What it writes of the fields of a struct or a variant. -/
def writeFields (serializer : Serializer Out) : List (String × Data) → List (String × Out)
  | [] => []
  | (name, field) :: rest => (name, serializer.write field) :: serializer.writeFields rest

end

variable (serializer : Serializer Out)

@[simp] theorem writeAll_eq (elements : List Data) :
    serializer.writeAll elements = elements.map serializer.write := by
  induction elements with
  | nil => rfl
  | cons element rest ih => simp only [writeAll, ih, List.map_cons]

@[simp] theorem writeEntries_eq (entries : List (Data × Data)) :
    serializer.writeEntries entries =
      entries.map (Prod.map serializer.write serializer.write) := by
  induction entries with
  | nil => rfl
  | cons entry rest ih => simp only [writeEntries, ih, List.map_cons, Prod.map]

end Serializer

/-- A format: what it writes of a value of the data model, and what it reads when it is
asked for one. -/
structure Format (Out : Type) where
  write : Data → Out
  read : Request → Out → Option Data

/-! ## Types -/

/-- What a type does: its `Serialize`, what its `Deserialize` asks for, and what its
visitors build from the answer. -/
structure Serde (α : Type) where
  serialize : α → Data
  request : Request
  build : Data → Option α

/-- The same for the fields of a struct or of a variant. -/
structure FieldsSerde (α : Type) where
  serialize : α → List (String × Data)
  requests : List (String × Request)
  build : List (String × Data) → Option α

/-- The same for the variants of an enum.  They are numbered from the index that
`serialize` is given, and `build` is given how many come before the one that was
read. -/
structure VariantsSerde (α : Type) where
  serialize : String → Nat → α → Data
  requests : List (Style × String × List (String × Request))
  build : Nat → List (String × Data) → Option α

namespace Format

variable {Out α : Type} (format : Format Out)

/-- A value as the format writes it. -/
def encode (serde : Serde α) (value : α) : Out := format.write (serde.serialize value)

/-- A value as the format reads it. -/
def decode (serde : Serde α) (out : Out) : Option α :=
  (format.read serde.request out).bind serde.build

/-- The value comes back through the format. -/
def RoundTrips (serde : Serde α) (value : α) : Prop :=
  format.decode serde (format.encode serde value) = some value

end Format

namespace Serde

variable {α β : Type}

/-- A primitive type. -/
def primitive (kind : Primitive) : Serde kind.Value where
  serialize value := .primitive kind value
  request := .primitive kind
  build
    | .primitive kind' value => if same : kind' = kind then some (same ▸ value) else none
    | _ => none

/-- `Option<T>`. -/
def option (content : Serde α) : Serde (Option α) where
  serialize
    | some value => .some (content.serialize value)
    | none => .none
  request := .option content.request
  build
    | .some data => (content.build data).map some
    | .none => some none
    | _ => none

/-- `Vec<T>` and other sequences. -/
def seq (element : Serde α) : Serde (List α) where
  serialize values := .seq (values.map element.serialize)
  request := .seq element.request
  build
    | .seq elements => elements.mapM element.build
    | _ => none

/-- One entry of a map. -/
def buildEntry (key : Serde α) (value : Serde β) (entry : Data × Data) :
    Option (α × β) :=
  (key.build entry.1).bind fun key => (value.build entry.2).map fun value => (key, value)

/-- Maps, with their entries in the order in which they are gone through. -/
def map (key : Serde α) (value : Serde β) : Serde (List (α × β)) where
  serialize entries := .map (entries.map (Prod.map key.serialize value.serialize))
  request := .map key.request value.request
  build
    | .map entries => entries.mapM (buildEntry key value)
    | _ => none

/-- No field. -/
def noFields : FieldsSerde Unit where
  serialize _ := []
  requests := []
  build
    | [] => some ()
    | _ :: _ => none

/-- A field before others. -/
def field (name : String) (first : Serde α) (rest : FieldsSerde β) :
    FieldsSerde (α × β) where
  serialize value := (name, first.serialize value.1) :: rest.serialize value.2
  requests := (name, first.request) :: rest.requests
  build
    | (_name, data) :: fields =>
        (first.build data).bind fun value => (rest.build fields).map fun values =>
          (value, values)
    | [] => none

/-- A struct. -/
def struct (style : Style) (name : String) (fields : FieldsSerde α) : Serde α where
  serialize value := .struct style name (fields.serialize value)
  request := .struct style name fields.requests
  build
    | .struct _ _ data => fields.build data
    | _ => none

/-- No variant. -/
def noVariants : VariantsSerde Empty where
  serialize _ _ value := value.elim
  requests := []
  build _ _ := none

/-- A variant before others. -/
def variant (style : Style) (name : String) (fields : FieldsSerde α)
    (rest : VariantsSerde β) : VariantsSerde (α ⊕ β) where
  serialize enumName index
    | .inl value => .variant style enumName index name (fields.serialize value)
    | .inr value => rest.serialize enumName (index + 1) value
  requests := (style, name, fields.requests) :: rest.requests
  build
    | 0, data => (fields.build data).map .inl
    | index + 1, data => (rest.build index data).map .inr

/-- An enum. -/
def enum (name : String) (variants : VariantsSerde α) : Serde α where
  serialize value := variants.serialize name 0 value
  request := .enum name variants.requests
  build
    | .variant _ _ index _ data => variants.build index data
    | _ => none

end Serde

end Warqueen.DataModel
