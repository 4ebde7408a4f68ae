import Warqueen.DataModel

/-!
# Types that are the same to a format

A type can be another type with something of its own around parts of it that is neither
written nor read.  It agrees with that other type on both sides: a serializer writes the
same of both, and both ask a deserializer for the same and build the same from the
answer, up to what is around.  Types agree when what they are made of agrees.
-/

namespace Warqueen.DataModel

variable {Out : Type} {α β γ δ : Type}

/-- `whole` is `plain` with something around parts of it: `strip` takes it off a value,
`wrap` puts it around what was built. -/
structure Agrees (serializer : Serializer Out) (whole : Serde α) (plain : Serde β)
    (strip : α → β) (wrap : β → α) : Prop where
  write (value : α) : serializer.write (whole.serialize value) =
    serializer.write (plain.serialize (strip value))
  request : whole.request = plain.request
  build (data : Data) : whole.build data = (plain.build data).map wrap

/-- The same for the fields of a struct or of a variant. -/
structure FieldsAgree (serializer : Serializer Out) (whole : FieldsSerde α)
    (plain : FieldsSerde β) (strip : α → β) (wrap : β → α) : Prop where
  write (value : α) : serializer.writeFields (whole.serialize value) =
    serializer.writeFields (plain.serialize (strip value))
  requests : whole.requests = plain.requests
  build (data : List (String × Data)) : whole.build data = (plain.build data).map wrap

/-- The same for the variants of an enum. -/
structure VariantsAgree (serializer : Serializer Out) (whole : VariantsSerde α)
    (plain : VariantsSerde β) (strip : α → β) (wrap : β → α) : Prop where
  write (name : String) (index : Nat) (value : α) :
    serializer.write (whole.serialize name index value) =
      serializer.write (plain.serialize name index (strip value))
  requests : whole.requests = plain.requests
  build (index : Nat) (data : List (String × Data)) :
    whole.build index data = (plain.build index data).map wrap

/-- Building all of a list and then mapping what was built is building the mapped. -/
theorem mapM_map_option {ι : Type} (build : ι → Option α) (wrap : α → β)
    (elements : List ι) :
    (elements.mapM fun element => (build element).map wrap) =
      (elements.mapM build).map (List.map wrap) := by
  induction elements with
  | nil => rfl
  | cons element rest ih =>
      simp only [List.mapM_cons, ih]
      cases build element with
      | none => rfl
      | some value => cases rest.mapM build <;> rfl

namespace Agrees

variable {serializer : Serializer Out}
variable {whole : Serde α} {plain : Serde β} {strip : α → β} {wrap : β → α}

/-- A type agrees with itself. -/
theorem refl (serializer : Serializer Out) (serde : Serde α) :
    Agrees serializer serde serde id id where
  write _ := rfl
  request := rfl
  build data := by rw [Option.map_id, id]

theorem option (content : Agrees serializer whole plain strip wrap) :
    Agrees serializer (.option whole) (.option plain) (Option.map strip)
      (Option.map wrap) where
  write value := by
    cases value with
    | none => rfl
    | some value =>
        simp only [Serde.option, Option.map_some, Serializer.write, content.write]
  request := congrArg Request.option content.request
  build data := by
    cases data with
    | some data =>
        simp only [Serde.option, content.build, Option.map_map]
        rfl
    | _ => rfl

theorem seq (element : Agrees serializer whole plain strip wrap) :
    Agrees serializer (.seq whole) (.seq plain) (List.map strip) (List.map wrap) where
  write values := by
    simp only [Serde.seq, Serializer.write, Serializer.writeAll_eq, List.map_map]
    apply congrArg serializer.seq
    apply List.map_congr_left
    intro value _
    exact element.write value
  request := congrArg Request.seq element.request
  build data := by
    cases data with
    | seq elements =>
        have same : whole.build = fun data => (plain.build data).map wrap :=
          funext element.build
        simp only [Serde.seq, same]
        exact mapM_map_option plain.build wrap elements
    | _ => rfl

variable {valueWhole : Serde γ} {valuePlain : Serde δ}
variable {valueStrip : γ → δ} {valueWrap : δ → γ}

theorem map (key : Agrees serializer whole plain strip wrap)
    (value : Agrees serializer valueWhole valuePlain valueStrip valueWrap) :
    Agrees serializer (.map whole valueWhole) (.map plain valuePlain)
      (List.map (Prod.map strip valueStrip)) (List.map (Prod.map wrap valueWrap)) where
  write entries := by
    simp only [Serde.map, Serializer.write, Serializer.writeEntries_eq, List.map_map]
    apply congrArg serializer.map
    apply List.map_congr_left
    intro entry _
    exact Prod.ext (key.write entry.1) (value.write entry.2)
  request := by simp only [Serde.map, key.request, value.request]
  build data := by
    cases data with
    | map entries =>
        have same : Serde.buildEntry whole valueWhole = fun entry =>
            (Serde.buildEntry plain valuePlain entry).map (Prod.map wrap valueWrap) := by
          funext entry
          simp only [Serde.buildEntry, key.build, value.build]
          cases plain.build entry.1 with
          | none => rfl
          | some first => cases valuePlain.build entry.2 <;> rfl
        simp only [Serde.map, same]
        exact mapM_map_option _ (Prod.map wrap valueWrap) entries
    | _ => rfl

end Agrees

namespace FieldsAgree

variable {serializer : Serializer Out}
variable {whole : FieldsSerde α} {plain : FieldsSerde β} {strip : α → β} {wrap : β → α}

theorem noFields (serializer : Serializer Out) :
    FieldsAgree serializer Serde.noFields Serde.noFields id id where
  write _ := rfl
  requests := rfl
  build data := by rw [Option.map_id, id]

theorem field {first : Serde γ} {firstPlain : Serde δ} {firstStrip : γ → δ}
    {firstWrap : δ → γ} (name : String)
    (head : Agrees serializer first firstPlain firstStrip firstWrap)
    (rest : FieldsAgree serializer whole plain strip wrap) :
    FieldsAgree serializer (Serde.field name first whole)
      (Serde.field name firstPlain plain) (Prod.map firstStrip strip)
      (Prod.map firstWrap wrap) where
  write value := by
    simp only [Serde.field, Serializer.writeFields, head.write, rest.write, Prod.map]
  requests := by simp only [Serde.field, head.request, rest.requests]
  build data := by
    cases data with
    | nil => rfl
    | cons entry fields =>
        simp only [Serde.field, head.build, rest.build]
        cases firstPlain.build entry.2 with
        | none => rfl
        | some value => cases plain.build fields <;> rfl

/-- Structs agree when their fields do. -/
theorem struct (style : Style) (name : String)
    (fields : FieldsAgree serializer whole plain strip wrap) :
    Agrees serializer (.struct style name whole) (.struct style name plain) strip wrap where
  write value := by simp only [Serde.struct, Serializer.write, fields.write]
  request := by simp only [Serde.struct, fields.requests]
  build data := by
    cases data with
    | struct _ _ data => exact fields.build data
    | _ => rfl

end FieldsAgree

namespace VariantsAgree

variable {serializer : Serializer Out}
variable {whole : VariantsSerde α} {plain : VariantsSerde β}
variable {strip : α → β} {wrap : β → α}

theorem noVariants (serializer : Serializer Out) :
    VariantsAgree serializer Serde.noVariants Serde.noVariants id id where
  write _ _ _ := rfl
  requests := rfl
  build _ _ := rfl

theorem variant {fields : FieldsSerde γ} {fieldsPlain : FieldsSerde δ}
    {fieldsStrip : γ → δ} {fieldsWrap : δ → γ} (style : Style) (name : String)
    (first : FieldsAgree serializer fields fieldsPlain fieldsStrip fieldsWrap)
    (rest : VariantsAgree serializer whole plain strip wrap) :
    VariantsAgree serializer (Serde.variant style name fields whole)
      (Serde.variant style name fieldsPlain plain) (Sum.map fieldsStrip strip)
      (Sum.map fieldsWrap wrap) where
  write enumName index value := by
    cases value with
    | inl value =>
        simp only [Serde.variant, Sum.map_inl, Serializer.write, first.write]
    | inr value => exact rest.write enumName (index + 1) value
  requests := by simp only [Serde.variant, first.requests, rest.requests]
  build index data := by
    cases index with
    | zero =>
        simp only [Serde.variant, first.build, Option.map_map]
        rfl
    | succ index =>
        simp only [Serde.variant, rest.build, Option.map_map]
        rfl

/-- Enums agree when their variants do. -/
theorem enum (name : String) (variants : VariantsAgree serializer whole plain strip wrap) :
    Agrees serializer (.enum name whole) (.enum name plain) strip wrap where
  write value := variants.write name 0 value
  request := by simp only [Serde.enum, variants.requests]
  build data := by
    cases data with
    | variant _ _ index _ data => exact variants.build index data
    | _ => rfl

end VariantsAgree

end Warqueen.DataModel
