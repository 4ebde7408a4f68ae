import Mathlib.Data.List.Nodup
import Mathlib.Data.List.Perm.Subperm

/-!
# Histories as bags

What arrives over an unordered channel is compared with what was given to it by
`List.Subperm`: nothing arrives that was not given, and nothing more often than it
was given.  The rule below proves this from where each arrival comes from.
-/

namespace Warqueen.Concurrency

universe u v w

variable {α : Type u} {β : Type v} {γ : Type w}

theorem subperm_filterMap {elements others : List α} (image : α → Option β)
    (within : elements.Subperm others) :
    (elements.filterMap image).Subperm (others.filterMap image) := by
  obtain ⟨middle, perm, sublist⟩ := within
  exact ⟨middle.filterMap image, perm.filterMap image, sublist.filterMap image⟩

/-- An element that is replaced by one with the same image does not change the images. -/
theorem map_set_of_same {elements : List α} {index : Nat} {element replacement : α}
    {image : α → β} (found : elements[index]? = some element)
    (same : image replacement = image element) :
    (elements.set index replacement).map image = elements.map image := by
  obtain ⟨inBounds, rfl⟩ := List.getElem?_eq_some_iff.mp found
  apply List.ext_getElem?
  intro other
  by_cases equal : index = other
  · subst equal
    simp [inBounds, same]
  · simp [List.getElem?_set_ne equal]

/-- An element that loses its image takes it away from the images. -/
theorem perm_filterMap_modify {elements : List α} {index : Nat} {element : α}
    {update : α → α} {image : α → Option β} {value : β}
    (found : elements[index]? = some element) (before : image element = some value)
    (after : image (update element) = none) :
    (elements.filterMap image).Perm
      (value :: (elements.modify index update).filterMap image) := by
  induction elements generalizing index with
  | nil => cases found
  | cons first rest inductionHypothesis =>
      cases index with
      | zero =>
          obtain rfl := Option.some.inj found
          simp [before, after]
      | succ index =>
          have later := inductionHypothesis found
          rw [List.modify_succ_cons, List.filterMap_cons, List.filterMap_cons]
          cases image first with
          | none => exact later
          | some other => exact (later.cons other).trans (List.Perm.swap _ _ _)

/-- A list of images is read off the positions of the list. -/
theorem filterMap_range_getElem? (elements : List α) (image : α → Option β) :
    (List.range elements.length).filterMap (fun index => elements[index]?.bind image) =
      elements.filterMap image := by
  induction elements with
  | nil => rfl
  | cons element rest inductionHypothesis =>
      rw [List.length_cons, List.range_succ_eq_map, List.filterMap_cons,
        List.filterMap_map, List.filterMap_cons]
      have later : (fun index => (element :: rest)[index]?.bind image) ∘ Nat.succ =
          fun index => rest[index]?.bind image := rfl
      rw [later, inductionHypothesis]
      rfl

/-- The rule of origins: when every element with an image has an origin with the same
image, and no origin is shared, the images are among those of the origins. -/
theorem subperm_of_origins {elements : List α} {others : List β} {image : α → Option γ}
    {image' : β → Option γ} (Origin : Nat → Nat → Prop)
    (exists_origin : ∀ index element value, elements[index]? = some element →
      image element = some value →
      ∃ origin other, others[origin]? = some other ∧ image' other = some value ∧
        Origin index origin)
    (unshared : ∀ first second origin, Origin first origin → Origin second origin →
      first = second) :
    (elements.filterMap image).Subperm (others.filterMap image') := by
  let imageAt : Nat → Option γ := fun index => elements[index]?.bind image
  let imageAt' : Nat → Option γ := fun origin => others[origin]?.bind image'
  let shown := (List.range elements.length).filter fun index => (imageAt index).isSome
  have origins : ∀ index, (imageAt index).isSome = true →
      ∃ origin, imageAt' origin = imageAt index ∧ Origin index origin := by
    intro index isSome
    obtain ⟨value, shows⟩ := Option.isSome_iff_exists.mp isSome
    obtain ⟨element, found, isImage⟩ := Option.bind_eq_some_iff.mp shows
    obtain ⟨origin, other, foundOther, isImage', isOrigin⟩ :=
      exists_origin index element value found isImage
    refine ⟨origin, ?_, isOrigin⟩
    rw [shows]
    exact Option.bind_eq_some_iff.mpr ⟨other, foundOther, isImage'⟩
  choose! originOf same isOrigin using origins
  have isShown : ∀ index ∈ shown, (imageAt index).isSome = true := by
    intro index member
    exact (List.mem_filter.mp member).2
  have within : (shown.map originOf).Subperm (List.range others.length) := by
    apply List.Nodup.subperm
    · apply List.Nodup.map_on
      · intro first memberFirst second memberSecond equal
        have ofFirst := isOrigin first (isShown first memberFirst)
        have ofSecond := isOrigin second (isShown second memberSecond)
        exact unshared first second _ ofFirst (equal ▸ ofSecond)
      · exact List.nodup_range.filter _
    · intro origin member
      obtain ⟨index, isMember, rfl⟩ := List.mem_map.mp member
      have isSome : (imageAt' (originOf index)).isSome = true := by
        rw [same index (isShown index isMember)]
        exact isShown index isMember
      obtain ⟨value, shows⟩ := Option.isSome_iff_exists.mp isSome
      obtain ⟨other, foundOther, -⟩ := Option.bind_eq_some_iff.mp shows
      exact List.mem_range.mpr (List.getElem?_eq_some_iff.mp foundOther).1
  have images : (shown.map originOf).filterMap imageAt' = elements.filterMap image := by
    rw [List.filterMap_map, ← filterMap_range_getElem? elements image]
    have sameShown : shown.filterMap (imageAt' ∘ originOf) = shown.filterMap imageAt :=
      List.filterMap_congr fun index member => same index (isShown index member)
    rw [sameShown, List.filterMap_filter]
    apply List.filterMap_congr
    intro index _
    change (if (imageAt index).isSome then imageAt index else none) = imageAt index
    cases imageAt index <;> rfl
  rw [← images, ← filterMap_range_getElem? others image']
  exact subperm_filterMap imageAt' within

end Warqueen.Concurrency
