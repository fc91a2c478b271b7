/-
This file says which of the layouts without errors are read as documents.
-/
import DesignScene.Proofs.Document.Prepare
import DesignScene.Proofs.Review.Structure
import DesignScene.Scalar.Exact

namespace DesignScene

open LayoutDocument

namespace Structure

/-- Without errors the root is an object with a container or items, which may be of any kind. -/
theorem hasContent_of_not_blocks {layout : Json} (clean : ¬Blocks (check layout)) :
    layout.isObject = true ∧ HasContent layout := by
  rw [blocks_check, not_or] at clean
  obtain ⟨rooted, -⟩ := clean
  simp only [HasRootFault, not_or, not_exists, not_and] at rooted
  obtain ⟨present, mode⟩ := rooted
  cases layout with
  | object fields =>
      refine ⟨rfl, ?_⟩
      cases found : presentField "layoutContainer" (.object fields) with
      | some container =>
          have isContainer := (Option.filter_eq_some_iff.mp found).1
          have hasMode : hasLayoutMode container ≠ false := mode container found
          left
          cases container with
          | object inner => simp [isContainer, Json.asObject?]
          | _ => exact absurd rfl hasMode
      | none =>
          obtain ⟨value, items⟩ := Option.ne_none_iff_exists'.mp (present found)
          have isField := (Option.filter_eq_some_iff.mp items).1
          exact .inr (by rw [isField]; rfl)
  | _ => exact absurd rfl (present rfl)

end Structure

namespace Review

variable {α : Type} [Scalar α]

/-- A text without errors is read as a document exactly if its items, if any, stand in an array. -/
theorem readable_iff_of_no_errors {config : ReviewConfig α} {registry : Option Registry}
    {text : String} (checked : config.checkStructure = true)
    (clean : (ofText config registry text).errors = []) :
    ∃ layout, Json.parse text = some layout ∧
      ((∃ document : LayoutDocument α, LayoutDocument.ofJson layout = .ok document) ↔
        HasItemList layout) ∧
      ∀ catalog : Registry,
        (∃ document : LayoutDocument α, Scene.readDocument catalog text = .ok document) ↔
          HasItemList layout := by
  cases parsed : Json.parse text with
  | none =>
      rw [ofText, parsed] at clean
      cases clean
  | some layout =>
      have unblocked : ¬Blocks (Structure.check layout) := by
        rintro ⟨issue, member, -⟩
        rw [errors_ofText parsed, reviewFindings, if_pos checked, List.filterMap_append,
          List.append_eq_nil_iff] at clean
        rw [clean.1] at member
        cases member
      obtain ⟨isObject, content⟩ := Structure.hasContent_of_not_blocks unblocked
      have readable : (∃ document : LayoutDocument α, LayoutDocument.ofJson layout = .ok document) ↔
          HasItemList layout := by
        simp [ofJson_eq_ok_iff, isObject, content]
      exact ⟨layout, rfl, readable, fun catalog =>
        (Scene.readDocument_eq_ok_iff parsed catalog).trans readable⟩

/-- An empty array of items has no errors and is read. -/
theorem readable_of_empty_items :
    (ofText (structureOnly : ReviewConfig Rat) none "\x7b\"items\":[]\x7d").errors = [] ∧
      ∃ layout, Json.parse "\x7b\"items\":[]\x7d" = some layout ∧
        ∃ document : LayoutDocument Rat, LayoutDocument.ofJson layout = .ok document := by
  have parsed : Json.parse "\x7b\"items\":[]\x7d" = some (.object [("items", .array [])]) := by
    simp only [Json.parse, Json.readText, String.reduceToList]
    rfl
  have clean :
      (ofText (structureOnly : ReviewConfig Rat) none "\x7b\"items\":[]\x7d").errors = [] := by
    rw [errors_ofText parsed, reviewFindings_structureOnly]
    rfl
  obtain ⟨layout, same, readable, -⟩ := readable_iff_of_no_errors rfl clean
  refine ⟨clean, layout, same, readable.mpr ?_⟩
  cases parsed.symm.trans same
  intro value found
  cases found
  exact ⟨[], rfl⟩

/-- Items that are a text have no errors, and yet they are not read. -/
theorem text_items_not_readable :
    ¬∀ (config : ReviewConfig Rat) (registry : Option Registry) (text : String),
      config.checkStructure = true → (ofText config registry text).errors = [] →
        ∃ layout, Json.parse text = some layout ∧
          ∃ document : LayoutDocument Rat, LayoutDocument.ofJson layout = .ok document := by
  intro every
  have parsed : Json.parse "\x7b\"items\":\"x\"\x7d" = some (.object [("items", .string "x")]) := by
    simp only [Json.parse, Json.readText, String.reduceToList]
    rfl
  have clean :
      (ofText (structureOnly : ReviewConfig Rat) none "\x7b\"items\":\"x\"\x7d").errors = [] := by
    rw [errors_ofText parsed, reviewFindings_structureOnly]
    rfl
  obtain ⟨layout, same, document, read⟩ := every _ _ _ rfl clean
  cases parsed.symm.trans same
  cases read

end Review

end DesignScene
