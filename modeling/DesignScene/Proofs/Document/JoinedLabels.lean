/-
This file says when the tab that is made of a run of tabs has the labels of all of them.
-/
import DesignScene.Proofs.Document.Runs

namespace DesignScene.Tabs

/-- The tab has no properties, or they are an object. -/
def TakesLabels (tab : Json) : Prop :=
  ∀ value, tab.field? "properties" = some value → value.isObject = true

variable {tab first second : Json} {list before more after : List Json}

/-- Whether a tab takes labels does not depend on what is inside it. -/
theorem takesLabels_inItem : TakesLabels (inItem tab) ↔ TakesLabels tab := by
  rw [TakesLabels, TakesLabels, field?_inItem_of_ne (by decide) (by decide)]

theorem get?_setLabels (list : List Json) (properties : Dict Json) :
    (setLabels list properties).get? "Label" = some (.array list) :=
  Dict.get?_insert_self _ _ _

/-- The labels of a tab are those of its property for them. -/
theorem labels_of_properties {properties : Dict Json}
    (found : tab.field? "properties" = some (.object properties))
    (labeled : properties.get? "Label" = some (.array list)) : labels tab = list := by
  have field : labelField tab = some (.array list) := by
    simp [labelField, found, Json.asObject?, labeled]
  rw [labels, field]

/-- The labels that a tab takes are read from it again. -/
theorem labels_withLabels (isOne : isTab tab = true) (takes : TakesLabels tab) :
    labels (withLabels list tab) = list := by
  obtain ⟨itemType, typed, -⟩ := exists_type_of_isTab isOne
  obtain ⟨fields, rfl⟩ := LayoutItem.eq_object_of_typeOf? typed
  have written : ∃ properties, withLabels list (.object fields) =
      .object (Dict.insert "properties" (.object (setLabels list properties)) fields) := by
    rw [withLabels]
    split
    · exact ⟨_, rfl⟩
    · exact ⟨_, rfl⟩
    · next value noObject present =>
        have isObject := takes value present
        cases value with
        | object properties => exact absurd rfl (noObject properties)
        | _ => cases isObject
  obtain ⟨properties, same⟩ := written
  rw [same]
  exact labels_of_properties (Dict.get?_insert_self _ _ _) (get?_setLabels list properties)

/-- A tab that takes no labels stays as it is. -/
theorem withLabels_eq_self (refuses : ¬ TakesLabels tab) (list : List Json) :
    withLabels list tab = tab := by
  cases tab with
  | object fields =>
      rw [withLabels]
      split
      · next absent =>
          refine absurd (fun value found => ?_) refuses
          cases absent.symm.trans found
      · next properties present =>
          refine absurd (fun value found => ?_) refuses
          cases present.symm.trans found
          rfl
      · rfl
  | _ => rfl

/-- A run becomes a tab with all its labels unless the first tab has properties that are no object. -/
theorem labels_of_run_iff (isRun : IsRun before (first :: second :: more) after) :
    ∃ joined, inList (before ++ ((first :: second :: more) ++ after)) =
        inList before ++ joined :: inList after ∧
      (labels joined = (first :: second :: more).flatMap labels ↔
        TakesLabels first ∨ (second :: more).flatMap labels = []) ∧
      (¬ TakesLabels first → joined = inItem first) := by
  have sameLabels : ((first :: second :: more).map inItem).flatMap labels =
      (first :: second :: more).flatMap labels := by
    rw [List.flatMap_map]
    exact List.flatMap_congr fun item _ => labels_inItem item
  refine ⟨withLabels ((first :: second :: more).flatMap labels) (inItem first), ?_, ?_, ?_⟩
  · rw [inList, inElements_eq_map, List.map_append, List.map_append, isRun.map_inItem.joinRuns_eq,
      ← sameLabels, inList, inList, inElements_eq_map, inElements_eq_map]
    rfl
  · by_cases takes : TakesLabels first
    · have firstTab : isTab (inItem first) = true :=
        (isTab_inItem first).trans (isRun.tabs first List.mem_cons_self)
      rw [labels_withLabels firstTab (takesLabels_inItem.mpr takes)]
      simp [takes]
    · rw [withLabels_eq_self (mt takesLabels_inItem.mp takes), labels_inItem, List.flatMap_cons,
        List.self_eq_append_right]
      simp [takes]
  · intro refuses
    exact withLabels_eq_self (mt takesLabels_inItem.mp refuses) _

section Runs

/-- A tab with a label beside its properties. -/
def tabWith (properties : Json) (label : String) : Json :=
  .object [("label", .string label), ("properties", properties), ("type", .string "tab")]

/-- Two tabs in front of a value that is no tab are a run. -/
theorem isRun_tabWith (properties : Json) :
    IsRun [] [tabWith properties "Home", tabWith .null "Search"] [.null] := by
  refine ⟨fun item member => ?_, nofun, fun item isFirst => ?_⟩
  · simp only [List.mem_cons, List.not_mem_nil, or_false] at member
    rcases member with rfl | rfl <;> rfl
  · cases isFirst
    rfl

/-- Two tabs become one with both labels. -/
theorem two_tabs_keep_labels :
    IsRun [] [tabWith (.object []) "Home", tabWith .null "Search"] [.null] ∧
      ∃ joined, inList [tabWith (.object []) "Home", tabWith .null "Search", .null] =
          [joined, .null] ∧
        labels joined = [.string "Home", .string "Search"] := by
  obtain ⟨joined, becomes, kept, -⟩ := labels_of_run_iff (isRun_tabWith (.object []))
  have takes : TakesLabels (tabWith (.object []) "Home") := by
    intro value found
    cases found
    rfl
  exact ⟨isRun_tabWith _, joined, becomes, kept.mpr (.inl takes)⟩

/-- The labels of the other tabs are lost where the first one has properties that are null. -/
theorem null_properties_lose_labels :
    ¬∀ (before run after : List Json) (joined : Json), IsRun before run after → 2 ≤ run.length →
      inList (before ++ (run ++ after)) = inList before ++ joined :: inList after →
        labels joined = run.flatMap labels := by
  intro every
  have lost := every [] _ _ (tabWith .null "Home") (isRun_tabWith .null) (Nat.le_refl 2) rfl
  have length := congrArg List.length lost
  exact absurd length (by decide)

end Runs

end DesignScene.Tabs
