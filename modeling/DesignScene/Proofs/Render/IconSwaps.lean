/-
This file shows that an icon swap either changes the main component of one nested instance or is reported.
-/
import DesignScene.Proofs.Render.Forest
import DesignScene.Proofs.Scene.Below

namespace DesignScene

open Outlines SceneGraph Stage

/-- If the node is an instance and something is chosen for it, this becomes its main component. -/
def SceneNode.withMain {α : Type} (chosen : Option String) (node : SceneNode α) : SceneNode α :=
  updateInstance (fun props => { props with mainComponentId := chosen.getD props.mainComponentId })
    node

section Nodes

variable {α : Type} {node : SceneNode α} {props : InstanceProps}

/-- Updating an instance changes its properties only. -/
theorem Stage.updateInstance_of_kind_eq (isInstance : node.kind = .instance props)
    (change : InstanceProps → InstanceProps) :
    updateInstance change node = { node with kind := .instance (change props) } := by
  rw [updateInstance, isInstance]

namespace SceneNode

theorem isSetting_withMain (chosen : Option String) : IsSetting (withMain (α := α) chosen) :=
  isSetting_updateInstance _

/-- Nothing changes where nothing is chosen. -/
@[simp] theorem map_withMain_none (found : Option (SceneNode α)) :
    found.map (withMain none) = found := by
  have kept (node : SceneNode α) : withMain none node = node := by
    cases node with
    | mk _ _ _ _ _ _ _ _ _ _ _ _ _ _ kind => cases kind <;> rfl
  cases found with
  | none => rfl
  | some node => rw [Option.map_some, kept]

/-- What is chosen later counts. -/
theorem withMain_withMain (later chosen : Option String) :
    withMain later (withMain chosen node) = withMain (later.or chosen) node := by
  cases node with
  | mk _ _ _ _ _ _ _ _ _ _ _ _ _ _ kind => cases kind <;> cases later <;> rfl

end SceneNode

end Nodes

namespace Stage

variable {α σ : Type}

section Steps

/-- The swap gives a nested instance its icon as main component, and nothing else changes. -/
structure SwapsIcon (context : RenderContext α σ) (instanceId : Nat) (swap : String × String)
    (stage later : Stage α σ) (target : SceneNode α) (props : InstanceProps)
    (componentId : String) : Prop where
  targeted : stage.graph.iconTarget instanceId swap.1 = some target.id
  resolved : (stage.resolveReference context swap.2).1 = some componentId
  below : stage.graph.IsBelow instanceId target.id
  ne_instance : target.id ≠ instanceId
  found : stage.graph.node? target.id = some target
  kind_eq : target.kind = .instance props
  node?_self : later.graph.node? target.id =
    some { target with kind := .instance { props with mainComponentId := componentId } }
  node?_of_ne : ∀ id, id ≠ target.id → later.graph.node? id = stage.graph.node? id
  report_eq : later.report = stage.report
  missingFonts_eq : later.missingFonts = stage.missingFonts

/-- The swap finds no nested instance or no icon, which is all that is reported, and no node changes. -/
structure RefusesIcon (context : RenderContext α σ) (instanceId : Nat) (path : String)
    (swap : String × String) (stage later : Stage α σ) : Prop where
  fails : stage.graph.iconTarget instanceId swap.1 = none ∨
    (stage.resolveReference context swap.2).1 = none
  graph_eq : later.graph = stage.graph
  report_eq : ∃ message, later.report = (stage.warn path message).report
  missingFonts_eq : later.missingFonts = stage.missingFonts

variable (context : RenderContext α σ) (instanceId : Nat) (path : String)

/-- An icon swap does the one or the other. -/
theorem swaps_or_refuses_icon {stage : Stage α σ} (sound : WellFormed stage.graph.outline)
    (swap : String × String) :
    (∃ target props componentId, SwapsIcon context instanceId swap stage
      (stage.applyIconSwap context instanceId path swap) target props componentId) ∨
      RefusesIcon context instanceId path swap stage
        (stage.applyIconSwap context instanceId path swap) := by
  obtain ⟨key, icon⟩ := swap
  obtain ⟨hostState, asked⟩ := exists_hostState_of_resolveReference context icon stage
  rw [applyIconSwap]
  cases targeted : stage.graph.iconTarget instanceId key with
  | none => exact .inr ⟨.inl targeted, rfl, ⟨_, rfl⟩, rfl⟩
  | some id =>
      obtain ⟨answer, after⟩ : ∃ answer, stage.resolveReference context icon =
          (answer, { stage with hostState := hostState }) := ⟨_, Prod.ext rfl asked⟩
      have resolved := congrArg Prod.fst after
      cases answer with
      | none =>
          simp only [after]
          exact .inr ⟨.inr resolved, rfl, ⟨_, rfl⟩, rfl⟩
      | some componentId =>
          obtain ⟨target, member, isInstance, rfl⟩ := exists_mem_of_iconTarget targeted
          have below := isBelow_of_mem_descendants sound
            (mem_descendants_of_mem_descendantNodes sound member)
          obtain ⟨place, -, atPlace⟩ := List.mem_filterMap.mp member
          obtain rfl := id_eq_of_node? sound atPlace
          obtain ⟨props, kind⟩ : ∃ props, target.kind = .instance props := by
            cases kind : target.kind <;> simp_all [SceneNode.isInstance, SceneNode.instance?]
          simp only [after]
          refine .inl ⟨target, props, componentId, targeted, resolved, below,
            Nat.ne_of_gt (below.lt sound), atPlace, kind, ?_, ?_, rfl, rfl⟩
          · rw [updateNode, node?_update_self atPlace, updateInstance_of_kind_eq kind]
          · intro other different
            exact node?_update_of_ne (Ne.symm different) _

end Steps

section Runs

/-- Some instances below the given one get other main components, and these reports are added. -/
structure SwapsIcons (instanceId : Nat) (stage later : Stage α σ) (chosen : Nat → Option String)
    (added : List RenderWarning) : Prop where
  below : ∀ id, chosen id ≠ none → stage.graph.IsBelow instanceId id
  node?_eq : ∀ id, later.graph.node? id = (stage.graph.node? id).map (SceneNode.withMain (chosen id))
  report_eq : later.report = { stage.report with warnings := stage.report.warnings ++ added }
  missingFonts_eq : later.missingFonts = stage.missingFonts

variable {context : RenderContext α σ} {instanceId : Nat} {path : String} {swap : String × String}
  {stage next later : Stage α σ} {chosen after : Nat → Option String}
  {added more : List RenderWarning}

/-- A carried out swap writes its one target. -/
theorem SwapsIcon.swapsIcons {target : SceneNode α} {props : InstanceProps} {componentId : String}
    (swapped : SwapsIcon context instanceId swap stage later target props componentId) :
    SwapsIcons instanceId stage later
      (fun id => if id = target.id then some componentId else none) [] where
  below id isChosen := by
    by_cases same : id = target.id
    · exact same ▸ swapped.below
    · rw [if_neg same] at isChosen
      exact absurd rfl isChosen
  node?_eq id := by
    by_cases same : id = target.id
    · rw [if_pos same, same, swapped.node?_self, swapped.found, Option.map_some, SceneNode.withMain,
        updateInstance_of_kind_eq swapped.kind_eq]
      rfl
    · rw [if_neg same, swapped.node?_of_ne id same]
      simp
  report_eq := by rw [swapped.report_eq, List.append_nil]
  missingFonts_eq := swapped.missingFonts_eq

/-- A refused swap writes nothing and warns once. -/
theorem RefusesIcon.swapsIcons (refused : RefusesIcon context instanceId path swap stage later) :
    ∃ warning, SwapsIcons instanceId stage later (fun _ => none) [warning] := by
  obtain ⟨message, report⟩ := refused.report_eq
  exact ⟨⟨path, message⟩, fun _ isChosen => absurd rfl isChosen,
    fun id => by simp [refused.graph_eq], report, refused.missingFonts_eq⟩

theorem SwapsIcons.refl (instanceId : Nat) (stage : Stage α σ) :
    SwapsIcons instanceId stage stage (fun _ => none) [] :=
  ⟨fun _ isChosen => absurd rfl isChosen, fun id => by simp, by rw [List.append_nil], rfl⟩

/-- Icon swaps keep the outline. -/
theorem SwapsIcons.outline_eq (swapped : SwapsIcons instanceId stage later chosen added) :
    later.graph.outline = stage.graph.outline := by
  apply List.ext_getElem?
  intro id
  rw [getElem?_outline, getElem?_outline, swapped.node?_eq, Option.map_map]
  congr 1
  funext node
  exact (SceneNode.isSetting_withMain (chosen id)).outline_eq node

theorem SwapsIcons.trans (first : SwapsIcons instanceId stage next chosen added)
    (second : SwapsIcons instanceId next later after more) :
    SwapsIcons instanceId stage later (fun id => (after id).or (chosen id)) (added ++ more) where
  below id isChosen := by
    cases onlyFirst : after id with
    | none =>
        rw [onlyFirst, Option.none_or] at isChosen
        exact first.below id isChosen
    | some componentId =>
        exact (second.below id (by simp [onlyFirst])).congr first.outline_eq
  node?_eq id := by
    rw [second.node?_eq, first.node?_eq, Option.map_map]
    congr 1
    funext node
    exact SceneNode.withMain_withMain (after id) (chosen id)
  report_eq := by rw [second.report_eq, first.report_eq, List.append_assoc]
  missingFonts_eq := second.missingFonts_eq.trans first.missingFonts_eq

/-- All icon swaps together write nested instances and add warnings. -/
theorem exists_swapsIcons (context : RenderContext α σ) (instanceId : Nat) (path : String)
    (swaps : List (String × String)) {stage : Stage α σ}
    (sound : WellFormed stage.graph.outline) :
    ∃ chosen added, SwapsIcons instanceId stage
      (swaps.foldl (applyIconSwap context instanceId path) stage) chosen added ∧
        added.length ≤ swaps.length := by
  induction swaps generalizing stage with
  | nil => exact ⟨_, _, .refl instanceId stage, Nat.le_refl 0⟩
  | cons swap more ih =>
      obtain ⟨chosen, added, first, atMost⟩ : ∃ chosen added, SwapsIcons instanceId stage
          (stage.applyIconSwap context instanceId path swap) chosen added ∧ added.length ≤ 1 := by
        rcases swaps_or_refuses_icon context instanceId path sound swap with
          ⟨target, props, componentId, swapped⟩ | refused
        · exact ⟨_, _, swapped.swapsIcons, Nat.zero_le 1⟩
        · obtain ⟨warning, only⟩ := refused.swapsIcons
          exact ⟨_, _, only, Nat.le_refl 1⟩
      obtain ⟨after, others, rest, fewer⟩ := ih (first.outline_eq ▸ sound)
      refine ⟨_, _, first.trans rest, ?_⟩
      rw [List.length_append, List.length_cons]
      omega

/-- Each swap either gives one instance below the node its icon, or changes nothing and is reported once. -/
theorem each_icon_swap_counts (context : RenderContext α σ) (instanceId : Nat) (path : String)
    (swaps : List (String × String)) {stage : Stage α σ} (forest : stage.graph.IsForest) :
    (∀ (earlier rest : List (String × String)) (swap : String × String),
      swaps = earlier ++ swap :: rest →
        let before := earlier.foldl (applyIconSwap context instanceId path) stage
        let after := before.applyIconSwap context instanceId path swap
        (∃ target props componentId,
          SwapsIcon context instanceId swap before after target props componentId) ∨
          RefusesIcon context instanceId path swap before after) ∧
      ∃ chosen added, SwapsIcons instanceId stage
        (swaps.foldl (applyIconSwap context instanceId path) stage) chosen added ∧
          added.length ≤ swaps.length := by
  have sound := isForest_iff_wellFormed.mp forest
  constructor
  · intro earlier rest swap _
    obtain ⟨chosen, added, run, -⟩ := exists_swapsIcons context instanceId path earlier sound
    exact swaps_or_refuses_icon context instanceId path (run.outline_eq ▸ sound) swap
  · exact exists_swapsIcons context instanceId path swaps sound

/-- A host that knows the star among all icons. -/
def starContext : RenderContext Rat Unit :=
  { plainContext with
    host := { Host.empty with
      icon := fun name state => (if name == "star" then some "90:1" else none, state) } }

/-- A frame with a badge in which there is an icon. -/
def badgeWithIcon : Stage Rat Unit :=
  framed.instantiate (badgeOf [.node "1:1" "Icon" true 16 16 (.instance "90:0") []]) 0 none

theorem isForest_badgeWithIcon : badgeWithIcon.graph.IsForest := by
  have within : 0 < framed.graph.size := by decide
  obtain ⟨children, grown⟩ :=
    grows_instantiate (badgeOf [.node "1:1" "Icon" true 16 16 (.instance "90:0") []]) none within
  exact isForest_iff_wellFormed.mpr (grown.wellFormed wellFormed_framed (hasParent_some within))

/-- The star is swapped in, and the moon is reported. -/
theorem star_swapped_and_moon_refused :
    badgeWithIcon.graph.IsForest ∧
      (∃ target props componentId, SwapsIcon starContext 1 ("Icon", "star") badgeWithIcon
        (badgeWithIcon.applyIconSwap starContext 1 "items[0]" ("Icon", "star")) target props
          componentId) ∧
      RefusesIcon starContext 1 "items[0]" ("Icon", "moon")
        (badgeWithIcon.applyIconSwap starContext 1 "items[0]" ("Icon", "star"))
        ((badgeWithIcon.applyIconSwap starContext 1 "items[0]" ("Icon", "star")).applyIconSwap
          starContext 1 "items[0]" ("Icon", "moon")) := by
  have each := (each_icon_swap_counts starContext 1 "items[0]" [("Icon", "star"), ("Icon", "moon")]
    isForest_badgeWithIcon).1
  refine ⟨isForest_badgeWithIcon, ?_, ?_⟩
  · rcases each [] [("Icon", "moon")] ("Icon", "star") rfl with swapped | refused
    · exact swapped
    · have found : badgeWithIcon.graph.iconTarget 1 "Icon" = some 2 := by decide
      rcases refused.fails with noTarget | noIcon
      · cases found.symm.trans noTarget
      · cases noIcon
  · rcases each [("Icon", "star")] [] ("Icon", "moon") rfl with swapped | refused
    · obtain ⟨target, props, componentId, swapped⟩ := swapped
      cases swapped.resolved
    · exact refused

end Runs

end Stage

end DesignScene
