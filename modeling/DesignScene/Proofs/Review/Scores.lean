/-
This file bounds the scores of a review in exact rationals and shows that they only fall when more issues
are reported or when more passes are run.
-/
import DesignScene.Proofs.Review.Structure
import DesignScene.Proofs.Scalar.Exact
import Mathlib.Data.List.Perm.Subperm
import Mathlib.Data.Rat.Cast.Order
import Mathlib.Order.Interval.Set.Defs
import Mathlib.Tactic.Linarith
import Mathlib.Tactic.Positivity

namespace DesignScene

namespace Scalar

theorem ofNat_le_ofNat {least greatest : Nat} (le : least ≤ greatest) :
    (ofNat least : Rat) ≤ ofNat greatest := by
  have cast : ((least : Int) : Rat) ≤ ((greatest : Int) : Rat) := by exact_mod_cast le
  exact cast

theorem ofRatio_nonneg (numerator denominator : Nat) :
    (0 : Rat) ≤ ofRatio numerator denominator := by
  rw [ofRatio_eq]
  positivity

/-- A size between zero and one is the nearest one to itself. -/
theorem clampUnit_of_mem_Icc {value : Rat} (inUnit : value ∈ Set.Icc (0 : Rat) 1) :
    clampUnit value = value := by
  have aboveZero : ¬value < ofNat 0 := not_lt.mpr inUnit.1
  have belowOne : ¬ofNat 1 < value := not_lt.mpr inUnit.2
  rw [clampUnit, if_neg aboveZero, if_neg belowOne]

end Scalar

open Scalar

namespace Quality

variable {errors moreErrors warnings moreWarnings : List Issue}

section Penalties

/-- The penalty for the severities of the errors. -/
def severityPenalty (errors : List Issue) : Rat :=
  countSeverity .critical errors * ofRatio 1 2 + countSeverity .high errors * ofRatio 3 10 +
    countSeverity .medium errors * ofRatio 1 10

def componentPenalty (errors : List Issue) : Rat := countWord "COMPONENT" errors * ofRatio 1 5

def variantPenalty (errors : List Issue) : Rat := countWord "VARIANT" errors * ofRatio 3 20

def warningPenalty (warnings : List Issue) : Rat := ofNat warnings.length * ofRatio 1 10

theorem mul_ofRatio_le {least greatest : Nat} (le : least ≤ greatest) (numerator denominator : Nat) :
    (ofNat least : Rat) * ofRatio numerator denominator ≤
      ofNat greatest * ofRatio numerator denominator :=
  mul_le_mul_of_nonneg_right (ofNat_le_ofNat le) (ofRatio_nonneg numerator denominator)

theorem mul_ofRatio_nonneg (count numerator denominator : Nat) :
    (0 : Rat) ≤ ofNat count * ofRatio numerator denominator :=
  mul_nonneg (ofNat_le_ofNat (Nat.zero_le count)) (ofRatio_nonneg numerator denominator)

theorem severityPenalty_nonneg (errors : List Issue) : 0 ≤ severityPenalty errors :=
  add_nonneg (add_nonneg (mul_ofRatio_nonneg _ 1 2) (mul_ofRatio_nonneg _ 3 10))
    (mul_ofRatio_nonneg _ 1 10)

/-- More errors are not penalized less for their severity. -/
theorem severityPenalty_le (more : errors.Subperm moreErrors) :
    severityPenalty errors ≤ severityPenalty moreErrors := by
  have counted (severity : Severity) :
      (errors.filter fun issue => issue.severity == severity).length ≤
        (moreErrors.filter fun issue => issue.severity == severity).length :=
    (more.filter _).length_le
  exact add_le_add (add_le_add (mul_ofRatio_le (counted _) 1 2) (mul_ofRatio_le (counted _) 3 10))
    (mul_ofRatio_le (counted _) 1 10)

/-- More errors are not penalized less for their components. -/
theorem componentPenalty_le (more : errors.Subperm moreErrors) :
    componentPenalty errors ≤ componentPenalty moreErrors :=
  mul_ofRatio_le (more.filter _).length_le 1 5

/-- More errors are not penalized less for their variants. -/
theorem variantPenalty_le (more : errors.Subperm moreErrors) :
    variantPenalty errors ≤ variantPenalty moreErrors :=
  mul_ofRatio_le (more.filter _).length_le 3 20

/-- More warnings are not penalized less. -/
theorem warningPenalty_le (more : warnings.Subperm moreWarnings) :
    warningPenalty warnings ≤ warningPenalty moreWarnings :=
  mul_ofRatio_le more.length_le 1 10

/-- A score is what a penalty leaves of one, and at least zero. -/
theorem lessPenalty_eq (penalty : Rat) : lessPenalty penalty = max 0 (1 - penalty) := by
  rw [lessPenalty, atLeastZero_eq_max]
  rfl

/-- What a penalty leaves of a full score is a score. -/
theorem lessPenalty_mem_Icc {penalty : Rat} (nonneg : 0 ≤ penalty) :
    lessPenalty penalty ∈ Set.Icc (0 : Rat) 1 := by
  rw [lessPenalty_eq]
  exact ⟨le_max_left _ _, max_le zero_le_one (sub_le_self 1 nonneg)⟩

/-- A heavier penalty leaves no higher score. -/
theorem lessPenalty_le_lessPenalty {light heavy : Rat} (le : light ≤ heavy) :
    lessPenalty heavy ≤ lessPenalty light := by
  rw [lessPenalty_eq, lessPenalty_eq]
  exact max_le_max_left 0 (sub_le_sub_left le 1)

end Penalties

section Scores

/-- What the parts of a quality come to together. -/
def weighted (quality : Quality Rat) : Rat :=
  quality.structuralIntegrity * (2 / 5) + quality.componentConsistency * (3 / 10) +
    quality.designSystemCompliance * (1 / 5) + quality.usabilityScore * (1 / 10)

/-- The scores of the parts lie between zero and one. -/
structure PartsInUnit (quality : Quality Rat) : Prop where
  structural : quality.structuralIntegrity ∈ Set.Icc (0 : Rat) 1
  component : quality.componentConsistency ∈ Set.Icc (0 : Rat) 1
  designSystem : quality.designSystemCompliance ∈ Set.Icc (0 : Rat) 1
  usability : quality.usabilityScore ∈ Set.Icc (0 : Rat) 1

/-- No part has a greater score than that of the other quality. -/
structure PartsAtMost (quality other : Quality Rat) : Prop where
  structural : quality.structuralIntegrity ≤ other.structuralIntegrity
  component : quality.componentConsistency ≤ other.componentConsistency
  designSystem : quality.designSystemCompliance ≤ other.designSystemCompliance
  usability : quality.usabilityScore ≤ other.usabilityScore

/-- The weights come to one. -/
theorem PartsInUnit.weighted_mem_Icc {quality : Quality Rat} (parts : quality.PartsInUnit) :
    quality.weighted ∈ Set.Icc (0 : Rat) 1 := by
  obtain ⟨⟨_, _⟩, ⟨_, _⟩, ⟨_, _⟩, ⟨_, _⟩⟩ := parts
  rw [weighted]
  constructor <;> linarith

/-- No greater parts make no greater sum. -/
theorem PartsAtMost.weighted_le {quality other : Quality Rat} (parts : quality.PartsAtMost other) :
    quality.weighted ≤ other.weighted := by
  obtain ⟨_, _, _, _⟩ := parts
  rw [weighted, weighted]
  linarith

/-- All parts of a score lie between zero and one. -/
theorem partsInUnit_ofIssues (errors warnings : List Issue) :
    (ofIssues errors warnings).PartsInUnit where
  structural := lessPenalty_mem_Icc (severityPenalty_nonneg errors)
  component := lessPenalty_mem_Icc (mul_ofRatio_nonneg _ 1 5)
  designSystem := lessPenalty_mem_Icc (mul_ofRatio_nonneg _ 3 20)
  usability := lessPenalty_mem_Icc (mul_ofRatio_nonneg _ 1 10)

/-- With more issues no part of a score is greater. -/
theorem partsAtMost_ofIssues (more : errors.Subperm moreErrors)
    (louder : warnings.Subperm moreWarnings) :
    (ofIssues moreErrors moreWarnings).PartsAtMost (ofIssues errors warnings) where
  structural := lessPenalty_le_lessPenalty (severityPenalty_le more)
  component := lessPenalty_le_lessPenalty (componentPenalty_le more)
  designSystem := lessPenalty_le_lessPenalty (variantPenalty_le more)
  usability := lessPenalty_le_lessPenalty (warningPenalty_le louder)

/-- Nothing has to be cut off from the weighted parts. -/
theorem overallScore_ofIssues (errors warnings : List Issue) :
    (ofIssues errors warnings).overallScore = (ofIssues errors warnings : Quality Rat).weighted := by
  have clamped : (ofIssues errors warnings).overallScore =
      clampUnit (ofIssues errors warnings : Quality Rat).weighted := by
    simp only [ofIssues, weighted, ofRatio_eq, Nat.cast_ofNat, Nat.cast_one]
  rw [clamped, clampUnit_of_mem_Icc (partsInUnit_ofIssues errors warnings).weighted_mem_Icc]

/-- With more issues the score is not greater. -/
theorem overallScore_le (more : errors.Subperm moreErrors)
    (louder : warnings.Subperm moreWarnings) :
    (ofIssues moreErrors moreWarnings : Quality Rat).overallScore ≤
      (ofIssues errors warnings).overallScore := by
  rw [overallScore_ofIssues, overallScore_ofIssues]
  exact (partsAtMost_ofIssues more louder).weighted_le

end Scores

end Quality

/-- Every pass that these settings ask for is asked for by the other ones. -/
structure ReviewConfig.PassesWithin {α : Type} (config other : ReviewConfig α) : Prop where
  structural : config.checkStructure = true → other.checkStructure = true
  components : config.checkComponents = true → other.checkComponents = true
  designSystem : config.checkDesignSystem = true → other.checkDesignSystem = true

/-- What each pass finds in a layout, whatever the design system is. -/
structure PassFindings where
  structural : List Finding
  components : List Finding
  designSystem : List Finding

namespace PassFindings

variable {α : Type}

/-- What the passes find that the settings ask for. -/
def chosen (found : PassFindings) (config : ReviewConfig α) : List Finding :=
  (if config.checkStructure then found.structural else []) ++
    ((if config.checkComponents then found.components else []) ++
      if config.checkDesignSystem then found.designSystem else [])

def ofLayout (registry : Option Registry) (layout : Json) : PassFindings where
  structural := Structure.check layout
  components := References.check registry layout
  designSystem := registry.elim [] fun known => Variants.check known layout

theorem chosen_ofLayout (config : ReviewConfig α) (registry : Option Registry) (layout : Json) :
    (ofLayout registry layout).chosen config = reviewFindings config registry layout := rfl

theorem sublist_ite {enabled more : Bool} (within : enabled = true → more = true)
    (findings : List Finding) :
    (if enabled then findings else []).Sublist (if more then findings else []) := by
  cases enabled with
  | false => exact List.nil_sublist _
  | true => rw [within rfl]

/-- More passes find no less. -/
theorem chosen_sublist (found : PassFindings) {config other : ReviewConfig α}
    (within : config.PassesWithin other) : (found.chosen config).Sublist (found.chosen other) :=
  (sublist_ite within.structural _).append
    ((sublist_ite within.components _).append (sublist_ite within.designSystem _))

end PassFindings

namespace Review

/-- The review reports all that the other one reports, and its verdict is not better. -/
structure NoBetter (review other : Review Rat) : Prop where
  errors : other.errors.Sublist review.errors
  warnings : other.warnings.Sublist review.warnings
  score : review.score ≤ other.score
  isValid : review.isValid = true → other.isValid = true

theorem NoBetter.refl (review : Review Rat) : review.NoBetter review :=
  ⟨.refl _, .refl _, le_refl _, id⟩

/-- A review with more findings is no better. -/
theorem noBetter_ofFindings {findings others : List Finding} (more : findings.Sublist others)
    (threshold : Rat) : (ofFindings threshold others).NoBetter (ofFindings threshold findings) := by
  have errors := more.filterMap Finding.error?
  have warnings := more.filterMap Finding.warning?
  have score := Quality.overallScore_le errors.subperm warnings.subperm
  refine ⟨errors, warnings, score, fun valid => ?_⟩
  simp only [ofFindings, Bool.and_eq_true, Bool.not_eq_true', decide_eq_true_eq, List.any_eq_false]
    at valid ⊢
  exact ⟨fun issue member => valid.1 issue (errors.subset member), le_trans valid.2 score⟩

/-- Scores lie between zero and one, and more issues or more passes never raise one. -/
theorem scores_fall_with_issues :
    (∀ errors warnings : List Issue, (Quality.ofIssues errors warnings).PartsInUnit ∧
      (Quality.ofIssues errors warnings).overallScore ∈ Set.Icc (0 : Rat) 1) ∧
    (∀ errors moreErrors warnings moreWarnings : List Issue,
      errors.Subperm moreErrors → warnings.Subperm moreWarnings →
        (Quality.ofIssues moreErrors moreWarnings).PartsAtMost (Quality.ofIssues errors warnings) ∧
        (Quality.ofIssues moreErrors moreWarnings : Quality Rat).overallScore ≤
          (Quality.ofIssues errors warnings).overallScore) ∧
    ∀ config other : ReviewConfig Rat, config.PassesWithin other →
      other.qualityThreshold = config.qualityThreshold →
        (∀ registry text, (ofText other registry text).NoBetter (ofText config registry text)) ∧
        ∀ found : PassFindings,
          (ofFindings other.qualityThreshold (found.chosen other)).NoBetter
            (ofFindings config.qualityThreshold (found.chosen config)) := by
  refine ⟨fun errors warnings => ?_, fun errors moreErrors warnings moreWarnings more louder => ?_,
    fun config other within sameThreshold => ?_⟩
  · have parts := Quality.partsInUnit_ofIssues errors warnings
    rw [Quality.overallScore_ofIssues]
    exact ⟨parts, parts.weighted_mem_Icc⟩
  · exact ⟨Quality.partsAtMost_ofIssues more louder, Quality.overallScore_le more louder⟩
  · have compared (found : PassFindings) :
        (ofFindings other.qualityThreshold (found.chosen other)).NoBetter
          (ofFindings config.qualityThreshold (found.chosen config)) := by
      rw [sameThreshold]
      exact noBetter_ofFindings (found.chosen_sublist within) _
    refine ⟨fun registry text => ?_, compared⟩
    rw [ofText, ofText]
    cases Json.parse text with
    | none => exact .refl _
    | some layout =>
        have here := compared (.ofLayout registry layout)
        rw [PassFindings.chosen_ofLayout, PassFindings.chosen_ofLayout] at here
        exact here

/-- Without a design system, the pass over the components adds a warning to a clean layout. -/
theorem missing_scan_lowers_score :
    (ofText .standard none "\x7b\"items\":[]\x7d").NoBetter
        (ofText structureOnly none "\x7b\"items\":[]\x7d") ∧
      (ofText (structureOnly : ReviewConfig Rat) none "\x7b\"items\":[]\x7d").score = 1 ∧
      (ofText (.standard : ReviewConfig Rat) none "\x7b\"items\":[]\x7d").score = 99 / 100 ∧
      (Quality.ofIssues [] [⟨"A", "", "", .low, false, none⟩] : Quality Rat).overallScore ≤
        (Quality.ofIssues [] []).overallScore := by
  obtain ⟨-, fall, passes⟩ := scores_fall_with_issues
  have within : (structureOnly : ReviewConfig Rat).PassesWithin .standard :=
    ⟨fun _ => rfl, nofun, nofun⟩
  have parsed : Json.parse "\x7b\"items\":[]\x7d" = some (.object [("items", .array [])]) := by
    simp only [Json.parse, Json.readText, String.reduceToList]
    rfl
  refine ⟨(passes _ _ within rfl).1 none _, ?_, ?_, (fall [] [] [] _ (.refl _) List.nil_subperm).2⟩
  · rw [ofText, parsed]
    decide +kernel
  · rw [ofText, parsed]
    decide +kernel

end Review

end DesignScene
