/-
This file holds what a child asks of the layout of its parent.
-/
import DesignScene.Layout.Basic

namespace DesignScene

/-- What was authored, before the direction of the parent is known. -/
structure LayoutDirective (α : Type) where
  horizontalSizing : Option HorizontalSizing := none
  layoutAlign : Option LayoutAlign := none
  layoutGrow : Option α := none
  constraints : SizeConstraints α := {}

/-- What a directive means under a given parent. -/
structure ChildLayout (α : Type) where
  layoutAlign : LayoutAlign
  layoutGrow : α
  /-- Both directions hug the content. -/
  hugContents : Bool
  /-- The parent decides the width. -/
  fillsWidth : Bool

def SizeConstraints.isEmpty {α : Type} (constraints : SizeConstraints α) : Bool :=
  constraints.minWidth.isNone && constraints.maxWidth.isNone &&
    constraints.minHeight.isNone && constraints.maxHeight.isNone

/-- The bounds of the first constraints, and those of the second where the first has none. -/
def SizeConstraints.orElse {α : Type} (first second : SizeConstraints α) : SizeConstraints α where
  minWidth := first.minWidth.or second.minWidth
  maxWidth := first.maxWidth.or second.maxWidth
  minHeight := first.minHeight.or second.minHeight
  maxHeight := first.maxHeight.or second.maxHeight

namespace LayoutDirective

variable {α : Type}

def isEmpty (directive : LayoutDirective α) : Bool :=
  directive.horizontalSizing.isNone && directive.layoutAlign.isNone &&
    directive.layoutGrow.isNone && directive.constraints.isEmpty

def orElse (first second : LayoutDirective α) : LayoutDirective α where
  horizontalSizing := first.horizontalSizing.or second.horizontalSizing
  layoutAlign := first.layoutAlign.or second.layoutAlign
  layoutGrow := first.layoutGrow.or second.layoutGrow
  constraints := first.constraints.orElse second.constraints

variable [Scalar α]

def ofFields (fields : Dict Json) : LayoutDirective α where
  horizontalSizing :=
    (textField ["horizontalSizing", "layoutSizingHorizontal"] fields).bind HorizontalSizing.ofText
  layoutAlign := (textField ["layoutAlign"] fields).bind LayoutAlign.ofText
  layoutGrow := sizeField ["layoutGrow"] fields
  constraints :=
    { minWidth := sizeField ["minWidth"] fields
      maxWidth := sizeField ["maxWidth"] fields
      minHeight := sizeField ["minHeight"] fields
      maxHeight := sizeField ["maxHeight"] fields }

/-- A filling child under an auto layout has its width decided by the parent. -/
def fillsUnder (directive : LayoutDirective α) (parent : LayoutMode) : Bool :=
  directive.horizontalSizing == some .fill && parent.isAutoLayout

def hugs (directive : LayoutDirective α) : Bool :=
  directive.horizontalSizing == some .hug || directive.horizontalSizing == some .auto

/-- A filling child grows in a row and stretches in a row or a column; explicit values win. -/
def forParent (directive : LayoutDirective α) (parent : LayoutMode) : ChildLayout α :=
  let fills := directive.fillsUnder parent
  { layoutAlign := directive.layoutAlign.getD (if fills then .stretch else .inherit)
    layoutGrow :=
      directive.layoutGrow.getD (Scalar.ofNat (if fills && parent == .horizontal then 1 else 0))
    hugContents := directive.hugs
    fillsWidth := fills }

end LayoutDirective

def ChildLayout.plain {α : Type} [Scalar α] : ChildLayout α :=
  ⟨.inherit, Scalar.ofNat 0, false, false⟩

end DesignScene
