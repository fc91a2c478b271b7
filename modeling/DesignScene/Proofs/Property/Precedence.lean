/-
This file says which of several properties that bind one text slot comes last.
-/
import DesignScene.Proofs.Matching.TextSlots
import DesignScene.Proofs.Property.Conservation
import DesignScene.Scalar.Exact

namespace DesignScene

/-- The key is the name of a text slot, up to case and separators. -/
def NamesTextSlot (schema : ComponentSchema) (key : String) : Prop :=
  ∃ slot ∈ schema.textSlots, Text.normalizeKey slot.name = Text.normalizeKey key

instance (schema : ComponentSchema) (key : String) : Decidable (NamesTextSlot schema key) :=
  inferInstanceAs (Decidable (∃ slot ∈ schema.textSlots, _))

section Strategies

variable {α : Type} {schema : ComponentSchema} {key : String} {value : Json}
  {assignment : TextAssignment}

/-- No slot has the very name of a key exactly if the key names none. -/
theorem findExact_eq_none_iff :
    findExact TextSlot.name key schema.textSlots = none ↔ ¬NamesTextSlot schema key := by
  simp [findExact, NamesTextSlot, List.findIdx?_eq_none_iff]

/-- A search by name gives a slot for exactly the keys that name one. -/
theorem exactSlot?_eq_none_iff :
    exactSlot? TextSlot.name key schema.textSlots = none ↔ ¬NamesTextSlot schema key := by
  rw [← findExact_eq_none_iff, exactSlot?]
  cases found : findExact TextSlot.name key schema.textSlots with
  | none => simp
  | some index =>
      obtain ⟨inside, -⟩ := List.findIdx?_eq_some_iff_findIdx_eq.mp found
      simp [List.getElem?_eq_getElem inside]

/-- An assignment tells the strategy that it was bound by. -/
theorem strategy_of_bindText {slots : List TextSlot} {slot : TextSlot} {strategy : MatchStrategy}
    (bound : (bindText (α := α) slots slot strategy key value).text? = some assignment) :
    assignment.strategy = strategy := by
  rw [bindText] at bound
  split at bound <;> cases bound <;> rfl

theorem text?_bindMedia (slot : MediaSlot) (strategy : MatchStrategy) :
    (bindMedia (α := α) slot strategy key value).text? = none := by
  rw [bindMedia]
  split <;> rfl

/-- The exact strategy is taken for exactly the keys that name a slot. -/
theorem strategy_of_resolveContent
    (bound : (resolveContent (α := α) schema key value).text? = some assignment) :
    assignment.strategy = .exact ↔ NamesTextSlot schema key := by
  rw [resolveContent] at bound
  split at bound
  · next slot found =>
      have named : NamesTextSlot schema key := by
        by_contra unnamed
        rw [exactSlot?_eq_none_iff.mpr unnamed] at found
        cases found
      exact iff_of_true (strategy_of_bindText bound) named
  · next missing =>
      have unnamed : ¬NamesTextSlot schema key := exactSlot?_eq_none_iff.mp missing
      refine iff_of_false ?_ unnamed
      split at bound
      · rw [text?_bindMedia] at bound
        cases bound
      · split_ifs at bound
        · split at bound
          · rw [text?_bindMedia] at bound
            cases bound
          · cases bound
        · split at bound
          · next slot strategy found =>
              obtain ⟨place, matched, slotFound⟩ := Option.bind_eq_some_iff.mp found
              obtain ⟨_, -, same⟩ := Option.map_eq_some_iff.mp slotFound
              cases same
              rw [strategy_of_bindText bound]
              exact TextSlots.strategy_of_firstMatch (findExact_eq_none_iff.mpr unnamed) matched
          · cases bound

/-- An assignment is exact exactly if its key is the name of a slot. -/
theorem strategy_of_resolveProperty [Scalar α]
    (bound : (resolveProperty (α := α) (some schema) key value).text? = some assignment) :
    assignment.strategy = .exact ↔ NamesTextSlot schema key := by
  rw [resolveProperty] at bound
  split at bound
  · rw [applyLayoutKey] at bound
    split at bound <;> cases bound
  · split at bound
    · cases bound
    · split_ifs at bound
      · cases bound
      · exact strategy_of_resolveContent bound

end Strategies

namespace ResolvedProperties

variable {α : Type} [Scalar α]

/-- The assignments that bind a slot, in the order in which they are applied. -/
def bindersOf (resolved : ResolvedProperties α) (slot : SlotRef) : List TextAssignment :=
  resolved.textProperties.filter fun assignment =>
    assignment.bindings.any fun binding => binding.slot = slot

/-- The assignments stand in the order of their keys. -/
theorem pairwise_textProperties (schema : Option ComponentSchema) (bag : PropertyBag) :
    (ofBag (α := α) schema bag).textProperties.Pairwise fun first second =>
      first.property < second.property :=
  pairwise_filterMap_outcomesOf schema bag fun contributes text =>
    contributes.property_of_text? text

theorem strategy_of_mem_textProperties {schema : ComponentSchema} {bag : PropertyBag}
    {assignment : TextAssignment}
    (member : assignment ∈ (ofBag (α := α) (some schema) bag).textProperties) :
    assignment.strategy = .exact ↔ NamesTextSlot schema assignment.property := by
  obtain ⟨outcome, resolved, bound⟩ := List.mem_filterMap.mp member
  obtain ⟨property, -, rfl⟩ := List.mem_map.mp resolved
  rw [(PropertyOutcome.contributes_resolveProperty ..).property_of_text? bound]
  exact strategy_of_resolveProperty bound

section Binders

variable {schema : ComponentSchema} {bag : PropertyBag} {slot : SlotRef}
  {assignment last : TextAssignment}

/-- So do those of one slot. -/
theorem pairwise_bindersOf (schema : Option ComponentSchema) (bag : PropertyBag) (slot : SlotRef) :
    ((ofBag (α := α) schema bag).bindersOf slot).Pairwise fun first second =>
      first.property < second.property :=
  (pairwise_textProperties schema bag).filter _

theorem strategy_of_mem_bindersOf
    (member : assignment ∈ (ofBag (α := α) (some schema) bag).bindersOf slot) :
    assignment.strategy = .exact ↔ NamesTextSlot schema assignment.property :=
  strategy_of_mem_textProperties (List.mem_filter.mp member).1

/-- No key comes after that of the last assignment. -/
theorem eq_or_lt_of_getLast?
    (found : ((ofBag (α := α) (some schema) bag).bindersOf slot).getLast? = some last)
    (member : assignment ∈ (ofBag (α := α) (some schema) bag).bindersOf slot) :
    assignment = last ∨ assignment.property < last.property :=
  Dict.eq_or_rel_of_getLast? (pairwise_bindersOf (some schema) bag slot) found member

end Binders

/-- The last assignment to a slot is exact unless a key that names no slot comes after those that do. -/
theorem last_binder_exact_iff {schema : ComponentSchema} {bag : PropertyBag} {slot : SlotRef}
    (named : ∃ assignment ∈ (ofBag (α := α) (some schema) bag).bindersOf slot,
      assignment.strategy = .exact) :
    (∃ last, ((ofBag (α := α) (some schema) bag).bindersOf slot).getLast? = some last ∧
        last.strategy = .exact) ↔
      ∀ other ∈ (ofBag (α := α) (some schema) bag).bindersOf slot,
        ¬NamesTextSlot schema other.property →
          ∃ assignment ∈ (ofBag (α := α) (some schema) bag).bindersOf slot,
            NamesTextSlot schema assignment.property ∧ other.property < assignment.property := by
  constructor
  · rintro ⟨last, found, exact⟩ other member unnamed
    have placed := List.mem_of_getLast? found
    have lastNamed := (strategy_of_mem_bindersOf placed).mp exact
    rcases eq_or_lt_of_getLast? found member with rfl | before
    · exact absurd lastNamed unnamed
    · exact ⟨last, placed, lastNamed, before⟩
  · intro outdone
    obtain ⟨first, present, -⟩ := named
    obtain ⟨last, found⟩ := Dict.exists_getLast?_of_mem present
    have placed := List.mem_of_getLast? found
    refine ⟨last, found, (strategy_of_mem_bindersOf placed).mpr ?_⟩
    by_contra unnamed
    obtain ⟨assignment, member, -, after⟩ := outdone last placed unnamed
    rcases eq_or_lt_of_getLast? found member with rfl | before
    · exact String.lt_irrefl _ after
    · exact String.lt_asymm after before

/-- A component with one slot for a headline. -/
def headlineSchema : ComponentSchema where
  componentId := "20:1"
  textSlots := [⟨"Headline", "10:2", .primary, none, .scalar⟩]

/-- The slot for the headline. -/
def headlineRef : SlotRef := ⟨"Headline", "10:2"⟩

/-- The key `Content` comes before the name of the slot. -/
theorem last_binder_exact_after_content :
    ∃ last, ((ofBag (α := Rat) (some headlineSchema)
        [("Content", .string "Old"), ("Headline", .string "New")]).bindersOf headlineRef).getLast? =
          some last ∧ last.strategy = .exact := by
  let binders := (ofBag (α := Rat) (some headlineSchema)
    [("Content", .string "Old"), ("Headline", .string "New")]).bindersOf headlineRef
  have both : binders =
      [⟨"Content", .semantic, [⟨headlineRef, .single "Old", none⟩], []⟩,
        ⟨"Headline", .exact, [⟨headlineRef, .single "New", none⟩], []⟩] := by
    decide
  have named : ∃ assignment ∈ binders, assignment.strategy = .exact := by
    rw [both]
    decide
  have outdone : ∀ other ∈ binders, ¬NamesTextSlot headlineSchema other.property →
      ∃ assignment ∈ binders, NamesTextSlot headlineSchema assignment.property ∧
        other.property < assignment.property := by
    rw [both]
    decide
  exact (last_binder_exact_iff named).mpr outdone

/-- The key `title` comes after the name of the slot, and its text is the one that is left. -/
theorem title_after_headline :
    ¬∀ (schema : ComponentSchema) (bag : PropertyBag) (slot : SlotRef),
      (∃ assignment ∈ (ofBag (α := Rat) (some schema) bag).bindersOf slot,
        assignment.strategy = .exact) →
      ∃ last, ((ofBag (α := Rat) (some schema) bag).bindersOf slot).getLast? = some last ∧
        last.strategy = .exact := by
  intro every
  have both : (ofBag (α := Rat) (some headlineSchema)
      [("Headline", .string "New"), ("title", .string "Old")]).bindersOf headlineRef =
      [⟨"Headline", .exact, [⟨headlineRef, .single "New", none⟩], []⟩,
        ⟨"title", .semantic, [⟨headlineRef, .single "Old", none⟩], []⟩] := by
    decide
  have final := every headlineSchema _ headlineRef
    ⟨_, both ▸ List.mem_cons_self, rfl⟩
  rw [both] at final
  revert final
  decide

end ResolvedProperties

end DesignScene
