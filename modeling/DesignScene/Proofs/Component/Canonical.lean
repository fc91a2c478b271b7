/-
This file shows that the canonical text of a schema is read as this schema.
-/
import DesignScene.Component.Snapshot
import DesignScene.Proofs.Json.Decoders
import DesignScene.Proofs.Json.Readback

namespace DesignScene

open Json

section Slots

/-- The greatest count of items fits 64 bits. -/
def TextSlot.IsStorable (slot : TextSlot) : Prop := ∀ count ∈ slot.maxItems, count < UInt64.size

variable {json : Json}

/-- A text slot is read exactly if each of its fields is. -/
theorem TextSlot.ofJson_eq_some_iff {slot : TextSlot} :
    ofJson json = some slot ↔ ∃ name nodeId classification maxItems dataType,
      recordFields ["name", "nodeId", "classification", "maxItems", "dataType"] json =
        some [name, nodeId, classification, maxItems, dataType] ∧
      required asString? name = some slot.name ∧
      required asString? nodeId = some slot.nodeId ∧
      required (toNamed? TextClassification.ofName) classification = some slot.classification ∧
      optional toWord64? maxItems = some slot.maxItems ∧
      withDefault .scalar (toNamed? SlotDataType.ofName) dataType = some slot.dataType := by
  unfold ofJson
  simp only [Option.bind_eq_bind, Option.bind_eq_some_iff]
  constructor
  · rintro ⟨slots, fields, read⟩
    split at read
    · simp only [Option.bind_eq_some_iff, Option.some.injEq] at read
      obtain ⟨name, named, nodeId, known, rank, ranked, count, counted, type, typed, rfl⟩ := read
      exact ⟨_, _, _, _, _, fields, named, known, ranked, counted, typed⟩
    · cases read
  · rintro ⟨name, nodeId, rank, count, type, fields, named, known, ranked, counted, typed⟩
    exact ⟨_, fields, by simp [named, known, ranked, counted, typed]⟩

/-- A media slot is read exactly if each of its fields is. -/
theorem MediaSlot.ofJson_eq_some_iff {slot : MediaSlot} :
    ofJson json = some slot ↔ ∃ name nodeId kind,
      recordFields ["name", "nodeId", "kind"] json = some [name, nodeId, kind] ∧
      required asString? name = some slot.name ∧
      required asString? nodeId = some slot.nodeId ∧
      required (toNamed? MediaKind.ofName) kind = some slot.kind := by
  unfold ofJson
  simp only [Option.bind_eq_bind, Option.bind_eq_some_iff]
  constructor
  · rintro ⟨slots, fields, read⟩
    split at read
    · simp only [Option.bind_eq_some_iff, Option.some.injEq] at read
      obtain ⟨name, named, nodeId, known, kind, kinded, rfl⟩ := read
      exact ⟨_, _, _, fields, named, known, kinded⟩
    · cases read
  · rintro ⟨name, nodeId, kind, fields, named, known, kinded⟩
    exact ⟨_, fields, by simp [named, known, kinded]⟩

/-- A text slot is read from the normalized value as from the one that was written. -/
theorem TextSlot.readsSorted : ReadsSorted TextSlot.ofJson := by
  intro json slot read
  obtain ⟨name, nodeId, rank, count, type, fields, named, known, ranked, counted, typed⟩ :=
    ofJson_eq_some_iff.mp read
  exact ofJson_eq_some_iff.mpr ⟨_, _, _, _, _, recordFields_normalize fields,
    required_normalize readsSorted_asString? named, required_normalize readsSorted_asString? known,
    required_normalize (readsSorted_toNamed? _) ranked,
    optional_normalize (readsSorted_toNat? _) counted,
    withDefault_normalize (readsSorted_toNamed? _) typed⟩

theorem MediaSlot.readsSorted : ReadsSorted MediaSlot.ofJson := by
  intro json slot read
  obtain ⟨name, nodeId, kind, fields, named, known, kinded⟩ := ofJson_eq_some_iff.mp read
  exact ofJson_eq_some_iff.mpr ⟨_, _, _, recordFields_normalize fields,
    required_normalize readsSorted_asString? named, required_normalize readsSorted_asString? known,
    required_normalize (readsSorted_toNamed? _) kinded⟩

/-- The counts of a text slot that is read fit a word. -/
theorem TextSlot.isStorable_of_ofJson {slot : TextSlot} (read : ofJson json = some slot) :
    slot.IsStorable := by
  obtain ⟨-, -, -, count, -, -, -, -, -, counted, -⟩ := ofJson_eq_some_iff.mp read
  exact lt_of_optional counted

/-- The written names are among the names that are read. -/
theorem TextClassification.ofName_name (rank : TextClassification) :
    ofName rank.name = some rank := by
  cases rank <;> rfl

/-- A data type is read from its name. -/
theorem SlotDataType.ofName_name (type : SlotDataType) : ofName type.name = some type := by
  cases type <;> rfl

/-- A kind of media is read from its name. -/
theorem MediaKind.ofName_name (kind : MediaKind) : ofName kind.name = some kind := by
  cases kind <;> rfl

/-- A storable text slot is read back. -/
theorem TextSlot.ofJson_toJson {slot : TextSlot} (storable : slot.IsStorable) :
    ofJson slot.toJson = some slot := by
  have fields : recordFields ["name", "nodeId", "classification", "maxItems", "dataType"]
      slot.toJson = some [some (.string slot.name), some (.string slot.nodeId),
        some (.string slot.classification.name), slot.maxItems.map ofNat,
        some (.string slot.dataType.name)] := by
    rw [toJson]
    cases slot.maxItems <;> rfl
  exact ofJson_eq_some_iff.mpr ⟨_, _, _, _, _, fields, rfl, rfl,
    TextClassification.ofName_name _, optional_ofNat storable, SlotDataType.ofName_name _⟩

/-- A media slot is read back. -/
theorem MediaSlot.ofJson_toJson (slot : MediaSlot) : ofJson slot.toJson = some slot :=
  ofJson_eq_some_iff.mpr ⟨_, _, _, rfl, rfl, rfl, MediaKind.ofName_name _⟩

theorem TextSlot.isPlain_toJson {slot : TextSlot} (storable : slot.IsStorable) :
    IsPlain 1 slot.toJson := by
  refine .object
    (List.forall_mem_append.mpr ⟨List.forall_mem_append.mpr ⟨?fixed, ?counted⟩, ?type⟩)
  case fixed => simp [IsPlain.string]
  case counted =>
    exact isPlain_of_mem_toList fun count found => isPlain_ofNat (storable count found)
  case type => simp [IsPlain.string]

theorem MediaSlot.isPlain_toJson (slot : MediaSlot) : IsPlain 1 slot.toJson := by
  refine .object ?_
  simp [IsPlain.string]

end Slots

namespace ComponentSchema

/-- The dimensions are a sorted map, and the numbers fit 64 bits. -/
structure IsStorable (schema : ComponentSchema) : Prop where
  sorted : schema.variantDimensions.Sorted
  counts : ∀ slot ∈ schema.textSlots, slot.IsStorable
  time : ∀ second ∈ schema.scannedAt, second < UInt64.size

variable {json : Json} {schema : ComponentSchema}

/-- A schema is read exactly if each of its fields is. -/
theorem ofJson_eq_some_iff :
    ofJson json = some schema ↔
      ∃ componentId name componentType variantDimensions textSlots mediaSlots scannedAt,
        recordFields fieldNames json = some [componentId, name, componentType, variantDimensions,
          textSlots, mediaSlots, scannedAt] ∧
        required asString? componentId = some schema.componentId ∧
        withDefault "" asString? name = some schema.name ∧
        optional asString? componentType = some schema.componentType ∧
        withDefault [] (toDict? (toList? asString?)) variantDimensions =
          some schema.variantDimensions ∧
        withDefault [] (toList? TextSlot.ofJson) textSlots = some schema.textSlots ∧
        withDefault [] (toList? MediaSlot.ofJson) mediaSlots = some schema.mediaSlots ∧
        optional toWord64? scannedAt = some schema.scannedAt := by
  unfold ofJson
  simp only [Option.bind_eq_bind, Option.bind_eq_some_iff]
  constructor
  · rintro ⟨slots, fields, read⟩
    split at read
    · simp only [Option.bind_eq_some_iff, Option.some.injEq] at read
      obtain ⟨id, known, name, named, type, typed, dimensions, sized, texts, lettered, media,
        pictured, time, timed, rfl⟩ := read
      exact ⟨_, _, _, _, _, _, _, fields, known, named, typed, sized, lettered, pictured, timed⟩
    · cases read
  · rintro ⟨id, name, type, dimensions, texts, media, time, fields, known, named, typed, sized,
      lettered, pictured, timed⟩
    exact ⟨_, fields, by simp [known, named, typed, sized, lettered, pictured, timed]⟩

/-- A schema is read from the normalized value as from the one that was written. -/
theorem readsSorted : ReadsSorted ofJson := by
  intro json schema read
  obtain ⟨id, name, type, dimensions, texts, media, time, fields, known, named, typed, sized,
    lettered, pictured, timed⟩ := ofJson_eq_some_iff.mp read
  exact ofJson_eq_some_iff.mpr ⟨_, _, _, _, _, _, _, recordFields_normalize fields,
    required_normalize readsSorted_asString? known,
    withDefault_normalize readsSorted_asString? named,
    optional_normalize readsSorted_asString? typed,
    withDefault_normalize (readsSorted_toDict? (readsSorted_toList? readsSorted_asString?)) sized,
    withDefault_normalize (readsSorted_toList? TextSlot.readsSorted) lettered,
    withDefault_normalize (readsSorted_toList? MediaSlot.readsSorted) pictured,
    optional_normalize (readsSorted_toNat? _) timed⟩

/-- What is read of a schema keeps the ranges of the fields. -/
theorem isStorable_of_ofJson (read : ofJson json = some schema) : schema.IsStorable := by
  obtain ⟨id, name, type, dimensions, texts, media, time, fields, known, named, typed, sized,
    lettered, pictured, timed⟩ := ofJson_eq_some_iff.mp read
  refine ⟨sorted_of_withDefault sized, fun slot member => ?_, lt_of_optional timed⟩
  obtain ⟨element, found⟩ := exists_of_mem_withDefault lettered member
  exact TextSlot.isStorable_of_ofJson found

/-- A storable schema is read back from its value. -/
theorem ofJson_toJson (storable : schema.IsStorable) : ofJson schema.toJson = some schema := by
  have fields : recordFields fieldNames schema.toJson = some [some (.string schema.componentId),
      some (.string schema.name), schema.componentType.map .string,
      some (ofDict (ofList .string) schema.variantDimensions),
      some (ofList TextSlot.toJson schema.textSlots),
      some (ofList MediaSlot.toJson schema.mediaSlots), schema.scannedAt.map ofNat] := by
    rw [toJson]
    cases schema.componentType <;> cases schema.scannedAt <;> rfl
  have typed : optional asString? (schema.componentType.map .string) =
      some schema.componentType := by
    cases schema.componentType <;> rfl
  exact ofJson_eq_some_iff.mpr ⟨_, _, _, _, _, _, _, fields, rfl, rfl, typed,
    toDict?_ofDict storable.sorted fun _ _ => toList?_ofList fun _ _ => rfl,
    toList?_ofList fun slot member => TextSlot.ofJson_toJson (storable.counts slot member),
    toList?_ofList fun slot _ => slot.ofJson_toJson, optional_ofNat storable.time⟩

/-- A storable schema is written with integers that fit, three levels deep. -/
theorem isPlain_toJson (storable : schema.IsStorable) : IsPlain 3 schema.toJson := by
  refine .object (List.forall_mem_append.mpr ⟨List.forall_mem_append.mpr
    ⟨List.forall_mem_append.mpr ⟨?named, ?typed⟩, ?lists⟩, ?timed⟩)
  case named => simp [IsPlain.string]
  case typed => exact isPlain_of_mem_toList fun text _ => .string text
  case lists =>
    refine List.forall_mem_cons.mpr ⟨?_,
      List.forall_mem_cons.mpr ⟨?_, List.forall_mem_singleton.mpr ?_⟩⟩
    · exact isPlain_ofDict fun _ _ => isPlain_ofList fun text _ => .string text
    · exact isPlain_ofList fun slot member => TextSlot.isPlain_toJson (storable.counts slot member)
    · exact isPlain_ofList fun slot _ => slot.isPlain_toJson
  case timed =>
    exact isPlain_of_mem_toList fun second found => isPlain_ofNat (storable.time second found)

/-- The schema that stands alone in a text. -/
def ofText (text : String) : Option ComponentSchema := (parseWritten text).bind ofJson

/-- A storable schema is read back from the text that is hashed. -/
theorem ofText_canonicalText (storable : schema.IsStorable) :
    ofText schema.canonicalText = some schema := by
  rw [ofText, canonicalText, parseWritten_toText (isPlain_toJson storable), Option.bind_some,
    ofJson_toJson storable]

/-- The fields of a canonical text may also be sorted before they are read. -/
theorem readSnapshot_canonicalText (storable : schema.IsStorable) :
    readSnapshot schema.canonicalText = some [schema] := by
  have plain : IsPlain depthLimit schema.toJson := (isPlain_toJson storable).mono (by decide)
  have read := readsSorted _ _ (ofJson_toJson storable)
  rw [readSnapshot, canonicalText, parse_toText plain]
  rw [toJson, Json.normalize] at read ⊢
  dsimp only
  rw [read, Option.map_some]

/-- Every schema that is read from a text is storable. -/
theorem isStorable_of_ofText {text : String} (read : ofText text = some schema) :
    schema.IsStorable := by
  obtain ⟨json, -, found⟩ := Option.bind_eq_some_iff.mp read
  exact isStorable_of_ofJson found

/-- So is every schema of a snapshot. -/
theorem isStorable_of_readSnapshot {text : String} {schemas : List ComponentSchema}
    (read : readSnapshot text = some schemas) (member : schema ∈ schemas) : schema.IsStorable := by
  unfold readSnapshot at read
  split at read
  · obtain ⟨json, found⟩ := exists_of_mem_mapM read member
    exact isStorable_of_ofJson found
  · obtain ⟨single, found, rfl⟩ := Option.map_eq_some_iff.mp read
    cases List.mem_singleton.mp member
    exact isStorable_of_ofJson found
  · cases read

/-- A canonical text stands for one schema. -/
theorem canonicalText_inj {other : ComponentSchema} (storable : schema.IsStorable)
    (otherStorable : other.IsStorable) :
    schema.canonicalText = other.canonicalText ↔ schema = other := by
  refine ⟨fun same => ?_, congrArg canonicalText⟩
  have read := ofText_canonicalText storable
  rw [same, ofText_canonicalText otherStorable] at read
  exact (Option.some.inj read).symm

/-- The schema of a text is read and written again. -/
def rewriteText (text : String) : Option String := (ofText text).map canonicalText

/-- The text that is hashed is read as the schema it stands for, so equal texts come from equal schemas. -/
theorem canonicalText_faithful :
    (∀ schema : ComponentSchema, schema.IsStorable →
      ofText schema.canonicalText = some schema ∧
        readSnapshot schema.canonicalText = some [schema]) ∧
    (∀ schema other : ComponentSchema, schema.IsStorable → other.IsStorable →
      (schema.canonicalText = other.canonicalText ↔ schema = other)) ∧
    (∀ text schema, ofText text = some schema → schema.IsStorable) ∧
    (∀ text schemas, readSnapshot text = some schemas → ∀ schema ∈ schemas, schema.IsStorable) ∧
    ∀ text once, rewriteText text = some once → rewriteText once = some once := by
  refine ⟨fun schema storable => ⟨ofText_canonicalText storable,
    readSnapshot_canonicalText storable⟩, fun schema other => canonicalText_inj,
    fun text schema => isStorable_of_ofText, fun text schemas read schema =>
      isStorable_of_readSnapshot read, fun text once rewritten => ?_⟩
  obtain ⟨schema, read, rfl⟩ := Option.map_eq_some_iff.mp rewritten
  rw [rewriteText, ofText_canonicalText (isStorable_of_ofText read), Option.map_some]

/-- A scan that fills every field, with characters that need an escape. -/
def quotedScan : ComponentSchema where
  componentId := "10:1"
  name := "List \"Item\"\n"
  componentType := some "list-item"
  variantDimensions := [("Condition", ["1-line", "2-line"]), ("Leading", [])]
  textSlots :=
    [{ name := "Headline", nodeId := "10:2", classification := .primary },
      { name := "Rows\\", nodeId := "10:3", classification := .tertiary, maxItems := some 12,
        dataType := .array }]
  mediaSlots := [{ name := "Icon", nodeId := "10:4", kind := .componentInstance }]
  scannedAt := some 1700000000

/-- A schema with a quoted name is read back, and without its slots it has another text. -/
theorem quotedScan_read_back :
    (quotedScan.IsStorable ∧ ofText quotedScan.canonicalText = some quotedScan ∧
      readSnapshot quotedScan.canonicalText = some [quotedScan]) ∧
    quotedScan.canonicalText ≠
      ({ quotedScan with textSlots := [] } : ComponentSchema).canonicalText ∧
    rewriteText "[\"7\"]" = some ({ componentId := "7" } : ComponentSchema).canonicalText ∧
    rewriteText ({ componentId := "7" } : ComponentSchema).canonicalText =
      some ({ componentId := "7" } : ComponentSchema).canonicalText := by
  have storable : quotedScan.IsStorable := by
    have sorted : ["Condition", "Leading"].Pairwise (· < ·) := by decide
    refine ⟨sorted, ?_, ?_⟩
    · simp [quotedScan, TextSlot.IsStorable]
      decide
    · simp [quotedScan]
      decide
  have shorter : ({ quotedScan with textSlots := [] } : ComponentSchema).IsStorable :=
    ⟨storable.sorted, by simp, storable.time⟩
  have read : rewriteText "[\"7\"]" =
      some ({ componentId := "7" } : ComponentSchema).canonicalText := by
    decide +kernel
  obtain ⟨readBack, injective, -, -, stable⟩ := canonicalText_faithful
  exact ⟨⟨storable, readBack _ storable⟩,
    fun same => absurd ((injective _ _ storable shorter).mp same) (by decide), read,
    stable _ _ read⟩

end ComponentSchema

end DesignScene
