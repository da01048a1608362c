import FilterQuery.Config.FromJson
import FilterQuery.Config.FromYaml
import FilterQuery.Proofs.Results
import FilterQuery.Proofs.WrittenObjects

/-!
  FilterQuery.Proofs.WrittenTypes

  Declared types that are written as the tags that name them. A type is known from its name if
  some tag names it, which leaves out the custom types whose names a tag cannot have. Every type
  that was read from a configuration is of that kind, so field types are read again as they were.

  Main statement: `FieldType.ofTag_inverts_name`.
-/

namespace FilterQuery

/-! ## Names of types -/

/-- A text begins or ends with a blank. -/
def Text.HasBlankEnd (t : Text) : Prop :=
  (∃ c, t.head? = some c ∧ isBlank c) ∨ ∃ c, t.getLast? = some c ∧ isBlank c

theorem Text.trim_eq_self_iff_not_hasBlankEnd {t : Text} : t.trim = t ↔ ¬t.HasBlankEnd := by
  have hnone (found : Option Char) :
      (∀ c, found = some c → isBlank c = false) ↔ ¬∃ c, found = some c ∧ isBlank c := by
    rw [not_exists]
    refine forall_congr' fun c => ?_
    rw [not_and, Bool.not_eq_true]
  rw [trim_eq_self_iff, HasBlankEnd, not_or, hnone, hnone]

namespace FieldType

/-- The types that tags name. -/
def IsNamed (type : FieldType) : Prop :=
  ∃ tag, ofTag tag = type

/-- A type that a tag names is named by its own name. -/
theorem IsNamed.ofTag_name {type : FieldType} (h : IsNamed type) : ofTag type.name = type := by
  obtain ⟨tag, rfl⟩ := h
  rcases ofTag_cases tag with ⟨type, halias, htype⟩ | ⟨-, hcustom⟩
  · rw [htype, halias.ofTag_name]
  · calc ofTag (ofTag tag).name = ofTag tag.trim := by rw [hcustom, name]
      _ = ofTag tag := ofTag_trim tag

/-- The name of a custom type names it unless the tag is read as something else: trimming changes
    it, or it is a word for a built-in type. -/
theorem ofTag_eq_custom_iff {s : Text} :
    ofTag s = .custom s ↔ ¬(s.HasBlankEnd ∨ ∃ type, IsAlias s.lowerAscii type) := by
  rw [not_or, ← Text.trim_eq_self_iff_not_hasBlankEnd, not_exists]
  constructor
  · intro h
    rcases ofTag_cases s with ⟨type, halias, htype⟩ | ⟨hnone, hcustom⟩
    · exact absurd (htype.symm.trans h) (halias.ne_custom s)
    · have htrim : s.trim = s := custom.inj (hcustom.symm.trans h)
      rw [htrim] at hnone
      exact ⟨htrim, hnone⟩
  · rintro ⟨htrim, hnone⟩
    rcases ofTag_cases s with ⟨type, halias, -⟩ | ⟨-, hcustom⟩
    · rw [htrim] at halias
      exact absurd halias (hnone type)
    · rw [hcustom, htrim]

theorem ofTag_name_eq_self_iff {type : FieldType} :
    ofTag type.name = type ↔
      ¬∃ s, type = .custom s ∧ (s.HasBlankEnd ∨ ∃ builtIn, IsAlias s.lowerAscii builtIn) := by
  cases type with
  | custom s => simp [name, ofTag_eq_custom_iff]
  | _ => exact iff_of_true (by decide) nofun

end FieldType

/-! ## Types that were read -/

/-- Every field of a record keeps what is known of it. -/
def RecordField.Keep {δ ε α : Type} (P : α → Prop) (fields : List (RecordField δ ε α)) : Prop :=
  ∀ field ∈ fields, ∀ d a b, P a → field.read d a = .ok b → P b

namespace RecordField

variable {δ ε α : Type} {P : α → Prop} {fields : List (RecordField δ ε α)}

theorem Keep.of_find? (h : Keep P fields) {key : Text} {field : RecordField δ ε α}
    (hfind : find? fields key = some field) {d : δ} {a b : α} (ha : P a)
    (hread : field.read d a = .ok b) : P b :=
  h field (List.mem_of_find?_eq_some hfind) d a b ha hread

theorem Keep.readInOrder (h : Keep P fields) {ds : List δ} {a b : α} (ha : P a)
    (hread : RecordField.readInOrder fields ds a = .ok b) : P b := by
  induction fields generalizing ds a with
  | nil =>
    cases hread
    exact ha
  | cons field fields ih =>
    obtain ⟨hfield, hfields⟩ := List.forall_mem_cons.1 h
    cases ds with
    | nil =>
      cases hread
      exact ha
    | cons d ds =>
      obtain ⟨c, hc, hrest⟩ := bind_eq_ok_iff.1 hread
      exact ih hfields (hfield d a c ha hc) hrest

/-- What the types of a configuration always are. -/
theorem keep_ofConfig {reserved : δ → Except ε ReservedNames} {types : δ → Except ε FieldTypes}
    {Q : FieldTypes → Prop} (h : ∀ d ts, types d = .ok ts → Q ts) :
    Keep (fun config : Config => Q config.types) (ofConfig reserved types) := by
  refine List.forall_mem_cons.2 ⟨?_, List.forall_mem_singleton.2 ?_⟩
  · intro d config config' hconfig hread
    obtain ⟨names, -, rfl⟩ := map_eq_ok_iff.1 hread
    exact hconfig
  · intro d config config' _ hread
    obtain ⟨ts, hts, rfl⟩ := map_eq_ok_iff.1 hread
    exact h d ts hts

end RecordField

/-- Every type in the dictionary is named by a tag. Reading keeps this with every tag, as it has no
    other way to a type. -/
def FieldTypes.AllNamed (types : FieldTypes) : Prop :=
  ∀ entry ∈ types.entries, entry.2.IsNamed

namespace FieldTypes

theorem allNamed_empty : AllNamed Dictionary.empty :=
  List.forall_mem_nil _

theorem AllNamed.insert {types : FieldTypes} (h : AllNamed types) (field tag : Text) :
    AllNamed (types.insert field (.ofTag tag)) := by
  intro entry hentry
  -- the entry is the new one, or it was there before
  rcases Dictionary.mem_insertEntry hentry with rfl | hold
  · exact ⟨tag, rfl⟩
  · exact h entry hold

end FieldTypes

namespace Config

open FieldTypes

section Json

variable {α : Type} {P : α → Prop} {fields : List (RecordField JsonDraft JsonFault α)}

/-- By induction over the members: an unknown one changes nothing, a known one is read by its
    field. -/
theorem keep_readMembers (h : RecordField.Keep P fields) {seen : List Text}
    {members : List (JsonString × JsonDraft)} {a b : α} (ha : P a)
    (hread : readMembers fields seen a members = .ok b) : P b := by
  induction members generalizing seen a with
  | nil =>
    cases hread
    exact ha
  | cons member more ih =>
    obtain ⟨key, -, hread⟩ := bind_eq_ok_iff.1 hread
    split at hread
    · obtain ⟨-, -, hrest⟩ := bind_eq_ok_iff.1 hread
      exact ih ha hrest
    · next field hfind =>
      split at hread
      · cases hread
      · obtain ⟨c, hc, hrest⟩ := bind_eq_ok_iff.1 hread
        exact ih (h.of_find? hfind ha hc) hrest

theorem keep_readRecord (h : RecordField.Keep P fields) {start b : α} {draft : JsonDraft}
    (hstart : P start) (hread : readRecord fields start draft = .ok b) : P b := by
  cases draft with
  | object members ending =>
    obtain ⟨a, ha, hrest⟩ := bind_eq_ok_iff.1 hread
    obtain ⟨-, -, hb⟩ := bind_eq_ok_iff.1 hrest
    cases hb
    exact keep_readMembers h hstart ha
  | array elements ending =>
    obtain ⟨a, ha, hrest⟩ := bind_eq_ok_iff.1 hread
    have hkept := h.readInOrder hstart ha
    split at hrest
    · cases hrest
    · obtain ⟨-, -, hrest⟩ := bind_eq_ok_iff.1 hrest
      cases hrest
      exact hkept
  | _ => cases hread

theorem allNamed_readTags {types types' : FieldTypes} (h : AllNamed types)
    {members : List (JsonString × JsonDraft)} (hread : readTags types members = .ok types') :
    AllNamed types' := by
  induction members generalizing types with
  | nil =>
    cases hread
    exact h
  | cons member more ih =>
    obtain ⟨field, -, hread⟩ := bind_eq_ok_iff.1 hread
    obtain ⟨tag, -, hread⟩ := bind_eq_ok_iff.1 hread
    exact ih (h.insert field tag) hread

theorem allNamed_of_fieldTypesOfDraft {draft : JsonDraft} {types : FieldTypes}
    (h : fieldTypesOfDraft draft = .ok types) : AllNamed types := by
  cases draft with
  | object members ending =>
    obtain ⟨read, hread, hrest⟩ := bind_eq_ok_iff.1 h
    obtain ⟨-, -, htypes⟩ := bind_eq_ok_iff.1 hrest
    cases htypes
    exact allNamed_readTags allNamed_empty hread
  | _ => cases h

theorem allNamed_of_ofJson {t : Text} {config : Config} (h : ofJson t = .ok config) :
    AllNamed config.types := by
  unfold ofJson at h
  split at h
  · next read hread =>
    cases h
    obtain ⟨whole, hdraft, hrest⟩ := bind_eq_ok_iff.1 hread
    split at hrest
    · cases hrest
      exact keep_readRecord (RecordField.keep_ofConfig fun _ _ => allNamed_of_fieldTypesOfDraft)
        allNamed_empty hdraft
    · cases hrest
  · cases h

end Json

section Yaml

variable {α : Type} {P : α → Prop} {fields : List (RecordField YamlNode ConfigError α)}

theorem keep_readNodeMembers (h : RecordField.Keep P fields) {seen : List Text}
    {members : List (YamlNode × YamlNode)} {a b : α} (ha : P a)
    (hread : readNodeMembers fields seen a members = .ok b) : P b := by
  induction members generalizing seen a with
  | nil =>
    cases hread
    exact ha
  | cons member more ih =>
    obtain ⟨key, -, hread⟩ := bind_eq_ok_iff.1 hread
    split at hread
    · exact ih ha hread
    · next field hfind =>
      split at hread
      · cases hread
      · obtain ⟨c, hc, hrest⟩ := bind_eq_ok_iff.1 hread
        exact ih (h.of_find? hfind ha hc) hrest

theorem keep_readNodeRecord (h : RecordField.Keep P fields) {start b : α} {node : YamlNode}
    (hstart : P start) (hread : readNodeRecord fields start node = .ok b) : P b := by
  unfold readNodeRecord at hread
  split at hread
  · exact keep_readNodeMembers h hstart hread
  · split at hread
    · cases hread
    · exact h.readInOrder hstart hread
  · cases hread
    exact hstart
  · cases hread

theorem allNamed_readNodeTags {types types' : FieldTypes} (h : AllNamed types)
    {members : List (YamlNode × YamlNode)} (hread : readNodeTags types members = .ok types') :
    AllNamed types' := by
  induction members generalizing types with
  | nil =>
    cases hread
    exact h
  | cons member more ih =>
    obtain ⟨field, -, hread⟩ := bind_eq_ok_iff.1 hread
    obtain ⟨tag, -, hread⟩ := bind_eq_ok_iff.1 hread
    exact ih (h.insert field tag) hread

theorem allNamed_of_fieldTypesOfNode {node : YamlNode} {types : FieldTypes}
    (h : fieldTypesOfNode node = .ok types) : AllNamed types := by
  unfold fieldTypesOfNode at h
  split at h
  · exact allNamed_readNodeTags allNamed_empty h
  · cases h
    exact allNamed_empty
  · cases h

theorem allNamed_of_ofNode {node : YamlNode} {config : Config} (h : ofNode node = .ok config) :
    AllNamed config.types :=
  keep_readNodeRecord (RecordField.keep_ofConfig fun _ _ => allNamed_of_fieldTypesOfNode)
    allNamed_empty h

theorem allNamed_of_ofYaml {t : Text} {config : Config} (h : ofYaml t = .ok config) :
    AllNamed config.types := by
  unfold ofYaml at h
  split at h
  · exact allNamed_of_ofNode h
  · cases h

end Yaml

/-! ## Types that are written -/

/-- The declarations of fields with tags in place of their types. -/
def tagsOf (es : List (Text × FieldType)) : List (Text × Text) :=
  es.map fun (field, type) => (field, type.name)

/-- The dictionary of the types that tags name. -/
def typesOfTags (tags : List (Text × Text)) : FieldTypes :=
  Dictionary.ofList (tags.map fun (field, tag) => (field, .ofTag tag))

theorem readTags_map_writtenMember (types : FieldTypes) (tags : List (Text × Text)) :
    readTags types (tags.map JsonDraft.writtenMember)
      = .ok (tags.foldl (fun types (field, tag) => types.insert field (.ofTag tag)) types) := by
  induction tags generalizing types with
  | nil => rfl
  | cons tag tags ih => exact ih _

/-- Tags that are written as an object are read one after the other. -/
theorem fieldTypesOfDraft_compact_ofStrings (tags : List (Text × Text)) :
    readWhole fieldTypesOfDraft (Json.ofStrings tags).compact = .ok (typesOfTags tags) := by
  have htags : fieldTypesOfDraft (.object (tags.map JsonDraft.writtenMember) none)
      = .ok (typesOfTags tags) := by
    rw [fieldTypesOfDraft, readTags_map_writtenMember, typesOfTags, Dictionary.ofList,
      List.foldl_map]
    rfl
  rw [readWhole, JsonDraft.ofText_compact_ofStrings]
  dsimp only
  rw [htags]
  rfl

/-- The mapping whose members are scalars under scalars; which of them are written without
    quotation marks is up to the writer. -/
def mappingOfTags (plain : Text → Bool) (tags : List (Text × Text)) : YamlNode :=
  .mapping (tags.map fun (field, tag) => (.scalar field (plain field), .scalar tag (plain tag)))

/-- Tags that are scalars of a mapping are read one after the other. -/
theorem fieldTypesOfNode_mappingOfTags (plain : Text → Bool) (tags : List (Text × Text)) :
    fieldTypesOfNode (mappingOfTags plain tags) = .ok (typesOfTags tags) := by
  have hread (types : FieldTypes) :
      readNodeTags types
          (tags.map fun (field, tag) => (.scalar field (plain field), .scalar tag (plain tag)))
        = .ok (tags.foldl (fun types (field, tag) => types.insert field (.ofTag tag)) types) := by
    induction tags generalizing types with
    | nil => rfl
    | cons tag tags ih => exact ih _
  rw [mappingOfTags, fieldTypesOfNode, hread, typesOfTags, Dictionary.ofList, List.foldl_map]

/-- Types that tags name are known from their names. -/
theorem typesOfTags_tagsOf {types : FieldTypes} (h : AllNamed types)
    {es : List (Text × FieldType)} (hperm : es.Perm types.entries) :
    typesOfTags (tagsOf es) = types := by
  -- each entry is read back alone, so it is the same list, and a list of entries is known in any
  -- order
  have hsame : (tagsOf es).map (fun (field, tag) => (field, FieldType.ofTag tag)) = es := by
    rw [tagsOf, List.map_map]
    refine (List.map_congr_left fun entry hentry => ?_).trans (List.map_id es)
    exact Prod.ext rfl (h entry (hperm.mem_iff.1 hentry)).ofTag_name
  rw [typesOfTags, hsame, Dictionary.ofList_of_perm hperm]

end Config

/-- The name of a type that came from a tag leads back to it. The other types whose names lead back
    to them are all but the custom ones with a blank at an end of their names or with a word for a
    built-in type, in any letters, as their names. So the types in a configuration, from a text or
    from a YAML node however that was written, are read again from their names, in whatever order
    the fields are written. -/
theorem FieldType.ofTag_inverts_name :
    (∀ tag, ofTag (ofTag tag).name = ofTag tag) ∧
    (∀ type, ofTag type.name = type ↔
      ¬∃ s, type = .custom s ∧ (s.HasBlankEnd ∨ ∃ builtIn, IsAlias s.lowerAscii builtIn)) ∧
    ∀ t config, Config.ofJson t = .ok config ∨ Config.ofYaml t = .ok config ∨
        (∃ node, Config.ofNode node = .ok config) →
      ∀ es, es.Perm config.types.entries →
        Config.typesOfTags (Config.tagsOf es) = config.types ∧
        Config.readWhole Config.fieldTypesOfDraft (Json.ofStrings (Config.tagsOf es)).compact
          = .ok config.types ∧
        ∀ plain, Config.fieldTypesOfNode (Config.mappingOfTags plain (Config.tagsOf es))
          = .ok config.types := by
  refine ⟨fun tag => IsNamed.ofTag_name ⟨tag, rfl⟩, fun type => ofTag_name_eq_self_iff, ?_⟩
  intro t config hread es hperm
  have hnamed : config.types.AllNamed := by
    rcases hread with hjson | hyaml | ⟨node, hnode⟩
    · exact Config.allNamed_of_ofJson hjson
    · exact Config.allNamed_of_ofYaml hyaml
    · exact Config.allNamed_of_ofNode hnode
  have htypes := Config.typesOfTags_tagsOf hnamed hperm
  refine ⟨htypes, ?_, fun plain => ?_⟩
  · rw [Config.fieldTypesOfDraft_compact_ofStrings, htypes]
  · rw [Config.fieldTypesOfNode_mappingOfTags, htypes]

/-- Types that were read from other words for them, written in another order. -/
theorem FieldType.ofTag_inverts_name_of_config :
    let t : Text := "\x7b\"types\":\x7b\"m\":\" Money \",\"n\":\"Integer\"\x7d\x7d".toList
    let declared : List (Text × FieldType) :=
      [("n".toList, .integer), ("m".toList, .custom "Money".toList)]
    let config : Config := { types := Dictionary.ofList declared }
    Config.ofJson t = .ok config ∧ declared.Perm config.types.entries ∧
      (Json.ofStrings (Config.tagsOf declared)).compact
        = "\x7b\"n\":\"int\",\"m\":\"Money\"\x7d".toList ∧
      Config.readWhole Config.fieldTypesOfDraft (Json.ofStrings (Config.tagsOf declared)).compact
        = .ok config.types := by
  intro t declared config
  have htokens : JsonToken.tokens t
      = [.mark '\x7b', .written "types".toList, .mark ':', .mark '\x7b',
        .written "m".toList, .mark ':', .written " Money ".toList, .mark ',',
        .written "n".toList, .mark ':', .written "Integer".toList, .mark '\x7d', .mark '\x7d'] := by
    iterate 13 refine (JsonToken.tokens_cons rfl rfl).trans (congrArg (List.cons _) ?_)
    exact JsonToken.tokens_nil
  have hread : Config.ofJson t = .ok config := by
    rw [Config.ofJson, Config.readWhole, JsonDraft.ofText, htokens]
    rfl
  have hperm : declared.Perm config.types.entries := .swap _ _ _
  exact ⟨hread, hperm, rfl, (ofTag_inverts_name.2.2 t config (.inl hread) declared hperm).2.1⟩

end FilterQuery
