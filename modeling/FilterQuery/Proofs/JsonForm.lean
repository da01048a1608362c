import FilterQuery.Proofs.JsonText

/-!
  FilterQuery.Proofs.JsonForm

  The JSON form of a param determines the param. Texts, dates, date-times and identifiers all
  become strings, so a value is known from its JSON form only once the type of its field is;
  date-times in UTC end in `Z`, by which they are told from those without an offset. A clause is
  known from its kind and its values.

  Main statement: `Param.WellFormed.toJson_injective`.
-/

namespace FilterQuery

/-! ## Values -/

theorem Text.zulu_notMem_ofNatPadded (width n : Nat) : 'Z' ∉ ofNatPadded width n := by
  intro h
  have hdigit : 'Z'.isDigit = true := isDigit_of_mem_ofNatPadded h
  cases hdigit

/-- The letter for UTC is no part of a wall clock. -/
theorem DateTime.zulu_notMem_text (dt : DateTime) : 'Z' ∉ dt.text := by
  have hdigits := Text.zulu_notMem_ofNatPadded
  have hyear : 'Z' ∉ Date.yearText dt.date.year := by
    unfold Date.yearText
    split
    · exact hdigits _ _
    · split <;> simp [hdigits]
  have hfraction : 'Z' ∉ Time.fractionText dt.time.nanosecond := by
    unfold Time.fractionText
    split
    · exact List.not_mem_nil
    · split
      · simp [hdigits]
      · split <;> simp [hdigits]
  simp [text, Date.text, Time.text, hdigits, hyear, hfraction]

theorem UtcOffset.zulu_notMem_text (offset : UtcOffset) : 'Z' ∉ offset.text := by
  unfold text
  split <;> simp [Text.zulu_notMem_ofNatPadded]

theorem DateTime.text_injective {a b : DateTime} (h : a.text = b.text) : a = b :=
  Value.dateTime.inj (Value.display_injective (.dateTime a) (.dateTime b) (by decide) h)

theorem OffsetDateTime.text_injective {a b : OffsetDateTime} (h : a.text = b.text) : a = b :=
  Value.offsetDateTime.inj
    (Value.display_injective (.offsetDateTime a) (.offsetDateTime b) (by decide) h)

namespace OffsetDateTime

theorem zulu_mem_textOrZ_iff (dt : OffsetDateTime) :
    'Z' ∈ dt.textOrZ ↔ dt.offset.minutes = 0 := by
  rw [textOrZ, UtcOffset.textOrZ, List.mem_append]
  split
  · next hzero => simp [hzero]
  · next hzero => simp [hzero, dt.wallClock.zulu_notMem_text, dt.offset.zulu_notMem_text]

theorem textOrZ_of_ne {dt : OffsetDateTime} (h : dt.offset.minutes ≠ 0) :
    dt.textOrZ = dt.text := by
  rw [textOrZ, UtcOffset.textOrZ, if_neg h]
  rfl

theorem textOrZ_of_eq {dt : OffsetDateTime} (h : dt.offset.minutes = 0) :
    dt.textOrZ = dt.wallClock.text ++ ['Z'] := by
  rw [textOrZ, UtcOffset.textOrZ, if_pos h]

theorem textOrZ_injective {a b : OffsetDateTime} (h : a.textOrZ = b.textOrZ) : a = b := by
  have hzulu : a.offset.minutes = 0 ↔ b.offset.minutes = 0 := by
    rw [← zulu_mem_textOrZ_iff, h, zulu_mem_textOrZ_iff]
  by_cases hzero : a.offset.minutes = 0
  · rw [textOrZ_of_eq hzero, textOrZ_of_eq (hzulu.1 hzero)] at h
    have hclock : a.wallClock = b.wallClock := DateTime.text_injective (List.append_cancel_right h)
    have hminutes : a.offset.minutes = b.offset.minutes := hzero.trans (hzulu.1 hzero).symm
    obtain ⟨clock, ⟨minutes, hlow, hhigh⟩, hcalendar⟩ := a
    obtain ⟨clock', ⟨minutes', hlow', hhigh'⟩, hcalendar'⟩ := b
    obtain rfl : clock = clock' := hclock
    obtain rfl : minutes = minutes' := hminutes
    rfl
  · rw [textOrZ_of_ne hzero, textOrZ_of_ne fun hb => hzero (hzulu.2 hb)] at h
    exact text_injective h

theorem text_ne_textOrZ (dt : DateTime) (odt : OffsetDateTime) : dt.text ≠ odt.textOrZ := by
  intro h
  by_cases hzero : odt.offset.minutes = 0
  · exact dt.zulu_notMem_text (h ▸ odt.zulu_mem_textOrZ_iff.2 hzero)
  · rw [textOrZ_of_ne hzero] at h
    cases Value.display_injective (.dateTime dt) (.offsetDateTime odt) (by decide) h

end OffsetDateTime

namespace Value

variable {type : FieldType} {v w : Value}

theorem isExact_toJson (hv : v.HasType type) (hfloat : type ≠ .float) : v.toJson.IsExact := by
  cases hv with
  | integer hn => exact .integer _
  | float x => exact absurd rfl hfloat
  | text t => exact .string t
  | boolean b => exact .bool b
  | date d => exact .string d.text
  | dateTime dt => exact .string dt.text
  | offsetDateTime dt => exact .string dt.textOrZ
  | uuid u => exact .string u.text

theorem toJson_ne_null (hv : v.HasType type) (hfloat : type ≠ .float) : v.toJson ≠ .null := by
  intro h
  cases hv with
  | float x => exact hfloat rfl
  | integer | text | boolean | date | dateTime | offsetDateTime | uuid => cases h

/-- Among the values of one type the JSON form loses nothing. -/
theorem toJson_injective (hv : v.HasType type) (hw : w.HasType type) (hfloat : type ≠ .float)
    (h : v.toJson = w.toJson) : v = w := by
  cases hv with
  | integer hn =>
    cases hw with
    | integer hm => rw [Json.integer.inj h]
  | float x => exact absurd rfl hfloat
  | text t =>
    cases hw with
    | text u => rw [Json.string.inj h]
  | boolean a =>
    cases hw with
    | boolean b => rw [Json.bool.inj h]
  | date d =>
    cases hw with
    | date e => exact display_injective (.date d) (.date e) hfloat (Json.string.inj h)
  | dateTime d =>
    cases hw with
    | dateTime e => rw [DateTime.text_injective (Json.string.inj h)]
    | offsetDateTime e =>
      exact absurd (Json.string.inj h) (OffsetDateTime.text_ne_textOrZ d e)
  | offsetDateTime d =>
    cases hw with
    | dateTime e => exact absurd (Json.string.inj h).symm (OffsetDateTime.text_ne_textOrZ e d)
    | offsetDateTime e => rw [OffsetDateTime.textOrZ_injective (Json.string.inj h)]
  | uuid u =>
    cases hw with
    | uuid u' => exact display_injective (.uuid u) (.uuid u') hfloat (Json.string.inj h)

end Value

/-! ## Clauses -/

inductive ClauseKind where
  | literal
  | comparison
  | range
  | isValue
  | negation
  | like
  | oneOf
  | order
  | limit
  | offset

namespace ClauseKind

/-- The tag of the clauses of a kind. -/
def name : ClauseKind → Text
  | literal => "literal".toList
  | comparison => "comparison".toList
  | range => "range".toList
  | isValue => "is".toList
  | negation => "not".toList
  | like => "like".toList
  | oneOf => "set".toList
  | order => "order".toList
  | limit => "limit".toList
  | offset => "offset".toList

theorem name_injective {k l : ClauseKind} (h : k.name = l.name) : k = l := by
  cases k <;> cases l <;> first | rfl | exact absurd h (by decide)

end ClauseKind

namespace Clause

def kind : Clause → ClauseKind
  | literal _ _ => .literal
  | comparison _ => .comparison
  | range _ => .range
  | isValue _ => .isValue
  | negation _ => .negation
  | like _ _ => .like
  | oneOf _ => .oneOf
  | order _ _ => .order
  | limit _ => .limit
  | offset _ => .offset

/-- What is beside the tag. -/
def content : Clause → Json
  | literal op value => Bound.toJson ⟨op, value⟩
  | comparison b => b.toJson
  | range r =>
    .object [("left".toList, ValueRange.sideToJson r.left),
      ("right".toList, ValueRange.sideToJson r.right)]
  | isValue value => value.toJson
  | negation inner => inner.toJson
  | like value caseSensitive =>
    .object [("value".toList, value.toJson), ("case_sensitive".toList, .bool caseSensitive)]
  | oneOf values => .array (values.map Value.toJson)
  | order direction priority =>
    .object [("dir".toList, .string direction.name), ("priority".toList, .integer priority)]
  | limit n => .integer n
  | offset n => .integer n

theorem toJson_eq (c : Clause) :
    c.toJson = .object [("kind".toList, .string c.kind.name), ("value".toList, c.content)] := by
  cases c <;> rfl

theorem kind_content_of_toJson {c d : Clause} (h : c.toJson = d.toJson) :
    c.kind = d.kind ∧ c.content = d.content := by
  obtain ⟨hname, hcontent⟩ : c.kind.name = d.kind.name ∧ c.content = d.content := by
    simpa [toJson_eq] using h
  exact ⟨ClauseKind.name_injective hname, hcontent⟩

/-- The values of a filter are null or have the property that it asks for. -/
theorem IsFilter.null_or_valid_of_mem_values {type : FieldType} {valid : Value → Prop} {c : Clause}
    (hc : c.IsFilter type valid) : ∀ v ∈ c.values, v = .null ∨ valid v := by
  have hpositive {c : Clause} (hc : c.IsPositive valid) (v : Value) (hv : v ∈ c.values) :
      v = .null ∨ valid v := by
    cases hc with
    | isNull => exact .inl (List.mem_singleton.1 hv)
    | equals hw => exact .inr (List.mem_singleton.1 hv ▸ hw)
    | like caseSensitive hw => exact .inr (List.mem_singleton.1 hv ▸ hw)
    | oneOf hvs => exact .inr (hvs v hv)
  cases hc with
  | positive hc => exact fun v hv => hpositive hc v hv
  | negation hc => exact fun v hv => hpositive hc v hv
  | range htype hleft hright =>
    intro v hv
    obtain ⟨b, hb, rfl⟩ := List.mem_map.1 hv
    rcases List.mem_append.1 hb with hb | hb
    · exact .inr (hleft b (Option.mem_toList.1 hb)).2
    · exact .inr (hright b (Option.mem_toList.1 hb)).2

theorem values_of_isDirective {c : Clause} (hc : c.isDirective = true) : c.values = [] := by
  cases c with
  | order | limit | offset => rfl
  | literal | comparison | range | isValue | negation | like | oneOf => cases hc

end Clause

section Values

variable {valid : Value → Prop}
  (hvalid : ∀ v w, valid v → valid w → v.toJson = w.toJson → v = w)

include hvalid

theorem Bound.toJson_injective {a b : Bound} (ha : valid a.value) (hb : valid b.value)
    (h : a.toJson = b.toJson) : a = b := by
  obtain ⟨op, value⟩ := a
  obtain ⟨op', value'⟩ := b
  obtain ⟨hop, hvalue⟩ : op.name = op'.name ∧ value.toJson = value'.toJson := by
    simpa [toJson] using h
  rw [Op.name_injective hop, hvalid value value' ha hb hvalue]

theorem ValueRange.sideToJson_injective {x y : Option Bound} (hx : ∀ b ∈ x.toList, valid b.value)
    (hy : ∀ b ∈ y.toList, valid b.value) (h : sideToJson x = sideToJson y) : x = y := by
  cases x with
  | none =>
    cases y with
    | none => rfl
    | some b => cases h
  | some a =>
    cases y with
    | none => cases h
    | some b =>
      rw [Bound.toJson_injective hvalid (hx a (.head _)) (hy b (.head _)) h]

theorem Value.map_toJson_injective {vs ws : List Value} (hvs : ∀ v ∈ vs, valid v)
    (hws : ∀ w ∈ ws, valid w) (h : vs.map toJson = ws.map toJson) : vs = ws := by
  induction vs generalizing ws with
  | nil => rw [List.map_eq_nil_iff.1 h.symm]
  | cons v vs ih =>
    obtain ⟨w, ws, rfl, hhead, htail⟩ := List.map_eq_cons_iff.1 h.symm
    obtain ⟨hv, hvs⟩ := List.forall_mem_cons.1 hvs
    obtain ⟨hw, hws⟩ := List.forall_mem_cons.1 hws
    rw [hvalid v w hv hw hhead.symm, ih hvs hws htail.symm]

/-- A clause is known from its JSON form, if its values are. -/
theorem Clause.toJson_injective {c d : Clause} (hc : ∀ v ∈ c.values, valid v)
    (hd : ∀ v ∈ d.values, valid v) (h : c.toJson = d.toJson) : c = d := by
  induction c generalizing d with
  | literal op v =>
    obtain ⟨hkind, hcontent⟩ := kind_content_of_toJson h
    cases d with
    | literal op' v' =>
      have hbound : (⟨op, v⟩ : Bound) = ⟨op', v'⟩ :=
        Bound.toJson_injective hvalid (hc v (.head _)) (hd v' (.head _)) hcontent
      cases hbound
      rfl
    | comparison | range | isValue | negation | like | oneOf | order | limit | offset =>
      cases hkind
  | comparison b =>
    obtain ⟨hkind, hcontent⟩ := kind_content_of_toJson h
    cases d with
    | comparison b' =>
      rw [Bound.toJson_injective hvalid (hc b.value (.head _)) (hd b'.value (.head _)) hcontent]
    | literal | range | isValue | negation | like | oneOf | order | limit | offset => cases hkind
  | range r =>
    obtain ⟨hkind, hcontent⟩ := kind_content_of_toJson h
    cases d with
    | range r' =>
      have hsides {r : ValueRange} (hr : ∀ v ∈ (Clause.range r).values, valid v) :
          (∀ b ∈ r.left.toList, valid b.value) ∧ ∀ b ∈ r.right.toList, valid b.value :=
        ⟨fun b hb => hr _ (List.mem_map_of_mem (List.mem_append_left _ hb)),
          fun b hb => hr _ (List.mem_map_of_mem (List.mem_append_right _ hb))⟩
      obtain ⟨hleft, hright⟩ : ValueRange.sideToJson r.left = ValueRange.sideToJson r'.left ∧
          ValueRange.sideToJson r.right = ValueRange.sideToJson r'.right := by
        simpa [content] using hcontent
      obtain ⟨left, right⟩ := r
      obtain ⟨left', right'⟩ := r'
      have hleft : left = left' :=
        ValueRange.sideToJson_injective hvalid (hsides hc).1 (hsides hd).1 hleft
      have hright : right = right' :=
        ValueRange.sideToJson_injective hvalid (hsides hc).2 (hsides hd).2 hright
      rw [hleft, hright]
    | literal | comparison | isValue | negation | like | oneOf | order | limit | offset =>
      cases hkind
  | isValue v =>
    obtain ⟨hkind, hcontent⟩ := kind_content_of_toJson h
    cases d with
    | isValue v' => rw [hvalid v v' (hc v (.head _)) (hd v' (.head _)) hcontent]
    | literal | comparison | range | negation | like | oneOf | order | limit | offset =>
      cases hkind
  | negation inner ih =>
    obtain ⟨hkind, hcontent⟩ := kind_content_of_toJson h
    cases d with
    | negation inner' =>
      have hinner : inner = inner' := ih hc hd hcontent
      rw [hinner]
    | literal | comparison | range | isValue | like | oneOf | order | limit | offset =>
      cases hkind
  | like v caseSensitive =>
    obtain ⟨hkind, hcontent⟩ := kind_content_of_toJson h
    cases d with
    | like v' caseSensitive' =>
      obtain ⟨hvalue, rfl⟩ : v.toJson = v'.toJson ∧ caseSensitive = caseSensitive' := by
        simpa [content] using hcontent
      rw [hvalid v v' (hc v (.head _)) (hd v' (.head _)) hvalue]
    | literal | comparison | range | isValue | negation | oneOf | order | limit | offset =>
      cases hkind
  | oneOf vs =>
    obtain ⟨hkind, hcontent⟩ := kind_content_of_toJson h
    cases d with
    | oneOf vs' =>
      have hvalues : vs = vs' := Value.map_toJson_injective hvalid hc hd (Json.array.inj hcontent)
      rw [hvalues]
    | literal | comparison | range | isValue | negation | like | order | limit | offset =>
      cases hkind
  | order direction priority =>
    obtain ⟨hkind, hcontent⟩ := kind_content_of_toJson h
    cases d with
    | order direction' priority' =>
      obtain ⟨hdirection, rfl⟩ : direction.name = direction'.name ∧ priority = priority' := by
        simpa [content, Int.ofNat_inj] using hcontent
      rw [Direction.name_injective hdirection]
    | literal | comparison | range | isValue | negation | like | oneOf | limit | offset =>
      cases hkind
  | limit n =>
    obtain ⟨hkind, hcontent⟩ := kind_content_of_toJson h
    cases d with
    | limit n' => rw [Int.ofNat_inj.1 (Json.integer.inj hcontent)]
    | literal | comparison | range | isValue | negation | like | oneOf | order | offset =>
      cases hkind
  | offset n =>
    obtain ⟨hkind, hcontent⟩ := kind_content_of_toJson h
    cases d with
    | offset n' => rw [Int.ofNat_inj.1 (Json.integer.inj hcontent)]
    | literal | comparison | range | isValue | negation | like | oneOf | order | limit =>
      cases hkind

end Values

/-! ### Texts that say all -/

theorem Json.isExact_pair {name name' : Text} {j k : Json} (hj : j.IsExact) (hk : k.IsExact) :
    (object [(name, j), (name', k)]).IsExact :=
  .object (List.forall_mem_cons.2 ⟨hj, List.forall_mem_singleton.2 hk⟩)

theorem Clause.isExact_toJson {c : Clause} (hc : ∀ v ∈ c.values, v.toJson.IsExact) :
    c.toJson.IsExact := by
  have hside {side : Option Bound} (h : ∀ b ∈ side.toList, b.value.toJson.IsExact) :
      (ValueRange.sideToJson side).IsExact := by
    cases side with
    | none => exact .null
    | some b => exact Json.isExact_pair (.string _) (h b (.head _))
  induction c with
  | literal op v =>
    exact Json.isExact_pair (.string _) (Json.isExact_pair (.string _) (hc v (.head _)))
  | comparison b =>
    exact Json.isExact_pair (.string _) (Json.isExact_pair (.string _) (hc b.value (.head _)))
  | range r =>
    refine Json.isExact_pair (.string _) (Json.isExact_pair (hside fun b hb => ?_)
      (hside fun b hb => ?_))
    · exact hc _ (List.mem_map_of_mem (List.mem_append_left _ hb))
    · exact hc _ (List.mem_map_of_mem (List.mem_append_right _ hb))
  | isValue v => exact Json.isExact_pair (.string _) (hc v (.head _))
  | negation inner ih => exact Json.isExact_pair (.string _) (ih hc)
  | like v caseSensitive =>
    exact Json.isExact_pair (.string _) (Json.isExact_pair (hc v (.head _)) (.bool _))
  | oneOf vs =>
    refine Json.isExact_pair (.string _) (.array fun e he => ?_)
    obtain ⟨v, hv, rfl⟩ := List.mem_map.1 he
    exact hc v hv
  | order direction priority =>
    exact Json.isExact_pair (.string _) (Json.isExact_pair (.string _) (.integer _))
  | limit n => exact Json.isExact_pair (.string _) (.integer _)
  | offset n => exact Json.isExact_pair (.string _) (.integer _)

/-! ## Params -/

namespace Param

variable {names : ReservedNames} {types : FieldTypes} {p q : Param}

/-- The values of a well-formed param are null or of the type of its field. -/
theorem WellFormed.values (hp : p.WellFormed names types) :
    ∀ v ∈ p.clause.values,
      v = .null ∨ ∃ type, types.get? p.name = some type ∧ v.HasType type := by
  intro v hv
  rcases hp.isDirective_or_isFilter with hc | ⟨type, htype, hc⟩
  · rw [Clause.values_of_isDirective hc] at hv
    cases hv
  · exact (hc.null_or_valid_of_mem_values v hv).imp_right fun hvalue => ⟨type, htype, hvalue⟩

variable (hfloat : ∀ name, types.get? name ≠ some .float)

include hfloat

theorem WellFormed.isExact_toJson (hp : p.WellFormed names types) : p.toJson.IsExact := by
  refine Json.isExact_pair (.string _) (Clause.isExact_toJson fun v hv => ?_)
  obtain rfl | ⟨type, htype, hvalue⟩ := hp.values v hv
  · exact .null
  · exact Value.isExact_toJson hvalue fun heq => hfloat p.name (heq ▸ htype)

/-- Well-formed params with the same JSON form are the same, if no field has floating point
    numbers. -/
theorem WellFormed.toJson_injective (hp : p.WellFormed names types)
    (hq : q.WellFormed names types) (h : p.toJson = q.toJson) : p = q := by
  obtain ⟨name, clause⟩ := p
  obtain ⟨name', clause'⟩ := q
  obtain ⟨rfl, hclause⟩ : name = name' ∧ clause.toJson = clause'.toJson := by
    simpa [toJson] using h
  -- both fields have one type, and among its values and null the JSON form loses nothing
  have hvalid (v w : Value)
      (hv : v = .null ∨ ∃ type, types.get? name = some type ∧ v.HasType type)
      (hw : w = .null ∨ ∃ type, types.get? name = some type ∧ w.HasType type)
      (hform : v.toJson = w.toJson) : v = w := by
    have hnot {type : FieldType} (htype : types.get? name = some type) : type ≠ .float :=
      fun heq => hfloat name (heq ▸ htype)
    obtain rfl | ⟨type, htype, hv⟩ := hv <;> obtain rfl | ⟨type', htype', hw⟩ := hw
    · rfl
    · exact absurd hform.symm (Value.toJson_ne_null hw (hnot htype'))
    · exact absurd hform (Value.toJson_ne_null hv (hnot htype))
    · rw [htype] at htype'
      cases htype'
      exact Value.toJson_injective hv hw (hnot htype) hform
  have hsame : clause = clause' :=
    Clause.toJson_injective hvalid hp.values hq.values hclause
  rw [hsame]

end Param
end FilterQuery
