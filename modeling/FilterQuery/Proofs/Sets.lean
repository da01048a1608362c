import FilterQuery.Proofs.Failures
import FilterQuery.Proofs.Negation

/-!
  FilterQuery.Proofs.Sets

  Sets of values. What stands between two braces is cut at its commas, and the pieces that are not
  empty are cast from the left, each as it is written. The braces are the first and the last
  character of the value, so other braces within it, or marks of other patterns, belong to the
  members. An exclamation mark before the braces negates the set.

  Main statement: `Reader.readFilter_set`.
-/

namespace FilterQuery

/-! ## Members between commas -/

/-- Pieces that are the given members in their order, with empty pieces anywhere between. -/
inductive Text.WithEmpty : List Text → List Text → Prop
  | nil : WithEmpty [] []
  | member {members pieces : List Text} (m : Text) (h : WithEmpty members pieces) :
      WithEmpty (m :: members) (m :: pieces)
  | empty {members pieces : List Text} (h : WithEmpty members pieces) :
      WithEmpty members ([] :: pieces)

namespace Text

variable {members pieces : List Text}

theorem WithEmpty.filter_eq (h : WithEmpty members pieces) (hmembers : ∀ m ∈ members, m ≠ []) :
    pieces.filter (· ≠ []) = members := by
  induction h with
  | nil => rfl
  | member m h ih =>
    obtain ⟨hm, hmore⟩ := List.forall_mem_cons.1 hmembers
    rw [List.filter_cons_of_pos (by simpa using hm), ih hmore]
  | empty h ih =>
    rw [List.filter_cons_of_neg (by simp), ih hmembers]

theorem WithEmpty.comma_notMem (h : WithEmpty members pieces)
    (hmembers : ∀ m ∈ members, ',' ∉ m) : ∀ piece ∈ pieces, ',' ∉ piece := by
  induction h with
  | nil => exact hmembers
  | member m h ih =>
    obtain ⟨hm, hmore⟩ := List.forall_mem_cons.1 hmembers
    exact List.forall_mem_cons.2 ⟨hm, ih hmore⟩
  | empty h ih => exact List.forall_mem_cons.2 ⟨List.not_mem_nil, ih hmembers⟩

end Text

namespace FilterField

variable {field : FilterField}

/-- Joined by commas, the members are found again, and the empty pieces are not. -/
theorem setMembers_intercalate {members pieces : List Text} (h : Text.WithEmpty members pieces)
    (hmembers : ∀ m ∈ members, m ≠ [] ∧ ',' ∉ m) :
    setMembers ([','].intercalate pieces) = members := by
  have hne : ∀ m ∈ members, m ≠ [] := fun m hm => (hmembers m hm).1
  have hcomma : ∀ piece ∈ pieces, ',' ∉ piece := h.comma_notMem fun m hm => (hmembers m hm).2
  rw [setMembers_eq_filter]
  cases pieces with
  -- nothing at all is one piece, which is empty
  | nil =>
    cases h
    rfl
  | cons piece pieces =>
    rw [List.splitOn_intercalate ',' hcomma (List.cons_ne_nil piece pieces), h.filter_eq hne]

theorem setMembers_append (x y : Text) :
    setMembers (x ++ ',' :: y) = setMembers x ++ setMembers y := by
  rw [setMembers, List.splitOn_append_cons_self, List.filter_append]
  rfl

/-! ## Casts of the members -/

theorem castOperand_eq_ok_iff {raw : Text} {v : Value} :
    field.castOperand raw = .ok v ↔ field.cast raw = .ok v := by
  rw [castOperand]
  cases field.cast raw with
  | ok w => simp
  | error e => simp

/-- All operands are cast, each to the value at its place. -/
theorem castAll_eq_ok_iff {raws : List Text} {vs : List Value} :
    field.castAll raws = .ok vs ↔ List.Forall₂ (fun raw v => field.cast raw = .ok v) raws vs := by
  induction raws generalizing vs with
  | nil =>
    rw [List.forall₂_nil_left_iff, castAll]
    exact ⟨fun h => by cases h; rfl, fun h => by rw [h]⟩
  | cons raw raws ih =>
    rw [castAll, bind_eq_ok_iff, List.forall₂_cons_left_iff]
    constructor
    · rintro ⟨v, hv, hrest⟩
      obtain ⟨more, hmore, heq⟩ := bind_eq_ok_iff.mp hrest
      cases heq
      exact ⟨v, more, castOperand_eq_ok_iff.1 hv, ih.1 hmore, rfl⟩
    · rintro ⟨v, more, hv, hmore, rfl⟩
      refine ⟨v, castOperand_eq_ok_iff.2 hv, bind_eq_ok_iff.mpr ⟨more, ih.2 hmore, rfl⟩⟩

theorem castAll_append {xs ys : List Text} {vs ws : List Value}
    (hxs : field.castAll xs = .ok vs) (hys : field.castAll ys = .ok ws) :
    field.castAll (xs ++ ys) = .ok (vs ++ ws) := by
  rw [castAll_eq_ok_iff] at hxs hys ⊢
  exact List.rel_append hxs hys

end FilterField

/-! ## Filters -/

namespace Reader

variable {reader : Reader} {types : FieldTypes} {name : Text} {type : FieldType}

/-- The set of what stands between two braces. -/
theorem readFilter_braced (hdeclared : types.get? name = some type) (operand : Text) :
    reader.readFilter types name ('\x7b' :: operand ++ ['\x7d'])
      = (FilterField.castAll ⟨name, type, reader.caster type⟩
          (FilterField.setMembers operand)).map fun vs => ⟨name, .oneOf vs⟩ := by
  rw [readFilter_of_declared hdeclared, Text.trim_enclosed rfl rfl, Pattern.resolve_of_braced]
  show ((FilterField.castAll _ _).map Clause.oneOf).map _ = _
  cases FilterField.castAll _ _ <;> rfl

/-- An exclamation mark before the braces negates the set, and keeps the errors. -/
theorem readFilter_negated_braced (hdeclared : types.get? name = some type) (operand : Text) :
    reader.readFilter types name ('!' :: ('\x7b' :: operand ++ ['\x7d']))
      = (FilterField.castAll ⟨name, type, reader.caster type⟩
          (FilterField.setMembers operand)).map fun vs => ⟨name, .negation (.oneOf vs)⟩ := by
  have hinterval : (Pattern.resolve ('\x7b' :: operand ++ ['\x7d'])).1 ∉ Pattern.intervals := by
    rw [Pattern.resolve_of_braced]
    show Pattern.set ∉ Pattern.intervals
    decide
  have hmark : ('\x7b' :: operand ++ ['\x7d']).head? ≠ some '!' := fun h => nomatch h
  rw [readFilter_negated name (Text.trim_enclosed rfl rfl operand) hmark hinterval,
    readFilter_braced hdeclared]
  cases FilterField.castAll _ _ <;> rfl

end Reader

/-- Members without commas between two braces, joined by commas and with empty pieces anywhere
    between, are read as the set of their casts: in their order, repeated ones too, and each cast
    as it is written. After an exclamation mark they are read as the negation of the set. If a
    member is not cast, both fail with the error of the first such member. What two operands have
    as sets, they have one after the other if a comma joins them. -/
theorem Reader.readFilter_set (reader : Reader) (types : FieldTypes) {name : Text}
    {type : FieldType} (hdeclared : types.get? name = some type) :
    (∀ members pieces : List Text, Text.WithEmpty members pieces →
      (∀ m ∈ members, m ≠ [] ∧ ',' ∉ m) →
      let value : Text := '\x7b' :: [','].intercalate pieces ++ ['\x7d']
      (∀ vs : List Value, List.Forall₂ (fun m v => reader.caster type m = .ok v) members vs →
        reader.readFilter types name value = .ok ⟨name, .oneOf vs⟩ ∧
        reader.readFilter types name ('!' :: value) = .ok ⟨name, .negation (.oneOf vs)⟩) ∧
      (∀ e, FirstError (reader.caster type) members e →
        reader.readFilter types name value = .error (.cast name type e) ∧
        reader.readFilter types name ('!' :: value) = .error (.cast name type e)) ∧
      ((∃ vs : List Value, List.Forall₂ (fun m v => reader.caster type m = .ok v) members vs) ∨
        ∃ e, FirstError (reader.caster type) members e)) ∧
    ∀ (x y : Text) (p q : Param),
      reader.readFilter types name ('\x7b' :: x ++ ['\x7d']) = .ok p →
      reader.readFilter types name ('\x7b' :: y ++ ['\x7d']) = .ok q →
      ∃ vs ws : List Value, p = ⟨name, .oneOf vs⟩ ∧ q = ⟨name, .oneOf ws⟩ ∧
        reader.readFilter types name ('\x7b' :: (x ++ ',' :: y) ++ ['\x7d'])
          = .ok ⟨name, .oneOf (vs ++ ws)⟩ := by
  let field : FilterField := ⟨name, type, reader.caster type⟩
  refine ⟨fun members pieces h hmembers => ?_, fun x y p q hp hq => ?_⟩
  · have hsplit := FilterField.setMembers_intercalate h hmembers
    simp only [readFilter_braced hdeclared, readFilter_negated_braced hdeclared, hsplit]
    refine ⟨fun vs hvs => ?_, fun e he => ?_, ?_⟩
    · have hcast : field.castAll members = .ok vs := FilterField.castAll_eq_ok_iff.2 hvs
      rw [hcast]
      exact ⟨rfl, rfl⟩
    · have hcast : field.castAll members = .error (.cast name type e) :=
        FilterField.castAll_eq_error_iff.2 ⟨e, he, rfl⟩
      rw [hcast]
      exact ⟨rfl, rfl⟩
    · cases hcast : field.castAll members with
      | ok vs => exact .inl ⟨vs, FilterField.castAll_eq_ok_iff.1 hcast⟩
      | error e' =>
        obtain ⟨e, he, -⟩ := FilterField.castAll_eq_error_iff.1 hcast
        exact .inr ⟨e, he⟩
  · rw [readFilter_braced hdeclared] at hp hq ⊢
    obtain ⟨vs, hvs, rfl⟩ := map_eq_ok_iff.mp hp
    obtain ⟨ws, hws, rfl⟩ := map_eq_ok_iff.mp hq
    refine ⟨vs, ws, rfl, rfl, ?_⟩
    rw [FilterField.setMembers_append, FilterField.castAll_append hvs hws]
    rfl

/-- Empty pieces at both ends and in the middle, a repeated member, and members with blanks and
    braces; and of two members that are no integers the first is at fault. -/
theorem Reader.readFilter_set_of_marks :
    let types : FieldTypes := Dictionary.ofList [("a".toList, .text), ("n".toList, .integer)]
    types.get? "a".toList = some .text ∧ types.get? "n".toList = some .integer ∧
      Reader.readFilter {} types "a".toList "\x7b, x,\x7d,,,!~, x,\x7d".toList
        = .ok ⟨"a".toList, .oneOf
            [.text " x".toList, .text ['\x7d'], .text "!~".toList, .text " x".toList]⟩ ∧
      Reader.readFilter {} types "n".toList "!\x7b1,y,,z\x7d".toList
        = .error (.cast "n".toList .integer (.integer ['y'] .badDigit)) ∧
      Reader.readFilter {} types "n".toList "\x7b2,1,2\x7d".toList
        = .ok ⟨"n".toList, .oneOf [.integer 2, .integer 1, .integer 2]⟩ := by
  intro types
  have htext : types.get? "a".toList = some .text := rfl
  have hinteger : types.get? "n".toList = some .integer := rfl
  obtain ⟨htexts, -⟩ := Reader.readFilter_set {} types htext
  obtain ⟨hnumbers, hjoin⟩ := Reader.readFilter_set {} types hinteger
  refine ⟨htext, hinteger, ?_, ?_, ?_⟩
  · have hpieces : Text.WithEmpty [" x".toList, ['\x7d'], "!~".toList, " x".toList]
        [[], " x".toList, ['\x7d'], [], [], "!~".toList, " x".toList, []] :=
      .empty (.member _ (.member _ (.empty (.empty (.member _ (.member _ (.empty .nil)))))))
    have hcasts : List.Forall₂ (fun m v => Cast.text m = .ok v)
        [" x".toList, ['\x7d'], "!~".toList, " x".toList]
        [.text " x".toList, .text ['\x7d'], .text "!~".toList, .text " x".toList] :=
      .cons rfl (.cons rfl (.cons rfl (.cons rfl .nil)))
    obtain ⟨hread, -⟩ := (htexts _ _ hpieces (by decide)).1 _ hcasts
    exact hread
  · have hpieces : Text.WithEmpty [['1'], ['y'], ['z']] [['1'], ['y'], [], ['z']] :=
      .member _ (.member _ (.empty (.member _ .nil)))
    have hfault : FirstError Cast.integer [['1'], ['y'], ['z']] (.integer ['y'] .badDigit) :=
      ⟨[['1']], ['y'], [['z']], rfl, List.forall_mem_singleton.2 ⟨.integer 1, rfl⟩, rfl⟩
    obtain ⟨-, hread⟩ := (hnumbers _ _ hpieces (by decide)).2.1 _ hfault
    exact hread
  · -- the two sets that a comma joins
    obtain ⟨vs, ws, hvs, hws, hread⟩ := hjoin ['2'] "1,2".toList
      ⟨"n".toList, .oneOf [.integer 2]⟩ ⟨"n".toList, .oneOf [.integer 1, .integer 2]⟩ rfl rfl
    cases hvs
    cases hws
    exact hread

end FilterQuery
