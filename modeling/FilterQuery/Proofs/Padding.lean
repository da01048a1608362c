import FilterQuery.Proofs.Failures
import FilterQuery.Proofs.Ordering

/-!
  FilterQuery.Proofs.Padding

  Blanks around the values of a query. They are cut off where a value is read: a filter trims the
  whole value before its pattern is chosen, an ordering list trims each of its pieces, and a limit
  or an offset trims the text of its number. So padding a value changes nothing that is read from
  a pair (`Reader.readPair_padded`), but for the text that the error of a number quotes.

  Main statement: `Reader.items_of_padded`.
-/

namespace FilterQuery

/-! ## Padded values -/

/-- A text and the same text among blanks. -/
inductive Text.PadsTo (t : Text) : Text → Prop
  | blanks (before after : Text) (hbefore : ∀ c ∈ before, isBlank c)
      (hafter : ∀ c ∈ after, isBlank c) : PadsTo t (before ++ (t ++ after))

theorem Text.PadsTo.trim_eq {t padded : Text} (h : t.PadsTo padded) : padded.trim = t.trim := by
  cases h with
  | blanks before after hbefore hafter => exact trim_padded t hbefore hafter

/-- Blanks bring no other character into a text. -/
theorem Text.PadsTo.notMem {t padded : Text} (h : t.PadsTo padded) {c : Char}
    (hc : isBlank c = false) (ht : c ∉ t) : c ∉ padded := by
  cases h with
  | blanks before after hbefore hafter =>
    have hnot {blanks : Text} (hblanks : ∀ d ∈ blanks, isBlank d) : c ∉ blanks := by
      intro hmem
      rw [hblanks c hmem] at hc
      cases hc
    simp only [List.mem_append, not_or]
    exact ⟨hnot hbefore, ht, hnot hafter⟩

/-- A piece of a query text and the piece with its value padded; a piece without a name has no
    value. -/
inductive RawPair.PadsSegment : Text → Text → Prop
  | pair {name value padded : Text} (hname : name ≠ []) (hequals : '=' ∉ name)
      (h : value.PadsTo padded) : PadsSegment (name ++ '=' :: value) (name ++ '=' :: padded)
  | unnamed {segment : Text} (h : '=' ∉ segment ∨ segment.head? = some '=') :
      PadsSegment segment segment

/-- A parameter and the parameter with its value padded, if it has one. -/
inductive RawPair.PadsEntry : Text × Option Text → Text × Option Text → Prop
  | present {value padded : Text} (name : Text) (h : value.PadsTo padded) :
      PadsEntry (name, some value) (name, some padded)
  | absent (name : Text) : PadsEntry (name, none) (name, none)

/-- A query and the query with each of its values padded, each with blanks of its own. -/
inductive Query.PadsTo : Query → Query → Prop
  | text {t : Text} {pieces : List Text}
      (h : List.Forall₂ RawPair.PadsSegment (t.splitOn '&') pieces) :
      PadsTo (.text t) (.text (['&'].intercalate pieces))
  | pairs {entries padded : List (Text × Option Text)}
      (h : List.Forall₂ RawPair.PadsEntry entries padded) : PadsTo (.pairs entries) (.pairs padded)

/-! ## Raw pairs of a padded query -/

namespace RawPair

/-- A raw pair and the pair with its value padded; a piece without a name stays as it is. -/
inductive PadsTo : Except QueryError RawPair → Except QueryError RawPair → Prop
  | pair {value padded : Text} (name : Text) (h : value.PadsTo padded) :
      PadsTo (.ok ⟨name, value⟩) (.ok ⟨name, padded⟩)
  | unnamed (segment : Text) : PadsTo (.error (.unnamed segment)) (.error (.unnamed segment))

theorem PadsSegment.ampersand_notMem {segment padded : Text} (h : PadsSegment segment padded)
    (hsegment : '&' ∉ segment) : '&' ∉ padded := by
  cases h with
  | unnamed => exact hsegment
  | pair hname hequals h =>
    simp only [List.mem_append, List.mem_cons, not_or] at hsegment ⊢
    obtain ⟨hname, hne, hvalue⟩ := hsegment
    exact ⟨hname, hne, h.notMem (by decide) hvalue⟩

theorem PadsSegment.ofSegment {segment padded : Text} (h : PadsSegment segment padded) :
    PadsTo (ofSegment segment) (ofSegment padded) := by
  cases h with
  | @pair name value padded hname hequals h =>
    have hread (v : Text) : RawPair.ofSegment (name ++ '=' :: v) = .ok ⟨name, v⟩ := by
      have hpart : (Query.Part.segment (name ++ '=' :: v)).Denotes ⟨name, v⟩ :=
        ⟨rfl, hname, hequals⟩
      exact Query.Part.raw_of_denotes hpart
    rw [hread, hread]
    exact .pair name h
  | unnamed h =>
    have hreads := readsAs_ofSegment segment
    generalize RawPair.ofSegment segment = result at hreads ⊢
    cases hreads with
    | unnamed => exact .unnamed segment
    | @pair name value hname hequals =>
      -- a piece without a name does not stand for a pair
      have hpart : (Query.Part.segment (name ++ '=' :: value)).Denotes ⟨name, value⟩ :=
        ⟨rfl, hname, hequals⟩
      exact absurd h (Query.Part.not_isUnnamed_of_denotes hpart)

theorem PadsEntry.ofPresent? {entry padded : Text × Option Text} (h : PadsEntry entry padded) :
    Option.Rel (fun p q => PadsTo (.ok p) (.ok q)) (ofPresent? entry) (ofPresent? padded) := by
  cases h with
  | present name h => exact .some (.pair name h)
  | absent name => exact .none

end RawPair

theorem Query.ampersand_notMem_pieces {segments pieces : List Text}
    (h : List.Forall₂ RawPair.PadsSegment segments pieces)
    (hsegments : ∀ segment ∈ segments, '&' ∉ segment) : ∀ piece ∈ pieces, '&' ∉ piece := by
  induction h with
  | nil => exact hsegments
  | cons hpads h ih =>
    obtain ⟨hsegment, hmore⟩ := List.forall_mem_cons.1 hsegments
    exact List.forall_mem_cons.2 ⟨hpads.ampersand_notMem hsegment, ih hmore⟩

/-- Padding keeps the names, the faults and their places. -/
theorem Query.PadsTo.rawPairs {query padded : Query} (h : query.PadsTo padded) :
    List.Forall₂ RawPair.PadsTo query.rawPairs padded.rawPairs := by
  cases h with
  | @text t pieces h =>
    have hne : pieces ≠ [] := by
      rintro rfl
      rw [List.forall₂_nil_right_iff] at h
      exact List.splitOn_ne_nil '&' t h
    have hpieces : ∀ piece ∈ pieces, '&' ∉ piece :=
      Query.ampersand_notMem_pieces h fun _ => Text.notMem_of_mem_splitOn
    rw [Query.rawPairs, Query.rawPairs, List.splitOn_intercalate '&' hpieces hne,
      List.forall₂_map_left_iff, List.forall₂_map_right_iff]
    exact h.imp fun segment piece => RawPair.PadsSegment.ofSegment
  | pairs h =>
    rw [Query.rawPairs, Query.rawPairs, List.forall₂_map_left_iff, List.forall₂_map_right_iff]
    exact List.rel_filterMap (fun _ _ hentry => hentry.ofPresent?) h

/-! ## Padded ordering lists -/

namespace Order

theorem entries_of_one_piece {t : Text} (h : ',' ∉ t) :
    entries t = (OrderEntry.ofSegment? t).toList := by
  rw [entries, List.splitOn_eq_singleton h]
  cases hentry : OrderEntry.ofSegment? t with
  | none => rw [List.filterMap_cons_none hentry]; rfl
  | some entry => rw [List.filterMap_cons_some hentry]; rfl

/-- A piece is read without the blanks at its ends. -/
theorem ofSegment?_congr {s t : Text} (h : s.trim = t.trim) :
    OrderEntry.ofSegment? s = OrderEntry.ofSegment? t := by
  rw [OrderEntry.ofSegment?, OrderEntry.ofSegment?, h]

theorem entries_of_one_padded_piece {t padded : Text} (ht : ',' ∉ t) (h : t.PadsTo padded) :
    entries padded = entries t := by
  rw [entries_of_one_piece (h.notMem (by decide) ht), entries_of_one_piece ht,
    ofSegment?_congr h.trim_eq]

/-- Blanks before a list stand before its first piece. -/
theorem entries_blanks_append {before : Text} (hbefore : ∀ c ∈ before, Text.isBlank c) (t : Text) :
    entries (before ++ t) = entries t := by
  have hpiece {piece : Text} (h : ',' ∉ piece) : entries (before ++ piece) = entries piece := by
    have hpads : piece.PadsTo (before ++ (piece ++ [])) := .blanks before [] hbefore nofun
    rw [List.append_nil] at hpads
    exact entries_of_one_padded_piece h hpads
  by_cases hcomma : ',' ∈ t
  · obtain ⟨first, more, rfl, hfirst⟩ := List.eq_append_cons_of_mem hcomma
    rw [← List.append_assoc, entries_append, entries_append, hpiece hfirst]
  · exact hpiece hcomma

/-- Blanks after a list stand after its last piece. -/
theorem entries_append_blanks {after : Text} (hafter : ∀ c ∈ after, Text.isBlank c) (t : Text) :
    entries (t ++ after) = entries t := by
  have hpiece {piece : Text} (h : ',' ∉ piece) : entries (piece ++ after) = entries piece :=
    entries_of_one_padded_piece h (.blanks [] after nofun hafter)
  by_cases hcomma : ',' ∈ t
  · obtain ⟨last, more, hreverse, hlast⟩ := List.eq_append_cons_of_mem (List.mem_reverse.2 hcomma)
    have ht : t = more.reverse ++ ',' :: last.reverse := by
      rw [← List.reverse_reverse t, hreverse]
      simp
    have hlast' : ',' ∉ last.reverse := fun h => hlast (List.mem_reverse.1 h)
    rw [ht, List.append_assoc, List.cons_append, entries_append, entries_append, hpiece hlast']
  · exact hpiece hcomma

theorem params_padded {names padded : Text} (h : names.PadsTo padded) :
    params padded = params names := by
  cases h with
  | blanks before after hbefore hafter =>
    rw [params, params, entries_blanks_append hbefore, entries_append_blanks hafter]

end Order

/-! ## Reading padded pairs -/

namespace Reader

variable {reader : Reader} {types : FieldTypes}

/-- The pattern of a filter is that of the trimmed value. -/
theorem readFilter_padded {name value padded : Text} (h : value.PadsTo padded) :
    reader.readFilter types name padded = reader.readFilter types name value := by
  rw [readFilter, readFilter, h.trim_eq]

/-- What padding the value of a pair does to the reading of the pair. -/
inductive PaddedPair (reader : Reader) (types : FieldTypes) (name value padded : Text) : Prop
  | same (hread : reader.readPair types ⟨name, padded⟩ = reader.readPair types ⟨name, value⟩)
      (herror : ∀ e, reader.readPair types ⟨name, value⟩ = .error e →
        e.field? = some name ∧ reader.reserved.isReserved name = false)
  /-- The number of a limit or an offset is not read, and each error quotes its own text. -/
  | number (fault : IntegerFault)
      (hdirective : reader.reserved.directive? name ∈ [some .limit, some .offset])
      (hvalue : reader.readPair types ⟨name, value⟩
        = .error (.cast name .integer (.integer value fault)))
      (hpadded : reader.readPair types ⟨name, padded⟩
        = .error (.cast name .integer (.integer padded fault)))

/-- The number of a padded text is the same, and so is the fault of a text that has none. -/
theorem paddedPair_of_number {name value padded : Text} {made : Nat → List Param}
    (h : value.PadsTo padded)
    (hdirective : reader.reserved.directive? name ∈ [some .limit, some .offset])
    (hpair : ∀ raw, reader.readPair types ⟨name, raw⟩ = (readCount name raw).map made) :
    PaddedPair reader types name value padded := by
  have hvalue := hpair value
  have hpadded := hpair padded
  rw [readCount] at hvalue hpadded
  rw [h.trim_eq] at hpadded
  cases hread : IntegerRange.unsigned64.read value.trim with
  | ok n =>
    rw [hread] at hvalue hpadded
    refine .same (hpadded.trans hvalue.symm) fun e he => ?_
    rw [hvalue] at he
    cases he
  | error fault =>
    rw [hread] at hvalue hpadded
    exact .number fault hdirective hvalue hpadded

/-- Padding a value keeps the params of its pair, and its error unless that quotes the value. -/
theorem readPair_padded (reader : Reader) (types : FieldTypes) (name : Text) {value padded : Text}
    (h : value.PadsTo padded) : PaddedPair reader types name value padded := by
  cases hdirective : reader.reserved.directive? name with
  | none =>
    have hpair (raw : Text) : reader.readPair types ⟨name, raw⟩
        = (reader.readFilter types name raw).map fun p => [p] := by
      simp only [readPair, hdirective]
    refine .same ?_ fun e he => ⟨(pairErrors reader types name value).field e he, ?_⟩
    · rw [hpair, hpair, readFilter_padded h]
    · exact ReservedNames.isReserved_eq_false_iff.2 hdirective
  | some directive =>
    cases directive with
    | orderBy =>
      have hpair (raw : Text) : reader.readPair types ⟨name, raw⟩ = .ok (Order.params raw) := by
        simp only [readPair, hdirective]
      refine .same ?_ fun e he => ?_
      · rw [hpair, hpair, Order.params_padded h]
      · rw [hpair] at he
        cases he
    | limit =>
      have hpair (raw : Text) : reader.readPair types ⟨name, raw⟩
          = (readCount name raw).map fun n => [⟨name, .limit n⟩] := by
        simp only [readPair, hdirective]
      exact paddedPair_of_number h (hdirective ▸ .head _) hpair
    | offset =>
      have hpair (raw : Text) : reader.readPair types ⟨name, raw⟩
          = (readCount name raw).map fun n => [⟨name, .offset n⟩] := by
        simp only [readPair, hdirective]
      exact paddedPair_of_number h (hdirective ▸ .tail _ (.head _)) hpair

/-! ## Runs over padded queries -/

/-- What padding the values of a list of raw pairs does to the items up to the first error. -/
inductive PaddedRun (reader : Reader) (types : FieldTypes)
    (raws padded : List (Except QueryError RawPair)) (items paddedItems : List Item) : Prop
  | same (hitems : paddedItems = items)
      (herror : ∀ e, .error e ∈ items → ∀ field, e.field? = some field →
        reader.reserved.isReserved field = false)
  /-- The first pair that cannot be read is a limit or an offset, and its error quotes the text
      that is given for the number. -/
  | number (place : Nat) (params : List Param) {name value value' : Text} (fault : IntegerFault)
      (hdirective : reader.reserved.directive? name ∈ [some .limit, some .offset])
      (hbefore : ∀ raw ∈ raws.take place, ∃ read, reader.readRaw types raw = .ok read)
      (hplace : raws[place]? = some (.ok ⟨name, value⟩))
      (hplace' : padded[place]? = some (.ok ⟨name, value'⟩)) (hpads : value.PadsTo value')
      (hitems : items = params.map .ok ++ [.error (.cast name .integer (.integer value fault))])
      (hitems' : paddedItems
        = params.map .ok ++ [.error (.cast name .integer (.integer value' fault))])

/-- A raw pair that is read alike before both runs. -/
theorem PaddedRun.cons {raws padded : List (Except QueryError RawPair)}
    {items paddedItems : List Item} {raw raw' : Except QueryError RawPair} {read : List Param}
    (hread : reader.readRaw types raw = .ok read)
    (h : PaddedRun reader types raws padded items paddedItems) :
    PaddedRun reader types (raw :: raws) (raw' :: padded) (read.map .ok ++ items)
      (read.map .ok ++ paddedItems) := by
  cases h with
  | same hitems herror =>
    refine .same (by rw [hitems]) fun e he => ?_
    rcases List.mem_append.1 he with he | he
    · obtain ⟨p, -, hp⟩ := List.mem_map.1 he
      cases hp
    · exact herror e he
  | number place params fault hdirective hbefore hplace hplace' hpads hitems hitems' =>
    have hbefore' : ∀ earlier ∈ (raw :: raws).take (place + 1),
        ∃ read, reader.readRaw types earlier = .ok read := by
      rw [List.take_succ_cons]
      exact List.forall_mem_cons.2 ⟨⟨read, hread⟩, hbefore⟩
    refine .number (place + 1) (read ++ params) fault hdirective hbefore' hplace hplace' hpads ?_ ?_
    · rw [hitems, List.map_append, List.append_assoc]
    · rw [hitems', List.map_append, List.append_assoc]

/-- A raw pair that cannot be read ends both runs. -/
theorem PaddedRun.of_error {raws padded : List (Except QueryError RawPair)} {e : QueryError}
    (h : ∀ field, e.field? = some field → reader.reserved.isReserved field = false) :
    PaddedRun reader types raws padded [.error e] [.error e] := by
  refine .same rfl fun e' he' => ?_
  cases List.mem_singleton.1 he'
  exact h

/-- The items of raw pairs whose values are padded, by induction over the pairs: one that is read
    gives the same params, and the first that is not ends both runs. -/
theorem paddedRun {raws padded : List (Except QueryError RawPair)}
    (h : List.Forall₂ RawPair.PadsTo raws padded) :
    PaddedRun reader types raws padded (untilError (raws.map (reader.readRaw types)))
      (untilError (padded.map (reader.readRaw types))) := by
  induction h with
  | nil => exact .same rfl nofun
  | @cons raw raw' raws padded hpads h ih =>
    rw [List.map_cons, List.map_cons]
    cases hpads with
    | unnamed segment => exact .of_error nofun
    | @pair value value' name hpads =>
      show PaddedRun reader types _ _ (untilError (reader.readPair types ⟨name, value⟩ :: _))
        (untilError (reader.readPair types ⟨name, value'⟩ :: _))
      cases readPair_padded reader types name hpads with
      | same hread herror =>
        rw [hread]
        cases hresult : reader.readPair types ⟨name, value⟩ with
        | ok params => exact ih.cons hresult
        | error e =>
          obtain ⟨hfield, hname⟩ := herror e hresult
          refine .of_error fun field h => ?_
          rw [hfield] at h
          cases h
          exact hname
      | number fault hdirective hvalue hvalue' =>
        rw [hvalue, hvalue']
        exact .number 0 [] fault hdirective nofun rfl rfl hpads rfl rfl

end Reader

/-- Blanks around the values of a query, of a text or of a list, change nothing that is read from
    it: not a param, nor the place of an error, nor the error, unless that is the error of a limit
    or an offset, which quotes the text as it is given. -/
theorem Reader.items_of_padded (reader : Reader) (types : FieldTypes) {query padded : Query}
    (h : query.PadsTo padded) :
    PaddedRun reader types query.rawPairs padded.rawPairs (reader.items types query)
      (reader.items types padded) := by
  rw [items_eq_untilError, items_eq_untilError]
  exact paddedRun h.rawPairs

/-- An interval among blanks is the same interval, and a limit that is no number is quoted with its
    blanks. -/
theorem Reader.items_of_padded_interval_and_limit :
    let types : FieldTypes := Dictionary.ofList [("amount".toList, .integer)]
    let query : Query := .text "amount=[1,2)&limit=x&b".toList
    let padded : Query := .text "amount=\u2003[1,2) &limit= x&b".toList
    query.PadsTo padded ∧
      PaddedRun {} types query.rawPairs padded.rawPairs (Reader.items {} types query)
        (Reader.items {} types padded) ∧
      Reader.items {} types padded
        = [.ok ⟨"amount".toList, .range ⟨some ⟨.gte, .integer 1⟩, some ⟨.lt, .integer 2⟩⟩⟩,
           .error (.cast "limit".toList .integer (.integer " x".toList .badDigit))] := by
  intro types query padded
  have hspace : ∀ c ∈ [' '], Text.isBlank c := List.forall_mem_singleton.2 rfl
  have hwide : ∀ c ∈ ['\u2003'], Text.isBlank c := List.forall_mem_singleton.2 rfl
  have hamount : Text.PadsTo "[1,2)".toList "\u2003[1,2) ".toList :=
    .blanks ['\u2003'] [' '] hwide hspace
  have hlimit : Text.PadsTo ['x'] [' ', 'x'] := .blanks [' '] [] hspace nofun
  have hfirst : RawPair.PadsSegment "amount=[1,2)".toList "amount=\u2003[1,2) ".toList := by
    have hname : '=' ∉ "amount".toList := by decide
    exact .pair (List.cons_ne_nil 'a' _) hname hamount
  have hsecond : RawPair.PadsSegment "limit=x".toList "limit= x".toList := by
    have hname : '=' ∉ "limit".toList := by decide
    exact .pair (List.cons_ne_nil 'l' _) hname hlimit
  have hthird : RawPair.PadsSegment ['b'] ['b'] := .unnamed (.inl (by decide))
  have hpieces : List.Forall₂ RawPair.PadsSegment ("amount=[1,2)&limit=x&b".toList.splitOn '&')
      ["amount=\u2003[1,2) ".toList, "limit= x".toList, ['b']] :=
    .cons hfirst (.cons hsecond (.cons hthird .nil))
  have hpads : query.PadsTo padded := .text hpieces
  refine ⟨hpads, items_of_padded {} types hpads, ?_⟩
  rw [items_eq_untilError]
  rfl

end FilterQuery
