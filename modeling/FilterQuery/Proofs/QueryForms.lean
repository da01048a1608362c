import FilterQuery.Proofs.Items

/-!
  FilterQuery.Proofs.QueryForms

  The forms of a query denote the same raw pairs. A text is taken apart into the pairs that it
  was put together from, a list of parameters into those that have a value, and the members of
  a JSON object and the entries of a dictionary are such a list. What is read from a query
  depends on its raw pairs only (`Reader.items_congr`), so all forms of the same pairs are read
  alike.

  Main statement: `Query.forms_agree`.
-/

namespace FilterQuery

/-! ## Pieces of a query text -/

namespace RawPair

/-- A pair that a query text can hold: it has a name, the name ends before the first equals
    sign, and no ampersand cuts the pair. -/
structure IsWritable (pair : RawPair) : Prop where
  name_ne_nil : pair.name ≠ []
  equals_notMem_name : '=' ∉ pair.name
  ampersand_notMem_name : '&' ∉ pair.name
  ampersand_notMem_value : '&' ∉ pair.value

theorem ofSegment_render {pair : RawPair} (h : pair.IsWritable) :
    ofSegment pair.render = .ok pair := by
  obtain ⟨name, value⟩ := pair
  have hsplit : Text.splitFirst? '=' (name ++ '=' :: value) = some (name, value) :=
    Text.splitFirst?_append_cons '=' name value h.equals_notMem_name
  cases name with
  | nil => exact absurd rfl h.name_ne_nil
  | cons c name => rw [ofSegment, render, hsplit]

/-- A piece that stands for a pair is how the pair is written. -/
theorem render_of_readsAs {segment : Text} {pair : RawPair} (h : ReadsAs segment (.ok pair)) :
    pair.render = segment := by
  cases h with
  | pair => rfl

theorem ampersand_notMem_render {pair : RawPair} (h : pair.IsWritable) : '&' ∉ pair.render := by
  rw [render, List.mem_append, List.mem_cons]
  rintro (hname | heq | hvalue)
  · exact h.ampersand_notMem_name hname
  · exact absurd heq (by decide)
  · exact h.ampersand_notMem_value hvalue

end RawPair

namespace Query

/-! ## Query texts -/

/-- A text put together from pairs is taken apart into them. -/
theorem rawPairs_render {ps : List RawPair} (hne : ps ≠ []) (h : ∀ p ∈ ps, p.IsWritable) :
    (text (render ps)).rawPairs = ps.map .ok := by
  have hpieces : ∀ piece ∈ ps.map RawPair.render, '&' ∉ piece := by
    intro piece hpiece
    obtain ⟨p, hp, rfl⟩ := List.mem_map.1 hpiece
    exact RawPair.ampersand_notMem_render (h p hp)
  have hsplit : (render ps).splitOn '&' = ps.map RawPair.render :=
    List.splitOn_intercalate '&' hpieces (by simpa using hne)
  rw [rawPairs, hsplit, List.map_map]
  exact List.map_congr_left fun p hp => RawPair.ofSegment_render (h p hp)

/-- The pairs of a text without faults, put together again. -/
theorem render_of_rawPairs {t : Text} {ps : List RawPair}
    (h : (text t).rawPairs = ps.map .ok) : render ps = t := by
  have hpieces : List.Forall₂ (fun segment p => RawPair.render p = segment) (t.splitOn '&') ps := by
    have hreads := forall₂_readsAs t
    rw [h, List.forall₂_map_right_iff] at hreads
    exact hreads.imp fun segment p => RawPair.render_of_readsAs
  have hrender : ps.map RawPair.render = t.splitOn '&' := by
    have hmap : List.Forall₂ (· = ·) (t.splitOn '&') (ps.map RawPair.render) := by
      rw [List.forall₂_map_right_iff]
      exact hpieces.imp fun segment p hp => hp.symm
    exact (List.forall₂_eq_eq_eq ▸ hmap).symm
  rw [render, hrender, List.intercalate_splitOn]

/-! ## Absent values -/

/-- Lists of parameters that hold the given pairs in order, with parameters without a value
    anywhere between them. -/
inductive WithAbsent : List RawPair → List (Text × Option Text) → Prop
  | nil : WithAbsent [] []
  | present {ps : List RawPair} {entries : List (Text × Option Text)} (p : RawPair)
      (h : WithAbsent ps entries) : WithAbsent (p :: ps) ((p.name, some p.value) :: entries)
  | absent {ps : List RawPair} {entries : List (Text × Option Text)} (name : Text)
      (h : WithAbsent ps entries) : WithAbsent ps ((name, none) :: entries)

theorem WithAbsent.rawPairs_eq {ps : List RawPair} {entries : List (Text × Option Text)}
    (h : WithAbsent ps entries) : (pairs entries).rawPairs = ps.map .ok := by
  have hpresent : entries.filterMap RawPair.ofPresent? = ps := by
    induction h with
    | nil => rfl
    | present p h ih =>
      have hp : RawPair.ofPresent? (p.name, some p.value) = some p := rfl
      rw [List.filterMap_cons_some hp, ih]
    | absent name h ih => rw [List.filterMap_cons_none rfl, ih]
  rw [rawPairs, hpresent]

theorem withAbsent_of_all_present (ps : List RawPair) :
    WithAbsent ps (ps.map fun p => (p.name, some p.value)) := by
  induction ps with
  | nil => exact .nil
  | cons p ps ih => exact .present p ih

/-! ## Dictionaries -/

theorem rawPairs_ofDictionary {ps : List RawPair}
    (hsorted : ps.Pairwise fun p q => p.name < q.name) :
    (ofDictionary (Dictionary.ofList (ps.map fun p => (p.name, p.value)))).rawPairs
      = ps.map .ok := by
  have hentries : (Dictionary.ofList (ps.map fun p => (p.name, p.value))).entries
      = ps.map fun p => (p.name, p.value) :=
    Dictionary.entries_ofList (List.pairwise_map.2 hsorted)
  rw [ofDictionary, hentries, List.map_map]
  exact (withAbsent_of_all_present ps).rawPairs_eq

theorem rawPairs_ofOptionalDictionary {ps : List RawPair} {entries : List (Text × Option Text)}
    (h : WithAbsent ps entries) (hsorted : entries.Pairwise fun a b => a.1 < b.1) :
    (ofOptionalDictionary (Dictionary.ofList entries)).rawPairs = ps.map .ok := by
  rw [ofOptionalDictionary, Dictionary.entries_ofList hsorted]
  exact h.rawPairs_eq

/-! ## JSON objects -/

end Query

namespace Json

/-- Whether a value holds other values. -/
def IsNested : Json → Prop
  | array _ | object _ => True
  | null | bool _ | integer _ | float _ | string _ => False

/-- The text of a scalar that is no null: a string without its quotation marks, all else as it
    is written. -/
def scalarText? : Json → Option Text
  | null => none
  | string t => some t
  | json => some json.compact

/-- A string, or null for no text. -/
def ofOptionalText : Option Text → Json
  | none => null
  | some t => string t

end Json

namespace Query

theorem parameterValue_of_not_nested {name : Text} {json : Json} (h : ¬json.IsNested) :
    parameterValue name json = .ok json.scalarText? := by
  cases json with
  | array | object => exact absurd trivial h
  | null | bool | integer | float | string => rfl

theorem parameterValue_of_nested {name : Text} {json : Json} (h : json.IsNested) :
    parameterValue name json = .error (.notScalar name) := by
  cases json with
  | array | object => rfl
  | null | bool | integer | float | string => cases h

/-- Members without nested values at the front are taken as they are. -/
theorem parameters_append {before : List (Text × Json)} (rest : List (Text × Json))
    (h : ∀ m ∈ before, ¬m.2.IsNested) :
    parameters (before ++ rest)
      = (parameters rest).map fun ps => (before.map fun m => (m.1, m.2.scalarText?)) ++ ps := by
  induction before with
  | nil => cases hrest : parameters rest <;> simp [hrest, Except.map]
  | cons m before ih =>
    have hm : parameterValue m.1 m.2 = .ok m.2.scalarText? :=
      parameterValue_of_not_nested (h m List.mem_cons_self)
    rw [List.cons_append, parameters, hm, ih fun m' hm' => h m' (List.mem_cons_of_mem _ hm')]
    cases parameters rest <;> rfl

theorem parameters_of_scalars {members : List (Text × Json)}
    (h : ∀ m ∈ members, ¬m.2.IsNested) :
    parameters members = .ok (members.map fun m => (m.1, m.2.scalarText?)) := by
  have happend := parameters_append [] h
  rw [List.append_nil] at happend
  simpa [parameters, Except.map] using happend

/-- The first nested member is the one that is reported. -/
theorem parameters_of_nested {before after : List (Text × Json)} {name : Text} {json : Json}
    (h : ∀ m ∈ before, ¬m.2.IsNested) (hjson : json.IsNested) :
    parameters (before ++ (name, json) :: after) = .error (.notScalar name) := by
  rw [parameters_append _ h, parameters, parameterValue_of_nested hjson]
  rfl

/-- Members either are all scalars, or have a first one that is not. -/
theorem scalars_or_exists_nested (members : List (Text × Json)) :
    (∀ m ∈ members, ¬m.2.IsNested) ∨
      ∃ before name json after, members = before ++ (name, json) :: after ∧
        (∀ m ∈ before, ¬m.2.IsNested) ∧ json.IsNested := by
  induction members with
  | nil => exact .inl (List.forall_mem_nil _)
  | cons m members ih =>
    by_cases hm : m.2.IsNested
    · exact .inr ⟨[], m.1, m.2, members, rfl, List.forall_mem_nil _, hm⟩
    · obtain hall | ⟨before, name, json, after, rfl, hbefore, hjson⟩ := ih
      · exact .inl (List.forall_mem_cons.2 ⟨hm, hall⟩)
      · exact .inr ⟨m :: before, name, json, after, rfl, List.forall_mem_cons.2 ⟨hm, hbefore⟩,
          hjson⟩

/-- An object is refused for its first nested member, and for nothing else. -/
theorem ofJson_object_eq_error_iff {members : List (Text × Json)} {e : QueryError} :
    ofJson (.object members) = .error e ↔
      ∃ before name json after, members = before ++ (name, json) :: after ∧
        (∀ m ∈ before, ¬m.2.IsNested) ∧ json.IsNested ∧ e = .notScalar name := by
  constructor
  · intro h
    obtain hall | ⟨before, name, json, after, rfl, hbefore, hjson⟩ :=
      scalars_or_exists_nested members
    · rw [ofJson, parameters_of_scalars hall] at h
      cases h
    · rw [ofJson, parameters_of_nested hbefore hjson] at h
      cases h
      exact ⟨before, name, json, after, rfl, hbefore, hjson, rfl⟩
  · rintro ⟨before, name, json, after, rfl, hbefore, hjson, rfl⟩
    rw [ofJson, parameters_of_nested hbefore hjson]
    rfl

theorem ofJson_object_of_scalars {members : List (Text × Json)}
    (h : ∀ m ∈ members, ¬m.2.IsNested) :
    ofJson (.object members) = .ok (.pairs (members.map fun m => (m.1, m.2.scalarText?))) := by
  rw [ofJson, parameters_of_scalars h]
  rfl

/-- An object of strings and nulls denotes the list of parameters with these values. -/
theorem ofJson_object_of_texts (entries : List (Text × Option Text)) :
    ofJson (.object (entries.map fun e => (e.1, Json.ofOptionalText e.2)))
      = .ok (.pairs entries) := by
  have hscalar : ∀ m ∈ entries.map fun e => (e.1, Json.ofOptionalText e.2), ¬m.2.IsNested := by
    intro m hm
    obtain ⟨⟨name, value⟩, -, rfl⟩ := List.mem_map.1 hm
    cases value <;> exact id
  rw [ofJson_object_of_scalars hscalar, List.map_map]
  congr 2
  refine (List.map_congr_left fun e _ => ?_).trans (List.map_id entries)
  obtain ⟨name, value⟩ := e
  cases value <;> rfl

end Query

/-! ## Reading -/

/-- What is read from a query depends on its raw pairs only. -/
theorem Reader.items_congr {query other : Query} (h : query.rawPairs = other.rawPairs)
    (reader : Reader) (types : FieldTypes) :
    reader.items types query = reader.items types other := by
  rw [items_eq_untilError, items_eq_untilError, h]

/-- Pairs that a text can hold are what the text made of them denotes, and they are read alike
    as a text, as a list with absent values anywhere, as a JSON object of strings and nulls, and
    as a dictionary with or without absent values, if their names are in order. Every text
    without faults is the one made of its pairs, and in any text the pieces between ampersands
    give one item each, a fault for those without an equals sign or a name. A JSON object is
    refused for its first member that is a list or an object; else its numbers and booleans
    count as their text and its nulls as absent values. -/
theorem Query.forms_agree :
    (∀ ps : List RawPair, ps ≠ [] → (∀ p ∈ ps, p.IsWritable) →
      (text (render ps)).rawPairs = ps.map .ok ∧
      ∀ (reader : Reader) (types : FieldTypes) (entries : List (Text × Option Text)),
        WithAbsent ps entries →
        reader.items types (pairs entries) = reader.items types (text (render ps)) ∧
        (∃ query, ofJson (.object (entries.map fun e => (e.1, Json.ofOptionalText e.2)))
            = .ok query ∧
          reader.items types query = reader.items types (text (render ps))) ∧
        (ps.Pairwise (fun p q => p.name < q.name) →
          reader.items types
              (ofDictionary (Dictionary.ofList (ps.map fun p => (p.name, p.value))))
            = reader.items types (text (render ps))) ∧
        (entries.Pairwise (fun a b => a.1 < b.1) →
          reader.items types (ofOptionalDictionary (Dictionary.ofList entries))
            = reader.items types (text (render ps)))) ∧
    (∀ t : Text,
      (∀ ps : List RawPair, (text t).rawPairs = ps.map .ok → render ps = t) ∧
      ∃ segments : List Text, segments ≠ [] ∧ (∀ segment ∈ segments, '&' ∉ segment) ∧
        ['&'].intercalate segments = t ∧
        List.Forall₂ RawPair.ReadsAs segments (text t).rawPairs) ∧
    ∀ members : List (Text × Json),
      (∀ e, ofJson (.object members) = .error e ↔
        ∃ before name json after, members = before ++ (name, json) :: after ∧
          (∀ m ∈ before, ¬m.2.IsNested) ∧ json.IsNested ∧ e = .notScalar name) ∧
      ((∀ m ∈ members, ¬m.2.IsNested) →
        ofJson (.object members)
          = .ok (.pairs (members.map fun m => (m.1, m.2.scalarText?)))) := by
  refine ⟨fun ps hne hwritable => ?_, fun t => ?_, fun members => ?_⟩
  · have htext := rawPairs_render hne hwritable
    refine ⟨htext, fun reader types entries hentries => ⟨?_, ?_, fun hsorted => ?_,
      fun hsorted => ?_⟩⟩
    · exact Reader.items_congr (hentries.rawPairs_eq.trans htext.symm) reader types
    · refine ⟨.pairs entries, ofJson_object_of_texts entries, ?_⟩
      exact Reader.items_congr (hentries.rawPairs_eq.trans htext.symm) reader types
    · exact Reader.items_congr ((rawPairs_ofDictionary hsorted).trans htext.symm) reader types
    · have hdictionary := rawPairs_ofOptionalDictionary hentries hsorted
      exact Reader.items_congr (hdictionary.trans htext.symm) reader types
  · refine ⟨fun ps => render_of_rawPairs, t.splitOn '&', List.splitOn_ne_nil '&' t, ?_, ?_, ?_⟩
    · exact fun segment => Text.notMem_of_mem_splitOn
    · exact List.intercalate_splitOn '&'
    · exact forall₂_readsAs t
  · exact ⟨fun e => ofJson_object_eq_error_iff, ofJson_object_of_scalars⟩

/-- Two pairs, one with an equals sign in its value, and an absent value between them. -/
theorem Query.forms_of_two_pairs :
    let ps : List RawPair := [⟨['a'], "1=2".toList⟩, ⟨['c'], []⟩]
    let entries : List (Text × Option Text) :=
      [(['a'], some "1=2".toList), (['b'], none), (['c'], some [])]
    (text "a=1=2&c=".toList).rawPairs = ps.map .ok ∧
      ∀ (reader : Reader) (types : FieldTypes),
        reader.items types (ofOptionalDictionary (Dictionary.ofList entries))
          = reader.items types (text "a=1=2&c=".toList) := by
  intro ps entries
  have hwritable : ∀ p ∈ ps, p.IsWritable := by
    intro p hp
    simp only [ps, List.mem_cons, List.not_mem_nil, or_false] at hp
    rcases hp with rfl | rfl <;> exact ⟨by decide, by decide, by decide, by decide⟩
  obtain ⟨htext, hforms⟩ := forms_agree.1 ps (by decide) hwritable
  refine ⟨htext, fun reader types => ?_⟩
  have habsent : WithAbsent ps entries := .present _ (.absent _ (.present _ .nil))
  exact (hforms reader types entries habsent).2.2.2 (by decide)

end FilterQuery
