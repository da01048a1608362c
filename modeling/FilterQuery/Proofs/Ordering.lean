import FilterQuery.Order
import Mathlib.Data.List.Basic

/-!
  FilterQuery.Proofs.Ordering

  Ordering lists and their texts. A piece of a list may have blanks around its name and around
  the hyphen before it, and pieces without a name may stand anywhere (`Order.Written`); what is
  read are the entries in their order, numbered from zero. The entries that are read can always
  be written again (`Order.isWritable_of_mem_entries`), and a text joined to another by a comma
  is read after it, its numbers going on.

  Main statement: `Order.params_inverts_rendering`.
-/

namespace FilterQuery

/-! ## Pieces of a list -/

namespace OrderEntry

/-- An entry that a list can hold. Without a hyphen before it an ascending name must not begin
    with one. -/
structure IsWritable (entry : OrderEntry) : Prop where
  name_ne_nil : entry.name ≠ []
  trim_name : entry.name.trim = entry.name
  comma_notMem_name : ',' ∉ entry.name
  head_name : entry.direction = .ascending → entry.name.head? ≠ some '-'

/-- The pieces that spell an entry: its name among blanks, for a descending entry after a
    hyphen among blanks. -/
inductive Spells : OrderEntry → Text → Prop
  | ascending {before name after : Text} (hbefore : ∀ c ∈ before, Text.isBlank c)
      (hafter : ∀ c ∈ after, Text.isBlank c) :
      Spells ⟨.ascending, name⟩ (before ++ (name ++ after))
  | descending {before between name after : Text} (hbefore : ∀ c ∈ before, Text.isBlank c)
      (hbetween : ∀ c ∈ between, Text.isBlank c) (hafter : ∀ c ∈ after, Text.isBlank c) :
      Spells ⟨.descending, name⟩ (before ++ '-' :: (between ++ (name ++ after)))

/-- The pieces without a name: blanks, among which one hyphen may stand. -/
inductive IsNameless : Text → Prop
  | blank {blanks : Text} (h : ∀ c ∈ blanks, Text.isBlank c) : IsNameless blanks
  | hyphen {before after : Text} (hbefore : ∀ c ∈ before, Text.isBlank c)
      (hafter : ∀ c ∈ after, Text.isBlank c) : IsNameless (before ++ '-' :: after)

theorem ofSegment?_of_hyphen {before : Text} (hbefore : ∀ c ∈ before, Text.isBlank c)
    (rest : Text) :
    ofSegment? (before ++ '-' :: rest)
      = if rest.trim.isEmpty then none else some ⟨.descending, rest.trim⟩ := by
  have htrim : Text.trim (before ++ '-' :: rest) = '-' :: Text.trimEnd rest := by
    have hpadded := Text.trim_padded ('-' :: rest) hbefore (List.forall_mem_nil _)
    rw [List.append_nil] at hpadded
    rw [hpadded, Text.trim_cons (by decide)]
  simp only [ofSegment?, htrim, Text.trim_trimEnd]

theorem ofSegment?_of_no_hyphen {segment : Text} (h : segment.trim.head? ≠ some '-') :
    ofSegment? segment
      = if segment.trim.isEmpty then none else some ⟨.ascending, segment.trim⟩ := by
  unfold ofSegment?
  split
  · next field htrim =>
    rw [htrim] at h
    exact absurd rfl h
  · rfl

theorem Spells.ofSegment?_eq {entry : OrderEntry} {segment : Text} (h : entry.Spells segment)
    (hentry : entry.IsWritable) : ofSegment? segment = some entry := by
  cases h with
  | @ascending before name after hbefore hafter =>
    have htrim : Text.trim (before ++ (name ++ after)) = name := by
      rw [Text.trim_padded name hbefore hafter]
      exact hentry.trim_name
    rw [ofSegment?_of_no_hyphen (by rw [htrim]; exact hentry.head_name rfl), htrim]
    exact if_neg fun hnil => hentry.name_ne_nil (List.isEmpty_iff.1 hnil)
  | @descending before between name after hbefore hbetween hafter =>
    have htrim : Text.trim (between ++ (name ++ after)) = name := by
      rw [Text.trim_padded name hbetween hafter]
      exact hentry.trim_name
    rw [ofSegment?_of_hyphen hbefore, htrim]
    exact if_neg fun hnil => hentry.name_ne_nil (List.isEmpty_iff.1 hnil)

theorem IsNameless.ofSegment?_eq {segment : Text} (h : IsNameless segment) :
    ofSegment? segment = none := by
  cases h with
  | blank h =>
    have htrim : segment.trim = [] := Text.trim_of_blank h
    rw [ofSegment?_of_no_hyphen (by rw [htrim]; decide), htrim]
    rfl
  | hyphen hbefore hafter =>
    rw [ofSegment?_of_hyphen hbefore, Text.trim_of_blank hafter]
    rfl

theorem comma_notMem_of_blank {blanks : Text} (h : ∀ c ∈ blanks, Text.isBlank c) :
    ',' ∉ blanks := fun hc => absurd (h ',' hc) (by decide)

/-- A comma is not blank, so the pieces of an entry have one only if its name has. -/
theorem Spells.comma_notMem {entry : OrderEntry} {segment : Text} (h : entry.Spells segment)
    (hentry : entry.IsWritable) : ',' ∉ segment := by
  have hname := hentry.comma_notMem_name
  cases h with
  | ascending hbefore hafter =>
    simp only [List.mem_append, not_or]
    exact ⟨comma_notMem_of_blank hbefore, hname, comma_notMem_of_blank hafter⟩
  | descending hbefore hbetween hafter =>
    simp only [List.mem_append, List.mem_cons, not_or]
    exact ⟨comma_notMem_of_blank hbefore, by decide, comma_notMem_of_blank hbetween, hname,
      comma_notMem_of_blank hafter⟩

theorem IsNameless.comma_notMem {segment : Text} (h : IsNameless segment) : ',' ∉ segment := by
  cases h with
  | blank h => exact comma_notMem_of_blank h
  | hyphen hbefore hafter =>
    simp only [List.mem_append, List.mem_cons, not_or]
    exact ⟨comma_notMem_of_blank hbefore, by decide, comma_notMem_of_blank hafter⟩

/-- What a piece is read as can be written. -/
theorem isWritable_of_ofSegment? {segment : Text} {entry : OrderEntry}
    (h : ofSegment? segment = some entry) (hcomma : ',' ∉ segment) : entry.IsWritable := by
  obtain ⟨hne, htrim, hmem⟩ := ofSegment?_eq_some h
  refine ⟨hne, htrim, fun hc => hcomma (hmem _ hc), fun hascending => ?_⟩
  by_cases hhead : segment.trim.head? = some '-'
  · obtain ⟨field, hfield⟩ := List.head?_eq_some_iff.1 hhead
    simp only [ofSegment?, hfield, Option.ite_none_left_eq_some, Option.some.injEq] at h
    obtain ⟨-, rfl⟩ := h
    cases hascending
  · rw [ofSegment?_of_no_hyphen hhead, Option.ite_none_left_eq_some] at h
    obtain ⟨-, heq⟩ := h
    cases heq
    exact hhead

/-- The shortest spelling of an entry. -/
theorem spells_render (entry : OrderEntry) : entry.Spells entry.render := by
  have hnil : ∀ c ∈ ([] : Text), Text.isBlank c := List.forall_mem_nil _
  obtain ⟨direction, name⟩ := entry
  have hname : name ++ [] = name := List.append_nil name
  cases direction with
  | ascending =>
    have hspells : Spells ⟨.ascending, name⟩ ([] ++ (name ++ [])) := .ascending hnil hnil
    rwa [List.nil_append, hname] at hspells
  | descending =>
    have hspells : Spells ⟨.descending, name⟩ ([] ++ '-' :: ([] ++ (name ++ []))) :=
      .descending hnil hnil hnil
    rwa [List.nil_append, List.nil_append, hname] at hspells

end OrderEntry

/-! ## Lists -/

namespace Order

/-- Pieces that spell entries in their order, with pieces without a name anywhere between. -/
inductive Written : List OrderEntry → List Text → Prop
  | nil : Written [] []
  | entry {entry : OrderEntry} {segment : Text} {entries : List OrderEntry}
      {segments : List Text} (hspells : entry.Spells segment) (h : Written entries segments) :
      Written (entry :: entries) (segment :: segments)
  | nameless {segment : Text} {entries : List OrderEntry} {segments : List Text}
      (hnameless : OrderEntry.IsNameless segment) (h : Written entries segments) :
      Written entries (segment :: segments)

theorem written_render (entries : List OrderEntry) :
    Written entries (entries.map OrderEntry.render) := by
  induction entries with
  | nil => exact .nil
  | cons entry entries ih => exact .entry (OrderEntry.spells_render entry) ih

theorem Written.filterMap_eq {entries : List OrderEntry} {segments : List Text}
    (h : Written entries segments) (hentries : ∀ entry ∈ entries, entry.IsWritable) :
    segments.filterMap OrderEntry.ofSegment? = entries := by
  induction h with
  | nil => rfl
  | entry hspells h ih =>
    obtain ⟨hentry, hmore⟩ := List.forall_mem_cons.1 hentries
    rw [List.filterMap_cons_some (hspells.ofSegment?_eq hentry), ih hmore]
  | nameless hnameless h ih =>
    rw [List.filterMap_cons_none hnameless.ofSegment?_eq, ih hentries]

theorem Written.comma_notMem {entries : List OrderEntry} {segments : List Text}
    (h : Written entries segments) (hentries : ∀ entry ∈ entries, entry.IsWritable) :
    ∀ segment ∈ segments, ',' ∉ segment := by
  induction h with
  | nil => exact List.forall_mem_nil _
  | entry hspells h ih =>
    obtain ⟨hentry, hmore⟩ := List.forall_mem_cons.1 hentries
    exact List.forall_mem_cons.2 ⟨hspells.comma_notMem hentry, ih hmore⟩
  | nameless hnameless h ih =>
    exact List.forall_mem_cons.2 ⟨hnameless.comma_notMem, ih hentries⟩

/-- A list is read as the entries that its pieces spell. -/
theorem entries_of_written {entries : List OrderEntry} {segments : List Text}
    (h : Written entries segments) (hentries : ∀ entry ∈ entries, entry.IsWritable) :
    Order.entries ([','].intercalate segments) = entries := by
  have hread := h.filterMap_eq hentries
  cases segments with
  -- the empty text has one piece, which is blank
  | nil =>
    rw [← hread]
    rfl
  | cons segment segments =>
    rw [Order.entries, List.splitOn_intercalate ',' (h.comma_notMem hentries)
      (List.cons_ne_nil _ _), hread]

theorem isWritable_of_mem_entries {names : Text} {entry : OrderEntry}
    (h : entry ∈ entries names) : entry.IsWritable := by
  obtain ⟨segment, hsegment, hentry⟩ := List.mem_filterMap.1 h
  exact OrderEntry.isWritable_of_ofSegment? hentry (Text.notMem_of_mem_splitOn hsegment)

theorem entries_render_entries (names : Text) :
    entries (render (entries names)) = entries names :=
  entries_of_written (written_render _) fun _ => isWritable_of_mem_entries

theorem entries_append (s t : Text) : entries (s ++ ',' :: t) = entries s ++ entries t := by
  rw [entries, List.splitOn_append_cons_self, List.filterMap_append]
  rfl

/-! ## Params of a list -/

/-- The params of entries, each with its place as priority. -/
def numbered (entries : List OrderEntry) : List Param :=
  entries.mapIdx fun place entry => ⟨entry.name, .order entry.direction place⟩

end Order

namespace Param

/-- The entry that an ordering param stands for. -/
def orderEntry? : Param → Option OrderEntry
  | ⟨name, .order direction _⟩ => some ⟨direction, name⟩
  | _ => none

/-- An ordering param after a number of others. -/
def orderedAfter (count : Nat) : Param → Param
  | ⟨name, .order direction priority⟩ => ⟨name, .order direction (priority + count)⟩
  | p => p

end Param

namespace Order

/-- The text of ordering params. -/
def renderParams (params : List Param) : Text :=
  render (params.filterMap Param.orderEntry?)

theorem paramsFrom_eq_mapIdx (first : Nat) (entries : List OrderEntry) :
    paramsFrom first entries
      = entries.mapIdx fun place entry => ⟨entry.name, .order entry.direction (place + first)⟩ := by
  induction entries generalizing first with
  | nil => rfl
  | cons entry entries ih =>
    rw [paramsFrom, ih, List.mapIdx_cons, Nat.zero_add]
    simp only [Nat.add_assoc, Nat.add_comm first]

theorem params_eq_numbered (names : Text) : params names = numbered (entries names) :=
  paramsFrom_eq_mapIdx 0 (entries names)

theorem filterMap_orderEntry?_paramsFrom (first : Nat) (entries : List OrderEntry) :
    (paramsFrom first entries).filterMap Param.orderEntry? = entries := by
  induction entries generalizing first with
  | nil => rfl
  | cons entry entries ih =>
    have hentry : Param.orderEntry? ⟨entry.name, .order entry.direction first⟩ = some entry := rfl
    rw [paramsFrom, List.filterMap_cons_some hentry, ih]

theorem renderParams_params (names : Text) :
    renderParams (params names) = render (entries names) := by
  rw [renderParams, params, filterMap_orderEntry?_paramsFrom]

theorem length_paramsFrom (first : Nat) (entries : List OrderEntry) :
    (paramsFrom first entries).length = entries.length := by
  induction entries generalizing first with
  | nil => rfl
  | cons entry entries ih => rw [paramsFrom, List.length_cons, ih, List.length_cons]

theorem map_orderedAfter_paramsFrom (count first : Nat) (entries : List OrderEntry) :
    (paramsFrom first entries).map (Param.orderedAfter count)
      = paramsFrom (first + count) entries := by
  induction entries generalizing first with
  | nil => rfl
  | cons entry entries ih =>
    rw [paramsFrom, paramsFrom, List.map_cons, ih, Nat.add_right_comm]
    rfl

theorem paramsFrom_append (first : Nat) (entries more : List OrderEntry) :
    paramsFrom first (entries ++ more)
      = paramsFrom first entries ++ paramsFrom (first + entries.length) more := by
  induction entries generalizing first with
  | nil => rfl
  | cons entry entries ih =>
    rw [List.cons_append, paramsFrom, paramsFrom, ih, List.length_cons, List.cons_append,
      Nat.add_right_comm, Nat.add_assoc]

theorem params_append (s t : Text) :
    params (s ++ ',' :: t)
      = params s ++ (params t).map (Param.orderedAfter (params s).length) := by
  rw [params, params, params, entries_append, paramsFrom_append, map_orderedAfter_paramsFrom,
    length_paramsFrom]

end Order

/-- Entries that a list can hold, spelled in any way and with pieces without a name anywhere
    between, are read in their order, repeated ones too, with the priorities 0, 1, 2 and so on.
    What any text is read as are such entries, so the params can be written and are read back.
    Two texts with a comma between are read one after the other, the priorities of the second
    being raised by the number of params of the first. -/
theorem Order.params_inverts_rendering :
    (∀ (entries : List OrderEntry) (segments : List Text), Written entries segments →
      (∀ entry ∈ entries, entry.IsWritable) →
      params ([','].intercalate segments) = numbered entries) ∧
    (∀ names : Text,
      (∀ p ∈ params names, ∃ entry, p.orderEntry? = some entry ∧ entry.IsWritable) ∧
      params (renderParams (params names)) = params names) ∧
    ∀ s t : Text,
      params (s ++ ',' :: t)
        = params s ++ (params t).map (Param.orderedAfter (params s).length) := by
  refine ⟨fun entries segments h hentries => ?_, fun names => ⟨fun p hp => ?_, ?_⟩, params_append⟩
  · rw [params_eq_numbered, entries_of_written h hentries]
  · obtain ⟨entry, hentry, place, rfl⟩ := mem_paramsFrom hp
    exact ⟨entry, rfl, isWritable_of_mem_entries hentry⟩
  · rw [renderParams_params, params, entries_render_entries]
    rfl

/-- A list with blanks, pieces without a name, a repeated name, and a name that begins with a
    hyphen. -/
theorem Order.params_of_padded_list :
    let entries : List OrderEntry :=
      [⟨.ascending, ['a']⟩, ⟨.descending, ['-', 'b']⟩, ⟨.ascending, ['a']⟩]
    let segments : List Text :=
      [" a".toList, " ".toList, "-\u2003-b ".toList, "- ".toList, "a".toList]
    Written entries segments ∧ (∀ entry ∈ entries, entry.IsWritable) ∧
      params ([','].intercalate segments)
        = [⟨['a'], .order .ascending 0⟩, ⟨['-', 'b'], .order .descending 1⟩,
           ⟨['a'], .order .ascending 2⟩] := by
  intro entries segments
  have hnil : ∀ c ∈ ([] : Text), Text.isBlank c := List.forall_mem_nil _
  have hspace : ∀ c ∈ [' '], Text.isBlank c := List.forall_mem_singleton.2 rfl
  have hpadded : OrderEntry.Spells ⟨.ascending, ['a']⟩ ([' '] ++ (['a'] ++ [])) :=
    .ascending hspace hnil
  have hhyphens : OrderEntry.Spells ⟨.descending, ['-', 'b']⟩
      ([] ++ '-' :: (['\u2003'] ++ (['-', 'b'] ++ [' ']))) :=
    .descending hnil (List.forall_mem_singleton.2 rfl) hspace
  have hbare : OrderEntry.IsNameless ([] ++ '-' :: [' ']) := .hyphen hnil hspace
  have hwritten : Written entries segments :=
    .entry hpadded (.nameless (.blank hspace) (.entry hhyphens (.nameless hbare
      (.entry (OrderEntry.spells_render ⟨.ascending, ['a']⟩) .nil))))
  have hentries : ∀ entry ∈ entries, entry.IsWritable := by
    have ha : OrderEntry.IsWritable ⟨.ascending, ['a']⟩ :=
      ⟨by decide, by decide, by decide, by decide⟩
    have hb : OrderEntry.IsWritable ⟨.descending, ['-', 'b']⟩ :=
      ⟨by decide, by decide, by decide, by decide⟩
    simp only [entries, List.forall_mem_cons]
    exact ⟨ha, hb, ha, List.forall_mem_nil _⟩
  exact ⟨hwritten, hentries, params_inverts_rendering.1 entries segments hwritten hentries⟩

end FilterQuery
