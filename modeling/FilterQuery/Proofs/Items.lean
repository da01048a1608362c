import FilterQuery.Proofs.QueryParts
import FilterQuery.Reader

/-!
  FilterQuery.Proofs.Items

  What a cursor gives over a whole run. The state of a cursor is the params that are pending,
  the raw pairs that are left and a mark that the run is over; the invariant `Cursor.owed` turns
  these into the list of items still to come. One call of `next` takes the head of that list and
  leaves its tail (`next_owed`), so a run of any length is a walk along it.

  Main statement: `items_until_first_error`.
-/

namespace FilterQuery

/-! ## Results up to the first error -/

/-- The items of a list of results: all params before the first error, then that error. -/
def untilError : List (Except QueryError (List Param)) → List Item
  | [] => []
  | .error e :: _ => [.error e]
  | .ok params :: more => params.map .ok ++ untilError more

/-- Whether the last of a list of items is an error. -/
def endsInError (items : List Item) : Bool :=
  match items.getLast? with
  | some (.error _) => true
  | _ => false

theorem untilError_ok_append (read : List (List Param))
    (rest : List (Except QueryError (List Param))) :
    untilError (read.map .ok ++ rest) = read.flatten.map .ok ++ untilError rest := by
  induction read with
  | nil => rfl
  | cons params read ih =>
    simp only [List.map_cons, List.cons_append, untilError, List.flatten_cons, List.map_append]
    rw [ih, List.append_assoc]

/-- Every list of results is a list of successes, after which it ends or has its first
    error. -/
theorem exists_ok_prefix (results : List (Except QueryError (List Param))) :
    ∃ (read : List (List Param)) (rest : List (Except QueryError (List Param))),
      results = read.map .ok ++ rest ∧ (rest = [] ∨ ∃ e later, rest = .error e :: later) := by
  induction results with
  | nil => exact ⟨[], [], rfl, .inl rfl⟩
  | cons result results ih =>
    cases result with
    | error e => exact ⟨[], _, rfl, .inr ⟨e, results, rfl⟩⟩
    | ok params =>
      obtain ⟨read, rest, hsplit, hrest⟩ := ih
      exact ⟨params :: read, rest, by rw [hsplit]; rfl, hrest⟩

/-- A param up to the first error belongs to one of the results. -/
theorem exists_ok_of_mem_untilError {results : List (Except QueryError (List Param))} {p : Param}
    (h : .ok p ∈ untilError results) : ∃ params, .ok params ∈ results ∧ p ∈ params := by
  induction results with
  | nil => cases h
  | cons result results ih =>
    cases result with
    | error e => cases List.mem_singleton.1 h
    | ok params =>
      rcases List.mem_append.1 h with h | h
      · obtain ⟨q, hq, hp⟩ := List.mem_map.1 h
        cases hp
        exact ⟨params, List.mem_cons_self, hq⟩
      · obtain ⟨later, hlater, hp⟩ := ih h
        exact ⟨later, List.mem_cons_of_mem _ hlater, hp⟩

theorem endsInError_ok (params : List Param) : endsInError (params.map .ok) = false := by
  rw [endsInError, List.getLast?_map]
  cases params.getLast? <;> rfl

theorem endsInError_append_error (items : List Item) (e : QueryError) :
    endsInError (items ++ [.error e]) = true := by
  rw [endsInError, List.getLast?_concat]

/-- Results after an error do not count; else the items of two lists follow each other. -/
theorem untilError_append (xs ys : List (Except QueryError (List Param))) :
    untilError (xs ++ ys)
      = if endsInError (untilError xs) then untilError xs
        else untilError xs ++ untilError ys := by
  obtain ⟨read, rest, rfl, rfl | ⟨e, later, rfl⟩⟩ := exists_ok_prefix xs
  -- without an error the items are all params, so the other list follows
  · have hxs : untilError (read.map .ok ++ []) = read.flatten.map .ok := by
      rw [untilError_ok_append, untilError, List.append_nil]
    rw [hxs, endsInError_ok, List.append_nil, untilError_ok_append]
    rfl
  · have hxs : untilError (read.map .ok ++ .error e :: later)
        = read.flatten.map .ok ++ [.error e] := by
      rw [untilError_ok_append, untilError]
    rw [hxs, endsInError_append_error, if_pos rfl, List.append_assoc, untilError_ok_append]
    rfl

/-! ## One step and whole runs of a cursor -/

namespace Cursor

variable (reader : Reader) (types : FieldTypes)

/-- The items that a cursor still has to give: the pending params, and unless the run is over
    the items of the raw pairs that are left. -/
def owed (cursor : Cursor) : List Item :=
  cursor.pending.map .ok ++
    if cursor.done then [] else untilError (cursor.remaining.map (reader.readRaw types))

/-- The place after a number of calls of `next`. -/
def after : Nat → Cursor → Cursor
  | 0, cursor => cursor
  | n + 1, cursor => after n (cursor.next reader types).2

theorem advance_owed (raws : List (Except QueryError RawPair)) :
    (advance reader types raws).1 = (untilError (raws.map (reader.readRaw types))).head? ∧
      (advance reader types raws).2.owed reader types
        = (untilError (raws.map (reader.readRaw types))).tail := by
  induction raws with
  | nil => exact ⟨rfl, rfl⟩
  | cons raw rest ih =>
    rw [List.map_cons, advance]
    cases reader.readRaw types raw with
    | error e => exact ⟨rfl, rfl⟩
    | ok params =>
      cases params with
      -- no param: the step goes on with the next raw pair
      | nil => exact ih
      | cons p pending => exact ⟨rfl, rfl⟩

/-- One call gives the first of the items that are owed, and leaves the others. -/
theorem next_owed (cursor : Cursor) :
    (cursor.next reader types).1 = (cursor.owed reader types).head? ∧
      (cursor.next reader types).2.owed reader types = (cursor.owed reader types).tail := by
  obtain ⟨pending, remaining, done⟩ := cursor
  cases pending with
  | cons p pending => exact ⟨rfl, rfl⟩
  | nil =>
    -- only now the mark counts: params before an error are given out first
    cases done with
    | true => exact ⟨rfl, rfl⟩
    | false => exact advance_owed reader types remaining

theorem after_owed (n : Nat) (cursor : Cursor) :
    (cursor.after reader types n).owed reader types = (cursor.owed reader types).drop n := by
  induction n generalizing cursor with
  | zero => rfl
  | succ n ih =>
    rw [after, ih, (next_owed reader types cursor).2, List.drop_tail]

/-- The call after `n` others gives the item at place `n`, and nothing past the last one. -/
theorem next_after (n : Nat) (cursor : Cursor) :
    ((cursor.after reader types n).next reader types).1 = (cursor.owed reader types)[n]? := by
  rw [(next_owed reader types _).1, after_owed, List.head?_drop]

/-- Calling until nothing comes gives all that is owed. -/
theorem drain_eq_owed (cursor : Cursor) :
    cursor.drain reader types = cursor.owed reader types := by
  induction cursor using drain.induct reader types with
  | case1 cursor after hnext =>
    have hhead := (next_owed reader types cursor).1
    rw [hnext] at hhead
    rw [drain, hnext, List.head?_eq_none_iff.mp hhead.symm]
  | case2 cursor item after hnext ih =>
    -- the item is the head of what is owed, and the rest is drained from the tail
    obtain ⟨hhead, htail⟩ := next_owed reader types cursor
    rw [hnext] at hhead htail
    obtain ⟨rest, howed⟩ := List.head?_eq_some_iff.mp hhead.symm
    rw [drain, hnext]
    dsimp only
    rw [ih, htail, howed, List.tail_cons]

end Cursor

/-! ## The items of a query -/

namespace Reader

variable (reader : Reader) (types : FieldTypes)

theorem items_eq_untilError (query : Query) :
    reader.items types query = untilError (query.rawPairs.map (reader.readRaw types)) := by
  rw [items, Cursor.drain_eq_owed]
  rfl

theorem collect_ok (params : List Param) : collect (params.map .ok) = .ok params := by
  induction params with
  | nil => rfl
  | cons p params ih =>
    rw [List.map_cons, collect, ih]
    rfl

theorem collect_append_error (params : List Param) (e : QueryError) :
    collect (params.map .ok ++ [.error e]) = .error e := by
  induction params with
  | nil => rfl
  | cons p params ih =>
    rw [List.map_cons, List.cons_append, collect, ih]
    rfl

/-- What a whole query gives: its raw pairs are read one after the other, up to the first that
    is an error. -/
theorem exists_items (reader : Reader) (types : FieldTypes) (query : Query) :
    ∃ (read : List (List Param)) (rest : List (Except QueryError (List Param))),
      query.rawPairs.map (reader.readRaw types) = read.map .ok ++ rest ∧
      ((rest = [] ∧
          reader.items types query = read.flatten.map .ok ∧
          reader.readAll types query = .ok read.flatten) ∨
        ∃ e later, rest = .error e :: later ∧
          reader.items types query = read.flatten.map .ok ++ [.error e] ∧
          reader.readAll types query = .error e) := by
  obtain ⟨read, rest, hsplit, hrest⟩ :=
    exists_ok_prefix (query.rawPairs.map (reader.readRaw types))
  have hitems : reader.items types query = read.flatten.map .ok ++ untilError rest := by
    rw [items_eq_untilError, hsplit, untilError_ok_append]
  refine ⟨read, rest, hsplit, ?_⟩
  obtain rfl | ⟨e, later, rfl⟩ := hrest
  · rw [untilError, List.append_nil] at hitems
    refine .inl ⟨rfl, hitems, ?_⟩
    rw [readAll, hitems, collect_ok]
  · rw [untilError] at hitems
    refine .inr ⟨e, later, rfl, hitems, ?_⟩
    rw [readAll, hitems, collect_append_error]

/-- A query is read as a whole if all of its raw pairs are. -/
theorem exists_read_of_readAll {reader : Reader} {types : FieldTypes} {query : Query}
    {params : List Param} (h : reader.readAll types query = .ok params) :
    ∃ read : List (List Param),
      query.rawPairs.map (reader.readRaw types) = read.map .ok ∧ params = read.flatten := by
  obtain ⟨read, rest, hsplit, ⟨rfl, -, hread⟩ | ⟨e, later, -, -, hread⟩⟩ :=
    exists_items reader types query
  · rw [hread] at h
    cases h
    exact ⟨read, by rw [hsplit, List.append_nil], rfl⟩
  · rw [hread] at h
    cases h

end Reader

/-- The pieces of two texts joined by an ampersand are those of the one, then of the other. -/
theorem Query.rawPairs_append (s t : Text) :
    (Query.text (s ++ '&' :: t)).rawPairs = (Query.text s).rawPairs ++ (Query.text t).rawPairs := by
  simp only [Query.rawPairs, List.splitOn_append_cons_self, List.map_append]

/-- Reading a query gives the params of its raw pairs, each pair taken alone, up to the first
    piece that is no pair or the first pair that cannot be read; then that error; then nothing.
    The raw pairs are those that the parts of the query stand for. Reading the query as a whole
    gives the params if there is no error, else the same error. A text joined to another by an
    ampersand is read after it, unless the other ends in an error. -/
theorem Reader.items_until_first_error (reader : Reader) (types : FieldTypes) :
    (∀ query : Query,
      (∀ n, (((Cursor.start query).after reader types n).next reader types).1
        = (reader.items types query)[n]?) ∧
      List.Forall₂ Query.Part.ReadsAs query.parts query.rawPairs ∧
      ∃ (read : List (List Param)) (rest : List (Except QueryError (List Param))),
        (query.rawPairs.map fun
          | .ok pair => reader.readPair types pair
          | .error e => .error e) = read.map .ok ++ rest ∧
        ((rest = [] ∧
            reader.items types query = read.flatten.map .ok ∧
            reader.readAll types query = .ok read.flatten) ∨
          ∃ e later, rest = .error e :: later ∧
            reader.items types query = read.flatten.map .ok ++ [.error e] ∧
            reader.readAll types query = .error e)) ∧
    ∀ s t : Text,
      reader.items types (.text (s ++ '&' :: t))
        = if endsInError (reader.items types (.text s)) then reader.items types (.text s)
          else reader.items types (.text s) ++ reader.items types (.text t) := by
  refine ⟨fun query => ⟨fun n => ?_, query.forall₂_readsAs_parts, ?_⟩, fun s t => ?_⟩
  · rw [Cursor.next_after, items, Cursor.drain_eq_owed]
  · obtain ⟨read, rest, hsplit, hitems⟩ := exists_items reader types query
    refine ⟨read, rest, ?_, hitems⟩
    rw [← hsplit]
    refine List.map_congr_left fun raw _ => ?_
    cases raw <;> rfl
  · simp only [items_eq_untilError]
    rw [Query.rawPairs_append, List.map_append, untilError_append]

end FilterQuery
