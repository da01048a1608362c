import FilterQuery.Proofs.Arguments
import FilterQuery.Proofs.JsonForm

/-!
  FilterQuery.Proofs.OutputLines

  What a run of the command line writes. Each param before the first error gives one line, which
  has no control characters, so the newlines of the output are the ends of its lines; and the
  line of a param determines it. The output of a run therefore says which params were read, under
  a configuration that is known and declares no floating point numbers.

  Main statement: `CommandLine.run_lines`.
-/

namespace FilterQuery

/-! ## Lines -/

/-- Texts without newlines, each ended by one, are known from the whole. -/
theorem Text.terminated_injective {α : Type} {render : α → Text} (hline : ∀ x, '\n' ∉ render x)
    {xs ys : List α} (hinj : ∀ x ∈ xs, ∀ y ∈ ys, render x = render y → x = y)
    (h : xs.flatMap (fun x => render x ++ ['\n']) = ys.flatMap fun y => render y ++ ['\n']) :
    xs = ys := by
  induction xs generalizing ys with
  | nil =>
    cases ys with
    | nil => rfl
    | cons y ys => simp at h
  | cons x xs ih =>
    cases ys with
    | nil => simp at h
    | cons y ys =>
      -- the first newline ends the first line on both sides
      have hsplit := congrArg (splitFirst? '\n') h
      simp only [List.flatMap_cons, List.append_assoc, List.singleton_append] at hsplit
      rw [splitFirst?_append_cons _ _ _ (hline x), splitFirst?_append_cons _ _ _ (hline y),
        Option.some.injEq, Prod.mk.injEq] at hsplit
      obtain ⟨hfirst, hrest⟩ := hsplit
      obtain rfl : x = y := hinj x List.mem_cons_self y List.mem_cons_self hfirst
      rw [ih (fun x' hx y hy => hinj x' (List.mem_cons_of_mem _ hx) y (List.mem_cons_of_mem _ hy))
        hrest]

theorem Param.newline_notMem_line (p : Param) : '\n' ∉ p.toJson.compact :=
  (Json.isControlFree_compact p.toJson).newline_notMem

/-- The lines of well-formed params determine them, if no field has floating point numbers. -/
theorem Param.WellFormed.line_injective {names : ReservedNames} {types : FieldTypes} {p q : Param}
    (hfloat : ∀ name, types.get? name ≠ some .float) (hp : p.WellFormed names types)
    (hq : q.WellFormed names types) (h : p.toJson.compact = q.toJson.compact) : p = q :=
  hp.toJson_injective hfloat hq
    (Json.compact_injective (hp.isExact_toJson hfloat) (hq.isExact_toJson hfloat) h)

/-! ## Runs -/

/-- The params among items. -/
def paramsOf (items : List Item) : List Param :=
  items.filterMap Except.toOption

/-- Params before the end or before an error are the params among the items. -/
theorem paramsOf_of_split {items rest : List Item} {params : List Param}
    (hitems : items = params.map .ok ++ rest) (hrest : rest = [] ∨ ∃ e, rest = [.error e]) :
    paramsOf items = params := by
  have hok : paramsOf (params.map .ok) = params := by
    rw [paramsOf, List.filterMap_map]
    exact List.filterMap_some
  have hnone : paramsOf rest = [] := by
    obtain rfl | ⟨e, rfl⟩ := hrest <;> rfl
  have happend : paramsOf items = paramsOf (params.map .ok) ++ paramsOf rest := by
    rw [hitems]
    exact List.filterMap_append
  rw [happend, hok, hnone, List.append_nil]

theorem endsInError_of_split {items rest : List Item} {params : List Param}
    (hitems : items = params.map .ok ++ rest) (hrest : rest = [] ∨ ∃ e, rest = [.error e]) :
    endsInError items = false ↔ rest = [] := by
  subst hitems
  obtain rfl | ⟨e, rfl⟩ := hrest
  · rw [List.append_nil, endsInError_ok]
    exact iff_of_true rfl rfl
  · rw [endsInError_append_error]
    exact iff_of_false nofun nofun

/-- The items of a query are params, after which it ends or has an error. -/
theorem Reader.items_split (reader : Reader) (types : FieldTypes) (query : Query) :
    ∃ (params : List Param) (rest : List Item),
      reader.items types query = params.map .ok ++ rest ∧
      (rest = [] ∨ ∃ e, rest = [.error e]) := by
  obtain ⟨read, -, -, ⟨-, hitems, -⟩ | ⟨e, -, -, hitems, -⟩⟩ := exists_items reader types query
  · exact ⟨read.flatten, [], by rw [hitems, List.append_nil], .inl rfl⟩
  · exact ⟨read.flatten, [.error e], hitems, .inr ⟨e, rfl⟩⟩

namespace CommandLine

/-- Each param is written on a line of its own, before the lines of the later items. -/
theorem outcomeOf_ok_append (line : Param → Text) (params : List Param) (rest : List Item) :
    outcomeOf line (params.map .ok ++ rest)
      = ⟨params.map line ++ (outcomeOf line rest).lines, (outcomeOf line rest).failure⟩ := by
  induction params with
  | nil => rfl
  | cons p params ih =>
    rw [List.map_cons, List.cons_append, outcomeOf, ih]
    rfl

/-- What is written for params before the end or before an error, and whether that is a
    failure. -/
theorem outcomeOf_split {items rest : List Item} {params : List Param} (line : Param → Text)
    (hitems : items = params.map .ok ++ rest) (hrest : rest = [] ∨ ∃ e, rest = [.error e]) :
    (outcomeOf line items).output = params.flatMap (fun p => line p ++ ['\n']) ∧
      ((outcomeOf line items).exitCode = 0 ↔ rest = []) := by
  have hlines : (outcomeOf line rest).lines = [] := by
    obtain rfl | ⟨e, rfl⟩ := hrest <;> rfl
  rw [hitems, outcomeOf_ok_append, hlines, List.append_nil]
  refine ⟨?_, ?_⟩
  · rw [Outcome.output, List.flatMap_map]
  · obtain rfl | ⟨e, rfl⟩ := hrest <;> simp [Outcome.exitCode, outcomeOf]

/-- A run for programs, under the names that the options leave of the configuration. -/
theorem runWith_eq_outcomeOf (command : CommandLine) (config : Config)
    (hpretty : command.pretty = false) :
    command.runWith config = outcomeOf (fun p => p.toJson.compact)
      (Reader.items
        ⟨CastTable.standard.caster,
          { config.reserved with
            orderBy := command.orderBy.getD config.reserved.orderBy
            limit := command.limit.getD config.reserved.limit
            offset := command.offset.getD config.reserved.offset }⟩
        config.types (.text command.query)) := by
  have hline : command.line = fun p => p.toJson.compact := by
    funext p
    simp [line, hpretty]
  rw [runWith, hline]
  rfl

theorem run_of_loaded {command : CommandLine} {content : Option Text} {config : Config}
    (h : Config.ofFile command.config content = .ok config) :
    command.run content = command.runWith config := by
  rw [run, h]

end CommandLine

/-- For any configuration and query, a run that is not for people writes the JSON text of each
    param before the first error on a line of its own, without control characters, and succeeds if
    there is no error. The params are those of the query under the names of the configuration, in
    whose place the names of the options stand. If the configuration declares no floating point
    numbers, the output says which params were read. All this is so for the configuration that a
    file holds, and for the options that arguments give. -/
theorem CommandLine.run_lines (command : CommandLine) (config : Config)
    (hpretty : command.pretty = false) :
    let names : ReservedNames :=
      { config.reserved with
        orderBy := command.orderBy.getD config.reserved.orderBy
        limit := command.limit.getD config.reserved.limit
        offset := command.offset.getD config.reserved.offset }
    let items (query : Text) : List Item :=
      Reader.items ⟨CastTable.standard.caster, names⟩ config.types (.text query)
    let outcome (query : Text) : Outcome := runWith { command with query } config
    (∀ query, ∃ (params : List Param) (rest : List Item),
      items query = params.map .ok ++ rest ∧ (rest = [] ∨ ∃ e, rest = [.error e]) ∧
      (outcome query).output = params.flatMap (fun p => p.toJson.compact ++ ['\n']) ∧
      (∀ p ∈ params, ∀ c ∈ p.toJson.compact, 0x20 ≤ c.toNat) ∧
      ((outcome query).exitCode = 0 ↔ rest = [])) ∧
    ((∀ name, config.types.get? name ≠ some .float) →
      ∀ query query', (outcome query).output = (outcome query').output →
        paramsOf (items query) = paramsOf (items query')) ∧
    (∀ content, Config.ofFile command.config content = .ok config →
      ∀ query, run { command with query } content = outcome query) ∧
    ∀ path orderBy limit offset query given,
      Gives "--config".toList (some command.config) path →
      Gives "--order-by".toList command.orderBy orderBy →
      Gives "--limit".toList command.limit limit →
      Gives "--offset".toList command.offset offset → GivesQuery query given →
      ofArguments? (path ++ orderBy ++ limit ++ offset ++ given) = some { command with query } := by
  intro names items outcome
  have hwritten (query : Text) :
      outcome query = outcomeOf (fun p => p.toJson.compact) (items query) :=
    runWith_eq_outcomeOf { command with query } config hpretty
  refine ⟨fun query => ?_, fun hfloat query query' hsame => ?_,
    fun content hloaded query => run_of_loaded hloaded,
    fun path orderBy limit offset query given hpath horder hlimit hoffset hquery =>
      ofArguments?_of_gives { command with query } hpretty hpath horder hlimit hoffset hquery⟩
  · obtain ⟨params, rest, hitems, hrest⟩ := Reader.items_split _ config.types (.text query)
    obtain ⟨houtput, hexit⟩ := outcomeOf_split (fun p => p.toJson.compact) hitems hrest
    rw [hwritten query]
    exact ⟨params, rest, hitems, hrest, houtput,
      fun p _ => Json.isControlFree_compact p.toJson, hexit⟩
  · have houtput (query : Text) : (outcome query).output
        = (paramsOf (items query)).flatMap (fun p => p.toJson.compact ++ ['\n']) := by
      obtain ⟨params, rest, hitems, hrest⟩ := Reader.items_split _ config.types (.text query)
      rw [hwritten query, paramsOf_of_split hitems hrest]
      exact (outcomeOf_split _ hitems hrest).1
    have hwf (query : Text) : ∀ p ∈ paramsOf (items query), p.WellFormed names config.types := by
      intro p hp
      obtain ⟨item, hitem, hsome⟩ := List.mem_filterMap.1 hp
      obtain rfl := toOption_eq_some_iff.1 hsome
      obtain ⟨pair, params, -, hread, hmem⟩ := Reader.exists_readPair_of_mem_items hitem
      exact Reader.wellFormed_of_readPair CastTable.sound_standard.caster hread p hmem
    rw [houtput query, houtput query'] at hsame
    exact Text.terminated_injective Param.newline_notMem_line
      (fun p hp q hq h => (hwf query p hp).line_injective hfloat (hwf query' q hq) h) hsame

/-- A run that writes a text with a newline, and the number of results that has a name of its own
    on the command line. Without that option the name is the one of a field, which is not
    declared. -/
theorem CommandLine.run_lines_of_newline :
    let command : CommandLine :=
      { config := "filter.json".toList, limit := some "max".toList, query := [] }
    let content : Option Text := some "\x7b\"types\":\x7b\"note\":\"string\"\x7d\x7d".toList
    let config : Config := { types := Dictionary.ofList [("note".toList, .text)] }
    let query : Text := "note=a\nb&max=5".toList
    let reader : Reader :=
      ⟨CastTable.standard.caster, { config.reserved with limit := "max".toList }⟩
    command.pretty = false ∧ (∀ name, config.types.get? name ≠ some .float) ∧
      Config.ofFile command.config content = .ok config ∧
      ofArguments? ["--config=filter.json".toList, "--limit".toList, "max".toList, query]
        = some { command with query } ∧
      (run { command with query } content).exitCode = 0 ∧
      (runWith { command with limit := none, query } config).exitCode ≠ 0 ∧
      ∀ query', (runWith { command with query } config).output
          = (runWith { command with query := query' } config).output →
        [⟨"note".toList, .equals (.text "a\nb".toList)⟩, ⟨"max".toList, .limit 5⟩]
          = paramsOf (reader.items config.types (.text query')) := by
  intro command content config query reader
  have htokens : JsonToken.tokens "\x7b\"types\":\x7b\"note\":\"string\"\x7d\x7d".toList
      = [.mark '\x7b', .string ⟨.ok "types".toList, none⟩, .mark ':', .mark '\x7b',
        .string ⟨.ok "note".toList, none⟩, .mark ':', .string ⟨.ok "string".toList, none⟩,
        .mark '\x7d', .mark '\x7d'] := by
    iterate 9 refine (JsonToken.tokens_cons rfl rfl).trans (congrArg (List.cons _) ?_)
    exact JsonToken.tokens_nil
  have hloaded : Config.ofFile command.config content = .ok config := by
    simp only [command, content]
    rw [Config.ofFile, Config.ofJson, Config.readWhole, JsonDraft.ofText, htokens]
    rfl
  have hfloat : ∀ name, config.types.get? name ≠ some .float := by
    intro name
    show (Dictionary.empty.insert "note".toList FieldType.text).get? name ≠ some .float
    rw [Dictionary.get?_insert]
    split
    · decide
    · nofun
  have hitems : reader.items config.types (.text query)
      = [.ok ⟨"note".toList, .equals (.text "a\nb".toList)⟩, .ok ⟨"max".toList, .limit 5⟩] := by
    rw [Reader.items_eq_untilError]
    rfl
  have hundeclared : ∃ e, Reader.items ⟨CastTable.standard.caster, config.reserved⟩ config.types
      (.text query) = [.ok ⟨"note".toList, .equals (.text "a\nb".toList)⟩, .error e] := by
    rw [Reader.items_eq_untilError]
    exact ⟨_, rfl⟩
  obtain ⟨hlines, hsame, hrun, hgiven⟩ := run_lines command config rfl
  obtain ⟨hlinesWithout, -⟩ := run_lines { command with limit := none } config rfl
  have hpath : Gives "--config".toList (some command.config) ["--config=filter.json".toList] :=
    .joined "filter.json".toList
  have hmax : Gives "--limit".toList command.limit ["--limit".toList, "max".toList] :=
    .apart (by decide)
  refine ⟨rfl, hfloat, hloaded, ?_, ?_, ?_, fun query' hsameOutput => ?_⟩
  · exact hgiven ["--config=filter.json".toList] [] ["--limit".toList, "max".toList] [] query
      [query] hpath .nothing hmax .nothing (.plain (by decide))
  · obtain ⟨params, rest, hsplit, hrest, -, -, hexit⟩ := hlines query
    rw [hrun content hloaded query]
    exact hexit.2 ((endsInError_of_split (hitems.symm.trans hsplit) hrest).1 rfl)
  · obtain ⟨params, rest, hsplit, hrest, -, -, hexit⟩ := hlinesWithout query
    obtain ⟨e, hundeclared⟩ := hundeclared
    intro hzero
    cases (endsInError_of_split (hundeclared.symm.trans hsplit) hrest).2 (hexit.1 hzero)
  · have hparams : paramsOf (reader.items config.types (.text query))
        = paramsOf (reader.items config.types (.text query')) :=
      hsame hfloat query query' hsameOutput
    rw [← hparams, hitems]
    rfl

end FilterQuery
