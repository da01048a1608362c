import FilterQuery.CommandLine

/-!
  FilterQuery.Proofs.Arguments

  What the arguments of a command line ask for. An option takes the arguments that give it a value
  and leaves those after it (`readArguments_gives`), so options that are given one after the other
  are all read, and each sets its own part of the command line.

  Main statement: `CommandLine.ofArguments?_of_gives`.
-/

namespace FilterQuery
namespace CommandLine

/-- A word that only an option can be: it is neither a query nor the end of the options, and it
    takes a value. -/
def IsOption (t : Text) : Prop :=
  t.head? = some '-' ∧ 1 < t.length ∧ '=' ∉ t ∧ t ≠ "--".toList ∧ t ≠ "--pretty".toList

instance (t : Text) : Decidable (IsOption t) :=
  inferInstanceAs (Decidable (_ ∧ _ ∧ _ ∧ _ ∧ _))

/-- Arguments that leave an option out, or that give it a value: after an equals sign, or as an
    argument of its own that is no option. -/
inductive Gives (option : Text) : Option Text → List Text → Prop
  | nothing : Gives option none []
  | joined (value : Text) : Gives option (some value) [option ++ '=' :: value]
  | apart {value : Text} (h : value.head? ≠ some '-') :
      Gives option (some value) [option, value]

/-- Arguments that give the query; behind two hyphens it may look like an option. -/
inductive GivesQuery (query : Text) : List Text → Prop
  | plain (h : query.head? ≠ some '-') : GivesQuery query [query]
  | marked : GivesQuery query ["--".toList, query]

/-- An option takes its own arguments, and those after it are read as before. -/
theorem readArguments_gives {option : Text} {value : Option Text} {given : List Text}
    (hoption : IsOption option) (h : Gives option value given) (a : Arguments)
    (rest : List Text) :
    readArguments a (given ++ rest)
      = (value.elim (some a) (a.putOption option)).bind (readArguments · rest) := by
  obtain ⟨hhead, hlength, hequals, hend, hpretty⟩ := hoption
  cases h with
  | nothing => rfl
  | joined value =>
    have hsplit := Text.splitFirst?_append_cons '=' option value hequals
    -- the other words have no equals sign
    have hne (word : Text) (hword : '=' ∉ word) : option ++ '=' :: value ≠ word := by
      rintro rfl
      exact hword (List.mem_append_right _ List.mem_cons_self)
    have hdash : (option ++ '=' :: value).head? = some '-' := by
      rw [List.head?_append, hhead, Option.some_or]
    have hlong : 1 < (option ++ '=' :: value).length := by
      rw [List.length_append]
      omega
    rw [List.singleton_append]
    conv => lhs; unfold readArguments
    rw [if_neg (hne _ (by decide)), if_neg (hne _ (by decide)),
      if_pos (Bool.and_eq_true_iff.2 ⟨decide_eq_true hdash, decide_eq_true hlong⟩), hsplit]
    rfl
  | @apart value hvalue =>
    have hsplit : option.splitFirst? '=' = none := Text.splitFirst?_eq_none_iff.2 hequals
    rw [List.cons_append, List.singleton_append]
    conv => lhs; unfold readArguments
    rw [if_neg hend, if_neg hpretty,
      if_pos (Bool.and_eq_true_iff.2 ⟨decide_eq_true hhead, decide_eq_true hlength⟩), hsplit]
    rfl

theorem readArguments_givesQuery {query : Text} {given : List Text} (h : GivesQuery query given)
    (a : Arguments) : readArguments a given = a.putQuery query := by
  cases h with
  | plain hquery =>
    have hne (word : Text) (hword : word.head? = some '-') : query ≠ word := by
      rintro rfl
      exact hquery hword
    rw [readArguments, if_neg (hne _ rfl), if_neg (hne _ rfl), if_neg (by simp [hquery])]
    cases a.putQuery query <;> rfl
  | marked =>
    rw [readArguments, if_pos rfl]
    simp

/-- Arguments ask for the command line of which they give the parts. -/
theorem ofArguments?_of_gives (command : CommandLine) (hpretty : command.pretty = false)
    {config orderBy limit offset query : List Text}
    (hconfig : Gives "--config".toList (some command.config) config)
    (horder : Gives "--order-by".toList command.orderBy orderBy)
    (hlimit : Gives "--limit".toList command.limit limit)
    (hoffset : Gives "--offset".toList command.offset offset)
    (hquery : GivesQuery command.query query) :
    ofArguments? (config ++ orderBy ++ limit ++ offset ++ query) = some command := by
  obtain ⟨path, order?, limit?, offset?, pretty, q⟩ := command
  obtain rfl : pretty = false := hpretty
  have hread : readArguments {} (config ++ orderBy ++ limit ++ offset ++ query)
      = some ⟨some path, order?, limit?, offset?, false, some q⟩ := by
    simp only [List.append_assoc]
    calc readArguments {} (config ++ (orderBy ++ (limit ++ (offset ++ query))))
        = readArguments ⟨some path, none, none, none, false, none⟩
            (orderBy ++ (limit ++ (offset ++ query))) :=
          readArguments_gives (by decide) hconfig _ _
      _ = readArguments ⟨some path, order?, none, none, false, none⟩
            (limit ++ (offset ++ query)) := by
          rw [readArguments_gives (by decide) horder]
          cases order? <;> rfl
      _ = readArguments ⟨some path, order?, limit?, none, false, none⟩ (offset ++ query) := by
          rw [readArguments_gives (by decide) hlimit]
          cases limit? <;> rfl
      _ = readArguments ⟨some path, order?, limit?, offset?, false, none⟩ query := by
          rw [readArguments_gives (by decide) hoffset]
          cases offset? <;> rfl
      _ = some ⟨some path, order?, limit?, offset?, false, some q⟩ :=
          readArguments_givesQuery hquery _
  rw [ofArguments?, hread]
  rfl

end CommandLine
end FilterQuery
