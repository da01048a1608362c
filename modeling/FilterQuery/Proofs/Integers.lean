import FilterQuery.Proofs.Failures

/-!
  FilterQuery.Proofs.Integers

  Integers in queries, exactly: the values of integer fields, which have a sign, and the numbers of
  limits and offsets, which have none.

  Main statement: `Reader.integers_exact`.
-/

namespace FilterQuery

/-! ## Integers and counts -/

theorem Cast.integer_iff (raw : Text) :
    (∀ v, integer raw = .ok v
      ↔ ∃ n, IntegerRange.signed64.Denotes raw.trim n ∧ v = .integer n) ∧
    ∀ e, integer raw = .error e
      ↔ ∃ fault, IntegerRange.signed64.FirstFault raw.trim fault ∧ e = .integer raw fault := by
  obtain ⟨hok, herror⟩ := IntegerRange.read_iff .signed64 (by decide) raw.trim
  simp only [← hok, ← herror, integer]
  cases IntegerRange.signed64.read raw.trim with
  | ok n => simp [report, eq_comm]
  | error fault => simp [report, eq_comm]

namespace Reader

theorem readCount_eq_ok_iff {name raw : Text} {n : Nat} :
    readCount name raw = .ok n ↔ IntegerRange.unsigned64.Denotes raw.trim n := by
  rw [← (IntegerRange.read_iff .unsigned64 (by decide) raw.trim).1, readCount]
  cases hread : IntegerRange.unsigned64.read raw.trim with
  | ok m =>
    have hnonneg : 0 ≤ m := (IntegerRange.contains_of_read (by decide) hread).1
    simp only [Except.ok.injEq]
    omega
  | error fault => simp

end Reader

/-- Integers are read exactly. A text is cast to an integer if and only if, trimmed, it denotes one
    of 64 bits with a sign, and a limit or an offset is read if and only if its text denotes one of
    64 bits without. Any other text is an error, and its kind is that of the first fault from the
    left. -/
theorem Reader.integers_exact (reader : Reader) (types : FieldTypes) (raw : Text) :
    (∀ v, Cast.byType .integer raw = .ok v
      ↔ ∃ n, IntegerRange.signed64.Denotes raw.trim n ∧ v = .integer n) ∧
    (∀ e, Cast.byType .integer raw = .error e
      ↔ ∃ fault, IntegerRange.signed64.FirstFault raw.trim fault ∧ e = .integer raw fault) ∧
    ∀ (name : Text) (directive : Directive) (made : Nat → Clause),
      (directive, made) ∈ [(.limit, Clause.limit), (.offset, Clause.offset)] →
      reader.reserved.directive? name = some directive →
      (∀ params, reader.readPair types ⟨name, raw⟩ = .ok params
        ↔ ∃ n : Nat, IntegerRange.unsigned64.Denotes raw.trim n ∧ params = [⟨name, made n⟩]) ∧
      ∀ e, reader.readPair types ⟨name, raw⟩ = .error e
        ↔ ∃ fault, IntegerRange.unsigned64.FirstFault raw.trim fault ∧
            e = .cast name .integer (.integer raw fault) := by
  obtain ⟨hvalues, herrors⟩ := Cast.integer_iff raw
  refine ⟨hvalues, herrors, fun name directive made hmade hdirective => ?_⟩
  have hpair : reader.readPair types ⟨name, raw⟩
      = (readCount name raw).map fun n => [⟨name, made n⟩] := by
    rcases List.mem_cons.1 hmade with h | h
    · cases h
      simp only [readPair, hdirective]
    · cases List.mem_singleton.1 h
      simp only [readPair, hdirective]
  rw [hpair]
  refine ⟨fun params => ?_, fun e => map_eq_error_iff.trans readCount_eq_error_iff⟩
  rw [map_eq_ok_iff]
  exact exists_congr fun n => and_congr readCount_eq_ok_iff eq_comm

/-- The least integer after leading zeros is cast. One more than the greatest limit is too large,
    whatever follows it, and a limit with a minus sign is none, even if it is zero. -/
theorem Reader.integers_exact_of_bounds :
    let beyond : Text := " 18446744073709551616x".toList
    Cast.byType .integer "\u3000-0009223372036854775808".toList
        = .ok (.integer (-9223372036854775808)) ∧
      ReservedNames.directive? {} "limit".toList = some .limit ∧
      Reader.readPair {} Dictionary.empty ⟨"limit".toList, beyond⟩
        = .error (.cast "limit".toList .integer (.integer beyond .tooLarge)) ∧
      Reader.readPair {} Dictionary.empty ⟨"limit".toList, "-0".toList⟩
        = .error (.cast "limit".toList .integer (.integer "-0".toList .badDigit)) := by
  intro beyond
  have hlimit : ReservedNames.directive? {} "limit".toList = some .limit := rfl
  have hmade : (Directive.limit, Clause.limit)
      ∈ [(.limit, Clause.limit), (.offset, Clause.offset)] := .head _
  refine ⟨?_, hlimit, ?_, ?_⟩
  · have hdenotes : IntegerRange.signed64.Denotes "-0009223372036854775808".toList
        (-9223372036854775808) :=
      .digits (.minus (by decide) _) (by decide) (List.all_eq_true.1 rfl) (by decide)
    exact ((integers_exact {} Dictionary.empty _).1 _).2 ⟨_, hdenotes, rfl⟩
  · have hfault : IntegerRange.unsigned64.FirstFault "18446744073709551616x".toList .tooLarge :=
      .digits (.none (by decide) (by decide))
        (@IntegerRange.DigitFault.beyond _ _ _ "1844674407370955161".toList ['x'] '6' rfl
          (List.all_eq_true.1 rfl) (by decide) rfl (by decide))
    exact (((integers_exact {} Dictionary.empty beyond).2.2 _ _ _ hmade hlimit).2 _).2
      ⟨_, hfault, rfl⟩
  · have hfault : IntegerRange.unsigned64.FirstFault "-0".toList .badDigit :=
      .minus (by decide) ['0']
    exact (((integers_exact {} Dictionary.empty "-0".toList).2.2 _ _ _ hmade hlimit).2 _).2
      ⟨_, hfault, rfl⟩

end FilterQuery
