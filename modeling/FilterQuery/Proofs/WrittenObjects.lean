import FilterQuery.Json.Draft
import FilterQuery.Proofs.JsonText

/-!
  FilterQuery.Proofs.WrittenObjects

  Written JSON strings, and objects whose values are strings, are read back. A written string is
  one token, whatever characters it has; the tokens of a written object are its marks and strings
  in turn, from which its draft is built member by member.

  Main statement: `JsonDraft.ofText_compact_ofStrings`.
-/

namespace FilterQuery

/-! ## Strings -/

namespace JsonToken

/-- What a unit of a string stands for, as far as written strings have it: a character itself, or
    the code of a control character. -/
inductive StringUnit.Denotes : StringUnit → Char → Prop
  | char (c : Char) : Denotes (.char c) c
  | code {c : Char} (hc : c.toNat < 0x20) : Denotes (.code c.toNat) c

theorem decodeUnits_cons {unit : StringUnit} {c : Char} (h : unit.Denotes c)
    (fault : Option JsonFault) (units : List StringUnit) :
    decodeUnits fault (unit :: units) = (decodeUnits fault units).map (c :: ·) := by
  cases h with
  | char c => rw [decodeUnits]
  | code hc =>
    have hlow : isLowHalf c.toNat = false := by simp [isLowHalf]; omega
    have hhigh : isHighHalf c.toNat = false := by simp [isHighHalf]; omega
    simp only [decodeUnits.eq_def fault (_ :: _), hlow, hhigh, Char.ofNat_toNat,
      Bool.false_eq_true, if_false]

/-- The four digits of a control character are its code. -/
theorem hexCode?_of_control {n : Nat} (h : n < 0x20) :
    hexCode? ['0', '0', Nat.digitChar (n / 16), Nat.digitChar (n % 16)] = some n := by
  have hall : ∀ n : Fin 0x20,
      hexCode? ['0', '0', Nat.digitChar (n / 16), Nat.digitChar (n % 16)] = some n.val := by decide
  exact hall ⟨n, h⟩

/-- A written character is one unit. -/
theorem scanString_escapeChar (c : Char) (rest : Text) :
    ∃ unit : StringUnit, unit.Denotes c ∧
      scanString (Json.escapeChar c ++ rest)
        = (scanString rest).push unit (Json.escapeChar c).length := by
  rcases Json.escapeChar_cases c with ⟨hc, hquote, hslash, hvisible⟩ | ⟨e, he, hc⟩ | ⟨hcontrol, hc⟩
  · refine ⟨.char c, .char c, ?_⟩
    rw [hc, List.singleton_append, scanString, if_neg hquote, if_neg (by omega)]
    · rfl
    -- the character is no backslash, so it begins no escape
    all_goals
      intros
      exact hslash ‹_›
  · have hshort : ∀ x ∈ Json.shortEscapes, escaped? x.2 = some x.1 ∧ x.2 ≠ 'u' := by decide
    obtain ⟨hescaped, hletter⟩ := hshort _ he
    refine ⟨.char c, .char c, ?_⟩
    rw [hc]
    show scanString ('\\' :: e :: rest) = _
    rw [scanString, hescaped]
    · rfl
    all_goals
      intros
      exact hletter ‹_›
  · refine ⟨.code c.toNat, .code hcontrol, ?_⟩
    rw [hc, Json.codeEscape_of_control hcontrol]
    show scanString ('\\' :: 'u' :: '0' :: '0' :: _ :: _ :: rest) = _
    rw [scanString, hexCode?_of_control hcontrol]
    rfl

/-- A written text up to its closing mark. By induction over the text, one unit for each
    character. -/
theorem scanString_flatMap_escapeChar (t rest : Text) :
    ∃ units, decodeUnits none units = .ok t ∧
      scanString (t.flatMap Json.escapeChar ++ '"' :: rest)
        = ⟨units, (t.flatMap Json.escapeChar).length + 1, none⟩ := by
  induction t with
  | nil => exact ⟨[], rfl, rfl⟩
  | cons c t ih =>
    obtain ⟨units, hdecode, hscan⟩ := ih
    obtain ⟨unit, hunit, hpush⟩ :=
      scanString_escapeChar c (t.flatMap Json.escapeChar ++ '"' :: rest)
    refine ⟨unit :: units, ?_, ?_⟩
    · rw [decodeUnits_cons hunit, hdecode]
      rfl
    · rw [List.flatMap_cons, List.append_assoc, hpush, hscan]
      simp only [StringScan.push, List.length_append]
      congr 1
      omega

/-- The token of a written string. -/
def written (t : Text) : JsonToken :=
  .string ⟨.ok t, none⟩

theorem tokens_writeString (t rest : Text) :
    tokens (Json.writeString t ++ rest) = written t :: tokens rest := by
  have htext : Json.writeString t ++ rest
      = '"' :: (t.flatMap Json.escapeChar ++ '"' :: rest) := by simp [Json.writeString]
  obtain ⟨units, hdecode, hscan⟩ := scanString_flatMap_escapeChar t rest
  have htoken : tokenAt '"' (t.flatMap Json.escapeChar ++ '"' :: rest)
      = (written t, (t.flatMap Json.escapeChar).length + 1) := by
    show stringAfterMark _ = _
    rw [stringAfterMark, hscan, written, ← hdecode]
  have hrest (body : Text) : (body ++ '"' :: rest).drop (body.length + 1) = rest := by simp
  rw [htext, tokens_cons rfl (by rw [htoken]; rfl), htoken, hrest]

theorem tokens_mark {c : Char} (hc : c ∈ ['\x7b', '\x7d', ':', ',']) (rest : Text) :
    tokens (c :: rest) = .mark c :: tokens rest := by
  have htoken : isBlank c = false ∧ tokenAt c rest = (.mark c, 0) := by
    simp only [List.mem_cons, List.not_mem_nil, or_false] at hc
    rcases hc with rfl | rfl | rfl | rfl <;> exact ⟨rfl, rfl⟩
  obtain ⟨hblank, htoken⟩ := htoken
  rw [tokens_cons hblank (by rw [htoken]; rfl), htoken, List.drop_zero]

end JsonToken

/-! ## Objects -/

/-- The object whose members are strings under their names. -/
def Json.ofStrings (members : List (Text × Text)) : Json :=
  .object (members.map fun (name, t) => (name, .string t))

namespace JsonDraft

open JsonToken

/-- A member as it is read back. -/
def writtenMember : Text × Text → JsonString × JsonDraft
  | (name, t) => (⟨.ok name, none⟩, .string ⟨.ok t, none⟩)

/-- A member that is read where a name is expected. -/
theorem run_writtenMember {expected : Expected} (h : expected = .firstName ∨ expected = .name)
    (before : List (JsonString × JsonDraft)) (name t : Text) (rest : List JsonToken) :
    run expected [.object before] (written name :: .mark ':' :: written t :: rest)
      = run .separator [.object (writtenMember (name, t) :: before)] rest := by
  rcases h with rfl | rfl <;> rfl

/-- The members of a written object after those in `before`, up to the closing brace. By induction
    over the members, of which each but the last leads to where a name is expected again. -/
theorem run_compactMembers {expected : Expected} (h : expected = .firstName ∨ expected = .name)
    (before : List (JsonString × JsonDraft)) (member : Text × Text) (more : List (Text × Text))
    (rest : Text) :
    run expected [.object before]
        (tokens (Json.compactMembers ((member :: more).map fun (name, t) => (name, .string t))
          ++ '\x7d' :: rest))
      = (.object (before.reverse ++ (member :: more).map writtenMember) none, tokens rest) := by
  induction more generalizing expected before member with
  | nil =>
    obtain ⟨name, t⟩ := member
    have htokens : tokens (Json.compactMembers [(name, .string t)] ++ '\x7d' :: rest)
        = written name :: .mark ':' :: written t :: .mark '\x7d' :: tokens rest := by
      simp only [Json.compactMembers, Json.compact, List.append_assoc, List.cons_append,
        tokens_writeString]
      rw [tokens_mark (by decide), tokens_writeString, tokens_mark (by decide)]
    rw [List.map_singleton, htokens, run_writtenMember h]
    show (JsonDraft.object (writtenMember (name, t) :: before).reverse none, tokens rest) = _
    rw [List.reverse_cons, List.map_singleton]
  | cons next more ih =>
    obtain ⟨name, t⟩ := member
    have htokens : tokens (Json.compactMembers
          (((name, t) :: next :: more).map fun (name, t) => (name, .string t)) ++ '\x7d' :: rest)
        = written name :: .mark ':' :: written t :: .mark ',' ::
          tokens (Json.compactMembers ((next :: more).map fun (name, t) => (name, .string t))
            ++ '\x7d' :: rest) := by
      simp only [List.map_cons, Json.compactMembers, Json.compact, List.append_assoc,
        List.cons_append, tokens_writeString]
      rw [tokens_mark (by decide), tokens_writeString, tokens_mark (by decide)]
    rw [htokens, run_writtenMember h]
    show run .name [.object (writtenMember (name, t) :: before)] _ = _
    rw [ih (.inr rfl), List.reverse_cons, List.append_assoc, List.singleton_append]
    rfl

/-- A written object of strings is read back with its members in their order. -/
theorem ofText_compact_ofStrings (members : List (Text × Text)) :
    ofText (Json.ofStrings members).compact = (.object (members.map writtenMember) none, []) := by
  have htext : (Json.ofStrings members).compact
      = '\x7b' :: (Json.compactMembers (members.map fun (name, t) => (name, .string t))
          ++ ['\x7d']) := by
    simp [Json.ofStrings, Json.compact]
  rw [ofText, htext, tokens_mark (by decide)]
  show run .firstName [.object []] _ = _
  cases members with
  | nil =>
    rw [List.map_nil, Json.compactMembers, List.nil_append, tokens_mark (by decide), tokens_nil]
    rfl
  | cons member more =>
    rw [run_compactMembers (.inl rfl), tokens_nil, List.reverse_nil, List.nil_append]

end JsonDraft
end FilterQuery
