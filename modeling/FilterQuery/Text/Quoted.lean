import FilterQuery.Text.Escaping
import FilterQuery.Text.HiddenTable

/-!
  FilterQuery.Text.Quoted

  Quoted texts, as people are shown them: double quotation marks around the text, a backslash
  before a mark or a backslash, and an escape for every character that would not show as
  itself.
-/

namespace FilterQuery
namespace Text

/-- A character that a quoted text writes as its code point: one that shows nothing, or that
    changes how its neighbour shows. Below U+0080 these are the control characters. -/
def isHidden (c : Char) : Bool :=
  let n := c.toNat
  if n < 0x80 then n < 0x20 || n == 0x7f
  else hiddenRanges.any fun (first, last) => first ≤ n && n ≤ last

/-- The escape by code point: `\u`, then lower-case hexadecimal digits in braces. -/
def codePointEscape (c : Char) : Text :=
  '\\' :: 'u' :: '\x7b' :: Nat.toDigits 16 c.toNat ++ ['\x7d']

/-- How a quoted text writes one character. -/
def quoteChar (c : Char) : Text :=
  if c = '"' then ['\\', '"']
  else if c = '\\' then ['\\', '\\']
  else if c = '\n' then ['\\', 'n']
  else if c = '\r' then ['\\', 'r']
  else if c = '\t' then ['\\', 't']
  else if c = '\x00' then ['\\', '0']
  else if isHidden c then codePointEscape c
  else [c]

/-- A text in double quotation marks, with what does not show escaped. -/
def quoted (t : Text) : Text :=
  '"' :: t.flatMap quoteChar ++ ['"']

/-! ## Laws -/

theorem digitChar_injective {m n : Nat} (hm : m < 16) (hn : n < 16)
    (h : Nat.digitChar m = Nat.digitChar n) : m = n := by
  have hall : ∀ i j : Fin 16, Nat.digitChar i = Nat.digitChar j → i = j := by decide
  exact congrArg Fin.val (hall ⟨m, hm⟩ ⟨n, hn⟩ h)

/-- A number from 16 on has the hexadecimal digits of its quotient by 16, and one more. -/
theorem hexDigits_concat {n : Nat} (h : 16 ≤ n) :
    Nat.toDigits 16 n = Nat.toDigits 16 (n / 16) ++ [Nat.digitChar (n % 16)] := by
  rw [Nat.toDigits_eq_if (by decide), if_neg (Nat.not_lt.2 h)]

/-- A single digit is not one more digit after others. -/
theorem digit_ne_hexDigits_concat (c d : Char) (n : Nat) : [c] ≠ Nat.toDigits 16 n ++ [d] := by
  intro h
  have hnil : [] ++ [c] = Nat.toDigits 16 n ++ [d] := h
  exact Nat.toDigits_ne_nil (List.append_inj' hnil rfl).1.symm

theorem hexDigits_injective {m n : Nat} (h : Nat.toDigits 16 m = Nat.toDigits 16 n) : m = n := by
  induction m using Nat.strongRecOn generalizing n with
  | ind m ih =>
    by_cases hm : m < 16 <;> by_cases hn : n < 16
    · rw [Nat.toDigits_of_lt_base hm, Nat.toDigits_of_lt_base hn] at h
      exact digitChar_injective hm hn (List.singleton_inj.1 h)
    · rw [Nat.toDigits_of_lt_base hm, hexDigits_concat (Nat.le_of_not_lt hn)] at h
      exact absurd h (digit_ne_hexDigits_concat _ _ _)
    · rw [Nat.toDigits_of_lt_base hn, hexDigits_concat (Nat.le_of_not_lt hm)] at h
      exact absurd h.symm (digit_ne_hexDigits_concat _ _ _)
    · rw [hexDigits_concat (Nat.le_of_not_lt hm), hexDigits_concat (Nat.le_of_not_lt hn)] at h
      obtain ⟨hquotient, hdigit⟩ := List.append_inj' h rfl
      have hdiv : m / 16 = n / 16 := ih (m / 16) (by omega) hquotient
      have hmod : m % 16 = n % 16 :=
        digitChar_injective (by omega) (by omega) (List.singleton_inj.1 hdigit)
      omega

theorem exists_of_mem_hexDigits {n : Nat} {c : Char} (h : c ∈ Nat.toDigits 16 n) :
    ∃ i : Fin 16, c = Nat.digitChar i := by
  induction n using Nat.strongRecOn with
  | ind n ih =>
    by_cases hn : n < 16
    · rw [Nat.toDigits_of_lt_base hn] at h
      exact ⟨⟨n, hn⟩, List.mem_singleton.1 h⟩
    · rw [hexDigits_concat (Nat.le_of_not_lt hn)] at h
      rcases List.mem_append.1 h with h | h
      · exact ih (n / 16) (by omega) h
      · exact ⟨⟨n % 16, by omega⟩, List.mem_singleton.1 h⟩

theorem brace_notMem_hexDigits (n : Nat) : '\x7d' ∉ Nat.toDigits 16 n := by
  intro h
  obtain ⟨i, hi⟩ := exists_of_mem_hexDigits h
  have hdigit : ∀ i : Fin 16, '\x7d' ≠ Nat.digitChar i := by decide
  exact hdigit i hi

/-- The characters that are escaped by one other character, with that. -/
def shortEscapes : List (Char × Char) :=
  [('"', '"'), ('\\', '\\'), ('\n', 'n'), ('\r', 'r'), ('\t', 't'), ('\x00', '0')]

/-- The three ways in which a character is written. -/
theorem quoteChar_cases (c : Char) :
    (quoteChar c = [c] ∧ c ≠ '"' ∧ c ≠ '\\') ∨
    (∃ e, (c, e) ∈ shortEscapes ∧ quoteChar c = ['\\', e]) ∨
    quoteChar c = codePointEscape c := by
  by_cases hshort : ∃ e, (c, e) ∈ shortEscapes
  · obtain ⟨e, he⟩ := hshort
    refine .inr (.inl ⟨e, he, ?_⟩)
    simp only [shortEscapes, List.mem_cons, Prod.mk.injEq, List.not_mem_nil, or_false] at he
    rcases he with ⟨rfl, rfl⟩ | ⟨rfl, rfl⟩ | ⟨rfl, rfl⟩ | ⟨rfl, rfl⟩ | ⟨rfl, rfl⟩ | ⟨rfl, rfl⟩ <;>
      rfl
  · have hne (d e : Char) (hd : (d, e) ∈ shortEscapes) : c ≠ d := fun heq => hshort ⟨e, heq ▸ hd⟩
    have hquote := hne '"' '"' (by decide)
    have hslash := hne '\\' '\\' (by decide)
    have hrest : quoteChar c = if isHidden c then codePointEscape c else [c] := by
      simp only [quoteChar, hquote, hslash, hne '\n' 'n' (by decide), hne '\r' 'r' (by decide),
        hne '\t' 't' (by decide), hne '\x00' '0' (by decide), if_false]
    rw [hrest]
    split
    · exact .inr (.inr rfl)
    · exact .inl ⟨rfl, hquote, hslash⟩

/-- Quotation for people. The escape by code point ends with its brace, so it can be told from
    what follows. -/
def quoting : Escaping where
  code := quoteChar
  short := shortEscapes
  HasBody _ := True
  body c := '\x7b' :: Nat.toDigits 16 c.toNat ++ ['\x7d']
  cases c := by
    rcases quoteChar_cases c with hplain | hshort | hcode
    · exact .inl hplain
    · exact .inr (.inl hshort)
    · exact .inr (.inr ⟨trivial, hcode⟩)
  short_injective := by decide
  short_ne_body := by decide
  body_append_inj {c d s t} _ _ h := by
    have hdigits : Nat.toDigits 16 c.toNat ++ '\x7d' :: s
        = Nat.toDigits 16 d.toNat ++ '\x7d' :: t := by
      simpa using h
    have hsplit := congrArg (splitFirst? '\x7d') hdigits
    rw [splitFirst?_append_cons _ _ _ (brace_notMem_hexDigits _),
      splitFirst?_append_cons _ _ _ (brace_notMem_hexDigits _), Option.some.injEq,
      Prod.mk.injEq] at hsplit
    exact ⟨Char.toNat_inj.1 (hexDigits_injective hsplit.1), hsplit.2⟩

theorem quoted_append_inj {s t u v : Text} (h : quoted s ++ u = quoted t ++ v) :
    s = t ∧ u = v :=
  quoting.delimited_append_inj h

end Text
end FilterQuery
