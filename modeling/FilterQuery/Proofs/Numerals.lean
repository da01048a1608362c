import FilterQuery.Number.Integer
import FilterQuery.Proofs.Results
import Mathlib.Data.List.Induction

/-!
  FilterQuery.Proofs.Numerals

  Numerals of a range of integers: which texts denote an integer of the range, and which fault any
  other text has. Digits are read from the left, and the number so far is the one that the digits
  so far denote, as long as it belongs to the range. So nothing wraps, leading zeros do not matter,
  and a digit too many is met before a bad character that follows it.

  Main statement: `IntegerRange.read_iff`.
-/

namespace FilterQuery
namespace IntegerRange

/-! ## What texts denote -/

/-- A text without the sign that it may begin with, and whether that is a minus sign. Where there
    are no negative numbers there is no minus sign. -/
inductive Signed (range : IntegerRange) : Text → Bool → Text → Prop
  | none {body : Text} (hplus : body.head? ≠ some '+') (hminus : body.head? ≠ some '-') :
      Signed range body false body
  | plus (body : Text) : Signed range ('+' :: body) false body
  | minus (hleast : range.least < 0) (body : Text) : Signed range ('-' :: body) true body

/-- A text denotes an integer of a range if decimal digits and nothing else follow its sign, at
    least one, and their number with the sign belongs to the range. -/
inductive Denotes (range : IntegerRange) (t : Text) : Int → Prop
  | digits {negative : Bool} {digits : Text} (hsigned : range.Signed t negative digits)
      (hne : digits ≠ []) (hdigits : ∀ c ∈ digits, c.isDigit)
      (hrange : range.Contains (withSign negative (Text.digitsValue digits))) :
      Denotes range t (withSign negative (Text.digitsValue digits))

/-- The first fault of what follows a sign. Before it stand digits of a number of the range, so
    the numbers on the way there belong to the range, too. -/
inductive DigitFault (range : IntegerRange) (negative : Bool) (body : Text) : IntegerFault → Prop
  | badDigit {digits rest : Text} {c : Char} (hbody : body = digits ++ c :: rest)
      (hdigits : ∀ d ∈ digits, d.isDigit)
      (hrange : range.Contains (withSign negative (Text.digitsValue digits)))
      (hc : c.isDigit = false) : DigitFault range negative body .badDigit
  | beyond {digits rest : Text} {c : Char} (hbody : body = digits ++ c :: rest)
      (hdigits : ∀ d ∈ digits, d.isDigit)
      (hrange : range.Contains (withSign negative (Text.digitsValue digits)))
      (hc : c.isDigit = true)
      (hbeyond : ¬range.Contains (withSign negative (Text.digitsValue (digits ++ [c])))) :
      DigitFault range negative body (beyond negative)

/-- The first fault of a text from the left. -/
inductive FirstFault (range : IntegerRange) : Text → IntegerFault → Prop
  | empty : FirstFault range [] .empty
  | loneSign {sign : Char} {negative : Bool} (h : range.Signed [sign] negative []) :
      FirstFault range [sign] .badDigit
  | minus (hleast : 0 ≤ range.least) (rest : Text) : FirstFault range ('-' :: rest) .badDigit
  | digits {t body : Text} {negative : Bool} {fault : IntegerFault}
      (hsigned : range.Signed t negative body) (h : range.DigitFault negative body fault) :
      FirstFault range t fault

/-! ## Digits -/

section Digits

variable {range : IntegerRange} {negative : Bool} {body : Text} {fault : IntegerFault}

theorem DigitFault.append (h : range.DigitFault negative body fault) (rest : Text) :
    range.DigitFault negative (body ++ rest) fault := by
  cases h with
  | badDigit hbody hdigits hrange hc =>
    exact .badDigit (by rw [hbody, List.append_assoc, List.cons_append]) hdigits hrange hc
  | beyond hbody hdigits hrange hc hbeyond =>
    exact .beyond (by rw [hbody, List.append_assoc, List.cons_append]) hdigits hrange hc hbeyond

theorem DigitFault.ne_nil (h : range.DigitFault negative body fault) : body ≠ [] := by
  cases h with
  | badDigit hbody | beyond hbody => simp [hbody]

/-- Either a text has digits of a number of the range only, or it has a fault. By induction over
    the text from its end: a further character is at fault only if none before it was. -/
theorem digits_or_digitFault (hzero : range.Contains 0) (negative : Bool) (body : Text) :
    (∀ c ∈ body, c.isDigit) ∧ range.Contains (withSign negative (Text.digitsValue body)) ∨
      ∃ fault, range.DigitFault negative body fault := by
  induction body using List.reverseRecOn with
  | nil =>
    have hnothing : withSign negative (Text.digitsValue []) = 0 := by cases negative <;> rfl
    exact .inl ⟨List.forall_mem_nil _, hnothing ▸ hzero⟩
  | append_singleton digits c ih =>
    rcases ih with ⟨hdigits, hrange⟩ | ⟨fault, hfault⟩
    · by_cases hc : c.isDigit = true
      · by_cases hnext : range.Contains (withSign negative (Text.digitsValue (digits ++ [c])))
        · refine .inl ⟨List.forall_mem_append.2 ⟨hdigits, ?_⟩, hnext⟩
          exact List.forall_mem_singleton.2 hc
        · exact .inr ⟨_, .beyond rfl hdigits hrange hc hnext⟩
      · exact .inr ⟨_, .badDigit rfl hdigits hrange (Bool.not_eq_true _ ▸ hc)⟩
    · exact .inr ⟨fault, hfault.append [c]⟩

/-- Reading stops at the fault. -/
theorem readAfterSign_of_digitFault (hzero : range.Contains 0)
    (h : range.DigitFault negative body fault) :
    range.readAfterSign negative body = .error fault := by
  rw [readAfterSign, if_neg fun hnil => h.ne_nil (List.isEmpty_iff.1 hnil)]
  cases h with
  | badDigit hbody hdigits hrange hc =>
    rw [hbody, readDigits_zero_append negative hdigits hzero hrange]
    simp only [readDigits, Text.digitValue?, hc, Bool.false_eq_true, if_false]
  | beyond hbody hdigits hrange hc hbeyond =>
    rw [Text.digitsValue_append_singleton] at hbeyond
    rw [hbody, readDigits_zero_append negative hdigits hzero hrange]
    simp only [readDigits, Text.digitValue?_of_isDigit hc, extend_beyond hzero hbeyond]

end Digits

/-! ## Texts with a sign -/

variable {range : IntegerRange} {t : Text}

/-- Every text has a sign or none, unless it begins with a minus sign where there is none. -/
theorem signed_or_minus (range : IntegerRange) (t : Text) :
    (∃ negative body, range.Signed t negative body) ∨
      0 ≤ range.least ∧ ∃ rest, t = '-' :: rest := by
  by_cases hplus : t.head? = some '+'
  · obtain ⟨body, rfl⟩ := List.head?_eq_some_iff.1 hplus
    exact .inl ⟨false, body, .plus body⟩
  · by_cases hminus : t.head? = some '-'
    · obtain ⟨body, rfl⟩ := List.head?_eq_some_iff.1 hminus
      by_cases hleast : range.least < 0
      · exact .inl ⟨true, body, .minus hleast body⟩
      · exact .inr ⟨Int.not_lt.1 hleast, body, rfl⟩
    · exact .inl ⟨false, t, .none hplus hminus⟩

theorem read_of_signed {negative : Bool} {body : Text} (h : range.Signed t negative body)
    (hne : t ≠ []) : range.read t = range.readAfterSign negative body := by
  cases h with
  | none hplus hminus => exact read_of_noSign hne hplus hminus
  | plus body => rfl
  | minus hleast body =>
    show (if range.least < 0 then _ else _) = _
    rw [if_pos hleast]

theorem Signed.ne_nil {negative : Bool} {body : Text} (h : range.Signed t negative body)
    (hne : body ≠ []) : t ≠ [] := by
  cases h with
  | none => exact hne
  | plus | minus => exact List.cons_ne_nil _ _

/-- A text denotes an integer of the range or has a fault. -/
theorem denotes_or_firstFault (hzero : range.Contains 0) (t : Text) :
    (∃ n, range.Denotes t n) ∨ ∃ fault, range.FirstFault t fault := by
  rcases signed_or_minus range t with ⟨negative, body, hsigned⟩ | ⟨hleast, rest, rfl⟩
  · by_cases hbody : body = []
    · subst hbody
      right
      cases hsigned with
      | none => exact ⟨_, .empty⟩
      | plus => exact ⟨_, .loneSign (.plus [])⟩
      | minus hleast => exact ⟨_, .loneSign (.minus hleast [])⟩
    · rcases digits_or_digitFault hzero negative body with ⟨hdigits, hrange⟩ | ⟨fault, hfault⟩
      · exact .inl ⟨_, .digits hsigned hbody hdigits hrange⟩
      · exact .inr ⟨fault, .digits hsigned hfault⟩
  · exact .inr ⟨_, .minus hleast rest⟩

theorem read_of_denotes (hzero : range.Contains 0) {n : Int} (h : range.Denotes t n) :
    range.read t = .ok n := by
  cases h with
  | digits hsigned hne hdigits hrange =>
    rw [read_of_signed hsigned (hsigned.ne_nil hne)]
    exact readAfterSign_of_digits hne hdigits hzero hrange

theorem read_of_firstFault (hzero : range.Contains 0) {fault : IntegerFault}
    (h : range.FirstFault t fault) : range.read t = .error fault := by
  cases h with
  | empty => rfl
  | loneSign h =>
    rw [read_of_signed h (List.cons_ne_nil _ _)]
    rfl
  | minus hleast rest =>
    show (if range.least < 0 then _ else _) = _
    rw [if_neg (Int.not_lt.2 hleast)]
  | digits hsigned h =>
    rw [read_of_signed hsigned (hsigned.ne_nil h.ne_nil)]
    exact readAfterSign_of_digitFault hzero h

/-- What a range with zero reads: the integers of the range that texts denote, and of other texts
    the first fault. -/
theorem read_iff (range : IntegerRange) (hzero : range.Contains 0) (t : Text) :
    (∀ n, range.read t = .ok n ↔ range.Denotes t n) ∧
      ∀ fault, range.read t = .error fault ↔ range.FirstFault t fault :=
  ok_and_error_iff (fun _ => read_of_denotes hzero) (fun _ => read_of_firstFault hzero)
    (denotes_or_firstFault hzero t)

end IntegerRange

end FilterQuery
