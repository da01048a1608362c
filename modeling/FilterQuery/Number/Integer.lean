import FilterQuery.Number.Digits

/-!
  FilterQuery.Number.Integer

  Integers of a fixed range, read from decimal text. A sign may stand first, and at least one
  digit must follow. Digits are taken from the left, and the first fault met is the answer: a
  character that is no digit, or a digit that takes the number out of the range.
-/

namespace FilterQuery

/-- Why a text is no integer of a range. -/
inductive IntegerFault where
  | empty
  | badDigit
  | tooLarge
  | tooSmall
deriving DecidableEq

def IntegerFault.message : IntegerFault → Text
  | .empty => "cannot parse integer from empty string".toList
  | .badDigit => "invalid digit found in string".toList
  | .tooLarge => "number too large to fit in target type".toList
  | .tooSmall => "number too small to fit in target type".toList

/-- The integers from `least` to `greatest`. -/
structure IntegerRange where
  least : Int
  greatest : Int

namespace IntegerRange

def signed64 : IntegerRange := ⟨-0x8000000000000000, 0x7fffffffffffffff⟩

def signed32 : IntegerRange := ⟨-0x80000000, 0x7fffffff⟩

def unsigned64 : IntegerRange := ⟨0, 0xffffffffffffffff⟩

def Contains (range : IntegerRange) (n : Int) : Prop :=
  range.least ≤ n ∧ n ≤ range.greatest

instance (range : IntegerRange) (n : Int) : Decidable (range.Contains n) :=
  inferInstanceAs (Decidable (range.least ≤ n ∧ n ≤ range.greatest))

/-- One more digit after a number: ten times it, plus or minus the digit. -/
def extend (range : IntegerRange) (negative : Bool) (n : Int) (digit : Nat) :
    Except IntegerFault Int :=
  let next := if negative then 10 * n - digit else 10 * n + digit
  if range.greatest < next then .error .tooLarge
  else if next < range.least then .error .tooSmall
  else .ok next

def readDigits (range : IntegerRange) (negative : Bool) : Int → Text → Except IntegerFault Int
  | n, [] => .ok n
  | n, c :: rest =>
    match Text.digitValue? c with
    | none => .error .badDigit
    | some digit =>
      match range.extend negative n digit with
      | .error fault => .error fault
      | .ok next => range.readDigits negative next rest

/-- The number that a text of digits after a sign denotes. -/
def readAfterSign (range : IntegerRange) (negative : Bool) (digits : Text) :
    Except IntegerFault Int :=
  -- a sign alone counts as a bad digit
  if digits.isEmpty then .error .badDigit else range.readDigits negative 0 digits

/-- Reads an integer. -/
def read (range : IntegerRange) (t : Text) : Except IntegerFault Int :=
  match t with
  | [] => .error .empty
  | '+' :: digits => range.readAfterSign false digits
  | '-' :: digits =>
    -- without negative numbers there is no minus sign, not even before a zero
    if range.least < 0 then range.readAfterSign true digits else .error .badDigit
  | digits => range.readAfterSign false digits

/-! ## Laws -/

/-- What an extension gives belongs to the range. -/
theorem contains_of_extend {range : IntegerRange} {negative : Bool} {n next : Int} {digit : Nat}
    (h : range.extend negative n digit = .ok next) : range.Contains next := by
  unfold extend at h
  simp only at h
  generalize (if negative then 10 * n - (digit : Int) else 10 * n + digit) = m at h
  split at h
  · simp at h
  · split at h
    · simp at h
    · simp only [Except.ok.injEq] at h
      subst h
      exact ⟨by omega, by omega⟩

theorem contains_of_readDigits {range : IntegerRange} {negative : Bool} :
    ∀ {digits : Text} {n m : Int}, range.Contains n → range.readDigits negative n digits = .ok m →
      range.Contains m
  | [], n, m, hn, h => by
    simp only [readDigits, Except.ok.injEq] at h
    exact h ▸ hn
  | c :: rest, n, m, hn, h => by
    unfold readDigits at h
    split at h
    · simp at h
    · split at h
      · simp at h
      · next hext => exact contains_of_readDigits (contains_of_extend hext) h

theorem contains_of_readAfterSign {range : IntegerRange} {negative : Bool} {digits : Text}
    {n : Int} (hzero : range.Contains 0) (h : range.readAfterSign negative digits = .ok n) :
    range.Contains n := by
  unfold readAfterSign at h
  split at h
  · cases h
  · exact contains_of_readDigits hzero h

/-- What is read belongs to the range, if zero does. -/
theorem contains_of_read {range : IntegerRange} {t : Text} {n : Int} (hzero : range.Contains 0)
    (h : range.read t = .ok n) : range.Contains n := by
  unfold read at h
  split at h
  · cases h
  · exact contains_of_readAfterSign hzero h
  · split at h
    · exact contains_of_readAfterSign hzero h
    · cases h
  · exact contains_of_readAfterSign hzero h

/-! ## Written numbers -/

/-- A natural number with its sign. -/
def withSign (negative : Bool) (n : Nat) : Int :=
  if negative then -n else n

/-- The fault of a number that lies beyond a range. -/
def beyond (negative : Bool) : IntegerFault :=
  if negative then .tooSmall else .tooLarge

section Written

variable {range : IntegerRange} {negative : Bool}

/-- A range with zero has what lies between zero and any of its numbers. -/
theorem contains_withSign_of_le {m n : Nat} (hzero : range.Contains 0)
    (h : range.Contains (withSign negative n)) (hle : m ≤ n) :
    range.Contains (withSign negative m) := by
  unfold Contains withSign at *
  cases negative with
  | false =>
    simp only [Bool.false_eq_true, if_false] at h ⊢
    omega
  | true =>
    simp only [if_true] at h ⊢
    omega

/-- One more digit makes the number that has it. -/
theorem next_withSign (negative : Bool) (n digit : Nat) :
    (if negative then 10 * withSign negative n - (digit : Int)
      else 10 * withSign negative n + digit) = withSign negative (10 * n + digit) := by
  unfold withSign
  cases negative with
  | false =>
    simp only [Bool.false_eq_true, if_false]
    omega
  | true =>
    simp only [if_true]
    omega

theorem extend_withSign {n digit : Nat}
    (h : range.Contains (withSign negative (10 * n + digit))) :
    range.extend negative (withSign negative n) digit
      = .ok (withSign negative (10 * n + digit)) := by
  obtain ⟨hleast, hgreatest⟩ := h
  simp only [extend, next_withSign]
  rw [if_neg (by omega), if_neg (by omega)]

/-- A digit that takes the number out of the range: with a minus sign the number becomes too
    small, and without one too large. -/
theorem extend_beyond (hzero : range.Contains 0) {n digit : Nat}
    (h : ¬range.Contains (withSign negative (10 * n + digit))) :
    range.extend negative (withSign negative n) digit = .error (beyond negative) := by
  obtain ⟨hleast, hgreatest⟩ := hzero
  simp only [extend, next_withSign]
  unfold Contains at h
  cases negative with
  | false =>
    have hnonneg : 0 ≤ withSign false (10 * n + digit) := Int.natCast_nonneg _
    rw [if_pos (by omega)]
    rfl
  | true =>
    have hnonpos : withSign true (10 * n + digit) ≤ 0 :=
      Int.neg_nonpos_of_nonneg (Int.natCast_nonneg _)
    rw [if_neg (by omega), if_pos (by omega)]
    rfl

/-- Digits that denote a number of the range are read up to what follows: on the way there the
    number stays within the range. -/
theorem readDigits_append (negative : Bool) {digits : Text}
    (hdigits : ∀ c ∈ digits, c.isDigit) (hzero : range.Contains 0) (n : Nat)
    (h : range.Contains (withSign negative (Nat.ofDigitChars 10 digits n))) (rest : Text) :
    range.readDigits negative (withSign negative n) (digits ++ rest)
      = range.readDigits negative (withSign negative (Nat.ofDigitChars 10 digits n)) rest := by
  induction digits generalizing n with
  | nil => rfl
  | cons c digits ih =>
    rw [Nat.ofDigitChars_cons] at h ⊢
    have hc : c.isDigit = true := hdigits c List.mem_cons_self
    have hnext : range.Contains (withSign negative (10 * n + (c.toNat - '0'.toNat))) :=
      contains_withSign_of_le hzero h (Text.le_ofDigitChars digits _)
    simp only [List.cons_append, readDigits, Text.digitValue?_of_isDigit hc,
      extend_withSign hnext]
    exact ih (fun d hd => hdigits d (List.mem_cons_of_mem _ hd)) _ h

/-- The same from the start, where nothing has been read. -/
theorem readDigits_zero_append (negative : Bool) {digits : Text}
    (hdigits : ∀ c ∈ digits, c.isDigit) (hzero : range.Contains 0)
    (h : range.Contains (withSign negative (Text.digitsValue digits))) (rest : Text) :
    range.readDigits negative 0 (digits ++ rest)
      = range.readDigits negative (withSign negative (Text.digitsValue digits)) rest := by
  have hstart : withSign negative 0 = 0 := by cases negative <;> rfl
  rw [← hstart]
  exact readDigits_append negative hdigits hzero 0 h rest

/-- Digits of a number of the range denote it. -/
theorem readAfterSign_of_digits {digits : Text} (hne : digits ≠ [])
    (hdigits : ∀ c ∈ digits, c.isDigit) (hzero : range.Contains 0)
    (h : range.Contains (withSign negative (Text.digitsValue digits))) :
    range.readAfterSign negative digits = .ok (withSign negative (Text.digitsValue digits)) := by
  have hread := readDigits_zero_append negative hdigits hzero h []
  rw [List.append_nil] at hread
  rw [readAfterSign, if_neg fun hnil => hne (List.isEmpty_iff.1 hnil), hread]
  rfl

theorem readAfterSign_ofNat (negative : Bool) {n : Nat} (hzero : range.Contains 0)
    (h : range.Contains (withSign negative n)) :
    range.readAfterSign negative (Text.ofNat n) = .ok (withSign negative n) := by
  have hvalue : Text.digitsValue (Text.ofNat n) = n := Text.digitsValue_ofNat n
  have hread := readAfterSign_of_digits (Text.ofNat_ne_nil n)
    (fun c => Text.isDigit_of_mem_ofNat) hzero (hvalue.symm ▸ h)
  rwa [hvalue] at hread

/-- A text that begins with neither sign is read as digits. -/
theorem read_of_noSign {t : Text} (hne : t ≠ []) (hplus : t.head? ≠ some '+')
    (hminus : t.head? ≠ some '-') : range.read t = range.readAfterSign false t := by
  unfold read
  split
  · exact absurd rfl hne
  · exact absurd rfl hplus
  · exact absurd rfl hminus
  · rfl

/-- A written number of the range is read back. -/
theorem read_ofInt {n : Int} (hzero : range.Contains 0) (h : range.Contains n) :
    range.read (Text.ofInt n) = .ok n := by
  cases n with
  | ofNat n =>
    have hdigit : ∀ c, (Text.ofNat n).head? = some c → c.isDigit := fun c hc =>
      Text.isDigit_of_mem_ofNat (List.mem_of_mem_head? hc)
    show range.read (Text.ofNat n) = _
    rw [read_of_noSign (Text.ofNat_ne_nil n) (fun h => absurd (hdigit _ h) (by decide))
      fun h => absurd (hdigit _ h) (by decide)]
    exact readAfterSign_ofNat false hzero h
  | negSucc n =>
    have hleast : range.least < 0 := Int.lt_of_le_of_lt h.1 (Int.negSucc_lt_zero n)
    show (if range.least < 0 then _ else _) = _
    rw [if_pos hleast]
    exact readAfterSign_ofNat true hzero h

end Written

end IntegerRange
end FilterQuery
