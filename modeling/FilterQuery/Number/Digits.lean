import FilterQuery.Text.Basic

/-!
  FilterQuery.Number.Digits

  Numbers as texts of decimal digits, and the digits at the start of a text.
-/

namespace FilterQuery
namespace Text

def digitValue? (c : Char) : Option Nat :=
  if c.isDigit then some (c.toNat - '0'.toNat) else none

/-- The longest run of decimal digits that a text starts with, and what follows it. -/
def spanDigits (t : Text) : Text × Text :=
  (t.takeWhile Char.isDigit, t.dropWhile Char.isDigit)

/-- The number that a run of decimal digits denotes. -/
def digitsValue (digits : Text) : Nat :=
  Nat.ofDigitChars 10 digits 0

/-- A natural number in decimal digits, without leading zeros. -/
def ofNat (n : Nat) : Text :=
  Nat.toDigits 10 n

/-- An integer in decimal digits, a minus sign before a negative one. -/
def ofInt : Int → Text
  | .ofNat n => ofNat n
  | .negSucc n => '-' :: ofNat (n + 1)

/-- A natural number in at least `width` decimal digits. -/
def ofNatPadded (width n : Nat) : Text :=
  (ofNat n).leftpad width '0'

/-! ## Laws -/

/-- The digits of a number denote it. -/
theorem digitsValue_ofNat (n : Nat) : digitsValue (ofNat n) = n :=
  Nat.ofDigitChars_toDigits (by decide) (by decide)

theorem digitsValue_append_singleton (digits : Text) (c : Char) :
    digitsValue (digits ++ [c]) = 10 * digitsValue digits + (c.toNat - '0'.toNat) := by
  rw [digitsValue, Nat.ofDigitChars_append, Nat.ofDigitChars_cons, Nat.ofDigitChars_nil]
  rfl

/-- Splitting off the digits loses nothing. -/
theorem spanDigits_append (t : Text) : (spanDigits t).1 ++ (spanDigits t).2 = t :=
  List.takeWhile_append_dropWhile

theorem isDigit_of_mem_ofNat {n : Nat} {c : Char} (h : c ∈ ofNat n) : c.isDigit :=
  Nat.isDigit_of_mem_toDigits (by decide) (by decide) h

theorem mem_ofInt {n : Int} {c : Char} (h : c ∈ ofInt n) : c.isDigit ∨ c = '-' := by
  cases n with
  | ofNat n => exact .inl (isDigit_of_mem_ofNat h)
  | negSucc n =>
    rcases List.mem_cons.1 h with rfl | h
    · exact .inr rfl
    · exact .inl (isDigit_of_mem_ofNat h)

theorem ofNat_ne_nil (n : Nat) : ofNat n ≠ [] :=
  Nat.toDigits_ne_nil

theorem ofInt_ne_nil (n : Int) : ofInt n ≠ [] := by
  cases n with
  | ofNat n => exact ofNat_ne_nil n
  | negSucc n => exact List.cons_ne_nil _ _

theorem ofNat_injective {m n : Nat} (h : ofNat m = ofNat n) : m = n := by
  rw [← digitsValue_ofNat m, h, digitsValue_ofNat]

theorem ofInt_injective {m n : Int} (h : ofInt m = ofInt n) : m = n := by
  -- digits have no minus sign, so the signs agree
  have hsign {m n : Nat} : ofNat m ≠ '-' :: ofNat n := by
    intro h
    have hdigit : '-'.isDigit = true := isDigit_of_mem_ofNat (h ▸ List.mem_cons_self)
    cases hdigit
  cases m with
  | ofNat m =>
    cases n with
    | ofNat n => rw [ofNat_injective h]
    | negSucc n => exact absurd h hsign
  | negSucc m =>
    cases n with
    | ofNat n => exact absurd h.symm hsign
    | negSucc n => rw [Nat.succ.inj (ofNat_injective (List.cons.inj h).2)]

/-- A padded number is its digits after zeros. -/
theorem ofNatPadded_eq (width n : Nat) :
    ofNatPadded width n = List.replicate (width - (ofNat n).length) '0' ++ ofNat n := rfl

theorem isDigit_of_mem_ofNatPadded {width n : Nat} {c : Char} (h : c ∈ ofNatPadded width n) :
    c.isDigit := by
  rw [ofNatPadded_eq] at h
  rcases List.mem_append.1 h with h | h
  · rw [List.eq_of_mem_replicate h]
    rfl
  · exact isDigit_of_mem_ofNat h

/-- Zeros before a number do not change it. -/
theorem digitsValue_ofNatPadded (width n : Nat) : digitsValue (ofNatPadded width n) = n := by
  rw [ofNatPadded_eq, digitsValue, Nat.ofDigitChars_append, Nat.ofDigitChars_replicate_zero,
    Nat.mul_zero]
  exact digitsValue_ofNat n

theorem ofNatPadded_ne_nil (width n : Nat) : ofNatPadded width n ≠ [] := by
  rw [ofNatPadded_eq]
  exact fun h => ofNat_ne_nil n (List.append_eq_nil_iff.1 h).2

/-- A text that begins with a padded number begins with a digit. -/
theorem isDigit_head_ofNatPadded {width n : Nat} {rest : Text} {c : Char}
    (h : (ofNatPadded width n ++ rest).head? = some c) : c.isDigit := by
  cases hdigits : ofNatPadded width n with
  | nil => exact absurd hdigits (ofNatPadded_ne_nil width n)
  | cons d digits =>
    have hd : d ∈ ofNatPadded width n := hdigits ▸ List.mem_cons_self
    rw [hdigits] at h
    cases h
    exact isDigit_of_mem_ofNatPadded hd

/-- A number with at most as many digits as there are places fills them exactly. -/
theorem length_ofNatPadded {width n : Nat} (hwidth : 0 < width) (h : n < Nat.pow 10 width) :
    (ofNatPadded width n).length = width := by
  have hlength : (ofNat n).length ≤ width :=
    (Nat.length_toDigits_le_iff (by decide) hwidth).2 h
  rw [ofNatPadded_eq, List.length_append, List.length_replicate]
  omega

/-- Digits before anything else are the run that a text starts with. -/
theorem spanDigits_of_digits {digits rest : Text} (hdigits : ∀ c ∈ digits, c.isDigit)
    (hrest : ∀ c, rest.head? = some c → c.isDigit = false) :
    spanDigits (digits ++ rest) = (digits, rest) := by
  obtain ⟨htake, hdrop⟩ := takeWhile_append_of_head hdigits hrest
  rw [spanDigits, htake, hdrop]

theorem digitValue?_of_isDigit {c : Char} (h : c.isDigit) :
    digitValue? c = some (c.toNat - '0'.toNat) := by
  rw [digitValue?, if_pos h]

/-- Reading further digits makes a number no smaller. -/
theorem le_ofDigitChars (digits : Text) (init : Nat) : init ≤ Nat.ofDigitChars 10 digits init := by
  induction digits generalizing init with
  | nil => exact Nat.le_refl init
  | cons c digits ih =>
    rw [Nat.ofDigitChars_cons]
    have hrest := ih (10 * init + (c.toNat - '0'.toNat))
    omega

/-- Digits denote a number with no more places. -/
theorem digitsValue_lt {digits : Text} (h : ∀ c ∈ digits, c.isDigit) :
    digitsValue digits < Nat.pow 10 digits.length := by
  have hinit (init : Nat) :
      Nat.ofDigitChars 10 digits init < Nat.pow 10 digits.length * (init + 1) := by
    induction digits generalizing init with
    | nil => simp
    | cons c digits ih =>
      have hc : c.toNat - '0'.toNat < 10 := by
        have hdigit : c.isDigit = true := h c List.mem_cons_self
        simp only [Char.isDigit, Bool.and_eq_true, decide_eq_true_eq] at hdigit
        have hlast : c.toNat ≤ 57 := hdigit.2
        have hzero : '0'.toNat = 48 := rfl
        omega
      have hrest := ih (fun d hd => h d (List.mem_cons_of_mem _ hd))
        (10 * init + (c.toNat - '0'.toNat))
      have hle : Nat.pow 10 digits.length * (10 * init + (c.toNat - '0'.toNat) + 1)
          ≤ Nat.pow 10 digits.length * (10 * (init + 1)) :=
        Nat.mul_le_mul_left _ (by omega)
      have hpow : Nat.pow 10 (digits.length + 1) = Nat.pow 10 digits.length * 10 := rfl
      rw [Nat.ofDigitChars_cons, List.length_cons, hpow, Nat.mul_assoc]
      exact Nat.lt_of_lt_of_le hrest hle
  have hzero := hinit 0
  rwa [Nat.mul_one] at hzero

end Text
end FilterQuery
