import FilterQuery.Text.Basic

/-!
  FilterQuery.Text.Blank

  Blank characters and trimming. Blank is the Unicode property White_Space, so the no-break
  spaces are blank, while the zero-width space and the byte order mark are not.
-/

namespace FilterQuery
namespace Text

/-- White_Space: the 25 characters that trimming removes. -/
def isBlank (c : Char) : Bool :=
  let n := c.toNat
  (0x9 ≤ n && n ≤ 0xd) || n == 0x20 || n == 0x85 || n == 0xa0 || n == 0x1680 ||
    (0x2000 ≤ n && n ≤ 0x200a) || n == 0x2028 || n == 0x2029 || n == 0x202f ||
    n == 0x205f || n == 0x3000

/-- A text from its first character that is not blank. -/
def trimStart (t : Text) : Text :=
  t.dropWhile isBlank

/-- A text up to its last character that is not blank. -/
def trimEnd (t : Text) : Text :=
  (t.reverse.dropWhile isBlank).reverse

/-- A text without the blanks at both of its ends. -/
def trim (t : Text) : Text :=
  trimEnd (trimStart t)

/-! ## Laws -/

/-- Of the characters below U+0080, those above the space are not blank. -/
theorem isBlank_of_bounds {c : Char} (hfirst : 0x20 < c.toNat) (hlast : c.toNat < 0x80) :
    isBlank c = false := by
  simp only [isBlank, Bool.or_eq_false_iff, Bool.and_eq_false_iff, beq_eq_false_iff_ne,
    decide_eq_false_iff_not]
  omega

theorem isBlank_of_isDigit {c : Char} (h : c.isDigit) : isBlank c = false := by
  simp only [Char.isDigit, Bool.and_eq_true, decide_eq_true_eq] at h
  have hfirst : 48 ≤ c.toNat := h.1
  have hlast : c.toNat ≤ 57 := h.2
  exact isBlank_of_bounds (by omega) (by omega)

/-- Leading blanks do not change what trimming the start leaves. -/
theorem trimStart_append (blanks t : Text) (h : ∀ c ∈ blanks, isBlank c) :
    trimStart (blanks ++ t) = trimStart t := by
  induction blanks with
  | nil => rfl
  | cons c blanks ih =>
    have hc : isBlank c := h c List.mem_cons_self
    have hrest : ∀ d ∈ blanks, isBlank d := fun d m => h d (List.mem_cons_of_mem _ m)
    simpa [trimStart, hc] using ih hrest

theorem trimEnd_eq_reverse (t : Text) : trimEnd t = (trimStart t.reverse).reverse := rfl

theorem isBlank_head_trimStart {t : Text} {c : Char} (h : (trimStart t).head? = some c) :
    isBlank c = false := by
  have hnot := List.head?_dropWhile_not isBlank t
  unfold trimStart at h
  rw [h] at hnot
  simpa using hnot

theorem isBlank_getLast_trimEnd {t : Text} {c : Char} (h : (trimEnd t).getLast? = some c) :
    isBlank c = false := by
  rw [trimEnd_eq_reverse, List.getLast?_reverse] at h
  exact isBlank_head_trimStart h

theorem trimStart_eq_self {t : Text} (h : ∀ c, t.head? = some c → isBlank c = false) :
    trimStart t = t := by
  cases t with
  | nil => rfl
  | cons c t => exact List.dropWhile_cons_of_neg (by rw [h c rfl]; exact Bool.false_ne_true)

theorem trimStart_trimStart (t : Text) : t.trimStart.trimStart = t.trimStart :=
  trimStart_eq_self fun _ hc => isBlank_head_trimStart hc

theorem trimEnd_eq_self {t : Text} (h : ∀ c, t.getLast? = some c → isBlank c = false) :
    trimEnd t = t := by
  rw [trimEnd_eq_reverse, trimStart_eq_self, List.reverse_reverse]
  intro c hc
  rw [List.head?_reverse] at hc
  exact h c hc

/-- What trimming the end removes are blanks at the end. -/
theorem exists_append_trimEnd (t : Text) :
    ∃ blanks, t = trimEnd t ++ blanks ∧ ∀ c ∈ blanks, isBlank c := by
  refine ⟨(t.reverse.takeWhile isBlank).reverse, ?_, fun c hc => ?_⟩
  · unfold trimEnd
    rw [← List.reverse_append, List.takeWhile_append_dropWhile, List.reverse_reverse]
  · exact List.all_eq_true.1 List.all_takeWhile c (List.mem_reverse.1 hc)

/-- A trimmed text begins with no blank. -/
theorem isBlank_head_trim {t : Text} {c : Char} (h : (trim t).head? = some c) :
    isBlank c = false := by
  obtain ⟨blanks, hblanks, -⟩ := exists_append_trimEnd (trimStart t)
  apply isBlank_head_trimStart (t := t)
  rw [hblanks, List.head?_append]
  unfold trim at h
  rw [h, Option.some_or]

/-- A trimmed text has no blank at its ends, so trimming it again changes nothing. -/
theorem trim_trim (t : Text) : trim (trim t) = trim t := by
  have hstart : trimStart (trim t) = trim t := trimStart_eq_self fun _ hc => isBlank_head_trim hc
  calc trim (trim t) = trimEnd (trim t) := by rw [trim, hstart]
    _ = trim t := trimEnd_eq_self fun c hc => isBlank_getLast_trimEnd hc

/-- A text without blanks at its ends stays as it is. -/
theorem trim_eq_self {t : Text} (hhead : ∀ c, t.head? = some c → isBlank c = false)
    (hlast : ∀ c, t.getLast? = some c → isBlank c = false) : trim t = t := by
  rw [trim, trimStart_eq_self hhead, trimEnd_eq_self hlast]

/-- Trimming changes exactly the texts with a blank at one of their ends. -/
theorem trim_eq_self_iff {t : Text} :
    trim t = t ↔ (∀ c, t.head? = some c → isBlank c = false) ∧
      ∀ c, t.getLast? = some c → isBlank c = false := by
  refine ⟨fun h => ⟨fun c hc => ?_, fun c hc => ?_⟩, fun h => trim_eq_self h.1 h.2⟩
  · rw [← h] at hc
    exact isBlank_head_trim hc
  · rw [← h] at hc
    exact isBlank_getLast_trimEnd hc

/-- Blanks inside a text that ends in other characters are kept. -/
theorem trim_append {front back : Text}
    (hhead : ∀ c, (front ++ back).head? = some c → isBlank c = false) (hne : back ≠ [])
    (hback : ∀ c ∈ back, isBlank c = false) : trim (front ++ back) = front ++ back := by
  refine trim_eq_self hhead fun c hc => ?_
  rw [List.getLast?_append, List.getLast?_eq_some_getLast hne, Option.some_or] at hc
  cases hc
  exact hback _ (List.getLast_mem hne)

/-- Between two characters that are no blanks everything is kept. -/
theorem trim_enclosed {first last : Char} (hfirst : isBlank first = false)
    (hlast : isBlank last = false) (inner : Text) :
    trim (first :: inner ++ [last]) = first :: inner ++ [last] := by
  refine trim_append (fun c hc => ?_) (List.cons_ne_nil last []) fun c hc => ?_
  · cases hc
    exact hfirst
  · rw [List.mem_singleton.1 hc]
    exact hlast

/-- Blanks around a text do not change what trimming leaves of it. -/
theorem trim_padded {before after : Text} (t : Text) (hbefore : ∀ c ∈ before, isBlank c)
    (hafter : ∀ c ∈ after, isBlank c) : trim (before ++ (t ++ after)) = trim t := by
  have hend : ∀ front : Text, trimEnd (front ++ after) = trimEnd front := by
    intro front
    have hreverse : ∀ c ∈ after.reverse, isBlank c := fun c hc => hafter c (List.mem_reverse.1 hc)
    rw [trimEnd_eq_reverse, List.reverse_append, trimStart_append _ _ hreverse,
      ← trimEnd_eq_reverse]
  rw [trim, trimStart_append before _ hbefore, trimStart, List.dropWhile_append]
  split
  · next hnil =>
    -- nothing but blanks: they are dropped together with those after them
    have hblank : t.dropWhile isBlank = [] := List.isEmpty_iff.1 hnil
    have hall : after.dropWhile isBlank = [] := by
      simpa [trimStart] using trimStart_append after [] hafter
    rw [hall, trim, trimStart, hblank]
  · rw [hend]
    rfl

theorem trim_of_blank {blanks : Text} (h : ∀ c ∈ blanks, isBlank c) : trim blanks = [] := by
  calc trim blanks = trim [] := by simpa using trim_padded [] h (List.forall_mem_nil _)
    _ = [] := rfl

/-- A character that is not blank is kept at the start, with all after it but the blanks at the
    end. -/
theorem trim_cons {c : Char} (hc : isBlank c = false) (t : Text) :
    trim (c :: t) = c :: trimEnd t := by
  have hstart : trimStart (c :: t) = c :: t :=
    trimStart_eq_self fun d hd => by cases hd; exact hc
  have hlast : trimStart [c] = [c] := trimStart_eq_self fun d hd => by cases hd; exact hc
  rw [trim, hstart, trimEnd_eq_reverse, trimEnd_eq_reverse, List.reverse_cons, trimStart,
    List.dropWhile_append]
  split
  · next hnil =>
    have hblank : trimStart t.reverse = [] := List.isEmpty_iff.1 hnil
    rw [hblank]
    exact congrArg List.reverse hlast
  · rw [List.reverse_append]
    rfl

theorem trim_trimEnd (t : Text) : trim (trimEnd t) = trim t := by
  obtain ⟨blanks, hblanks, hall⟩ := exists_append_trimEnd t
  have hpadded := trim_padded (trimEnd t) (List.forall_mem_nil _) hall
  rw [List.nil_append, ← hblanks] at hpadded
  exact hpadded.symm

theorem trim_of_forall {t : Text} (h : ∀ c ∈ t, isBlank c = false) : trim t = t :=
  trim_eq_self (fun c hc => h c (List.mem_of_mem_head? hc))
    fun c hc => h c (List.mem_of_mem_getLast? hc)

/-- Trimming adds no characters. -/
theorem mem_of_mem_trim {t : Text} {c : Char} (h : c ∈ trim t) : c ∈ t := by
  have hstart : c ∈ trimStart t := by
    obtain ⟨blanks, hblanks, -⟩ := exists_append_trimEnd (trimStart t)
    rw [hblanks]
    exact List.mem_append_left _ h
  exact (List.dropWhile_sublist isBlank).mem hstart

end Text
end FilterQuery
